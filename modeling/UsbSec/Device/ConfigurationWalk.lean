import UsbSec.Device.DescriptorWalk

/-!
# The walk over a valid configuration

On a valid configuration the walk opens the endpoint descriptors one by one. For each it makes two
calls, and afterwards the slot of the endpoint has the nearest interface descriptor before it, with
the driver of its class, and the hardware endpoint has the packet size of the descriptor.
-/

namespace UsbSec.Device

open Library Usb Rp2040

/-! ## One endpoint -/

/-- The driver for an interface of one of the two classes. -/
def driverOf (itf : InterfaceDescriptor) : DriverType :=
  if itf.bInterfaceClass = 0x03 then .hid
  else if itf.bInterfaceClass = 0x08 then .massStorage
  else .illegal

/-- A registration stores the driver of the class, and the address of a mass-storage IN endpoint. -/
theorem registerDriverForEdpt_stores {edpt : EndpointPointer} {itf : InterfaceDescriptor}
    {newMps : UInt8} {s t : Master}
    (h : registerDriverForEdpt edpt (some itf) newMps s = .ok () t) :
    t.drivers.edptDriver (slotOf edpt.bEndpointAddress) = driverOf itf ∧
      t.drivers.otherEdpt =
        if itf.bInterfaceClass = 0x08 ∧ tuEdptDirIn edpt.bEndpointAddress = true then
          edpt.bEndpointAddress
        else s.drivers.otherEdpt := by
  obtain ⟨_, _, hmps, h⟩ := Program.bind_eq_ok h
  cases hmps
  obtain ⟨_, _, hrecord, h⟩ := Program.bind_eq_ok h
  cases hrecord
  obtain ⟨_, _, hdefined, h⟩ := Program.bind_eq_ok h
  obtain ⟨-, rfl⟩ := Program.require_eq_ok hdefined
  obtain ⟨_, _, hcopy, h⟩ := Program.bind_eq_ok h
  cases hcopy
  unfold driverOf
  split at h
  · rename_i hhid
    cases h
    have hother : ¬ itf.bInterfaceClass = 0x08 := by
      intro hstorage
      exact absurd (hhid.symm.trans hstorage) (by decide)
    rw [if_pos hhid, if_neg fun hboth => hother hboth.1]
    exact ⟨Function.update_self _ _ _, rfl⟩
  · rename_i hhid
    split at h
    · rename_i hstorage
      rw [if_neg hhid, if_pos hstorage]
      obtain ⟨_, _, hdriver, h⟩ := Program.bind_eq_ok h
      cases hdriver
      split at h
      · rename_i hout
        obtain ⟨e, -, rfl⟩ := Program.onPart_eq_ok h
        rw [if_neg fun hboth => by simp [tuEdptDirIn, hout] at hboth]
        exact ⟨Function.update_self _ _ _, rfl⟩
      · rename_i hin
        cases h
        rw [if_pos ⟨hstorage, by simpa [tuEdptDirIn] using hin⟩]
        exact ⟨Function.update_self _ _ _, rfl⟩
    · cases h

/-- The address of an endpoint descriptor. -/
def addressIn (d : Descriptor) : UInt8 := d.endpoint.bEndpointAddress

/-- The calls with which an endpoint is opened and registered under an interface descriptor. -/
def openCalls (pair : Descriptor × Descriptor) : List Call :=
  [.edptOpen (addressIn pair.2) pair.2.endpoint.maxPacketSize pair.2.endpoint.xfer,
    .registerDriver (addressIn pair.2) pair.2.endpoint.maxPacketSize pair.1.interface]

/-- The endpoint is an IN endpoint under a mass-storage interface. -/
def IsStorageIn (pair : Descriptor × Descriptor) : Prop :=
  pair.1.interface.bInterfaceClass = 0x08 ∧ tuEdptDirIn (addressIn pair.2) = true

instance (pair : Descriptor × Descriptor) : Decidable (IsStorageIn pair) :=
  inferInstanceAs (Decidable (_ ∧ _))

/-- The address of the last mass-storage IN endpoint, `start` if there is none. -/
def lastStorageIn (start : UInt8) (pairs : List (Descriptor × Descriptor)) : UInt8 :=
  pairs.foldl (fun last pair => if IsStorageIn pair then addressIn pair.2 else last) start

/-- The endpoint is set up as its descriptor says, for the interface before it. -/
structure PairSetUp (itf d : Descriptor) (t : Master) : Prop where
  itfCopy : t.drivers.itfCopy (slotOf (addressIn d)) = itf.interface
  edptDriver : t.drivers.edptDriver (slotOf (addressIn d)) = driverOf itf.interface
  shape : ∃ buffer, (t.hwEndpoint (addressIn d)).shape =
    openedShape (tuEdptNumber (addressIn d)).toNat (tuEdptDirIn (addressIn d)) buffer
      d.endpoint.maxPacketSize

/-- The endpoints of a list of pairs were opened, and no others. -/
structure OpensAll (pairs : List (Descriptor × Descriptor)) (s t : Master) : Prop where
  calls : t.calls = s.calls ++ pairs.flatMap openCalls
  each : ∀ itf d, (itf, d) ∈ pairs → PairSetUp itf d t
  otherSlots : ∀ slot, (∀ pair ∈ pairs, slotOf (addressIn pair.2) ≠ slot) →
    t.drivers.itfCopy slot = s.drivers.itfCopy slot ∧
      t.drivers.edptDriver slot = s.drivers.edptDriver slot
  otherShapes : ∀ epAddr, (∀ pair ∈ pairs, addressIn pair.2 ≠ epAddr) →
    (t.hwEndpoint epAddr).shape = (s.hwEndpoint epAddr).shape
  otherEdpt : t.drivers.otherEdpt = lastStorageIn s.drivers.otherEdpt pairs

theorem OpensAll.nil (s : Master) : OpensAll [] s s where
  calls := (List.append_nil _).symm
  each _ _ hmem := absurd hmem List.not_mem_nil
  otherSlots _ _ := ⟨rfl, rfl⟩
  otherShapes _ _ := rfl
  otherEdpt := rfl

/-- An endpoint that is opened first stays as it is while endpoints of other addresses are. -/
theorem OpensAll.cons {pair : Descriptor × Descriptor} {rest : List (Descriptor × Descriptor)}
    {s t u : Master} (hfirst : OpensAll [pair] s t) (hrest : OpensAll rest t u)
    (hnumber : ∀ other ∈ pair :: rest, (tuEdptNumber (addressIn other.2)).toNat < usbMaxEndpoints)
    (hdistinct : addressIn pair.2 ∉ rest.map fun other => addressIn other.2) :
    OpensAll (pair :: rest) s u := by
  have hother : ∀ other ∈ rest, addressIn other.2 ≠ addressIn pair.2 := by
    intro other hmem hsame
    exact hdistinct (List.mem_map.mpr ⟨other, hmem, hsame⟩)
  have hslots : ∀ other ∈ rest, slotOf (addressIn other.2) ≠ slotOf (addressIn pair.2) := by
    intro other hmem hsame
    refine hother other hmem (eq_of_slotOf_eq ?_ ?_ hsame)
    · exact hnumber pair List.mem_cons_self
    · exact hnumber other (List.mem_cons_of_mem _ hmem)
  constructor
  case calls =>
    rw [hrest.calls, hfirst.calls, List.append_assoc]
    simp
  case each =>
    intro itf d hmem
    rcases List.mem_cons.mp hmem with hhere | hlater
    · -- The pair was set up first, and the later ones have other slots and addresses.
      subst hhere
      have hset := hfirst.each itf d List.mem_cons_self
      have hsame := hrest.otherSlots _ hslots
      obtain ⟨buffer, hshape⟩ := hset.shape
      refine ⟨hsame.1.trans hset.itfCopy, hsame.2.trans hset.edptDriver, buffer, ?_⟩
      exact (hrest.otherShapes _ hother).trans hshape
    · exact hrest.each itf d hlater
  case otherSlots =>
    intro slot hslot
    have htail := hrest.otherSlots slot fun other hmem => hslot other (List.mem_cons_of_mem _ hmem)
    have hhead := hfirst.otherSlots slot fun other hmem => by
      rw [List.mem_singleton.mp hmem]
      exact hslot pair List.mem_cons_self
    exact ⟨htail.1.trans hhead.1, htail.2.trans hhead.2⟩
  case otherShapes =>
    intro epAddr haddr
    have htail := hrest.otherShapes epAddr fun other hmem =>
      haddr other (List.mem_cons_of_mem _ hmem)
    have hhead := hfirst.otherShapes epAddr fun other hmem => by
      rw [List.mem_singleton.mp hmem]
      exact haddr pair List.mem_cons_self
    exact htail.trans hhead
  case otherEdpt =>
    rw [hrest.otherEdpt, hfirst.otherEdpt]
    rfl

/-- What opening the endpoint at `pos` does, in terms of the descriptors that lie there. -/
theorem openEndpoint_opensAll {arr : Buffer} {pos interface : Nat} {itf d : Descriptor}
    (hd : d.At arr pos) (hwhole : d.IsWhole) (hitf : itf.At arr interface)
    (hsupported : itf.IsSupported) {s t : Master}
    (h : openEndpoint arr pos (some interface) s = .ok () t) : OpensAll [(itf, d)] s t := by
  obtain ⟨haddress, hxfer, hsize⟩ := hd.endpoint hwhole.whole
  have hinterface := hitf.interface hsupported.whole
  obtain ⟨_, hsome, hopened⟩ := openEndpoint_ok h
  cases hsome
  have hstores : t.drivers.edptDriver (slotOf (addressIn d)) = driverOf itf.interface ∧
      t.drivers.otherEdpt =
        if IsStorageIn (itf, d) then addressIn d else s.drivers.otherEdpt := by
    obtain ⟨_, _, hrecord, hrest⟩ := Program.bind_eq_ok h
    cases hrecord
    obtain ⟨_, _, hopen, hrest⟩ := Program.bind_eq_ok hrest
    obtain ⟨e, -, rfl⟩ := Program.onPart_eq_ok hopen
    obtain ⟨_, _, hread, hrest⟩ := Program.bind_eq_ok hrest
    cases hread
    obtain ⟨_, _, hregister, hsend⟩ := Program.bind_eq_ok hrest
    cases hsend
    have hstored := registerDriverForEdpt_stores hregister
    rw [haddress, hinterface] at hstored
    exact hstored
  have hentry : registrationAt arr pos interface =
      ⟨addressIn d, d.endpoint.maxPacketSize, itf.interface⟩ := by
    unfold registrationAt
    rw [haddress, hsize, hinterface]
    rfl
  rw [hentry, hxfer] at hopened
  constructor
  case calls => exact hopened.calls
  case each =>
    intro above here hmem
    cases List.mem_singleton.mp hmem
    refine ⟨?_, hstores.1, hopened.opened hwhole.positive⟩
    rw [hopened.itfCopy]
    exact Function.update_self _ _ _
  case otherSlots =>
    intro slot hslot
    have hne : slot ≠ slotOf (addressIn d) := fun h => hslot _ List.mem_cons_self h.symm
    obtain ⟨driver, -, hedptDriver⟩ := hopened.edptDriver
    rw [hopened.itfCopy, hedptDriver]
    exact ⟨Function.update_of_ne hne _ _, Function.update_of_ne hne _ _⟩
  case otherShapes =>
    intro epAddr haddr
    exact hopened.other epAddr fun h => haddr _ List.mem_cons_self h.symm
  case otherEdpt => exact hstores.2

/-! ## The walk -/

/-- The interface pointer points to the interface descriptor that was met last. -/
def PointsTo (arr : Buffer) (itf : Option Nat) (above : Option Descriptor) : Prop :=
  ∀ interface, itf = some interface → ∃ d, above = some d ∧ d.At arr interface ∧ d.IsSupported

theorem nextInterface_pointsTo {d : Descriptor} {arr : Buffer} {pos : Nat} {itf : Option Nat}
    {above : Option Descriptor} (hd : d.At arr pos) (hinterface : d.IsInterface → d.IsSupported)
    (hitf : PointsTo arr itf above) :
    PointsTo arr (nextInterface arr pos itf) (if d.IsInterface then some d else above) := by
  intro interface hsome
  unfold nextInterface at hsome
  rw [hd.type] at hsome
  by_cases hhere : d.IsInterface
  · rw [if_pos (show d.bDescriptorType = 0x04 from hhere)] at hsome
    rw [if_pos hhere]
    cases hsome
    exact ⟨d, rfl, hd, hinterface hhere⟩
  · rw [if_neg (show ¬ d.bDescriptorType = 0x04 from hhere)] at hsome
    rw [if_neg hhere]
    exact hitf interface hsome

/-- A walk over a valid configuration with distinct endpoint addresses that ends has opened its
endpoints, each for the nearest interface before it. The induction follows the descriptors. -/
theorem walk_opensAll {config : List Descriptor} {inInterface : Bool}
    (hvalid : ValidFrom inInterface config)
    (hdistinct : ((endpointsOf config).map addressIn).Nodup) {arr : Buffer} {len fuel pos : Nat}
    {itf : Option Nat} {above : Option Descriptor} (habove : inInterface = true → above.isSome)
    (hitf : PointsTo arr itf above)
    (hlaid : arr.bytesAt pos (configurationBytes config).length = configurationBytes config)
    (hlen : pos + (configurationBytes config).length = len) {s t : Master}
    (hrun : walk arr len fuel pos itf s = .ok () t) : OpensAll (pairsFrom above config) s t := by
  induction config generalizing inInterface pos itf above fuel s with
  | nil =>
      have hend : ¬ pos < len := by
        simp [configurationBytes] at hlen
        omega
      have hdone : walk arr len fuel pos itf = pure () := by
        cases fuel <;> exact if_neg hend
      rw [hdone] at hrun
      cases hrun
      exact .nil t
  | cons d rest ih =>
      obtain ⟨hd, hrest⟩ := bytesAt_configuration hlaid
      have hbytes : (configurationBytes (d :: rest)).length =
          d.bytes.length + (configurationBytes rest).length := by
        simp [configurationBytes]
      have htwo : 2 ≤ d.bytes.length := by simp
      obtain ⟨hinterface, hendpoint, hvalidRest⟩ := hvalid
      have hpoints := nextInterface_pointsTo hd hinterface hitf
      cases fuel with
      | zero =>
          rw [walk, if_pos (by omega)] at hrun
          cases hrun
      | succ fuel =>
          unfold walk at hrun
          rw [if_pos (by omega)] at hrun
          obtain ⟨_, middle, hhere, hwalk⟩ := Program.bind_eq_ok hrun
          rw [hd.length] at hwalk
          rw [hd.type] at hhere
          by_cases hkind : d.IsEndpoint
          · -- An endpoint is no interface, so what was met last stays the same.
            obtain ⟨hin, hwhole⟩ := hendpoint hkind
            have hnot : ¬ d.IsInterface := not_isInterface_of_isEndpoint hkind
            rw [if_neg hnot] at hpoints
            obtain ⟨itfDescriptor, rfl⟩ := Option.isSome_iff_exists.mp (habove hin)
            rw [Program.when_true (show d.bDescriptorType = 0x05 from hkind)] at hhere
            obtain ⟨interface, hsome, -⟩ := openEndpoint_ok hhere
            obtain ⟨_, hsame, hat, hsupported⟩ := hpoints interface hsome
            cases hsame
            rw [hsome] at hhere
            have hfirst := openEndpoint_opensAll hd hwhole hat hsupported hhere
            have hendpoints : endpointsOf (d :: rest) = d :: endpointsOf rest := by
              simp [endpointsOf, hkind]
            rw [hendpoints, List.map_cons, List.nodup_cons] at hdistinct
            have hlater : OpensAll (pairsFrom (some itfDescriptor) rest) middle t :=
              ih hvalidRest hdistinct.2 (fun _ => rfl) hpoints hrest (by omega) hwalk
            have hpairs : pairsFrom (some itfDescriptor) (d :: rest) =
                (itfDescriptor, d) :: pairsFrom (some itfDescriptor) rest := by
              simp [pairsFrom, hkind]
            have hlist := hvalidRest.pairsFrom_endpoints (some itfDescriptor) fun _ => rfl
            rw [hpairs]
            refine hfirst.cons hlater (fun other hmem => ?_) ?_
            · have hwholeOther : other.2.IsWhole := by
                rcases List.mem_cons.mp hmem with rfl | hin'
                · exact hwhole
                · refine hvalidRest.whole _ ?_
                  rw [← hlist]
                  exact List.mem_map_of_mem hin'
              exact Nat.lt_of_le_of_lt hwholeOther.bounded (by decide)
            · intro hmem
              refine hdistinct.1 ?_
              rw [← hlist, List.map_map]
              exact hmem
          · rw [Program.when_false (show ¬ d.bDescriptorType = 0x05 from hkind)] at hhere
            cases hhere
            have hendpoints : endpointsOf (d :: rest) = endpointsOf rest := by
              simp [endpointsOf, hkind]
            have hpairs : pairsFrom above (d :: rest) =
                pairsFrom (if d.IsInterface then some d else above) rest := by
              simp [pairsFrom, hkind]
            rw [hendpoints] at hdistinct
            rw [hpairs]
            refine ih hvalidRest hdistinct ?_ hpoints hrest (by omega) hwalk
            intro hin
            by_cases hkindItf : d.IsInterface
            · simp [hkindItf]
            · rw [if_neg hkindItf]
              exact habove (by simpa [hkindItf] using hin)

end UsbSec.Device
