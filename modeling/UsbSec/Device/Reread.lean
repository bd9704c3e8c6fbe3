import Mathlib.Algebra.BigOperators.Ring.List
import Mathlib.Algebra.Ring.Nat
import UsbSec.Device.Outbox
import UsbSec.Device.Tables
import UsbSec.Rp2040.Allocator
import UsbSec.Usb.Configuration

/-!
# Handling a configuration on the master

Each time the master handles a configuration it gives every endpoint a new buffer in the DPRAM, and
asks the slave to open every endpoint. The allocation pointer only grows, and the handler stops
when it passes the end of the DPRAM.
-/

namespace UsbSec.Device

open Library Usb Rp2040

/-! ## Buffers in the DPRAM -/

/-- The DPRAM that an endpoint descriptor asks for. -/
def dpramSize (d : Descriptor) : Nat := (allocSize d.endpoint.maxPacketSize d.endpoint.xfer).toNat

/-- The DPRAM that a configuration asks for. -/
def dpramNeed (config : List Descriptor) : Nat := ((endpointsOf config).map dpramSize).sum

theorem dpramSize_bounds (d : Descriptor) : 64 ∣ dpramSize d ∧ dpramSize d ≤ usbDpramMax := by
  obtain ⟨haligned, -, hbound⟩ := allocSize_bounds (maxPacketSize_le d.endpoint) d.endpoint.xfer
  exact ⟨haligned, hbound⟩

theorem dpramNeed_aligned (config : List Descriptor) : 64 ∣ dpramNeed config := by
  refine List.dvd_sum fun size hsize => ?_
  obtain ⟨d, -, rfl⟩ := List.mem_map.mp hsize
  exact (dpramSize_bounds d).1

/-- What opening an endpoint does to the driver, as far as later openings depend on it. -/
structure Grown (size : Nat) (d e : Dcd) : Prop where
  nextBufferPtr : e.nextBufferPtr = d.nextBufferPtr + size
  setupPacket : e.setupPacket = d.setupPacket

/-- The allocation pointer is in the DPRAM, and buffers begin at multiples of 64. -/
structure InDpram (d : Dcd) : Prop where
  aligned : 64 ∣ d.nextBufferPtr
  bounded : d.nextBufferPtr ≤ usbDpramMax

/-! ## Transfers from the host -/

theorem prepareEpBuffer_receives (role : SpiRole) (bufId : Nat) {c : Channel}
    (hrx : c.ep.rx = true) :
    Program.Outcome (prepareEpBuffer role bufId) c (fun _ d => d.ep.rx = true) fun _ => False := by
  refine .read_bind (.of_eq (Program.bind_ok rfl) ?_)
  have hnot : ¬ c.ep.rx = false := by simp [hrx]
  rw [Program.when_false hnot]
  exact .of_ok rfl hrx

/-- A transfer from the host can always be started. -/
theorem hwEndpointXferStart_receives (buffer : UserBuf) (totalLen : UInt16) {c : Channel}
    (hrx : c.ep.rx = true) :
    Program.Outcome (hwEndpointXferStart .master buffer totalLen) c (fun _ _ => True)
      fun _ => False := by
  refine .read_bind (.bind (P := fun _ d => d.ep.rx = true) ?_ fun _ d hd => ?_)
  · exact .when (fun _ => .of_ok rfl hrx) fun _ => hrx
  refine .of_eq (Program.bind_ok rfl) (.read_bind (.bind (prepareEpBuffer_receives _ _ hd) ?_))
  intro bufCtrl e he
  refine .read_bind (.ite (fun _ => ?_) fun _ => .of_ok rfl trivial)
  exact .bind (prepareEpBuffer_receives _ _ he) fun _ f _ => .of_ok rfl trivial

theorem dcdEdptXferNew_receives {epAddr : UInt8}
    (hnum : (tuEdptNumber epAddr).toNat < usbMaxEndpoints) (buffer : UserBuf)
    (totalBytes : UInt16) {d : Dcd}
    (hrx : (d.hwEndpoints (tuEdptNumber epAddr).toNat (tuEdptDirIn epAddr)).rx = true) :
    Program.Outcome (dcdEdptXferNew epAddr buffer totalBytes) d (fun _ e => Grown 0 d e)
      fun _ => False := by
  have hplace : hwEndpointGetByAddr epAddr d =
      .ok ((tuEdptNumber epAddr).toNat, tuEdptDirIn epAddr) d := Program.require_bind hnum _ _ d
  refine .of_eq (Program.bind_ok hplace) ?_
  exact .onPart (hwEndpointXferStart_receives _ _ hrx) (fun _ _ _ => ⟨rfl, rfl⟩) fun _ => id

/-! ## Handling a configuration -/

/-- What a part of the handler has done, as far as the rest depends on it: it has used `size`
bytes of the DPRAM and handed over `requests`. -/
structure Handled (size : Nat) (requests : List SpiMessage) (s t : Master) : Prop where
  events : t.events = s.events
  aggregator : t.aggregator = s.aggregator
  dcd : Grown size s.dcd t.dcd
  outbox : t.outbox = s.outbox ++ requests

theorem Handled.refl (s : Master) : Handled 0 [] s s :=
  ⟨rfl, rfl, ⟨rfl, rfl⟩, (List.append_nil _).symm⟩

theorem Handled.trans {first second : Nat} {earlier later : List SpiMessage} {s t u : Master}
    (h : Handled first earlier s t) (k : Handled second later t u) :
    Handled (first + second) (earlier ++ later) s u := by
  refine ⟨k.events.trans h.events, k.aggregator.trans h.aggregator, ⟨?_, ?_⟩, ?_⟩
  · rw [k.dcd.nextBufferPtr, h.dcd.nextBufferPtr, Nat.add_assoc]
  · exact k.dcd.setupPacket.trans h.dcd.setupPacket
  · rw [k.outbox, h.outbox, List.append_assoc]

/-- The interface is of a class that has a driver. -/
def HasDriver (itf : InterfaceDescriptor) : Prop :=
  itf.bInterfaceClass = 0x03 ∨ itf.bInterfaceClass = 0x08

instance (itf : InterfaceDescriptor) : Decidable (HasDriver itf) :=
  inferInstanceAs (Decidable (_ ∨ _))

theorem slotOf_lt {epAddr : UInt8} (h : (tuEdptNumber epAddr).toNat < usbMaxEndpoints) :
    slotOf epAddr < driverSlots :=
  forall_byte (fun e => (tuEdptNumber e).toNat < usbMaxEndpoints → slotOf e < driverSlots)
    (by decide +kernel) epAddr h

/-- A driver can be registered for every endpoint of such an interface. -/
theorem registerDriverForEdpt_outcome {edpt : EndpointPointer} {itf : InterfaceDescriptor}
    (hnum : (tuEdptNumber edpt.bEndpointAddress).toNat < usbMaxEndpoints) (hitf : HasDriver itf)
    (newMps : UInt8) {s : Master}
    (hrx : (s.dcd.hwEndpoints (tuEdptNumber edpt.bEndpointAddress).toNat
      (tuEdptDirIn edpt.bEndpointAddress)).rx = !tuEdptDirIn edpt.bEndpointAddress) :
    Program.Outcome (registerDriverForEdpt edpt (some itf) newMps) s (fun _ t => Handled 0 [] s t)
      fun _ => False := by
  have hquiet {t : Master} (hevents : t.events = s.events) (haggregator : t.aggregator = s.aggregator)
      (hdcd : t.dcd = s.dcd) (houtbox : t.outbox = s.outbox) : Handled 0 [] s t := by
    refine ⟨hevents, haggregator, ⟨?_, ?_⟩, houtbox.trans (List.append_nil _).symm⟩
    · rw [hdcd, Nat.add_zero]
    · rw [hdcd]
  refine .of_eq (Program.update_bind _ _ _) (.of_eq (Program.update_bind _ _ _) ?_)
  refine .require_bind (fun _ => ?_) fun hslot => hslot (slotOf_lt hnum)
  refine .of_eq (Program.update_bind _ _ _) ?_
  refine .ite (fun _ => .of_ok rfl (hquiet rfl rfl rfl rfl)) fun hhid => ?_
  refine .ite (fun _ => .of_eq (Program.update_bind _ _ _) (.ite (fun hout => ?_) fun _ => ?_))
    fun hmsc => hitf.elim hhid hmsc
  · have hdir : tuEdptDirIn edpt.bEndpointAddress = false := by simp [tuEdptDirIn, hout]
    rw [hdir] at hrx
    refine .onPart (dcdEdptXferNew_receives hnum _ _ (hdir ▸ hrx)) (fun _ e he => ?_) fun _ => id
    exact ⟨rfl, rfl, he, (List.append_nil _).symm⟩
  · exact .of_ok rfl (hquiet rfl rfl rfl rfl)

/-- The message with which the slave is to open the endpoint of a descriptor. -/
def openRequest (d : Descriptor) : SpiMessage where
  eFlag := MsgType.edptOpen ||| MsgType.debugPrintAsHex
  payload := d.bytes
  payload_lt := Nat.lt_trans d.bounded (by decide)

/-- The messages for the endpoints of a configuration. -/
def openRequests (config : List Descriptor) : List SpiMessage :=
  (endpointsOf config).map openRequest

theorem openMessage_eq {d : Descriptor} {arr : Buffer} {pos : Nat} (h : d.At arr pos) :
    openMessage arr pos = openRequest d := by
  refine SpiMessage.ext rfl ?_
  show arr.bytesAt pos (arr pos).toUInt16.toNat = d.bytes
  rw [UInt8.toNat_toUInt16, h.length]
  exact h

/-- An endpoint is opened when its buffer fits. -/
theorem openEndpoint_outcome {d : Descriptor} {arr : Buffer} {pos interface : Nat}
    (hd : d.At arr pos) (hwhole : d.IsWhole) (hitf : HasDriver (.ofBuffer arr interface))
    {s : Master} (hs : InDpram s.dcd) :
    Program.Outcome (openEndpoint arr pos (some interface)) s
      (fun _ t => s.dcd.nextBufferPtr + dpramSize d ≤ usbDpramMax ∧
        Handled (dpramSize d) [openRequest d] s t)
      (fun _ => ¬ s.dcd.nextBufferPtr + dpramSize d ≤ usbDpramMax) := by
  obtain ⟨haddress, hxfer, hsize⟩ := hd.endpoint hwhole.whole
  have hnum : Numbered (EndpointPointer.bEndpointAddress ⟨arr, pos⟩) := by
    rw [haddress]
    exact ⟨hwhole.positive, Nat.lt_of_le_of_lt hwhole.bounded (by decide)⟩
  have hneed : (allocSize (EndpointPointer.maxPacketSize ⟨arr, pos⟩)
      (EndpointPointer.xfer ⟨arr, pos⟩)).toNat = dpramSize d := by
    rw [hsize, hxfer]
    rfl
  have hinit : Program.Outcome (dcdEdptOpenNew ⟨arr, pos⟩) s.dcd _ _ :=
    hwEndpointInit_outcome _ _ _ (Nat.ne_of_gt hnum.1) hnum.2
  have hroom : RoomFor s.dcd.nextBufferPtr (dpramSize d) ↔
      s.dcd.nextBufferPtr + dpramSize d ≤ usbDpramMax :=
    roomFor_iff hs.aligned hs.bounded (dpramSize_bounds d).1 (dpramSize_bounds d).2
  rw [hneed, hroom] at hinit
  refine .of_eq (Program.update_bind _ _ _) ?_
  unfold Program.Outcome at hinit
  cases hrun : dcdEdptOpenNew ⟨arr, pos⟩ s.dcd with
  | error reason e =>
      rw [hrun] at hinit
      exact .of_error (Program.bind_error (Program.onPart_error hrun)) hinit
  | ok value e =>
      rw [hrun] at hinit
      obtain ⟨hfits, hgrown, hbuffer⟩ := hinit
      refine .of_eq (Program.bind_ok (Program.onPart_ok hrun)) (.read_bind ?_)
      refine .bind ((registerDriverForEdpt_outcome hnum.2 hitf _ hbuffer.rx).mono (fun _ _ => id)
        fun _ => False.elim) fun _ t ht => .of_ok rfl ⟨hfits, ht.events, ht.aggregator, ?_, ?_⟩
      · exact ⟨ht.dcd.nextBufferPtr.trans hgrown.nextBufferPtr,
          ht.dcd.setupPacket.trans hgrown.setupPacket⟩
      · show t.outbox ++ [openMessage arr pos] = _
        rw [ht.outbox, openMessage_eq hd, List.append_nil]

/-- Behind an interface descriptor the interface pointer points to one with a driver. -/
theorem nextInterface_hasDriver {d : Descriptor} {arr : Buffer} {pos : Nat} {itf : Option Nat}
    {inInterface : Bool} (hd : d.At arr pos) (hinterface : d.IsInterface → d.IsSupported)
    (hitf : inInterface = true →
      ∃ interface, itf = some interface ∧ HasDriver (.ofBuffer arr interface)) :
    (inInterface || decide d.IsInterface) = true →
      ∃ interface, nextInterface arr pos itf = some interface ∧
        HasDriver (.ofBuffer arr interface) := by
  intro hin
  unfold nextInterface
  rw [hd.type]
  by_cases hhere : d.IsInterface
  · obtain ⟨hwhole, hclass⟩ := hinterface hhere
    refine ⟨pos, if_pos hhere, ?_⟩
    unfold HasDriver
    show arr (pos + 5) = 0x03 ∨ arr (pos + 5) = 0x08
    rw [hd.byte (i := 5) (by omega)]
    exact hclass
  · rw [if_neg (show ¬ d.bDescriptorType = 0x04 from hhere)]
    exact hitf (by simpa [hhere] using hin)

/-- What handling a configuration has done when it ends, and that it ends when the buffers fit. -/
theorem walk_outcome {config : List Descriptor} {inInterface : Bool}
    (hvalid : ValidFrom inInterface config) {arr : Buffer} {len fuel pos : Nat}
    {itf : Option Nat} (hitf : inInterface = true →
      ∃ interface, itf = some interface ∧ HasDriver (.ofBuffer arr interface))
    (hlaid : arr.bytesAt pos (configurationBytes config).length = configurationBytes config)
    (hlen : pos + (configurationBytes config).length = len) (hfuel : len ≤ pos + fuel)
    {s : Master} (hs : InDpram s.dcd) :
    Program.Outcome (walk arr len fuel pos itf) s
      (fun _ t => s.dcd.nextBufferPtr + dpramNeed config ≤ usbDpramMax ∧
        Handled (dpramNeed config) (openRequests config) s t ∧
        (endpointsOf config = [] → t.dcd = s.dcd))
      (fun _ => ¬ s.dcd.nextBufferPtr + dpramNeed config ≤ usbDpramMax) := by
  induction config generalizing inInterface pos itf fuel s with
  | nil =>
      have hend : ¬ pos < len := by
        simp [configurationBytes] at hlen
        omega
      have hdone : walk arr len fuel pos itf = pure () := by
        cases fuel <;> exact if_neg hend
      rw [hdone]
      exact .pure ⟨hs.bounded, .refl s, fun _ => rfl⟩
  | cons d rest ih =>
      obtain ⟨hd, hrest⟩ := bytesAt_configuration hlaid
      have hbytes : (configurationBytes (d :: rest)).length =
          d.bytes.length + (configurationBytes rest).length := by
        simp [configurationBytes]
      have htwo : 2 ≤ d.bytes.length := by simp
      obtain ⟨fuel, rfl⟩ : ∃ more, fuel = more + 1 := ⟨fuel - 1, by omega⟩
      obtain ⟨hinterface, hendpoint, hvalidRest⟩ := hvalid
      have hitfRest := nextInterface_hasDriver hd hinterface hitf
      have hnext {t : Master} (ht : InDpram t.dcd) : Program.Outcome
          (walk arr len fuel (pos + d.bytes.length) (nextInterface arr pos itf)) t _ _ :=
        ih hvalidRest hitfRest hrest (by omega) (by omega) ht
      unfold walk
      rw [if_pos (by omega)]
      dsimp only
      rw [hd.type, hd.length]
      by_cases hhere : d.IsEndpoint
      · obtain ⟨hin, hwhole⟩ := hendpoint hhere
        obtain ⟨interface, hsome, hdriver⟩ := hitfRest (by simp [hin])
        have hneed : dpramNeed (d :: rest) = dpramSize d + dpramNeed rest := by
          simp [dpramNeed, endpointsOf, hhere]
        have hrequests : openRequests (d :: rest) = [openRequest d] ++ openRequests rest := by
          simp [openRequests, endpointsOf, hhere]
        rw [Program.when_true (show d.bDescriptorType = 0x05 from hhere), hneed, hrequests, hsome]
        rw [hsome] at hnext
        refine .bind ((openEndpoint_outcome hd hwhole hdriver hs).mono (fun _ _ => id) ?_) ?_
        · intro _ hfull
          omega
        · rintro _ t ⟨hfits, hopened⟩
          have hpointer := hopened.dcd.nextBufferPtr
          have ht : InDpram t.dcd := by
            refine ⟨?_, by omega⟩
            rw [hpointer]
            exact Nat.dvd_add hs.aligned (dpramSize_bounds d).1
          refine (hnext ht).mono ?_ fun _ hfull => by omega
          rintro _ u ⟨hall, hhandled, -⟩
          refine ⟨by omega, hopened.trans hhandled, fun hnone => ?_⟩
          simp [endpointsOf, hhere] at hnone
      · have hneed : dpramNeed (d :: rest) = dpramNeed rest := by
          simp [dpramNeed, endpointsOf, hhere]
        have hrequests : openRequests (d :: rest) = openRequests rest := by
          simp [openRequests, endpointsOf, hhere]
        have hendpoints : endpointsOf (d :: rest) = endpointsOf rest := by
          simp [endpointsOf, hhere]
        rw [Program.when_false (show ¬ d.bDescriptorType = 0x05 from hhere), hneed, hrequests,
          hendpoints]
        exact .of_eq (Program.pure_bind _ _ _) (hnext hs)

/-- The master has collected a valid configuration in response to a request for one. -/
structure HoldsConfiguration (config : List Descriptor) (s : Master) : Prop where
  valid : ValidFrom false config
  response : s.collected = configurationBytes config
  request : IsConfigRequest s.events.setup
  live : (ControlRequest.ofBuffer s.dcd.setupPacket).bRequest ≠ 0x5

theorem Handled.holdsConfiguration {config : List Descriptor} {size : Nat}
    {requests : List SpiMessage} {s t : Master} (h : Handled size requests s t)
    (hs : HoldsConfiguration config s) : HoldsConfiguration config t where
  valid := hs.valid
  response := by
    unfold Master.collected
    rw [h.aggregator]
    exact hs.response
  request := h.events ▸ hs.request
  live := h.dcd.setupPacket ▸ hs.live

theorem handleSetupResponse_outcome {config : List Descriptor} {s : Master}
    (hconfig : HoldsConfiguration config s) (hs : InDpram s.dcd) :
    Program.Outcome handleSetupResponse s
      (fun _ t => s.dcd.nextBufferPtr + dpramNeed config ≤ usbDpramMax ∧
        Handled (dpramNeed config) (openRequests config) s t ∧
        (endpointsOf config = [] → t.dcd = s.dcd))
      (fun _ => ¬ s.dcd.nextBufferPtr + dpramNeed config ≤ usbDpramMax) := by
  have hlength : (configurationBytes config).length = s.aggregator.len.toNat := by
    rw [← hconfig.response]
    exact Buffer.length_bytesAt _ _ _
  have hlaid : s.aggregator.bugger.bytesAt 0 (configurationBytes config).length =
      configurationBytes config := by
    rw [hlength]
    exact hconfig.response
  have hdevice : ¬ IsDeviceRequest s.events.setup := by
    rintro ⟨-, hvalue⟩
    exact absurd (hconfig.request.1.symm.trans hvalue) (by decide)
  have hreport : ¬ (s.events.setup.wValue = 0x2200 ∧ s.events.setup.wIndex = 0x01) := by
    rintro ⟨hvalue, -⟩
    exact absurd (hconfig.request.1.symm.trans hvalue) (by decide)
  refine .read_bind (.of_eq (Program.update_bind _ _ _) ?_)
  rw [Program.when_false hdevice, Program.when_true hconfig.request, if_neg hconfig.live]
  have hquiet : handleHidReport s.events.setup = pure () := Program.when_false hreport _
  refine .of_eq (Program.pure_bind _ _ _) ?_
  rw [hquiet]
  refine .bind (walk_outcome hconfig.valid nofun hlaid (by omega) (by omega) hs) fun _ t ht => ?_
  exact .pure ⟨ht.1, ⟨ht.2.1.events, ht.2.1.aggregator, ht.2.1.dcd, ht.2.1.outbox⟩, ht.2.2⟩

/-! ## Handling it again and again -/

/-- Handle the response a number of times. -/
def readTimes : Nat → MasterM Unit
  | 0 => pure ()
  | count + 1 => do
      handleSetupResponse
      readTimes count

/-- The messages that are handed over when a configuration is handled a number of times. -/
def allRequests (config : List Descriptor) (count : Nat) : List SpiMessage :=
  (List.replicate count (openRequests config)).flatten

/-- The configuration can be handled a number of times exactly when all buffers fit together. -/
theorem readTimes_outcome {config : List Descriptor} (count : Nat) {s : Master}
    (hconfig : HoldsConfiguration config s) (hs : InDpram s.dcd) :
    Program.Outcome (readTimes count) s
      (fun _ t => s.dcd.nextBufferPtr + count * dpramNeed config ≤ usbDpramMax ∧
        Handled (count * dpramNeed config) (allRequests config count) s t ∧
        (endpointsOf config = [] → t.dcd = s.dcd))
      (fun _ => ¬ s.dcd.nextBufferPtr + count * dpramNeed config ≤ usbDpramMax) := by
  induction count generalizing s with
  | zero =>
      refine .pure ⟨?_, ?_, fun _ => rfl⟩
      · rw [Nat.zero_mul]
        exact hs.bounded
      · rw [Nat.zero_mul]
        exact .refl s
  | succ count ih =>
      have hsplit : (count + 1) * dpramNeed config = dpramNeed config + count * dpramNeed config :=
        (Nat.succ_mul _ _).trans (Nat.add_comm _ _)
      rw [hsplit]
      refine .bind ((handleSetupResponse_outcome hconfig hs).mono (fun _ _ => id) ?_) ?_
      · intro _ hfull
        omega
      · rintro _ t ⟨hfits, hhandled, hsame⟩
        have hpointer := hhandled.dcd.nextBufferPtr
        have ht : InDpram t.dcd := by
          refine ⟨?_, by omega⟩
          rw [hpointer]
          exact Nat.dvd_add hs.aligned (dpramNeed_aligned config)
        refine (ih (hhandled.holdsConfiguration hconfig) ht).mono ?_ fun _ hfull => by omega
        rintro _ u ⟨hall, hrest, hquiet⟩
        refine ⟨by omega, hhandled.trans hrest, fun hnone => ?_⟩
        exact (hquiet hnone).trans (hsame hnone)

end UsbSec.Device
