import Mathlib.Data.List.Nodup
import UsbSec.Device.ReadConfiguration
import UsbSec.Device.StorageHandlers

/-!
# Several mass-storage interfaces

The mass-storage driver keeps one address to read from, one permission and one counter for all
mass-storage interfaces of a device. This module takes any configuration and any order of the
events on its mass-storage endpoints, and says exactly when an event is answered for its own
interface and leaves the other interfaces alone.
-/

namespace UsbSec.Device

open Library Usb Rp2040

/-! ## The mass-storage interfaces of a configuration -/

/-- The mass-storage interfaces, each with its endpoint descriptors. -/
def storageInterfacesOf (config : List Descriptor) : List (Descriptor × List Descriptor) :=
  (interfacesOf config).filter fun interface => interface.1.interface.bInterfaceClass = 0x08

/-- The mass-storage IN endpoints, in the order in which they are registered. -/
def storageInsOf (config : List Descriptor) : List Descriptor :=
  ((storageInterfacesOf config).flatMap Prod.snd).filter fun d => tuEdptDirIn (addressIn d)

/-- The endpoint belongs to the interface. -/
def Owns (interface : Descriptor × List Descriptor) (edpt : UInt8) : Prop :=
  ∃ d ∈ interface.2, addressIn d = edpt

instance (interface : Descriptor × List Descriptor) (edpt : UInt8) :
    Decidable (Owns interface edpt) := inferInstanceAs (Decidable (∃ _ ∈ _, _))

theorem lastStorageIn_eq (start : UInt8) (pairs : List (Descriptor × Descriptor)) :
    lastStorageIn start pairs = ((pairs.filter fun pair => IsStorageIn pair).getLast?.map
      fun pair => addressIn pair.2).getD start := by
  induction pairs using List.reverseRecOn with
  | nil => rfl
  | append_singleton rest pair ih =>
      unfold lastStorageIn at ih ⊢
      rw [List.foldl_append, List.filter_append]
      by_cases hstorage : IsStorageIn pair
      · simp [hstorage]
      · simp [hstorage, ih]

theorem storageIns_pairs (interfaces : List (Descriptor × List Descriptor)) :
    ((interfaces.flatMap pairsOf).filter fun pair => IsStorageIn pair).map Prod.snd =
      ((interfaces.filter fun interface =>
        interface.1.interface.bInterfaceClass = 0x08).flatMap Prod.snd).filter
          fun d => tuEdptDirIn (addressIn d) := by
  induction interfaces with
  | nil => rfl
  | cons interface rest ih =>
      have hhere : ((pairsOf interface).filter fun pair => IsStorageIn pair).map Prod.snd =
          if interface.1.interface.bInterfaceClass = 0x08 then
            interface.2.filter fun d => tuEdptDirIn (addressIn d)
          else [] := by
        unfold pairsOf IsStorageIn
        by_cases hclass : interface.1.interface.bInterfaceClass = 0x08
        · simp [List.filter_map, Function.comp_def, hclass]
        · simp [List.filter_map, Function.comp_def, hclass]
      rw [List.flatMap_cons, List.filter_append, List.map_append, hhere, ih, List.filter_cons]
      by_cases hclass : interface.1.interface.bInterfaceClass = 0x08
      · simp [hclass]
      · simp [hclass]

/-- The walk leaves the address of the last mass-storage IN endpoint. -/
theorem lastStorageIn_config (start : UInt8) (config : List Descriptor) :
    lastStorageIn start (pairsFrom none config) =
      ((storageInsOf config).getLast?.map addressIn).getD start := by
  have hpairs : ((pairsFrom none config).filter fun pair => IsStorageIn pair).map Prod.snd =
      storageInsOf config := by
    rw [pairsFrom_eq]
    exact storageIns_pairs _
  rw [lastStorageIn_eq, ← hpairs, List.getLast?_map, Option.map_map]
  rfl

theorem mem_pairs_of_interface {config : List Descriptor} {interface : Descriptor × List Descriptor}
    {d : Descriptor} (hmem : interface ∈ storageInterfacesOf config) (hd : d ∈ interface.2) :
    (interface.1, d) ∈ pairsFrom none config := by
  rw [pairsFrom_eq]
  refine List.mem_append_right _ (List.mem_flatMap.mpr ⟨interface, ?_, ?_⟩)
  · exact (List.mem_filter.mp hmem).1
  · exact List.mem_map.mpr ⟨d, hd, rfl⟩

/-! ## Events of the drivers -/

/-- What happens to the drivers: a message of the slave for an endpoint, a transfer with the host
that completes, or something else that core 0 does, which leaves the statics of `drivers.c`
alone. -/
inductive DriverEvent where
  | message (packet : SlavePacket) (edpt : UInt8)
  | complete (edpt : UInt8) (xferredBytes : UInt16)
  | elsewhere (change : Master → Master)

/-- The program that runs at an event. -/
def DriverEvent.handler : DriverEvent → MasterM Unit
  | .message packet edpt => handleSpiSlaveEventWithDriver packet edpt
  | .complete edpt xferredBytes => handleDeviceXferCompleteWithDriver edpt xferredBytes
  | .elsewhere change => Program.update fun s => { change s with drivers := s.drivers }

/-- The master after an event, also when it stops. -/
def Master.afterEvent (s : Master) (event : DriverEvent) : Master := Program.final (event.handler s)

/-- One event. A master that stops takes no further one. -/
def driverStep (s : Master) (event : DriverEvent) : Option Master :=
  match event.handler s with
  | .ok _ t => some t
  | .error _ _ => none

theorem driverStep_eq_some {s t : Master} {event : DriverEvent} (h : driverStep s event = some t) :
    t = s.afterEvent event := by
  unfold driverStep at h
  unfold Master.afterEvent
  split at h
  · rename_i value u hrun
    cases h
    rw [hrun]
    rfl
  · cases h

/-- The event is on an endpoint of a mass-storage interface, or elsewhere. -/
def OnStorage (config : List Descriptor) : DriverEvent → Prop
  | .message _ edpt => ∃ interface ∈ storageInterfacesOf config, Owns interface edpt
  | .complete edpt _ => ∃ interface ∈ storageInterfacesOf config, Owns interface edpt
  | .elsewhere _ => True

instance (config : List Descriptor) : ∀ event, Decidable (OnStorage config event)
  | .message _ _ => inferInstanceAs (Decidable (∃ _ ∈ _, _))
  | .complete _ _ => inferInstanceAs (Decidable (∃ _ ∈ _, _))
  | .elsewhere _ => isTrue trivial

/-- An IN transfer of `xferredBytes` bytes that completes on the endpoint requests the next read. -/
def RequestsRead (s : Master) (edpt : UInt8) (xferredBytes : UInt16) : Prop :=
  (s.afterEvent (.complete edpt xferredBytes)).outbox = s.outbox ++ [mscRead edpt]

/-- An event on the endpoint leaves it to every other mass-storage interface whether its IN
completions request the next read. -/
def LeavesOthers (config : List Descriptor) (edpt : UInt8) (s t : Master) : Prop :=
  ∀ interface ∈ storageInterfacesOf config, ¬ Owns interface edpt → ∀ d ∈ interface.2,
    tuEdptDirIn (addressIn d) = true →
      ∀ xferredBytes, RequestsRead s (addressIn d) xferredBytes ↔
        RequestsRead t (addressIn d) xferredBytes

/-- The one message that the event hands over asks for a read from an IN endpoint of the
interface. -/
def ReadsFrom (interface : Descriptor × List Descriptor) (s t : Master) : Prop :=
  ∃ d ∈ interface.2, tuEdptDirIn (addressIn d) = true ∧
    ∃ len, t.outbox = s.outbox ++ [knock (addressIn d) len]

/-- Mass-storage interfaces do not interfere at the event: the read after an OUT completion is from
the same interface, and the event leaves the others alone. -/
def KeepsApart (config : List Descriptor) (s : Master) (event : DriverEvent) : Prop :=
  match event with
  | .message _ edpt =>
      (tuEdptDirIn edpt = false → ∀ interface ∈ storageInterfacesOf config, Owns interface edpt →
        ReadsFrom interface s (s.afterEvent event)) ∧
      LeavesOthers config edpt s (s.afterEvent event)
  | .complete edpt _ => LeavesOthers config edpt s (s.afterEvent event)
  | .elsewhere _ => True

/-! ## When interfaces are kept apart -/

/-- The interface has the mass-storage IN endpoint that is registered last. -/
def HasLastIn (config : List Descriptor) (interface : Descriptor × List Descriptor) : Prop :=
  ∃ d ∈ interface.2, (storageInsOf config).getLast? = some d

instance (config : List Descriptor) (interface : Descriptor × List Descriptor) :
    Decidable (HasLastIn config interface) := inferInstanceAs (Decidable (∃ _ ∈ _, _))

/-- Another mass-storage interface than the one of the endpoint has an IN endpoint. -/
def OthersRead (config : List Descriptor) (edpt : UInt8) : Prop :=
  ∃ interface ∈ storageInterfacesOf config, ¬ Owns interface edpt ∧
    ∃ d ∈ interface.2, tuEdptDirIn (addressIn d) = true

instance (config : List Descriptor) (edpt : UInt8) : Decidable (OthersRead config edpt) :=
  inferInstanceAs (Decidable (∃ _ ∈ _, _ ∧ ∃ _ ∈ _, _))

/-- An event that keeps the interfaces apart: a message for an OUT endpoint is for the interface
with the IN endpoint registered last; and where another interface reads, a message for an IN
endpoint comes only while reads are permitted and counted, and an OUT transfer completes only while
they are not permitted. -/
def MeetsApart (config : List Descriptor) (s : Master) : DriverEvent → Prop
  | .message _ edpt =>
      if tuEdptDirIn edpt = true then
        OthersRead config edpt → s.drivers.permit0x81 = true ∧ 0 < s.drivers.count0x81
      else ∀ interface ∈ storageInterfacesOf config, Owns interface edpt → HasLastIn config interface
  | .complete edpt _ =>
      tuEdptDirIn edpt = false → OthersRead config edpt → s.drivers.permit0x81 = false
  | .elsewhere _ => True

instance (config : List Descriptor) (s : Master) :
    ∀ event, Decidable (MeetsApart config s event)
  | .message _ edpt => by
      unfold MeetsApart
      infer_instance
  | .complete edpt _ => by
      unfold MeetsApart
      infer_instance
  | .elsewhere _ => isTrue trivial

/-- The mass-storage endpoints are registered as the walk over the configuration leaves them. -/
structure StorageReady (config : List Descriptor) (s : Master) : Prop where
  driver : ∀ interface ∈ storageInterfacesOf config, ∀ d ∈ interface.2,
    s.drivers.edptDriver (slotOf (addressIn d)) = .massStorage
  itf : ∀ interface ∈ storageInterfacesOf config, ∀ d ∈ interface.2,
    ¬ IsKeyboard (s.drivers.itfCopy (slotOf (addressIn d)))
  number : ∀ interface ∈ storageInterfacesOf config, ∀ d ∈ interface.2,
    (tuEdptNumber (addressIn d)).toNat < usbMaxEndpoints
  readsFrom : ∀ interface ∈ storageInterfacesOf config,
    (∃ d ∈ interface.2, tuEdptDirIn (addressIn d) = true ∧ addressIn d = s.drivers.otherEdpt) ↔
      HasLastIn config interface

theorem OpensAll.storageReady {config : List Descriptor} (hconfig : IsConfiguration config)
    {s t : Master} (h : OpensAll (pairsFrom none config) s t) : StorageReady config t := by
  have hendpoints := hconfig.valid.pairsFrom_endpoints none nofun
  have hmem {interface : Descriptor × List Descriptor} {d : Descriptor}
      (hin : interface ∈ storageInterfacesOf config) (hd : d ∈ interface.2) :
      d ∈ endpointsOf config := by
    rw [← hendpoints]
    exact List.mem_map_of_mem (mem_pairs_of_interface hin hd)
  have hclass {interface : Descriptor × List Descriptor}
      (hin : interface ∈ storageInterfacesOf config) :
      interface.1.interface.bInterfaceClass = 0x08 := of_decide_eq_true (List.mem_filter.mp hin).2
  constructor
  case driver =>
    intro interface hin d hd
    rw [(h.each _ d (mem_pairs_of_interface hin hd)).edptDriver]
    unfold driverOf
    rw [hclass hin]
    rfl
  case itf =>
    intro interface hin d hd
    rw [(h.each _ d (mem_pairs_of_interface hin hd)).itfCopy]
    intro hkeyboard
    exact absurd (hkeyboard.1.symm.trans (hclass hin)) (by decide)
  case number =>
    intro interface hin d hd
    have hwhole := hconfig.valid.whole d (hmem hin hd)
    exact Nat.lt_of_le_of_lt hwhole.bounded (by decide)
  case readsFrom =>
    intro interface hin
    rw [h.otherEdpt, lastStorageIn_config]
    have hall : ∀ d ∈ storageInsOf config, d ∈ endpointsOf config := by
      intro d hd
      obtain ⟨other, hother, hbelow⟩ := List.mem_flatMap.mp (List.mem_filter.mp hd).1
      exact hmem hother hbelow
    have hlisted {d : Descriptor} (hd : d ∈ interface.2) (hdir : tuEdptDirIn (addressIn d) = true) :
        d ∈ storageInsOf config :=
      List.mem_filter.mpr ⟨List.mem_flatMap.mpr ⟨interface, hin, hd⟩, hdir⟩
    constructor
    · rintro ⟨d, hd, hdir, haddress⟩
      cases hlast : (storageInsOf config).getLast? with
      | none =>
          have hempty := List.getLast?_eq_none_iff.mp hlast
          have hsome := hlisted hd hdir
          rw [hempty] at hsome
          exact absurd hsome List.not_mem_nil
      | some last =>
          rw [hlast] at haddress
          have hsame : d = last :=
            List.inj_on_of_nodup_map hconfig.distinct (hmem hin hd)
              (hall last (List.mem_of_getLast? hlast)) haddress
          exact ⟨d, hd, hsame ▸ hlast⟩
    · rintro ⟨d, hd, hlast⟩
      have hlistedLast := List.mem_of_getLast? hlast
      refine ⟨d, hd, (List.mem_filter.mp hlistedLast).2, ?_⟩
      rw [hlast]
      rfl

/-! ## What the events do -/

theorem slotOf_storage {config : List Descriptor} {s : Master} (hs : StorageReady config s)
    {interface : Descriptor × List Descriptor} (hin : interface ∈ storageInterfacesOf config)
    {edpt : UInt8} (howns : Owns interface edpt) :
    slotOf edpt < driverSlots ∧ s.drivers.edptDriver (slotOf edpt) = .massStorage ∧
      ¬ IsKeyboard (s.drivers.itfCopy (slotOf edpt)) := by
  obtain ⟨d, hd, rfl⟩ := howns
  exact ⟨slotOf_lt (hs.number _ hin d hd), hs.driver _ hin d hd, hs.itf _ hin d hd⟩

/-- A message for a mass-storage endpoint goes to the mass-storage driver. -/
theorem message_handler {config : List Descriptor} {s : Master} (hs : StorageReady config s)
    {interface : Descriptor × List Descriptor} (hin : interface ∈ storageInterfacesOf config)
    {edpt : UInt8} (howns : Owns interface edpt) (packet : SlavePacket) :
    s.afterEvent (.message packet edpt) = Program.final (mscSpi packet edpt s) := by
  obtain ⟨hslot, hdriver, hitf⟩ := slotOf_storage hs hin howns
  have hcalls : handleSpiSlaveEventWithDriver packet edpt s = mscSpi packet edpt s := by
    unfold handleSpiSlaveEventWithDriver checkComm
    rw [Program.read_bind]
    refine (Program.require_bind hslot _ _ _).trans ?_
    rw [show s.drivers.itfCopy (idx edpt).toNat = s.drivers.itfCopy (slotOf edpt) from rfl,
      show s.drivers.edptDriver (idx edpt).toNat = .massStorage from hdriver,
      Program.when_false hitf, Program.pure_bind]
  exact congrArg Program.final hcalls

/-- A completed transfer of a mass-storage endpoint goes to the mass-storage driver. -/
theorem complete_handler {config : List Descriptor} {s : Master} (hs : StorageReady config s)
    {interface : Descriptor × List Descriptor} (hin : interface ∈ storageInterfacesOf config)
    {edpt : UInt8} (howns : Owns interface edpt) (xferredBytes : UInt16) :
    s.afterEvent (.complete edpt xferredBytes) =
      Program.final (mscXfer edpt xferredBytes s) := by
  obtain ⟨hslot, hdriver, -⟩ := slotOf_storage hs hin howns
  have hcalls : handleDeviceXferCompleteWithDriver edpt xferredBytes s =
      mscXfer edpt xferredBytes s := by
    unfold handleDeviceXferCompleteWithDriver
    rw [Program.read_bind]
    refine (Program.require_bind hslot _ _ _).trans ?_
    rw [show s.drivers.edptDriver (idx edpt).toNat = .massStorage from hdriver]
  exact congrArg Program.final hcalls

theorem out_bits {edpt : UInt8} (h : tuEdptDirIn edpt = false) : edpt &&& 0x80 = 0 := by
  simpa [tuEdptDirIn] using h

theorem in_bits {edpt : UInt8} (h : tuEdptDirIn edpt = true) : ¬ edpt &&& 0x80 = 0 := by
  simpa [tuEdptDirIn] using h

/-- Transfers of the controller leave the drivers and the messages alone. -/
def SameStatics (s t : Master) : Prop := t.drivers = s.drivers ∧ t.outbox = s.outbox

theorem onDcd_statics {α : Type} (program : DcdM α) :
    Program.Moves SameStatics (onDcd program) := Program.Moves.onPart fun _ _ => ⟨rfl, rfl⟩

/-- After a message for an OUT endpoint a read is requested from the address registered last. -/
theorem mscSpi_out_final {edpt : UInt8} (hout : tuEdptDirIn edpt = false) (packet : SlavePacket)
    (s : Master) :
    (Program.final (mscSpi packet edpt s)).drivers = s.drivers ∧
      (Program.final (mscSpi packet edpt s)).outbox =
        s.outbox ++ [knock s.drivers.otherEdpt s.drivers.bMaxPacketSize] := by
  unfold mscSpi record
  rw [Program.update_bind, if_pos (out_bits hout), Program.read_bind]
  unfold knockOnSlaveEdpt enqueueSpiMessage
  rw [Program.update_bind]
  exact onDcd_statics _ _

/-- A message for an IN endpoint permits reads and is counted. -/
theorem mscSpi_in_final {edpt : UInt8} (hin : tuEdptDirIn edpt = true) (packet : SlavePacket)
    (s : Master) :
    (Program.final (mscSpi packet edpt s)).drivers =
      { s.drivers with permit0x81 := true, count0x81 := s.drivers.count0x81 + 1 } := by
  unfold mscSpi record
  rw [Program.update_bind, if_neg (in_bits hin), Program.update_bind]
  exact (onDcd_statics _ _).1

/-- A completed OUT transfer takes the permission back and begins to count anew. -/
theorem mscXfer_out_final {edpt : UInt8} (hout : tuEdptDirIn edpt = false) (xferredBytes : UInt16)
    (s : Master) :
    (Program.final (mscXfer edpt xferredBytes s)).drivers =
      { s.drivers with permit0x81 := false, count0x81 := 0 } := by
  unfold mscXfer
  rw [Program.read_bind, if_pos (out_bits hout)]
  unfold mscXferOut
  rw [Program.update_bind]
  have hrest : Program.Moves (Program.Same Master.drivers) (do
      defined (xferredBytes.toNat < buggerSize .master)
      Program.update fun s =>
        let bugger := s.dcd.memory.bugger.writeAt xferredBytes.toNat [edpt]
        { s with dcd := { s.dcd with memory := { s.dcd.memory with bugger := bugger } } }
      let s ← Program.read
      enqueueSpiMessage (.copyOf (MsgType.usbData ||| MsgType.debugPrintAsHex)
        s.dcd.memory.bugger 0 (xferredBytes + 1)) : MasterM Unit) :=
    .bind (.require _ _) fun _ => .bind (.update fun _ => rfl) fun _ =>
      .bind .read fun _ => .update fun _ => rfl
  exact hrest _

/-- A completed IN transfer requests the next read if reads are permitted, and the transfer was not
a status of 13 bytes after a counted message. -/
theorem mscXfer_in_final {edpt : UInt8} (hin : tuEdptDirIn edpt = true) (xferredBytes : UInt16)
    (s : Master) :
    Program.final (mscXfer edpt xferredBytes s) =
      if s.drivers.permit0x81 = true ∧ ¬ (xferredBytes = 13 ∧ 0 < s.drivers.count0x81) then
        { s with outbox := s.outbox ++ [mscRead edpt] }
      else s := by
  unfold mscXfer
  rw [Program.read_bind, if_neg (in_bits hin)]
  split
  · rename_i hasks
    rw [Program.when_true hasks]
    rfl
  · rename_i hquiet
    rw [Program.when_false hquiet]
    rfl

theorem requestsRead_iff {config : List Descriptor} {s : Master} (hs : StorageReady config s)
    {interface : Descriptor × List Descriptor} (hin : interface ∈ storageInterfacesOf config)
    {edpt : UInt8} (howns : Owns interface edpt) (hdir : tuEdptDirIn edpt = true)
    (xferredBytes : UInt16) :
    RequestsRead s edpt xferredBytes ↔
      s.drivers.permit0x81 = true ∧ ¬ (xferredBytes = 13 ∧ 0 < s.drivers.count0x81) := by
  unfold RequestsRead
  rw [complete_handler hs hin howns, mscXfer_in_final hdir]
  split
  · rename_i hasks
    exact iff_of_true rfl hasks
  · rename_i hquiet
    refine iff_of_false (fun hsame => ?_) hquiet
    have hlength := congrArg List.length hsame
    simp at hlength

/-- Events leave the registration as it is. -/
theorem StorageReady.afterEvent {config : List Descriptor} {s : Master}
    (hs : StorageReady config s) (event : DriverEvent) :
    StorageReady config (s.afterEvent event) := by
  have hsame : (s.afterEvent event).drivers.edptDriver = s.drivers.edptDriver ∧
      (s.afterEvent event).drivers.itfCopy = s.drivers.itfCopy ∧
      (s.afterEvent event).drivers.otherEdpt = s.drivers.otherEdpt := by
    cases event with
    | message packet edpt =>
        have hpolicy := handleSpiSlaveEventWithDriver_same_policy packet edpt s
        exact ⟨hpolicy.edptDriver, hpolicy.itfCopy, hpolicy.otherEdpt⟩
    | complete edpt xferredBytes =>
        have hpolicy := handleDeviceXferCompleteWithDriver_same_policy edpt xferredBytes s
        exact ⟨hpolicy.edptDriver, hpolicy.itfCopy, hpolicy.otherEdpt⟩
    | elsewhere change => exact ⟨rfl, rfl, rfl⟩
  obtain ⟨hdriver, hitf, hother⟩ := hsame
  refine ⟨?_, ?_, hs.number, ?_⟩
  · rw [hdriver]
    exact hs.driver
  · rw [hitf]
    exact hs.itf
  · rw [hother]
    exact hs.readsFrom

/-! ## The condition is exact -/

/-- The drivers request a read after an IN transfer of `xferredBytes` bytes. -/
def Drivers.Permits (drivers : Drivers) (xferredBytes : UInt16) : Prop :=
  drivers.permit0x81 = true ∧ ¬ (xferredBytes = 13 ∧ 0 < drivers.count0x81)

theorem leavesOthers_iff {config : List Descriptor} {s t : Master} (hs : StorageReady config s)
    (ht : StorageReady config t) (edpt : UInt8) :
    LeavesOthers config edpt s t ↔ (OthersRead config edpt →
      ∀ xferredBytes, s.drivers.Permits xferredBytes ↔ t.drivers.Permits xferredBytes) := by
  constructor
  · rintro h ⟨interface, hin, hnot, d, hd, hdir⟩ xferredBytes
    have howns : Owns interface (addressIn d) := ⟨d, hd, rfl⟩
    have hsame := h interface hin hnot d hd hdir xferredBytes
    rw [requestsRead_iff hs hin howns hdir, requestsRead_iff ht hin howns hdir] at hsame
    exact hsame
  · intro h interface hin hnot d hd hdir xferredBytes
    have howns : Owns interface (addressIn d) := ⟨d, hd, rfl⟩
    rw [requestsRead_iff hs hin howns hdir, requestsRead_iff ht hin howns hdir]
    exact h ⟨interface, hin, hnot, d, hd, hdir⟩ xferredBytes

/-- Counting a message changes no request exactly when reads were permitted and counted already. A
transfer of no bytes tells whether they were permitted, and one of 13 whether they were counted. -/
theorem permits_counted_iff (drivers : Drivers) :
    (∀ xferredBytes, drivers.Permits xferredBytes ↔ Drivers.Permits
      { drivers with permit0x81 := true, count0x81 := drivers.count0x81 + 1 } xferredBytes) ↔
      drivers.permit0x81 = true ∧ 0 < drivers.count0x81 := by
  unfold Drivers.Permits
  constructor
  · intro h
    have hpermit := ((h 0).mpr ⟨rfl, by simp⟩).1
    refine ⟨hpermit, ?_⟩
    by_contra hzero
    have hthirteen := (h 13).mp ⟨hpermit, fun hboth => hzero hboth.2⟩
    exact hthirteen.2 ⟨rfl, Nat.succ_pos _⟩
  · rintro ⟨hpermit, hcount⟩ xferredBytes
    simp [hpermit, hcount]

/-- Taking the permission back changes no request exactly when there was none. -/
theorem permits_revoked_iff (drivers : Drivers) :
    (∀ xferredBytes, drivers.Permits xferredBytes ↔ Drivers.Permits
      { drivers with permit0x81 := false, count0x81 := 0 } xferredBytes) ↔
      drivers.permit0x81 = false := by
  unfold Drivers.Permits
  constructor
  · intro h
    by_contra hpermit
    have hzero := (h 0).mp ⟨by simpa using hpermit, by simp⟩
    exact absurd hzero.1 (by simp)
  · intro hpermit xferredBytes
    simp [hpermit]

theorem knock_injective {edpt other len size : UInt8} (h : knock edpt len = knock other size) :
    edpt = other := by
  have hpayload := congrArg (fun message => message.payload.getLast?) h
  simpa [knock] using hpayload

theorem readsFrom_iff {config : List Descriptor} {s : Master} (hs : StorageReady config s)
    {interface : Descriptor × List Descriptor} (hin : interface ∈ storageInterfacesOf config)
    {edpt : UInt8} (howns : Owns interface edpt) (hout : tuEdptDirIn edpt = false)
    (packet : SlavePacket) :
    ReadsFrom interface s (s.afterEvent (.message packet edpt)) ↔ HasLastIn config interface := by
  rw [← hs.readsFrom interface hin]
  unfold ReadsFrom
  rw [message_handler hs hin howns, (mscSpi_out_final hout packet s).2]
  constructor
  · rintro ⟨d, hd, hdir, len, houtbox⟩
    have hknock := List.append_cancel_left houtbox
    refine ⟨d, hd, hdir, ?_⟩
    exact (knock_injective (List.cons.inj hknock).1).symm
  · rintro ⟨d, hd, hdir, haddress⟩
    exact ⟨d, hd, hdir, s.drivers.bMaxPacketSize, by rw [haddress]⟩

/-- An event keeps the interfaces apart exactly when it meets the condition. -/
theorem keepsApart_iff {config : List Descriptor} {s : Master} {event : DriverEvent}
    (hs : StorageReady config s) (hon : OnStorage config event) :
    KeepsApart config s event ↔ MeetsApart config s event := by
  have hafter := hs.afterEvent event
  cases event with
  | elsewhere change => exact Iff.rfl
  | message packet edpt =>
      obtain ⟨interface, hin, howns⟩ := hon
      have hfinal := message_handler hs hin howns packet
      unfold KeepsApart MeetsApart
      dsimp only
      rw [leavesOthers_iff hs hafter]
      cases hdir : tuEdptDirIn edpt with
      | false =>
          -- The message changes no static of the drivers, so only the read is at stake.
          have hsame : (s.afterEvent (.message packet edpt)).drivers = s.drivers := by
            rw [hfinal]
            exact (mscSpi_out_final hdir packet s).1
          rw [if_neg (by simp), hsame]
          constructor
          · intro h other hother hotherOwns
            exact (readsFrom_iff hs hother hotherOwns hdir packet).mp (h.1 rfl other hother hotherOwns)
          · intro h
            refine ⟨fun _ other hother hotherOwns => ?_, fun _ _ => Iff.rfl⟩
            exact (readsFrom_iff hs hother hotherOwns hdir packet).mpr (h other hother hotherOwns)
      | true =>
          have hcounted : (s.afterEvent (.message packet edpt)).drivers =
              { s.drivers with permit0x81 := true, count0x81 := s.drivers.count0x81 + 1 } := by
            rw [hfinal]
            exact mscSpi_in_final hdir packet s
          rw [if_pos rfl, hcounted, permits_counted_iff]
          exact and_iff_right fun hfalse => by cases hfalse
  | complete edpt xferredBytes =>
      obtain ⟨interface, hin, howns⟩ := hon
      have hfinal := complete_handler hs hin howns xferredBytes
      unfold KeepsApart MeetsApart
      dsimp only
      rw [leavesOthers_iff hs hafter]
      cases hdir : tuEdptDirIn edpt with
      | false =>
          have hrevoked : (s.afterEvent (.complete edpt xferredBytes)).drivers =
              { s.drivers with permit0x81 := false, count0x81 := 0 } := by
            rw [hfinal]
            exact mscXfer_out_final hdir xferredBytes s
          rw [hrevoked, permits_revoked_iff]
          exact ⟨fun h _ => h, fun h => h rfl⟩
      | true =>
          have hsame : (s.afterEvent (.complete edpt xferredBytes)).drivers = s.drivers := by
            rw [hfinal, mscXfer_in_final hdir]
            split <;> rfl
          rw [hsame]
          exact iff_of_true (fun _ _ => Iff.rfl) fun hfalse => by cases hfalse

/-- After the walk over a configuration, in every order of the events on its mass-storage endpoints
and whatever else happens between them: the interfaces are kept apart at every event exactly when
every event meets the condition. -/
theorem storageInterfaces_apart_iff {config : List Descriptor} (hconfig : IsConfiguration config)
    {s t : Master} (hs : HoldsConfiguration config s) (hrun : handleSetupResponse s = .ok () t)
    {events : List DriverEvent} (hon : ∀ event ∈ events, OnStorage config event) :
    Machine.Guarded driverStep (KeepsApart config) t events ↔
      Machine.Guarded driverStep (MeetsApart config) t events := by
  have hready : StorageReady config t :=
    (handleSetupResponse_opensAll hconfig hs hrun).storageReady hconfig
  refine Machine.guarded_iff (I := StorageReady config) (D := OnStorage config) ?_ ?_ hready hon
  · intro u event next hu _ hstep
    rw [driverStep_eq_some hstep]
    exact hu.afterEvent event
  · intro u event hu hevent
    exact keepsApart_iff hu hevent

/-! ## Two disks in one device -/

/-- A device with two mass-storage interfaces, on endpoints 0x81 and 0x02, and 0x83 and 0x04. -/
def twoDisks : List Descriptor :=
  [⟨0x02, [55, 0, 2, 1, 0, 0x80, 50], by decide⟩, ⟨0x04, [0, 0, 2, 8, 6, 80, 0], by decide⟩,
    ⟨0x05, [0x81, 2, 64, 0, 0], by decide⟩, ⟨0x05, [0x02, 2, 64, 0, 0], by decide⟩,
    ⟨0x04, [1, 0, 2, 8, 6, 80, 0], by decide⟩, ⟨0x05, [0x83, 2, 64, 0, 0], by decide⟩,
    ⟨0x05, [0x04, 2, 64, 0, 0], by decide⟩]

/-- The master after the host asked for the configuration and the device sent it. -/
def twoDisksResponse : Master :=
  { Master.init 0 with
    events := ⟨64, ⟨0x80, 6, 0x0200, 0, 0xff⟩, .readingResponse⟩
    aggregator := ⟨fun i => (configurationBytes twoDisks).getD i 0, 64, 55⟩ }

/-- The master once the configuration is handled. -/
def twoDisksReady : Master := Program.final (handleSetupResponse twoDisksResponse)

theorem twoDisks_isConfiguration : IsConfiguration twoDisks where
  valid := by decide
  distinct := by decide
  bounded := by decide

theorem twoDisks_holds : HoldsConfiguration twoDisks twoDisksResponse where
  valid := by decide
  response := by decide
  request := by decide
  live := by decide

theorem twoDisks_handled : handleSetupResponse twoDisksResponse = .ok () twoDisksReady :=
  handleSetupResponse_ends twoDisks_isConfiguration twoDisks_holds ⟨by decide, by decide⟩
    (by decide +kernel)

/-- The report of the slave that it has sent a command block to the endpoint. -/
def sentReport (edpt : UInt8) : SlavePacket :=
  ⟨MsgType.usbData ||| MsgType.isPacket, List.replicate 31 0 ++ [edpt], 31⟩

/-- A command for the second disk. -/
theorem secondDisk_apart :
    Machine.Guarded driverStep (KeepsApart twoDisks) twoDisksReady
      [.complete 0x04 31, .message (sentReport 0x04) 0x04] :=
  (storageInterfaces_apart_iff twoDisks_isConfiguration twoDisks_holds twoDisks_handled
    (by decide +kernel)).mpr (by decide +kernel)

/-- For a command of the first disk the second one is read. -/
theorem firstDisk_not_apart :
    ¬ ∀ config s t events, IsConfiguration config → HoldsConfiguration config s →
      handleSetupResponse s = .ok () t → (∀ event ∈ events, OnStorage config event) →
        Machine.Guarded driverStep (KeepsApart config) t events := by
  intro hclaim
  have hon : ∀ event ∈ [DriverEvent.message (sentReport 0x02) 0x02], OnStorage twoDisks event := by
    decide +kernel
  have hguarded := hclaim twoDisks _ _ _ twoDisks_isConfiguration twoDisks_holds twoDisks_handled hon
  have hready : StorageReady twoDisks twoDisksReady :=
    (handleSetupResponse_opensAll twoDisks_isConfiguration twoDisks_holds
      twoDisks_handled).storageReady twoDisks_isConfiguration
  have hmeets := (keepsApart_iff hready (hon _ List.mem_cons_self)).mp hguarded.1
  have hfails : ¬ MeetsApart twoDisks twoDisksReady (.message (sentReport 0x02) 0x02) := by
    decide +kernel
  exact hfails hmeets

end UsbSec.Device
