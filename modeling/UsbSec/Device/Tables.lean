import Mathlib.Data.List.DropRight
import Mathlib.Data.Option.Basic
import UsbSec.Device.Frame

/-!
# The endpoint tables and the descriptors behind them

The master keeps what it learns from configuration descriptors in three tables: the interface
copy and the driver of each slot, and the hardware endpoints. This module relates the tables to
the log of registrations. In every reachable state a slot holds the last registration that went
into it, whenever that was, while a hardware endpoint is set up only by a registration since the
last bus reset.
-/

namespace UsbSec.Device

open Library Usb Rp2040

/-! ## Registrations in the log -/

/-- An endpoint descriptor that was registered, with the interface it lies under. -/
structure Registration where
  epAddr : UInt8
  maxPacketSize : UInt16
  itf : InterfaceDescriptor
  deriving DecidableEq

/-- The registration that a call makes. -/
def Call.registration : Call → Option Registration
  | .registerDriver epAddr maxPacketSize itf => some ⟨epAddr, maxPacketSize, itf⟩
  | _ => none

/-- The registrations among the calls. -/
def registrations (calls : List Call) : List Registration := calls.filterMap Call.registration

/-- The calls after the last bus reset. -/
def sinceBusReset (calls : List Call) : List Call := calls.rtakeWhile (· ≠ .busReset)

/-- The slot of an endpoint address in the driver tables. -/
def slotOf (epAddr : UInt8) : Nat := (idx epAddr).toNat

/-- The last registration that went into a slot. -/
def lastIn (slot : Nat) (entries : List Registration) : Option Registration :=
  (entries.filter fun entry => slotOf entry.epAddr = slot).getLast?

@[simp] theorem registrations_append (first second : List Call) :
    registrations (first ++ second) = registrations first ++ registrations second :=
  List.filterMap_append

theorem sinceBusReset_busReset (calls : List Call) :
    sinceBusReset (calls ++ [.busReset]) = [] := by
  simp [sinceBusReset]

theorem sinceBusReset_concat (calls : List Call) {call : Call} (h : call ≠ .busReset) :
    sinceBusReset (calls ++ [call]) = sinceBusReset calls ++ [call] := by
  simp [sinceBusReset, h]

theorem sinceBusReset_append {calls more : List Call} (h : ∀ call ∈ more, call ≠ .busReset) :
    sinceBusReset (calls ++ more) = sinceBusReset calls ++ more := by
  induction more using List.reverseRecOn with
  | nil => simp
  | append_singleton rest call ih =>
      have hrest : ∀ call ∈ rest, call ≠ .busReset := fun other hother => h other (by simp [hother])
      rw [← List.append_assoc, sinceBusReset_concat _ (h call (by simp)), ih hrest,
        List.append_assoc]

theorem lastIn_concat (slot : Nat) (entries : List Registration) (entry : Registration) :
    lastIn slot (entries ++ [entry]) =
      if slotOf entry.epAddr = slot then some entry else lastIn slot entries := by
  unfold lastIn
  by_cases h : slotOf entry.epAddr = slot
  · simp [List.filter_append, h]
  · simp [List.filter_append, h]

theorem lastIn_slot {slot : Nat} {entries : List Registration} {entry : Registration}
    (h : lastIn slot entries = some entry) : entry ∈ entries ∧ slotOf entry.epAddr = slot := by
  have hmem := List.mem_of_getLast? h
  simpa using hmem

/-- A registration since the last bus reset is later than those before it. -/
theorem lastIn_sinceBusReset {slot : Nat} {calls : List Call} {entry : Registration}
    (h : lastIn slot (registrations (sinceBusReset calls)) = some entry) :
    lastIn slot (registrations calls) = some entry := by
  obtain ⟨older, holder⟩ := List.rtakeWhile_suffix (· ≠ Call.busReset) calls
  have hcalls : calls = older ++ sinceBusReset calls := holder.symm
  rw [hcalls, registrations_append]
  unfold lastIn at h ⊢
  rw [List.filter_append, List.getLast?_append, h]
  rfl


/-! ## Endpoints and slots -/

/-- An endpoint numbered 1 to 15. -/
def Numbered (epAddr : UInt8) : Prop :=
  0 < (tuEdptNumber epAddr).toNat ∧ (tuEdptNumber epAddr).toNat < usbMaxEndpoints

instance (epAddr : UInt8) : Decidable (Numbered epAddr) :=
  inferInstanceAs (Decidable (_ ∧ _))

/-- The hardware endpoint of an address. -/
def Master.hwEndpoint (s : Master) (epAddr : UInt8) : HwEndpoint :=
  s.dcd.hwEndpoints (tuEdptNumber epAddr).toNat (tuEdptDirIn epAddr)

/-- The address with the given number and direction. -/
def addressOf (num : Nat) (dirIn : Bool) : UInt8 := UInt8.ofNat num ||| if dirIn then 0x80 else 0

theorem addressOf_number (epAddr : UInt8) :
    addressOf (tuEdptNumber epAddr).toNat (tuEdptDirIn epAddr) = epAddr :=
  forall_byte (fun e => addressOf (tuEdptNumber e).toNat (tuEdptDirIn e) = e)
    (by decide +kernel) epAddr

theorem addressOf_slot {epAddr : UInt8} (h : (tuEdptNumber epAddr).toNat < usbMaxEndpoints) :
    addressOf (slotOf epAddr % 16) (16 ≤ slotOf epAddr) = epAddr :=
  forall_byte
    (fun e => (tuEdptNumber e).toNat < usbMaxEndpoints →
      addressOf (slotOf e % 16) (16 ≤ slotOf e) = e)
    (by decide +kernel) epAddr h

/-- Two endpoints of the hardware table that share a slot are the same. -/
theorem eq_of_slotOf_eq {epAddr other : UInt8}
    (h : (tuEdptNumber epAddr).toNat < usbMaxEndpoints)
    (hother : (tuEdptNumber other).toNat < usbMaxEndpoints) (hslot : slotOf other = slotOf epAddr) :
    other = epAddr := by
  have haddr := addressOf_slot hother
  rw [hslot, addressOf_slot h] at haddr
  exact haddr.symm

/-- Two endpoints at one place of the hardware table are the same. -/
theorem eq_of_place_eq {epAddr other : UInt8}
    (hnum : (tuEdptNumber epAddr).toNat = (tuEdptNumber other).toNat)
    (hdir : tuEdptDirIn epAddr = tuEdptDirIn other) : epAddr = other := by
  have haddr := addressOf_number other
  rw [← hnum, ← hdir, addressOf_number] at haddr
  exact haddr

/-! ## The tables follow the log -/

/-- The interface descriptor of a slot that was never written. -/
def blankInterface : InterfaceDescriptor := ⟨0, 0, 0, 0, 0, 0, 0, 0, 0⟩

/-- The shape that a non-control endpoint has after the last registration for it since the last
bus reset. -/
def ShapeAfter (epAddr : UInt8) : Option Registration → Shape → Prop
  | none, shape => shape = HwEndpoint.zero.shape
  | some entry, shape =>
      ∃ buffer, shape = openedShape (tuEdptNumber epAddr).toNat (tuEdptDirIn epAddr) buffer
        entry.maxPacketSize

/-- The driver tables hold the last registration of each slot, and each non-control endpoint is
set up as the last registration for it since the last bus reset says. -/
structure TablesLogged (s : Master) : Prop where
  itfCopy : ∀ slot, s.drivers.itfCopy slot =
    (lastIn slot (registrations s.calls)).elim blankInterface Registration.itf
  edptDriver : ∀ slot, s.drivers.edptDriver slot = .illegal ↔
    lastIn slot (registrations s.calls) = none
  inTable : ∀ entry ∈ registrations s.calls, slotOf entry.epAddr < driverSlots ∧
    (tuEdptNumber entry.epAddr).toNat < usbMaxEndpoints
  shape : ∀ epAddr, Numbered epAddr →
    ShapeAfter epAddr (lastIn (slotOf epAddr) (registrations (sinceBusReset s.calls)))
      (s.hwEndpoint epAddr).shape

/-- The driver tables, the registrations and the shapes of the endpoints are the same. -/
structure SameTables (s t : Master) : Prop where
  itfCopy : t.drivers.itfCopy = s.drivers.itfCopy
  edptDriver : t.drivers.edptDriver = s.drivers.edptDriver
  all : registrations t.calls = registrations s.calls
  fresh : registrations (sinceBusReset t.calls) = registrations (sinceBusReset s.calls)
  shapes : SameShapes s.dcd t.dcd

instance : IsPreorder Master SameTables where
  refl s := ⟨rfl, rfl, rfl, rfl, refl_of SameShapes s.dcd⟩
  trans _ _ _ h k :=
    ⟨k.itfCopy.trans h.itfCopy, k.edptDriver.trans h.edptDriver, k.all.trans h.all,
      k.fresh.trans h.fresh, trans_of SameShapes h.shapes k.shapes⟩

theorem SameTables.tablesLogged {s t : Master} (h : SameTables s t) (hs : TablesLogged s) :
    TablesLogged t where
  itfCopy slot := by rw [h.itfCopy, h.all, hs.itfCopy]
  edptDriver slot := by rw [h.edptDriver, h.all, hs.edptDriver]
  inTable entry hentry := hs.inTable entry (h.all ▸ hentry)
  shape epAddr hnumbered := by
    have hshape := hs.shape epAddr hnumbered
    unfold Master.hwEndpoint at hshape ⊢
    rwa [h.fresh, h.shapes]

/-! ## Programs that leave the tables alone -/

theorem OnlyTransfers.sameTables {s t : Master} (h : OnlyTransfers s t) : SameTables s t := by
  obtain ⟨more, hmore, htransfer⟩ := h.calls
  have hquiet : ∀ call ∈ more, call.registration = none ∧ call ≠ .busReset := by
    intro call hcall
    cases htransfer call hcall with
    | mscSpi edpt => exact ⟨rfl, nofun⟩
    | hidSpi edpt => exact ⟨rfl, nofun⟩
    | xferContinue num dirIn => exact ⟨rfl, nofun⟩
  have hnone : registrations more = [] :=
    List.filterMap_eq_nil_iff.mpr fun call hcall => (hquiet call hcall).1
  refine ⟨h.itfCopy, h.edptDriver, ?_, ?_, h.shapes⟩
  · rw [hmore, registrations_append, hnone, List.append_nil]
  · rw [hmore, sinceBusReset_append fun call hcall => (hquiet call hcall).2,
      registrations_append, hnone, List.append_nil]

/-- A program of transfers leaves the tables alone. -/
theorem same_tables_of_only_transfers {α : Type} {program : MasterM α}
    (h : Program.Moves OnlyTransfers program) : Program.Moves SameTables program :=
  fun s => (h s).sameTables

theorem record_same_tables {call : Call} (hregistration : call.registration = none)
    (hreset : call ≠ .busReset) : Program.Moves SameTables (record call) := by
  refine Program.Moves.update fun s => ?_
  have hnone : registrations [call] = [] := by simp [registrations, hregistration]
  refine ⟨rfl, rfl, ?_, ?_, refl_of SameShapes s.dcd⟩
  · rw [registrations_append, hnone, List.append_nil]
  · rw [sinceBusReset_concat _ hreset, registrations_append, hnone, List.append_nil]

theorem record_response_same_tables (setup : ControlRequest) (response : List UInt8) :
    Program.Moves SameTables (record (.handleSetupResponse setup response)) :=
  record_same_tables rfl nofun

/-- An update of the rest of the state. -/
theorem update_same_tables {change : Master → Master} (h : ∀ s, SameTables s (change s)) :
    Program.Moves SameTables (Program.update change : MasterM Unit) :=
  Program.Moves.update h

theorem registerResponse_same_tables (message : SlavePacket) :
    Program.Moves SameTables (registerResponse message) := by
  refine .bind .read fun s => .bind (.require _ _) fun _ => ?_
  refine .bind (update_same_tables fun _ => ⟨rfl, rfl, rfl, rfl, fun _ _ => rfl⟩) fun _ => ?_
  refine .bind (same_tables_of_only_transfers (dcdEdptXferNew_only_transfers _ _ _)) fun _ => ?_
  exact update_same_tables fun _ => ⟨rfl, rfl, rfl, rfl, fun _ _ => rfl⟩

theorem handleDeviceDescriptor_same_tables (arr : Buffer) :
    Program.Moves SameTables (handleDeviceDescriptor arr) := by
  refine .bind (same_tables_of_only_transfers (enqueueSpiMessage_only_transfers _)) fun _ => ?_
  refine .bind (update_same_tables fun _ => ⟨rfl, rfl, rfl, rfl, fun _ _ => rfl⟩) fun _ => ?_
  exact update_same_tables fun _ => ⟨rfl, rfl, rfl, rfl, fun _ _ => rfl⟩

theorem dcdEventSetupReceivedNew_same_tables (pSetup : Buffer) :
    Program.Moves SameTables (dcdEventSetupReceivedNew pSetup) := by
  refine .bind (record_same_tables rfl nofun) fun _ => ?_
  refine .bind (update_same_tables fun _ => ⟨rfl, rfl, rfl, rfl, fun _ _ => rfl⟩) fun _ => ?_
  refine same_tables_of_only_transfers ?_
  refine .ite (enqueueSpiMessage_only_transfers _) ?_
  refine .ite (dcdEdptXferNew_only_transfers _ _ _) ?_
  exact .ite (dcdEdptXferNew_only_transfers _ _ _) (enqueueSpiMessage_only_transfers _)

theorem handleSetupReq_same_tables : Program.Moves SameTables handleSetupReq := by
  refine .bind ?_ fun _ => .bind .read fun _ => dcdEventSetupReceivedNew_same_tables _
  exact same_tables_of_only_transfers (onDcd_only_transfers resetEp0Pid_only_progress)

/-! ## Programs that write the tables -/

/-- What a registration that goes through does. -/
theorem registerDriverForEdpt_ok {edpt : EndpointPointer} {itf : Option InterfaceDescriptor}
    {newMps : UInt8} {s t : Master} (h : registerDriverForEdpt edpt itf newMps s = .ok () t) :
    ∃ descriptor driver, itf = some descriptor ∧ driver ≠ .illegal ∧
      slotOf edpt.bEndpointAddress < driverSlots ∧
      t.drivers.itfCopy = Function.update s.drivers.itfCopy (slotOf edpt.bEndpointAddress)
        descriptor ∧
      t.drivers.edptDriver = Function.update s.drivers.edptDriver
        (slotOf edpt.bEndpointAddress) driver ∧
      t.calls = s.calls ++
        [.registerDriver edpt.bEndpointAddress edpt.maxPacketSize descriptor] ∧
      SameShapes s.dcd t.dcd := by
  obtain ⟨_, _, hmps, h⟩ := Program.bind_eq_ok h
  cases hmps
  cases itf with
  | none => cases h
  | some descriptor =>
      obtain ⟨_, _, hrecord, h⟩ := Program.bind_eq_ok h
      cases hrecord
      obtain ⟨_, _, hdefined, h⟩ := Program.bind_eq_ok h
      obtain ⟨hslot, rfl⟩ := Program.require_eq_ok hdefined
      obtain ⟨_, _, hcopy, h⟩ := Program.bind_eq_ok h
      cases hcopy
      split at h
      · cases h
        exact ⟨descriptor, .hid, rfl, nofun, hslot, rfl, rfl, rfl, fun _ _ => rfl⟩
      · split at h
        · obtain ⟨_, _, hdriver, h⟩ := Program.bind_eq_ok h
          cases hdriver
          split at h
          · have hxfer := (dcdEdptXferNew_only_transfers _ _ _).ok h
            obtain ⟨e, -, rfl⟩ := Program.onPart_eq_ok h
            exact ⟨descriptor, .massStorage, rfl, nofun, hslot, rfl, rfl, rfl, hxfer.shapes⟩
          · cases h
            exact ⟨descriptor, .massStorage, rfl, nofun, hslot, rfl, rfl, rfl, fun _ _ => rfl⟩
        · cases h

/-- What opening an endpoint and registering its driver does. -/
structure EndpointOpened (entry : Registration) (xfer : UInt8) (s t : Master) : Prop where
  slot : slotOf entry.epAddr < driverSlots
  number : (tuEdptNumber entry.epAddr).toNat < usbMaxEndpoints
  itfCopy : t.drivers.itfCopy =
    Function.update s.drivers.itfCopy (slotOf entry.epAddr) entry.itf
  edptDriver : ∃ driver, driver ≠ .illegal ∧
    t.drivers.edptDriver = Function.update s.drivers.edptDriver (slotOf entry.epAddr) driver
  calls : t.calls = s.calls ++ [.edptOpen entry.epAddr entry.maxPacketSize xfer,
    .registerDriver entry.epAddr entry.maxPacketSize entry.itf]
  other : ∀ epAddr, epAddr ≠ entry.epAddr →
    (t.hwEndpoint epAddr).shape = (s.hwEndpoint epAddr).shape
  opened : 0 < (tuEdptNumber entry.epAddr).toNat → ∃ buffer,
    (t.hwEndpoint entry.epAddr).shape =
      openedShape (tuEdptNumber entry.epAddr).toNat (tuEdptDirIn entry.epAddr) buffer
        entry.maxPacketSize

/-- The registration of the endpoint descriptor at `pos` under an interface descriptor. -/
def registrationAt (arr : Buffer) (pos itf : Nat) : Registration :=
  ⟨EndpointPointer.bEndpointAddress ⟨arr, pos⟩, EndpointPointer.maxPacketSize ⟨arr, pos⟩,
    .ofBuffer arr itf⟩

theorem openEndpoint_ok {arr : Buffer} {pos : Nat} {itf : Option Nat} {s t : Master}
    (h : openEndpoint arr pos itf s = .ok () t) :
    ∃ interface, itf = some interface ∧
      EndpointOpened (registrationAt arr pos interface) (EndpointPointer.xfer ⟨arr, pos⟩) s t := by
  obtain ⟨_, _, hrecord, h⟩ := Program.bind_eq_ok h
  cases hrecord
  obtain ⟨_, _, hopen, h⟩ := Program.bind_eq_ok h
  obtain ⟨d, hinit, rfl⟩ := Program.onPart_eq_ok hopen
  obtain ⟨_, _, hread, h⟩ := Program.bind_eq_ok h
  cases hread
  obtain ⟨_, _, hregister, h⟩ := Program.bind_eq_ok h
  cases h
  obtain ⟨descriptor, driver, hitf, hdriver, hslot, hitfCopy, hedptDriver, hcalls, hshapes⟩ :=
    registerDriverForEdpt_ok hregister
  obtain ⟨hnum, hother, hopened⟩ := hwEndpointInit_ok hinit
  obtain ⟨interface, rfl, rfl⟩ := Option.map_eq_some_iff.mp hitf
  refine ⟨interface, rfl, hslot, hnum, hitfCopy, ⟨driver, hdriver, hedptDriver⟩, ?_,
    fun epAddr hne => ?_, fun hpos => ⟨s.dcd.nextBufferPtr, ?_⟩⟩
  · exact hcalls.trans (List.append_assoc _ _ _)
  · have hplace : ¬ ((tuEdptNumber epAddr).toNat = (tuEdptNumber _).toNat ∧
        tuEdptDirIn epAddr = tuEdptDirIn _) := fun h => hne (eq_of_place_eq h.1 h.2)
    exact (hshapes _ _).trans (congrArg HwEndpoint.shape (hother _ _ hplace))
  · exact (hshapes _ _).trans (hopened (Nat.ne_of_gt hpos))

/-- The registrations in the log after an endpoint is opened. -/
theorem EndpointOpened.logged {entry : Registration} {xfer : UInt8} {s t : Master}
    (h : EndpointOpened entry xfer s t) :
    registrations t.calls = registrations s.calls ++ [entry] ∧
      registrations (sinceBusReset t.calls) =
        registrations (sinceBusReset s.calls) ++ [entry] := by
  rw [h.calls, sinceBusReset_append (by simp), registrations_append, registrations_append]
  exact ⟨rfl, rfl⟩

theorem EndpointOpened.tablesLogged {entry : Registration} {xfer : UInt8} {s t : Master}
    (h : EndpointOpened entry xfer s t) (hs : TablesLogged s) : TablesLogged t := by
  obtain ⟨hall, hfresh⟩ := h.logged
  refine ⟨fun slot => ?_, fun slot => ?_, fun other hother => ?_, fun epAddr hnumbered => ?_⟩
  · rw [hall, lastIn_concat, h.itfCopy, Function.update_apply]
    by_cases hslot : slotOf entry.epAddr = slot
    · simp [hslot]
    · rw [if_neg (Ne.symm hslot), if_neg hslot]
      exact hs.itfCopy slot
  · obtain ⟨driver, hdriver, hedptDriver⟩ := h.edptDriver
    rw [hall, lastIn_concat, hedptDriver, Function.update_apply]
    by_cases hslot : slotOf entry.epAddr = slot
    · simp [hslot, hdriver]
    · rw [if_neg (Ne.symm hslot), if_neg hslot]
      exact hs.edptDriver slot
  · rw [hall] at hother
    rcases List.mem_append.mp hother with hin | hin
    · exact hs.inTable other hin
    · rw [List.mem_singleton.mp hin]
      exact ⟨h.slot, h.number⟩
  · rw [hfresh, lastIn_concat]
    by_cases haddr : epAddr = entry.epAddr
    · subst haddr
      rw [if_pos rfl]
      exact h.opened hnumbered.1
    · have hslot : slotOf entry.epAddr ≠ slotOf epAddr := fun hsame =>
        haddr (eq_of_slotOf_eq h.number hnumbered.2 hsame.symm)
      rw [if_neg hslot, h.other epAddr haddr]
      exact hs.shape epAddr hnumbered

theorem openEndpoint_keeps_tables (arr : Buffer) (pos : Nat) (itf : Option Nat) :
    Program.Ends (Program.Keeps TablesLogged) (openEndpoint arr pos itf) := by
  intro s _ t h hs
  obtain ⟨interface, -, hopened⟩ := openEndpoint_ok h
  exact hopened.tablesLogged hs

/-! ## What a response registers -/

/-- The endpoint descriptors that the walk meets, each with the interface it lies under. -/
def describedEndpoints (arr : Buffer) (len : Nat) : Nat → Nat → Option Nat → List Registration
  | 0, _, _ => []
  | fuel + 1, pos, itf =>
      if pos < len then
        let itf := nextInterface arr pos itf
        let here := if arr (pos + 1) = 0x05 then itf.toList.map (registrationAt arr pos) else []
        here ++ describedEndpoints arr len fuel (pos + (arr pos).toNat) itf
      else []

/-- The log of registrations grew by `entries`. -/
def Registers (entries : List Registration) (s t : Master) : Prop :=
  registrations t.calls = registrations s.calls ++ entries ∧
    registrations (sinceBusReset t.calls) = registrations (sinceBusReset s.calls) ++ entries

theorem SameTables.registers {s t : Master} (h : SameTables s t) : Registers [] s t :=
  ⟨h.all.trans (List.append_nil _).symm, h.fresh.trans (List.append_nil _).symm⟩

theorem Registers.trans {first second : List Registration} {s t u : Master}
    (h : Registers first s t) (k : Registers second t u) : Registers (first ++ second) s u := by
  refine ⟨?_, ?_⟩
  · rw [k.1, h.1, List.append_assoc]
  · rw [k.2, h.2, List.append_assoc]

/-- A walk that ends has registered the endpoint descriptors it met, in order. -/
theorem walk_registers (arr : Buffer) (len fuel pos : Nat) (itf : Option Nat) :
    Program.Ends (Registers (describedEndpoints arr len fuel pos itf))
      (walk arr len fuel pos itf) := by
  induction fuel generalizing pos itf with
  | zero =>
      refine .ite (.stop _) fun s _ t h => ?_
      cases h
      exact (refl_of SameTables s).registers
  | succ fuel ih =>
      intro s _ t h
      unfold walk at h
      unfold describedEndpoints
      by_cases hpos : pos < len
      · rw [if_pos hpos] at h ⊢
        obtain ⟨_, middle, hhere, hrest⟩ := Program.bind_eq_ok h
        refine Registers.trans ?_ (ih _ _ _ _ _ hrest)
        by_cases htype : arr (pos + 1) = 0x05
        · rw [Program.when_true htype] at hhere
          obtain ⟨interface, hitf, hopened⟩ := openEndpoint_ok hhere
          rw [if_pos htype, hitf]
          exact hopened.logged
        · rw [Program.when_false htype] at hhere
          cases hhere
          rw [if_neg htype]
          exact (refl_of SameTables s).registers
      · rw [if_neg hpos] at h ⊢
        cases h
        exact (refl_of SameTables s).registers

/-- A response that is handled to the end has registered its endpoint descriptors when it is
walked as a configuration, and nothing otherwise. -/
theorem handleSetupResponse_registers {s t : Master} (h : handleSetupResponse s = .ok () t) :
    Registers
      (if (ControlRequest.ofBuffer s.dcd.setupPacket).bRequest ≠ 0x5 ∧
          IsConfigRequest s.events.setup then
        describedEndpoints s.aggregator.bugger s.aggregator.len.toNat s.aggregator.len.toNat 0 none
      else []) s t := by
  obtain ⟨_, _, hread, h⟩ := Program.bind_eq_ok h
  cases hread
  obtain ⟨_, first, hrecord, h⟩ := Program.bind_eq_ok h
  obtain ⟨_, second, hdevice, h⟩ := Program.bind_eq_ok h
  have hfirst : SameTables s first := (record_response_same_tables _ _).ok hrecord
  have hsecond : SameTables first second :=
    (Program.Moves.when (handleDeviceDescriptor_same_tables _)).ok hdevice
  have hstart := (trans_of SameTables hfirst hsecond).registers
  by_cases hlive : (ControlRequest.ofBuffer s.dcd.setupPacket).bRequest = 0x5
  · rw [if_pos hlive] at h
    cases h
    simpa [hlive] using hstart
  · rw [if_neg hlive] at h
    obtain ⟨_, third, hwalk, hreport⟩ := Program.bind_eq_ok h
    have hend : SameTables third t :=
      (same_tables_of_only_transfers (handleHidReport_only_transfers _)).ok hreport
    by_cases hconfig : IsConfigRequest s.events.setup
    · rw [Program.when_true hconfig] at hwalk
      rw [if_pos ⟨hlive, hconfig⟩]
      simpa using (hstart.trans (walk_registers _ _ _ _ _ _ _ _ hwalk)).trans hend.registers
    · rw [Program.when_false hconfig] at hwalk
      cases hwalk
      rw [if_neg fun h => hconfig h.2]
      simpa using hstart.trans hend.registers

/-- A program that leaves the tables alone keeps them in line with the log. -/
theorem keeps_tables_of_same {α : Type} {program : MasterM α}
    (h : Program.Moves SameTables program) :
    Program.Ends (Program.Keeps TablesLogged) program :=
  h.ends.mono fun _ _ hsame => hsame.tablesLogged

theorem walk_keeps_tables (arr : Buffer) (len fuel pos : Nat) (itf : Option Nat) :
    Program.Ends (Program.Keeps TablesLogged) (walk arr len fuel pos itf) := by
  induction fuel generalizing pos itf with
  | zero => exact .ite (.stop _) (keeps_tables_of_same (.pure _))
  | succ fuel ih =>
      refine .ite ?_ (keeps_tables_of_same (.pure _))
      exact .bind (.when (openEndpoint_keeps_tables _ _ _)) fun _ => ih _ _

theorem handleSetupResponse_keeps_tables :
    Program.Ends (Program.Keeps TablesLogged) handleSetupResponse := by
  refine .read_bind fun s => .bind (keeps_tables_of_same (record_response_same_tables _ _))
    fun _ => ?_
  refine .bind (.when (keeps_tables_of_same (handleDeviceDescriptor_same_tables _))) fun _ => ?_
  refine .ite (keeps_tables_of_same (.pure _)) ?_
  refine .bind (.when (walk_keeps_tables _ _ _ _ _)) fun _ => ?_
  exact keeps_tables_of_same (same_tables_of_only_transfers (handleHidReport_only_transfers _))

theorem handleSetupData_keeps_tables (message : SlavePacket) :
    Program.Ends (Program.Keeps TablesLogged) (handleSetupData message) := by
  refine .bind (keeps_tables_of_same (registerResponse_same_tables _)) fun _ => .when ?_
  refine .bind handleSetupResponse_keeps_tables fun _ => keeps_tables_of_same ?_
  refine .bind (update_same_tables fun _ => ⟨rfl, rfl, rfl, rfl, fun _ _ => rfl⟩) fun _ => ?_
  refine .bind .read fun s => .when (same_tables_of_only_transfers ?_)
  exact dcdEdptXferNew_only_transfers _ _ _

theorem handleMessage_keeps_tables (msg : SpiMessage) :
    Program.Ends (Program.Keeps TablesLogged) (handleMessage msg) := by
  unfold handleMessage
  cases msg.payload.getLast? with
  | none => exact .stop _
  | some epAddr =>
      refine .bind (keeps_tables_of_same (.require _ _)) fun _ => ?_
      refine .ite (handleSetupData_keeps_tables _) (keeps_tables_of_same ?_)
      exact same_tables_of_only_transfers (handleSpiSlaveEventWithDriver_only_transfers _ _)

theorem handleSpiSlaveEvent_keeps_tables :
    Program.Ends (Program.Keeps TablesLogged) handleSpiSlaveEvent := by
  refine .read_bind fun s => .ite (keeps_tables_of_same ?_) ?_
  · refine .bind (.bind (update_same_tables fun _ => ⟨rfl, rfl, rfl, rfl, fun _ _ => rfl⟩)
      fun _ => .pure _) fun done => .when ?_
    exact update_same_tables fun _ => ⟨rfl, rfl, rfl, rfl, fun _ _ => rfl⟩
  · dsimp only
    cases (s.rx.dropWhile isString).remove with
    | none =>
        exact keeps_tables_of_same
          (update_same_tables fun _ => ⟨rfl, rfl, rfl, rfl, fun _ _ => rfl⟩)
    | some taken =>
        refine .bind (keeps_tables_of_same ?_) fun _ => handleMessage_keeps_tables _
        exact update_same_tables fun _ => ⟨rfl, rfl, rfl, rfl, fun _ _ => rfl⟩

/-- A bus reset clears the hardware endpoints and starts a new part of the log. It leaves the
driver tables as they are. -/
theorem handleBusReset_keeps_tables :
    Program.Ends (Program.Keeps TablesLogged) handleBusReset := by
  intro s _ t h hs
  cases h
  have hall : registrations (s.calls ++ [.busReset]) = registrations s.calls := by
    rw [registrations_append]
    exact List.append_nil _
  refine ⟨fun slot => ?_, fun slot => ?_, fun entry hentry => ?_, fun epAddr hnumbered => ?_⟩
  · exact (hs.itfCopy slot).trans (by rw [← hall])
  · exact (hs.edptDriver slot).trans (by rw [← hall])
  · exact hs.inTable entry (hall ▸ hentry)
  · have hfresh : registrations (sinceBusReset (s.calls ++ [.busReset])) = [] := by
      rw [sinceBusReset_busReset]
      rfl
    show ShapeAfter epAddr
      (lastIn (slotOf epAddr) (registrations (sinceBusReset (s.calls ++ [.busReset])))) _
    rw [hfresh]
    show HwEndpoint.shape (if _ then HwEndpoint.zero else _) = _
    rw [if_pos ⟨hnumbered.1, hnumbered.2⟩]

theorem dcdRp2040Irq_keeps_tables (ints : DcdInts) :
    Program.Ends (Program.Keeps TablesLogged) (dcdRp2040Irq ints) := by
  refine .bind (.when handleBusReset_keeps_tables) fun _ => ?_
  refine .bind (.when (keeps_tables_of_same handleSetupReq_same_tables)) fun _ => .when ?_
  exact keeps_tables_of_same (same_tables_of_only_transfers hwHandleBuffStatus_only_transfers)

/-! ## Runs -/

theorem Master.init_tablesLogged (romWord : BitVec 32) : TablesLogged (Master.init romWord) where
  itfCopy _ := rfl
  edptDriver _ := iff_of_true rfl rfl
  inTable _ hentry := nomatch hentry
  shape epAddr hnumbered := by
    show HwEndpoint.shape (if _ then HwEndpoint.zero else _) = _
    rw [if_pos ⟨hnumbered.1, hnumbered.2⟩]

theorem sendIn_hwEndpoints {d e : Dcd} {num : Nat} (h : sendIn d num = some e) :
    e.hwEndpoints = d.hwEndpoints := by
  simp only [sendIn, Option.bind_eq_bind, Option.bind_eq_some_iff] at h
  obtain ⟨_, -, _, -, h⟩ := h
  cases h
  rfl

theorem receiveOut_hwEndpoints {d e : Dcd} {num : Nat} {packet : Packet}
    (h : receiveOut d num packet = some e) : e.hwEndpoints = d.hwEndpoints := by
  simp only [receiveOut, Option.bind_eq_bind, Option.bind_eq_some_iff] at h
  obtain ⟨_, -, _, -, h⟩ := h
  cases h
  rfl

theorem TablesLogged.with_dcd {s : Master} (hs : TablesLogged s) {d : Dcd}
    (h : d.hwEndpoints = s.dcd.hwEndpoints) : TablesLogged { s with dcd := d } := by
  have hsame : SameTables s { s with dcd := d } :=
    ⟨rfl, rfl, rfl, rfl, fun num dirIn => by rw [h]⟩
  exact hsame.tablesLogged hs

theorem step_keeps_tables {m n : Core0} {event : Event} (hm : TablesLogged m.master)
    (hstep : step m event = some n) : TablesLogged n.master := by
  cases event with
  | hostSetup packet =>
      cases hstep
      exact ⟨hm.itfCopy, hm.edptDriver, hm.inTable, hm.shape⟩
  | hostReset =>
      cases hstep
      exact hm
  | hostIn num =>
      obtain ⟨d, hsend, rfl⟩ := Option.map_eq_some_iff.mp hstep
      exact hm.with_dcd (sendIn_hwEndpoints hsend)
  | hostOut num packet =>
      obtain ⟨d, hreceive, rfl⟩ := Option.map_eq_some_iff.mp hstep
      exact hm.with_dcd (receiveOut_hwEndpoints hreceive)
  | receive message =>
      obtain ⟨rx, -, rfl⟩ := Option.map_eq_some_iff.mp hstep
      exact ⟨hm.itfCopy, hm.edptDriver, hm.inTable, hm.shape⟩
  | handleSpiSlaveEvent =>
      obtain ⟨master, hrun, rfl⟩ := runHandler_eq_some hstep
      exact handleSpiSlaveEvent_keeps_tables _ _ _ hrun hm
  | dcdIrq =>
      obtain ⟨master, hrun, rfl⟩ := runHandler_eq_some hstep
      exact dcdRp2040Irq_keeps_tables _ _ _ _ hrun hm

/-- In every reachable state the tables are in line with the log. -/
theorem Reaches.tablesLogged {romWord : BitVec 32} {events : List Event} {m : Core0}
    (h : Reaches romWord events m) : TablesLogged m.master :=
  Machine.run_invariant (I := fun m => TablesLogged m.master)
    (fun _ _ _ hm hstep => step_keeps_tables hm hstep) (Master.init_tablesLogged romWord) h

/-! ## A configuration being fetched -/

/-- The last packet of a setup response. -/
def lastReply (bytes : List UInt8) (h : bytes.length < 2 ^ 15) : SpiMessage where
  eFlag := MsgType.isPacket ||| MsgType.setupData ||| MsgType.lastPacket
  payload := bytes ++ [0x80]
  payload_lt := by
    simp
    omega

/-- The host asks for 255 bytes of the configuration, and the slave answers in one message. -/
def fetchConfiguration (bytes : List UInt8) (h : bytes.length < 2 ^ 15) : List Event :=
  [.hostSetup ⟨0x80, 6, 0x0200, 0, 0xff⟩, .dcdIrq, .receive (lastReply bytes h),
    .handleSpiSlaveEvent, .handleSpiSlaveEvent]

end UsbSec.Device
