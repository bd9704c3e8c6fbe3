import UsbSec.Host.Reread

/-!
# Which slot of the pool an endpoint is opened in

`hcd_edpt_open` looks for a slot that is not configured. With room in the pool it changes that slot
and nothing of the others, and writes at most the registers with the number of the slot, unless the
endpoint has a polling interval but is no interrupt endpoint: its number is 255 then, which is no
index of the registers. In a full pool the search ends on the last slot, which is given to the new
endpoint in spite of the one that it holds.
-/

namespace UsbSec.Host

open Library Usb Rp2040

/-! ## What opening an endpoint may touch -/

/-- One slot that was free is changed, the other slots are the same, and of the registers of the
interrupt endpoints at most those of the slot are written. -/
structure TouchesOnly (slot : Nat) (h k : Hcd) : Prop where
  mem : slot ∈ interruptSlots
  free : (h.epPool slot).configured = false
  changed : k.epPool slot ≠ h.epPool slot
  others : ∀ other, other ≠ slot → k.epPool other = h.epPool other
  address : ∀ num, num ≠ slot - 1 → k.intEpAddrCtrl num = h.intEpAddrCtrl num
  enable : k.intEpCtrl = h.intEpCtrl ∨ k.intEpCtrl = h.intEpCtrl ||| 1#32 <<< slot

/-- Opening the endpoint touches only a free slot. Where every slot is taken, it fails and changes
nothing. -/
def OpensFreeSlot (desc : EndpointPointer) (devAddr : UInt8) (h : Hcd) : Prop :=
  match hcdEdptOpen desc devAddr h with
  | .ok _ k => ∃ slot, TouchesOnly slot h k
  | .error reason k => reason ≠ .undefined ∧
      ((∃ slot, TouchesOnly slot h k) ∨ Exhausted h ∧ k = h)

/-- The slot holds an endpoint with the registers of an interrupt endpoint. -/
def HoldsInterrupt (h : Hcd) (slot : Nat) : Prop :=
  (h.epPool slot).configured = true ∧ (h.epPool slot).interruptNum ≠ 255

/-- Different interrupt endpoints have different numbers and buffers. -/
def InterruptsApart (h : Hcd) : Prop :=
  ∀ slot ∈ interruptSlots, ∀ other ∈ interruptSlots, other ≠ slot →
    HoldsInterrupt h slot → HoldsInterrupt h other →
      (h.epPool other).interruptNum ≠ (h.epPool slot).interruptNum ∧
        (h.epPool other).hwDataBuf ≠ (h.epPool slot).hwDataBuf

/-- A slot with the registers of an interrupt endpoint has those with its own number. -/
theorem HoldsInterrupt.registers {h : Hcd} (hok : PoolOk h) {slot : Nat}
    (hslot : HoldsInterrupt h slot) :
    slot ∈ interruptSlots ∧ OnInterrupt (slot - 1) (h.epPool slot) ∧
      (h.epPool slot).interruptNum.toNat = slot - 1 := by
  have hopened := (hok slot).opened ((hok slot).registers hslot.1)
  cases hopened.registered with
  | epx registers num => exact absurd num hslot.2
  | interrupt mem registers num => exact ⟨mem, registers, num⟩

theorem PoolOk.interruptsApart {h : Hcd} (hok : PoolOk h) : InterruptsApart h := by
  intro slot hmem other hmem' hne hslot hother
  obtain ⟨-, hregisters, hnum⟩ := hslot.registers hok
  obtain ⟨-, hregisters', hnum'⟩ := hother.registers hok
  have hlow := (interruptSlots_bounds hmem).1
  have hlow' := (interruptSlots_bounds hmem').1
  constructor
  · intro hsame
    rw [hsame, hnum] at hnum'
    omega
  · intro hsame
    rw [hregisters.hwDataBuf, hregisters'.hwDataBuf] at hsame
    have hbuffer := Option.some.inj hsame
    omega

/-! ## Opening, step by step -/

/-- The controller once the endpoint in the slot is polled. -/
def polling (slot : Nat) (devAddr epAddr : UInt8) (h : Hcd) : Hcd :=
  let num := (h.epPool slot).interruptNum.toNat
  let reg := devAddr.toBitVec.setWidth 32 ||| (tuEdptNumber epAddr).toBitVec.setWidth 32 <<< 16
  let reg := if needPre h then reg ||| intepPreamble else reg
  { h with intEpAddrCtrl := Function.update h.intEpAddrCtrl num reg
           intEpCtrl := h.intEpCtrl ||| (1#32 <<< (num + 1)) }

theorem enablePolling_out {epAddr : UInt8} (hout : ¬ tuEdptDirIn epAddr = true) (slot : Nat)
    (devAddr : UInt8) (h : Hcd) : enablePolling slot devAddr epAddr h = .error .assertion h :=
  Program.require_stops hout _ _ h

theorem enablePolling_outside {slot : Nat} {epAddr : UInt8} {h : Hcd}
    (hin : tuEdptDirIn epAddr = true)
    (hnum : ¬ (h.epPool slot).interruptNum.toNat < hostInterruptEndpoints) (devAddr : UInt8) :
    enablePolling slot devAddr epAddr h = .error .undefined h := by
  unfold enablePolling
  rw [runtimeAssert, Program.require_bind hin, Program.read_bind]
  exact Program.require_stops hnum _ _ h

theorem enablePolling_polls {slot : Nat} {epAddr : UInt8} {h : Hcd}
    (hin : tuEdptDirIn epAddr = true)
    (hnum : (h.epPool slot).interruptNum.toNat < hostInterruptEndpoints) (devAddr : UInt8) :
    enablePolling slot devAddr epAddr h = .ok () (polling slot devAddr epAddr h) := by
  unfold enablePolling
  rw [runtimeAssert, Program.require_bind hin, Program.read_bind]
  exact Program.require_bind hnum _ _ h

/-- `_hw_endpoint_init` on a slot with registers. -/
theorem hostEndpointInit_apply {slot : Nat} {h : Hcd} (hslot : Registered slot (h.epPool slot))
    (devAddr epAddr : UInt8) (wMaxPacketSize : UInt16) (transferType bmInterval : UInt8) :
    hostEndpointInit slot devAddr epAddr wMaxPacketSize transferType bmInterval h =
      Program.when (bmInterval ≠ 0) (enablePolling slot devAddr epAddr)
        (slotInitialised slot devAddr epAddr wMaxPacketSize transferType bmInterval h) := by
  obtain ⟨hcontrol, hbuffer⟩ := hslot.pointers
  obtain ⟨hdata, haligned⟩ := hslot.hwDataBuf
  unfold hostEndpointInit
  rw [Program.read_bind, runtimeAssert, Program.require_bind hcontrol, runtimeAssert,
    Program.require_bind hbuffer, runtimeAssert, Program.require_bind hdata,
    Program.bind_ok (onSlot_change _ _ _)]
  dsimp only
  rw [runtimeAssert, Program.require_bind haligned, Program.update_bind,
    Program.bind_ok (onSlot_change _ _ _)]
  simp [slotInitialised, withSlot]

theorem slotInitialised_same (slot : Nat) (devAddr epAddr : UInt8) (wMaxPacketSize : UInt16)
    (transferType bmInterval : UInt8) (h : Hcd) :
    (slotInitialised slot devAddr epAddr wMaxPacketSize transferType bmInterval h).epPool slot =
      { HwEndpoint.initialised devAddr epAddr wMaxPacketSize transferType (h.epPool slot) with
        configured := true } := Function.update_self _ _ _

theorem slotInitialised_other {slot other : Nat} (hother : other ≠ slot) (devAddr epAddr : UInt8)
    (wMaxPacketSize : UInt16) (transferType bmInterval : UInt8) (h : Hcd) :
    (slotInitialised slot devAddr epAddr wMaxPacketSize transferType bmInterval h).epPool other =
      h.epPool other := Function.update_of_ne hother _ _

/-! ## A pool with room -/

/-- The endpoint has a polling interval and is for packets from the device, but is no interrupt
endpoint. -/
def PolledByMistake (desc : EndpointPointer) : Prop :=
  desc.bInterval ≠ 0 ∧ tuEdptDirIn desc.bEndpointAddress = true ∧ desc.xfer ≠ xferInterrupt

instance (desc : EndpointPointer) : Decidable (PolledByMistake desc) :=
  inferInstanceAs (Decidable (_ ∧ _ ∧ _))

/-- Filling in a free slot touches only that slot. -/
theorem slotInitialised_touchesOnly {slot : Nat} {h : Hcd} {ep : HwEndpoint}
    (hmem : slot ∈ interruptSlots) (hfree : (h.epPool slot).configured = false)
    (devAddr epAddr : UInt8) (wMaxPacketSize : UInt16) (transferType bmInterval : UInt8) :
    TouchesOnly slot h (slotInitialised slot devAddr epAddr wMaxPacketSize transferType bmInterval
      (withSlot h slot ep)) where
  mem := hmem
  free := hfree
  changed := by
    intro hsame
    have hconfigured := congrArg HwEndpoint.configured hsame
    rw [hfree, slotInitialised_same] at hconfigured
    cases hconfigured
  others other hother := by
    rw [slotInitialised_other hother, withSlot_other _ _ hother]
  address _ _ := rfl
  enable := .inl rfl

/-- Polling the endpoint in a slot writes the registers with its number. -/
theorem TouchesOnly.polling {slot : Nat} {h k : Hcd} (htouches : TouchesOnly slot h k)
    (hnum : (k.epPool slot).interruptNum.toNat = slot - 1) (hkept : k.intEpCtrl = h.intEpCtrl)
    (devAddr epAddr : UInt8) : TouchesOnly slot h (polling slot devAddr epAddr k) where
  mem := htouches.mem
  free := htouches.free
  changed := htouches.changed
  others := htouches.others
  address num hother := by
    refine Eq.trans ?_ (htouches.address num hother)
    refine Function.update_of_ne (fun hsame => hother ?_) _ _
    rw [hsame, hnum]
  enable := by
    right
    show k.intEpCtrl ||| 1#32 <<< ((k.epPool slot).interruptNum.toNat + 1) = _
    rw [hnum, hkept, Nat.sub_add_cancel (interruptSlots_bounds htouches.mem).1]

/-- A number in range is that of the slot. -/
theorem registered_number {slot : Nat} {ep : HwEndpoint} (h : Registered slot ep)
    (hlt : ep.interruptNum.toNat < hostInterruptEndpoints) : ep.interruptNum.toNat = slot - 1 := by
  cases h with
  | epx _ num =>
      rw [num] at hlt
      exact absurd hlt (by decide)
  | interrupt _ _ num => exact num

/-- With room in the pool a free slot and nothing else is touched, unless the number of an endpoint
that is no interrupt endpoint is used as an index. -/
theorem opensFreeSlot_room {desc : EndpointPointer} {h : Hcd} (devAddr : UInt8)
    (hroom : ¬ Exhausted h) (haddress : desc.bEndpointAddress ≠ 0) :
    OpensFreeSlot desc devAddr h ↔ ¬ PolledByMistake desc := by
  obtain ⟨slot, hmem, ep, hfree, halloc, hregistered, hnum⟩ :=
    hwEndpointAllocate_free desc.xfer hroom haddress
  have hready : Registered slot ((withSlot h slot ep).epPool slot) := by
    rw [withSlot_same]
    exact hregistered
  let opened := slotInitialised slot devAddr desc.bEndpointAddress desc.maxPacketSize desc.xfer
    desc.bInterval (withSlot h slot ep)
  have hnumber : (opened.epPool slot).interruptNum = ep.interruptNum := by
    rw [slotInitialised_same, withSlot_same]
    rfl
  have htouches : TouchesOnly slot h opened := slotInitialised_touchesOnly hmem hfree _ _ _ _ _
  have hrun : hcdEdptOpen desc devAddr h = Program.when (desc.bInterval ≠ 0)
      (enablePolling slot devAddr desc.bEndpointAddress) opened :=
    (Program.bind_ok halloc).trans (hostEndpointInit_apply hready _ _ _ _ _)
  unfold OpensFreeSlot
  rw [hrun]
  by_cases hinterval : desc.bInterval = 0
  · rw [Program.when_false (not_not.mpr hinterval)]
    exact iff_of_true ⟨slot, htouches⟩ fun hmistake => hmistake.1 hinterval
  rw [Program.when_true hinterval]
  by_cases hin : tuEdptDirIn desc.bEndpointAddress = true
  · by_cases htype : desc.xfer = xferInterrupt
    · have hlt : (opened.epPool slot).interruptNum.toNat < hostInterruptEndpoints := by
        rw [hnumber]
        exact hnum.mpr htype
      rw [enablePolling_polls hin hlt]
      refine iff_of_true ⟨slot, htouches.polling ?_ rfl _ _⟩ fun hmistake => hmistake.2.2 htype
      rw [hnumber]
      exact registered_number hregistered (hnum.mpr htype)
    · have hout : ¬ (opened.epPool slot).interruptNum.toNat < hostInterruptEndpoints := by
        rw [hnumber]
        exact fun hlt => htype (hnum.mp hlt)
      rw [enablePolling_outside hin hout]
      exact iff_of_false (fun hopens => hopens.1 rfl) (not_not.mpr ⟨hinterval, hin, htype⟩)
  · rw [enablePolling_out hin]
    exact iff_of_true ⟨nofun, .inl ⟨slot, htouches⟩⟩ fun hmistake => hin hmistake.2.1

/-! ## A full pool -/

/-- The last slot holds just what opening the endpoint puts there, and the call stops over the
polling interval of an endpoint towards the device. -/
structure LastSlotHas (desc : EndpointPointer) (devAddr : UInt8) (h : Hcd) : Prop where
  interval : desc.bInterval ≠ 0
  out : ¬ tuEdptDirIn desc.bEndpointAddress = true
  type : desc.xfer = xferInterrupt ↔ (h.epPool hostInterruptEndpoints).interruptNum ≠ 255
  entry : HwEndpoint.initialised devAddr desc.bEndpointAddress desc.maxPacketSize desc.xfer
    (h.epPool hostInterruptEndpoints) = h.epPool hostInterruptEndpoints
  control : ∀ pointer, (h.epPool hostInterruptEndpoints).endpointControl = some pointer →
    h.memory.word pointer = hostEndpointReg desc.xfer
      (hwDataOffset ((h.epPool hostInterruptEndpoints).hwDataBuf.getD 0)) desc.bInterval

theorem not_touchesOnly {h k : Hcd} (hfull : Exhausted h) : ¬ ∃ slot, TouchesOnly slot h k := by
  rintro ⟨slot, htouches⟩
  have hconfigured := hfull slot htouches.mem
  rw [htouches.free] at hconfigured
  cases hconfigured

theorem nextFreeInterruptEp_full {h : Hcd} (hfull : Exhausted h) :
    nextFreeInterruptEp h = .ok hostInterruptEndpoints h := by
  have hnone : interruptSlots.find? (fun i => !(h.epPool i).configured) = none :=
    List.find?_eq_none.mpr (by simpa [Exhausted] using hfull)
  unfold nextFreeInterruptEp
  rw [Program.read_bind, hnone]
  rfl

theorem withSlot_self (h : Hcd) (slot : Nat) : withSlot h slot (h.epPool slot) = h := by
  unfold withSlot
  rw [Function.update_eq_self]

/-- An endpoint that has its registers is given nothing new. -/
theorem onInterruptRegisters_self {num : Nat} {ep : HwEndpoint} (h : OnInterrupt num ep) :
    ep.onInterruptRegisters num = ep := by
  unfold HwEndpoint.onInterruptRegisters
  rw [← h.bufferControl, ← h.endpointControl, ← h.hwDataBuf]

theorem onEpxRegisters_self {ep : HwEndpoint} (h : OnEpx ep) (hnum : ep.interruptNum = 255) :
    ep.onEpxRegisters = ep := by
  unfold HwEndpoint.onEpxRegisters
  rw [← h.bufferControl, ← h.endpointControl, ← h.hwDataBuf, ← hnum]

/-- Filling in a configured slot changes nothing exactly when it holds all of it already. -/
theorem slotInitialised_eq_self {slot : Nat} {h : Hcd}
    (hconfigured : (h.epPool slot).configured = true) {pointer : Nat}
    (hpointer : (h.epPool slot).endpointControl = some pointer) (devAddr epAddr : UInt8)
    (wMaxPacketSize : UInt16) (transferType bmInterval : UInt8) :
    slotInitialised slot devAddr epAddr wMaxPacketSize transferType bmInterval h = h ↔
      HwEndpoint.initialised devAddr epAddr wMaxPacketSize transferType (h.epPool slot) =
        h.epPool slot ∧
      h.memory.word pointer = hostEndpointReg transferType
        (hwDataOffset ((h.epPool slot).hwDataBuf.getD 0)) bmInterval := by
  let ready := HwEndpoint.initialised devAddr epAddr wMaxPacketSize transferType (h.epPool slot)
  have hready : { ready with configured := true } = ready := by
    have hsame : ready.configured = true := hconfigured
    rw [← hsame]
  constructor
  · intro hsame
    constructor
    · have hslot := slotInitialised_same slot devAddr epAddr wMaxPacketSize transferType bmInterval h
      rw [hsame] at hslot
      exact hready.symm.trans hslot.symm
    · have hmemory := congrArg Hcd.memory hsame
      rw [← hmemory, slotInitialised, hpointer]
      exact Memory.writeWord_same _ _ _
  · rintro ⟨hentry, hword⟩
    unfold slotInitialised
    dsimp only
    rw [show { ready with configured := true } = h.epPool slot from hready.trans hentry,
      Function.update_eq_self, hpointer, ← hword]
    unfold Memory.writeWord
    dsimp only
    rw [Function.update_eq_self]

theorem hwEndpointAllocate_full_interrupt {transferType : UInt8} (epAddr : UInt8) {h : Hcd}
    (hfull : Exhausted h) (htype : transferType = xferInterrupt) :
    hwEndpointAllocate transferType epAddr h =
      if (h.epPool hostInterruptEndpoints).interruptNum.toNat < hostInterruptEndpoints then
        .ok hostInterruptEndpoints (withSlot h hostInterruptEndpoints
          ((h.epPool hostInterruptEndpoints).onInterruptRegisters
            (h.epPool hostInterruptEndpoints).interruptNum.toNat))
      else .error .undefined h := by
  unfold hwEndpointAllocate
  rw [if_pos htype, Program.bind_ok (nextFreeInterruptEp_full hfull), Program.read_bind]
  by_cases hnum : (h.epPool hostInterruptEndpoints).interruptNum.toNat < hostInterruptEndpoints
  · rw [if_pos hnum]
    exact Program.require_bind hnum _ _ h
  · rw [if_neg hnum]
    exact Program.require_stops hnum _ _ h

theorem hwEndpointAllocate_full_epx {transferType epAddr : UInt8} {h : Hcd} (hfull : Exhausted h)
    (htype : transferType ≠ xferInterrupt) (haddress : epAddr ≠ 0) :
    hwEndpointAllocate transferType epAddr h = .ok hostInterruptEndpoints
      (withSlot h hostInterruptEndpoints (h.epPool hostInterruptEndpoints).onEpxRegisters) := by
  unfold hwEndpointAllocate
  rw [if_neg htype]
  dsimp only
  rw [if_neg haddress, Program.bind_ok (nextFreeInterruptEp_full hfull)]
  rfl

/-- In a full pool the call is as it should be only where it stops over the polling interval and has
changed nothing. -/
theorem opensFreeSlot_last {desc : EndpointPointer} {devAddr : UInt8} {h k : Hcd} {slot : Nat}
    (hfull : Exhausted h)
    (halloc : hwEndpointAllocate desc.xfer desc.bEndpointAddress h = .ok slot k)
    (hregistered : Registered slot (k.epPool slot)) :
    OpensFreeSlot desc devAddr h ↔ desc.bInterval ≠ 0 ∧
      ¬ tuEdptDirIn desc.bEndpointAddress = true ∧
        slotInitialised slot devAddr desc.bEndpointAddress desc.maxPacketSize desc.xfer
          desc.bInterval k = h := by
  have hrun : hcdEdptOpen desc devAddr h = Program.when (desc.bInterval ≠ 0)
      (enablePolling slot devAddr desc.bEndpointAddress)
        (slotInitialised slot devAddr desc.bEndpointAddress desc.maxPacketSize desc.xfer
          desc.bInterval k) :=
    (Program.bind_ok halloc).trans (hostEndpointInit_apply hregistered _ _ _ _ _)
  unfold OpensFreeSlot
  rw [hrun]
  by_cases hinterval : desc.bInterval = 0
  · rw [Program.when_false (not_not.mpr hinterval)]
    exact iff_of_false (not_touchesOnly hfull) fun hlast => hlast.1 hinterval
  rw [Program.when_true hinterval, and_iff_right hinterval]
  by_cases hin : tuEdptDirIn desc.bEndpointAddress = true
  · refine iff_of_false ?_ fun hlast => hlast.1 hin
    generalize slotInitialised slot devAddr desc.bEndpointAddress desc.maxPacketSize desc.xfer
      desc.bInterval k = opened
    by_cases hnum : (opened.epPool slot).interruptNum.toNat < hostInterruptEndpoints
    · rw [enablePolling_polls hin hnum]
      exact not_touchesOnly hfull
    · rw [enablePolling_outside hin hnum]
      exact fun hopens => hopens.1 rfl
  · rw [enablePolling_out hin, and_iff_right hin]
    constructor
    · rintro ⟨-, htouches | ⟨-, hsame⟩⟩
      · exact absurd htouches (not_touchesOnly hfull)
      · exact hsame
    · exact fun hsame => ⟨nofun, .inr ⟨hfull, hsame⟩⟩

/-- A full pool: the endpoint in the last slot is changed, or an index is out of range, unless the
slot has all of the endpoint already and the call stops. -/
theorem opensFreeSlot_full {desc : EndpointPointer} {h : Hcd} (devAddr : UInt8) (hok : PoolOk h)
    (hfull : Exhausted h) (haddress : desc.bEndpointAddress ≠ 0) :
    OpensFreeSlot desc devAddr h ↔ LastSlotHas desc devAddr h := by
  have hmem : hostInterruptEndpoints ∈ interruptSlots := by decide
  have hconfigured := hfull hostInterruptEndpoints hmem
  have hregistered : Registered hostInterruptEndpoints (h.epPool hostInterruptEndpoints) :=
    ((hok _).opened ((hok _).registers hconfigured)).registered
  obtain ⟨pointer, hpointer⟩ := Option.ne_none_iff_exists'.mp hregistered.pointers.1
  -- Where the slot has the registers of the type already, it keeps all that is not filled in.
  have hkept (halloc : hwEndpointAllocate desc.xfer desc.bEndpointAddress h =
      .ok hostInterruptEndpoints h)
      (htype : desc.xfer = xferInterrupt ↔
        (h.epPool hostInterruptEndpoints).interruptNum ≠ 255) :
      OpensFreeSlot desc devAddr h ↔ LastSlotHas desc devAddr h := by
    rw [opensFreeSlot_last hfull halloc hregistered,
      slotInitialised_eq_self hconfigured hpointer]
    constructor
    · rintro ⟨hinterval, hout, hentry, hword⟩
      refine ⟨hinterval, hout, htype, hentry, fun other hother => ?_⟩
      cases hpointer.symm.trans hother
      exact hword
    · exact fun hlast => ⟨hlast.interval, hlast.out, hlast.entry, hlast.control _ hpointer⟩
  by_cases htype : desc.xfer = xferInterrupt
  · have halloc := hwEndpointAllocate_full_interrupt desc.bEndpointAddress hfull htype
    cases hregistered with
    | epx _ num =>
        rw [if_neg (by rw [num]; decide)] at halloc
        have hrun : hcdEdptOpen desc devAddr h = .error .undefined h := Program.bind_error halloc
        unfold OpensFreeSlot
        rw [hrun]
        exact iff_of_false (fun hopens => hopens.1 rfl) fun hlast => hlast.type.mp htype num
    | interrupt _ registers num =>
        rw [num, if_pos (by decide), onInterruptRegisters_self registers, withSlot_self] at halloc
        refine hkept halloc (iff_of_true htype fun hepx => ?_)
        rw [hepx] at num
        exact absurd num (by decide)
  · have halloc := hwEndpointAllocate_full_epx hfull htype haddress
    cases hregistered with
    | epx registers num =>
        rw [onEpxRegisters_self registers num, withSlot_self] at halloc
        exact hkept halloc (iff_of_false htype (not_not.mpr num))
    | interrupt _ _ num =>
        have hready : Registered hostInterruptEndpoints ((withSlot h hostInterruptEndpoints
            (h.epPool hostInterruptEndpoints).onEpxRegisters).epPool hostInterruptEndpoints) := by
          rw [withSlot_same]
          exact .epx ⟨rfl, rfl, rfl⟩ rfl
        have hnum : (h.epPool hostInterruptEndpoints).interruptNum ≠ 255 := by
          intro hepx
          rw [hepx] at num
          exact absurd num (by decide)
        rw [opensFreeSlot_last hfull halloc hready]
        refine iff_of_false (fun hlast => hnum ?_) fun hlast => htype (hlast.type.mpr hnum)
        -- The slot has another number than before.
        have hslot := congrArg (fun k => (k.epPool hostInterruptEndpoints).interruptNum) hlast.2.2
        rw [slotInitialised_same, withSlot_same] at hslot
        exact hslot.symm

/-! ## Reachable states -/

/-- The endpoint can be opened in a free slot: there is one, and the endpoint is not polled by
mistake. In a full pool the last slot must have it already. -/
def CanOpenFreeSlot (desc : EndpointPointer) (devAddr : UInt8) (h : Hcd) : Prop :=
  ¬ Exhausted h ∧ ¬ PolledByMistake desc ∨ Exhausted h ∧ LastSlotHas desc devAddr h

/-- In every state of a run in which core 0 has not stopped, opening an endpoint touches only a free
slot exactly when there is one and the endpoint is not polled by mistake, or nothing is left to
change. The interrupt endpoints have different numbers and buffers. -/
theorem opensFreeSlot_iff {romWord : BitVec 32} {events : List Event} {m : Core0}
    (hrun : Machine.run step (.init romWord) events = some m) (hrunning : m.halted = none)
    (desc : EndpointPointer) (haddress : desc.bEndpointAddress ≠ 0) (devAddr : UInt8) :
    OpensFreeSlot desc devAddr m.slave.hcd ∧ InterruptsApart m.slave.hcd ↔
      CanOpenFreeSlot desc devAddr m.slave.hcd := by
  have hok := poolOk_of_run hrun hrunning
  rw [and_iff_left hok.interruptsApart]
  unfold CanOpenFreeSlot
  by_cases hfull : Exhausted m.slave.hcd
  · rw [opensFreeSlot_full devAddr hok hfull haddress]
    simp [hfull]
  · rw [opensFreeSlot_room devAddr hfull haddress]
    simp [hfull]

/-- The endpoint 0x81, for bulk transfers in packets of 64 bytes. -/
def bulkEndpoint : EndpointPointer where
  bytes := fun i => [7, 5, 0x81, 2, 64, 0, 0].getD i 0
  pos := 0

theorem fillMessage_lt : ([7, 5, 0x81, 2, 64, 0, 0] : List UInt8).length < 2 ^ 16 := by decide

/-- The master asks the slave for the endpoint 15 times. -/
def fillPool : List Event :=
  (List.replicate 15 [.receive ⟨MsgType.edptOpen, [7, 5, 0x81, 2, 64, 0, 0], fillMessage_lt⟩,
    .slavework]).flatten

theorem pollMessage_lt (epAddr : UInt8) :
    ([7, 5, epAddr, 3, 8, 0, 10] : List UInt8).length < 2 ^ 16 := by simp

/-- The master asks the slave for an interrupt endpoint. -/
def openPolled (epAddr : UInt8) : List Event :=
  [.receive ⟨MsgType.edptOpen, [7, 5, epAddr, 3, 8, 0, 10], pollMessage_lt epAddr⟩, .slavework]

/-- Behind two interrupt endpoints and five others the eighth slot is free. -/
theorem sevenSlots_opensFreeSlot :
    ∃ m, Machine.run step (.init 0) (openPolled 0x83 ++ openPolled 0x84 ++ fillPool.take 10) =
        some m ∧
      (∀ slot ∈ interruptSlots, (m.slave.hcd.epPool slot).configured = decide (slot ≤ 7)) ∧
      OpensFreeSlot bulkEndpoint 1 m.slave.hcd ∧ InterruptsApart m.slave.hcd := by
  have hends : ∃ m, Machine.run step (.init 0)
      (openPolled 0x83 ++ openPolled 0x84 ++ fillPool.take 10) = some m ∧ m.halted = none ∧
      ∀ slot ∈ interruptSlots, (m.slave.hcd.epPool slot).configured = decide (slot ≤ 7) :=
    Machine.exists_run_of_any (by decide +kernel)
  obtain ⟨m, hrun, hrunning, hslots⟩ := hends
  have hfree : ¬ Exhausted m.slave.hcd := by
    intro hfull
    have hlast := hfull 8 (by decide)
    rw [hslots 8 (by decide)] at hlast
    exact absurd hlast (by decide)
  have hroom : CanOpenFreeSlot bulkEndpoint 1 m.slave.hcd := .inl ⟨hfree, by decide⟩
  obtain ⟨hopens, hapart⟩ := (opensFreeSlot_iff hrun hrunning bulkEndpoint (by decide) 1).mpr hroom
  exact ⟨m, hrun, hslots, hopens, hapart⟩

/-- Once the pool is full, the endpoint in the last slot is opened once more. -/
theorem fullPool_not_opensFreeSlot :
    ¬ ∀ romWord events m desc devAddr,
      Machine.run step (.init romWord) events = some m → m.halted = none →
      desc.bEndpointAddress ≠ 0 →
        OpensFreeSlot desc devAddr m.slave.hcd ∧ InterruptsApart m.slave.hcd := by
  intro h
  have hends : ∃ m, Machine.run step (.init 0) fillPool = some m ∧ m.halted = none ∧
      Exhausted m.slave.hcd := Machine.exists_run_of_any (by decide +kernel)
  obtain ⟨m, hrun, hrunning, hfull⟩ := hends
  have hopens := (h 0 fillPool m bulkEndpoint 1 hrun hrunning (by decide)).1
  have hlast := (opensFreeSlot_full 1 (poolOk_of_run hrun hrunning) hfull (by decide)).mp hopens
  exact hlast.interval (by decide)

end UsbSec.Host
