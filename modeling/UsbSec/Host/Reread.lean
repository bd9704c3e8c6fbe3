import UsbSec.Host.Known
import UsbSec.Usb.Configuration

/-!
# Opening endpoints again and again

Every request to open an endpoint takes another slot of the pool, whether or not a slot has the
endpoint already. So a pool with room for all requests has as many slots with an endpoint as there
were requests for it.
-/

namespace UsbSec.Host

open Library Usb Rp2040

/-! ## Opening one endpoint -/

/-- The slot can be polled by the controller, or is not to be. -/
def Pollable (ep : HwEndpoint) (epAddr bmInterval : UInt8) : Prop :=
  bmInterval ≠ 0 → tuEdptDirIn epAddr = true ∧ ep.interruptNum.toNat < hostInterruptEndpoints

theorem Registered.hwDataBuf {slot : Nat} {ep : HwEndpoint} (h : Registered slot ep) :
    ep.hwDataBuf ≠ none ∧ hwDataOffset (ep.hwDataBuf.getD 0) % 64 = 0 := by
  cases h with
  | epx registers _ =>
      rw [registers.hwDataBuf]
      decide
  | interrupt mem registers _ =>
      rw [registers.hwDataBuf, Option.getD_some, (interruptData_offset (interruptSlots_num mem)).1]
      refine ⟨Option.some_ne_none _, ?_⟩
      show (0x180 + 64 * (slot - 1 + 2)) % 64 = 0
      omega

theorem Registered.pointers {slot : Nat} {ep : HwEndpoint} (h : Registered slot ep) :
    ep.endpointControl ≠ none ∧ ep.bufferControl ≠ none := by
  cases h with
  | epx registers _ =>
      rw [registers.endpointControl, registers.bufferControl]
      exact ⟨Option.some_ne_none _, Option.some_ne_none _⟩
  | interrupt mem registers _ =>
      rw [registers.endpointControl, registers.bufferControl]
      exact ⟨Option.some_ne_none _, Option.some_ne_none _⟩

theorem onSlot_change (slot : Nat) (change : HwEndpoint → HwEndpoint) (h : Hcd) :
    onSlot slot (setEp change) h = .ok () (withSlot h slot (change (h.epPool slot))) := rfl

theorem enablePolling_outcome (slot : Nat) (devAddr epAddr : UInt8) (h : Hcd) :
    Program.Outcome (enablePolling slot devAddr epAddr) h
      (fun _ _ => tuEdptDirIn epAddr = true ∧
        (h.epPool slot).interruptNum.toNat < hostInterruptEndpoints)
      (fun _ => ¬ (tuEdptDirIn epAddr = true ∧
        (h.epPool slot).interruptNum.toNat < hostInterruptEndpoints)) := by
  refine .require_bind (fun hdir => .read_bind ?_) fun hdir hboth => hdir hboth.1
  exact .require_bind (fun hnum => .of_ok rfl ⟨hdir, hnum⟩) fun hnum hboth => hnum hboth.2

/-- A slot with registers can be set up exactly when it can be polled, or need not be. -/
theorem hostEndpointInit_outcome {slot : Nat} {h : Hcd} (hslot : Registered slot (h.epPool slot))
    (devAddr epAddr : UInt8) (wMaxPacketSize : UInt16) (transferType bmInterval : UInt8) :
    Program.Outcome (hostEndpointInit slot devAddr epAddr wMaxPacketSize transferType bmInterval) h
      (fun _ _ => Pollable (h.epPool slot) epAddr bmInterval)
      (fun _ => ¬ Pollable (h.epPool slot) epAddr bmInterval) := by
  obtain ⟨hcontrol, hbuffer⟩ := hslot.pointers
  obtain ⟨hdata, haligned⟩ := hslot.hwDataBuf
  refine .read_bind (.require_bind (fun _ => ?_) fun hnone => absurd hcontrol hnone)
  refine .require_bind (fun _ => ?_) fun hnone => absurd hbuffer hnone
  refine .require_bind (fun _ => ?_) fun hnone => absurd hdata hnone
  refine .of_eq (Program.bind_ok (onSlot_change _ _ _)) ?_
  refine .require_bind (fun _ => ?_) fun hodd => absurd haligned hodd
  refine .of_eq (Program.update_bind _ _ _) (.of_eq (Program.bind_ok (onSlot_change _ _ _)) ?_)
  refine .when (fun hpolled => ?_) fun hnot hpolled => absurd hpolled hnot
  let first := withSlot h slot
    (HwEndpoint.initialised devAddr epAddr wMaxPacketSize transferType (h.epPool slot))
  let reg := hostEndpointReg transferType (hwDataOffset ((h.epPool slot).hwDataBuf.getD 0)) bmInterval
  let memory := first.memory.writeWord (h.epPool slot).endpointControl reg
  let second : Hcd := { first with memory := memory }
  let third := withSlot second slot { second.epPool slot with configured := true }
  have hnum : (third.epPool slot).interruptNum = (h.epPool slot).interruptNum := by
    rw [withSlot_same]
    show (first.epPool slot).interruptNum = _
    rw [withSlot_same]
    rfl
  have hpolling := enablePolling_outcome slot devAddr epAddr third
  rw [hnum] at hpolling
  exact hpolling.mono (fun _ _ hok _ => hok) fun _ hnot hall => hnot (hall hpolled)

@[simp] theorem withSlot_withSlot (h : Hcd) (slot : Nat) (first second : HwEndpoint) :
    withSlot (withSlot h slot first) slot second = withSlot h slot second := by
  unfold withSlot
  rw [Function.update_idem]

/-- While the pool has room an endpoint other than endpoint 0 is given the registers of its type in
a free slot. -/
theorem hwEndpointAllocate_free (transferType : UInt8) {epAddr : UInt8} {h : Hcd}
    (hroom : ¬ Exhausted h) (haddress : epAddr ≠ 0) :
    ∃ slot ∈ interruptSlots, ∃ ep, (h.epPool slot).configured = false ∧
      hwEndpointAllocate transferType epAddr h = .ok slot (withSlot h slot ep) ∧
      Registered slot ep ∧
      (ep.interruptNum.toNat < hostInterruptEndpoints ↔ transferType = xferInterrupt) := by
  obtain ⟨free, hfree⟩ : ∃ free, interruptSlots.find? (fun i => !(h.epPool i).configured) =
      some free := by
    rw [← Option.isSome_iff_exists, List.find?_isSome]
    simpa [Exhausted] using hroom
  have hmem := List.mem_of_find?_eq_some hfree
  have hunused : (h.epPool free).configured = false := by simpa using List.find?_some hfree
  have hnum : free - 1 < 15 := interruptSlots_num hmem
  let numbered : HwEndpoint := { h.epPool free with interruptNum := UInt8.ofNat (free - 1) }
  have hsearch : nextFreeInterruptEp h = .ok free (withSlot h free numbered) := by
    unfold nextFreeInterruptEp
    rw [Program.read_bind, hfree]
    rfl
  have hnumber : numbered.interruptNum.toNat = free - 1 := by
    show (UInt8.ofNat (free - 1)).toNat = free - 1
    rw [UInt8.toNat_ofNat']
    omega
  unfold hwEndpointAllocate
  by_cases htype : transferType = xferInterrupt
  · rw [if_pos htype]
    refine ⟨free, hmem, numbered.onInterruptRegisters (free - 1), hunused, ?_, ?_, ?_⟩
    · rw [Program.bind_ok hsearch, Program.read_bind, withSlot_same, hnumber]
      refine (Program.require_bind hnum _ _ _).trans ?_
      rw [Program.bind_ok (onSlot_change _ _ _), withSlot_same, withSlot_withSlot]
      rfl
    · exact .interrupt hmem ⟨rfl, rfl, rfl⟩ hnumber
    · exact ⟨fun _ => htype, fun _ => hnumber ▸ hnum⟩
  · rw [if_neg htype]
    dsimp only
    rw [if_neg haddress]
    refine ⟨free, hmem, numbered.onEpxRegisters, hunused, ?_, .epx ⟨rfl, rfl, rfl⟩ rfl, ?_⟩
    · rw [Program.bind_ok hsearch, Program.bind_ok (onSlot_change _ _ _), withSlot_same,
        withSlot_withSlot]
      rfl
    · have hno : ¬ (255 : UInt8).toNat < hostInterruptEndpoints := by decide
      exact iff_of_false hno htype

/-- An endpoint that is to be polled is an interrupt endpoint towards the host. -/
def Polled (desc : EndpointPointer) : Prop :=
  desc.bInterval ≠ 0 → desc.xfer = xferInterrupt ∧ tuEdptDirIn desc.bEndpointAddress = true

instance (desc : EndpointPointer) : Decidable (Polled desc) := inferInstanceAs (Decidable (_ → _))

/-- A free slot now has the endpoint, and the other slots are as before. -/
def Adds (epAddr : UInt8) (h k : Hcd) : Prop :=
  ∃ slot ∈ interruptSlots, (h.epPool slot).configured = false ∧ HasSlot k epAddr slot ∧
    ∀ other, other ≠ slot → k.epPool other = h.epPool other

/-- While the pool has room an endpoint is opened in a free slot, unless it cannot be polled. -/
theorem hcdEdptOpen_outcome {desc : EndpointPointer} (devAddr : UInt8) {h : Hcd}
    (hroom : ¬ Exhausted h) (haddress : desc.bEndpointAddress ≠ 0) :
    Program.Outcome (hcdEdptOpen desc devAddr) h
      (fun _ k => Polled desc ∧ Adds desc.bEndpointAddress h k) (fun _ => ¬ Polled desc) := by
  obtain ⟨slot, hmem, ep, hfree, halloc, hregistered, hnum⟩ :=
    hwEndpointAllocate_free desc.xfer hroom haddress
  have hpollable : Pollable ep desc.bEndpointAddress desc.bInterval ↔ Polled desc := by
    unfold Pollable Polled
    rw [hnum, and_comm]
  have hready : Registered slot ((withSlot h slot ep).epPool slot) := by
    rw [withSlot_same]
    exact hregistered
  have hinit := hostEndpointInit_outcome hready devAddr desc.bEndpointAddress
    desc.maxPacketSize desc.xfer desc.bInterval
  rw [withSlot_same, hpollable] at hinit
  refine .of_eq (Program.bind_ok halloc) ?_
  cases hrun : hostEndpointInit slot devAddr desc.bEndpointAddress desc.maxPacketSize desc.xfer
    desc.bInterval (withSlot h slot ep) with
  | error reason k => exact .of_error hrun (hinit.error hrun)
  | ok value k =>
      obtain ⟨-, hpool, -⟩ := hostEndpointInit_ok hrun
      refine .of_ok hrun ⟨hinit.ok hrun, slot, hmem, hfree, ?_, fun other hother => ?_⟩
      · unfold HasSlot
        rw [hpool, Function.update_self]
        exact ⟨rfl, rfl⟩
      · rw [hpool, Function.update_of_ne hother, withSlot_other _ _ hother]

/-! ## Slots in use -/

/-- The slots that are configured for the endpoint. -/
def entries (h : Hcd) (epAddr : UInt8) : Nat :=
  interruptSlots.countP fun slot => HasSlot h epAddr slot

/-- The slots that are configured. -/
def inUse (h : Hcd) : Nat := interruptSlots.countP fun slot => (h.epPool slot).configured

theorem exhausted_iff {h : Hcd} : Exhausted h ↔ inUse h = hostInterruptEndpoints :=
  (List.countP_eq_length (p := fun slot => (h.epPool slot).configured)).symm

theorem inUse_le (h : Hcd) : inUse h ≤ hostInterruptEndpoints := List.countP_le_length

/-- A property that one more slot has holds of one more slot. -/
theorem countP_more {p q : Nat → Bool} {slots : List Nat} (hnodup : slots.Nodup) {slot : Nat}
    (hmem : slot ∈ slots) (hbefore : p slot = false) (hafter : q slot = true)
    (hothers : ∀ other, other ≠ slot → q other = p other) :
    slots.countP q = slots.countP p + 1 := by
  induction slots with
  | nil => cases hmem
  | cons first rest ih =>
      obtain ⟨hfirst, hrest⟩ := List.nodup_cons.mp hnodup
      rcases List.mem_cons.mp hmem with rfl | hlater
      · have hsame : rest.countP q = rest.countP p := by
          refine List.countP_congr fun other hother => ?_
          rw [hothers other fun heq => hfirst (heq ▸ hother)]
        rw [List.countP_cons_of_pos hafter, List.countP_cons_of_neg (by simp [hbefore]), hsame]
      · have hother : q first = p first := hothers first fun heq => hfirst (heq ▸ hlater)
        rw [List.countP_cons, List.countP_cons, ih hrest hlater, hother]
        omega

theorem interruptSlots_nodup : interruptSlots.Nodup := by decide

/-- An endpoint that was added is in one more slot, and so is no other. -/
theorem Adds.entries {epAddr : UInt8} {h k : Hcd} (hadds : Adds epAddr h k) (other : UInt8) :
    entries k other = entries h other + if epAddr = other then 1 else 0 := by
  obtain ⟨slot, hmem, hfree, ⟨hconfigured, haddress⟩, hothers⟩ := hadds
  have hkept {place : Nat} (hne : place ≠ slot) :
      decide (HasSlot k other place) = decide (HasSlot h other place) := by
    refine decide_eq_decide.mpr ?_
    unfold HasSlot
    rw [hothers place hne]
  have hbefore : decide (HasSlot h other slot) = false := by simp [HasSlot, hfree]
  by_cases hsame : epAddr = other
  · rw [if_pos hsame]
    refine countP_more interruptSlots_nodup hmem hbefore ?_ fun place => hkept
    exact decide_eq_true ⟨hconfigured, haddress.trans hsame⟩
  · rw [if_neg hsame, Nat.add_zero]
    refine List.countP_congr fun place _ => ?_
    by_cases hplace : place = slot
    · subst hplace
      have hafter : decide (HasSlot k other place) = false := by
        refine decide_eq_false fun h => ?_
        exact hsame (haddress.symm.trans h.2)
      rw [hbefore, hafter]
    · rw [hkept hplace]

theorem Adds.inUse {epAddr : UInt8} {h k : Hcd} (hadds : Adds epAddr h k) :
    inUse k = inUse h + 1 := by
  obtain ⟨slot, hmem, hfree, hconfigured, hothers⟩ := hadds
  refine countP_more interruptSlots_nodup hmem hfree hconfigured.1 fun place hne => ?_
  rw [hothers place hne]

/-- EDPT_OPEN for an endpoint descriptor adds the endpoint while the pool has room, unless it
cannot be polled. -/
theorem handleEdptOpen_outcome {d : Descriptor} (hwhole : d.IsWhole) {s : Slave}
    (hroom : ¬ Exhausted s.hcd) :
    Program.Outcome (handleEdptOpen d.bytes) s
      (fun _ t => Polled d.endpoint ∧ Adds d.endpoint.bEndpointAddress s.hcd t.hcd)
      (fun _ => ¬ Polled d.endpoint) := by
  have haddress : d.endpoint.bEndpointAddress ≠ 0 := by
    intro hzero
    have hpositive := hwhole.positive
    rw [hzero] at hpositive
    exact absurd hpositive (by decide)
  refine .require_bind (fun _ => .read_bind ?_) fun hshort => absurd hwhole.whole hshort
  exact .onPart (hcdEdptOpen_outcome s.devAddr hroom haddress) (fun _ _ => id) fun _ => id

end UsbSec.Host
