import Mathlib.Data.List.Find
import UsbSec.Host.Pool

/-!
# The endpoints that the slave knows

`get_dev_ep` finds an endpoint when a slot behind `epx` is configured with its address. Opening an
endpoint puts its address into a slot, and nothing else changes the addresses in these slots.
When every slot is taken the endpoint in the last one gives way to the new one.
-/

namespace UsbSec.Host

open Library Usb Rp2040

/-- `get_dev_ep` finds a slot for the endpoint. -/
def Known (h : Hcd) (epAddr : UInt8) : Prop := getDevEp h epAddr ≠ none

instance (h : Hcd) (epAddr : UInt8) : Decidable (Known h epAddr) :=
  inferInstanceAs (Decidable (_ ≠ none))

/-- The slot is configured for the endpoint. -/
def HasSlot (h : Hcd) (epAddr : UInt8) (slot : Nat) : Prop :=
  (h.epPool slot).configured = true ∧ (h.epPool slot).epAddr = epAddr

instance (h : Hcd) (epAddr : UInt8) (slot : Nat) : Decidable (HasSlot h epAddr slot) :=
  inferInstanceAs (Decidable (_ ∧ _))

/-- An endpoint with number 0 is always known, another one if a slot behind `epx` holds it. -/
theorem known_iff {h : Hcd} {epAddr : UInt8} :
    Known h epAddr ↔ tuEdptNumber epAddr = 0 ∨ ∃ slot ∈ interruptSlots, HasSlot h epAddr slot := by
  unfold Known getDevEp
  by_cases hzero : tuEdptNumber epAddr = 0
  · simp [hzero]
  · simp [hzero, HasSlot]

/-! ## What keeps the addresses -/

/-- The slots behind `epx` hold the same endpoints. -/
def SameSlots (h k : Hcd) : Prop :=
  ∀ slot ∈ interruptSlots, (k.epPool slot).configured = (h.epPool slot).configured ∧
    (k.epPool slot).epAddr = (h.epPool slot).epAddr

/-- The same endpoints are found. -/
theorem SameSlots.getDevEp_eq {h k : Hcd} (hsame : SameSlots h k) (epAddr : UInt8) :
    getDevEp k epAddr = getDevEp h epAddr := by
  unfold getDevEp
  split
  · rfl
  · refine List.find?_congr fun slot hslot => ?_
    obtain ⟨hconfigured, haddress⟩ := hsame slot hslot
    rw [hconfigured, haddress]

theorem SameSlots.known {h k : Hcd} (hsame : SameSlots h k) {epAddr : UInt8}
    (hknown : Known h epAddr) : Known k epAddr := by
  rcases known_iff.mp hknown with hzero | ⟨slot, hslot, hconfigured, haddress⟩
  · exact known_iff.mpr (.inl hzero)
  · obtain ⟨hsameConfigured, hsameAddress⟩ := hsame slot hslot
    exact known_iff.mpr (.inr ⟨slot, hslot, hsameConfigured.trans hconfigured,
      hsameAddress.trans haddress⟩)

theorem interruptSlots_ne {slot : Nat} (h : slot ∈ interruptSlots) : slot ≠ epx := by
  have hpos := (interruptSlots_bounds h).1
  show slot ≠ 0
  omega

/-- The endpoints behind `epx` are the same but for the progress of their transfers. -/
def FixedSlots (h k : Hcd) : Prop :=
  ∀ slot ∈ interruptSlots, (k.epPool slot).fixed = (h.epPool slot).fixed

instance : IsPreorder Hcd FixedSlots where
  refl _ _ _ := rfl
  trans _ _ _ first second slot hslot := (second slot hslot).trans (first slot hslot)

theorem FixedSlots.sameSlots {h k : Hcd} (hfixed : FixedSlots h k) : SameSlots h k :=
  fun slot hslot => ⟨eq_of_fixed (fun _ => rfl) (hfixed slot hslot),
    eq_of_fixed (fun _ => rfl) (hfixed slot hslot)⟩

/-- Only `epx` may have changed. -/
theorem fixedSlots_of_update {h k : Hcd} {ep : HwEndpoint}
    (hpool : k.epPool = Function.update h.epPool epx ep) : FixedSlots h k := by
  intro slot hslot
  rw [hpool, Function.update_of_ne (interruptSlots_ne hslot)]

theorem fixedSlots_rule : TransferRule FixedSlots where
  quiet h k hsame slot _ := by rw [hsame.epPool]
  engine slot program hprogram _ := by
    refine Program.Moves.onPart_of hprogram fun h c helsewhere other _ => ?_
    show (Function.update h.epPool slot c.ep other).fixed = _
    by_cases hother : other = slot
    · subst hother
      rw [Function.update_self]
      exact helsewhere.fixed
    · rw [Function.update_of_ne hother]
  size size h _ k hrun := by
    cases hrun
    exact fixedSlots_of_update rfl
  setup devAddr packet h _ k hrun := by
    rw [hcdSetupSend_apply] at hrun
    cases hrun
    exact fixedSlots_of_update rfl
  turn devAddr epAddr h k hrun := fixedSlots_of_update (hostEndpointInit_ok hrun).2.1

theorem sameSlots_rule : TransferRule SameSlots :=
  fixedSlots_rule.mono fun _ _ hfixed => hfixed.sameSlots

/-! ## Opening an endpoint -/

/-- The endpoint is given `epx` itself. -/
def OpensEpx (transferType epAddr : UInt8) : Prop := transferType ≠ xferInterrupt ∧ epAddr = 0

instance (transferType epAddr : UInt8) : Decidable (OpensEpx transferType epAddr) :=
  inferInstanceAs (Decidable (_ ∧ _))

/-- The slot that `_hw_endpoint_allocate` returns is `epx` for endpoint 0, else a free slot or the
last one, and the other slots stay as they are. -/
theorem hwEndpointAllocate_slot {transferType epAddr : UInt8} {h k : Hcd} {slot : Nat}
    (hrun : hwEndpointAllocate transferType epAddr h = .ok slot k) :
    (OpensEpx transferType epAddr ∧ slot = epx ∨ ¬ OpensEpx transferType epAddr ∧
      slot ∈ interruptSlots ∧ ((h.epPool slot).configured = false ∨
        Exhausted h ∧ slot = hostInterruptEndpoints)) ∧
      ∀ other, other ≠ slot → k.epPool other = h.epPool other := by
  have hsearch {middle : Hcd} {found : Nat} (hfound : nextFreeInterruptEp h = .ok found middle) :
      (found ∈ interruptSlots ∧ ((h.epPool found).configured = false ∨
        Exhausted h ∧ found = hostInterruptEndpoints)) ∧
      ∀ ep other, other ≠ found → Function.update middle.epPool found ep other = h.epPool other := by
    obtain ⟨hmem, hcase⟩ := nextFreeInterruptEp_ok hfound
    rcases hcase with ⟨hfree, rfl⟩ | ⟨hall, hlastSlot, rfl⟩
    · refine ⟨⟨hmem, .inl hfree⟩, fun ep other hother => ?_⟩
      rw [Function.update_of_ne hother, withSlot_other _ _ hother]
    · exact ⟨⟨hmem, .inr ⟨hall, hlastSlot⟩⟩, fun _ other hother => Function.update_of_ne hother _ _⟩
  unfold hwEndpointAllocate at hrun
  by_cases htype : transferType = xferInterrupt
  · rw [if_pos htype] at hrun
    obtain ⟨found, middle, hfound, hrun⟩ := Program.bind_eq_ok hrun
    rw [Program.read_bind] at hrun
    obtain ⟨_, _, hnum, hrun⟩ := Program.bind_eq_ok hrun
    obtain ⟨-, hsame⟩ := Program.require_eq_ok hnum
    rw [hsame] at hrun
    cases hrun
    obtain ⟨hslot, hothers⟩ := hsearch hfound
    exact ⟨.inr ⟨fun h => h.1 htype, hslot⟩, hothers _⟩
  · rw [if_neg htype] at hrun
    dsimp only at hrun
    by_cases hzero : epAddr = 0
    · rw [if_pos hzero] at hrun
      cases hrun
      exact ⟨.inl ⟨⟨htype, hzero⟩, rfl⟩, fun other hother => withSlot_other _ _ hother⟩
    · rw [if_neg hzero] at hrun
      obtain ⟨found, middle, hfound, hrun⟩ := Program.bind_eq_ok hrun
      cases hrun
      obtain ⟨hslot, hothers⟩ := hsearch hfound
      exact ⟨.inr ⟨fun h => hzero h.2, hslot⟩, hothers _⟩

/-- Opening the endpoint drops none that is known: it is given `epx` or a free slot, or the last
slot holds the same endpoint or one that another slot holds as well. -/
def DropsNone (h : Hcd) (transferType epAddr : UInt8) : Prop :=
  OpensEpx transferType epAddr ∨ ¬ Exhausted h ∨
    (h.epPool hostInterruptEndpoints).epAddr = epAddr ∨
    ∃ slot ∈ interruptSlots, slot ≠ hostInterruptEndpoints ∧
      (h.epPool slot).epAddr = (h.epPool hostInterruptEndpoints).epAddr

instance (h : Hcd) (transferType epAddr : UInt8) : Decidable (DropsNone h transferType epAddr) :=
  inferInstanceAs (Decidable (_ ∨ _ ∨ _ ∨ ∃ _ ∈ _, _))

/-- An endpoint that was opened is known. -/
theorem hcdEdptOpen_opened {desc : EndpointPointer} {devAddr : UInt8} {h k : Hcd}
    (hrun : hcdEdptOpen desc devAddr h = .ok () k) : Known k desc.bEndpointAddress := by
  obtain ⟨slot, middle, halloc, hinit⟩ := Program.bind_eq_ok hrun
  obtain ⟨-, hpool, -⟩ := hostEndpointInit_ok hinit
  rcases (hwEndpointAllocate_slot halloc).1 with ⟨hepx, -⟩ | ⟨-, hslot, -⟩
  · refine known_iff.mpr (.inl ?_)
    rw [hepx.2]
    decide
  · refine known_iff.mpr (.inr ⟨slot, hslot, ?_⟩)
    unfold HasSlot
    rw [hpool, Function.update_self]
    exact ⟨rfl, rfl⟩

/-- Opening an endpoint keeps the others if it drops none. -/
theorem hcdEdptOpen_keeps {desc : EndpointPointer} {devAddr : UInt8} {h k : Hcd}
    (hrun : hcdEdptOpen desc devAddr h = .ok () k)
    (hdrops : DropsNone h desc.xfer desc.bEndpointAddress) {epAddr : UInt8}
    (hknown : Known h epAddr) : Known k epAddr := by
  have hopened := hcdEdptOpen_opened hrun
  obtain ⟨slot, middle, halloc, hinit⟩ := Program.bind_eq_ok hrun
  obtain ⟨-, hpool, -⟩ := hostEndpointInit_ok hinit
  obtain ⟨htaken, hothers⟩ := hwEndpointAllocate_slot halloc
  have hkept {other : Nat} (hother : other ≠ slot) : k.epPool other = h.epPool other := by
    rw [hpool, Function.update_of_ne hother]
    exact hothers other hother
  have hheld {other : Nat} (hmem : other ∈ interruptSlots) (hother : other ≠ slot)
      (hconfigured : (h.epPool other).configured = true)
      (haddress : (h.epPool other).epAddr = epAddr) : Known k epAddr := by
    refine known_iff.mpr (.inr ⟨other, hmem, ?_⟩)
    unfold HasSlot
    rw [hkept hother]
    exact ⟨hconfigured, haddress⟩
  rcases known_iff.mp hknown with hzero | ⟨other, hmem, hconfigured, haddress⟩
  · exact known_iff.mpr (.inl hzero)
  by_cases hother : other = slot
  · subst hother
    rcases htaken with ⟨-, hepx⟩ | ⟨hnotEpx, -, hfree | ⟨hall, rfl⟩⟩
    · exact absurd hepx (interruptSlots_ne hmem)
    · rw [hconfigured] at hfree
      cases hfree
    · rcases hdrops with hepx | hroom | hsame | ⟨twin, htwin, hne, hsame⟩
      · exact absurd hepx hnotEpx
      · exact absurd hall hroom
      · rw [← haddress, hsame]
        exact hopened
      · exact hheld htwin hne (hall twin htwin) (hsame.trans haddress)
  · exact hheld hmem hother hconfigured haddress

/-! ## Steps of the slave -/

/-- What is known stays known. -/
def KeepsKnown (h k : Hcd) : Prop := ∀ epAddr, Known h epAddr → Known k epAddr

instance : IsPreorder Hcd KeepsKnown where
  refl _ _ := id
  trans _ _ _ first second epAddr h := second epAddr (first epAddr h)

theorem keepsKnown_rule : TransferRule KeepsKnown :=
  sameSlots_rule.mono fun _ _ hsame _ => hsame.known

/-- A payload read as an endpoint descriptor. -/
def descriptorOf (payload : List UInt8) : EndpointPointer := ⟨payloadBuffer payload, 0⟩

/-- If `slavework` is about to open an endpoint, that drops none that is known. -/
def NextDropsNone (s : Slave) : Prop :=
  ∀ message ∈ s.rx.items.head?, messageKind message = MsgType.edptOpen →
    DropsNone s.hcd (descriptorOf message.payload).xfer
      (descriptorOf message.payload).bEndpointAddress

instance (s : Slave) : Decidable (NextDropsNone s) := inferInstanceAs (Decidable (∀ _ ∈ _, _ → _))

/-- What EDPT_OPEN has done when it ends. -/
theorem handleEdptOpen_ok {payload : List UInt8} {s t : Slave}
    (hrun : handleEdptOpen payload s = .ok () t) :
    7 ≤ payload.length ∧
      hcdEdptOpen (descriptorOf payload) s.devAddr s.hcd = .ok () t.hcd := by
  obtain ⟨_, _, hlength, hopened⟩ := Program.bind_eq_ok hrun
  obtain ⟨hlength, hsame⟩ := Program.require_eq_ok hlength
  rw [hsame, Program.read_bind] at hopened
  obtain ⟨hcd, hopen, rfl⟩ := Program.onPart_eq_ok hopened
  exact ⟨hlength, hopen⟩

theorem step_keepsKnown {m next : Core0} {event : Event} (hstep : step m event = some next)
    (hrunning : next.halted = none) (hdrops : event = .slavework → NextDropsNone m.slave) :
    KeepsKnown m.slave.hcd next.slave.hcd := by
  refine (step_transfers keepsKnown_rule hstep hrunning ?_).2
  intro hwork message rest hitems hkind hrun epAddr hknown
  have hnone := hdrops hwork message (by simp [hitems]) hkind
  exact hcdEdptOpen_keeps (handleEdptOpen_ok hrun).2 hnone hknown

end UsbSec.Host
