import UsbSec.Host.ControlRead
import UsbSec.Host.Frame
import UsbSec.Host.Stages

/-!
# Control transfers that are not disturbed

In every run whose steps respect the control transfer in progress, its calls follow its stages.
Between two handlers `level`, `epx` and the EPX registers are those of the stage. A step that has
nothing to do with the transfer leaves them alone and makes no call that concerns it; the
completions of the transfer's own transactions take it to its next stage.
-/

namespace UsbSec.Host

open Library Usb Rp2040

/-! ## What the stages depend on -/

/-- `epx` and the EPX registers, as far as a control transfer depends on them. -/
structure EpxView where
  activeEp : Option Nat
  ep : HwEndpoint
  startTrans : Bool
  sendSetup : Bool
  sendData : Bool
  receiveData : Bool
  available : Bool
  pending : Bool
  transComplete : Bool

/-- An endpoint without its packet size, which a message may change. -/
def withoutSize (ep : HwEndpoint) : HwEndpoint := { ep with wMaxPacketSize := 0 }

/-- The view of the controller. -/
def epxView (h : Hcd) : EpxView where
  activeEp := h.activeEp
  ep := withoutSize (h.epPool epx)
  startTrans := hasBits h.sieCtrl sieCtrlStartTrans
  sendSetup := hasBits h.sieCtrl sieCtrlSendSetup
  sendData := hasBits h.sieCtrl sieCtrlSendData
  receiveData := hasBits h.sieCtrl sieCtrlReceiveData
  available := hasBits (h.memory.word epxBufCtrl) bufCtrlAvail
  pending := hasBits h.bufStatus (slotBit epx)
  transComplete := h.transComplete

namespace EpxView

/-- A setup packet is being sent. -/
structure Setup (v : EpxView) : Prop where
  onEpx : OnEpx v.ep
  epAddr : v.ep.epAddr = 0x00
  xferredLen : v.ep.xferredLen = 0
  sendSetup : v.sendSetup = true
  pending : v.pending = false

/-- A response is being read. -/
structure Read (v : EpxView) : Prop where
  activeEp : v.activeEp = some epx
  onEpx : OnEpx v.ep
  epAddr : v.ep.epAddr = 0x80
  rx : v.ep.rx = true
  sendSetup : v.sendSetup = false
  sendData : v.sendData = false

/-- The empty packet of the status stage is being sent. -/
structure Status (v : EpxView) : Prop where
  activeEp : v.activeEp = some epx
  epAddr : v.ep.epAddr = 0x00
  rx : v.ep.rx = false
  whole : v.ep.isPartial = false
  remainingLen : v.ep.remainingLen = 0
  sendSetup : v.sendSetup = false
  receiveData : v.receiveData = false

/-- The EPX registers are as they are in the phase between two handlers. -/
def At (v : EpxView) : Phase → Prop
  | .setup => v.Setup ∧ v.transComplete = false
  | .setupSent => v.Setup ∧ v.startTrans = false
  | .reading => v.Read ∧ v.pending = false
  | .received => v.Read ∧ v.available = false
  | .status => v.Status ∧ v.pending = false
  | .statusSent => v.Status ∧ v.available = false
  | _ => False

end EpxView

/-- The slave is as it is in the stage between two handlers. -/
def Stage.Describes : Stage → Slave → Prop
  | .idle, _ => True
  | .control dirIn phase, s =>
      dirIn = (s.setup.direction == 1) ∧ phase.level = some s.level ∧ (epxView s.hcd).At phase

/-- The calls have followed the stages, and the slave is as it is in the stage they lead to. -/
def Settled (s : Slave) : Prop := ∃ stage, stageOf s.calls = some stage ∧ stage.Describes s

/-- The calls have followed the stages, also when a handler stopped in the middle of one. -/
def Followed (s : Slave) : Prop :=
  ∃ stage, stageOf s.calls = some stage ∧ ∀ level ∈ stage.level, s.level = level

theorem Stage.Describes.level {stage : Stage} {s : Slave} (h : stage.Describes s) :
    ∀ level ∈ stage.level, s.level = level := by
  intro level hmem
  cases stage with
  | idle => cases hmem
  | control dirIn phase => exact Option.some.inj (h.2.1.symm.trans hmem)

theorem Settled.followed {s : Slave} (h : Settled s) : Followed s := by
  obtain ⟨stage, hstage, hdescribes⟩ := h
  exact ⟨stage, hstage, hdescribes.level⟩

theorem NoTransfer.settled {s : Slave} (h : NoTransfer s) : Settled s := ⟨.idle, h, trivial⟩

/-! ## Steps outside a control transfer -/

/-- No control transfer begins. -/
abbrev Calm : Slave → Slave → Prop := Program.Keeps NoTransfer

/-- Handlers that start no control transfer leave the slave outside one. -/
theorem calm_rule : SlaveRule Calm where
  quiet _ _ _ _ hcalls hs := (congrArg stageOf hcalls).trans hs
  record _ call h hs := (stageOf_concat hs call).trans (advance_idle h)
  enqueue _ _ _ hs := hs

/-- Outside a control transfer such a program leaves the slave outside one. -/
theorem outcome_of_calm {program : SlaveM Unit} (hprogram : Program.Moves Calm program)
    {s : Slave} (hs : NoTransfer s) :
    Program.Outcome program s (fun _ t => Settled t) Followed :=
  .of_moves hprogram (fun _ _ ht => (ht hs).settled) (fun _ ht => (ht hs).settled.followed)

/-! ## Steps beside a control transfer -/

/-- The step has nothing to do with the control transfer. -/
structure Aside (s t : Slave) : Prop where
  level : t.level = s.level
  setup : t.setup = s.setup
  epx : epxView t.hcd = epxView s.hcd
  calls : ∀ stage, stageOf s.calls = some stage → stageOf t.calls = some stage

instance : IsPreorder Slave Aside where
  refl _ := ⟨rfl, rfl, rfl, fun _ => id⟩
  trans _ _ _ h k :=
    ⟨k.level.trans h.level, k.setup.trans h.setup, k.epx.trans h.epx,
      fun stage hstage => k.calls stage (h.calls stage hstage)⟩

theorem Aside.describes {s t : Slave} (h : Aside s t) {stage : Stage}
    (hs : stage.Describes s) : stage.Describes t := by
  cases stage with
  | idle => exact trivial
  | control dirIn phase =>
      obtain ⟨hdirection, hlevel, hview⟩ := hs
      refine ⟨?_, ?_, ?_⟩
      · rw [h.setup]
        exact hdirection
      · rw [h.level]
        exact hlevel
      · rw [h.epx]
        exact hview

theorem Aside.settled {s t : Slave} (h : Aside s t) (hs : Settled s) : Settled t := by
  obtain ⟨stage, hstage, hdescribes⟩ := hs
  exact ⟨stage, h.calls stage hstage, h.describes hdescribes⟩

theorem outcome_of_aside {program : SlaveM Unit} {s : Slave} (hs : Settled s)
    (h : Program.Outcome program s (fun _ t => Aside s t) (Aside s)) :
    Program.Outcome program s (fun _ t => Settled t) Followed :=
  h.mono (fun _ _ ht => ht.settled hs) (fun _ ht => (ht.settled hs).followed)

/-- The driver leaves `epx` and the EPX registers alone. -/
abbrev SameEpx : Hcd → Hcd → Prop := Program.Same epxView

theorem aside_onHcd {program : HcdM Unit} {s : Slave} {P : Unit → Hcd → Prop}
    (h : Program.Outcome program s.hcd P (SameEpx s.hcd))
    (hview : ∀ value next, P value next → SameEpx s.hcd next) :
    Program.Outcome (onHcd program) s (fun _ t => Aside s t) (Aside s) :=
  .onPart h (fun _ _ hnext => ⟨rfl, rfl, hview _ _ hnext, fun _ => id⟩)
    (fun _ hnext => ⟨rfl, rfl, hnext, fun _ => id⟩)

/-- Equal registers and an equal endpoint make an equal view. -/
theorem sameEpx_of {h k : Hcd} (hactive : k.activeEp = h.activeEp)
    (hep : withoutSize (k.epPool epx) = withoutSize (h.epPool epx))
    (hword : k.memory.word epxBufCtrl = h.memory.word epxBufCtrl)
    (hsieCtrl : k.sieCtrl = h.sieCtrl)
    (hpending : hasBits k.bufStatus (slotBit epx) = hasBits h.bufStatus (slotBit epx))
    (htrans : k.transComplete = h.transComplete) : SameEpx h k := by
  show epxView k = epxView h
  unfold epxView
  rw [hactive, hep, hword, hsieCtrl, hpending, htrans]

/-- The packet size of `epx` is no part of the view. -/
theorem changeEpxPacketsize_sameEpx (size : UInt8) :
    Program.Moves SameEpx (changeEpxPacketsize size) := by
  intro h
  refine sameEpx_of rfl ?_ rfl rfl rfl rfl
  show withoutSize (Function.update h.epPool epx _ epx) = _
  rw [Function.update_self]
  rfl

/-! ### Opening an endpoint behind `epx` -/

/-- Changing another slot is no change to `epx`. -/
theorem onSlot_sameEpx {slot : Nat} (hslot : slot ≠ epx) (change : HwEndpoint → HwEndpoint) :
    Program.Moves SameEpx (onSlot slot (setEp change)) := by
  intro h
  refine sameEpx_of rfl ?_ rfl rfl rfl rfl
  show withoutSize (Function.update h.epPool slot _ epx) = _
  rw [Function.update_of_ne hslot.symm]

theorem interruptSlots_ne_epx {slot : Nat} (h : slot ∈ interruptSlots) : slot ≠ epx := by
  obtain ⟨num, -, rfl⟩ := List.mem_map.mp h
  exact Nat.succ_ne_zero num

theorem nextFreeInterruptEp_outcome (h : Hcd) :
    Program.Outcome nextFreeInterruptEp h (fun slot k => slot ≠ epx ∧ SameEpx h k)
      (SameEpx h) := by
  unfold nextFreeInterruptEp
  refine .read_bind ?_
  cases hfind : interruptSlots.find? fun i => !(h.epPool i).configured with
  | none => exact .pure ⟨by decide, rfl⟩
  | some slot =>
      have hslot := interruptSlots_ne_epx (List.mem_of_find?_eq_some hfind)
      refine .bind (.of_moves (onSlot_sameEpx hslot _) (fun _ k hk => hk) fun _ hk => hk) ?_
      intro _ k hk
      exact .pure ⟨hslot, hk⟩

/-- The slot is not `epx`, and its endpoint control register is not the EPX buffer register. -/
def Apart (slot : Nat) (h : Hcd) : Prop :=
  slot ≠ epx ∧ (h.epPool slot).endpointControl ≠ some epxBufCtrl

/-- Registers are given to a slot. -/
theorem assign_outcome {slot : Nat} (hslot : slot ≠ epx) {change : HwEndpoint → HwEndpoint}
    (hcontrol : ∀ ep, (change ep).endpointControl ≠ some epxBufCtrl) {h k : Hcd}
    (hk : SameEpx h k) :
    Program.Outcome (onSlot slot (setEp change) >>= fun _ => pure slot) k
      (fun slot k => Apart slot k ∧ SameEpx h k) (SameEpx h) := by
  have hsame := onSlot_sameEpx hslot change k
  refine .of_ok rfl ⟨⟨hslot, ?_⟩, hsame.trans hk⟩
  show (Function.update k.epPool slot (change (k.epPool slot)) slot).endpointControl ≠ _
  rw [Function.update_self]
  exact hcontrol _

theorem hwEndpointAllocate_outcome {transferType epAddr : UInt8}
    (hother : transferType ≠ xferInterrupt → epAddr ≠ 0) (h : Hcd) :
    Program.Outcome (hwEndpointAllocate transferType epAddr) h
      (fun slot k => Apart slot k ∧ SameEpx h k) (SameEpx h) := by
  refine .ite (fun _ => ?_) (fun htype => ?_)
  · refine .bind (nextFreeInterruptEp_outcome h) fun slot k hk => ?_
    refine .read_bind (.require_bind (fun hnum => ?_) fun _ => hk.2)
    have hnum : (k.epPool slot).interruptNum.toNat < 15 := hnum
    refine assign_outcome hk.1 (fun ep hsame => ?_) hk.2
    -- The register of the slot behind the last one would be the EPX buffer register.
    have haddress : 0x08 + 8 * (k.epPool slot).interruptNum.toNat = 0x80 :=
      Option.some.inj hsame
    omega
  · rw [if_neg (hother htype)]
    refine .bind (nextFreeInterruptEp_outcome h) fun slot k hk => ?_
    exact assign_outcome hk.1 (fun ep hsame => absurd (Option.some.inj hsame) (by decide)) hk.2

theorem enablePolling_sameEpx (slot : Nat) (devAddr epAddr : UInt8) :
    Program.Moves SameEpx (enablePolling slot devAddr epAddr) :=
  .bind (.require _ _) fun _ => .bind .read fun _ => .bind (.require _ _) fun _ =>
    .update fun _ => rfl

theorem hostEndpointInit_sameEpx {slot : Nat} {h : Hcd} (hslot : Apart slot h)
    (devAddr epAddr : UInt8) (wMaxPacketSize : UInt16) (transferType bmInterval : UInt8) :
    SameEpx h (Program.final
      (hostEndpointInit slot devAddr epAddr wMaxPacketSize transferType bmInterval h)) := by
  unfold hostEndpointInit
  rw [Program.read_bind]
  have hword : ∀ value k, SameEpx k
      { k with memory := k.memory.writeWord (h.epPool slot).endpointControl value } := by
    intro value k
    refine sameEpx_of rfl rfl ?_ rfl rfl rfl
    cases hpointer : (h.epPool slot).endpointControl with
    | none => rfl
    | some pointer =>
        exact Memory.writeWord_other _ _ fun hsame => hslot.2 (hpointer.trans (by rw [hsame]))
  refine Program.Moves.bind (.require _ _) (fun _ => ?_) h
  refine .bind (.require _ _) fun _ => .bind (.require _ _) fun _ => ?_
  refine .bind (onSlot_sameEpx hslot.1 _) fun _ => .bind (.require _ _) fun _ => ?_
  refine .bind (.update (hword _)) fun _ => .bind (onSlot_sameEpx hslot.1 _) fun _ => ?_
  exact .when (enablePolling_sameEpx _ _ _)

/-- Opening an endpoint that is not given `epx` leaves EPX alone. -/
theorem handleEdptOpen_aside {payload : List UInt8} (hother : ¬ TakesEpx payload) (s : Slave) :
    Program.Outcome (handleEdptOpen payload) s (fun _ t => Aside s t) (Aside s) := by
  refine .require_bind (fun _ => .read_bind ?_) fun _ => refl_of Aside s
  refine aside_onHcd (P := fun _ k => SameEpx s.hcd k) ?_ fun _ _ => id
  refine .bind (hwEndpointAllocate_outcome (fun htype hzero => hother ⟨htype, hzero⟩) s.hcd) ?_
  rintro slot k ⟨hapart, hk⟩
  exact .of_moves (R := fun l m => l = k → SameEpx k m)
    (fun l hl => by rw [hl]; exact hostEndpointInit_sameEpx hapart _ _ _ _ _)
    (fun _ m hm => (hm rfl).trans hk) fun m hm => (hm rfl).trans hk

/-! ### Buffers of interrupt endpoints -/

/-- The step is beside the control transfer and leaves every endpoint where it is. -/
structure Passing (s t : Slave) : Prop where
  aside : Aside s t
  fixed : ∀ slot, (t.hcd.epPool slot).fixed = (s.hcd.epPool slot).fixed

instance : IsPreorder Slave Passing where
  refl s := ⟨refl_of Aside s, fun _ => rfl⟩
  trans _ _ _ h k :=
    ⟨trans_of Aside h.aside k.aside, fun slot => (k.fixed slot).trans (h.fixed slot)⟩

/-- Whether an endpoint is a bystander does not depend on the progress of its transfer. -/
theorem Bystander.of_fixed {first second : HwEndpoint} (h : Bystander first)
    (hfixed : second.fixed = first.fixed) : Bystander second := by
  have haddress : second.epAddr = first.epAddr := eq_of_fixed (fun _ => rfl) hfixed
  have hpointer : second.bufferControl = first.bufferControl :=
    eq_of_fixed (fun _ => rfl) hfixed
  unfold Bystander
  rw [haddress, hpointer]
  exact h

/-- The step is such a step if the slots whose bit is set hold bystanders. -/
def PassingIf (status : BitVec 32) (s t : Slave) : Prop := Bystanders status s → Passing s t

instance (status : BitVec 32) : IsPreorder Slave (PassingIf status) where
  refl s _ := refl_of Passing s
  trans s t u h k hs := by
    have hfirst := h hs
    refine trans_of Passing hfirst (k fun slot hslot hbit => ?_)
    exact (hs slot hslot hbit).of_fixed (hfirst.fixed slot)

/-- A relation that the completion of a transfer moves along when its endpoint is not the control
endpoint. -/
structure DataRule (R : Slave → Slave → Prop) : Prop where
  fill : ∀ s bugger, R s (withHcd s (withBugger s.hcd bugger))
  lock : ∀ s value, R s { s with debugLock := value }
  record : ∀ s call, ¬ Concerns call → R s (withCall s call)
  enqueue : ∀ s message, R s { s with outbox := s.outbox ++ [message] }

section DataRule

variable {R : Slave → Slave → Prop} [IsPreorder Slave R] (hR : DataRule R)
include hR

/-- A message without SETUP_DATA does not belong to a control transfer. -/
theorem DataRule.sendEventToMaster {eFlag : UInt16}
    (hflag : ¬ hasFlag (MsgType.isPacket ||| eFlag) MsgType.setupData) (len : UInt16)
    (epAddr : UInt8) : Program.Moves R (sendEventToMaster len epAddr eFlag) := by
  have hfill : Program.Moves R (fillBugger len.toNat [epAddr]) :=
    .bind (.require _ _) fun _ => .update fun s => hR.fill s _
  refine .bind (.when hfill) fun _ => .bind .read fun s => ?_
  refine .bind (.update fun t => hR.record t _ ?_) fun _ => .update fun t => hR.enqueue t _
  show ¬ hasFlag (SpiMessage.eFlag (if len = 0 then _ else _)) MsgType.setupData
  split
  · exact hflag
  · exact hflag

theorem DataRule.hcdEventXferComplete {epAddr : UInt8} (hother : ¬ IsControl epAddr)
    (devAddr : UInt8) (xferredBytes : UInt16) (result : XferResult) :
    Program.Moves R (hcdEventXferComplete devAddr epAddr xferredBytes result) := by
  refine .bind (.require _ _) fun _ => .bind .read fun s => ?_
  refine .bind (.update fun t => hR.record t _ hother) fun _ => ?_
  rw [if_neg hother]
  refine .bind (.update fun t => hR.lock t _) fun _ => hR.sendEventToMaster ?_ _ _
  cases result <;> decide

end DataRule

theorem passing_rule : DataRule Passing where
  fill _ _ := ⟨⟨rfl, rfl, rfl, fun _ => id⟩, fun _ => rfl⟩
  lock _ _ := ⟨⟨rfl, rfl, rfl, fun _ => id⟩, fun _ => rfl⟩
  record _ _ hother := by
    refine ⟨⟨rfl, rfl, rfl, fun stage hstage => ?_⟩, fun _ => rfl⟩
    exact (stageOf_concat hstage _).trans (advance_other hother stage)
  enqueue _ _ := ⟨⟨rfl, rfl, rfl, fun _ => id⟩, fun _ => rfl⟩

/-- The transfer engine on a slot behind `epx` that does not have the EPX buffer register. -/
theorem passing_onSlot {α : Type} {slot : Nat} (hslot : slot ≠ epx) {engine : Engine α}
    (hengine : Program.Moves Elsewhere engine) {s : Slave}
    (hpointer : (s.hcd.epPool slot).bufferControl ≠ some epxBufCtrl) :
    Passing s (Program.final (onHcd (onSlot slot engine) s)) := by
  have helsewhere := hengine ⟨s.hcd.epPool slot, s.hcd.memory⟩
  unfold onHcd onSlot
  rw [Program.final_onPart, Program.final_onPart]
  refine ⟨⟨rfl, rfl, ?_, fun _ => id⟩, fun other => ?_⟩
  · refine sameEpx_of rfl ?_ (helsewhere.word epxBufCtrl hpointer) rfl rfl rfl
    show withoutSize (Function.update s.hcd.epPool slot _ epx) = _
    rw [Function.update_of_ne hslot.symm]
  · show (Function.update s.hcd.epPool slot _ other).fixed = _
    by_cases hother : other = slot
    · rw [hother, Function.update_self]
      exact helsewhere.fixed
    · rw [Function.update_of_ne hother]

theorem hwEndpointXferContinue_elsewhere :
    Program.Moves Elsewhere (hwEndpointXferContinue .slave) :=
  hwEndpointXferContinue_moves elsewhere_rule (startNextBufferSlave_moves elsewhere_rule)

/-- Acknowledging an interrupt endpoint leaves the bit of EPX alone. -/
theorem pending_cleared {slot : Nat} (hslot : slot ∈ interruptSlots) (bufStatus : BitVec 32) :
    hasBits (bufStatus &&& ~~~slotBit slot) (slotBit epx) = hasBits bufStatus (slotBit epx) := by
  have hbits : ∀ slot ∈ interruptSlots, slotBit epx &&& ~~~slotBit slot = slotBit epx := by decide
  exact hasBits_kept (hbits slot hslot)

/-- The buffer of a bystander is handled beside the control transfer. -/
theorem passing_handleBuffStatusBit {status : BitVec 32} {slot : Nat}
    (hslot : slot ∈ interruptSlots) (hbit : hasBits status (slotBit slot) = true) :
    Program.Moves (PassingIf status) (handleBuffStatusBit (slotBit slot) slot) := by
  have hne := interruptSlots_ne_epx hslot
  refine .bind (.update fun s _ => ?_) fun _ => .bind (fun s hs => ?_) fun done => fun s hs => ?_
  · exact ⟨⟨rfl, rfl, sameEpx_of rfl rfl rfl rfl (pending_cleared hslot _) rfl, fun _ => id⟩,
      fun _ => rfl⟩
  · exact passing_onSlot hne hwEndpointXferContinue_elsewhere (hs slot hslot hbit).2
  · obtain ⟨hother, hpointer⟩ := hs slot hslot hbit
    refine Program.Moves.bind (R := PassingIf status) (.when fun t ht => ?_) (fun _ t _ => ?_) s hs
    · exact passing_onSlot hne (hwEndpointResetTransferNew_moves elsewhere_rule)
        (ht slot hslot hbit).2
    · exact passing_rule.hcdEventXferComplete hother _ _ _ t

/-- The loop over the interrupt endpoints runs beside the control transfer. -/
theorem passing_handleInterruptBuffers {status remaining : BitVec 32}
    (hremaining : ∀ bits, hasBits remaining bits = true → hasBits status bits = true) :
    Program.Moves (PassingIf status) (handleInterruptBuffers interruptSlots remaining) :=
  handleInterruptBuffers_of (fun _ => passing_handleBuffStatusBit) hremaining

/-! ## The completions of a control transfer -/

/-- The slave with another endpoint in `epx` and another memory. -/
def withEpx (s : Slave) (c : Channel) : Slave := withHcd s (storeEpx s.hcd c)

/-- Only the progress of `epx` and the memory have changed. -/
def OnlyEpx (s t : Slave) : Prop :=
  ∃ c : Channel, c.ep.fixed = (s.hcd.epPool epx).fixed ∧ t = withEpx s c

instance : IsPreorder Slave OnlyEpx where
  refl s := ⟨epxChannel s.hcd, rfl, by simp [withEpx, storeEpx, epxChannel, withHcd]⟩
  trans := by
    rintro s _ _ ⟨c, hfixed, rfl⟩ ⟨d, hsame, rfl⟩
    refine ⟨d, hsame.trans ?_, ?_⟩
    · show ((storeEpx s.hcd c).epPool epx).fixed = _
      rw [storeEpx_epx]
      exact hfixed
    · show withHcd s (storeEpx (storeEpx s.hcd c) d) = _
      rw [storeEpx_storeEpx]
      rfl

theorem onSlot_onlyEpx {α : Type} {engine : Engine α} (hengine : Program.Moves Elsewhere engine) :
    Program.Moves OnlyEpx (onHcd (onSlot epx engine)) := by
  intro s
  unfold onHcd onSlot
  rw [Program.final_onPart, Program.final_onPart]
  exact ⟨_, (hengine (epxChannel s.hcd)).fixed, rfl⟩

/-- A read goes on while only the progress of `epx` changes. -/
theorem OnlyEpx.read {s t : Slave} (h : OnlyEpx s t) (hs : (epxView s.hcd).Read) :
    (epxView t.hcd).Read := by
  obtain ⟨c, hfixed, rfl⟩ := h
  have hep : (storeEpx s.hcd c).epPool epx = c.ep := storeEpx_epx _ _
  have hfield {α : Type} (field : HwEndpoint → α) (hfield : ∀ ep, field ep.fixed = field ep) :
      field ((storeEpx s.hcd c).epPool epx) = field (s.hcd.epPool epx) := by
    rw [hep]
    exact eq_of_fixed hfield hfixed
  have hshape := hfield HwEndpoint.shape fun _ => rfl
  refine ⟨hs.activeEp, ⟨?_, ?_, ?_⟩, ?_, ?_, hs.sendSetup, hs.sendData⟩
  · exact (congrArg Shape.bufferControl hshape).trans hs.onEpx.bufferControl
  · exact (congrArg Shape.endpointControl hshape).trans hs.onEpx.endpointControl
  · exact (congrArg Shape.hwDataBuf hshape).trans hs.onEpx.hwDataBuf
  · exact (hfield HwEndpoint.epAddr fun _ => rfl).trans hs.epAddr
  · exact (hfield HwEndpoint.rx fun _ => rfl).trans hs.rx

/-- What handling the EPX buffer leads to: the handler is done with the stage, no setup packet is
being sent, and the other slots are as before. -/
structure EpxHandled (s t : Slave) : Prop where
  settled : Settled t
  sending : NoTransfer t ∨ hasBits t.hcd.sieCtrl sieCtrlSendSetup = false
  slots : ∀ slot, slot ≠ epx → t.hcd.epPool slot = s.hcd.epPool slot

/-- A handler may stop in a phase that does not last. -/
theorem followed_of_passing {s : Slave} {dirIn : Bool} {phase : Phase}
    (hstage : stageOf s.calls = some (.control dirIn phase)) (hlevel : phase.level = none) :
    Followed s := by
  refine ⟨_, hstage, fun level hmem => ?_⟩
  have hnone : phase.level = some level := hmem
  rw [hlevel] at hnone
  cases hnone

/-- A reply is recorded and enqueued, unless its bytes do not fit. -/
theorem sendEventToMaster_outcome (len : UInt16) (epAddr : UInt8) (eFlag : UInt16) (s : Slave) :
    Program.Outcome (sendEventToMaster len epAddr eFlag) s
      (fun _ t => ∃ message bugger, message.eFlag = MsgType.isPacket ||| eFlag ∧
        t = withReply s bugger message)
      (fun t => t = s) := by
  by_cases hzero : len = 0
  · subst hzero
    exact .of_ok rfl ⟨⟨MsgType.isPacket ||| eFlag, [epAddr], by simp⟩, s.hcd.memory.bugger, rfl,
      rfl⟩
  · unfold sendEventToMaster
    rw [Program.when_true hzero]
    let bugger := s.hcd.memory.bugger.writeAt len.toNat [epAddr]
    refine .bind (P := fun _ t => t = withHcd s (withBugger s.hcd bugger))
      (.require_bind (fun _ => .of_ok rfl rfl) fun _ => rfl) ?_
    rintro _ _ rfl
    refine .read_bind ?_
    rw [if_neg hzero]
    exact .of_ok rfl ⟨_, bugger, rfl, rfl⟩

/-- The view of a read that has just been started. -/
theorem xferStarted_read {h : Hcd} (hread : (epxView h).Read ∨ (h.epPool epx).epAddr = 0x00)
    (honEpx : OnEpx (h.epPool epx)) (devAddr : UInt8) (buffer : UserBuf) (buflen : UInt16) :
    (epxView (xferStarted devAddr 0x80 buffer buflen h)).Read := by
  obtain ⟨-, hsetup, -, hsend⟩ := startDataFlags_bits h 0x80
  have hrx : (h.epPool epx).epAddr = 0x80 → (h.epPool epx).rx = true := by
    intro haddress
    rcases hread with hread | hzero
    · exact hread.rx
    · exact absurd (haddress.symm.trans hzero) (by decide)
  have hep := xferStarted_epx devAddr 0x80 buffer buflen h
  have hready := xferStarted_onEpx honEpx devAddr 0x80 buffer buflen
  refine ⟨rfl, ⟨hready.bufferControl, hready.endpointControl, hready.hwDataBuf⟩, ?_, ?_, hsetup,
    hsend⟩
  · show ((xferStarted devAddr 0x80 buffer buflen h).epPool epx).epAddr = 0x80
    rw [hep]
    exact turnedChannel_epAddr devAddr 0x80 (epxChannel h)
  · show ((xferStarted devAddr 0x80 buffer buflen h).epPool epx).rx = true
    rw [hep]
    exact turnedChannel_rx (c := epxChannel h) hrx

/-- The view of a status stage that has just been started. -/
theorem xferStarted_statusView {h : Hcd} (hturn : (h.epPool epx).epAddr = 0x80)
    (devAddr : UInt8) : (epxView (xferStarted devAddr 0x00 .null 0 h)).Status := by
  obtain ⟨-, hsetup, hreceive, -⟩ := startDataFlags_bits h 0x00
  have hep := xferStarted_epx devAddr 0x00 .null 0 h
  refine ⟨rfl, ?_, ?_, ?_, ?_, hsetup, hreceive⟩
  · show ((xferStarted devAddr 0x00 .null 0 h).epPool epx).epAddr = 0x00
    rw [hep]
    exact turnedChannel_epAddr devAddr 0x00 (epxChannel h)
  · show ((xferStarted devAddr 0x00 .null 0 h).epPool epx).rx = false
    rw [hep]
    exact turnedChannel_rx (c := epxChannel h)
      fun hzero => absurd (hturn.symm.trans hzero) (by decide)
  · show ((xferStarted devAddr 0x00 .null 0 h).epPool epx).isPartial = false
    rw [hep]
    rfl
  · show ((xferStarted devAddr 0x00 .null 0 h).epPool epx).remainingLen = 0
    rw [hep]
    show (0 : UInt16) - tuMin16 0 _ = 0
    rw [tuMin16_zero]
    rfl

/-- A reply without LAST_PACKET is followed by the next packet. -/
theorem partReply_outcome {s : Slave} {dirIn : Bool}
    (hstage : stageOf s.calls = some (.control dirIn .partReply))
    (hdirection : dirIn = (s.setup.direction == 1)) (hlevel : s.level = 1)
    (hread : (epxView s.hcd).Read) (hpending : (epxView s.hcd).pending = false) (len : UInt16) :
    Program.Outcome (sendEventToMaster len 0x80 MsgType.setupData) s (fun _ t => EpxHandled s t)
      Followed := by
  refine (sendEventToMaster_outcome len 0x80 MsgType.setupData s).mono ?_ ?_
  · rintro _ _ ⟨message, bugger, hflag, rfl⟩
    have hconcerns : Concerns (.sendEvent message) := by
      show hasFlag message.eFlag MsgType.setupData
      rw [hflag]
      decide
    have hnext : stageOf (s.calls ++ [.sendEvent message]) = some (.control dirIn .reading) := by
      refine stageOf_next hstage hconcerns (if_neg ?_)
      rw [hflag]
      decide
    refine ⟨⟨_, hnext, hdirection, ?_, hread, hpending⟩, .inr hread.sendSetup, fun _ _ => rfl⟩
    exact congrArg some hlevel.symm
  · rintro _ rfl
    exact followed_of_passing hstage rfl

/-- The reply with LAST_PACKET leaves the status stage of a read, or nothing. -/
theorem lastReply_outcome {s : Slave} {dirIn : Bool}
    (hstage : stageOf s.calls = some (.control dirIn .lastReply))
    (hdirection : dirIn = (s.setup.direction == 1)) (hlevel : s.level = 2)
    (hstatus : dirIn = true → (epxView s.hcd).Status) (hpending : (epxView s.hcd).pending = false)
    (len : UInt16) :
    Program.Outcome (sendEventToMaster len 0x80 (MsgType.lastPacket ||| MsgType.setupData)) s
      (fun _ t => EpxHandled s t) Followed := by
  refine (sendEventToMaster_outcome len 0x80 _ s).mono ?_ ?_
  · rintro _ _ ⟨message, bugger, hflag, rfl⟩
    have hconcerns : Concerns (.sendEvent message) := by
      show hasFlag message.eFlag MsgType.setupData
      rw [hflag]
      decide
    have hnext : stageOf (s.calls ++ [.sendEvent message]) =
        some (if dirIn then .control dirIn .status else .idle) := by
      refine stageOf_next hstage hconcerns (if_pos ?_)
      rw [hflag]
      decide
    cases dirIn with
    | false =>
        have hidle : NoTransfer (withReply s bugger message) := hnext
        exact ⟨hidle.settled, .inl hidle, fun _ _ => rfl⟩
    | true =>
        have hview := hstatus rfl
        refine ⟨⟨_, hnext, hdirection, ?_, hview, hpending⟩, .inr hview.sendSetup, fun _ _ => rfl⟩
        exact congrArg some hlevel.symm
  · rintro _ rfl
    exact followed_of_passing hstage rfl

/-- The slots are as before also when the handler's first part left them so. -/
theorem EpxHandled.after {s middle t : Slave} (h : EpxHandled middle t)
    (hslots : ∀ slot, slot ≠ epx → middle.hcd.epPool slot = s.hcd.epPool slot) :
    EpxHandled s t :=
  ⟨h.settled, h.sending, fun slot hslot => (h.slots slot hslot).trans (hslots slot hslot)⟩

/-- A packet of the response is passed on, and the next one is read or the transfer ends. -/
theorem response_outcome {s : Slave} {dirIn : Bool}
    (hstage : stageOf s.calls = some (.control dirIn .received))
    (hdirection : dirIn = (s.setup.direction == 1)) (hlevel : s.level = 1)
    (hread : (epxView s.hcd).Read) (hpending : (epxView s.hcd).pending = false)
    (devAddr : UInt8) (xferredBytes : UInt16) {result : XferResult}
    (hresult : result = .success ∨ result = .more) :
    Program.Outcome (hcdEventXferComplete devAddr 0x80 xferredBytes result) s
      (fun _ t => EpxHandled s t) Followed := by
  refine .of_eq (hcdEventXferComplete_response hlevel hresult devAddr xferredBytes) ?_
  have honEpx : OnEpx (s.hcd.epPool epx) :=
    ⟨hread.onEpx.bufferControl, hread.onEpx.endpointControl, hread.onEpx.hwDataBuf⟩
  have haddress : (s.hcd.epPool epx).epAddr = 0x80 := hread.epAddr
  have hcompleted : stageOf (withCall s (.xferComplete 0x80 1 xferredBytes result)).calls =
      (afterPacket dirIn result).map (.control dirIn) := by
    refine stageOf_next hstage ?_ (by unfold Phase.next; exact if_pos ⟨rfl, rfl⟩)
    show IsControl 0x80
    decide
  rcases hresult with rfl | rfl
  · -- The response is complete.
    let ended : Slave :=
      { withCall s (.xferComplete 0x80 1 xferredBytes .success) with level := 2, debugLock := false }
    show Program.Outcome (Program.when (s.setup.direction = 1) (startXfer devAddr 0x00 .null 0) >>=
      fun _ => sendEventToMaster xferredBytes 0x80 (MsgType.lastPacket ||| MsgType.setupData))
      ended _ _
    by_cases hin : s.setup.direction = 1
    · have hdir : dirIn = true := by
        rw [hdirection, hin]
        rfl
      subst hdir
      have hxfer := startXfer_ok (s := ended) (hcdEdptXfer_status (h := s.hcd) honEpx
        (fun hzero => absurd (haddress.symm.trans hzero) (by decide)) devAddr)
      rw [Program.when_true hin]
      refine .of_eq (Program.bind_ok hxfer) ?_
      have hended : stageOf ended.calls = some (.control true .startStatus) := hcompleted
      have hstarted : stageOf (ended.calls ++ [.edptXfer 0x00]) =
          some (.control true .lastReply) := stageOf_next hended trivial (by unfold Phase.next; exact if_pos rfl)
      let started := withHcd (withCall ended (.edptXfer 0x00))
        (xferStarted devAddr 0x00 .null 0 s.hcd)
      refine (lastReply_outcome (s := started) hstarted
        hdirection rfl (fun _ => ?_) hpending xferredBytes).mono
        (fun _ _ h => h.after fun slot hslot => ?_) fun _ h => h
      · exact xferStarted_statusView haddress devAddr
      · exact xferStarted_slots hslot _ _ _ _ s.hcd
    · have hdir : dirIn = false := by
        rw [hdirection]
        simpa using hin
      subst hdir
      rw [Program.when_false hin]
      have hended : stageOf ended.calls = some (.control false .lastReply) := hcompleted
      have hlast := lastReply_outcome (s := ended) hended hdirection rfl nofun hpending xferredBytes
      exact hlast.mono (fun _ _ h => h.after fun _ _ => rfl) fun _ h => h
  · -- More of the response is expected.
    let called := withCall s (.xferComplete 0x80 1 xferredBytes .more)
    show Program.Outcome (readResponse devAddr >>= fun _ =>
      sendEventToMaster xferredBytes 0x80 MsgType.setupData) called _ _
    have hstart := readResponse_ok (s := called) honEpx (fun _ => hread.rx) devAddr
    refine .of_eq (Program.bind_ok hstart) ?_
    have hstarted : stageOf (called.calls ++ [.edptXfer 0x80]) =
        some (.control dirIn .partReply) := stageOf_next hcompleted trivial
          (by unfold Phase.next; exact if_pos rfl)
    refine (partReply_outcome (s := readStarted devAddr called) hstarted hdirection hlevel ?_ hpending xferredBytes).mono
      (fun _ _ h => h.after fun slot hslot => ?_) fun _ h => h
    · exact xferStarted_read (.inl hread) honEpx devAddr _ _
    · exact xferStarted_slots hslot _ _ _ _ s.hcd

/-- The slave after the EPX buffer is acknowledged. -/
def epxAcknowledged (s : Slave) : Slave :=
  withHcd s { s.hcd with bufStatus := s.hcd.bufStatus &&& ~~~slotBit epx }

/-- The EPX buffer of `epx` is taken, and the event handler called with the result. -/
theorem handleEpxBuffer_control {s : Slave} (hactive : s.hcd.activeEp = some epx)
    {D : Bool → Prop} (hcontinue : Program.Outcome (hwEndpointXferContinue .slave)
      (epxChannel s.hcd) (fun done _ => D done) fun _ => True)
    {Q : Unit → Slave → Prop} {E : Slave → Prop}
    (hcomplete : ∀ done t xferredBytes, D done → OnlyEpx (epxAcknowledged s) t →
      Program.Outcome (hcdEventXferComplete (s.hcd.epPool epx).devAddr (s.hcd.epPool epx).epAddr
        xferredBytes (if done then .success else .more)) t Q E)
    (hstops : ∀ t, OnlyEpx (epxAcknowledged s) t → E t) :
    Program.Outcome handleEpxBuffer s Q E := by
  unfold handleEpxBuffer
  refine .read_bind ?_
  rw [hactive]
  show Program.Outcome (onHcd (onSlot epx (hwEndpointXferContinue .slave)) >>= fun done =>
    hwXferComplete epx (if done then .success else .more)) (epxAcknowledged s) _ _
  have hslot : Program.Outcome (onSlot epx (hwEndpointXferContinue .slave))
      (epxAcknowledged s).hcd (fun done _ => D done) fun _ => True :=
    .onPart hcontinue (fun _ _ h => h) fun _ _ => trivial
  have htaken : Program.Outcome (onHcd (onSlot epx (hwEndpointXferContinue .slave)))
      (epxAcknowledged s) (fun done _ => D done) fun _ => True :=
    .onPart hslot (fun _ _ h => h) fun _ _ => trivial
  refine .bind (htaken.and_moves (onSlot_onlyEpx hwEndpointXferContinue_elsewhere)
    fun _ _ => hstops _) ?_
  rintro done taken ⟨hdone, honly⟩
  refine .read_bind (.bind (.of_moves (R := OnlyEpx) (.when (onSlot_onlyEpx
    (hwEndpointResetTransferNew_moves elsewhere_rule))) (fun _ _ h => trans_of OnlyEpx honly h)
    fun t h => hstops t (trans_of OnlyEpx honly h)) fun _ t ht => ?_)
  obtain ⟨c, hfixed, rfl⟩ := honly
  have hkept {α : Type} (field : HwEndpoint → α) (hfield : ∀ ep, field ep.fixed = field ep) :
      field ((withEpx (epxAcknowledged s) c).hcd.epPool epx) = field (s.hcd.epPool epx) := by
    show field ((storeEpx (epxAcknowledged s).hcd c).epPool epx) = _
    rw [storeEpx_epx]
    exact eq_of_fixed hfield hfixed
  rw [hkept HwEndpoint.devAddr fun _ => rfl, hkept HwEndpoint.epAddr fun _ => rfl]
  exact hcomplete done t _ hdone ht

/-- The EPX buffer holds a packet of the response. -/
theorem handleEpxBuffer_received {s : Slave} {dirIn : Bool}
    (hstage : stageOf s.calls = some (.control dirIn .received))
    (hdirection : dirIn = (s.setup.direction == 1)) (hlevel : s.level = 1)
    (hread : (epxView s.hcd).Read) :
    Program.Outcome handleEpxBuffer s (fun _ t => EpxHandled s t) Followed := by
  have hpending : (epxView (epxAcknowledged s).hcd).pending = false := hasBits_cleared (by decide)
  have hcleared : (epxView (epxAcknowledged s).hcd).Read :=
    ⟨hread.activeEp, hread.onEpx, hread.epAddr, hread.rx, hread.sendSetup, hread.sendData⟩
  have hcontinue : Program.Outcome (hwEndpointXferContinue .slave) (epxChannel s.hcd)
      (fun _ _ => True) fun _ => True :=
    .of_moves hwEndpointXferContinue_elsewhere (fun _ _ _ => trivial) fun _ _ => trivial
  refine handleEpxBuffer_control hread.activeEp hcontinue (fun done t bytes _ ht => ?_) ?_
  · have htread := ht.read hcleared
    obtain ⟨c, -, rfl⟩ := ht
    rw [show (s.hcd.epPool epx).epAddr = 0x80 from hread.epAddr]
    refine (response_outcome (s := withEpx (epxAcknowledged s) c) hstage hdirection hlevel htread
      hpending (s.hcd.epPool epx).devAddr bytes ?_).mono
      (fun _ _ h => h.after fun slot hslot => ?_) fun _ h => h
    · cases done
      · exact .inr rfl
      · exact .inl rfl
    · exact Function.update_of_ne hslot _ _
  · rintro t ⟨c, -, rfl⟩
    exact ⟨_, hstage, fun level hmem => hlevel.trans (Option.some.inj hmem)⟩

/-- The empty packet of a status stage ends its transfer. -/
theorem hwEndpointXferContinue_status {c : Channel} (hrx : c.ep.rx = false)
    (hwhole : c.ep.isPartial = false) (hremaining : c.ep.remainingLen = 0) :
    Program.Outcome (hwEndpointXferContinue .slave) c (fun done _ => done = true)
      (fun _ => True) := by
  unfold hwEndpointXferContinue
  refine .read_bind ?_
  rw [hwhole]
  have hsync : Program.Outcome (syncEpBuffer .slave) c (fun _ d => d.ep.remainingLen = 0)
      (fun _ => True) := by
    unfold syncEpBuffer syncSent
    refine .read_bind (.bind (P := fun _ d => d.ep.remainingLen = 0)
      (.ite (fun _ => ?_) fun hnot => absurd hrx hnot) fun _ d hd => .read_bind ?_)
    · exact .require_bind (fun _ => .of_ok rfl hremaining) fun _ => trivial
    · exact .when (fun _ => .of_ok rfl rfl) fun _ => hd
  refine .bind hsync fun _ d hd => .read_bind (.ite (fun _ => trivial) fun _ => ?_)
  rw [if_pos hd]
  exact .pure rfl

/-- The EPX buffer was emptied in the status stage. -/
theorem handleEpxBuffer_statusSent {s : Slave} {dirIn : Bool}
    (hstage : stageOf s.calls = some (.control dirIn .statusSent)) (hlevel : s.level = 2)
    (hstatus : (epxView s.hcd).Status) :
    Program.Outcome handleEpxBuffer s (fun _ t => EpxHandled s t) Followed := by
  refine handleEpxBuffer_control hstatus.activeEp
    (hwEndpointXferContinue_status hstatus.rx hstatus.whole hstatus.remainingLen) ?_ ?_
  · rintro _ t bytes rfl ⟨c, -, rfl⟩
    rw [show (s.hcd.epPool epx).epAddr = 0x00 from hstatus.epAddr]
    let taken := withEpx (epxAcknowledged s) c
    let ended := withCall taken (.xferComplete 0x00 2 bytes .success)
    have hrun : hcdEventXferComplete (s.hcd.epPool epx).devAddr 0x00 bytes .success taken =
        .ok () ended := by
      have hkept : taken.level = 2 := hlevel
      unfold hcdEventXferComplete
      refine (Program.require_bind (.inl rfl) _ _ _).trans ?_
      rw [Program.read_bind, hkept]
      rfl
    have hidle : NoTransfer ended := by
      refine stageOf_next hstage ?_ (by unfold Phase.next; exact if_pos ⟨rfl, rfl, rfl⟩)
      show IsControl 0x00
      decide
    exact .of_ok hrun ⟨hidle.settled, .inl hidle, fun slot hslot => Function.update_of_ne hslot _ _⟩
  · rintro t ⟨c, -, rfl⟩
    exact ⟨_, hstage, fun level hmem => hlevel.trans (Option.some.inj hmem)⟩

/-- The setup packet was sent: the read of the response is started. -/
theorem hwTransComplete_setupSent {s : Slave} {dirIn : Bool}
    (hstage : stageOf s.calls = some (.control dirIn .setupSent))
    (hdirection : dirIn = (s.setup.direction == 1)) (hlevel : s.level = 0)
    (hsetup : (epxView s.hcd).Setup) :
    Program.Outcome hwTransComplete s (fun _ t => Settled t) Followed := by
  have honEpx : OnEpx (s.hcd.epPool epx) :=
    ⟨hsetup.onEpx.bufferControl, hsetup.onEpx.endpointControl, hsetup.onEpx.hwDataBuf⟩
  have haddress : (s.hcd.epPool epx).epAddr = 0x00 := hsetup.epAddr
  have hcompleted : stageOf (s.calls ++ [.xferComplete 0x00 0 0 .success]) =
      some (.control dirIn .startRead) := by
    refine stageOf_next hstage ?_ (by unfold Phase.next; exact if_pos ⟨rfl, rfl, rfl, rfl⟩)
    show IsControl 0x00
    decide
  have hstarted : stageOf (s.calls ++ [.xferComplete 0x00 0 0 .success] ++ [.edptXfer 0x80]) =
      some (.control dirIn .reading) :=
    stageOf_next hcompleted trivial (by unfold Phase.next; exact if_pos rfl)
  refine .of_ok (hwTransComplete_apply hlevel honEpx haddress hsetup.xferredLen hsetup.sendSetup)
    ⟨_, hstarted, hdirection, rfl, ?_, hsetup.pending⟩
  have hep := epxCompleted_epx (.xferComplete 0x00 0 0 .success) s
  refine xferStarted_read (.inr ?_) ?_ _ _ _
  · show ((epxCompleted (.xferComplete 0x00 0 0 .success) s).hcd.epPool epx).epAddr = 0x00
    rw [hep]
    exact haddress
  · show OnEpx ((epxCompleted (.xferComplete 0x00 0 0 .success) s).hcd.epPool epx)
    rw [hep]
    exact ⟨honEpx.bufferControl, honEpx.endpointControl, honEpx.hwDataBuf⟩

/-! ## The interrupt handler -/

/-- What the buffers leave for the rest of the handler: a setup packet is being sent only if
`TRANS_COMPLETE` is as it was. -/
def BuffersHandled (s t : Slave) : Prop :=
  Settled t ∧ (t.hcd.transComplete = s.hcd.transComplete ∨ NoTransfer t ∨
    hasBits t.hcd.sieCtrl sieCtrlSendSetup = false)

/-- The EPX buffer is pending only behind the transaction of a stage. -/
theorem handleEpxBuffer_outcome {s : Slave} (hs : Settled s) (hbusy : ¬ NoTransfer s)
    (hpending : hasBits s.hcd.bufStatus (slotBit epx) = true) :
    Program.Outcome handleEpxBuffer s (fun _ t => EpxHandled s t) Followed := by
  obtain ⟨stage, hstage, hdescribes⟩ := hs
  cases stage with
  | idle => exact absurd hstage hbusy
  | control dirIn phase =>
      obtain ⟨hdirection, hlevel, hview⟩ := hdescribes
      have habsent (hnone : (epxView s.hcd).pending = false) : False := by
        cases hnone.symm.trans hpending
      cases phase with
      | received =>
          exact handleEpxBuffer_received hstage hdirection (Option.some.inj hlevel).symm hview.1
      | statusSent =>
          exact handleEpxBuffer_statusSent hstage (Option.some.inj hlevel).symm hview.1
      | setup => exact (habsent hview.1.pending).elim
      | setupSent => exact (habsent hview.1.pending).elim
      | reading => exact (habsent hview.2).elim
      | status => exact (habsent hview.2).elim
      | startRead | restartRead | partReply | startStatus | lastReply => exact hview.elim

theorem hwHandleBuffStatus_outcome {s : Slave} (hs : Settled s) (hbusy : ¬ NoTransfer s)
    (hby : Bystanders s.hcd.bufStatus s) :
    Program.Outcome hwHandleBuffStatus s (fun _ t => BuffersHandled s t) Followed := by
  have hloop : Program.Moves (PassingIf s.hcd.bufStatus)
      (handleInterruptBuffers interruptSlots (s.hcd.bufStatus &&& ~~~slotBit epx)) :=
    passing_handleInterruptBuffers fun _ h => hasBits_of_and h
  unfold hwHandleBuffStatus
  refine .read_bind ?_
  dsimp only
  by_cases hpending : hasBits s.hcd.bufStatus (slotBit epx) = true
  · rw [Program.when_true hpending]
    refine .bind (handleEpxBuffer_outcome hs hbusy hpending) fun _ t ht => ?_
    have hkept : Bystanders s.hcd.bufStatus t := by
      intro slot hslot hbit
      rw [ht.slots slot (interruptSlots_ne_epx hslot)]
      exact hby slot hslot hbit
    refine .bind (.of_moves hloop (fun _ u hu => (hu hkept).aside)
      fun u hu => ((hu hkept).aside.settled ht.settled).followed) fun _ u hu => ?_
    refine .when (fun _ => .stop (hu.settled ht.settled).followed)
      fun _ => ⟨hu.settled ht.settled, .inr ?_⟩
    rcases ht.sending with hidle | hsetup
    · exact .inl (hu.calls _ hidle)
    · exact .inr ((congrArg EpxView.sendSetup hu.epx).trans hsetup)
  · rw [Program.when_false hpending]
    refine .of_eq (Program.pure_bind () _ s) ?_
    refine .bind (.of_moves hloop (fun _ u hu => (hu hby).aside)
      fun u hu => ((hu hby).aside.settled hs).followed) fun _ u hu => ?_
    exact .when (fun _ => .stop (hu.settled hs).followed)
      fun _ => ⟨hu.settled hs, .inl (congrArg EpxView.transComplete hu.epx)⟩

/-- `TRANS_COMPLETE` ends the transaction of a setup packet and means nothing in other stages. -/
theorem hwTransComplete_outcome {s : Slave} (hs : Settled s)
    (hsent : s.hcd.transComplete = true ∨ NoTransfer s ∨
      hasBits s.hcd.sieCtrl sieCtrlSendSetup = false) :
    Program.Outcome (do
      Program.update fun s : Slave => { s with hcd := { s.hcd with transComplete := false } }
      hwTransComplete : SlaveM Unit) s (fun _ t => Settled t) Followed := by
  let cleared := withHcd s { s.hcd with transComplete := false }
  show Program.Outcome hwTransComplete cleared _ _
  obtain ⟨stage, hstage, hdescribes⟩ := hs
  cases stage with
  | idle => exact outcome_of_calm (hwTransComplete_moves calm_rule) (s := cleared) hstage
  | control dirIn phase =>
      obtain ⟨hdirection, hlevel, hview⟩ := hdescribes
      have hignored (hsetup : (epxView s.hcd).sendSetup = false)
          (hcleared : (epxView cleared.hcd).At phase) :
          Program.Outcome hwTransComplete cleared (fun _ t => Settled t) Followed := by
        have hnot : ¬ hasBits cleared.hcd.sieCtrl sieCtrlSendSetup = true := by
          show ¬ hasBits s.hcd.sieCtrl sieCtrlSendSetup = true
          rw [show hasBits s.hcd.sieCtrl sieCtrlSendSetup = false from hsetup]
          decide
        refine .read_bind (.when (fun hset => absurd hset hnot) fun _ => ?_)
        exact ⟨_, hstage, hdirection, hlevel, hcleared⟩
      have hread (h : (epxView s.hcd).Read) : (epxView cleared.hcd).Read :=
        ⟨h.activeEp, h.onEpx, h.epAddr, h.rx, h.sendSetup, h.sendData⟩
      have hstatus (h : (epxView s.hcd).Status) : (epxView cleared.hcd).Status :=
        ⟨h.activeEp, h.epAddr, h.rx, h.whole, h.remainingLen, h.sendSetup, h.receiveData⟩
      cases phase with
      | setup =>
          -- The transaction cannot be over: the setup packet is still to be sent.
          obtain ⟨hsetup, hnone⟩ := hview
          rcases hsent with htrans | hidle | hcleared
          · cases hnone.symm.trans htrans
          · cases hstage.symm.trans hidle
          · cases hcleared.symm.trans hsetup.sendSetup
      | setupSent =>
          obtain ⟨hsetup, -⟩ := hview
          exact hwTransComplete_setupSent (s := cleared) hstage hdirection
            (Option.some.inj hlevel).symm
            ⟨hsetup.onEpx, hsetup.epAddr, hsetup.xferredLen, hsetup.sendSetup, hsetup.pending⟩
      | reading => exact hignored hview.1.sendSetup ⟨hread hview.1, hview.2⟩
      | received => exact hignored hview.1.sendSetup ⟨hread hview.1, hview.2⟩
      | status => exact hignored hview.1.sendSetup ⟨hstatus hview.1, hview.2⟩
      | statusSent => exact hignored hview.1.sendSetup ⟨hstatus hview.1, hview.2⟩
      | startRead | restartRead | partReply | startStatus | lastReply => exact hview.elim

/-- The interrupt handler takes the completions of a control transfer as its stages. -/
theorem hcdRp2040Irq_outcome {s : Slave} (hs : Settled s)
    (hrespectful : NoTransfer s ∨ Bystanders s.hcd.bufStatus s) (causes : List Cause)
    (buffStatus : Bool) :
    Program.Outcome (hcdRp2040Irq causes buffStatus s.hcd.transComplete) s
      (fun _ t => Settled t) Followed := by
  by_cases hidle : NoTransfer s
  · exact outcome_of_calm (hcdRp2040Irq_moves calm_rule _ _ _) hidle
  · have hby := hrespectful.resolve_left hidle
    refine .bind (.when (fun _ => hwHandleBuffStatus_outcome hs hidle hby)
      fun _ => ⟨hs, .inl rfl⟩) fun _ t ht => ?_
    refine .bind (P := fun _ u => Settled u) (.when (fun htrans => ?_) fun _ => ht.1)
      fun _ u hu => ?_
    · refine hwTransComplete_outcome ht.1 (ht.2.imp_left fun hsame => ?_)
      rw [hsame]
      exact htrans
    · exact .of_moves (R := Program.Same id) (handleCauses_moves causes)
        (fun _ v hv => by rw [show v = u from hv]; exact hu)
        fun v hv => by rw [show v = u from hv]; exact hu.followed

/-! ## Messages -/

/-- A control transfer starts from its first stage. -/
theorem setupSending_settled {s : Slave} (hidle : NoTransfer s) (hquiet : EpxQuiet s.hcd)
    (setup : ControlRequest) : Settled (setupSending setup s) := by
  obtain ⟨hpending, htrans, hxferred⟩ := hquiet
  have hep := setupStarted_epx s.devAddr setup.toBytes s.hcd
  have hstage : stageOf (s.calls ++ [.setupSend setup]) =
      some (.control (setup.direction == 1) .setup) := stageOf_concat hidle _
  refine ⟨_, hstage, rfl, rfl, ⟨?_, ?_, ?_, (sendSetupFlags_bits s.hcd).2, hpending⟩, htrans⟩
  · show OnEpx (withoutSize ((setupStarted s.devAddr setup.toBytes s.hcd).epPool epx))
    rw [hep]
    exact ⟨rfl, rfl, rfl⟩
  · show ((setupStarted s.devAddr setup.toBytes s.hcd).epPool epx).epAddr = 0x00
    rw [hep]
    rfl
  · show ((setupStarted s.devAddr setup.toBytes s.hcd).epPool epx).xferredLen = 0
    rw [hep]
    exact hxferred

/-- Resetting the bus leaves the transaction on the EPX registers as it is. -/
theorem handleResetUsb_aside (s : Slave) :
    Program.Outcome handleResetUsb s (fun _ t => Aside s t) (Aside s) := by
  have hkept (bits : BitVec 32) (hbits : hasBits sieCtrlResetBus bits = false) :
      hasBits (s.hcd.sieCtrl ||| sieCtrlResetBus) bits = hasBits s.hcd.sieCtrl bits := by
    rw [hasBits_or, hbits, Bool.or_false]
  refine .of_ok rfl ⟨rfl, rfl, ?_, fun _ => id⟩
  show epxView { s.hcd with sieCtrl := s.hcd.sieCtrl ||| sieCtrlResetBus } = _
  unfold epxView
  rw [hkept _ (by decide), hkept _ (by decide), hkept _ (by decide), hkept _ (by decide)]

theorem handleChgEpxPacketsize_aside (payload : List UInt8) (s : Slave) :
    Program.Outcome (handleChgEpxPacketsize payload) s (fun _ t => Aside s t) (Aside s) := by
  unfold handleChgEpxPacketsize
  split
  · refine aside_onHcd (P := fun _ k => SameEpx s.hcd k) ?_ fun _ _ => id
    exact .of_moves (changeEpxPacketsize_sameEpx _) (fun _ _ h => h) fun _ h => h
  · exact .stop (refl_of Aside s)

/-- A message uses EPX only when no control transfer is in progress. -/
theorem handleMessage_outcome {s : Slave} (hs : Settled s) {message : SpiMessage}
    (hrespectful : RespectfulMessage s message) :
    Program.Outcome (handleMessage message) s (fun _ t => Settled t) Followed := by
  unfold handleMessage
  refine .ite (fun _ => ?_) fun _ => .ite (fun hkind => ?_) fun _ => .ite (fun hkind => ?_)
    fun _ => .ite (fun hkind => ?_) fun _ => .ite (fun hkind => ?_) fun _ => .ite (fun _ => ?_)
    fun _ => .ite (fun _ => hs) fun _ => .stop hs.followed
  · -- RESET_USB
    exact outcome_of_aside hs (handleResetUsb_aside s)
  · -- EDPT_OPEN
    by_cases htakes : TakesEpx message.payload
    · exact outcome_of_calm (handleEdptOpen_moves calm_rule _) (hrespectful.opened ⟨hkind, htakes⟩)
    · exact outcome_of_aside hs (handleEdptOpen_aside htakes s)
  · -- SETUP_DATA
    obtain ⟨hidle, hquiet⟩ := hrespectful.setup (.inl hkind)
    refine .require_bind (fun _ => .of_ok (sendSetup_apply _ s) ?_) fun _ => hs.followed
    exact setupSending_settled hidle hquiet _
  · -- USB_DATA
    exact outcome_of_calm (handleUsbData_moves calm_rule _) (hrespectful.data hkind)
  · -- CHG_ADDR
    obtain ⟨hidle, hquiet⟩ := hrespectful.setup (.inr hkind)
    refine .of_ok (Program.bind_ok (sendSetup_apply chgAddrSetup s)) ?_
    obtain ⟨stage, hstage, hdescribes⟩ := setupSending_settled hidle hquiet chgAddrSetup
    refine ⟨stage, hstage, ?_⟩
    cases stage <;> exact hdescribes
  · -- CHG_EPX_PACKETSIZE
    exact outcome_of_aside hs (handleChgEpxPacketsize_aside _ s)

/-! ## Steps of the slave -/

/-- The calls have followed the stages, and while core 0 runs it is between two handlers. -/
def Orderly (m : Core0) : Prop := Followed m.slave ∧ (m.halted = none → Settled m.slave)

theorem Settled.orderly {m : Core0} (h : Settled m.slave) : Orderly m := ⟨h.followed, fun _ => h⟩

theorem Orderly.undisturbed {m : Core0} (h : Orderly m) : Undisturbed m := by
  obtain ⟨⟨stage, hstage, hlevel⟩, hsettled⟩ := h
  refine ⟨stage, hstage, hlevel, fun hrunning => ?_⟩
  obtain ⟨other, hother, hdescribes⟩ := hsettled hrunning
  obtain rfl : stage = other := Option.some.inj (hstage.symm.trans hother)
  cases stage with
  | idle => exact trivial
  | control dirIn phase =>
      intro hnone
      cases hdescribes.2.1.symm.trans hnone

theorem runHandler_orderly {handler : SlaveM Unit} {m : Core0}
    (h : Program.Outcome handler m.slave (fun _ t => Settled t) Followed) :
    Orderly (runHandler handler m) := by
  unfold Program.Outcome at h
  unfold runHandler
  cases hrun : handler m.slave with
  | ok value t =>
      rw [hrun] at h
      exact Settled.orderly h
  | error reason t =>
      rw [hrun] at h
      exact ⟨h, nofun⟩

theorem slavework_outcome {s : Slave} (hs : Settled s)
    (hrespectful : ∀ message ∈ s.rx.items.head?, RespectfulMessage s message) :
    Program.Outcome slavework s (fun _ t => Settled t) Followed := by
  unfold slavework
  refine .read_bind ?_
  cases hremove : s.rx.remove with
  | none => exact .pure hs
  | some head =>
      obtain ⟨message, rest⟩ := head
      have hitems := Fifo.remove_eq_some.mp hremove
      obtain ⟨hsetup, hdata, hopened⟩ := hrespectful message (by rw [hitems]; rfl)
      let taken : Slave := { s with rx := rest }
      obtain ⟨stage, hstage, hdescribes⟩ := hs
      have htaken : Settled taken := ⟨stage, hstage, by cases stage <;> exact hdescribes⟩
      show Program.Outcome (handleMessage message) taken _ _
      exact handleMessage_outcome htaken ⟨hsetup, hdata, hopened⟩

/-- The controller completes a transaction: outside a control transfer, or as one of its stages. -/
theorem transact_settled {transaction : Transaction} {s : Slave} {h : Hcd} (hs : Settled s)
    (hnext : ∀ dirIn phase, stageOf s.calls = some (.control dirIn phase) →
      (epxView s.hcd).At phase → ∃ later, phase.next dirIn (.transacted transaction) =
        some (.control dirIn later) ∧ later.level = phase.level ∧ (epxView h).At later) :
    Settled { s with hcd := h, calls := s.calls ++ [.transacted transaction] } := by
  obtain ⟨stage, hstage, hdescribes⟩ := hs
  cases stage with
  | idle => exact NoTransfer.settled ((stageOf_concat hstage _).trans rfl)
  | control dirIn phase =>
      obtain ⟨hdirection, hlevel, hview⟩ := hdescribes
      obtain ⟨later, hlater, hsame, hat⟩ := hnext dirIn phase hstage hview
      exact ⟨_, stageOf_next hstage trivial hlater, hdirection, hsame.trans hlevel, hat⟩

theorem sendSetupPacket_settled {s : Slave} {h : Hcd} (hs : Settled s)
    (hsend : sendSetupPacket s.hcd = some h) :
    Settled { s with hcd := h, calls := s.calls ++ [.transacted .setupSent] } := by
  unfold sendSetupPacket at hsend
  split at hsend
  · rename_i hstarted
    cases hsend
    have hsending : (epxView s.hcd).sendSetup = true := hstarted.2
    refine transact_settled hs fun dirIn phase _ hview => ?_
    cases phase with
    | setup =>
        obtain ⟨hsetup, -⟩ := hview
        have hkept : (epxView (finishTransaction s.hcd)).sendSetup = true :=
          (hasBits_kept (by decide)).trans hsending
        exact ⟨.setupSent, rfl, rfl, ⟨hsetup.onEpx, hsetup.epAddr, hsetup.xferredLen, hkept,
          hsetup.pending⟩, hasBits_cleared (by decide)⟩
    | setupSent => cases hview.2.symm.trans hstarted.1
    | reading | received => cases hview.1.sendSetup.symm.trans hsending
    | status | statusSent => cases hview.1.sendSetup.symm.trans hsending
    | startRead | restartRead | partReply | startStatus | lastReply => exact hview.elim
  · cases hsend

theorem receiveIn_settled {s : Slave} {h : Hcd} {packet : Packet} (hs : Settled s)
    (hreceive : receiveIn s.hcd packet = some h) :
    Settled { s with hcd := h, calls := s.calls ++ [.transacted .packetIn] } := by
  unfold receiveIn at hreceive
  split at hreceive
  · rename_i hstarted
    obtain ⟨-, hsetup, hdirection, havail⟩ := hstarted
    refine transact_settled hs fun dirIn phase _ hview => ?_
    cases phase with
    | setup | setupSent => cases hview.1.sendSetup.symm.trans hsetup
    | received => cases hview.2.symm.trans havail
    | status | statusSent => cases hview.1.receiveData.symm.trans hdirection
    | reading =>
        obtain ⟨hread, -⟩ := hview
        have hword : (fillEpx s.hcd packet).memory.word epxBufCtrl = _ := storePacket_same _ _ _ _
        have hempty : (epxView (fillEpx s.hcd packet)).available = false := by
          show hasBits ((fillEpx s.hcd packet).memory.word epxBufCtrl) bufCtrlAvail = false
          rw [hword]
          exact (receivedWord_bits _ packet).2
        refine ⟨.received, rfl, rfl, ?_⟩
        cases hreceive
        split
        · exact ⟨⟨hread.activeEp, hread.onEpx, hread.epAddr, hread.rx,
            (hasBits_kept (by decide)).trans hread.sendSetup,
            (hasBits_kept (by decide)).trans hread.sendData⟩, hempty⟩
        · exact ⟨⟨hread.activeEp, hread.onEpx, hread.epAddr, hread.rx, hread.sendSetup,
            hread.sendData⟩, hempty⟩
    | startRead | restartRead | partReply | startStatus | lastReply => exact hview.elim
  · cases hreceive

theorem sendOut_settled {s : Slave} {h : Hcd} (hs : Settled s) (hsend : sendOut s.hcd = some h) :
    Settled { s with hcd := h, calls := s.calls ++ [.transacted .packetOut] } := by
  unfold sendOut at hsend
  split at hsend
  · rename_i hstarted
    obtain ⟨⟨-, hsetup, hdirection, havail⟩, -⟩ := hstarted
    refine transact_settled hs fun dirIn phase _ hview => ?_
    cases phase with
    | setup | setupSent => cases hview.1.sendSetup.symm.trans hsetup
    | reading | received => cases hview.1.sendData.symm.trans hdirection
    | statusSent => cases hview.2.symm.trans havail
    | status =>
        obtain ⟨hstatus, -⟩ := hview
        have hword : (emptyEpx s.hcd).memory.word epxBufCtrl =
            s.hcd.memory.word epxBufCtrl &&& ~~~(bufCtrlAvail ||| bufCtrlFull) :=
          Memory.writeWord_same _ _ _
        have hempty : (epxView (emptyEpx s.hcd)).available = false := by
          show hasBits ((emptyEpx s.hcd).memory.word epxBufCtrl) bufCtrlAvail = false
          rw [hword]
          exact hasBits_cleared (by decide)
        refine ⟨.statusSent, rfl, rfl, ?_⟩
        cases hsend
        split
        · exact ⟨⟨hstatus.activeEp, hstatus.epAddr, hstatus.rx, hstatus.whole,
            hstatus.remainingLen, (hasBits_kept (by decide)).trans hstatus.sendSetup,
            (hasBits_kept (by decide)).trans hstatus.receiveData⟩, hempty⟩
        · exact ⟨⟨hstatus.activeEp, hstatus.epAddr, hstatus.rx, hstatus.whole,
            hstatus.remainingLen, hstatus.sendSetup, hstatus.receiveData⟩, hempty⟩
    | startRead | restartRead | partReply | startStatus | lastReply => exact hview.elim
  · cases hsend

/-- A packet for an interrupt endpoint goes past EPX. -/
theorem receiveInterrupt_aside {s : Slave} {slot : Nat} {packet : Packet} {h : Hcd}
    (hreceive : receiveInterrupt s.hcd slot packet = some h) : Aside s { s with hcd := h } := by
  unfold receiveInterrupt at hreceive
  dsimp only at hreceive
  split at hreceive
  · rename_i hpolled
    obtain ⟨hslot, -, -⟩ := hpolled
    cases hreceive
    have hothers : ∀ slot ∈ interruptSlots, epxBufCtrl ≠ intEpBufferCtrl (slot - 1) ∧
        hasBits (slotBit slot) (slotBit epx) = false := by decide
    obtain ⟨hbuffer, hbit⟩ := hothers slot hslot
    refine ⟨rfl, rfl, sameEpx_of rfl rfl (storePacket_other _ _ _ hbuffer) rfl ?_ rfl, fun _ => id⟩
    show hasBits (s.hcd.bufStatus ||| slotBit slot) (slotBit epx) = _
    rw [hasBits_or, hbit, Bool.or_false]
  · cases hreceive

/-- A step that respects the control transfer in progress does not disturb it. -/
theorem step_orderly {m next : Core0} {event : Event} (hm : Orderly m)
    (hrespectful : Respectful m event) (hstep : step m event = some next) : Orderly next := by
  unfold step at hstep
  split at hstep
  · rename_i hrunning
    have hs := hm.2 hrunning
    cases event with
    | receive message =>
        obtain ⟨rx, -, rfl⟩ := Option.map_eq_some_iff.mp hstep
        obtain ⟨stage, hstage, hdescribes⟩ := hs
        exact Settled.orderly ⟨stage, hstage, by cases stage <;> exact hdescribes⟩
    | slavework =>
        cases hstep
        exact runHandler_orderly (slavework_outcome hs hrespectful)
    | hcdIrq =>
        cases hstep
        exact runHandler_orderly (hcdRp2040Irq_outcome hs hrespectful _ _)
    | setupSent =>
        obtain ⟨h, hsend, rfl⟩ := Option.map_eq_some_iff.mp hstep
        exact Settled.orderly (sendSetupPacket_settled hs hsend)
    | packetIn packet =>
        obtain ⟨h, hreceive, rfl⟩ := Option.map_eq_some_iff.mp hstep
        exact Settled.orderly (receiveIn_settled hs hreceive)
    | packetOut =>
        obtain ⟨h, hsend, rfl⟩ := Option.map_eq_some_iff.mp hstep
        exact Settled.orderly (sendOut_settled hs hsend)
    | interruptIn slot packet =>
        obtain ⟨h, hreceive, rfl⟩ := Option.map_eq_some_iff.mp hstep
        exact Settled.orderly ((receiveInterrupt_aside hreceive).settled hs)
    | raise cause =>
        cases hstep
        exact Settled.orderly hs
  · cases hstep

/-- In a run whose steps respect the control transfer in progress none is disturbed. -/
theorem undisturbed_of_respectful {romWord : BitVec 32} {events : List Event} {m : Core0}
    (hrespectful : Machine.Guarded step Respectful (.init romWord) events)
    (hrun : Machine.run step (.init romWord) events = some m) : Undisturbed m := by
  have hinit : Orderly (.init romWord) := Settled.orderly (NoTransfer.settled rfl)
  exact (Machine.guarded_invariant (fun _ _ _ hm hok hstep => step_orderly hm hok hstep) hinit
    hrespectful hrun).undisturbed

/-- A whole read of the device descriptor, with its status stage. -/
def deviceDescriptorTransfer : List Event :=
  packetSizeEight ++ controlRead ⟨0x80, 6, 0x0100, 0, 18⟩ deviceDescriptorPackets ++
    [.packetOut, .hcdIrq]

theorem deviceDescriptorTransfer_undisturbed :
    ∃ m, Machine.run step (.init 0) deviceDescriptorTransfer = some m ∧ Undisturbed m ∧
      NoTransfer m.slave ∧ m.halted = none := by
  have hrespectful : Machine.Guarded step Respectful (.init 0) deviceDescriptorTransfer := by
    decide +kernel
  have hends : ∃ m, Machine.run step (.init 0) deviceDescriptorTransfer = some m ∧
      (NoTransfer m.slave ∧ m.halted = none) := Machine.exists_run_of_any (by decide +kernel)
  obtain ⟨m, hrun, hidle, hrunning⟩ := hends
  exact ⟨m, hrun, undisturbed_of_respectful hrespectful hrun, hidle, hrunning⟩

/-- The master opens a bulk endpoint and asks for its data while a setup packet is being sent. -/
def bulkInsideControl : List Event :=
  [.receive ⟨MsgType.edptOpen, [7, 5, 0x81, 2, 64, 0, 0], by decide⟩, .slavework,
    .receive (setupMessage ⟨0x80, 6, 0x0100, 0, 18⟩), .slavework,
    .receive ⟨MsgType.usbData, [0x81], by decide⟩, .slavework]

/-- The bulk transfer takes the EPX registers from the setup packet. -/
theorem bulkInsideControl_disturbs :
    ¬ ∀ (romWord : BitVec 32) (events : List Event) (m : Core0),
      Machine.run step (.init romWord) events = some m → Undisturbed m := by
  intro hclaim
  have hends : ∃ m, Machine.run step (.init 0) bulkInsideControl = some m ∧
      stageOf m.slave.calls = none := Machine.exists_run_of_any (by decide +kernel)
  obtain ⟨m, hrun, hnone⟩ := hends
  obtain ⟨stage, hstage, -⟩ := hclaim 0 bulkInsideControl m hrun
  cases hnone.symm.trans hstage

end UsbSec.Host
