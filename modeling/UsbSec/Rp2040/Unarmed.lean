import UsbSec.Rp2040.Registers

/-!
# Buffers that are not armed

The controller moves data through a buffer only while its control word says so. A word of zero
stays zero until a transfer is started on that very endpoint: when the buffer is taken for
completed, the transfer it belonged to is over, and what happens on other endpoints leaves the
word alone.
-/

namespace UsbSec.Rp2040

open Library Usb

/-- The control word of the endpoint's buffer is zero. -/
def Unarmed (d : Dcd) (num : Nat) (dirIn : Bool) : Prop :=
  d.memory.word (epBufCtrl num dirIn) = 0

instance (d : Dcd) (num : Nat) (dirIn : Bool) : Decidable (Unarmed d num dirIn) :=
  inferInstanceAs (Decidable (_ = _))

/-- The endpoint is in the table, and is not endpoint 0. -/
def IsNonControl (num : Nat) : Prop := 0 < num ∧ num < usbMaxEndpoints

/-- The endpoints have their own registers still, and a buffer that is not armed does not become
so, unless it belongs to endpoint 0. -/
def KeepsUnarmed (d e : Dcd) : Prop :=
  Wired d → Wired e ∧ ∀ num dirIn, IsNonControl num → Unarmed d num dirIn → Unarmed e num dirIn

instance : IsPreorder Dcd KeepsUnarmed where
  refl _ := fun hwired => ⟨hwired, fun _ _ _ hword => hword⟩
  trans _ _ _ h k := by
    intro hwired
    obtain ⟨hmiddle, hfirst⟩ := h hwired
    obtain ⟨hlast, hsecond⟩ := k hmiddle
    exact ⟨hlast, fun num dirIn hnum hword => hsecond num dirIn hnum (hfirst num dirIn hnum hword)⟩

/-- A change of something else. -/
theorem keepsUnarmed_of_same {d e : Dcd} (hendpoints : e.hwEndpoints = d.hwEndpoints)
    (hword : e.memory.word = d.memory.word) : KeepsUnarmed d e := by
  intro hwired
  refine ⟨hwired.of_progress fun num dirIn => by rw [hendpoints], fun num dirIn _ hunarmed => ?_⟩
  unfold Unarmed at *
  rw [hword]
  exact hunarmed

/-! ## Transfers on one endpoint -/

/-- A transfer on one endpoint leaves the buffers of all others as they are. -/
theorem withEndpoint_others {α : Type} {num : Nat} {dirIn : Bool} {engine : Engine α} {d : Dcd}
    (hnum : num < usbMaxEndpoints) (h : Program.Moves WritesOwn engine) (hd : Wired d) :
    Wired (Program.final (withEndpoint num dirIn engine d)) ∧
      ∀ other dir, ¬ (other = num ∧ dir = dirIn) →
        (Program.final (withEndpoint num dirIn engine d)).memory.word (epBufCtrl other dir) =
          d.memory.word (epBufCtrl other dir) := by
  have hfixed : Program.Moves SameFixed engine := h.mono fun _ _ hown => hown.fixed
  refine ⟨hd.of_progress (withEndpoint_only_progress num dirIn hfixed d), fun other dir hother => ?_⟩
  exact withEndpoint_sameOthers h (hd.own num hnum dirIn) _ (notOwn_epBufCtrl hnum hother)

/-- Transfers on endpoint 0 arm no other buffer. -/
theorem withEndpoint_control {α : Type} (dirIn : Bool) {engine : Engine α}
    (h : Program.Moves WritesOwn engine) :
    Program.Moves KeepsUnarmed (withEndpoint 0 dirIn engine) := by
  intro d hd
  have hzero : 0 < usbMaxEndpoints := by decide
  obtain ⟨hwired, hothers⟩ := withEndpoint_others hzero h hd
  refine ⟨hwired, fun num dir hnum hword => ?_⟩
  exact (hothers num dir fun hsame => Nat.ne_of_gt hnum.1 hsame.1).trans hword

theorem hwEndpointXferPartial_writes_own (buffer : UserBuf) (totalLen : UInt16) :
    Program.Moves WritesOwn (hwEndpointXferPartial .master buffer totalLen) := by
  refine Program.Moves.of_outcome fun c => .of_eq (Program.update_bind _ _ _) (.read_bind ?_)
  have hstart : WritesOwn c { c with ep := { c.ep with
      remainingLen := totalLen, xferredLen := 0, active := true, userBuf := buffer,
      isPartial := true } } := ⟨rfl, fun _ _ _ => rfl⟩
  refine .bind (P := fun _ e => WritesOwn c e) (.of_moves (prepareEpBuffer_moves writesOwn_rule _ _)
    (fun _ e he => trans_of WritesOwn hstart he) fun e he => trans_of WritesOwn hstart he) ?_
  intro bufCtrl d hd
  refine .read_bind (.ite (fun _ => .stop hd) fun _ => ?_)
  have hshape : d.ep.shape = c.ep.shape := shape_of_fixed hd.fixed
  have hpointer : d.ep.endpointControl = c.ep.endpointControl := congrArg Shape.endpointControl hshape
  refine .of_eq (Program.update_bind _ _ _) (.of_eq (Program.update_bind _ _ _) ?_)
  refine .of_moves (hwEndpointBufferControlSetValue32_moves writesOwn_rule _) (fun _ e he => ?_)
    fun e he => ?_
  all_goals
    refine trans_of WritesOwn (trans_of WritesOwn hd ?_) he
    exact ⟨rfl, fun offset _ hother => writeWord_of_ne (hpointer ▸ hother)⟩

/-! ## Completed buffers -/

/-- A buffer whose word is zero was not used: the rest of its transfer is given up. A received
packet cannot be taken from it. -/
theorem syncEpBuffer_unarmed {c : Channel} (hword : c.memory.readWord c.ep.bufferControl = 0) :
    Program.Outcome (syncEpBuffer .master) c
      (fun _ d => d.memory = c.memory ∧ d.ep.remainingLen = 0) (fun d => d.memory = c.memory) := by
  have hlen : bufLen 0 = 0 := by decide
  have hempty : hasBits 0 bufCtrlFull = false := by decide
  refine .read_bind ?_
  rw [hword]
  dsimp only
  rw [hlen]
  refine .bind (P := fun _ d => d.memory = c.memory) (.ite (fun _ => ?_) fun _ => ?_) ?_
  · refine .of_eq (Program.require_bind hempty _ _ _) ?_
    exact .of_ok rfl rfl
  · unfold syncReceived
    rw [Program.when_true hempty]
    exact .of_error rfl rfl
  · intro _ d hd
    have hshort : IsShort 0 d.ep.wMaxPacketSize := by
      unfold IsShort
      by_cases hzero : d.ep.wMaxPacketSize = 0
      · exact .inr hzero
      · exact .inl (UInt16.pos_iff_ne_zero.mpr hzero)
    refine .read_bind ?_
    rw [Program.when_true hshort]
    exact .of_ok rfl ⟨hd, rfl⟩

/-- Continuing the transfer of a buffer whose word is zero arms nothing. -/
theorem hwEndpointXferContinue_unarmed {c : Channel}
    (hword : c.memory.readWord c.ep.bufferControl = 0) :
    (Program.final (hwEndpointXferContinue .master c)).memory = c.memory := by
  have houtcome : Program.Outcome (hwEndpointXferContinue .master) c
      (fun _ d => d.memory = c.memory) (fun d => d.memory = c.memory) := by
    refine .read_bind (.ite (fun _ => .of_ok rfl rfl) fun _ => ?_)
    refine .bind (syncEpBuffer_unarmed hword) fun _ d hd => .read_bind ?_
    refine .ite (fun _ => .stop hd.1) fun _ => .ite (fun _ => .of_ok rfl hd.1) fun hmore => ?_
    exact absurd hd.2 hmore
  cases hrun : hwEndpointXferContinue .master c with
  | ok value d => exact houtcome.ok hrun
  | error reason d => exact houtcome.error hrun

theorem hwEndpointXferContinue_writes_own :
    Program.Moves WritesOwn (hwEndpointXferContinue .master) := by
  have hstart : Program.Moves WritesOwn (hwEndpointStartNextBuffer .master) :=
    startNextBufferMaster_writes_own
  exact hwEndpointXferContinue_moves writesOwn_rule hstart

/-- Handling a completed buffer arms no buffer whose word is zero, not even its own. -/
theorem continue_keepsUnarmed {num : Nat} (hnum : num < usbMaxEndpoints) (dirIn : Bool) :
    Program.Moves KeepsUnarmed (withEndpoint num dirIn (hwEndpointXferContinue .master)) := by
  intro d hd
  have hown := hwEndpointXferContinue_writes_own
  obtain ⟨hwired, hothers⟩ := withEndpoint_others hnum hown hd
  refine ⟨hwired, fun other dir _ hword => ?_⟩
  by_cases hsame : other = num ∧ dir = dirIn
  · obtain ⟨rfl, rfl⟩ := hsame
    let c : Channel := ⟨d.hwEndpoints other dir, d.memory⟩
    have hregisters := hd.own other hnum dir
    unfold Unarmed withEndpoint
    rw [Program.final_onPart]
    show (Program.final (hwEndpointXferContinue .master c)).memory.word _ = 0
    cases hpointer : (d.hwEndpoints other dir).bufferControl with
    | none =>
        -- after a bus reset the engine writes through `NULL`
        have hword' : (Program.final (hwEndpointXferContinue .master c)).memory.word
            (epBufCtrl other dir) = c.memory.word (epBufCtrl other dir) := by
          refine (hown c).word _ (fun hbuffer => ?_) fun hcontrol => ?_
          · rw [hpointer] at hbuffer
            cases hbuffer
          · exact epBufCtrl_ne_epCtrl hnum (hregisters.endpointControl _ hcontrol).2
        exact hword'.trans hword
    | some offset =>
        have hread : c.memory.readWord c.ep.bufferControl = 0 := by
          show d.memory.readWord (d.hwEndpoints other dir).bufferControl = 0
          rw [hpointer, hregisters.bufferControl offset hpointer]
          exact hword
        rw [hwEndpointXferContinue_unarmed hread]
        exact hword
  · exact (hothers other dir hsame).trans hword

/-! ## The table -/

/-- The fields of an endpoint are set, and its registers stay its own. -/
theorem setEp_keepsUnarmed {num : Nat} {dirIn : Bool} {change : HwEndpoint → HwEndpoint}
    (hown : ∀ ep, OwnRegisters num dirIn ep → OwnRegisters num dirIn (change ep))
    (hcontrol : num = 0 → ∀ ep, ControlEndpoint dirIn ep → ControlEndpoint dirIn (change ep)) :
    Program.Moves KeepsUnarmed (withEndpoint num dirIn (setEp change)) := by
  intro d hd
  refine ⟨⟨fun other hother dir => ?_, fun dir => ?_⟩, fun _ _ _ hword => hword⟩
  · by_cases hsame : other = num ∧ dir = dirIn
    · obtain ⟨rfl, rfl⟩ := hsame
      show OwnRegisters other dir ((d.setEndpoint other dir _).hwEndpoints other dir)
      rw [Dcd.setEndpoint_same]
      exact hown _ (hd.own other hother dir)
    · show OwnRegisters other dir ((d.setEndpoint num dirIn _).hwEndpoints other dir)
      rw [Dcd.setEndpoint_other _ _ hsame]
      exact hd.own other hother dir
  · by_cases hsame : 0 = num ∧ dir = dirIn
    · obtain ⟨rfl, rfl⟩ := hsame
      show ControlEndpoint dir ((d.setEndpoint 0 dir _).hwEndpoints 0 dir)
      rw [Dcd.setEndpoint_same]
      exact hcontrol rfl _ (hd.control dir)
    · show ControlEndpoint dir ((d.setEndpoint num dirIn _).hwEndpoints 0 dir)
      rw [Dcd.setEndpoint_other _ _ hsame]
      exact hd.control dir

/-- A register is written that is no buffer control register, or zero is written. -/
theorem writeWord_keepsUnarmed {d : Dcd} {pointer : Option Nat} {value : BitVec 32}
    (h : Wired d → value = 0 ∨ ∀ num dirIn, pointer ≠ some (epBufCtrl num dirIn)) :
    KeepsUnarmed d { d with memory := d.memory.writeWord pointer value } := by
  intro hd
  refine ⟨⟨hd.own, hd.control⟩, fun num dirIn _ hword => ?_⟩
  show (d.memory.writeWord pointer value).word (epBufCtrl num dirIn) = 0
  by_cases hsame : pointer = some (epBufCtrl num dirIn)
  · rcases h hd with hzero | hother
    · rw [hsame, Memory.writeWord_same, hzero]
    · exact absurd hsame (hother num dirIn)
  · exact (writeWord_of_ne hsame).trans hword

theorem hwEndpointAlloc_keepsUnarmed {num : Nat} (hnum : IsNonControl num) (dirIn : Bool)
    (transferType : UInt8) : Program.Moves KeepsUnarmed (hwEndpointAlloc num dirIn transferType) := by
  refine .bind .read fun d => .bind (setEp_keepsUnarmed ?_ ?_) fun _ => ?_
  · exact fun _ hown => ⟨hown.bufferControl, hown.endpointControl, hown.direction⟩
  · exact fun hzero => absurd hzero (Nat.ne_of_gt hnum.1)
  refine .bind (.update fun _ => keepsUnarmed_of_same rfl rfl) fun _ => ?_
  refine .bind (.require _ _) fun _ => .bind (.require _ _) fun _ => .update fun e => ?_
  refine writeWord_keepsUnarmed fun he => .inr fun other dir hsame => ?_
  obtain ⟨-, hregister⟩ := (he.own num hnum.2 dirIn).endpointControl _ hsame
  exact epBufCtrl_ne_epCtrl hnum.2 hregister

/-- Opening an endpoint arms no buffer, even if there is no room for a new one. -/
theorem hwEndpointInit_keepsUnarmed (epAddr : UInt8) (wMaxPacketSize : UInt16)
    (transferType : UInt8) :
    Program.Moves KeepsUnarmed (hwEndpointInit epAddr wMaxPacketSize transferType) := by
  intro d
  by_cases hnum : (tuEdptNumber epAddr).toNat < usbMaxEndpoints
  case neg =>
    have hstops : hwEndpointGetByAddr epAddr d = .error .undefined d :=
      Program.require_stops hnum _ _ _
    unfold hwEndpointInit
    rw [Program.bind_error hstops]
    exact refl_of KeepsUnarmed d
  unfold hwEndpointInit
  rw [Program.bind_ok (hwEndpointGetByAddr_apply hnum d)]
  revert d
  show Program.Moves KeepsUnarmed (_ >>= _)
  refine .bind (setEp_keepsUnarmed ?_ ?_) fun _ => ?_
  · exact fun ep hown => ⟨fun _ h => (Option.some.inj h).symm, hown.endpointControl,
      fun h => congrArg Bool.not h⟩
  · intro hzero ep hcontrol
    exact ⟨rfl, hcontrol.endpointControl, by rw [hzero], hcontrol.hwDataBuf⟩
  refine .bind (.update fun _ => writeWord_keepsUnarmed fun _ => .inl rfl) fun _ => ?_
  split
  · refine setEp_keepsUnarmed (fun ep hown => ?_) fun _ ep hcontrol => ?_
    · refine ⟨hown.bufferControl, fun offset h => ?_, hown.direction⟩
      cases h
    · exact ⟨hcontrol.rx, rfl, hcontrol.bufferControl, rfl⟩
  · rename_i hpos
    refine .bind (setEp_keepsUnarmed ?_ fun hzero => absurd hzero hpos) fun _ => ?_
    · exact fun ep hown => ⟨hown.bufferControl, fun _ h => ⟨hpos, (Option.some.inj h).symm⟩,
        hown.direction⟩
    · exact hwEndpointAlloc_keepsUnarmed ⟨Nat.pos_of_ne_zero hpos, hnum⟩ _ _

theorem resetNonControlEndpoints_keepsUnarmed :
    Program.Moves KeepsUnarmed resetNonControlEndpoints := by
  intro d hd
  refine ⟨resetNonControlEndpoints_wired d hd, fun num dirIn _ hword => ?_⟩
  show (if _ then 0 else d.memory.word (epBufCtrl num dirIn)) = 0
  split
  · rfl
  · exact hword

end UsbSec.Rp2040
