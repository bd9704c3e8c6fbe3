import UsbSec.Rp2040.Allocator

/-!
# Which registers belong to which endpoint

Each endpoint of the master has a buffer control register, and each but endpoint 0 an endpoint
control register. The pointers to them are set when the endpoint is opened and cleared by a bus
reset, so a transfer on one endpoint leaves the registers of the others alone.
-/

namespace UsbSec.Rp2040

open Library Usb

/-- The register pointers of an endpoint are its own, or `NULL`, and an IN endpoint sends. -/
structure OwnRegisters (num : Nat) (dirIn : Bool) (ep : HwEndpoint) : Prop where
  bufferControl : ∀ offset, ep.bufferControl = some offset → offset = epBufCtrl num dirIn
  endpointControl : ∀ offset, ep.endpointControl = some offset →
    num ≠ 0 ∧ offset = epCtrl (num - 1) dirIn
  direction : dirIn = true → ep.rx = false

/-- Endpoint 0 as `dcd_init_new` sets it up. -/
structure ControlEndpoint (dirIn : Bool) (ep : HwEndpoint) : Prop where
  rx : ep.rx = !dirIn
  endpointControl : ep.endpointControl = none
  bufferControl : ep.bufferControl = some (epBufCtrl 0 dirIn)
  hwDataBuf : ep.hwDataBuf = some ep0BufA

/-- All endpoints of the table have their own registers, and endpoint 0 is set up. -/
structure Wired (d : Dcd) : Prop where
  own : ∀ num < usbMaxEndpoints, ∀ dirIn, OwnRegisters num dirIn (d.hwEndpoints num dirIn)
  control : ∀ dirIn, ControlEndpoint dirIn (d.hwEndpoints 0 dirIn)

/-- The offset is not one of the registers of the endpoint. -/
def NotOwn (num : Nat) (dirIn : Bool) (offset : Nat) : Prop :=
  offset ≠ epBufCtrl num dirIn ∧ (num ≠ 0 → offset ≠ epCtrl (num - 1) dirIn)

/-- The registers of the other endpoints are the same. -/
def SameOthers (num : Nat) (dirIn : Bool) (d e : Dcd) : Prop :=
  ∀ offset, NotOwn num dirIn offset → e.memory.word offset = d.memory.word offset

theorem epBufCtrl_ne_epCtrl {num other : Nat} {dirIn dir : Bool} (h : num < usbMaxEndpoints) :
    epBufCtrl other dir ≠ epCtrl (num - 1) dirIn := by
  have hsmall : num < 16 := h
  unfold epBufCtrl epCtrl
  cases dir <;> cases dirIn <;> simp <;> omega

/-- Buffer control registers of different endpoints are different, and no endpoint control
register is among them. -/
theorem notOwn_epBufCtrl {num other : Nat} {dirIn dir : Bool} (hnum : num < usbMaxEndpoints)
    (h : ¬ (other = num ∧ dir = dirIn)) : NotOwn num dirIn (epBufCtrl other dir) := by
  refine ⟨fun hsame => h ?_, fun _ => epBufCtrl_ne_epCtrl hnum⟩
  unfold epBufCtrl at hsame
  cases dir <;> cases dirIn <;> simp at hsame ⊢ <;> omega

theorem OwnRegisters.zero (num : Nat) (dirIn : Bool) : OwnRegisters num dirIn .zero := by
  constructor
  · intro offset h
    cases h
  · intro offset h
    cases h
  · intro _
    rfl

theorem OwnRegisters.of_fixed {num : Nat} {dirIn : Bool} {first second : HwEndpoint}
    (h : OwnRegisters num dirIn first) (hfixed : second.fixed = first.fixed) :
    OwnRegisters num dirIn second := by
  have hbuffer : second.bufferControl = first.bufferControl := eq_of_fixed (fun _ => rfl) hfixed
  have hcontrol : second.endpointControl = first.endpointControl :=
    eq_of_fixed (fun _ => rfl) hfixed
  have hrx : second.rx = first.rx := eq_of_fixed (fun _ => rfl) hfixed
  constructor
  · rw [hbuffer]
    exact h.bufferControl
  · rw [hcontrol]
    exact h.endpointControl
  · rw [hrx]
    exact h.direction

theorem ControlEndpoint.of_fixed {dirIn : Bool} {first second : HwEndpoint}
    (h : ControlEndpoint dirIn first) (hfixed : second.fixed = first.fixed) :
    ControlEndpoint dirIn second := by
  have hshape : second.shape = first.shape := shape_of_fixed hfixed
  constructor
  · exact (eq_of_fixed (fun _ => rfl) hfixed).trans h.rx
  · exact (congrArg Shape.endpointControl hshape).trans h.endpointControl
  · exact (congrArg Shape.bufferControl hshape).trans h.bufferControl
  · exact (congrArg Shape.hwDataBuf hshape).trans h.hwDataBuf

/-- The progress of transfers does not move pointers. -/
theorem Wired.of_progress {d e : Dcd} (h : Wired d) (hprogress : OnlyProgress d e) : Wired e where
  own num hnum dirIn := (h.own num hnum dirIn).of_fixed (hprogress num dirIn)
  control dirIn := (h.control dirIn).of_fixed (hprogress 0 dirIn)

/-! ## Opening an endpoint -/

/-- What setting up an endpoint does to the table and the registers. -/
structure SetUp (num : Nat) (dirIn : Bool) (d e : Dcd) : Prop where
  own : OwnRegisters num dirIn (e.hwEndpoints num dirIn)
  rx : (e.hwEndpoints num dirIn).rx = !dirIn
  control : num = 0 → ControlEndpoint dirIn (e.hwEndpoints num dirIn)
  other : ∀ other dir, ¬ (other = num ∧ dir = dirIn) →
    e.hwEndpoints other dir = d.hwEndpoints other dir
  cleared : e.memory.word (epBufCtrl num dirIn) = 0
  others : SameOthers num dirIn d e
  memory : SameData d.memory e.memory

theorem hwEndpointInit_setUp {epAddr : UInt8} {wMaxPacketSize : UInt16} {transferType : UInt8}
    {d e : Dcd} (h : hwEndpointInit epAddr wMaxPacketSize transferType d = .ok () e) :
    (tuEdptNumber epAddr).toNat < usbMaxEndpoints ∧
      SetUp (tuEdptNumber epAddr).toNat (tuEdptDirIn epAddr) d e := by
  obtain ⟨⟨num, dirIn⟩, _, haddr, hinit⟩ := Program.bind_eq_ok h
  obtain ⟨hnum, hplace, rfl⟩ := hwEndpointGetByAddr_ok haddr
  cases hplace
  refine ⟨hnum, ?_⟩
  generalize (tuEdptNumber epAddr).toNat = num at hnum hinit ⊢
  generalize tuEdptDirIn epAddr = dirIn at hinit ⊢
  obtain ⟨_, _, hfields, h⟩ := Program.bind_eq_ok hinit
  cases hfields
  obtain ⟨_, _, hword, h⟩ := Program.bind_eq_ok h
  cases hword
  split at h
  · rename_i hzero
    cases h
    subst hzero
    constructor
    case own =>
      simp only [Dcd.setEndpoint_same]
      exact ⟨fun _ h => (Option.some.inj h).symm, nofun, fun h => congrArg Bool.not h⟩
    case rx => simp only [Dcd.setEndpoint_same]
    case control =>
      intro _
      simp only [Dcd.setEndpoint_same]
      exact ⟨rfl, rfl, rfl, rfl⟩
    case other =>
      intro other dir hother
      exact (Dcd.setEndpoint_other _ _ hother).trans (Dcd.setEndpoint_other _ _ hother)
    case cleared => exact Memory.writeWord_same _ _ _
    case others => exact fun offset hother => Memory.writeWord_other _ _ hother.1
    case memory => exact ⟨rfl, rfl⟩
  · rename_i hpos
    obtain ⟨_, _, hcontrol, h⟩ := Program.bind_eq_ok h
    cases hcontrol
    obtain ⟨next, rfl⟩ := hwEndpointAlloc_eq_ok h
    constructor
    case own =>
      simp only [Dcd.setEndpoint_same]
      exact ⟨fun _ h => (Option.some.inj h).symm, fun _ h => ⟨hpos, (Option.some.inj h).symm⟩,
        fun h => congrArg Bool.not h⟩
    case rx => simp only [Dcd.setEndpoint_same]
    case control => exact fun hzero => absurd hzero hpos
    case other =>
      intro other dir hother
      refine (Dcd.setEndpoint_other _ _ hother).trans ?_
      exact (Dcd.setEndpoint_other _ _ hother).trans (Dcd.setEndpoint_other _ _ hother)
    case cleared =>
      simp only [Dcd.setEndpoint_same]
      rw [Memory.writeWord_other]
      · exact Memory.writeWord_same _ _ _
      · exact epBufCtrl_ne_epCtrl hnum
    case others =>
      intro offset hother
      simp only [Dcd.setEndpoint_same]
      rw [Memory.writeWord_other _ _ (hother.2 hpos)]
      exact Memory.writeWord_other _ _ hother.1
    case memory =>
      simp only [Dcd.setEndpoint_same]
      exact ⟨rfl, rfl⟩

theorem SetUp.wired {num : Nat} {dirIn : Bool} {d e : Dcd} (h : SetUp num dirIn d e)
    (hd : Wired d) : Wired e := by
  constructor
  · intro other hother dir
    by_cases hsame : other = num ∧ dir = dirIn
    · obtain ⟨rfl, rfl⟩ := hsame
      exact h.own
    · rw [h.other other dir hsame]
      exact hd.own other hother dir
  · intro dir
    by_cases hsame : 0 = num ∧ dir = dirIn
    · obtain ⟨rfl, rfl⟩ := hsame
      exact h.control rfl
    · rw [h.other 0 dir hsame]
      exact hd.control dir

/-! ## Transfers -/

/-- The endpoint makes progress, and no registers but its own are written. -/
structure WritesOwn (c d : Channel) : Prop where
  fixed : d.ep.fixed = c.ep.fixed
  word : ∀ offset, c.ep.bufferControl ≠ some offset → c.ep.endpointControl ≠ some offset →
    d.memory.word offset = c.memory.word offset

instance : IsPreorder Channel WritesOwn where
  refl _ := ⟨rfl, fun _ _ _ => rfl⟩
  trans c d e h k := by
    have hbuffer : d.ep.bufferControl = c.ep.bufferControl :=
      eq_of_fixed (fun _ => rfl) h.fixed
    have hcontrol : d.ep.endpointControl = c.ep.endpointControl :=
      eq_of_fixed (fun _ => rfl) h.fixed
    refine ⟨k.fixed.trans h.fixed, fun offset hother hother' => ?_⟩
    exact (k.word offset (by rwa [hbuffer]) (by rwa [hcontrol])).trans (h.word offset hother hother')

theorem writeWord_of_ne {memory : Memory} {pointer : Option Nat} {value : BitVec 32} {offset : Nat}
    (h : pointer ≠ some offset) : (memory.writeWord pointer value).word offset = memory.word offset := by
  cases pointer with
  | none => rfl
  | some other =>
      refine Memory.writeWord_other _ _ fun hsame => h ?_
      rw [hsame]

theorem writesOwn_rule : EngineRule WritesOwn where
  progress _ _ h _ := ⟨h, fun _ _ _ => rfl⟩
  data _ _ h := ⟨rfl, fun _ _ _ => congrFun h _⟩
  bufferControl _ _ := ⟨rfl, fun _ hother _ => writeWord_of_ne hother⟩

/-- The end of `_hw_endpoint_start_next_buffer` writes both registers of the endpoint. -/
theorem armBuffer_writes_own {pointer : Option Nat} (control word : BitVec 32) {c d : Channel}
    (hd : WritesOwn c d) (hpointer : pointer = c.ep.endpointControl) :
    Program.Outcome (do
      setMemory fun m => m.writeWord pointer control
      hwEndpointBufferControlSetValue32 word) d (fun _ e => WritesOwn c e) fun e => WritesOwn c e := by
  have hshape : d.ep.shape = c.ep.shape := shape_of_fixed hd.fixed
  have hsame : pointer = d.ep.endpointControl :=
    hpointer.trans (congrArg Shape.endpointControl hshape).symm
  let written : Channel := { d with memory := d.memory.writeWord pointer control }
  have hwritten : WritesOwn d written :=
    ⟨rfl, fun _ _ hother => writeWord_of_ne (hsame ▸ hother)⟩
  refine .of_eq (Program.update_bind _ _ _) ?_
  refine .of_ok (hwEndpointBufferControlSetValue32_apply word written) ?_
  exact trans_of WritesOwn hd (trans_of WritesOwn hwritten (writesOwn_rule.bufferControl _ _))

theorem startNextBufferMaster_writes_own : Program.Moves WritesOwn startNextBufferMaster := by
  refine Program.Moves.of_outcome fun c => .read_bind ?_
  refine .bind (.of_moves (prepareEpBuffer_moves writesOwn_rule _ _) (fun _ _ h => h) fun _ h => h) ?_
  intro bufCtrl d hd
  refine .read_bind (.ite (fun _ => ?_) fun _ => armBuffer_writes_own _ _ hd rfl)
  refine .bind (P := fun _ e => WritesOwn c e) (.of_moves (prepareEpBuffer_moves writesOwn_rule _ _)
    (fun _ e he => trans_of WritesOwn hd he) fun e he => trans_of WritesOwn hd he) ?_
  exact fun second e he => armBuffer_writes_own _ _ he rfl

theorem hwEndpointXferStart_writes_own (buffer : UserBuf) (totalLen : UInt16) :
    Program.Moves WritesOwn (hwEndpointXferStart .master buffer totalLen) := by
  have hstart : Program.Moves WritesOwn (hwEndpointStartNextBuffer .master) :=
    startNextBufferMaster_writes_own
  exact hwEndpointXferStart_moves writesOwn_rule hstart _ _

/-! ## Transfers from the host -/

/-- An endpoint that receives still does, and no data are written. -/
def KeepsData (c d : Channel) : Prop :=
  c.ep.rx = true → d.ep.rx = true ∧ d.memory.data = c.memory.data

instance : IsPreorder Channel KeepsData where
  refl _ := fun hrx => ⟨hrx, rfl⟩
  trans _ _ _ h k := fun hrx =>
    ⟨(k (h hrx).1).1, (k (h hrx).1).2.trans (h hrx).2⟩

theorem prepareEpBuffer_keeps_data (role : SpiRole) (bufId : Nat) :
    Program.Moves KeepsData (prepareEpBuffer role bufId) := by
  refine Program.Moves.of_outcome fun c => .read_bind (.of_eq (Program.update_bind _ _ _) ?_)
  by_cases hrx : c.ep.rx = false
  · have hany (d : Channel) : KeepsData c d := fun h => absurd (h.symm.trans hrx) (by decide)
    exact .of_moves (R := fun _ _ => True) (fun _ => trivial) (fun _ d _ => hany d) fun d _ => hany d
  · rw [Program.when_false hrx]
    exact .of_ok rfl fun h => ⟨h, rfl⟩

theorem startNextBufferMaster_keeps_data : Program.Moves KeepsData startNextBufferMaster := by
  have hword (pointer : Option Nat) (value : BitVec 32) :
      Program.Moves KeepsData (setMemory fun m => m.writeWord pointer value) :=
    Program.Moves.update fun c hrx => ⟨hrx, (writeWord_sameData _ _ _).data⟩
  have hset (value : BitVec 32) :
      Program.Moves KeepsData (hwEndpointBufferControlSetValue32 value) :=
    Program.Moves.read_bind fun c hrx => ⟨hrx, (writeWord_sameData _ _ _).data⟩
  refine .bind .read fun c => .bind (prepareEpBuffer_keeps_data _ _) fun _ => .bind .read fun d => ?_
  refine .ite (.bind (prepareEpBuffer_keeps_data _ _) fun _ => ?_) ?_
  · exact .bind (hword _ _) fun _ => hset _
  · exact .bind (hword _ _) fun _ => hset _

theorem hwEndpointXferStart_keeps_data (buffer : UserBuf) (totalLen : UInt16) :
    Program.Moves KeepsData (hwEndpointXferStart .master buffer totalLen) := by
  refine .bind .read fun c => .bind (.when (.update fun _ hrx => ⟨hrx, rfl⟩)) fun _ => ?_
  exact .bind (.update fun _ hrx => ⟨hrx, rfl⟩) fun _ => startNextBufferMaster_keeps_data

/-- A transfer on one endpoint leaves the registers of the others alone. -/
theorem withEndpoint_sameOthers {α : Type} {num : Nat} {dirIn : Bool} {engine : Engine α} {d : Dcd}
    (h : Program.Moves WritesOwn engine) (hown : OwnRegisters num dirIn (d.hwEndpoints num dirIn)) :
    SameOthers num dirIn d (Program.final (withEndpoint num dirIn engine d)) := by
  intro offset hother
  unfold withEndpoint
  rw [Program.final_onPart]
  refine (h ⟨d.hwEndpoints num dirIn, d.memory⟩).word offset (fun hbuffer => ?_) fun hcontrol => ?_
  · exact hother.1 (hown.bufferControl offset hbuffer)
  · obtain ⟨hpos, hsame⟩ := hown.endpointControl offset hcontrol
    exact hother.2 hpos hsame

/-! ## The table -/

theorem resetNonControlEndpoints_wired :
    Program.Moves (Program.Keeps Wired) resetNonControlEndpoints := by
  intro d hd
  constructor
  · intro num hnum dirIn
    show OwnRegisters num dirIn (if 1 ≤ num ∧ num < usbMaxEndpoints then HwEndpoint.zero
      else d.hwEndpoints num dirIn)
    split
    · exact .zero num dirIn
    · exact hd.own num hnum dirIn
  · exact fun dirIn => hd.control dirIn

theorem dcdAfterInit_wired (romWord : BitVec 32) : Wired (dcdAfterInit romWord) := by
  constructor
  · intro num hnum dirIn
    by_cases hzero : num = 0
    · subst hzero
      cases dirIn
      · exact ⟨fun _ h => (Option.some.inj h).symm, nofun, nofun⟩
      · exact ⟨fun _ h => (Option.some.inj h).symm, nofun, fun _ => rfl⟩
    · have hrow : (dcdAfterInit romWord).hwEndpoints num dirIn =
          if 1 ≤ num ∧ num < usbMaxEndpoints then HwEndpoint.zero
          else (Program.final (hwEndpointInit 0x80 64 0 (Program.final
            (hwEndpointInit 0x00 64 0 (.cleared romWord))))).hwEndpoints num dirIn := rfl
      rw [hrow, if_pos ⟨Nat.pos_of_ne_zero hzero, hnum⟩]
      exact .zero num dirIn
  · intro dirIn
    cases dirIn <;> exact ⟨rfl, rfl, rfl, rfl⟩

end UsbSec.Rp2040
