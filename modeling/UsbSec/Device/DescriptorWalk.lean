import Mathlib.Data.Nat.Find
import UsbSec.Device.Interpretation

/-!
# The walk over the descriptors of a configuration

The loop of `handle_setup_response` never ends when it meets a descriptor of length 0, unless a check
of the code stops the master before, and the tables are indexed as the bytes of the endpoint
descriptors say.
-/

namespace UsbSec.Device

open Library Usb Rp2040

/-! ## The loop and the way -/

/-- The loop is entered another time after `fuel` iterations when it has passed all descriptors on
its way and is still inside the response. The induction follows the iterations. -/
theorem walk_hang_iff {arr : Buffer} {len fuel : Nat} {v : Visit} {s : Master}
    (hnext : v.next = s.dcd.nextBufferPtr) :
    (∃ t, walk arr len fuel v.pos v.itf s = .error .hang t) ↔
      (∀ k < fuel, ((Visit.step arr)^[k] v).Passes arr len) ∧
        ((Visit.step arr)^[fuel] v).pos < len := by
  induction fuel generalizing v s with
  | zero =>
      rw [walk]
      by_cases hpos : v.pos < len
      · simp [hpos]
      · simp [hpos]
  | succ fuel ih =>
      have hfirst : (∀ k < fuel + 1, ((Visit.step arr)^[k] v).Passes arr len) ↔
          v.Passes arr len ∧ ∀ k < fuel, ((Visit.step arr)^[k] (v.step arr)).Passes arr len :=
        Nat.forall_lt_succ_left
      rw [hfirst, Function.iterate_succ_apply]
      by_cases hpos : v.pos < len
      · rw [walk_succ hpos]
        have hbody := walkBody_visit arr hnext
        cases hrun : walkBody arr v.pos v.itf s with
        | ok value t =>
            obtain ⟨haccepted, hstep⟩ := hbody.ok hrun
            have hrest := ih hstep
            rw [and_iff_right (⟨hpos, haccepted⟩ : v.Passes arr len)]
            exact hrest
        | error reason t =>
            have hrefused := hbody.error hrun
            constructor
            · rintro ⟨u, hhang⟩
              cases hhang
              exact absurd rfl (walkBody_reason hnext hrun).1
            · exact fun h => absurd h.1.1.accepted hrefused
      · rw [walk, if_neg hpos]
        constructor
        · rintro ⟨u, hhang⟩
          cases hhang
        · exact fun h => absurd h.1.1.inside hpos

theorem pos_le_of_le (arr : Buffer) (next : Nat) {first second : Nat} (h : first ≤ second) :
    (visit arr next first).pos ≤ (visit arr next second).pos := by
  induction h with
  | refl => exact Nat.le_refl _
  | step _ ih =>
      rw [visit_succ]
      exact Nat.le_trans ih (Nat.le_add_right _ _)

/-- The walk stays where the length byte is 0. -/
theorem pos_of_zero {arr : Buffer} {next first second : Nat} (h : first ≤ second)
    (hzero : arr (visit arr next first).pos = 0) :
    (visit arr next second).pos = (visit arr next first).pos := by
  induction h with
  | refl => rfl
  | step _ ih =>
      rw [visit_succ]
      show (visit arr next _).pos + (arr (visit arr next _).pos).toNat = _
      rw [ih, hzero]
      rfl

/-- Each descriptor with a length byte other than 0 takes the walk on by one byte at least. -/
theorem le_pos_of_ne_zero {arr : Buffer} {next count : Nat}
    (h : ∀ k < count, arr (visit arr next k).pos ≠ 0) : count ≤ (visit arr next count).pos := by
  induction count with
  | zero => exact Nat.zero_le _
  | succ count ih =>
      have hbefore := ih fun k hk => h k (by omega)
      have hbyte := h count (by omega)
      have hlength : 0 < (arr (visit arr next count).pos).toNat := by
        rcases Nat.eq_zero_or_pos (arr (visit arr next count).pos).toNat with hzero | hpos
        · exact absurd (UInt8.toNat_inj.mp hzero) hbyte
        · exact hpos
      rw [visit_succ]
      show count + 1 ≤ (visit arr next count).pos + (arr (visit arr next count).pos).toNat
      omega

/-! ## Does the walk end? -/

/-- The loop over the descriptors ends within as many iterations as the response has bytes, by its
own test or where `error` or a failed assertion stops the master. A run in which the loop goes past
the end of a table or copies from `NULL` is not among those that end: C says nothing of what it does
then. -/
def DescriptorWalkEnds (s : Master) : Prop :=
  ∀ t, handleSetupResponse s ≠ .error .hang t ∧ handleSetupResponse s ≠ .error .undefined t

theorem descriptorWalkEnds_iff_walk (s : Master) :
    DescriptorWalkEnds s ↔ (Walked s →
      ¬ ((∀ k < s.responseLen, (s.visit k).Passes s.aggregator.bugger s.responseLen) ∧
        (s.visit s.responseLen).pos < s.responseLen) ∧
      ¬ ∃ k < s.responseLen, (∀ j < k, (s.visit j).Passes s.aggregator.bugger s.responseLen) ∧
        (s.visit k).pos < s.responseLen ∧ ¬ ((s.visit k).IsEndpoint s.aggregator.bugger →
          (s.visit k).Guarded s.aggregator.bugger)) := by
  have hhang := (handleSetupResponse_stops_iff .hang s).trans
    (and_congr_right fun _ => walk_hang_iff (v := ⟨0, none, s.dcd.nextBufferPtr⟩) rfl)
  have hundefined := (handleSetupResponse_stops_iff .undefined s).trans
    (and_congr_right fun _ => walk_undefined_iff (v := ⟨0, none, s.dcd.nextBufferPtr⟩) rfl)
  rw [imp_and, ← not_and, ← not_and]
  refine Iff.trans ?_ (and_congr (not_congr hhang) (not_congr hundefined))
  rw [not_exists, not_exists]
  exact forall_and

/-- Where the walk does not pass all descriptors inside the response, the first that it does not pass
is an endpoint descriptor that is not accepted. -/
theorem exists_first_refused {arr : Buffer} {next len : Nat}
    (h : ∃ k < len, (visit arr next k).pos < len ∧ ¬ (visit arr next k).Passes arr len) :
    ∃ k < len, (∀ j < k, (visit arr next j).Passes arr len) ∧ (visit arr next k).pos < len ∧
      (visit arr next k).IsEndpoint arr ∧ ¬ (visit arr next k).Accepted arr := by
  classical
  obtain ⟨hlt, hinside, hfails⟩ := Nat.find_spec h
  refine ⟨Nat.find h, hlt, fun j hj => ?_, hinside, ?_, fun h => hfails ⟨hinside, fun _ => h⟩⟩
  · have hpos : (visit arr next j).pos < len :=
      Nat.lt_of_le_of_lt (pos_le_of_le _ _ (Nat.le_of_lt hj)) hinside
    by_contra hnot
    exact Nat.find_min h hj ⟨by omega, hpos, hnot⟩
  · by_contra hnot
    exact hfails ⟨hinside, fun htype => absurd htype hnot⟩

/-- The walk stays inside the response from a descriptor of length 0 on. -/
theorem inside_of_zero {arr : Buffer} {next len k : Nat} (hinside : (visit arr next k).pos < len)
    (hzero : arr (visit arr next k).pos = 0) (j : Nat) : (visit arr next j).pos < len := by
  rcases Nat.le_total j k with hle | hle
  · exact Nat.lt_of_le_of_lt (pos_le_of_le _ _ hle) hinside
  · exact (pos_of_zero hle hzero).symm ▸ hinside

/-- The loop over the descriptors ends exactly when no descriptor on its way has length 0 and all
endpoint descriptors on its way are guarded, or when a check stops the master at an endpoint
descriptor that is not accepted, with guarded ones before. -/
theorem descriptorWalkEnds_iff (s : Master) :
    DescriptorWalkEnds s ↔ (Walked s →
      (∀ k < s.responseLen, (s.visit k).pos < s.responseLen →
        s.aggregator.bugger (s.visit k).pos ≠ 0 ∧
          ((s.visit k).IsEndpoint s.aggregator.bugger →
            (s.visit k).Guarded s.aggregator.bugger)) ∨
      ∃ k < s.responseLen, (s.visit k).pos < s.responseLen ∧
        (s.visit k).IsEndpoint s.aggregator.bugger ∧
        ¬ (s.visit k).Accepted s.aggregator.bugger ∧
        ∀ j ≤ k, (s.visit j).IsEndpoint s.aggregator.bugger →
          (s.visit j).Guarded s.aggregator.bugger) := by
  rw [descriptorWalkEnds_iff_walk]
  refine imp_congr_right fun _ => ⟨?_, ?_⟩
  · rintro ⟨hhang, hundefined⟩
    -- A check stops the walk at a descriptor, or the walk passes all that it comes to.
    by_cases hrefused : ∃ k < s.responseLen, (s.visit k).pos < s.responseLen ∧
        ¬ (s.visit k).Passes s.aggregator.bugger s.responseLen
    · right
      obtain ⟨k, hk, hbefore, hinside, htype, hnot⟩ := exists_first_refused hrefused
      refine ⟨k, hk, hinside, htype, hnot, fun j hj hendpoint => ?_⟩
      rcases Nat.lt_or_eq_of_le hj with hlt | rfl
      · exact ((hbefore j hlt).accepted hendpoint).guarded
      · by_contra hunguarded
        exact hundefined ⟨j, hk, hbefore, hinside, fun hall => hunguarded (hall htype)⟩
    · left
      intro k hk hinside
      have hpasses : ∀ j < s.responseLen, (s.visit j).pos < s.responseLen →
          (s.visit j).Passes s.aggregator.bugger s.responseLen := by
        intro j hj hpos
        by_contra hnot
        exact hrefused ⟨j, hj, hpos, hnot⟩
      refine ⟨fun hzero => hhang ?_, fun htype => ((hpasses k hk hinside).accepted htype).guarded⟩
      have hpos : ∀ j, (s.visit j).pos < s.responseLen := inside_of_zero hinside hzero
      exact ⟨fun j hj => hpasses j hj (hpos j), hpos _⟩
  · rintro (hall | ⟨k, hk, hinside, htype, hrefused, hguarded⟩)
    · refine ⟨?_, ?_⟩
      · rintro ⟨hpasses, hinside⟩
        have hle : s.responseLen ≤ (s.visit s.responseLen).pos :=
          le_pos_of_ne_zero fun k hk => (hall k hk (hpasses k hk).inside).1
        omega
      · rintro ⟨k, hk, -, hinside, hunguarded⟩
        exact hunguarded (hall k hk hinside).2
    · refine ⟨fun h => hrefused ((h.1 k hk).accepted htype), ?_⟩
      rintro ⟨i, hi, hpasses, -, hunguarded⟩
      rcases Nat.lt_or_ge k i with hlt | hle
      · exact hrefused ((hpasses k hlt).accepted htype)
      · exact hunguarded (hguarded i hle)

/-- A reply with the last bytes of a response. -/
def lastPacket (bytes : List UInt8) : SlavePacket where
  eFlag := MsgType.isPacket ||| MsgType.setupData ||| MsgType.lastPacket
  payload := bytes ++ [0x80]
  payloadLength := UInt16.ofNat bytes.length

/-- The host asks for 255 bytes of the configuration. -/
def askConfiguration : List Event := [.hostSetup ⟨0x80, 6, 0x0200, 0, 0xff⟩, .dcdIrq]

/-- The master with these bytes as the response, which it goes on to handle. -/
def Core0.answered (m : Core0) (bytes : List UInt8) : Master :=
  Program.final (registerResponse (lastPacket bytes) m.master)

/-- The run ended in a loop without end. -/
def hangs : EStateM.Result Halt Master Unit → Bool
  | .error .hang _ => true
  | _ => false

/-- Ten zero bytes are a response on which the loop never ends. -/
theorem zeroBytes_not_end : ¬ ∀ romWord events m bytes, Reaches romWord events m →
    DescriptorWalkEnds (m.answered bytes) := by
  intro h
  have hends : ∃ m, Reaches 0 askConfiguration m ∧
      hangs (handleSetupResponse (m.answered (List.replicate 10 0))) = true :=
    exists_reaches_of_any (by decide +kernel)
  obtain ⟨m, hreach, hhang⟩ := hends
  unfold hangs at hhang
  split at hhang
  · rename_i t hrun
    exact (h 0 _ m _ hreach t).1 hrun
  · cases hhang

/-! ## Are the tables indexed in range? -/

/-- The loop over the descriptors is at `pos` with the interface pointer `itf` after `count`
iterations from `s`. -/
inductive WalkReaches (arr : Buffer) (len : Nat) (s : Master) :
    Nat → Nat → Option Nat → Master → Prop where
  | start : WalkReaches arr len s 0 0 none s
  | next {count pos : Nat} {itf : Option Nat} {t u : Master}
      (h : WalkReaches arr len s count pos itf t) (hpos : pos < len)
      (hbody : walkBody arr pos itf t = .ok () u) :
      WalkReaches arr len s (count + 1) (pos + (arr pos).toNat) (nextInterface arr pos itf) u

/-- The loop goes the way that the bytes of the response say. -/
theorem WalkReaches.visited {arr : Buffer} {len count pos : Nat} {itf : Option Nat} {s t : Master}
    (h : WalkReaches arr len s count pos itf t) :
    (∀ k < count, (visit arr s.dcd.nextBufferPtr k).Passes arr len) ∧
      visit arr s.dcd.nextBufferPtr count = ⟨pos, itf, t.dcd.nextBufferPtr⟩ := by
  induction h with
  | start => exact ⟨fun k hk => absurd hk (Nat.not_lt_zero k), rfl⟩
  | @next count pos itf t u _ hpos hbody ih =>
      obtain ⟨hpasses, hvisit⟩ := ih
      have houtcome := walkBody_visit arr (v := ⟨pos, itf, t.dcd.nextBufferPtr⟩) (s := t) rfl
      obtain ⟨haccepted, hnext⟩ := houtcome.ok hbody
      refine ⟨fun k hk => ?_, ?_⟩
      · rcases Nat.lt_succ_iff_lt_or_eq.mp hk with hlt | rfl
        · exact hpasses k hlt
        · rw [hvisit]
          exact ⟨hpos, haccepted⟩
      · rw [visit_succ, hvisit, ← hnext]
        rfl

/-- The loop gets past the descriptors that it passes. -/
theorem walkReaches_of_passes {arr : Buffer} {len count : Nat} {s : Master}
    (h : ∀ k < count, (visit arr s.dcd.nextBufferPtr k).Passes arr len) :
    ∃ t, WalkReaches arr len s count (visit arr s.dcd.nextBufferPtr count).pos
      (visit arr s.dcd.nextBufferPtr count).itf t := by
  induction count with
  | zero => exact ⟨s, .start⟩
  | succ count ih =>
      obtain ⟨t, hreach⟩ := ih fun k hk => h k (by omega)
      have hpasses := h count (by omega)
      have hvisit := hreach.visited.2
      have houtcome := walkBody_visit arr (v := visit arr s.dcd.nextBufferPtr count)
        (s := t) (by rw [hvisit])
      cases hrun : walkBody arr (visit arr s.dcd.nextBufferPtr count).pos
        (visit arr s.dcd.nextBufferPtr count).itf t with
      | ok value u =>
          refine ⟨u, ?_⟩
          rw [visit_succ]
          exact hreach.next hpasses.inside hrun
      | error reason u => exact absurd hpasses.accepted (houtcome.error hrun)

/-- The walk over the response reaches an endpoint descriptor at `pos`, with the interface pointer
`itf`. -/
def ReachesEndpoint (s : Master) (pos : Nat) (itf : Option Nat) : Prop :=
  Walked s ∧ ∃ count t, WalkReaches s.aggregator.bugger s.responseLen s.interpreting count pos itf t ∧
    pos < s.responseLen ∧ s.aggregator.bugger (pos + 1) = 0x05

/-- The address in the endpoint descriptor at `pos`. -/
def Master.addressAt (s : Master) (pos : Nat) : UInt8 :=
  EndpointPointer.bEndpointAddress ⟨s.aggregator.bugger, pos⟩

/-- At every endpoint descriptor that the walk reaches, `dcd_edpt_open_new` selects a row of
`hw_endpoints` from 1 to 15, the pointer passed to `register_driver_for_edpt` is not `NULL`, and
the driver tables are indexed below their length, at different places for different endpoints. -/
structure OpensInRange (s : Master) : Prop where
  row : ∀ pos itf, ReachesEndpoint s pos itf → ∀ d, ∃ row dirIn,
    hwEndpointGetByAddr (s.addressAt pos) d = .ok (row, dirIn) d ∧ 1 ≤ row ∧ row ≤ 15
  interface : ∀ pos itf, ReachesEndpoint s pos itf →
    nextInterface s.aggregator.bugger pos itf ≠ none
  slot : ∀ pos itf, ReachesEndpoint s pos itf → (idx (s.addressAt pos)).toNat < driverSlots
  distinct : ∀ pos itf other otherItf, ReachesEndpoint s pos itf →
    ReachesEndpoint s other otherItf → s.addressAt pos ≠ s.addressAt other →
      idx (s.addressAt pos) ≠ idx (s.addressAt other)

/-- The tables are indexed in range exactly when every endpoint descriptor on the way of the walk is
for an endpoint numbered 1 to 15 and comes behind an interface descriptor. -/
theorem opensInRange_iff (s : Master) :
    OpensInRange s ↔ (Walked s → ∀ count,
      (∀ k < count, (s.visit k).Passes s.aggregator.bugger s.responseLen) →
      (s.visit count).pos < s.responseLen → (s.visit count).IsEndpoint s.aggregator.bugger →
        Numbered (s.addressAt (s.visit count).pos) ∧ (s.visit count).itf ≠ none) := by
  constructor
  · intro h hwalked count hpasses hinside htype
    obtain ⟨t, hreach⟩ := walkReaches_of_passes (s := s.interpreting) hpasses
    have hendpoint : ReachesEndpoint s (s.visit count).pos (s.visit count).itf :=
      ⟨hwalked, count, t, hreach, hinside, htype⟩
    obtain ⟨row, dirIn, hplace, hlow, -⟩ := h.row _ _ hendpoint s.dcd
    obtain ⟨hlt, hrow, -⟩ := hwEndpointGetByAddr_ok hplace
    cases hrow
    have hitf := h.interface _ _ hendpoint
    rw [nextInterface_endpoint htype] at hitf
    exact ⟨⟨hlow, hlt⟩, hitf⟩
  · intro h
    have hreached (pos : Nat) (itf : Option Nat) (hendpoint : ReachesEndpoint s pos itf) :
        Numbered (s.addressAt pos) ∧ nextInterface s.aggregator.bugger pos itf ≠ none := by
      obtain ⟨hwalked, count, t, hreach, hinside, htype⟩ := hendpoint
      obtain ⟨hpasses, hvisit⟩ := hreach.visited
      have hvisit : s.visit count = ⟨pos, itf, t.dcd.nextBufferPtr⟩ := hvisit
      have hhere := h hwalked count hpasses
      rw [hvisit] at hhere
      rw [nextInterface_endpoint htype]
      exact hhere hinside htype
    constructor
    case row =>
      intro pos itf hendpoint d
      obtain ⟨⟨hpos, hlt⟩, -⟩ := hreached pos itf hendpoint
      exact ⟨_, _, Program.require_bind hlt _ _ d, hpos, Nat.le_of_lt_succ hlt⟩
    case interface => exact fun pos itf hendpoint => (hreached pos itf hendpoint).2
    case slot => exact fun pos itf hendpoint => slotOf_lt (hreached pos itf hendpoint).1.2
    case distinct =>
      intro pos itf other otherItf hfirst hsecond hne hsame
      have hslot : slotOf (s.addressAt pos) = slotOf (s.addressAt other) :=
        congrArg UInt8.toNat hsame
      exact hne (eq_of_slotOf_eq (hreached other otherItf hsecond).1.2
        (hreached pos itf hfirst).1.2 hslot)

/-- The descriptor of the endpoint 0x81, for interrupt transfers of 8 bytes. -/
def bareEndpoint : List UInt8 := [7, 5, 0x81, 3, 8, 0, 10]

/-- An endpoint descriptor without an interface descriptor in front of it makes the master copy an
interface from `NULL`. -/
theorem bareEndpoint_not_inRange : ¬ ∀ romWord events m bytes, Reaches romWord events m →
    OpensInRange (m.answered bytes) := by
  intro h
  have hends : ∃ m, Reaches 0 askConfiguration m ∧ Walked (m.answered bareEndpoint) ∧
      0 < (m.answered bareEndpoint).responseLen ∧
      (m.answered bareEndpoint).aggregator.bugger 1 = 0x05 :=
    exists_reaches_of_any (by decide +kernel)
  obtain ⟨m, hreach, hwalked, hlen, htype⟩ := hends
  have hendpoint : ReachesEndpoint (m.answered bareEndpoint) 0 none :=
    ⟨hwalked, 0, _, .start, hlen, htype⟩
  have hitf := (h 0 _ m bareEndpoint hreach).interface 0 none hendpoint
  rw [nextInterface_endpoint htype] at hitf
  exact hitf rfl

end UsbSec.Device
