import UsbSec.Device.Logs
import UsbSec.Device.Tables
import UsbSec.Library.Work
import UsbSec.Rp2040.Exchange

/-!
# One pass over the completed buffers

`hw_handle_buff_status` reads `buf_status` once and looks at the bits of that word. The bit function
works on its own copy of the word and clears the bit in hardware; the loop over the OUT endpoints
clears bit 2 in the word that the loop over the IN endpoints then uses, whichever OUT endpoint it
handled. `hwHandleBuffStatus_apply` gives the bits that a pass handles, and
`hwHandleBuffStatus_handles_each` says for which words the endpoints continued are those of all the
bits that are set.
-/

namespace UsbSec.Device

open Library Usb Rp2040

/-! ## The bits of the word -/

theorem hasBits_bufStatusBit_eq_getLsbD (word : BitVec 32) {i : Nat} (hi : i < 32) :
    hasBits word (bufStatusBit i) = word.getLsbD i := hasBits_shift word hi

/-- Clearing a bit leaves the others. -/
theorem getLsbD_cleared (word : BitVec 32) (i j : Nat) :
    (word &&& ~~~bufStatusBit i).getLsbD j = (word.getLsbD j && decide (j ≠ i)) :=
  getLsbD_clear word i j

/-- The mask of the loop over the OUT endpoints clears bit 2, whichever endpoint was handled. -/
theorem getLsbD_masked (word : BitVec 32) (j : Nat) :
    (word &&& ~~~4#32).getLsbD j = (word.getLsbD j && decide (j ≠ 2)) :=
  getLsbD_cleared word 2 j

/-! ## The loops handle a list of bits -/

/-- Handle the buffers of a list of bits, one after the other. -/
def handleBuffers (bits : List Nat) : MasterM Unit := bits.forM hwHandleBuffStatusBit

theorem handleBuffers_cons (i : Nat) (rest : List Nat) :
    handleBuffers (i :: rest) = hwHandleBuffStatusBit i >>= fun _ => handleBuffers rest := rfl

theorem handleBuffers_append (first second : List Nat) :
    handleBuffers (first ++ second) = handleBuffers first >>= fun _ => handleBuffers second := by
  induction first with
  | nil => rfl
  | cons i rest ih =>
      rw [List.cons_append, handleBuffers_cons, ih, handleBuffers_cons, bind_assoc]

theorem handleBuffers_singleton (i : Nat) : handleBuffers [i] = hwHandleBuffStatusBit i := by
  rw [handleBuffers_cons]
  exact bind_pure _

/-- The bits of a list that are set in the word, in the order of the list. -/
def setBits (word : BitVec 32) (bits : List Nat) : List Nat := bits.filter word.getLsbD

@[simp] theorem setBits_zero (bits : List Nat) : setBits 0 bits = [] := by
  simp [setBits]

theorem setBits_cons (word : BitVec 32) (i : Nat) (rest : List Nat) :
    setBits word (i :: rest) =
      if word.getLsbD i then i :: setBits word rest else setBits word rest :=
  List.filter_cons

theorem setBits_masked {word : BitVec 32} {bits : List Nat} (h : 2 ∉ bits) :
    setBits (word &&& ~~~4#32) bits = setBits word bits := by
  refine List.filter_congr fun j hj => ?_
  have hne : j ≠ 2 := fun heq => h (heq ▸ hj)
  rw [getLsbD_masked, decide_eq_true hne, Bool.and_true]

/-- A loop over bits of which none is 2 handles the set ones, and forgets bit 2 when there are any. -/
theorem handleOutEndpoints_eq {bits : List Nat} (hlt : ∀ i ∈ bits, i < 32) (htwo : 2 ∉ bits)
    (word : BitVec 32) :
    handleOutEndpoints bits word = handleBuffers (setBits word bits) >>= fun _ =>
      pure (if setBits word bits = [] then word else word &&& ~~~4#32) := by
  induction bits generalizing word with
  | nil => rfl
  | cons i rest ih =>
      have hrestLt (j : Nat) (hj : j ∈ rest) : j < 32 := hlt j (List.mem_cons_of_mem _ hj)
      have hrestTwo : 2 ∉ rest := fun hmem => htwo (List.mem_cons_of_mem _ hmem)
      have hnext (word : BitVec 32) := ih hrestLt hrestTwo word
      unfold handleOutEndpoints
      by_cases hzero : word = 0
      · rw [if_pos hzero, hzero, setBits_zero, if_pos rfl]
        rfl
      · rw [if_neg hzero, hasBits_bufStatusBit_eq_getLsbD word (hlt i List.mem_cons_self),
          setBits_cons]
        by_cases hset : word.getLsbD i = true
        · -- the rest of the loop sees the masked word, in which its own bits are the same
          have hmasked : word &&& ~~~4#32 &&& ~~~4#32 = word &&& ~~~4#32 := by
            rw [BitVec.and_assoc, BitVec.and_self]
          rw [if_pos hset, if_pos hset, handleBuffers_cons, hnext, setBits_masked hrestTwo, hmasked,
            ite_self, if_neg (List.cons_ne_nil _ _), bind_assoc]
        · rw [if_neg hset, if_neg hset, hnext]

/-- The loop over the IN endpoints handles the set bits. -/
theorem handleInEndpoints_eq {bits : List Nat} (hlt : ∀ i ∈ bits, i < 32) (word : BitVec 32) :
    handleInEndpoints bits word = handleBuffers (setBits word bits) := by
  induction bits with
  | nil => rfl
  | cons i rest ih =>
      have hrest := ih fun j hj => hlt j (List.mem_cons_of_mem _ hj)
      unfold handleInEndpoints
      by_cases hzero : word = 0
      · rw [if_pos hzero, hzero, setBits_zero]
        rfl
      · rw [if_neg hzero, hasBits_bufStatusBit_eq_getLsbD word (hlt i List.mem_cons_self),
          setBits_cons, hrest]
        by_cases hset : word.getLsbD i = true
        · rw [if_pos hset, Program.when_true hset, handleBuffers_cons]
        · rw [if_neg hset, Program.when_false hset]
          rfl

/-! ## The bits that a pass handles -/

/-- EP0 OUT, EP0 IN, all EPx OUT, all EPx IN. -/
def documentedOrder : List Nat := [1, 0] ++ outBits ++ inBits

theorem mem_documentedOrder : ∀ i, i ∈ documentedOrder ↔ i < 32 := by
  intro i
  constructor
  · exact fun hmem => (by decide : ∀ j ∈ documentedOrder, j < 32) i hmem
  · exact fun hlt => (by decide : ∀ j < 32, j ∈ documentedOrder) i hlt

theorem documentedOrder_nodup : documentedOrder.Nodup := by decide

/-- The endpoints whose bit is set, in the documented order. -/
def completedBits (word : BitVec 32) : List Nat := setBits word documentedOrder

theorem mem_completedBits {word : BitVec 32} {i : Nat} :
    i ∈ completedBits word ↔ word.getLsbD i = true := by
  unfold completedBits setBits
  rw [List.mem_filter, mem_documentedOrder]
  constructor
  · exact fun h => h.2
  · intro hset
    refine ⟨?_, hset⟩
    by_contra hge
    simp [BitVec.getLsbD_of_ge word i (by omega)] at hset

theorem completedBits_nodup (word : BitVec 32) : (completedBits word).Nodup :=
  documentedOrder_nodup.filter _

/-- The word asks for IN endpoint 1 and for an OUT endpoint other than 0. -/
def ForgetsIn1 (word : BitVec 32) : Prop :=
  word.getLsbD 2 = true ∧ ∃ i ∈ outBits, word.getLsbD i = true

instance : DecidablePred ForgetsIn1 := fun _ => inferInstanceAs (Decidable (_ ∧ _))

/-- The bits that a pass handles. -/
def handledBits (word : BitVec 32) : List Nat :=
  if ForgetsIn1 word then (completedBits word).filter (· ≠ 2) else completedBits word

theorem setBits_eq_nil {word : BitVec 32} {bits : List Nat} :
    setBits word bits = [] ↔ ¬ ∃ i ∈ bits, word.getLsbD i = true := by
  simp [setBits, List.filter_eq_nil_iff]

/-- The bits below the loops, and those the loops handle, are the ones of `handledBits`. -/
theorem handledBits_eq (word : BitVec 32) :
    handledBits word = setBits word [1] ++ setBits word [0] ++ setBits word outBits ++
      setBits (if setBits word outBits = [] then word else word &&& ~~~4#32) inBits := by
  have hsplit (word : BitVec 32) : completedBits word = setBits word [1] ++ setBits word [0] ++
      setBits word outBits ++ setBits word inBits := by
    unfold completedBits documentedOrder setBits
    rw [show [1, 0] = [1] ++ [0] from rfl]
    simp only [List.filter_append]
  by_cases hout : setBits word outBits = []
  · have hnot : ¬ ForgetsIn1 word := fun h => setBits_eq_nil.mp hout h.2
    rw [handledBits, if_neg hnot, if_pos hout, hsplit]
  · have hmask (bits : List Nat) : setBits (word &&& ~~~4#32) bits =
        (setBits word bits).filter (· ≠ 2) := by
      unfold setBits
      rw [List.filter_filter]
      refine List.filter_congr fun j _ => ?_
      rw [getLsbD_masked, Bool.and_comm]
    have hkeep (bits : List Nat) (htwo : 2 ∉ bits) :
        (setBits word bits).filter (· ≠ 2) = setBits word bits := by
      rw [← hmask, setBits_masked htwo]
    have hfiltered : (completedBits word).filter (· ≠ 2) = setBits word [1] ++ setBits word [0] ++
        setBits word outBits ++ setBits (word &&& ~~~4#32) inBits := by
      rw [hsplit, List.filter_append, List.filter_append, List.filter_append,
        hkeep [1] (by decide), hkeep [0] (by decide), hkeep outBits (by decide), hmask]
    rw [handledBits, if_neg hout, ← hfiltered]
    split
    · rfl
    · rename_i hnot
      -- an OUT bit is set, so bit 2 is not
      have htwo : ¬ word.getLsbD 2 = true := by
        intro hset
        exact hnot ⟨hset, Classical.not_not.mp (mt setBits_eq_nil.mpr hout)⟩
      symm
      refine List.filter_eq_self.mpr fun j hj => ?_
      have hset := mem_completedBits.mp hj
      have hne : j ≠ 2 := fun heq => htwo (heq ▸ hset)
      simpa using hne

/-- A pass handles the buffers of `handledBits`. -/
theorem hwHandleBuffStatus_apply (s : Master) :
    hwHandleBuffStatus s = handleBuffers (handledBits s.dcd.bufStatus) s := by
  let word := s.dcd.bufStatus
  have hwhen (i : Nat) (hi : i < 32) :
      Program.when (hasBits word (bufStatusBit i)) (hwHandleBuffStatusBit i) =
        handleBuffers (setBits word [i]) := by
    rw [hasBits_bufStatusBit_eq_getLsbD word hi, setBits_cons]
    by_cases hset : word.getLsbD i = true
    · rw [if_pos hset, Program.when_true hset, handleBuffers_cons]
      exact (bind_pure _).symm
    · rw [if_neg hset, Program.when_false hset]
      rfl
  have hloops : (handleOutEndpoints outBits word >>= handleInEndpoints inBits) =
      handleBuffers (setBits word outBits) >>= fun _ => handleBuffers
        (setBits (if setBits word outBits = [] then word else word &&& ~~~4#32) inBits) := by
    rw [handleOutEndpoints_eq (by decide) (by decide), bind_assoc]
    refine congrArg _ (funext fun _ => ?_)
    rw [pure_bind, handleInEndpoints_eq (by decide)]
  unfold hwHandleBuffStatus
  rw [Program.read_bind]
  show (Program.when (hasBits word (bufStatusBit 1)) (hwHandleBuffStatusBit 1) >>= fun _ =>
    Program.when (hasBits word (bufStatusBit 0)) (hwHandleBuffStatusBit 0) >>= fun _ =>
      handleOutEndpoints outBits word >>= handleInEndpoints inBits) s = _
  rw [hwhen 1 (by omega), hwhen 0 (by omega), hloops, handledBits_eq, handleBuffers_append,
    handleBuffers_append, handleBuffers_append, bind_assoc, bind_assoc]

/-! ## What a pass does to `buf_status` -/

/-- `buf_status` is the same before and after. -/
abbrev SameStatus : Master → Master → Prop := Program.Same fun s => s.dcd.bufStatus

theorem withEndpoint_same_status {α : Type} (num : Nat) (dirIn : Bool) (engine : Engine α) :
    Program.Moves SameStatus (onDcd (withEndpoint num dirIn engine)) :=
  Program.Moves.onPart_of (P := Program.Same Dcd.bufStatus) (.onPart fun _ _ => rfl) fun _ _ h => h

theorem dcdEventXferCompleteNew_same_status (epAddr : UInt8) (xferredBytes : UInt16) :
    Program.Moves SameStatus (dcdEventXferCompleteNew epAddr xferredBytes) := by
  have hsend (message : SpiMessage) : Program.Moves SameStatus (enqueueSpiMessage message) :=
    .update fun _ => rfl
  have haddress (request : ControlRequest) :
      Program.Moves SameStatus (onDcd (dcdEdpt0StatusComplete request)) :=
    Program.Moves.onPart_of (P := Program.Same Dcd.bufStatus)
      (.ite (.update fun _ => rfl) (.pure _)) fun _ _ h => h
  refine .bind .read fun s => .ite (haddress _) (.ite (.pure _) ?_)
  refine .bind .read fun s => .bind (.require _ _) fun _ => ?_
  cases s.drivers.edptDriver (idx epAddr).toNat with
  | illegal => exact .stop _
  | massStorage =>
      refine .bind .read fun s => .ite ?_ (.when (hsend _))
      refine .bind (.update fun _ => rfl) fun _ => .bind (.require _ _) fun _ => ?_
      exact .bind (.update fun _ => rfl) fun _ => .bind .read fun _ => hsend _
  | hid => exact .bind .read fun _ => hsend _

theorem xferContinue_same_status (num : Nat) (dirIn : Bool) :
    Program.Moves SameStatus (xferContinue num dirIn) :=
  .bind (.update fun _ => rfl) fun _ => withEndpoint_same_status num dirIn _

/-- Handling a buffer clears its bit and no other. -/
theorem hwHandleBuffStatusBit_clears (i : Nat) :
    Program.Moves (fun s t => t.dcd.bufStatus = s.dcd.bufStatus &&& ~~~bufStatusBit i)
      (hwHandleBuffStatusBit i) := by
  intro s
  have hrest : Program.Moves SameStatus (xferContinue (i / 2) (i % 2 == 0) >>= fun done =>
        Program.when done (do
          let s ← Program.read
          let ep := s.dcd.hwEndpoints (i / 2) (i % 2 == 0)
          dcdEventXferCompleteNew ep.epAddr ep.xferredLen
          onDcd (withEndpoint (i / 2) (i % 2 == 0) hwEndpointResetTransferNew))) := by
    refine .bind (xferContinue_same_status _ _) fun done => .when (.bind .read fun s => ?_)
    exact .bind (dcdEventXferCompleteNew_same_status _ _) fun _ => withEndpoint_same_status _ _ _
  exact hrest { s with dcd := { s.dcd with bufStatus := s.dcd.bufStatus &&& ~~~bufStatusBit i } }

/-! ## The endpoints that a pass continues -/

/-- The endpoint of a call of `hw_endpoint_xfer_continue`: its number, and whether it is an IN
endpoint. -/
def Call.continued : Call → Option (Nat × Bool)
  | .xferContinue num dirIn => some (num, dirIn)
  | _ => none

/-- The endpoints that have been continued, oldest first. -/
def continuedEndpoints (s : Master) : List (Nat × Bool) := picked Master.calls Call.continued s

/-- The endpoint of a bit of `buf_status`. -/
def endpointOfBit (i : Nat) : Nat × Bool := (i / 2, i % 2 == 0)

example : documentedOrder.map endpointOfBit =
    [(0, false), (0, true)] ++ (List.range 15).map (fun k => (k + 1, false)) ++
      (List.range 15).map (fun k => (k + 1, true)) := by decide

theorem record_continues (num : Nat) (dirIn : Bool) :
    Program.Moves (Program.Adds continuedEndpoints (some (num, dirIn)))
      (record (.xferContinue num dirIn)) := by
  intro s
  have hcalls : (Program.final (record (.xferContinue num dirIn) s)).calls =
      s.calls ++ [.xferContinue num dirIn] := rfl
  exact picked_concat hcalls

theorem dcdEventXferCompleteNew_continues_none (epAddr : UInt8) (xferredBytes : UInt16) :
    Program.Moves (Program.Same continuedEndpoints) (dcdEventXferCompleteNew epAddr xferredBytes) := by
  have hrule : LogRule (Program.Same continuedEndpoints) (fun made => made.continued = none)
      fun _ => True :=
    { quiet := fun _ _ _ _ hcalls => picked_congr hcalls
      record := fun _ _ hnone => picked_skip rfl hnone
      enqueue := fun _ _ _ => rfl }
  refine .bind .read fun s => .ite (hrule.onDcd _) (.ite (.pure _) ?_)
  exact handleDeviceXferCompleteWithDriver_logs hrule trivial _ _

/-- The handler of a bit continues the endpoint of the bit, and no other one. -/
theorem hwHandleBuffStatusBit_continues (i : Nat) :
    Program.Moves (Program.Adds continuedEndpoints (some (endpointOfBit i)))
      (hwHandleBuffStatusBit i) := by
  have hquiet {α : Type} (program : DcdM α) :
      Program.Moves (Program.Same continuedEndpoints) (onDcd program) := .onPart fun _ _ => rfl
  have hcontinue : Program.Moves (Program.Adds continuedEndpoints (some (endpointOfBit i)))
      (xferContinue (i / 2) (i % 2 == 0)) :=
    .adds_bind (record_continues _ _) fun _ => hquiet _
  intro s
  have hrest : Program.Moves (Program.Adds continuedEndpoints (some (endpointOfBit i)))
      (xferContinue (i / 2) (i % 2 == 0) >>= fun done => Program.when done (do
        let s ← Program.read
        let ep := s.dcd.hwEndpoints (i / 2) (i % 2 == 0)
        dcdEventXferCompleteNew ep.epAddr ep.xferredLen
        onDcd (withEndpoint (i / 2) (i % 2 == 0) hwEndpointResetTransferNew))) := by
    refine .adds_bind hcontinue fun done => .when (.bind .read fun s => ?_)
    exact .bind (dcdEventXferCompleteNew_continues_none _ _) fun _ => hquiet _
  exact hrest { s with dcd := { s.dcd with bufStatus := s.dcd.bufStatus &&& ~~~bufStatusBit i } }

/-- What a pass over a list of bits leaves behind: their endpoints are continued, once each and in
this order, and their bits are cleared and no others. -/
structure ContinuedEach (bits : List Nat) (s t : Master) : Prop where
  continued : continuedEndpoints t = continuedEndpoints s ++ bits.map endpointOfBit
  cleared : ∀ j, t.dcd.bufStatus.getLsbD j = (s.dcd.bufStatus.getLsbD j && decide (j ∉ bits))

theorem ContinuedEach.nil (s : Master) : ContinuedEach [] s s where
  continued := (List.append_nil _).symm
  cleared j := by simp

theorem ContinuedEach.cons {i : Nat} {rest : List Nat} {s t u : Master}
    (hcontinued : continuedEndpoints t = continuedEndpoints s ++ [endpointOfBit i])
    (hcleared : t.dcd.bufStatus = s.dcd.bufStatus &&& ~~~bufStatusBit i)
    (h : ContinuedEach rest t u) : ContinuedEach (i :: rest) s u where
  continued := by
    rw [h.continued, hcontinued, List.append_assoc]
    rfl
  cleared j := by
    rw [h.cleared, hcleared, getLsbD_cleared]
    by_cases hsame : j = i
    · simp [hsame]
    · simp [hsame]

/-- A pass over a list of bits handles the list, or the part of it up to the bit at which it
stops. -/
def HandlesList (program : MasterM Unit) (bits : List Nat) (s : Master) : Prop :=
  ∃ handled, handled <+: bits ∧ (∀ t, program s = .ok () t → handled = bits) ∧
    ContinuedEach handled s (Program.final (program s))

theorem handleBuffers_handles (bits : List Nat) (s : Master) :
    HandlesList (handleBuffers bits) bits s := by
  induction bits generalizing s with
  | nil => exact ⟨[], List.prefix_rfl, fun _ _ => rfl, ContinuedEach.nil s⟩
  | cons i rest ih =>
      have hcontinues := hwHandleBuffStatusBit_continues i s
      have hclears := hwHandleBuffStatusBit_clears i s
      cases hbit : hwHandleBuffStatusBit i s with
      | ok value middle =>
          obtain ⟨handled, hprefix, hall, hhandled⟩ := ih middle
          rw [hbit] at hcontinues hclears
          have hrun : handleBuffers (i :: rest) s = handleBuffers rest middle :=
            Program.bind_ok hbit
          refine ⟨i :: handled, List.cons_prefix_cons.mpr ⟨rfl, hprefix⟩, fun t ht => ?_, ?_⟩
          · rw [hall t (hrun ▸ ht)]
          · rw [hrun]
            exact hhandled.cons hcontinues hclears
      | error reason middle =>
          rw [hbit] at hcontinues hclears
          have hrun : handleBuffers (i :: rest) s = .error reason middle := Program.bind_error hbit
          refine ⟨[i], List.cons_prefix_cons.mpr ⟨rfl, List.nil_prefix⟩, fun t ht => ?_, ?_⟩
          · rw [hrun] at ht
            cases ht
          · rw [hrun]
            exact (ContinuedEach.nil middle).cons hcontinues hclears

/-! ## Which passes handle every completed buffer -/

/-- The pass runs `hw_endpoint_xfer_continue` once on each endpoint whose bit is set and on no
other, in the documented order, and clears the bits of these endpoints and no others. A pass in
which a driver stops core 0 does so up to the endpoint it stops at. -/
def HandlesEach (s : Master) : Prop :=
  HandlesList hwHandleBuffStatus (completedBits s.dcd.bufStatus) s

theorem hwHandleBuffStatus_handles (s : Master) :
    HandlesList hwHandleBuffStatus (handledBits s.dcd.bufStatus) s := by
  unfold HandlesList
  rw [hwHandleBuffStatus_apply]
  exact handleBuffers_handles _ s

theorem handlesEach_of_not_forgetsIn1 {s : Master} (h : ¬ ForgetsIn1 s.dcd.bufStatus) :
    HandlesEach s := by
  have hpass := hwHandleBuffStatus_handles s
  rwa [handledBits, if_neg h] at hpass

/-- A pass that forgets IN endpoint 1 and ends leaves its bit set. -/
theorem forgotten_bit_stays {s t : Master} (h : ForgetsIn1 s.dcd.bufStatus)
    (hrun : hwHandleBuffStatus s = .ok () t) : t.dcd.bufStatus.getLsbD 2 = true := by
  have htwo : 2 ∉ handledBits s.dcd.bufStatus := by
    rw [handledBits, if_pos h]
    simp
  obtain ⟨handled, -, hall, hhandled⟩ := hwHandleBuffStatus_handles s
  have hcleared := hhandled.cleared 2
  rw [hrun, hall t hrun, h.1, decide_eq_true htwo] at hcleared
  exact hcleared

theorem HandlesEach.not_forgetsIn1 {s t : Master} (h : HandlesEach s)
    (hrun : hwHandleBuffStatus s = .ok () t) : ¬ ForgetsIn1 s.dcd.bufStatus := by
  intro hforgets
  have hstays := forgotten_bit_stays hforgets hrun
  obtain ⟨handled, -, hall, hhandled⟩ := h
  have hmem : 2 ∈ completedBits s.dcd.bufStatus := mem_completedBits.mpr hforgets.1
  have hcleared := hhandled.cleared 2
  rw [hrun, hall t hrun, Program.final_ok, hstays, decide_eq_false (not_not.mpr hmem),
    Bool.and_false] at hcleared
  cases hcleared

/-- A partial transfer is not continued. -/
theorem hwEndpointXferContinue_partial (role : SpiRole) {c : Rp2040.Channel}
    (h : c.ep.isPartial = true) : hwEndpointXferContinue role c = .ok false c := by
  unfold hwEndpointXferContinue
  rw [Program.read_bind, if_pos h]
  rfl

theorem xferContinue_ok {num : Nat} {dirIn done : Bool} {s : Master} {c : Rp2040.Channel}
    (h : hwEndpointXferContinue .master (s.dcd.channel num dirIn) = .ok done c) :
    xferContinue num dirIn s = .ok done { s with
      dcd := s.dcd.withChannel num dirIn c
      calls := s.calls ++ [.xferContinue num dirIn] } := by
  let t : Master := { s with calls := s.calls ++ [.xferContinue num dirIn] }
  have hpart : onDcd (withEndpoint num dirIn (hwEndpointXferContinue .master)) t =
      .ok done { t with dcd := s.dcd.withChannel num dirIn c } :=
    Program.onPart_ok (withEndpoint_apply h)
  unfold xferContinue record
  rw [Program.update_bind]
  exact hpart

/-- On endpoints that all are in a partial transfer every buffer is handled without a stop. -/
theorem handleBuffers_ends (bits : List Nat) {s : Master}
    (h : ∀ num dirIn, (s.dcd.hwEndpoints num dirIn).isPartial = true) :
    ∃ t, handleBuffers bits s = .ok () t := by
  induction bits generalizing s with
  | nil => exact ⟨s, rfl⟩
  | cons i rest ih =>
      let cleared := { s.dcd with bufStatus := s.dcd.bufStatus &&& ~~~bufStatusBit i }
      have hcontinue : hwEndpointXferContinue .master (cleared.channel (i / 2) (i % 2 == 0)) =
          .ok false (cleared.channel (i / 2) (i % 2 == 0)) :=
        hwEndpointXferContinue_partial _ (h _ _)
      let c := cleared.channel (i / 2) (i % 2 == 0)
      let next : Master := { s with
        dcd := cleared.withChannel (i / 2) (i % 2 == 0) c
        calls := s.calls ++ [.xferContinue (i / 2) (i % 2 == 0)] }
      have hbit : hwHandleBuffStatusBit i s = .ok () next := by
        unfold hwHandleBuffStatusBit
        rw [Program.update_bind]
        have hpart : xferContinue (i / 2) (i % 2 == 0) { s with dcd := cleared } =
            .ok false next := xferContinue_ok (s := { s with dcd := cleared }) hcontinue
        rw [Program.bind_ok hpart, Program.when_false Bool.false_ne_true]
        rfl
      have hkept (num : Nat) (dirIn : Bool) : (next.dcd.hwEndpoints num dirIn).isPartial = true := by
        have hsame : next.dcd.hwEndpoints = s.dcd.hwEndpoints := by
          show Function.update s.dcd.hwEndpoints (i / 2)
            (Function.update (s.dcd.hwEndpoints (i / 2)) (i % 2 == 0)
              (s.dcd.hwEndpoints (i / 2) (i % 2 == 0))) = _
          rw [Function.update_eq_self, Function.update_eq_self]
        rw [hsame]
        exact h num dirIn
      obtain ⟨t, hrest⟩ := ih hkept
      exact ⟨t, (Program.bind_ok hbit).trans hrest⟩

/-- Whatever the state of the endpoints, a pass handles each completed buffer if and only if its
word does not ask for IN endpoint 1 together with an OUT endpoint other than 0. -/
theorem hwHandleBuffStatus_handles_each (word : BitVec 32) :
    (∀ s : Master, s.dcd.bufStatus = word → HandlesEach s) ↔ ¬ ForgetsIn1 word := by
  constructor
  · intro hall
    -- a state in which no handler stops shows the bit that is forgotten
    let ep : HwEndpoint := { HwEndpoint.zero with isPartial := true }
    let s : Master := { Master.zero 0 with
      dcd := { Dcd.cleared 0 with hwEndpoints := fun _ _ => ep, bufStatus := word } }
    obtain ⟨t, hends⟩ := handleBuffers_ends (handledBits word) (s := s) fun _ _ => rfl
    exact (hall s rfl).not_forgetsIn1 ((hwHandleBuffStatus_apply s).trans hends)
  · intro hword s hs
    exact handlesEach_of_not_forgetsIn1 (hs ▸ hword)

/-- A configuration of one storage interface with endpoints 0x81 and 0x02. -/
def twoWayConfiguration : List UInt8 :=
  [9, 4, 0, 0, 2, 8, 6, 0x50, 0, 7, 5, 0x81, 2, 64, 0, 0, 7, 5, 0x02, 2, 64, 0, 0]

/-- Bytes that the slave read from endpoint 0x81. -/
def statusBytes : SpiMessage where
  eFlag := MsgType.isPacket ||| MsgType.usbData
  payload := List.replicate 13 0 ++ [0x81]
  payload_lt := by decide

/-- The host takes the status of a command and sends the next command before the pass. -/
theorem statusAndCommand_not_handled :
    ¬ ∀ romWord events m, Reaches romWord events m → HandlesEach m.master := by
  intro hclaim
  let events : List Event := fetchConfiguration twoWayConfiguration (by decide) ++
    [.receive statusBytes, .handleSpiSlaveEvent, .hostIn 1,
      .hostOut 2 ⟨List.replicate 31 0, by decide⟩]
  have hends : ∃ m, Reaches 0 events m ∧ ForgetsIn1 m.master.dcd.bufStatus ∧
      (runHandler hwHandleBuffStatus m).isSome := exists_reaches_of_any (by decide +kernel)
  obtain ⟨m, hreach, hforgets, hsome⟩ := hends
  obtain ⟨n, hstep⟩ := Option.isSome_iff_exists.mp hsome
  obtain ⟨t, hrun, -⟩ := runHandler_eq_some hstep
  exact (hclaim 0 events m hreach).not_forgetsIn1 hrun hforgets

end UsbSec.Device
