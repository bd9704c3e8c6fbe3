import UsbSec.Library.Machine
import UsbSec.Link.Sync

/-!
# The receive buffer of the master is shared

On the master `bugger` of `messages.c` has two users. Core 0 builds the message of
`knock_on_slave_edpt` in it, and core 1 receives frames from the slave in it. Neither knows of the
other. Each is a sequence of statements here, taken in any interleaving, and each reads back what
it has put into the buffer later than it has put it there.

Where a queue is full the core waits behind its copy, when it does not look at the buffer any
more; the queues are therefore left out.
-/

namespace UsbSec.Link

open Library

/-- Where core 0 is in `knock_on_slave_edpt`. -/
inductive KnockPc where
  | idle
  | zeroed (edpt len : UInt8)
  | filled (edpt len : UInt8)
  | copied (edpt len : UInt8) (message : SpiMessage)

/-- Where core 1 is in the receiving part of `sync`. `frame` is what the slave has sent. -/
inductive ReceivePc where
  | awaitCount
  | countReceived (frame : SpiMessage)
  | awaitReply (recCount : Nat)
  | replyReceived (frame : SpiMessage) (recCount : Nat)
  | copied (frame message : SpiMessage) (recCount : Nat)
  | halted

/-- A message that `knock_on_slave_edpt` has enqueued, with its arguments. -/
structure Knock where
  edpt : UInt8
  len : UInt8
  message : SpiMessage

/-- The two cores of the master and their buffer, with what they have enqueued, what they have
taken for the count, and what they have added to `rx`. -/
structure Shared where
  bugger : Buffer
  core0 : KnockPc
  core1 : ReceivePc
  knocked : List Knock
  counted : List (SpiMessage × Nat)
  added : List (SpiMessage × SpiMessage)

/-- Core 0 calls `knock_on_slave_edpt` or takes the next statement of it; a frame arrives while
core 1 waits for one, or core 1 takes the next statement of `sync`. -/
inductive SharedAction where
  | knock (edpt len : UInt8)
  | core0
  | receive (frame : SpiMessage)
  | core1

/-- What `knock_on_slave_edpt` puts into the buffer. -/
def knockPayload (edpt len : UInt8) : List UInt8 := List.replicate len.toNat 0 ++ [edpt]

/-- The copy that `queue_add_with_copy` makes of the buffer. -/
def copyBugger (bugger : Buffer) (eFlag : UInt16) (length : Nat) : SpiMessage :=
  .copyOf eFlag bugger 0 (UInt16.ofNat length)

/-- The next statement of `knock_on_slave_edpt`. -/
def knockStep (s : Shared) : Option Shared :=
  match s.core0 with
  | .idle => none
  | .zeroed edpt len =>
      some { s with bugger := s.bugger.writeAt len.toNat [edpt], core0 := .filled edpt len }
  | .filled edpt len =>
      let message :=
        copyBugger s.bugger (MsgType.usbData ||| MsgType.debugPrintAsHex) (len.toNat + 1)
      some { s with core0 := .copied edpt len message }
  | .copied edpt len message =>
      some { s with core0 := .idle, knocked := s.knocked ++ [⟨edpt, len, message⟩] }

/-- Core 1 receives a frame into the buffer. -/
def receiveStep (s : Shared) (frame : SpiMessage) : Option Shared :=
  if frame.payload.length ≤ receiveBufferSize then
    let bugger := s.bugger.writeAt 0 frame.payload
    match s.core1 with
    | .awaitCount =>
        let core1 := if frame.payload.length = 1 then .countReceived frame else .halted
        some { s with bugger := bugger, core1 := core1 }
    | .awaitReply (recCount + 1) =>
        some { s with bugger := bugger, core1 := .replyReceived frame recCount }
    | _ => none
  else none

/-- The next statement of `sync` that does not receive. -/
def syncStep (s : Shared) : Option Shared :=
  match s.core1 with
  | .countReceived frame =>
      let recCount := (s.bugger 0).toNat
      some { s with core1 := .awaitReply recCount, counted := s.counted ++ [(frame, recCount)] }
  | .awaitReply 0 => some { s with core1 := .awaitCount }
  | .replyReceived frame recCount =>
      let message := copyBugger s.bugger frame.eFlag frame.payload.length
      some { s with core1 := .copied frame message recCount }
  | .copied frame message recCount =>
      some { s with core1 := .awaitReply recCount, added := s.added ++ [(frame, message)] }
  | _ => none

/-- One statement of one of the cores. -/
def sharedStep (s : Shared) : SharedAction → Option Shared
  | .knock edpt len =>
      match s.core0 with
      | .idle =>
          some
            { s with
              bugger := s.bugger.writeAt 0 (List.replicate len.toNat 0), core0 := .zeroed edpt len }
      | _ => none
  | .core0 => knockStep s
  | .receive frame => receiveStep s frame
  | .core1 => syncStep s

/-- The master when core 1 is launched. -/
def Shared.init : Shared := ⟨fun _ => 0, .idle, .awaitCount, [], [], []⟩

/-- No two uses of the buffer were mixed. -/
structure Unmixed (s : Shared) : Prop where
  knocked : ∀ knock ∈ s.knocked, knock.message.payload = knockPayload knock.edpt knock.len
  counted : ∀ frame recCount, (frame, recCount) ∈ s.counted →
    ∃ count : UInt8, frame.payload = [count] ∧ recCount = count.toNat
  added : ∀ frame message, (frame, message) ∈ s.added → message = frame

/-! ## When the uses are not mixed -/

/-- What core 0 has put into the buffer and has still to read. -/
def KnockPc.held : KnockPc → List UInt8
  | .zeroed _ len => List.replicate len.toNat 0
  | .filled edpt len => knockPayload edpt len
  | _ => []

/-- What core 1 has put into the buffer and has still to read. -/
def ReceivePc.held : ReceivePc → List UInt8
  | .countReceived frame => frame.payload
  | .replyReceived frame _ => frame.payload
  | _ => []

/-- A write of the bytes at the index changes none of the first `count` bytes. -/
def KeepsBytes (bugger : Buffer) (index : Nat) (bytes : List UInt8) (count : Nat) : Prop :=
  ∀ i < bytes.length, index + i < count → bytes.getD i 0 = bugger (index + i)

instance (bugger : Buffer) (index : Nat) (bytes : List UInt8) (count : Nat) :
    Decidable (KeepsBytes bugger index bytes count) :=
  inferInstanceAs (Decidable (∀ i < _, _ → _))

/-- What the statement writes changes no byte that the other core has still to read. -/
def Considerate (s : Shared) : SharedAction → Prop
  | .knock _ len => KeepsBytes s.bugger 0 (List.replicate len.toNat 0) s.core1.held.length
  | .core0 =>
      match s.core0 with
      | .zeroed edpt len => KeepsBytes s.bugger len.toNat [edpt] s.core1.held.length
      | _ => True
  | .receive frame => KeepsBytes s.bugger 0 frame.payload s.core0.held.length
  | .core1 => True

instance (s : Shared) (action : SharedAction) : Decidable (Considerate s action) := by
  unfold Considerate
  split
  · infer_instance
  · split <;> infer_instance
  · infer_instance
  · infer_instance

/-- The buffer starts with the given bytes. -/
def StartsWith (bugger : Buffer) (bytes : List UInt8) : Prop :=
  bugger.bytesAt 0 bytes.length = bytes

theorem StartsWith.kept {bugger : Buffer} {held bytes : List UInt8} {index : Nat}
    (h : StartsWith bugger held) (hkeeps : KeepsBytes bugger index bytes held.length) :
    StartsWith (bugger.writeAt index bytes) held := by
  have hagree := Buffer.writeAt_agree hkeeps
  exact (hagree.bytesAt (Nat.le_of_eq (Nat.zero_add _))).symm.trans h

theorem startsWith_nil (bugger : Buffer) : StartsWith bugger [] := rfl

/-- A copy of what the buffer starts with. -/
theorem StartsWith.copy {bugger : Buffer} {bytes : List UInt8} (h : StartsWith bugger bytes)
    (hlt : bytes.length < 2 ^ 16) (eFlag : UInt16) :
    (copyBugger bugger eFlag bytes.length).payload = bytes := by
  unfold copyBugger
  rw [SpiMessage.copyOf_payload, UInt16.toNat_ofNat', Nat.mod_eq_of_lt hlt]
  exact h

/-- What core 0 is about to enqueue. -/
def KnockPc.Sound : KnockPc → Prop
  | .copied edpt len message => message.payload = knockPayload edpt len
  | _ => True

/-- What core 1 is about to use: a count frame has one byte, and a copy is the frame. -/
def ReceivePc.Sound : ReceivePc → Prop
  | .countReceived frame => frame.payload.length = 1
  | .copied frame message _ => message = frame
  | _ => True

/-- What every statement keeps when it is considerate. -/
structure Intact (s : Shared) : Prop where
  unmixed : Unmixed s
  held0 : StartsWith s.bugger s.core0.held
  held1 : StartsWith s.bugger s.core1.held
  sound0 : s.core0.Sound
  sound1 : s.core1.Sound

theorem length_knockPayload (edpt len : UInt8) :
    (knockPayload edpt len).length = len.toNat + 1 := by
  simp [knockPayload]

/-- Storing the endpoint behind the zeros completes the payload. -/
theorem StartsWith.store {bugger : Buffer} {len : UInt8}
    (h : StartsWith bugger (List.replicate len.toNat 0)) (edpt : UInt8) :
    StartsWith (bugger.writeAt len.toNat [edpt]) (knockPayload edpt len) := by
  unfold StartsWith at h ⊢
  rw [List.length_replicate] at h
  rw [length_knockPayload, Buffer.bytesAt_succ, Buffer.bytesAt_writeAt_before _ _ (by omega), h]
  have hbyte := Buffer.writeAt_inside bugger len.toNat [edpt] (i := 0) (by simp)
  rw [Nat.zero_add]
  exact congrArg (fun byte => List.replicate len.toNat 0 ++ [byte]) hbyte

theorem startsWith_written (bugger : Buffer) (bytes : List UInt8) :
    StartsWith (bugger.writeAt 0 bytes) bytes := Buffer.bytesAt_writeAt_same _ _ _

theorem knockStep_intact {s next : Shared} (h : Intact s) (hconsiderate : Considerate s .core0)
    (hstep : knockStep s = some next) : Intact next := by
  obtain ⟨bugger, core0, core1, knocked, counted, added⟩ := s
  obtain ⟨hunmixed, hheld0, hheld1, hsound0, hsound1⟩ := h
  cases core0 with
  | idle => cases hstep
  | zeroed edpt len =>
      cases hstep
      exact ⟨⟨hunmixed.knocked, hunmixed.counted, hunmixed.added⟩, StartsWith.store hheld0 edpt,
        hheld1.kept hconsiderate, trivial, hsound1⟩
  | filled edpt len =>
      cases hstep
      refine ⟨⟨hunmixed.knocked, hunmixed.counted, hunmixed.added⟩, startsWith_nil _, hheld1, ?_,
        hsound1⟩
      have hlen := len.toNat_lt
      have hlt : (knockPayload edpt len).length < 2 ^ 16 := by
        rw [length_knockPayload]
        omega
      have hcopy := StartsWith.copy hheld0 hlt (MsgType.usbData ||| MsgType.debugPrintAsHex)
      have hlength : (KnockPc.filled edpt len).held.length = len.toNat + 1 :=
        length_knockPayload edpt len
      rw [hlength] at hcopy
      exact hcopy
  | copied edpt len message =>
      cases hstep
      refine ⟨⟨fun knock hmem => ?_, hunmixed.counted, hunmixed.added⟩, startsWith_nil _, hheld1,
        trivial, hsound1⟩
      rcases List.mem_append.mp hmem with hold | hnew
      · exact hunmixed.knocked knock hold
      · rw [List.mem_singleton.mp hnew]
        exact hsound0

theorem receiveStep_intact {s next : Shared} {frame : SpiMessage} (h : Intact s)
    (hconsiderate : Considerate s (.receive frame)) (hstep : receiveStep s frame = some next) :
    Intact next := by
  obtain ⟨bugger, core0, core1, knocked, counted, added⟩ := s
  obtain ⟨hunmixed, hheld0, hheld1, hsound0, hsound1⟩ := h
  have hkept := hheld0.kept hconsiderate
  have hwritten := startsWith_written bugger frame.payload
  unfold receiveStep at hstep
  split at hstep
  · dsimp only at hstep
    split at hstep
    · cases hstep
      by_cases hone : frame.payload.length = 1
      · rw [if_pos hone]
        exact ⟨⟨hunmixed.knocked, hunmixed.counted, hunmixed.added⟩, hkept, hwritten, hsound0,
          hone⟩
      · rw [if_neg hone]
        exact ⟨⟨hunmixed.knocked, hunmixed.counted, hunmixed.added⟩, hkept, startsWith_nil _,
          hsound0, trivial⟩
    · cases hstep
      exact ⟨⟨hunmixed.knocked, hunmixed.counted, hunmixed.added⟩, hkept, hwritten, hsound0,
        trivial⟩
    · cases hstep
  · cases hstep

theorem syncStep_intact {s next : Shared} (h : Intact s) (hstep : syncStep s = some next) :
    Intact next := by
  obtain ⟨bugger, core0, core1, knocked, counted, added⟩ := s
  obtain ⟨hunmixed, hheld0, hheld1, hsound0, hsound1⟩ := h
  cases core1 with
  | countReceived frame =>
      cases hstep
      refine ⟨⟨hunmixed.knocked, fun other recCount hmem => ?_, hunmixed.added⟩, hheld0,
        startsWith_nil _, hsound0, trivial⟩
      rcases List.mem_append.mp hmem with hold | hnew
      · exact hunmixed.counted other recCount hold
      · cases List.mem_singleton.mp hnew
        -- The one byte of the frame is the first byte of the buffer.
        have hlength : frame.payload.length = 1 := hsound1
        have hbytes : bugger.bytesAt 0 frame.payload.length = frame.payload := hheld1
        rw [hlength] at hbytes
        exact ⟨bugger 0, hbytes.symm, rfl⟩
  | awaitReply recCount =>
      cases recCount with
      | zero =>
          cases hstep
          exact ⟨⟨hunmixed.knocked, hunmixed.counted, hunmixed.added⟩, hheld0, startsWith_nil _,
            hsound0, trivial⟩
      | succ recCount => cases hstep
  | replyReceived frame recCount =>
      cases hstep
      refine ⟨⟨hunmixed.knocked, hunmixed.counted, hunmixed.added⟩, hheld0, startsWith_nil _,
        hsound0, ?_⟩
      exact SpiMessage.ext rfl (StartsWith.copy hheld1 frame.payload_lt frame.eFlag)
  | copied frame message recCount =>
      cases hstep
      refine ⟨⟨hunmixed.knocked, hunmixed.counted, fun other copy hmem => ?_⟩, hheld0,
        startsWith_nil _, hsound0, trivial⟩
      rcases List.mem_append.mp hmem with hold | hnew
      · exact hunmixed.added other copy hold
      · cases List.mem_singleton.mp hnew
        exact hsound1
  | awaitCount | halted => cases hstep

theorem sharedStep_intact {s next : Shared} {action : SharedAction} (h : Intact s)
    (hconsiderate : Considerate s action) (hstep : sharedStep s action = some next) :
    Intact next := by
  cases action with
  | knock edpt len =>
      unfold sharedStep at hstep
      dsimp only at hstep
      split at hstep
      · cases hstep
        exact ⟨⟨h.unmixed.knocked, h.unmixed.counted, h.unmixed.added⟩, startsWith_written _ _,
          h.held1.kept hconsiderate, trivial, h.sound1⟩
      · cases hstep
  | core0 => exact knockStep_intact h hconsiderate hstep
  | receive frame => exact receiveStep_intact h hconsiderate hstep
  | core1 => exact syncStep_intact h hstep

/-- In a run in which no core changes a byte that the other has still to read, no two uses of the
buffer are mixed. -/
theorem unmixed_of_considerate {actions : List SharedAction} {s : Shared}
    (hconsiderate : Machine.Guarded sharedStep Considerate .init actions)
    (hrun : Machine.run sharedStep .init actions = some s) : Unmixed s := by
  have hinit : Intact .init := ⟨⟨nofun, nofun, nofun⟩, rfl, rfl, trivial, trivial⟩
  exact (Machine.guarded_invariant (fun _ _ _ h hok hstep => sharedStep_intact h hok hstep) hinit
    hconsiderate hrun).unmixed

/-- The slave announces a number of replies. -/
def countOf (recCount : UInt8) : SpiMessage := ⟨0, [recCount], SpiMessage.single_lt recCount⟩

/-- A knock between two rounds, each with one reply. -/
def knockBetweenRounds : List SharedAction :=
  let round : List SharedAction :=
    [.receive (countOf 1), .core1, .receive ⟨MsgType.isPacket, [1, 2, 0x81], by decide⟩, .core1,
      .core1, .core1]
  round ++ [.knock 0x81 8, .core0, .core0, .core0] ++ round

theorem knockBetweenRounds_unmixed :
    ∃ s, Machine.run sharedStep .init knockBetweenRounds = some s ∧ Unmixed s ∧
      s.knocked.length = 1 ∧ s.added.length = 2 := by
  have hconsiderate : Machine.Guarded sharedStep Considerate .init knockBetweenRounds := by
    decide +kernel
  have hends : ∃ s, Machine.run sharedStep .init knockBetweenRounds = some s ∧
      (s.knocked.length = 1 ∧ s.added.length = 2) := Machine.exists_run_of_any (by decide +kernel)
  obtain ⟨s, hrun, hends⟩ := hends
  exact ⟨s, hrun, unmixed_of_considerate hconsiderate hrun, hends⟩

/-- Three replies are announced, and core 0 clears the buffer before core 1 has read the count. -/
def clearedCount : List SharedAction := [.receive (countOf 3), .knock 0x81 8, .core1]

/-- Core 1 takes the count for zero. -/
theorem clearedCount_mixed :
    ¬ ∀ (actions : List SharedAction) (s : Shared),
      Machine.run sharedStep .init actions = some s → Unmixed s := by
  intro hclaim
  have hends : ∃ s, Machine.run sharedStep .init clearedCount = some s ∧
      s.counted = [(countOf 3, 0)] := Machine.exists_run_of_any (by decide +kernel)
  obtain ⟨s, hrun, hcounted⟩ := hends
  obtain ⟨count, hpayload, hzero⟩ := (hclaim clearedCount s hrun).counted (countOf 3) 0 (by
    rw [hcounted]
    exact List.mem_singleton_self _)
  obtain rfl : 3 = count := (List.cons.inj hpayload).1
  cases hzero

end UsbSec.Link
