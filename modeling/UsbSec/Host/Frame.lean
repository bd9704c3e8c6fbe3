import UsbSec.Host.Irq

/-!
# What the handlers of the slave can do

Apart from the controller and the statics of `host_event_handlers.c`, a handler of the slave's
core 0 records calls, hands over replies, and takes a message from `rx`. The walk through the
handlers is made once, for every relation that allows these changes.
-/

namespace UsbSec.Host

open Library Usb Rp2040

/-- The call does not start a control transfer. -/
def StartsNoTransfer (call : Call) : Prop := ∀ setup, call ≠ .setupSend setup

/-- A message as `send_event_to_master` puts it together. -/
structure IsReply (message : SpiMessage) : Prop where
  isPacket : hasFlag message.eFlag MsgType.isPacket
  nonempty : message.payload ≠ []

/-- A relation that the handlers move along, those that start a control transfer apart. -/
structure SlaveRule (R : Slave → Slave → Prop) : Prop where
  quiet : ∀ s t, t.rx = s.rx → t.outbox = s.outbox → t.calls = s.calls → R s t
  record : ∀ s call, StartsNoTransfer call → R s { s with calls := s.calls ++ [call] }
  enqueue : ∀ s message, IsReply message → R s { s with outbox := s.outbox ++ [message] }

section SlaveRule

variable {R : Slave → Slave → Prop}

theorem SlaveRule.update (hR : SlaveRule R) {change : Slave → Slave}
    (hrx : ∀ s, (change s).rx = s.rx) (houtbox : ∀ s, (change s).outbox = s.outbox)
    (hcalls : ∀ s, (change s).calls = s.calls) :
    Program.Moves R (Program.update change : SlaveM Unit) :=
  fun s => hR.quiet s _ (hrx s) (houtbox s) (hcalls s)

theorem SlaveRule.onHcd (hR : SlaveRule R) {α : Type} (program : HcdM α) :
    Program.Moves R (onHcd program) :=
  Program.Moves.onPart fun _ _ => hR.quiet _ _ rfl rfl rfl

theorem SlaveRule.recordCall (hR : SlaveRule R) {call : Call} (h : StartsNoTransfer call) :
    Program.Moves R (Host.record call) := fun s => hR.record s call h

theorem setLevel_moves (hR : SlaveRule R) (level : UInt8) : Program.Moves R (setLevel level) :=
  hR.update (fun _ => rfl) (fun _ => rfl) fun _ => rfl

theorem setDebugLock_moves (hR : SlaveRule R) (value : Bool) :
    Program.Moves R (setDebugLock value) :=
  hR.update (fun _ => rfl) (fun _ => rfl) fun _ => rfl

theorem handleResetUsb_moves (hR : SlaveRule R) : Program.Moves R handleResetUsb :=
  hR.update (fun _ => rfl) (fun _ => rfl) fun _ => rfl

theorem handleChgEpxPacketsize_moves (hR : SlaveRule R) (payload : List UInt8) :
    Program.Moves R (handleChgEpxPacketsize payload) := by
  unfold handleChgEpxPacketsize
  split
  · exact hR.onHcd _
  · exact fun s => hR.quiet s s rfl rfl rfl

variable [IsPreorder Slave R] (hR : SlaveRule R)
include hR

theorem fillBugger_moves (start : Nat) (bytes : List UInt8) :
    Program.Moves R (fillBugger start bytes) :=
  .bind (.require _ _) fun _ => hR.update (fun _ => rfl) (fun _ => rfl) fun _ => rfl

theorem startXfer_moves (devAddr epAddr : UInt8) (buffer : UserBuf) (buflen : UInt16) :
    Program.Moves R (startXfer devAddr epAddr buffer buflen) :=
  .bind (hR.recordCall nofun) fun _ => hR.onHcd _

theorem readResponse_moves (devAddr : UInt8) : Program.Moves R (readResponse devAddr) :=
  .bind .read fun _ => startXfer_moves hR _ _ _ _

/-! ## Completed transfers -/

/-- The byte behind the static buffer's `len` bytes is the endpoint address, so a reply is never
empty: a length that wraps would have been out of range before. -/
theorem sendEventToMaster_moves (len : UInt16) (epAddr : UInt8) (eFlag : UInt16) :
    Program.Moves R (sendEventToMaster len epAddr eFlag) := by
  have hflag : hasFlag (MsgType.isPacket ||| eFlag) MsgType.isPacket :=
    (hasFlag_or _ _ _).mpr (.inl (by decide))
  by_cases hzero : len = 0
  · subst hzero
    refine .bind (.when (fillBugger_moves hR _ _)) fun _ => .bind .read fun s => ?_
    refine .bind (hR.recordCall nofun) fun _ t => hR.enqueue t _ ?_
    exact ⟨hflag, List.cons_ne_nil _ _⟩
  · unfold sendEventToMaster
    rw [Program.when_true hzero]
    unfold fillBugger
    rw [bind_assoc]
    refine .require_bind fun hfits => ?_
    refine .bind (hR.update (fun _ => rfl) (fun _ => rfl) fun _ => rfl) fun _ => ?_
    refine .bind .read fun s => .bind (hR.recordCall nofun) fun _ t => hR.enqueue t _ ?_
    rw [if_neg hzero]
    refine ⟨hflag, fun hempty => ?_⟩
    have hlength := congrArg List.length hempty
    have hfits : len.toNat + 1 ≤ 1000 := hfits
    rw [SpiMessage.copyOf_payload, Buffer.length_bytesAt, UInt16.toNat_add] at hlength
    simp at hlength
    omega

theorem completeResponse_moves (devAddr epAddr : UInt8) (xferredBytes : UInt16)
    (result : XferResult) :
    Program.Moves R (completeResponse devAddr epAddr xferredBytes result) := by
  refine .ite ?_ ?_
  · refine .bind (setLevel_moves hR _) fun _ => .bind (setDebugLock_moves hR _) fun _ => ?_
    refine .bind .read fun s => .bind (.when (startXfer_moves hR _ _ _ _)) fun _ => ?_
    exact sendEventToMaster_moves hR _ _ _
  · exact .bind (readResponse_moves hR _) fun _ => sendEventToMaster_moves hR _ _ _

theorem hcdEventXferComplete_moves (devAddr epAddr : UInt8) (xferredBytes : UInt16)
    (result : XferResult) :
    Program.Moves R (hcdEventXferComplete devAddr epAddr xferredBytes result) := by
  refine .bind (.require _ _) fun _ => .bind .read fun s => ?_
  refine .bind (hR.recordCall nofun) fun _ => .ite (.ite ?_ (.ite ?_ (.pure _))) ?_
  · refine .bind (.require _ _) fun _ => .bind (.require _ _) fun _ => ?_
    exact .bind (setLevel_moves hR _) fun _ => readResponse_moves hR _
  · exact completeResponse_moves hR _ _ _ _
  · exact .bind (setDebugLock_moves hR _) fun _ => sendEventToMaster_moves hR _ _ _

theorem hwXferComplete_moves (slot : Nat) (result : XferResult) :
    Program.Moves R (hwXferComplete slot result) :=
  .bind .read fun _ => .bind (.when (hR.onHcd _)) fun _ => hcdEventXferComplete_moves hR _ _ _ _

/-! ## The interrupt handler -/

theorem handleBuffStatusBit_moves (bit : BitVec 32) (slot : Nat) :
    Program.Moves R (handleBuffStatusBit bit slot) := by
  refine .bind (hR.update (fun _ => rfl) (fun _ => rfl) fun _ => rfl) fun _ => ?_
  exact .bind (hR.onHcd _) fun _ => hwXferComplete_moves hR _ _

omit hR in
/-- The loop over the interrupt endpoints handles the slots whose bit is set. -/
theorem handleInterruptBuffers_of {status : BitVec 32} {slots : List Nat}
    (hbit : ∀ slot ∈ slots, hasBits status (slotBit slot) = true →
      Program.Moves R (handleBuffStatusBit (slotBit slot) slot)) {remaining : BitVec 32}
    (hremaining : ∀ bits, hasBits remaining bits = true → hasBits status bits = true) :
    Program.Moves R (handleInterruptBuffers slots remaining) := by
  induction slots generalizing remaining with
  | nil => exact .pure _
  | cons slot rest ih =>
      have hrest := fun other hmem => hbit other (List.mem_cons_of_mem slot hmem)
      unfold handleInterruptBuffers
      refine .ite (.pure _) ?_
      by_cases hset : hasBits remaining (slotBit slot) = true
      · rw [if_pos hset]
        refine .bind (hbit slot List.mem_cons_self (hremaining _ hset)) fun _ => ?_
        exact ih hrest fun bits hbits => hremaining bits (hasBits_of_and hbits)
      · rw [if_neg hset]
        exact ih hrest hremaining

theorem handleInterruptBuffers_moves (slots : List Nat) (remaining : BitVec 32) :
    Program.Moves R (handleInterruptBuffers slots remaining) :=
  handleInterruptBuffers_of (fun _ _ _ => handleBuffStatusBit_moves hR _ _) fun _ => id

theorem hwHandleBuffStatus_moves : Program.Moves R hwHandleBuffStatus := by
  refine .bind .read fun s => .bind (.when (.bind .read fun t => ?_)) fun _ => ?_
  · cases t.hcd.activeEp with
    | none => exact .stop _
    | some slot => exact handleBuffStatusBit_moves hR _ _
  · exact .bind (handleInterruptBuffers_moves hR _ _) fun _ => .when (.stop _)

theorem hwTransComplete_moves : Program.Moves R hwTransComplete :=
  .bind .read fun _ => .when (hwXferComplete_moves hR _ _)

omit hR in
/-- An interrupt cause stops the core or does nothing. -/
theorem handleCauses_moves (causes : List Cause) : Program.Moves R (handleCauses causes) := by
  refine .bind (.when (.stop _)) fun _ => .bind (.when (.stop _)) fun _ => ?_
  exact .bind (.when (.stop _)) fun _ => .when (.stop _)

theorem hcdRp2040Irq_moves (causes : List Cause) (buffStatus transComplete : Bool) :
    Program.Moves R (hcdRp2040Irq causes buffStatus transComplete) := by
  refine .bind (.when (hwHandleBuffStatus_moves hR)) fun _ => .bind (.when ?_) fun _ =>
    handleCauses_moves _
  refine .bind (hR.update (fun _ => rfl) (fun _ => rfl) fun _ => rfl) fun _ => ?_
  exact hwTransComplete_moves hR

/-! ## Messages -/

theorem handleEdptOpen_moves (payload : List UInt8) :
    Program.Moves R (handleEdptOpen payload) :=
  .bind (.require _ _) fun _ => .bind .read fun _ => hR.onHcd _

theorem handleUsbData_moves (payload : List UInt8) : Program.Moves R (handleUsbData payload) := by
  refine .bind (setLevel_moves hR _) fun _ => ?_
  cases payload.getLast? with
  | none => exact .stop _
  | some epAddr =>
      refine .bind (fillBugger_moves hR _ _) fun _ => .bind .read fun s => ?_
      exact startXfer_moves hR _ _ _ _

/-- The two messages that start a control transfer are up to the relation. -/
theorem handleMessage_moves (message : SpiMessage)
    (hsetup : ∀ setup, Program.Moves R (record (.setupSend setup))) :
    Program.Moves R (handleMessage message) := by
  have hsend (setup : ControlRequest) : Program.Moves R (sendSetup setup) := by
    refine .bind (setDebugLock_moves hR _) fun _ => ?_
    refine .bind (hR.update (fun _ => rfl) (fun _ => rfl) fun _ => rfl) fun _ => ?_
    refine .bind (setLevel_moves hR _) fun _ => .bind (hsetup setup) fun _ => ?_
    exact .bind .read fun _ => hR.onHcd _
  refine .ite (handleResetUsb_moves hR) (.ite (handleEdptOpen_moves hR _) (.ite ?_
    (.ite (handleUsbData_moves hR _) (.ite ?_ (.ite (handleChgEpxPacketsize_moves hR _)
      (.ite (.pure _) (.stop _)))))))
  · exact .bind (.require _ _) fun _ => hsend _
  · exact .bind (hsend _) fun _ => hR.update (fun _ => rfl) (fun _ => rfl) fun _ => rfl

end SlaveRule

/-- The handlers leave `rx` alone. -/
theorem sameRx_rule : SlaveRule (Program.Same Slave.rx) where
  quiet _ _ hrx _ _ := hrx
  record _ _ _ := rfl
  enqueue _ _ _ := rfl

/-! ## What the slave hands over and takes -/

/-- Messages are taken from the front of `rx`, and what is handed over are replies. -/
structure Sends (s t : Slave) : Prop where
  rx : t.rx.items <:+ s.rx.items
  outbox : ∃ more, t.outbox = s.outbox ++ more ∧ ∀ message ∈ more, IsReply message

instance : IsPreorder Slave Sends where
  refl s := ⟨List.suffix_rfl, [], by simp⟩
  trans s t u h k := by
    obtain ⟨first, hfirst, hhas⟩ := h.outbox
    obtain ⟨second, hsecond, hhas'⟩ := k.outbox
    refine ⟨k.rx.trans h.rx, first ++ second, ?_, fun message hmem => ?_⟩
    · rw [hsecond, hfirst, List.append_assoc]
    · rcases List.mem_append.mp hmem with hin | hin
      · exact hhas message hin
      · exact hhas' message hin

theorem sends_rule : SlaveRule Sends where
  quiet s t hrx houtbox _ := by
    refine ⟨⟨[], ?_⟩, [], by simp [houtbox]⟩
    rw [hrx, List.nil_append]
  record s _ _ := ⟨List.suffix_rfl, [], by simp⟩
  enqueue s message h := ⟨List.suffix_rfl, [message], rfl, by simpa using h⟩

theorem hcdRp2040Irq_sends (causes : List Cause) (buffStatus transComplete : Bool) :
    Program.Moves Sends (hcdRp2040Irq causes buffStatus transComplete) :=
  hcdRp2040Irq_moves sends_rule _ _ _

theorem slavework_sends : Program.Moves Sends slavework := by
  refine .read_bind fun s => ?_
  cases hremove : s.rx.remove with
  | none => exact refl_of Sends s
  | some taken =>
      obtain ⟨message, rest⟩ := taken
      have hitems : s.rx.items = message :: rest.items := Fifo.remove_eq_some.mp hremove
      have hnext : Sends s { s with rx := rest } := by
        refine ⟨?_, [], by simp⟩
        show rest.items <:+ s.rx.items
        rw [hitems]
        exact List.suffix_cons _ _
      refine trans_of Sends hnext (handleMessage_moves sends_rule message (fun _ t => ?_) _)
      exact ⟨List.suffix_rfl, [], (List.append_nil _).symm, by simp⟩

end UsbSec.Host
