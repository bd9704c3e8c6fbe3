import UsbSec.Host.Irq

/-!
# The messages that the slave knows

`slavework` asserts that a message has one of six kinds, and the handlers of four of them read a
payload of a certain size without looking at its length. A message that is well formed for the
slave is of a known kind and has the bytes that its handler reads. One walk through the programs of
the slave gives the reasons for which they stop: nothing else than a message of another kind makes
the slave report one, and no division is by zero.
-/

namespace UsbSec.Host

open Library Usb Rp2040

/-- The message is of a kind that `slavework` handles, and its payload has the bytes that the
handler reads. -/
inductive ForSlavework (message : SpiMessage) : Prop where
  | resetUsb (kind : messageKind message = MsgType.resetUsb)
  | edptOpen (kind : messageKind message = MsgType.edptOpen) (whole : 7 ≤ message.payload.length)
  | setupData (kind : messageKind message = MsgType.setupData)
      (whole : message.payload.length = 8)
  | usbData (kind : messageKind message = MsgType.usbData) (addressed : 1 ≤ message.payload.length)
  | chgAddr (kind : messageKind message = MsgType.chgAddr)
  | chgEpxPacketsize (kind : messageKind message = MsgType.chgEpxPacketsize)
      (whole : message.payload.length = 1)

/-- The text with which `slavework` stops the slave over a message of another kind. -/
def invalidMessage : Halt := .error "Invalid message from master!"

/-- The slave does not stop over a message of another kind. -/
def MessageKnown (reason : Halt) : Prop := reason ≠ invalidMessage

instance (reason : Halt) : Decidable (MessageKnown reason) :=
  inferInstanceAs (Decidable (_ ≠ _))

/-- A property of the reasons for which the programs of the slave stop: failed assertions, accesses
that C leaves undefined, and errors other than that over a message of another kind. -/
structure StopRule (Q : Halt → Prop) : Prop where
  assertion : Q .assertion
  undefined : Q .undefined
  error : ∀ text, Halt.error text ≠ invalidMessage → Q (.error text)

theorem messageKnown_rule : StopRule MessageKnown where
  assertion := by decide
  undefined := by decide
  error _ h := h

section Stops

variable {Q : Halt → Prop} (hQ : StopRule Q)
include hQ

/-! ## The transfer engine -/

theorem assert_stops {σ : Type} (condition : Prop) [Decidable condition] :
    Program.Stops Q (runtimeAssert condition : Program Halt σ Unit) :=
  .require hQ.assertion

theorem defined_stops {σ : Type} (condition : Prop) [Decidable condition] :
    Program.Stops Q (defined condition : Program Halt σ Unit) :=
  .require hQ.undefined

theorem readUser_stops (role : SpiRole) (buffer : UserBuf) (count : Nat) :
    Program.Stops Q (readUser role buffer count) := by
  refine .bind .read fun c => ?_
  cases buffer <;> exact .bind (defined_stops hQ _) fun _ => .pure _

theorem writeUser_stops (role : SpiRole) (buffer : UserBuf) (bytes : List UInt8) :
    Program.Stops Q (writeUser role buffer bytes) := by
  cases buffer with
  | null => exact defined_stops hQ _
  | bugger offset => exact .bind (defined_stops hQ _) fun _ => .update _
  | reserveBugger offset => exact .bind (defined_stops hQ _) fun _ => .update _
  | object offset => exact .bind (defined_stops hQ _) fun _ => .update _
  | payload _ _ => exact defined_stops hQ _

theorem writeData_stops (buffer : Option Nat) (skip : Nat) (bytes : List UInt8) :
    Program.Stops Q (writeData buffer skip bytes) := by
  cases buffer with
  | none => exact defined_stops hQ _
  | some offset => exact .bind (defined_stops hQ _) fun _ => .update _

theorem readData_stops (buffer : Option Nat) (count : Nat) :
    Program.Stops Q (readData buffer count) := by
  refine .bind .read fun c => ?_
  cases buffer <;> exact .bind (defined_stops hQ _) fun _ => .pure _

omit hQ in
theorem hwEndpointBufferControlSetValue32_stops (value : BitVec 32) :
    Program.Stops Q (hwEndpointBufferControlSetValue32 value) :=
  .bind .read fun _ => .update _

theorem startNextBufferSlave_stops : Program.Stops Q startNextBufferSlave := by
  refine .bind .read fun c => .bind (.update _) fun _ => .bind (.when ?_) fun _ => ?_
  · exact .bind .read fun _ => .bind (readUser_stops hQ _ _ _) fun _ => writeData_stops hQ _ _ _
  · rw [when_divides]
    refine .bind (.pure _) fun _ => .bind (.update _) fun _ => ?_
    exact hwEndpointBufferControlSetValue32_stops _

theorem hwEndpointXferStart_stops (buffer : UserBuf) (totalLen : UInt16) :
    Program.Stops Q (hwEndpointXferStart .slave buffer totalLen) := by
  refine .bind .read fun c => .bind (.when (.update _)) fun _ => ?_
  exact .bind (.update _) fun _ => startNextBufferSlave_stops hQ

theorem syncReceived_stops (bufCtrl : BitVec 32) (xferredBytes : UInt16) :
    Program.Stops Q (syncReceived .slave bufCtrl xferredBytes) := by
  refine .bind (.when (.stop (hQ.error _ (by decide)))) fun _ => .bind .read fun c => ?_
  refine .bind (.when (.update _)) fun _ => .bind .read fun d => ?_
  refine .bind (readData_stops hQ _ _) fun bytes => .bind (writeUser_stops hQ _ _ _) fun _ => ?_
  exact .bind (.update _) fun _ => .when (.update _)

theorem syncEpBuffer_stops : Program.Stops Q (syncEpBuffer .slave) := by
  refine .bind .read fun c => .bind (.ite (fun _ => ?_) fun _ => ?_) fun _ => ?_
  · exact .bind (assert_stops hQ _) fun _ => .update _
  · exact syncReceived_stops hQ _ _
  · exact .bind .read fun _ => .when (.update _)

theorem hwEndpointXferContinue_stops :
    Program.Stops Q (hwEndpointXferContinue .slave) := by
  refine .bind .read fun c => .ite (fun _ => .pure _) fun _ => ?_
  refine .bind (syncEpBuffer_stops hQ) fun _ => .bind .read fun d => ?_
  refine .ite (fun _ => .stop (hQ.error _ (by decide))) fun _ => .ite (fun _ => .pure _) fun _ => ?_
  exact .bind (startNextBufferSlave_stops hQ) fun _ => .pure _

/-! ## The controller driver -/

omit hQ in
theorem onSlot_stops {α : Type} (slot : Nat) {engine : Engine α}
    (h : Program.Stops Q engine) : Program.Stops Q (onSlot slot engine) :=
  .onPart h

omit hQ in
theorem setEp_stops (slot : Nat) (change : HwEndpoint → HwEndpoint) :
    Program.Stops Q (onSlot slot (setEp change)) := onSlot_stops slot (.update _)

omit hQ in
theorem nextFreeInterruptEp_stops : Program.Stops Q nextFreeInterruptEp := by
  refine .bind .read fun h => ?_
  cases interruptSlots.find? fun i => !(h.epPool i).configured with
  | none => exact .pure _
  | some i => exact .bind (setEp_stops i _) fun _ => .pure _

theorem hwEndpointAllocate_stops (transferType epAddr : UInt8) :
    Program.Stops Q (hwEndpointAllocate transferType epAddr) := by
  refine .ite (fun _ => ?_) fun _ => ?_
  · refine .bind nextFreeInterruptEp_stops fun slot => .bind .read fun h => ?_
    exact .bind (defined_stops hQ _) fun _ => .bind (setEp_stops slot _) fun _ => .pure _
  · have hregisters (slot : Nat) : Program.Stops Q (do
        onSlot slot (setEp HwEndpoint.onEpxRegisters)
        pure slot) := .bind (setEp_stops slot _) fun _ => .pure _
    refine .ite (fun _ => .bind (.pure _) hregisters) fun _ => ?_
    exact .bind nextFreeInterruptEp_stops hregisters

theorem enablePolling_stops (slot : Nat) (devAddr epAddr : UInt8) :
    Program.Stops Q (enablePolling slot devAddr epAddr) :=
  .bind (assert_stops hQ _) fun _ => .bind .read fun _ => .bind (defined_stops hQ _) fun _ => .update _

theorem hostEndpointInit_stops (slot : Nat) (devAddr epAddr : UInt8) (wMaxPacketSize : UInt16)
    (transferType bmInterval : UInt8) : Program.Stops Q
      (hostEndpointInit slot devAddr epAddr wMaxPacketSize transferType bmInterval) := by
  refine .bind .read fun h => .bind (assert_stops hQ _) fun _ => .bind (assert_stops hQ _) fun _ => ?_
  refine .bind (assert_stops hQ _) fun _ => .bind (setEp_stops slot _) fun _ => ?_
  refine .bind (assert_stops hQ _) fun _ => .bind (.update _) fun _ => ?_
  exact .bind (setEp_stops slot _) fun _ => .when (enablePolling_stops hQ _ _ _)

theorem hcdEdptOpen_stops (desc : EndpointPointer) (devAddr : UInt8) :
    Program.Stops Q (hcdEdptOpen desc devAddr) :=
  .bind (hwEndpointAllocate_stops hQ _ _) fun _ => hostEndpointInit_stops hQ _ _ _ _ _ _

theorem hcdEdptXfer_stops (devAddr epAddr : UInt8) (buffer : UserBuf) (buflen : UInt16) :
    Program.Stops Q (hcdEdptXfer devAddr epAddr buffer buflen) := by
  refine .bind .read fun h => ?_
  cases getDevEp h epAddr with
  | none => exact .stop hQ.assertion
  | some slot =>
      refine .bind (.update _) fun _ => .bind (.when (hostEndpointInit_stops hQ _ _ _ _ _ _)) fun _ => ?_
      exact .bind (onSlot_stops slot (hwEndpointXferStart_stops hQ _ _)) fun _ => .update _

theorem hcdSetupSend_stops (devAddr : UInt8) (setupPacket : List UInt8) :
    Program.Stops Q (hcdSetupSend devAddr setupPacket) := by
  refine .bind (.update _) fun _ => .bind (hwEndpointAllocate_stops hQ _ _) fun slot => ?_
  refine .bind .read fun h => .bind (hostEndpointInit_stops hQ _ _ _ _ _ _) fun _ => ?_
  exact .bind (.update _) fun _ => .bind (setEp_stops slot _) fun _ => .update _

omit hQ in
theorem onHcd_stops {α : Type} {program : HcdM α} (h : Program.Stops Q program) :
    Program.Stops Q (onHcd program) := .onPart h

/-! ## Completed transfers -/

theorem fillBugger_stops (start : Nat) (bytes : List UInt8) :
    Program.Stops Q (fillBugger start bytes) :=
  .bind (defined_stops hQ _) fun _ => .update _

theorem startXfer_stops (devAddr epAddr : UInt8) (buffer : UserBuf) (buflen : UInt16) :
    Program.Stops Q (startXfer devAddr epAddr buffer buflen) :=
  .bind (.update _) fun _ => onHcd_stops (hcdEdptXfer_stops hQ _ _ _ _)

theorem readResponse_stops (devAddr : UInt8) : Program.Stops Q (readResponse devAddr) :=
  .bind .read fun _ => startXfer_stops hQ _ _ _ _

theorem sendEventToMaster_stops (len : UInt16) (epAddr : UInt8) (eFlag : UInt16) :
    Program.Stops Q (sendEventToMaster len epAddr eFlag) := by
  refine .bind (.when (fillBugger_stops hQ _ _)) fun _ => .bind .read fun s => ?_
  exact .bind (.update _) fun _ => .update _

theorem completeResponse_stops (devAddr epAddr : UInt8) (xferredBytes : UInt16)
    (result : XferResult) : Program.Stops Q
      (completeResponse devAddr epAddr xferredBytes result) := by
  refine .ite (fun _ => ?_) fun _ => ?_
  · refine .bind (.update _) fun _ => .bind (.update _) fun _ => .bind .read fun s => ?_
    exact .bind (.when (startXfer_stops hQ _ _ _ _)) fun _ => sendEventToMaster_stops hQ _ _ _
  · exact .bind (readResponse_stops hQ _) fun _ => sendEventToMaster_stops hQ _ _ _

theorem hcdEventXferComplete_stops (devAddr epAddr : UInt8) (xferredBytes : UInt16)
    (result : XferResult) : Program.Stops Q
      (hcdEventXferComplete devAddr epAddr xferredBytes result) := by
  refine .bind (assert_stops hQ _) fun _ => .bind .read fun s => .bind (.update _) fun _ => ?_
  refine .ite (fun _ => .ite (fun _ => ?_) fun _ => .ite (fun _ => ?_) fun _ => .pure _) fun _ => ?_
  · refine .bind (assert_stops hQ _) fun _ => .bind (assert_stops hQ _) fun _ => ?_
    exact .bind (.update _) fun _ => readResponse_stops hQ _
  · exact completeResponse_stops hQ _ _ _ _
  · exact .bind (.update _) fun _ => sendEventToMaster_stops hQ _ _ _

theorem hwXferComplete_stops (slot : Nat) (result : XferResult) :
    Program.Stops Q (hwXferComplete slot result) := by
  refine .bind .read fun s => .bind (.when ?_) fun _ => hcdEventXferComplete_stops hQ _ _ _ _
  exact onHcd_stops (setEp_stops slot _)

theorem handleBuffStatusBit_stops (bit : BitVec 32) (slot : Nat) :
    Program.Stops Q (handleBuffStatusBit bit slot) := by
  refine .bind (.update _) fun _ => .bind ?_ fun _ => hwXferComplete_stops hQ _ _
  exact onHcd_stops (onSlot_stops slot (hwEndpointXferContinue_stops hQ))

theorem handleInterruptBuffers_stops (slots : List Nat) (remaining : BitVec 32) :
    Program.Stops Q (handleInterruptBuffers slots remaining) := by
  induction slots generalizing remaining with
  | nil => exact .pure _
  | cons slot rest ih =>
      refine .ite (fun _ => .pure _) fun _ => .ite (fun _ => ?_) fun _ => ih _
      exact .bind (handleBuffStatusBit_stops hQ _ _) fun _ => ih _

theorem hwHandleBuffStatus_stops : Program.Stops Q hwHandleBuffStatus := by
  refine .bind .read fun s => .bind (.when (.bind .read fun t => ?_)) fun _ => ?_
  · cases t.hcd.activeEp with
    | none => exact .stop hQ.undefined
    | some slot => exact handleBuffStatusBit_stops hQ _ _
  · exact .bind (handleInterruptBuffers_stops hQ _ _) fun _ => .when (.stop (hQ.error _ (by decide)))

theorem handleCauses_stops (causes : List Cause) :
    Program.Stops Q (handleCauses causes) := by
  refine .bind (.when (.stop (hQ.error _ (by decide)))) fun _ => .bind (.when (.stop (hQ.error _ (by decide)))) fun _ => ?_
  exact .bind (.when (.stop (hQ.error _ (by decide)))) fun _ => .when (.stop (hQ.error _ (by decide)))

theorem hcdRp2040Irq_stops (causes : List Cause) (buffStatus transComplete : Bool) :
    Program.Stops Q (hcdRp2040Irq causes buffStatus transComplete) := by
  refine .bind (.when (hwHandleBuffStatus_stops hQ)) fun _ => .bind (.when ?_) fun _ =>
    handleCauses_stops hQ _
  refine .bind (.update _) fun _ => .bind .read fun s => ?_
  exact .when (hwXferComplete_stops hQ _ _)

/-! ## Messages -/

theorem sendSetup_stops (setup : ControlRequest) : Program.Stops Q (sendSetup setup) := by
  refine .bind (.update _) fun _ => .bind (.update _) fun _ => .bind (.update _) fun _ => ?_
  exact .bind (.update _) fun _ => .bind .read fun _ => onHcd_stops (hcdSetupSend_stops hQ _ _)

theorem handleUsbData_stops (payload : List UInt8) :
    Program.Stops Q (handleUsbData payload) := by
  refine .bind (.update _) fun _ => ?_
  cases payload.getLast? with
  | none => exact .stop hQ.undefined
  | some epAddr =>
      exact .bind (fillBugger_stops hQ _ _) fun _ => .bind .read fun _ => startXfer_stops hQ _ _ _ _

theorem handleChgEpxPacketsize_stops (payload : List UInt8) :
    Program.Stops Q (handleChgEpxPacketsize payload) := by
  unfold handleChgEpxPacketsize
  split
  · exact onHcd_stops (setEp_stops _ _)
  · exact .stop hQ.assertion

theorem handleMessage_stops {message : SpiMessage} (h : ForSlavework message ∨ Q invalidMessage) :
    Program.Stops Q (handleMessage message) := by
  refine .ite (fun _ => .update _) fun hreset => .ite (fun _ => ?_) fun hopen => ?_
  · refine .bind (defined_stops hQ _) fun _ => .bind .read fun _ => ?_
    exact onHcd_stops (hcdEdptOpen_stops hQ _ _)
  refine .ite (fun _ => ?_) fun hsetup => .ite (fun _ => handleUsbData_stops hQ _) fun hdata => ?_
  · exact .bind (defined_stops hQ _) fun _ => sendSetup_stops hQ _
  refine .ite (fun _ => ?_) fun haddr => .ite (fun _ => handleChgEpxPacketsize_stops hQ _) ?_
  · exact .bind (sendSetup_stops hQ _) fun _ => .update _
  intro hsize
  rcases h with hmessage | hinvalid
  · -- A message that is well formed has met one of the tests.
    cases hmessage with
    | resetUsb hkind => exact absurd hkind hreset
    | edptOpen hkind => exact absurd hkind hopen
    | setupData hkind => exact absurd hkind hsetup
    | usbData hkind => exact absurd hkind hdata
    | chgAddr hkind => exact absurd hkind haddr
    | chgEpxPacketsize hkind => exact absurd hkind hsize
  · exact .ite (fun _ => .pure _) fun _ => .stop hinvalid

theorem slavework_stops {s : Slave}
    (h : ∀ message ∈ s.rx.items, ForSlavework message ∨ Q invalidMessage) {reason : Halt}
    {last : Slave} (hrun : slavework s = .error reason last) : Q reason := by
  unfold slavework at hrun
  rw [Program.read_bind] at hrun
  cases hremove : s.rx.remove with
  | none =>
      rw [hremove] at hrun
      cases hrun
  | some taken =>
      obtain ⟨message, rest⟩ := taken
      rw [hremove] at hrun
      have hitems : s.rx.items = message :: rest.items := Fifo.remove_eq_some.mp hremove
      have hmem : message ∈ s.rx.items := by simp [hitems]
      exact handleMessage_stops hQ (h message hmem) _ _ _ hrun

end Stops

/-- Only a message of another kind is reported as invalid. -/
theorem slavework_known {s : Slave} (h : ∀ message ∈ s.rx.items, ForSlavework message)
    {reason : Halt} {last : Slave} (hrun : slavework s = .error reason last) :
    MessageKnown reason :=
  slavework_stops messageKnown_rule (fun message hmem => .inl (h message hmem)) hrun

theorem hcdRp2040Irq_known (causes : List Cause) (buffStatus transComplete : Bool) :
    Program.Stops MessageKnown (hcdRp2040Irq causes buffStatus transComplete) :=
  hcdRp2040Irq_stops messageKnown_rule causes buffStatus transComplete

/-! ## Divisions -/

/-- The slave does not stop over a division by zero. -/
def Divided (reason : Halt) : Prop := reason ≠ .divisionByZero

instance (reason : Halt) : Decidable (Divided reason) := inferInstanceAs (Decidable (_ ≠ _))

theorem divided_rule : StopRule Divided where
  assertion := by decide
  undefined := by decide
  error _ _ := by simp [Divided]

/-- Whatever the packet sizes are, no run of the slave comes to a division by zero. -/
theorem never_divides_by_zero {start last : Core0} {events : List Event}
    (hstart : start.halted = none) (hrun : Machine.run step start events = some last) :
    last.halted ≠ some .divisionByZero := by
  have hnone : (none : Option Halt) ≠ some .divisionByZero := Option.some_ne_none _ |>.symm
  have hhandler {handler : SlaveM Unit} {m : Core0} (hrunning : m.halted = none)
      (h : ∀ reason t, handler m.slave = .error reason t → Divided reason) :
      (runHandler handler m).halted ≠ some .divisionByZero := by
    cases hresult : handler m.slave with
    | ok value t =>
        rw [runHandler_ok hresult]
        exact hrunning ▸ hnone
    | error reason t =>
        rw [runHandler_error hresult]
        exact fun hreason => h reason t hresult (Option.some.inj hreason)
  refine Machine.run_invariant (I := fun m => m.halted ≠ some .divisionByZero) ?_ ?_ hrun
  · intro m event n hm hstep
    unfold step at hstep
    split at hstep
    · rename_i hrunning
      cases event with
      | slavework =>
          cases hstep
          exact hhandler hrunning fun reason t hresult =>
            slavework_stops divided_rule (fun _ _ => .inr (by decide)) hresult
      | hcdIrq =>
          cases hstep
          exact hhandler hrunning (hcdRp2040Irq_stops divided_rule _ _ _ _)
      | raise cause =>
          cases hstep
          exact hm
      | receive message =>
          obtain ⟨_, -, rfl⟩ := Option.map_eq_some_iff.mp hstep
          exact hm
      | setupSent | packetIn packet | packetOut | interruptIn slot packet =>
          obtain ⟨_, -, rfl⟩ := Option.map_eq_some_iff.mp hstep
          exact hm
    · cases hstep
  · exact hstart ▸ hnone

end UsbSec.Host
