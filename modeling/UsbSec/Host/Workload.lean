import UsbSec.Host.DeviceAddress
import UsbSec.Library.Work

/-!
# The messages that the slave makes

Core 0 of the slave hands over messages in the interrupt handler alone: at most one for each completed
buffer, and at most one for the end of a transaction. A message of the master makes none.
-/

namespace UsbSec.Host

open Library Usb Rp2040

/-- What the controller reports. -/
def report (h : Hcd) : BitVec 32 × Bool := (h.bufStatus, h.transComplete)

/-- A handler hands over at most `count` messages and leaves the report of the controller alone. -/
abbrev Hands : Nat → Slave → Slave → Prop :=
  Program.Costs (fun s => s.outbox.length) fun s => report s.hcd

/-- Every run of the program does so. -/
abbrev Makes {α : Type} (count : Nat) (program : SlaveM α) : Prop :=
  Program.Moves (Hands count) program

/-- The report of the controller is the same. -/
abbrev SameReport : Hcd → Hcd → Prop := Program.Same report

/-! ## The parts of the handlers -/

theorem update_makes {change : Slave → Slave} (houtbox : ∀ s, (change s).outbox = s.outbox)
    (hreport : ∀ s, report (change s).hcd = report s.hcd) : Makes 0 (Program.update change) :=
  fun s => ⟨Nat.le_of_eq (congrArg List.length (houtbox s)), hreport s⟩

theorem onHcd_makes {α : Type} {program : HcdM α} (h : Program.Moves SameReport program) :
    Makes 0 (onHcd program) :=
  Program.Moves.onPart_of h fun _ _ hsame => ⟨Nat.le_refl _, hsame⟩

theorem record_makes (call : Call) : Makes 0 (record call) :=
  update_makes (fun _ => rfl) fun _ => rfl

theorem enqueueSpiMessage_makes (message : SpiMessage) : Makes 1 (enqueueSpiMessage message) :=
  fun _ => ⟨Nat.le_of_eq List.length_append, rfl⟩

theorem setLevel_makes (level : UInt8) : Makes 0 (setLevel level) :=
  update_makes (fun _ => rfl) fun _ => rfl

theorem setDebugLock_makes (value : Bool) : Makes 0 (setDebugLock value) :=
  update_makes (fun _ => rfl) fun _ => rfl

theorem fillBugger_makes (start : Nat) (bytes : List UInt8) :
    Makes 0 (fillBugger start bytes) :=
  .bind (.require _ _) fun _ => update_makes (fun _ => rfl) fun _ => rfl

/-! ## The driver -/

theorem onSlot_sameReport {α : Type} (slot : Nat) (engine : Engine α) :
    Program.Moves SameReport (onSlot slot engine) := .onPart fun _ _ => rfl

theorem hostEndpointInit_sameReport (slot : Nat) (devAddr epAddr : UInt8) (wMaxPacketSize : UInt16)
    (transferType bmInterval : UInt8) : Program.Moves SameReport
      (hostEndpointInit slot devAddr epAddr wMaxPacketSize transferType bmInterval) := by
  refine .bind .read fun h => .bind (.require _ _) fun _ => .bind (.require _ _) fun _ => ?_
  refine .bind (.require _ _) fun _ => .bind (onSlot_sameReport _ _) fun _ => ?_
  refine .bind (.require _ _) fun _ => .bind (.update fun _ => rfl) fun _ => ?_
  refine .bind (onSlot_sameReport _ _) fun _ => .when (.bind (.require _ _) fun _ => ?_)
  exact .bind .read fun _ => .bind (.require _ _) fun _ => .update fun _ => rfl

theorem hwEndpointAllocate_sameReport (transferType epAddr : UInt8) :
    Program.Moves SameReport (hwEndpointAllocate transferType epAddr) :=
  (hwEndpointAllocate_samePolled transferType epAddr).mono fun _ _ hsame =>
    congrArg (Prod.snd ∘ Prod.snd ∘ Prod.snd ∘ Prod.snd) hsame

theorem hcdEdptOpen_makes (desc : EndpointPointer) (devAddr : UInt8) :
    Makes 0 (onHcd (hcdEdptOpen desc devAddr)) :=
  onHcd_makes (.bind (hwEndpointAllocate_sameReport _ _) fun _ =>
    hostEndpointInit_sameReport _ _ _ _ _ _)

theorem hcdSetupSend_makes (devAddr : UInt8) (setupPacket : List UInt8) :
    Makes 0 (onHcd (hcdSetupSend devAddr setupPacket)) := by
  refine onHcd_makes (.bind (.update fun _ => rfl) fun _ => ?_)
  refine .bind (hwEndpointAllocate_sameReport _ _) fun slot => .bind .read fun h => ?_
  refine .bind (hostEndpointInit_sameReport _ _ _ _ _ _) fun _ => ?_
  refine .bind (.update fun _ => rfl) fun _ => .bind (onSlot_sameReport _ _) fun _ => ?_
  exact .update fun _ => rfl

theorem hcdEdptXfer_sameReport (devAddr epAddr : UInt8) (buffer : UserBuf) (buflen : UInt16) :
    Program.Moves SameReport (hcdEdptXfer devAddr epAddr buffer buflen) := by
  refine .bind .read fun h => ?_
  cases getDevEp h epAddr with
  | none => exact .stop _
  | some slot =>
      refine .bind (.update fun _ => rfl) fun _ => ?_
      refine .bind (.when (hostEndpointInit_sameReport _ _ _ _ _ _)) fun _ => ?_
      exact .bind (onSlot_sameReport _ _) fun _ => .update fun _ => rfl

theorem startXfer_makes (devAddr epAddr : UInt8) (buffer : UserBuf) (buflen : UInt16) :
    Makes 0 (startXfer devAddr epAddr buffer buflen) :=
  .bind (record_makes _) fun _ => onHcd_makes (hcdEdptXfer_sameReport _ _ _ _)

theorem readResponse_makes (devAddr : UInt8) : Makes 0 (readResponse devAddr) :=
  .bind .read fun _ => startXfer_makes _ _ _ _

/-! ## Messages from the master -/

theorem sendSetup_makes (setup : ControlRequest) : Makes 0 (sendSetup setup) := by
  refine .bind (setDebugLock_makes _) fun _ => ?_
  refine .bind (update_makes (fun _ => rfl) fun _ => rfl) fun _ => .bind (setLevel_makes _) fun _ => ?_
  exact .bind (record_makes _) fun _ => .bind .read fun _ => hcdSetupSend_makes _ _

theorem handleUsbData_makes (payload : List UInt8) : Makes 0 (handleUsbData payload) := by
  refine .bind (setLevel_makes _) fun _ => ?_
  cases payload.getLast? with
  | none => exact .stop _
  | some epAddr =>
      exact .bind (fillBugger_makes _ _) fun _ => .bind .read fun _ => startXfer_makes _ _ _ _

theorem handleChgEpxPacketsize_makes (payload : List UInt8) :
    Makes 0 (handleChgEpxPacketsize payload) := by
  unfold handleChgEpxPacketsize
  split
  · exact onHcd_makes (onSlot_sameReport _ _)
  · exact .stop _

theorem handleMessage_makes (message : SpiMessage) : Makes 0 (handleMessage message) := by
  refine .ite ?_ (.ite ?_ (.ite ?_ (.ite (handleUsbData_makes _) (.ite ?_
    (.ite (handleChgEpxPacketsize_makes _) (.ite (.pure _) (.stop _)))))))
  · exact update_makes (fun _ => rfl) fun _ => rfl
  · exact .bind (.require _ _) fun _ => .bind .read fun _ => hcdEdptOpen_makes _ _
  · exact .bind (.require _ _) fun _ => sendSetup_makes _
  · exact .bind (sendSetup_makes _) fun _ => update_makes (fun _ => rfl) fun _ => rfl

theorem slavework_makes : Makes 0 slavework := by
  refine .bind .read fun s => ?_
  cases s.rx.remove with
  | none => exact .pure _
  | some taken =>
      exact .bind (update_makes (fun _ => rfl) fun _ => rfl) fun _ => handleMessage_makes _

/-! ## Completed transfers -/

theorem sendEventToMaster_makes (len : UInt16) (epAddr : UInt8) (eFlag : UInt16) :
    Makes 1 (sendEventToMaster len epAddr eFlag) := by
  refine .free_bind (.when (fillBugger_makes _ _)) fun _ => .free_bind .read fun s => ?_
  exact .free_bind (record_makes _) fun _ => enqueueSpiMessage_makes _

theorem completeResponse_makes (devAddr epAddr : UInt8) (xferredBytes : UInt16)
    (result : XferResult) :
    Makes 1 (completeResponse devAddr epAddr xferredBytes result) := by
  refine .ite ?_ ?_
  · refine .free_bind (setLevel_makes _) fun _ => .free_bind (setDebugLock_makes _) fun _ => ?_
    refine .free_bind .read fun s => .free_bind (.when (startXfer_makes _ _ _ _)) fun _ => ?_
    exact sendEventToMaster_makes _ _ _
  · exact .free_bind (readResponse_makes _) fun _ => sendEventToMaster_makes _ _ _

theorem hcdEventXferComplete_makes (devAddr epAddr : UInt8) (xferredBytes : UInt16)
    (result : XferResult) :
    Makes 1 (hcdEventXferComplete devAddr epAddr xferredBytes result) := by
  have hsetup : Makes 0 (completeSetup devAddr xferredBytes result) := by
    refine .bind (.require _ _) fun _ => .bind (.require _ _) fun _ => ?_
    exact .bind (setLevel_makes _) fun _ => readResponse_makes _
  refine .free_bind (.require _ _) fun _ => .free_bind .read fun s => ?_
  refine .free_bind (record_makes _) fun _ => .ite (.ite hsetup.costs_any (.ite ?_ ?_)) ?_
  · exact completeResponse_makes _ _ _ _
  · exact .costs_pure _
  · exact .free_bind (setDebugLock_makes _) fun _ => sendEventToMaster_makes _ _ _

theorem hwXferComplete_makes (slot : Nat) (result : XferResult) :
    Makes 1 (hwXferComplete slot result) := by
  refine .free_bind .read fun s => .free_bind (.when (onHcd_makes (onSlot_sameReport _ _))) fun _ => ?_
  exact hcdEventXferComplete_makes _ _ _ _

/-! ## The interrupt handler -/

theorem hasBits_slotBit (word : BitVec 32) {slot : Nat} (hslot : slot < 16) :
    hasBits word (slotBit slot) = word.getLsbD (2 * slot) := hasBits_shift word (by omega)

/-- A completed buffer makes one message, and its bit is cleared. -/
theorem handleBuffStatusBit_hands (bit slot : Nat) (s : Slave) :
    Hands 1 { s with hcd := { s.hcd with bufStatus := s.hcd.bufStatus &&& ~~~slotBit bit } }
      (Program.final (handleBuffStatusBit (slotBit bit) slot s)) := by
  have hrest : Makes 1 (onHcd (onSlot slot (hwEndpointXferContinue .slave)) >>= fun done =>
      hwXferComplete slot (if done then .success else .more)) :=
    .free_bind (onHcd_makes (onSlot_sameReport _ _)) fun _ => hwXferComplete_makes _ _
  exact hrest _

/-- The messages handed over so far, and one for each completed buffer. -/
def Slave.work (s : Slave) : Nat := s.outbox.length + bitCount s.hcd.bufStatus

/-- What hands over messages and leaves the report alone adds that much work. -/
theorem Hands.work {count : Nat} {s t : Slave} (h : Hands count s t) : t.work ≤ s.work + count := by
  have houtbox := h.bounded
  have hstatus : t.hcd.bufStatus = s.hcd.bufStatus := congrArg Prod.fst h.same
  unfold Slave.work
  rw [hstatus]
  omega

/-- The slave has some bits of `buf_status` to handle, and what it hands over for them is paid by
those it has cleared. -/
structure Handles (bits : BitVec 32) (s t : Slave) : Prop where
  work : t.work ≤ s.work
  transComplete : t.hcd.transComplete = s.hcd.transComplete
  pending : ∀ slot < 16, hasBits bits (slotBit slot) = true → hasBits t.hcd.bufStatus (slotBit slot) = true

/-- The bit that is cleared pays for the message, and the others stay. -/
theorem Handles.bit {bits : BitVec 32} {s t : Slave} (h : Handles bits s t) {bit : Nat}
    (hbit : bit < 16) (hset : hasBits bits (slotBit bit) = true) (slot : Nat) :
    Handles (bits &&& ~~~slotBit bit) s (Program.final (handleBuffStatusBit (slotBit bit) slot t)) := by
  have hpending := h.pending bit hbit hset
  rw [hasBits_slotBit _ hbit] at hpending
  have hcount : bitCount (t.hcd.bufStatus &&& ~~~slotBit bit) + 1 = bitCount t.hcd.bufStatus :=
    bitCount_clear hpending
  have hhands := handleBuffStatusBit_hands bit slot t
  have hstatus : (Program.final (handleBuffStatusBit (slotBit bit) slot t)).hcd.bufStatus =
      t.hcd.bufStatus &&& ~~~slotBit bit := congrArg Prod.fst hhands.same
  refine ⟨?_, (congrArg Prod.snd hhands.same).trans h.transComplete, fun other hother hleft => ?_⟩
  · have houtbox := hhands.bounded
    have hbefore := h.work
    dsimp only at houtbox
    unfold Slave.work at hbefore ⊢
    rw [hstatus]
    omega
  · have hkept := h.pending other hother (hasBits_of_and hleft)
    have hcleared (word : BitVec 32) : (word &&& ~~~slotBit bit).getLsbD (2 * other) =
        (word.getLsbD (2 * other) && decide (2 * other ≠ 2 * bit)) := getLsbD_clear word _ _
    rw [hasBits_slotBit _ hother] at hleft hkept ⊢
    rw [hcleared] at hleft
    rw [hstatus, hcleared, hkept, (Bool.and_eq_true_iff.mp hleft).2]
    rfl

theorem Handles.outcome {bits : BitVec 32} {s t : Slave} {program : SlaveM Unit} {E : Slave → Prop}
    (h : Handles bits s (Program.final (program t))) (himp : ∀ u, Handles bits s u → E u) :
    Program.Outcome program t (fun _ u => Handles bits s u) E := by
  unfold Program.Outcome
  cases hrun : program t with
  | ok value u =>
      rw [hrun] at h
      exact h
  | error reason u =>
      rw [hrun] at h
      exact himp u h

/-- The loop over the interrupt endpoints handles bits that are set. -/
theorem handleInterruptBuffers_handles {slots : List Nat} (hslots : ∀ slot ∈ slots, slot < 16)
    {remaining : BitVec 32} {s t : Slave} (h : Handles remaining s t) :
    Program.Outcome (handleInterruptBuffers slots remaining) t
      (fun left u => Handles left s u) fun u => ∃ left, Handles left s u := by
  induction slots generalizing remaining t with
  | nil => exact .pure h
  | cons slot rest ih =>
      have hrest {word : BitVec 32} {u : Slave} (hu : Handles word s u) :=
        ih (fun other hmem => hslots other (List.mem_cons_of_mem _ hmem)) hu
      unfold handleInterruptBuffers
      refine .ite (fun _ => .pure h) fun _ => .ite (fun hset => ?_) fun _ => hrest h
      -- The copy of the word and the register lose the same bit.
      have hbit := h.bit (hslots slot List.mem_cons_self) hset slot
      exact (hbit.outcome fun u hu => ⟨_, hu⟩).bind fun _ middle hmiddle => hrest hmiddle

/-- No more was handed over than there were completed buffers, and whether a transaction has ended is
reported as before. -/
structure Paid (s t : Slave) : Prop where
  work : t.work ≤ s.work
  transComplete : t.hcd.transComplete = s.hcd.transComplete

theorem Handles.paid {bits : BitVec 32} {s t : Slave} (h : Handles bits s t) : Paid s t :=
  ⟨h.work, h.transComplete⟩

theorem hwHandleBuffStatus_paid : Program.Moves Paid hwHandleBuffStatus := by
  refine .of_outcome fun s => ?_
  let word := s.hcd.bufStatus
  have hstart : Handles word s s := ⟨Nat.le_refl _, rfl, fun _ _ => id⟩
  have hstopped : ∀ t, (∃ left, Handles left s t) → Paid s t := fun t ⟨left, h⟩ => h.paid
  have hepx : Program.Outcome (Program.when (hasBits word (slotBit epx)) handleEpxBuffer) s
      (fun _ t => Handles (word &&& ~~~slotBit epx) s t) fun t => ∃ left, Handles left s t := by
    refine .when (P := fun _ t => Handles (word &&& ~~~slotBit epx) s t) (fun hset => ?_) fun _ => ?_
    · refine .read_bind ?_
      cases s.hcd.activeEp with
      | none => exact ⟨word, hstart⟩
      | some slot => exact (hstart.bit (by decide) hset slot).outcome fun u hu => ⟨_, hu⟩
    · exact ⟨hstart.work, hstart.transComplete, fun slot _ hleft =>
        hasBits_of_and hleft⟩
  have hslots : ∀ slot ∈ interruptSlots, slot < 16 := by decide
  refine .mono (.read_bind (.bind hepx fun _ t ht => .bind
    (handleInterruptBuffers_handles hslots ht) fun left u hu => ?_)) (fun _ t ht => ht) hstopped
  exact .when (P := fun _ t => Paid s t) (fun _ => .stop ⟨left, hu⟩) fun _ => hu.paid

/-- The messages that have been handed over or are to come from the interrupts that the controller
has raised. -/
def Slave.due (s : Slave) : Nat := s.work + s.hcd.transComplete.toNat

theorem Hands.due {count : Nat} {s t : Slave} (h : Hands count s t) : t.due ≤ s.due + count := by
  have hwork := h.work
  have htrans : t.hcd.transComplete = s.hcd.transComplete := congrArg Prod.snd h.same
  unfold Slave.due
  rw [htrans]
  omega

theorem Paid.due {s t : Slave} (h : Paid s t) : t.due ≤ s.due := by
  have hwork := h.work
  unfold Slave.due
  rw [h.transComplete]
  omega

/-- The end of a transaction is handled, and pays for the message that is made of it. -/
theorem transComplete_due (causes : List Cause) (s : Slave) :
    (Program.final ((Program.when s.hcd.transComplete (do
        Program.update fun s => { s with hcd := { s.hcd with transComplete := false } }
        hwTransComplete) >>= fun _ => handleCauses causes) s)).due ≤ s.due := by
  have hcauses : Makes 0 (handleCauses causes) := handleCauses_moves _
  have htrans : Makes 1 hwTransComplete :=
    .free_bind .read fun _ => .ite (hwXferComplete_makes _ _) (.costs_pure _)
  cases hflag : s.hcd.transComplete with
  | false => exact (hcauses s).due
  | true =>
      -- Clearing the cause lowers what is due by the message that is made of it.
      let handled : Slave := { s with hcd := { s.hcd with transComplete := false } }
      have hhands := Program.Moves.bind_free htrans (fun _ => hcauses) handled
      have hdue : s.due = handled.due + 1 := by
        unfold Slave.due
        rw [hflag]
        rfl
      rw [hdue]
      exact Hands.due hhands

/-- The interrupt handler hands over no more messages than there are interrupts for. -/
theorem hcdRp2040Irq_due (causes : List Cause) (s : Slave) :
    (Program.final (hcdRp2040Irq causes (s.hcd.bufStatus != 0) s.hcd.transComplete s)).due ≤
      s.due := by
  have hbuffers : Paid s
      (Program.final (Program.when (s.hcd.bufStatus != 0) hwHandleBuffStatus s)) := by
    unfold Program.when
    split
    · exact hwHandleBuffStatus_paid s
    · exact ⟨Nat.le_refl _, rfl⟩
  unfold hcdRp2040Irq
  rw [Program.bind_apply]
  cases hrun : Program.when (s.hcd.bufStatus != 0) hwHandleBuffStatus s with
  | error reason t =>
      rw [hrun] at hbuffers
      exact hbuffers.due
  | ok value t =>
      rw [hrun] at hbuffers
      have hsame : t.hcd.transComplete = s.hcd.transComplete := hbuffers.transComplete
      have hrest := transComplete_due causes t
      rw [hsame] at hrest
      exact hrest.trans hbuffers.due

/-! ## What the controller raises -/

/-- The interrupts that the controller reports. -/
def interrupts (h : Hcd) : Nat := bitCount h.bufStatus + h.transComplete.toNat

theorem finishTransaction_interrupts (h : Hcd) :
    interrupts (finishTransaction h) ≤ interrupts h + 1 := by
  show bitCount h.bufStatus + 1 ≤ bitCount h.bufStatus + h.transComplete.toNat + 1
  omega

/-- A completed buffer raises its bit. -/
theorem interrupts_of_bit {h k : Hcd} {slot : Nat}
    (hstatus : k.bufStatus = h.bufStatus ||| slotBit slot)
    (htrans : k.transComplete = h.transComplete) : interrupts k ≤ interrupts h + 1 := by
  have hcount : bitCount (h.bufStatus ||| slotBit slot) ≤ bitCount h.bufStatus + 1 :=
    bitCount_set_le _ (2 * slot)
  unfold interrupts
  rw [hstatus, htrans]
  omega

theorem sendSetupPacket_interrupts {h k : Hcd} (hsent : sendSetupPacket h = some k) :
    interrupts k ≤ interrupts h + 1 := by
  obtain ⟨-, hnext⟩ := Option.ite_none_right_eq_some.mp hsent
  cases hnext
  exact finishTransaction_interrupts h

theorem receiveIn_interrupts {h k : Hcd} {packet : Packet} (hreceived : receiveIn h packet = some k) :
    interrupts k ≤ interrupts h + 2 := by
  have hfill : interrupts (fillEpx h packet) ≤ interrupts h + 1 := interrupts_of_bit rfl rfl
  have hfinish := finishTransaction_interrupts (fillEpx h packet)
  obtain ⟨-, hnext⟩ := Option.ite_none_right_eq_some.mp hreceived
  cases hnext
  split <;> omega

theorem sendOut_interrupts {h k : Hcd} (hsent : sendOut h = some k) :
    interrupts k ≤ interrupts h + 2 := by
  have hempty : interrupts (emptyEpx h) ≤ interrupts h + 1 := interrupts_of_bit rfl rfl
  have hfinish := finishTransaction_interrupts (emptyEpx h)
  obtain ⟨-, hnext⟩ := Option.ite_none_right_eq_some.mp hsent
  cases hnext
  split <;> omega

theorem receiveInterrupt_interrupts {h k : Hcd} {slot : Nat} {packet : Packet}
    (hreceived : receiveInterrupt h slot packet = some k) : interrupts k ≤ interrupts h + 1 := by
  obtain ⟨-, hnext⟩ := Option.ite_none_right_eq_some.mp hreceived
  cases hnext
  exact interrupts_of_bit rfl rfl

end UsbSec.Host
