import UsbSec.Device.Announced
import UsbSec.Device.BufferPass
import UsbSec.Library.Work

/-!
# The messages that the master makes

Core 0 of the master hands over messages in the interrupt handler and when it handles a message of
the slave. The interrupt handler makes no more messages than there are completed buffers and other
causes. What a message of the slave makes is known before it is handled, and only the last reply to a
setup packet makes more than one.
-/

namespace UsbSec.Device

open Library Usb Rp2040

/-- A handler hands over at most `count` messages and leaves `buf_status` alone. -/
abbrev Hands : Nat → Master → Master → Prop :=
  Program.Costs (fun s => s.outbox.length) fun s => s.dcd.bufStatus

/-- Every run of the program does so. -/
abbrev Makes {α : Type} (count : Nat) (program : MasterM α) : Prop :=
  Program.Moves (Hands count) program

/-! ## The parts of the handlers -/

theorem update_makes {change : Master → Master} (houtbox : ∀ s, (change s).outbox = s.outbox)
    (hstatus : ∀ s, (change s).dcd.bufStatus = s.dcd.bufStatus) :
    Makes 0 (Program.update change) :=
  fun s => ⟨Nat.le_of_eq (congrArg List.length (houtbox s)), hstatus s⟩

theorem onDcd_makes {α : Type} {program : DcdM α}
    (h : Program.Moves (Program.Same Dcd.bufStatus) program) : Makes 0 (onDcd program) :=
  Program.Moves.onPart_of h fun _ _ hsame => ⟨Nat.le_refl _, hsame⟩

theorem enqueueSpiMessage_makes (message : SpiMessage) : Makes 1 (enqueueSpiMessage message) :=
  fun _ => ⟨Nat.le_of_eq List.length_append, rfl⟩

theorem record_makes (call : Call) : Makes 0 (record call) :=
  update_makes (fun _ => rfl) fun _ => rfl

theorem withEndpoint_same_bufStatus {α : Type} (num : Nat) (dirIn : Bool) (engine : Engine α) :
    Program.Moves (Program.Same Dcd.bufStatus) (withEndpoint num dirIn engine) :=
  .onPart fun _ _ => rfl

theorem hwEndpointGetByAddr_same_bufStatus (epAddr : UInt8) :
    Program.Moves (Program.Same Dcd.bufStatus) (hwEndpointGetByAddr epAddr) :=
  .bind (.require _ _) fun _ => .pure _

theorem dcdEdptXferNew_makes (epAddr : UInt8) (buffer : UserBuf) (totalBytes : UInt16) :
    Makes 0 (onDcd (dcdEdptXferNew epAddr buffer totalBytes)) :=
  onDcd_makes (.bind (hwEndpointGetByAddr_same_bufStatus _) fun _ => withEndpoint_same_bufStatus _ _ _)

theorem dcdEdptXferPartial_makes (epAddr : UInt8) (buffer : UserBuf) (totalBytes : UInt16) :
    Makes 0 (onDcd (dcdEdptXferPartial epAddr buffer totalBytes)) :=
  onDcd_makes (.bind (hwEndpointGetByAddr_same_bufStatus _) fun _ => withEndpoint_same_bufStatus _ _ _)

theorem dcdEdptOpenNew_makes (desc : EndpointPointer) : Makes 0 (onDcd (dcdEdptOpenNew desc)) := by
  have hset (num : Nat) (dirIn : Bool) (change : HwEndpoint → HwEndpoint) :
      Program.Moves (Program.Same Dcd.bufStatus) (withEndpoint num dirIn (setEp change)) :=
    withEndpoint_same_bufStatus _ _ _
  refine onDcd_makes (.bind (hwEndpointGetByAddr_same_bufStatus _) fun place => ?_)
  refine .bind (hset _ _ _) fun _ => .bind (.update fun _ => rfl) fun _ => .ite (hset _ _ _) ?_
  refine .bind (hset _ _ _) fun _ => .bind .read fun d => .bind (hset _ _ _) fun _ => ?_
  exact .bind (.update fun _ => rfl) fun _ => .bind (.require _ _) fun _ =>
    .bind (.require _ _) fun _ => .update fun _ => rfl

theorem knockOnSlaveEdpt_makes (edpt len : UInt8) : Makes 1 (knockOnSlaveEdpt edpt len) :=
  enqueueSpiMessage_makes _

/-! ## Completed buffers -/

theorem mscXferOut_makes (edpt : UInt8) (xferredBytes : UInt16) :
    Makes 1 (mscXferOut edpt xferredBytes) := by
  refine .free_bind (update_makes (fun _ => rfl) fun _ => rfl) fun _ => ?_
  refine .free_bind (.require _ _) fun _ => ?_
  refine .free_bind (update_makes (fun _ => rfl) fun _ => rfl) fun _ => ?_
  exact .free_bind .read fun _ => enqueueSpiMessage_makes _

theorem handleDeviceXferCompleteWithDriver_makes (edpt : UInt8) (xferredBytes : UInt16) :
    Makes 1 (handleDeviceXferCompleteWithDriver edpt xferredBytes) := by
  refine .free_bind .read fun s => .free_bind (.require _ _) fun _ => ?_
  cases s.drivers.edptDriver (idx edpt).toNat with
  | illegal => exact .costs_stop _
  | hid => exact .free_bind .read fun _ => knockOnSlaveEdpt_makes _ _
  | massStorage =>
      refine .free_bind .read fun _ => .ite (mscXferOut_makes _ _) (.ite ?_ ?_)
      · exact enqueueSpiMessage_makes _
      · exact .costs_pure _

theorem dcdEventXferCompleteNew_makes (epAddr : UInt8) (xferredBytes : UInt16) :
    Makes 1 (dcdEventXferCompleteNew epAddr xferredBytes) := by
  have haddress (request : ControlRequest) : Makes 0 (onDcd (dcdEdpt0StatusComplete request)) :=
    onDcd_makes (.ite (.update fun _ => rfl) (.pure _))
  refine .free_bind .read fun s => .ite (haddress _).costs_any (.ite ?_ ?_)
  · exact .costs_pure _
  · exact handleDeviceXferCompleteWithDriver_makes _ _

/-- A completed buffer makes one message, and its bit is cleared. -/
theorem hwHandleBuffStatusBit_hands (i : Nat) (s : Master) :
    Hands 1 { s with dcd := { s.dcd with bufStatus := s.dcd.bufStatus &&& ~~~bufStatusBit i } }
      (Program.final (hwHandleBuffStatusBit i s)) := by
  have hrest : Makes 1 (xferContinue (i / 2) (i % 2 == 0) >>= fun done =>
        Program.when done (do
          let s ← Program.read
          let ep := s.dcd.hwEndpoints (i / 2) (i % 2 == 0)
          dcdEventXferCompleteNew ep.epAddr ep.xferredLen
          onDcd (withEndpoint (i / 2) (i % 2 == 0) hwEndpointResetTransferNew))) := by
    refine .free_bind (.bind (record_makes _) fun _ => ?_) fun done => .ite (.free_bind .read fun s => ?_) ?_
    · exact onDcd_makes (withEndpoint_same_bufStatus _ _ _)
    · exact .bind_free (dcdEventXferCompleteNew_makes _ _) fun _ =>
        onDcd_makes (withEndpoint_same_bufStatus _ _ _)
    · exact .costs_pure _
  exact hrest _

/-- The messages handed over so far, and one for each completed buffer. -/
def Master.work (s : Master) : Nat := s.outbox.length + bitCount s.dcd.bufStatus

/-- What hands over messages and leaves `buf_status` alone adds that much work. -/
theorem Hands.work {count : Nat} {s t : Master} (h : Hands count s t) : t.work ≤ s.work + count := by
  have houtbox := h.bounded
  unfold Master.work
  rw [h.same]
  omega

/-- The bit that is cleared pays for the message. -/
theorem hwHandleBuffStatusBit_work {i : Nat} {s : Master} (hset : s.dcd.bufStatus.getLsbD i = true) :
    (Program.final (hwHandleBuffStatusBit i s)).work ≤ s.work := by
  have hcount : bitCount (s.dcd.bufStatus &&& ~~~bufStatusBit i) + 1 = bitCount s.dcd.bufStatus :=
    bitCount_clear hset
  have houtbox := (hwHandleBuffStatusBit_hands i s).bounded
  have hstatus := (hwHandleBuffStatusBit_hands i s).same
  dsimp only at houtbox hstatus
  unfold Master.work
  rw [hstatus]
  omega

theorem handleBuffers_work {bits : List Nat} (hnodup : bits.Nodup) {s : Master}
    (hset : ∀ i ∈ bits, s.dcd.bufStatus.getLsbD i = true) :
    (Program.final (handleBuffers bits s)).work ≤ s.work := by
  induction bits generalizing s with
  | nil => exact Nat.le_refl _
  | cons i rest ih =>
      obtain ⟨hnot, hrest⟩ := List.nodup_cons.mp hnodup
      have hfirst := hwHandleBuffStatusBit_work (hset i List.mem_cons_self)
      have hclears := (hwHandleBuffStatusBit_hands i s).same
      rw [handleBuffers_cons, Program.bind_apply]
      cases hrun : hwHandleBuffStatusBit i s with
      | error reason t =>
          rw [hrun] at hfirst
          exact hfirst
      | ok value t =>
          rw [hrun] at hfirst hclears
          -- The bits of the endpoints that follow are still set.
          refine (ih hrest fun j hj => ?_).trans hfirst
          have hne : j ≠ i := fun heq => hnot (heq ▸ hj)
          have hstatus : t.dcd.bufStatus = s.dcd.bufStatus &&& ~~~bufStatusBit i := hclears
          rw [hstatus, getLsbD_cleared, hset j (List.mem_cons_of_mem _ hj), decide_eq_true hne]
          rfl

theorem hwHandleBuffStatus_work (s : Master) :
    (Program.final (hwHandleBuffStatus s)).work ≤ s.work := by
  have hsubset : ∀ i ∈ handledBits s.dcd.bufStatus, i ∈ completedBits s.dcd.bufStatus := by
    intro i hi
    unfold handledBits at hi
    split at hi
    · exact List.mem_of_mem_filter hi
    · exact hi
  have hnodup : (handledBits s.dcd.bufStatus).Nodup := by
    unfold handledBits
    split
    · exact (completedBits_nodup _).filter _
    · exact completedBits_nodup _
  rw [hwHandleBuffStatus_apply]
  exact handleBuffers_work hnodup fun i hi => mem_completedBits.mp (hsubset i hi)

/-! ## The other interrupt causes -/

theorem handleBusReset_makes : Makes 1 handleBusReset := by
  refine .free_bind (update_makes (fun _ => rfl) fun _ => rfl) fun _ => ?_
  refine .free_bind (onDcd_makes (.update fun _ => rfl)) fun _ => ?_
  exact .free_bind (record_makes _) fun _ => enqueueSpiMessage_makes _

theorem handleSetupReq_makes : Makes 1 handleSetupReq := by
  have hpid : Makes 0 (onDcd resetEp0Pid) :=
    onDcd_makes (.bind (withEndpoint_same_bufStatus _ _ _) fun _ => withEndpoint_same_bufStatus _ _ _)
  refine .free_bind hpid fun _ => .free_bind .read fun s => .free_bind (record_makes _) fun _ => ?_
  refine .free_bind (update_makes (fun _ => rfl) fun _ => rfl) fun _ => ?_
  refine .ite (enqueueSpiMessage_makes _) (.ite ?_ (.ite ?_ (enqueueSpiMessage_makes _)))
  · exact (dcdEdptXferNew_makes _ _ _).costs_any
  · exact (dcdEdptXferNew_makes _ _ _).costs_any

/-- The messages that the causes other than completed buffers make. -/
def DcdInts.work (ints : DcdInts) : Nat := ints.busReset.toNat + ints.setupReq.toNat

theorem dcdRp2040Irq_work (ints : DcdInts) (s : Master) :
    (Program.final (dcdRp2040Irq ints s)).work ≤ s.work + ints.work := by
  have hflag {program : MasterM Unit} (h : Makes 1 program) (flag : Bool) :
      Makes flag.toNat (Program.when flag program) := by
    cases flag with
    | false => exact .costs_pure _
    | true => exact h
  have hcauses : Makes ints.work (do
      Program.when ints.busReset handleBusReset
      Program.when ints.setupReq handleSetupReq) :=
    .costs_bind (hflag handleBusReset_makes _) fun _ => hflag handleSetupReq_makes _
  -- The pass over the buffers comes last, and pays for itself with the bits that it clears.
  have hsplit : dcdRp2040Irq ints = (do
      Program.when ints.busReset handleBusReset
      Program.when ints.setupReq handleSetupReq) >>= fun _ =>
        Program.when ints.buffStatus hwHandleBuffStatus := (bind_assoc _ _ _).symm
  have hfirst := (hcauses s).work
  rw [hsplit, Program.bind_apply]
  cases hrun : (do
      Program.when ints.busReset handleBusReset
      Program.when ints.setupReq handleSetupReq : MasterM Unit) s with
  | error reason t =>
      rw [hrun] at hfirst
      exact hfirst
  | ok value t =>
      rw [hrun] at hfirst
      have hpass : (Program.final (Program.when ints.buffStatus hwHandleBuffStatus t)).work ≤ t.work := by
        unfold Program.when
        split
        · exact hwHandleBuffStatus_work t
        · exact Nat.le_refl _
      exact hpass.trans hfirst

/-! ## Responses -/

theorem registerDriverForEdpt_makes (edpt : EndpointPointer) (itf : Option InterfaceDescriptor)
    (newMps : UInt8) : Makes 0 (registerDriverForEdpt edpt itf newMps) := by
  refine .bind (update_makes (fun _ => rfl) fun _ => rfl) fun _ => ?_
  cases itf with
  | none => exact .stop _
  | some descriptor =>
      refine .bind (record_makes _) fun _ => .bind (.require _ _) fun _ => ?_
      refine .bind (update_makes (fun _ => rfl) fun _ => rfl) fun _ => ?_
      refine .ite (update_makes (fun _ => rfl) fun _ => rfl) (.ite ?_ (.stop _))
      refine .bind (update_makes (fun _ => rfl) fun _ => rfl) fun _ => ?_
      exact .ite (dcdEdptXferNew_makes _ _ _) (update_makes (fun _ => rfl) fun _ => rfl)

/-- Without an interface the driver is not registered, and core 0 stops before the message. -/
theorem openEndpoint_makes (arr : Buffer) (pos : Nat) (itf : Option Nat) :
    Makes itf.toList.length (openEndpoint arr pos itf) := by
  refine .free_bind (record_makes _) fun _ => .free_bind (dcdEdptOpenNew_makes _) fun _ => ?_
  refine .free_bind .read fun s => ?_
  cases itf with
  | none =>
      intro t
      exact ⟨Nat.le_refl _, rfl⟩
  | some start =>
      exact .free_bind (registerDriverForEdpt_makes _ _ _) fun _ => enqueueSpiMessage_makes _

/-- The walk hands over a message for each endpoint descriptor that it meets. -/
theorem walk_makes (arr : Buffer) (len fuel pos : Nat) (itf : Option Nat) :
    Makes (describedEndpoints arr len fuel pos itf).length (walk arr len fuel pos itf) := by
  induction fuel generalizing pos itf with
  | zero => exact .ite (.costs_stop _) (.costs_pure _)
  | succ fuel ih =>
      unfold walk describedEndpoints
      by_cases hlt : pos < len
      · rw [if_pos hlt, if_pos hlt, List.length_append]
        refine .costs_bind ?_ fun _ => ih _ _
        by_cases hendpoint : arr (pos + 1) = 0x05
        · rw [Program.when_true hendpoint, if_pos hendpoint, List.length_map]
          exact openEndpoint_makes _ _ _
        · rw [Program.when_false hendpoint, if_neg hendpoint]
          exact .costs_pure _
      · rw [if_neg hlt, if_neg hlt]
        exact .costs_pure _

/-- The messages that `handle_setup_response` makes: the packet size of endpoint 0, one for each
endpoint descriptor of a configuration, and the first poll of a HID endpoint. -/
def responseWork (s : Master) : Nat :=
  let setup := s.events.setup
  let len := s.aggregator.len.toNat
  (if IsDeviceRequest setup then 1 else 0) +
    if (ControlRequest.ofBuffer s.dcd.setupPacket).bRequest = 0x5 then 0
    else
      (if IsConfigRequest setup then
        (describedEndpoints s.aggregator.bugger len len 0 none).length else 0) +
      (if setup.wValue = 0x2200 ∧ setup.wIndex = 0x01 then 1 else 0)

theorem handleDeviceDescriptor_makes (arr : Buffer) : Makes 1 (handleDeviceDescriptor arr) := by
  refine .bind_free (enqueueSpiMessage_makes _) fun _ => ?_
  exact .bind (update_makes (fun _ => rfl) fun _ => rfl) fun _ => update_makes (fun _ => rfl) fun _ => rfl

theorem handleSetupResponse_hands (s : Master) :
    Hands (responseWork s) s (Program.final (handleSetupResponse s)) := by
  unfold handleSetupResponse
  rw [Program.read_bind]
  have hreport (setup : ControlRequest) :
      Makes (if setup.wValue = 0x2200 ∧ setup.wIndex = 0x01 then 1 else 0) (handleHidReport setup) :=
    .costs_when (.free_bind .read fun _ => knockOnSlaveEdpt_makes _ _)
  refine (Program.Moves.free_bind (record_makes _) fun _ => .costs_bind
    (.costs_when (handleDeviceDescriptor_makes _)) fun _ => .costs_ite (.pure _) ?_) s
  exact .costs_bind (.costs_when (walk_makes _ _ _ _ _)) fun _ => hreport _

/-! ## Messages from the slave -/

theorem registerResponse_makes (message : SlavePacket) : Makes 0 (registerResponse message) := by
  refine .bind .read fun s => .bind (.require _ _) fun _ => ?_
  refine .bind (update_makes (fun _ => rfl) fun _ => rfl) fun _ => ?_
  exact .bind (dcdEdptXferNew_makes _ _ _) fun _ => update_makes (fun _ => rfl) fun _ => rfl

/-- The messages that the reply to a setup packet makes. -/
def replyWork (s : Master) (message : SlavePacket) : Nat :=
  if hasFlag message.eFlag MsgType.lastPacket then responseWork (s.withResponse message) else 0

theorem handleSetupData_hands (message : SlavePacket) (s : Master) :
    Hands (replyWork s message) s (Program.final (handleSetupData message s)) := by
  have hregister := registerResponse_makes message s
  have hpacket := registerResponse_same_setupPackets message s
  unfold handleSetupData
  rw [Program.bind_apply]
  cases hrun : registerResponse message s with
  | error reason t =>
      rw [hrun] at hregister
      exact hregister.mono (Nat.zero_le _)
  | ok value t =>
      rw [hrun] at hregister hpacket
      dsimp only
      unfold replyWork
      by_cases hlast : hasFlag message.eFlag MsgType.lastPacket
      · obtain ⟨d, rfl⟩ := registerResponse_eq_ok hrun
        -- Only the controller differs from the state in which the work is counted.
        have hlive : d.setupPacket = s.dcd.setupPacket := congrArg Prod.snd hpacket
        have hresponse := handleSetupResponse_hands { s.withResponse message with dcd := d }
        have hsame : responseWork { s.withResponse message with dcd := d } =
            responseWork (s.withResponse message) := by
          unfold responseWork
          dsimp only
          rw [hlive]
          rfl
        have hstatus : Makes 0 (do
            Program.update fun s : Master =>
              { s with events := { s.events with setupResponseDir := .writingResponse } }
            let s ← Program.read
            Program.when (s.events.setup.direction = 1) (onDcd (dcdEdptXferNew 0x00 .null 0))) :=
          .bind (update_makes (fun _ => rfl) fun _ => rfl) fun _ => .bind .read fun _ =>
            .when (dcdEdptXferNew_makes _ _ _)
        rw [if_pos hlast, Program.when_true hlast]
        have hafter := Program.Moves.after (R := Hands 0) handleSetupResponse
          (fun _ => hstatus) { s.withResponse message with dcd := d }
        rw [hsame] at hresponse
        have hall := hregister.trans (hresponse.trans hafter)
        rwa [Nat.zero_add, Nat.add_zero] at hall
      · rw [if_neg hlast, Program.when_false hlast]
        exact hregister

/-- The messages that a driver makes of a message for its endpoint: the storage driver answers the
end of an OUT transfer with the request for a read. -/
def driverWork (s : Master) (edpt : UInt8) : Nat :=
  if s.drivers.edptDriver (idx edpt).toNat = .massStorage ∧ edpt &&& 0x80 = 0 then 1 else 0

theorem handleSpiSlaveEventWithDriver_hands (message : SlavePacket) (edpt : UInt8) (s : Master) :
    Hands (driverWork s edpt) s
      (Program.final (handleSpiSlaveEventWithDriver message edpt s)) := by
  unfold handleSpiSlaveEventWithDriver driverWork
  rw [Program.read_bind]
  refine (Program.Moves.free_bind (.require _ _) fun _ => .free_bind (.when (.stop _)) fun _ => ?_) s
  cases s.drivers.edptDriver (idx edpt).toNat with
  | illegal => exact .costs_stop _
  | hid => exact (Program.Moves.bind (record_makes _) fun _ => dcdEdptXferNew_makes _ _ _).costs_any
  | massStorage =>
      refine .free_bind (record_makes _) fun _ => ?_
      by_cases hout : edpt &&& 0x80 = 0
      · rw [if_pos hout, if_pos ⟨rfl, hout⟩]
        exact .free_bind .read fun _ => .bind_free (knockOnSlaveEdpt_makes _ _) fun _ =>
          dcdEdptXferNew_makes _ _ _
      · rw [if_neg hout]
        refine .costs_any ?_
        exact .bind (update_makes (fun _ => rfl) fun _ => rfl) fun _ => dcdEdptXferPartial_makes _ _ _

/-- The messages that a message from the slave makes. -/
def messageWork (msg : SpiMessage) (s : Master) : Nat :=
  if hasFlag msg.eFlag MsgType.setupData then replyWork s (handlerPacket msg)
  else (msg.payload.getLast?.map (driverWork s)).getD 0

theorem handleMessage_hands (msg : SpiMessage) (s : Master) :
    Hands (messageWork msg s) s (Program.final (handleMessage msg s)) := by
  have hnone (count : Nat) : Hands count s s := (refl_of (Hands 0) s).mono (Nat.zero_le _)
  unfold handleMessage messageWork
  cases msg.payload.getLast? with
  | none => exact hnone _
  | some epAddr =>
      show Hands _ s (Program.final ((Program.require _ _ >>= _) s))
      by_cases hpacket : hasFlag msg.eFlag MsgType.isPacket
      · rw [Program.require_bind hpacket]
        by_cases hsetup : hasFlag msg.eFlag MsgType.setupData
        · rw [if_pos hsetup, if_pos hsetup]
          exact handleSetupData_hands _ s
        · rw [if_neg hsetup, if_neg hsetup]
          exact handleSpiSlaveEventWithDriver_hands _ _ s
      · rw [Program.require_false hpacket]
        exact hnone _

/-- The messages that `handle_spi_slave_event` makes. -/
def eventWork (s : Master) : Nat := s.nextMessage.elim 0 fun msg => messageWork msg s

theorem handleSpiSlaveEvent_hands (s : Master) :
    Hands (eventWork s) s (Program.final (handleSpiSlaveEvent s)) := by
  unfold eventWork
  rcases handleSpiSlaveEvent_cases s with ⟨hnext, hpassed | hidle⟩ | ⟨msg, rest, hnext, -, hhandles⟩
  · rw [hnext, hpassed]
    exact ⟨Nat.le_refl _, rfl⟩
  · rw [hnext, hidle]
    exact ⟨Nat.le_refl _, rfl⟩
  · have htake : Hands 0 s { s with rx := rest } := ⟨Nat.le_refl _, rfl⟩
    have hall := htake.trans (handleMessage_hands msg { s with rx := rest })
    rw [Nat.zero_add] at hall
    rw [hnext, hhandles]
    exact hall

/-! ## What the controller raises -/

theorem sendIn_bitCount {d e : Dcd} {num : Nat} (h : sendIn d num = some e) :
    bitCount e.bufStatus ≤ bitCount d.bufStatus + 1 := by
  simp only [sendIn, Option.bind_eq_bind, Option.bind_eq_some_iff] at h
  obtain ⟨_, -, _, -, hnext⟩ := h
  cases hnext
  exact bitCount_set_le _ (2 * num)

theorem receiveOut_bitCount {d e : Dcd} {num : Nat} {packet : Packet}
    (h : receiveOut d num packet = some e) : bitCount e.bufStatus ≤ bitCount d.bufStatus + 1 := by
  simp only [receiveOut, Option.bind_eq_bind, Option.bind_eq_some_iff] at h
  obtain ⟨_, -, _, -, hnext⟩ := h
  cases hnext
  exact bitCount_set_le _ (2 * num + 1)

/-! ## What is taken from `rx` -/

theorem sameRx_rule : LogRule (Program.Same Master.rx) (fun _ => True) fun _ => True where
  quiet _ _ hrx _ _ := hrx
  record _ _ _ := rfl
  enqueue _ _ _ := rfl

theorem handleMessage_same_rx (msg : SpiMessage) :
    Program.Moves (Program.Same Master.rx) (handleMessage msg) := by
  refine handleMessage_logs sameRx_rule ?_ (fun _ _ => ?_) msg
  · refine handleSetupResponse_logs sameRx_rule trivial trivial (fun arr pos itf => ?_) fun _ _ => ?_
    · exact openEndpoint_logs sameRx_rule (fun _ _ => trivial) trivial arr pos itf
    · exact sameRx_rule.recordCall trivial
  · exact handleSpiSlaveEventWithDriver_logs sameRx_rule trivial (fun _ _ => trivial) _ _

/-- The message that is handled is taken. -/
theorem handleSpiSlaveEvent_takes {s : Master} (h : s.nextMessage ≠ none) :
    (Program.final (handleSpiSlaveEvent s)).rx.level < s.rx.level := by
  rcases handleSpiSlaveEvent_cases s with ⟨hnext, -⟩ | ⟨msg, rest, -, htaken, hhandles⟩
  · exact absurd hnext h
  · have hsuffix := (List.dropWhile_suffix isString (l := s.rx.items)).length_le
    have hitems : s.rx.items.dropWhile isString = msg :: rest.items := Fifo.remove_eq_some.mp htaken
    have hrx : (Program.final (handleMessage msg { s with rx := rest })).rx = rest :=
      handleMessage_same_rx msg { s with rx := rest }
    rw [hitems, List.length_cons] at hsuffix
    rw [hhandles]
    show (Program.final (handleMessage msg { s with rx := rest })).rx.items.length < _
    rw [hrx]
    exact hsuffix

end UsbSec.Device
