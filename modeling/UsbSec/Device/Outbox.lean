import UsbSec.Device.Responses

/-!
# What the master hands over and takes

Each handler of the master's core 0 adds messages to the end of `outbox` and takes messages from
the front of `rx`. This module walks through the handlers once, for every property that all the
messages have that are put together from fixed parts. The message for an opened endpoint repeats
`bLength` bytes of a descriptor, so what it is like is up to the response.
-/

namespace UsbSec.Device

open Library Usb Rp2040

/-- Messages are taken from the front of `rx`, and what is handed over has the property. -/
structure Sends (P : SpiMessage → Prop) (s t : Master) : Prop where
  rx : t.rx.items <:+ s.rx.items
  outbox : ∃ more, t.outbox = s.outbox ++ more ∧ ∀ message ∈ more, P message

instance (P : SpiMessage → Prop) : IsPreorder Master (Sends P) where
  refl s := ⟨List.suffix_rfl, [], by simp⟩
  trans s t u h k := by
    obtain ⟨first, hfirst, hhas⟩ := h.outbox
    obtain ⟨second, hsecond, hhas'⟩ := k.outbox
    refine ⟨k.rx.trans h.rx, first ++ second, ?_, fun message hmem => ?_⟩
    · rw [hsecond, hfirst, List.append_assoc]
    · rcases List.mem_append.mp hmem with hin | hin
      · exact hhas message hin
      · exact hhas' message hin

/-- The message with which the slave is to open the endpoint at `pos`. -/
def openMessage (arr : Buffer) (pos : Nat) : SpiMessage :=
  .copyOf (MsgType.edptOpen ||| MsgType.debugPrintAsHex) arr pos (arr pos).toUInt16

/-- The property holds of every message that the master puts together from fixed parts. -/
structure MasterSends (P : SpiMessage → Prop) : Prop where
  reset : P (.bare MsgType.resetUsb)
  chgAddr : P (.bare MsgType.chgAddr)
  setup : ∀ message : SpiMessage,
    message.eFlag = MsgType.setupData ||| MsgType.debugPrintAsHex →
    message.payload.length = 8 → P message
  packetSize : ∀ message : SpiMessage,
    message.eFlag = MsgType.chgEpxPacketsize ||| MsgType.debugPrintAsHex →
    message.payload.length = 1 → P message
  usbData : ∀ message : SpiMessage,
    message.eFlag = MsgType.usbData ∨ message.eFlag = MsgType.usbData ||| MsgType.debugPrintAsHex →
    message.payload ≠ [] → P message

section Sends

variable {P : SpiMessage → Prop}

theorem update_sends {change : Master → Master} (hrx : ∀ s, (change s).rx = s.rx)
    (houtbox : ∀ s, (change s).outbox = s.outbox) :
    Program.Moves (Sends P) (Program.update change : MasterM Unit) := by
  intro s
  refine ⟨⟨[], ?_⟩, [], ?_, by simp⟩
  · show [] ++ (change s).rx.items = s.rx.items
    rw [hrx, List.nil_append]
  · show (change s).outbox = s.outbox ++ []
    rw [houtbox, List.append_nil]

theorem onDcd_sends {α : Type} (program : DcdM α) : Program.Moves (Sends P) (onDcd program) :=
  Program.Moves.onPart fun _ _ => ⟨List.suffix_rfl, [], by simp⟩

theorem record_sends (call : Call) : Program.Moves (Sends P) (record call) :=
  update_sends (fun _ => rfl) fun _ => rfl

theorem enqueueSpiMessage_sends {message : SpiMessage} (h : P message) :
    Program.Moves (Sends P) (enqueueSpiMessage message) :=
  fun _ => ⟨List.suffix_rfl, [message], rfl, by simpa using h⟩

theorem hidSpi_sends (message : SlavePacket) (edpt : UInt8) :
    Program.Moves (Sends P) (hidSpi message edpt) :=
  .bind (record_sends _) fun _ => onDcd_sends _

theorem registerDriverForEdpt_sends (edpt : EndpointPointer)
    (itf : Option InterfaceDescriptor) (newMps : UInt8) :
    Program.Moves (Sends P) (registerDriverForEdpt edpt itf newMps) := by
  refine .bind (update_sends (fun _ => rfl) fun _ => rfl) fun _ => ?_
  cases itf with
  | none => exact .stop _
  | some descriptor =>
      refine .bind (record_sends _) fun _ => .bind (.require _ _) fun _ => ?_
      refine .bind (update_sends (fun _ => rfl) fun _ => rfl) fun _ => ?_
      refine .ite (update_sends (fun _ => rfl) fun _ => rfl) (.ite ?_ (.stop _))
      refine .bind (update_sends (fun _ => rfl) fun _ => rfl) fun _ => ?_
      exact .ite (onDcd_sends _) (update_sends (fun _ => rfl) fun _ => rfl)

theorem registerResponse_sends (message : SlavePacket) :
    Program.Moves (Sends P) (registerResponse message) := by
  refine .bind .read fun s => .bind (.require _ _) fun _ => ?_
  refine .bind (update_sends (fun _ => rfl) fun _ => rfl) fun _ => ?_
  exact .bind (onDcd_sends _) fun _ => update_sends (fun _ => rfl) fun _ => rfl

theorem openEndpoint_sends {arr : Buffer} {pos : Nat} (h : P (openMessage arr pos))
    (itf : Option Nat) : Program.Moves (Sends P) (openEndpoint arr pos itf) := by
  refine .bind (record_sends _) fun _ => .bind (onDcd_sends _) fun _ => .bind .read fun s => ?_
  exact .bind (registerDriverForEdpt_sends _ _ _) fun _ => enqueueSpiMessage_sends h

/-- The property holds of the messages for the endpoint descriptors that the walk reaches. -/
def OpensOnly (P : SpiMessage → Prop) (arr : Buffer) (len : Nat) : Nat → Nat → Prop
  | 0, _ => True
  | fuel + 1, pos =>
      pos < len → (arr (pos + 1) = 0x05 → P (openMessage arr pos)) ∧
        OpensOnly P arr len fuel (pos + (arr pos).toNat)

/-- Whether the descriptors that the walk reaches are as the property asks can be computed when
the property can. -/
instance decidableOpensOnly {P : SpiMessage → Prop} [DecidablePred P] (arr : Buffer) (len : Nat) :
    ∀ fuel pos, Decidable (OpensOnly P arr len fuel pos)
  | 0, _ => isTrue trivial
  | fuel + 1, pos =>
      have : Decidable (OpensOnly P arr len fuel (pos + (arr pos).toNat)) :=
        decidableOpensOnly arr len fuel _
      decidable_of_iff (pos < len → (arr (pos + 1) = 0x05 → P (openMessage arr pos)) ∧
        OpensOnly P arr len fuel (pos + (arr pos).toNat)) Iff.rfl

/-- What the messages for opened endpoints have, they have. -/
theorem OpensOnly.imp {P Q : SpiMessage → Prop} {arr : Buffer} {len fuel pos : Nat}
    (h : OpensOnly P arr len fuel pos)
    (himp : ∀ pos, P (openMessage arr pos) → Q (openMessage arr pos)) :
    OpensOnly Q arr len fuel pos := by
  induction fuel generalizing pos with
  | zero => exact trivial
  | succ fuel ih =>
      intro hlt
      obtain ⟨hopen, hrest⟩ := h hlt
      exact ⟨fun hendpoint => himp pos (hopen hendpoint), ih hrest⟩

theorem walk_sends {arr : Buffer} {len fuel pos : Nat} (h : OpensOnly P arr len fuel pos)
    (itf : Option Nat) : Program.Moves (Sends P) (walk arr len fuel pos itf) := by
  induction fuel generalizing pos itf with
  | zero => exact .ite (.stop _) (.pure _)
  | succ fuel ih =>
      by_cases hlt : pos < len
      · obtain ⟨hopen, hrest⟩ := h hlt
        unfold walk
        rw [if_pos hlt]
        refine .bind ?_ fun _ => ih hrest _
        by_cases hendpoint : arr (pos + 1) = 0x05
        · rw [Program.when_true hendpoint]
          exact openEndpoint_sends (hopen hendpoint) _
        · rw [Program.when_false hendpoint]
          exact .pure _
      · unfold walk
        rw [if_neg hlt]
        exact .pure _

variable (hP : MasterSends P)
include hP

theorem knockOnSlaveEdpt_sends (edpt len : UInt8) :
    Program.Moves (Sends P) (knockOnSlaveEdpt edpt len) :=
  enqueueSpiMessage_sends (hP.usbData _ (.inr rfl) (by simp))

/-! ## The drivers -/

theorem mscSpi_sends (message : SlavePacket) (edpt : UInt8) :
    Program.Moves (Sends P) (mscSpi message edpt) := by
  refine .bind (record_sends _) fun _ => .ite (.bind .read fun s => ?_) (.bind ?_ fun _ => ?_)
  · exact .bind (knockOnSlaveEdpt_sends hP _ _) fun _ => onDcd_sends _
  · exact update_sends (fun _ => rfl) fun _ => rfl
  · exact onDcd_sends _

theorem mscXferOut_sends (edpt : UInt8) (xferredBytes : UInt16) :
    Program.Moves (Sends P) (mscXferOut edpt xferredBytes) := by
  refine .bind (update_sends (fun _ => rfl) fun _ => rfl) fun _ => ?_
  refine .require_bind fun hsmall => .bind (update_sends (fun _ => rfl) fun _ => rfl) fun _ => ?_
  refine .bind .read fun s => enqueueSpiMessage_sends (hP.usbData _ (.inr rfl) fun hempty => ?_)
  have hfits : xferredBytes.toNat < 1024 := hsmall
  have hlength := congrArg List.length hempty
  rw [SpiMessage.copyOf_payload, Buffer.length_bytesAt, UInt16.toNat_add] at hlength
  simp at hlength
  omega

theorem mscXfer_sends (edpt : UInt8) (xferredBytes : UInt16) :
    Program.Moves (Sends P) (mscXfer edpt xferredBytes) := by
  refine .bind .read fun s => .ite (mscXferOut_sends hP _ _) (.when ?_)
  exact enqueueSpiMessage_sends (hP.usbData _ (.inl rfl) (by simp [mscRead]))

theorem hidXfer_sends (edpt : UInt8) : Program.Moves (Sends P) (hidXfer edpt) :=
  .bind .read fun _ => knockOnSlaveEdpt_sends hP _ _

theorem handleSpiSlaveEventWithDriver_sends (message : SlavePacket) (edpt : UInt8) :
    Program.Moves (Sends P) (handleSpiSlaveEventWithDriver message edpt) := by
  refine .bind .read fun s => .bind (.require _ _) fun _ => .bind (.when (.stop _)) fun _ => ?_
  cases s.drivers.edptDriver (idx edpt).toNat with
  | illegal => exact .stop _
  | massStorage => exact mscSpi_sends hP message edpt
  | hid => exact hidSpi_sends message edpt

theorem handleDeviceXferCompleteWithDriver_sends (edpt : UInt8) (xferredBytes : UInt16) :
    Program.Moves (Sends P) (handleDeviceXferCompleteWithDriver edpt xferredBytes) := by
  refine .bind .read fun s => .bind (.require _ _) fun _ => ?_
  cases s.drivers.edptDriver (idx edpt).toNat with
  | illegal => exact .stop _
  | massStorage => exact mscXfer_sends hP edpt xferredBytes
  | hid => exact hidXfer_sends hP edpt

/-! ## The response to a setup packet -/

theorem handleDeviceDescriptor_sends (arr : Buffer) :
    Program.Moves (Sends P) (handleDeviceDescriptor arr) := by
  refine .bind (enqueueSpiMessage_sends (hP.packetSize _ rfl (by simp))) fun _ => ?_
  refine .bind (update_sends (fun _ => rfl) fun _ => rfl) fun _ => ?_
  exact update_sends (fun _ => rfl) fun _ => rfl

theorem handleHidReport_sends (setup : ControlRequest) :
    Program.Moves (Sends P) (handleHidReport setup) :=
  .when (.bind .read fun _ => knockOnSlaveEdpt_sends hP _ _)

/-- If the response is walked as a configuration, the property holds of the messages for the
endpoint descriptors that are reached. -/
def ResponseOpensOnly (P : SpiMessage → Prop) (s : Master) : Prop :=
  IsConfigRequest s.events.setup →
    OpensOnly P s.aggregator.bugger s.aggregator.len.toNat s.aggregator.len.toNat 0

theorem handleSetupResponse_sends {s : Master} (h : ResponseOpensOnly P s) :
    Sends P s (Program.final (handleSetupResponse s)) := by
  unfold handleSetupResponse
  rw [Program.read_bind]
  refine (Program.Moves.bind (record_sends _) fun _ => .bind (.when ?_) fun _ => .ite (.pure _)
    (.bind ?_ fun _ => handleHidReport_sends hP _)) s
  · exact handleDeviceDescriptor_sends hP _
  · by_cases hconfig : IsConfigRequest s.events.setup
    · rw [Program.when_true hconfig]
      exact walk_sends (h hconfig) _
    · rw [Program.when_false hconfig]
      exact .pure _

/-- The master once the bytes of a message are collected. -/
def Master.withResponse (s : Master) (message : SlavePacket) : Master :=
  let bugger := s.aggregator.bugger.writeAt s.aggregator.len.toNat message.data
  { s with aggregator := { s.aggregator with
      bugger := bugger, len := s.aggregator.len + message.payloadLength } }

omit hP in
/-- Collecting the bytes of a message changes nothing else but the controller. -/
theorem registerResponse_eq_ok {message : SlavePacket} {s t : Master}
    (h : registerResponse message s = .ok () t) :
    ∃ d, t = { s.withResponse message with dcd := d } := by
  obtain ⟨_, _, hread, hbody⟩ := Program.bind_eq_ok h
  cases hread
  obtain ⟨_, _, hdefined, hcopies⟩ := Program.bind_eq_ok hbody
  obtain ⟨-, rfl⟩ := Program.require_eq_ok hdefined
  obtain ⟨_, _, hcopy, hsend⟩ := Program.bind_eq_ok hcopies
  cases hcopy
  obtain ⟨_, _, hxfer, hlen⟩ := Program.bind_eq_ok hsend
  obtain ⟨d, -, rfl⟩ := Program.onPart_eq_ok hxfer
  cases hlen
  exact ⟨d, rfl⟩

/-- If the message is the last reply to a setup packet, the response it completes opens only
endpoints whose messages have the property. -/
def ReplyOpensOnly (P : SpiMessage → Prop) (s : Master) (message : SlavePacket) : Prop :=
  hasFlag message.eFlag MsgType.lastPacket → ResponseOpensOnly P (s.withResponse message)

theorem handleSetupData_sends {message : SlavePacket} {s : Master}
    (h : ReplyOpensOnly P s message) :
    Sends P s (Program.final (handleSetupData message s)) := by
  have hregister := registerResponse_sends (P := P) message s
  unfold handleSetupData
  rw [Program.bind_apply]
  cases hrun : registerResponse message s with
  | error reason t =>
      rw [hrun] at hregister
      exact hregister
  | ok value t =>
      rw [hrun] at hregister
      refine trans_of (Sends P) hregister ?_
      by_cases hlast : hasFlag message.eFlag MsgType.lastPacket
      · obtain ⟨d, rfl⟩ := registerResponse_eq_ok hrun
        rw [Program.when_true hlast]
        have hresponse := handleSetupResponse_sends hP
          (s := { s.withResponse message with dcd := d }) (h hlast)
        refine trans_of (Sends P) hresponse (Program.Moves.after (R := Sends P) _ (fun _ => ?_) _)
        refine .bind (update_sends (fun _ => rfl) fun _ => rfl) fun _ => ?_
        exact .bind .read fun _ => .when (onDcd_sends _)
      · rw [Program.when_false hlast]
        exact refl_of (Sends P) t

/-! ## The functions of the loop -/

theorem handleMessage_sends {msg : SpiMessage} {s : Master}
    (h : hasFlag msg.eFlag MsgType.setupData → ReplyOpensOnly P s (handlerPacket msg)) :
    Sends P s (Program.final (handleMessage msg s)) := by
  unfold handleMessage
  cases msg.payload.getLast? with
  | none => exact refl_of (Sends P) s
  | some epAddr =>
      show Sends P s (Program.final ((Program.require _ _ >>= _) s))
      by_cases hpacket : hasFlag msg.eFlag MsgType.isPacket
      · rw [Program.require_bind hpacket]
        by_cases hsetup : hasFlag msg.eFlag MsgType.setupData
        · rw [if_pos hsetup]
          exact handleSetupData_sends hP (h hsetup)
        · rw [if_neg hsetup]
          exact handleSpiSlaveEventWithDriver_sends hP _ _ s
      · rw [Program.require_false hpacket]
        exact refl_of (Sends P) s

/-- The message that `handle_spi_slave_event` is about to dequeue opens only endpoints whose
messages have the property. -/
def NextOpensOnly (P : SpiMessage → Prop) (s : Master) : Prop :=
  s.events.setupResponseDir = .readingResponse →
    ∀ msg ∈ (s.rx.items.dropWhile isString).head?, hasFlag msg.eFlag MsgType.setupData →
      ReplyOpensOnly P s (handlerPacket msg)

omit hP in
theorem NextOpensOnly.imp {Q : SpiMessage → Prop} {s : Master} (h : NextOpensOnly P s)
    (himp : ∀ arr pos, P (openMessage arr pos) → Q (openMessage arr pos)) : NextOpensOnly Q s :=
  fun hreading msg hmsg hsetup hlast hconfig =>
    (h hreading msg hmsg hsetup hlast hconfig).imp (himp _)

instance [DecidablePred P] (s : Master) : Decidable (ResponseOpensOnly P s) :=
  inferInstanceAs (Decidable (_ → _))

instance [DecidablePred P] (s : Master) (message : SlavePacket) :
    Decidable (ReplyOpensOnly P s message) := inferInstanceAs (Decidable (_ → _))

instance [DecidablePred P] (s : Master) : Decidable (NextOpensOnly P s) :=
  inferInstanceAs (Decidable (_ → ∀ _ ∈ _, _ → _))

omit hP in
theorem opensOnly_of_forall (h : ∀ arr pos, P (openMessage arr pos)) (arr : Buffer)
    (len fuel pos : Nat) : OpensOnly P arr len fuel pos := by
  induction fuel generalizing pos with
  | zero => exact trivial
  | succ fuel ih => exact fun _ => ⟨fun _ => h arr pos, ih _⟩

omit hP in
/-- A property that the messages for opened endpoints have anyway asks for nothing. -/
theorem nextOpensOnly_of_forall (h : ∀ arr pos, P (openMessage arr pos)) (s : Master) :
    NextOpensOnly P s :=
  fun _ _ _ _ _ _ => opensOnly_of_forall h _ _ _ _

theorem handleSpiSlaveEvent_sends {s : Master} (h : NextOpensOnly P s) :
    Sends P s (Program.final (handleSpiSlaveEvent s)) := by
  unfold handleSpiSlaveEvent
  rw [Program.read_bind]
  by_cases hwriting : s.events.setupResponseDir = .writingResponse
  · rw [if_pos hwriting]
    have hpassed : Program.Moves (Sends P) sendPacketUpstream :=
      .bind (update_sends (fun _ => rfl) fun _ => rfl) fun _ => .pure _
    have hready (done : Bool) : Program.Moves (Sends P) (Program.when done (Program.update
        fun s : Master =>
          { s with events := { s.events with setupResponseDir := .readingResponse } })) :=
      .when (update_sends (fun _ => rfl) fun _ => rfl)
    exact Program.Moves.bind hpassed hready s
  · rw [if_neg hwriting]
    have hreading : s.events.setupResponseDir = .readingResponse := by
      cases hdir : s.events.setupResponseDir with
      | readingResponse => rfl
      | writingResponse => exact absurd hdir hwriting
    have hsuffix := List.dropWhile_suffix isString (l := s.rx.items)
    cases hremove : (s.rx.dropWhile isString).remove with
    | none => exact ⟨hsuffix, [], by simp⟩
    | some taken =>
        obtain ⟨msg, rest⟩ := taken
        have hitems : s.rx.items.dropWhile isString = msg :: rest.items :=
          Fifo.remove_eq_some.mp hremove
        have hnext : Sends P s { s with rx := rest } := by
          refine ⟨(List.suffix_cons msg rest.items).trans ?_, [], by simp⟩
          rw [← hitems]
          exact hsuffix
        refine trans_of (Sends P) hnext (handleMessage_sends hP fun hsetup => ?_)
        exact h hreading msg (by simp [hitems]) hsetup

theorem dcdEventXferCompleteNew_sends (epAddr : UInt8) (xferredBytes : UInt16) :
    Program.Moves (Sends P) (dcdEventXferCompleteNew epAddr xferredBytes) :=
  .bind .read fun _ => .ite (onDcd_sends _)
    (.ite (.pure _) (handleDeviceXferCompleteWithDriver_sends hP _ _))

theorem hwHandleBuffStatusBit_sends (i : Nat) :
    Program.Moves (Sends P) (hwHandleBuffStatusBit i) := by
  refine .bind (update_sends (fun _ => rfl) fun _ => rfl) fun _ => ?_
  refine .bind (.bind (record_sends _) fun _ => onDcd_sends _) fun done => .when (.bind .read fun s => ?_)
  exact .bind (dcdEventXferCompleteNew_sends hP _ _) fun _ => onDcd_sends _

theorem dcdEventSetupReceivedNew_sends (pSetup : Buffer) :
    Program.Moves (Sends P) (dcdEventSetupReceivedNew pSetup) := by
  refine .bind (record_sends _) fun _ => ?_
  refine .bind (update_sends (fun _ => rfl) fun _ => rfl) fun _ => ?_
  refine .ite (enqueueSpiMessage_sends hP.chgAddr) (.ite (onDcd_sends _) (.ite (onDcd_sends _) ?_))
  exact enqueueSpiMessage_sends (hP.setup _ rfl (by simp [ControlRequest.toBytes]))

theorem handleBusReset_sends : Program.Moves (Sends P) handleBusReset := by
  refine .bind (update_sends (fun _ => rfl) fun _ => rfl) fun _ => .bind (onDcd_sends _) fun _ => ?_
  exact .bind (record_sends _) fun _ => enqueueSpiMessage_sends hP.reset

theorem dcdRp2040Irq_sends (ints : DcdInts) : Program.Moves (Sends P) (dcdRp2040Irq ints) := by
  refine .bind (.when (handleBusReset_sends hP)) fun _ => .bind (.when ?_) fun _ => .when ?_
  · exact .bind (onDcd_sends _) fun _ => .bind .read fun _ => dcdEventSetupReceivedNew_sends hP _
  · exact hwHandleBuffStatus_moves (hwHandleBuffStatusBit_sends hP)

end Sends

end UsbSec.Device
