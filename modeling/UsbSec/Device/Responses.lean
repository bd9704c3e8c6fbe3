import UsbSec.Device.Frame

/-!
# What the handlers do to the exchange with the slave

The master keeps the setup packet it received last, and collects the payloads of the replies it
dequeues until one is marked as the last; then it interprets the response. This module says for
each handler what it does to the setup packet, the response, the queue of messages and the log of
setup packets and responses.
-/

namespace UsbSec.Device

open Library Usb Rp2040

/-! ## What the log says about setup packets -/

/-- The setup packet that a call receives. -/
def Call.setup : Call → Option ControlRequest
  | .setupReceived setup => some setup
  | _ => none

/-- The setup packet and the response that a call interprets. -/
def Call.response : Call → Option (ControlRequest × List UInt8)
  | .handleSetupResponse setup response => some (setup, response)
  | _ => none

/-- The setup packets received. -/
def setups (calls : List Call) : List ControlRequest := calls.filterMap Call.setup

/-- The responses interpreted. -/
def responses (calls : List Call) : List (ControlRequest × List UInt8) :=
  calls.filterMap Call.response

@[simp] theorem setups_append (first second : List Call) :
    setups (first ++ second) = setups first ++ setups second := List.filterMap_append

@[simp] theorem responses_append (first second : List Call) :
    responses (first ++ second) = responses first ++ responses second := List.filterMap_append

/-- The response collected so far, `get_concatenated_response`. -/
def Master.collected (s : Master) : List UInt8 :=
  s.aggregator.bugger.bytesAt 0 s.aggregator.len.toNat

/-! ## What leaves the exchange alone -/

/-- The setup packet, the response and the messages received are the same. -/
structure SameExchange (s t : Master) : Prop where
  setup : t.events.setup = s.events.setup
  setupResponseDir : t.events.setupResponseDir = s.events.setupResponseDir
  collected : t.collected = s.collected
  rx : t.rx = s.rx
  setups : setups t.calls = setups s.calls
  responses : responses t.calls = responses s.calls

instance : IsPreorder Master SameExchange where
  refl _ := ⟨rfl, rfl, rfl, rfl, rfl, rfl⟩
  trans _ _ _ h k :=
    ⟨k.setup.trans h.setup, k.setupResponseDir.trans h.setupResponseDir,
      k.collected.trans h.collected, k.rx.trans h.rx, k.setups.trans h.setups,
      k.responses.trans h.responses⟩

theorem OnlyTransfers.sameExchange {s t : Master} (h : OnlyTransfers s t) : SameExchange s t := by
  obtain ⟨more, hmore, htransfer⟩ := h.calls
  have hsetups : setups more = [] := List.filterMap_eq_nil_iff.mpr fun call hcall => by
    cases htransfer call hcall <;> rfl
  have hresponses : responses more = [] := List.filterMap_eq_nil_iff.mpr fun call hcall => by
    cases htransfer call hcall <;> rfl
  refine ⟨by rw [h.events], by rw [h.events], by rw [Master.collected, h.aggregator]; rfl, h.rx,
    ?_, ?_⟩
  · rw [hmore, setups_append, hsetups, List.append_nil]
  · rw [hmore, responses_append, hresponses, List.append_nil]

theorem same_exchange_of_only_transfers {α : Type} {program : MasterM α}
    (h : Program.Moves OnlyTransfers program) : Program.Moves SameExchange program :=
  fun s => (h s).sameExchange

theorem record_same_exchange {call : Call} (hsetup : call.setup = none)
    (hresponse : call.response = none) : Program.Moves SameExchange (record call) := by
  refine Program.Moves.update fun s => ⟨rfl, rfl, rfl, rfl, ?_, ?_⟩
  · simp [setups, hsetup]
  · simp [responses, hresponse]

theorem update_same_exchange {change : Master → Master} (h : ∀ s, SameExchange s (change s)) :
    Program.Moves SameExchange (Program.update change : MasterM Unit) :=
  Program.Moves.update h

theorem onDcd_same_exchange {α : Type} (program : DcdM α) :
    Program.Moves SameExchange (onDcd program) :=
  Program.Moves.onPart fun _ _ => ⟨rfl, rfl, rfl, rfl, rfl, rfl⟩

theorem registerDriverForEdpt_same_exchange (edpt : EndpointPointer)
    (itf : Option InterfaceDescriptor) (newMps : UInt8) :
    Program.Moves SameExchange (registerDriverForEdpt edpt itf newMps) := by
  refine .bind (update_same_exchange fun _ => ⟨rfl, rfl, rfl, rfl, rfl, rfl⟩) fun _ => ?_
  cases itf with
  | none => exact .stop _
  | some descriptor =>
      refine .bind (record_same_exchange rfl rfl) fun _ => .bind (.require _ _) fun _ => ?_
      refine .bind (update_same_exchange fun _ => ⟨rfl, rfl, rfl, rfl, rfl, rfl⟩) fun _ => ?_
      refine .ite (update_same_exchange fun _ => ⟨rfl, rfl, rfl, rfl, rfl, rfl⟩) (.ite ?_ (.stop _))
      refine .bind (update_same_exchange fun _ => ⟨rfl, rfl, rfl, rfl, rfl, rfl⟩) fun _ => ?_
      exact .ite (onDcd_same_exchange _)
        (update_same_exchange fun _ => ⟨rfl, rfl, rfl, rfl, rfl, rfl⟩)

theorem openEndpoint_same_exchange (arr : Buffer) (pos : Nat) (itf : Option Nat) :
    Program.Moves SameExchange (openEndpoint arr pos itf) := by
  refine .bind (record_same_exchange rfl rfl) fun _ => .bind (onDcd_same_exchange _) fun _ => ?_
  refine .bind .read fun s => .bind (registerDriverForEdpt_same_exchange _ _ _) fun _ => ?_
  exact same_exchange_of_only_transfers (enqueueSpiMessage_only_transfers _)

theorem walk_same_exchange (arr : Buffer) (len fuel pos : Nat) (itf : Option Nat) :
    Program.Moves SameExchange (walk arr len fuel pos itf) := by
  induction fuel generalizing pos itf with
  | zero => exact .ite (.stop _) (.pure _)
  | succ fuel ih =>
      exact .ite (.bind (.when (openEndpoint_same_exchange _ _ _)) fun _ => ih _ _) (.pure _)

theorem handleDeviceDescriptor_same_exchange (arr : Buffer) :
    Program.Moves SameExchange (handleDeviceDescriptor arr) := by
  refine .bind (same_exchange_of_only_transfers (enqueueSpiMessage_only_transfers _)) fun _ => ?_
  refine .bind (update_same_exchange fun _ => ⟨rfl, rfl, rfl, rfl, rfl, rfl⟩) fun _ => ?_
  exact update_same_exchange fun _ => ⟨rfl, rfl, rfl, rfl, rfl, rfl⟩

/-! ## What the handlers do to the exchange -/

/-- The response was interpreted, and nothing else of the exchange changed. -/
structure Responded (s t : Master) : Prop where
  setup : t.events.setup = s.events.setup
  rx : t.rx = s.rx
  setups : setups t.calls = setups s.calls
  responses : responses t.calls = responses s.calls ++ [(s.events.setup, s.collected)]

theorem SameExchange.responded {s t u : Master} (h : Responded s t) (k : SameExchange t u) :
    Responded s u :=
  ⟨k.setup.trans h.setup, k.rx.trans h.rx, k.setups.trans h.setups,
    k.responses.trans h.responses⟩

theorem handleSetupResponse_responded : Program.Moves Responded handleSetupResponse := by
  intro s
  have hrecord : Responded s
      { s with calls := s.calls ++ [.handleSetupResponse s.events.setup s.collected] } :=
    ⟨rfl, rfl, by simp [Device.setups, Call.setup], by simp [Device.responses, Call.response]⟩
  refine SameExchange.responded hrecord ?_
  unfold handleSetupResponse
  simp only [Program.read_bind]
  refine Program.Moves.after_ok rfl ?_
  refine .bind (.when (handleDeviceDescriptor_same_exchange _)) fun _ => .ite (.pure _) ?_
  refine .bind (.when (walk_same_exchange _ _ _ _ _)) fun _ => ?_
  exact same_exchange_of_only_transfers (handleHidReport_only_transfers _)

/-- The bytes of a message were appended to the response. -/
structure Appended (data : List UInt8) (s t : Master) : Prop where
  setup : t.events.setup = s.events.setup
  setupResponseDir : t.events.setupResponseDir = s.events.setupResponseDir
  collected : t.collected = s.collected ++ data
  rx : t.rx = s.rx
  setups : setups t.calls = setups s.calls
  responses : responses t.calls = responses s.calls

theorem collected_append (s : Master) (message : SlavePacket)
    (hdata : message.data.length = message.payloadLength.toNat)
    (hspace : s.aggregator.len.toNat + message.payloadLength.toNat ≤ maxSetupResponseBugger) :
    Buffer.bytesAt (s.aggregator.bugger.writeAt s.aggregator.len.toNat message.data) 0
        (s.aggregator.len + message.payloadLength).toNat =
      s.collected ++ message.data := by
  have hlen : (s.aggregator.len + message.payloadLength).toNat =
      s.aggregator.len.toNat + message.data.length := by
    rw [hdata, UInt16.toNat_add, Nat.mod_eq_of_lt]
    unfold maxSetupResponseBugger at hspace
    omega
  rw [hlen, Buffer.bytesAt_add, Nat.zero_add, Buffer.bytesAt_writeAt_same,
    Buffer.bytesAt_writeAt_before _ _ (by omega)]
  rfl

theorem registerResponse_appended (message : SlavePacket)
    (hdata : message.data.length = message.payloadLength.toNat) :
    Program.Ends (Appended message.data) (registerResponse message) := by
  intro s _ t h
  obtain ⟨_, _, hread, hbody⟩ := Program.bind_eq_ok h
  cases hread
  obtain ⟨_, _, hdefined, hcopies⟩ := Program.bind_eq_ok hbody
  obtain ⟨hspace, rfl⟩ := Program.require_eq_ok hdefined
  obtain ⟨_, _, hcopy, hsend⟩ := Program.bind_eq_ok hcopies
  cases hcopy
  obtain ⟨_, _, hxfer, hlen⟩ := Program.bind_eq_ok hsend
  obtain ⟨d, -, rfl⟩ := Program.onPart_eq_ok hxfer
  cases hlen
  exact ⟨rfl, rfl, collected_append _ message hdata hspace, rfl, rfl, rfl⟩

/-- Collecting a reply interprets nothing, whether it goes through or not. -/
theorem registerResponse_same_responses (message : SlavePacket) :
    Program.Moves (Program.Same fun s => responses s.calls) (registerResponse message) := by
  refine .bind .read fun s => .bind (.require _ _) fun _ => ?_
  refine .bind (Program.Moves.update fun _ => rfl) fun _ => ?_
  refine .bind (Program.Moves.onPart fun _ _ => rfl) fun _ => ?_
  exact Program.Moves.update fun _ => rfl

/-- A reply that is not the last one was collected, or all of the response was interpreted. -/
inductive ReplyHandled (message : SlavePacket) (s t : Master) : Prop where
  | collected (hlast : ¬ hasFlag message.eFlag MsgType.lastPacket)
      (h : Appended message.data s t)
  | responded (hlast : hasFlag message.eFlag MsgType.lastPacket)
      (setup : t.events.setup = s.events.setup)
      (setupResponseDir : t.events.setupResponseDir = .writingResponse)
      (rx : t.rx = s.rx) (setups : setups t.calls = setups s.calls)

theorem handleSetupData_handled (message : SlavePacket)
    (hdata : message.data.length = message.payloadLength.toNat) :
    Program.Ends (ReplyHandled message) (handleSetupData message) := by
  intro s _ t h
  obtain ⟨_, first, hregister, hrest⟩ := Program.bind_eq_ok h
  have happended := registerResponse_appended message hdata _ _ _ hregister
  by_cases hlast : hasFlag message.eFlag MsgType.lastPacket
  · rw [Program.when_true hlast] at hrest
    obtain ⟨_, second, hresponse, hstatus⟩ := Program.bind_eq_ok hrest
    have hresponded := handleSetupResponse_responded.ok hresponse
    obtain ⟨_, third, hdir, hzero⟩ := Program.bind_eq_ok hstatus
    cases hdir
    have hsame : SameExchange _ t :=
      (Program.Moves.bind .read fun _ => .when (onDcd_same_exchange _)).ok hzero
    exact .responded hlast (hsame.setup.trans (hresponded.setup.trans happended.setup))
      hsame.setupResponseDir (hsame.rx.trans (hresponded.rx.trans happended.rx))
      (hsame.setups.trans (hresponded.setups.trans happended.setups))
  · rw [Program.when_false hlast] at hrest
    cases hrest
    exact .collected hlast happended

/-- The response was interpreted, as far as the log shows. -/
def RespondedLog (s t : Master) : Prop :=
  responses t.calls = responses s.calls ++ [(s.events.setup, s.collected)]

/-- What a reply can add to the log of responses, also when the master stops over it. -/
theorem handleSetupData_responses (message : SlavePacket)
    (hdata : message.data.length = message.payloadLength.toNat) (s : Master) :
    responses (Program.final (handleSetupData message s)).calls = responses s.calls ∨
      hasFlag message.eFlag MsgType.lastPacket ∧
        responses (Program.final (handleSetupData message s)).calls =
          responses s.calls ++ [(s.events.setup, s.collected ++ message.data)] := by
  have hregister := registerResponse_same_responses message s
  unfold handleSetupData
  rw [Program.bind_apply]
  cases hrun : registerResponse message s with
  | error reason first =>
      rw [hrun] at hregister
      exact .inl hregister
  | ok value first =>
      have happended := registerResponse_appended message hdata _ _ _ hrun
      by_cases hlast : hasFlag message.eFlag MsgType.lastPacket
      · refine .inr ⟨hlast, ?_⟩
        rw [Program.when_true hlast, ← happended.collected, ← happended.responses,
          ← happended.setup]
        have hresponse : Program.Moves RespondedLog handleSetupResponse :=
          fun s => (handleSetupResponse_responded s).responses
        refine hresponse.bind_of (S := Program.Same fun s : Master => responses s.calls)
          (fun _ => ?_) (fun s middle last hfirst hrest => Eq.trans hrest hfirst) first
        refine .bind (Program.Moves.update fun _ => rfl) fun _ => .bind .read fun _ => .when ?_
        exact Program.Moves.onPart fun _ _ => rfl
      · rw [Program.when_false hlast]
        exact .inl happended.responses

/-- The message as its handler gets it, without the endpoint address at its end. -/
def handlerPacket (msg : SpiMessage) : SlavePacket :=
  ⟨msg.eFlag, msg.payload, UInt16.ofNat (msg.payload.length - 1)⟩

theorem handlerPacket_data (msg : SpiMessage) :
    (handlerPacket msg).data = msg.payload.dropLast ∧
      (handlerPacket msg).data.length =
        (handlerPacket msg).payloadLength.toNat := by
  have hlt := msg.payload_lt
  have hlength : (UInt16.ofNat (msg.payload.length - 1)).toNat = msg.payload.length - 1 :=
    Nat.mod_eq_of_lt (by omega)
  unfold SlavePacket.data handlerPacket
  rw [hlength, ← List.dropLast_eq_take]
  exact ⟨rfl, List.length_dropLast⟩

/-- The message that `handle_spi_slave_event` is about to dequeue. -/
def Master.nextMessage (s : Master) : Option SpiMessage :=
  if s.events.setupResponseDir = .writingResponse then none
  else (s.rx.items.dropWhile isString).head?

/-- The master once it got ready for the next response. -/
def Master.passedOn (s : Master) : Master :=
  { s with
    aggregator := { s.aggregator with len := 0 }
    events := { s.events with setupResponseDir := .readingResponse } }

/-- `handle_spi_slave_event` gets ready for the next response, finds no message, or handles the next
one. -/
theorem handleSpiSlaveEvent_cases (s : Master) :
    (s.nextMessage = none ∧ (handleSpiSlaveEvent s = .ok () s.passedOn ∨
      handleSpiSlaveEvent s = .ok () { s with rx := s.rx.dropWhile isString })) ∨
    ∃ msg rest, s.nextMessage = some msg ∧ (s.rx.dropWhile isString).remove = some (msg, rest) ∧
      handleSpiSlaveEvent s = handleMessage msg { s with rx := rest } := by
  unfold handleSpiSlaveEvent Master.nextMessage
  rw [Program.read_bind]
  by_cases hwriting : s.events.setupResponseDir = .writingResponse
  · rw [if_pos hwriting, if_pos hwriting]
    exact .inl ⟨rfl, .inl rfl⟩
  · rw [if_neg hwriting, if_neg hwriting]
    cases hremove : (s.rx.dropWhile isString).remove with
    | none =>
        have hempty : s.rx.items.dropWhile isString = [] := Fifo.remove_eq_none.mp hremove
        rw [hempty]
        exact .inl ⟨rfl, .inr rfl⟩
    | some taken =>
        obtain ⟨msg, rest⟩ := taken
        have hitems : s.rx.items.dropWhile isString = msg :: rest.items :=
          Fifo.remove_eq_some.mp hremove
        rw [hitems]
        exact .inr ⟨msg, rest, rfl, rfl, rfl⟩

/-- What `handle_spi_slave_event` does to the exchange: it gets ready for the next response,
finds no message, or handles the first message that is not a text. -/
inductive EventHandled (s t : Master) : Prop where
  | passedOn (writing : s.events.setupResponseDir = .writingResponse)
      (reading : t.events.setupResponseDir = .readingResponse) (collected : t.collected = [])
      (setup : t.events.setup = s.events.setup) (rx : t.rx = s.rx)
      (setups : setups t.calls = setups s.calls)
  | idle (rx : t.rx = s.rx.dropWhile isString) (none : t.rx.items = [])
      (same : SameExchange s { t with rx := s.rx })
  | other (msg : SpiMessage) (rest : SpiQueue)
      (taken : (s.rx.dropWhile isString).remove = some (msg, rest))
      (flag : ¬ hasFlag msg.eFlag MsgType.setupData)
      (same : SameExchange { s with rx := rest } t)
  | reply (msg : SpiMessage) (rest : SpiQueue)
      (reading : s.events.setupResponseDir = .readingResponse)
      (taken : (s.rx.dropWhile isString).remove = some (msg, rest))
      (flag : hasFlag msg.eFlag MsgType.setupData)
      (handled : ReplyHandled (handlerPacket msg) { s with rx := rest } t)

theorem handleMessage_handled (msg : SpiMessage) {s t : Master}
    (h : handleMessage msg s = .ok () t) :
    (¬ hasFlag msg.eFlag MsgType.setupData ∧ SameExchange s t) ∨
      (hasFlag msg.eFlag MsgType.setupData ∧
        ReplyHandled (handlerPacket msg) s t) := by
  unfold handleMessage at h
  cases hlast : msg.payload.getLast? with
  | none =>
      rw [hlast] at h
      cases h
  | some epAddr =>
      rw [hlast] at h
      obtain ⟨_, _, hassert, hrest⟩ := Program.bind_eq_ok h
      obtain ⟨-, rfl⟩ := Program.require_eq_ok hassert
      by_cases hflag : hasFlag msg.eFlag MsgType.setupData
      · rw [if_pos hflag] at hrest
        exact .inr ⟨hflag, handleSetupData_handled _ (handlerPacket_data msg).2 _ _ _ hrest⟩
      · rw [if_neg hflag] at hrest
        exact .inl ⟨hflag,
          ((handleSpiSlaveEventWithDriver_only_transfers _ _).ok hrest).sameExchange⟩

theorem handleSpiSlaveEvent_handled {s t : Master} (h : handleSpiSlaveEvent s = .ok () t) :
    EventHandled s t := by
  obtain ⟨_, _, hread, hbody⟩ := Program.bind_eq_ok h
  cases hread
  by_cases hdir : s.events.setupResponseDir = .writingResponse
  · rw [if_pos hdir] at hbody
    cases hbody
    exact .passedOn hdir rfl rfl rfl rfl rfl
  · rw [if_neg hdir] at hbody
    have hreading : s.events.setupResponseDir = .readingResponse := by
      cases hkind : s.events.setupResponseDir with
      | readingResponse => rfl
      | writingResponse => exact absurd hkind hdir
    cases hremove : (s.rx.dropWhile isString).remove with
    | none =>
        simp only [hremove] at hbody
        cases hbody
        exact .idle rfl (Fifo.remove_eq_none.mp hremove) ⟨rfl, rfl, rfl, rfl, rfl, rfl⟩
    | some taken =>
        obtain ⟨msg, rest⟩ := taken
        simp only [hremove] at hbody
        rcases handleMessage_handled msg hbody with ⟨hflag, hsame⟩ | ⟨hflag, hreply⟩
        · exact .other msg rest hremove hflag hsame
        · exact .reply msg rest hreading hremove hflag hreply

theorem handleMessage_responses (msg : SpiMessage) (s : Master) :
    responses (Program.final (handleMessage msg s)).calls = responses s.calls ∨
      (hasFlag msg.eFlag MsgType.setupData ∧ hasFlag msg.eFlag MsgType.lastPacket) ∧
        responses (Program.final (handleMessage msg s)).calls =
          responses s.calls ++ [(s.events.setup, s.collected ++ msg.payload.dropLast)] := by
  unfold handleMessage
  cases msg.payload.getLast? with
  | none => exact .inl rfl
  | some epAddr =>
      by_cases hpacket : hasFlag msg.eFlag MsgType.isPacket
      · simp only [runtimeAssert, Program.require_true hpacket, Program.pure_bind]
        by_cases hflag : hasFlag msg.eFlag MsgType.setupData
        · rw [if_pos hflag, ← (handlerPacket_data msg).1]
          rcases handleSetupData_responses (handlerPacket msg) (handlerPacket_data msg).2 s with
            hsame | ⟨hlast, hnew⟩
          · exact .inl hsame
          · exact .inr ⟨⟨hflag, hlast⟩, hnew⟩
        · rw [if_neg hflag]
          exact .inl (handleSpiSlaveEventWithDriver_only_transfers _ _ s).sameExchange.responses
      · simp only [runtimeAssert, Program.require_false hpacket, Program.stop_bind]
        exact .inl rfl

/-- `handle_spi_slave_event` interprets a response only when it dequeues a last reply, and then
the bytes collected before followed by those of the reply. -/
theorem handleSpiSlaveEvent_responses (s : Master) :
    responses (Program.final (handleSpiSlaveEvent s)).calls = responses s.calls ∨
      ∃ msg rest, s.events.setupResponseDir = .readingResponse ∧
        (s.rx.dropWhile isString).remove = some (msg, rest) ∧
        (hasFlag msg.eFlag MsgType.setupData ∧ hasFlag msg.eFlag MsgType.lastPacket) ∧
        responses (Program.final (handleSpiSlaveEvent s)).calls =
          responses s.calls ++ [(s.events.setup, s.collected ++ msg.payload.dropLast)] := by
  unfold handleSpiSlaveEvent
  simp only [Program.read_bind]
  cases hdir : s.events.setupResponseDir with
  | writingResponse => exact .inl rfl
  | readingResponse =>
      rw [if_neg nofun]
      cases hremove : (s.rx.dropWhile isString).remove with
      | none => exact .inl rfl
      | some taken =>
          obtain ⟨msg, rest⟩ := taken
          rcases handleMessage_responses msg { s with rx := rest } with hsame | ⟨hlast, hnew⟩
          · exact .inl hsame
          · exact .inr ⟨msg, rest, rfl, rfl, hlast, hnew⟩

/-- A setup packet was received, and nothing else of the exchange changed. -/
structure SetupReceived (s t : Master) : Prop where
  setups : ∃ setup, t.events.setup = setup ∧ setups t.calls = setups s.calls ++ [setup]
  setupResponseDir : t.events.setupResponseDir = s.events.setupResponseDir
  collected : t.collected = s.collected
  rx : t.rx = s.rx

theorem SetupReceived.trans_same {s t u : Master} (h : SetupReceived s t)
    (k : SameExchange t u) : SetupReceived s u := by
  obtain ⟨setup, hsetup, hsetups⟩ := h.setups
  exact ⟨⟨setup, k.setup.trans hsetup, k.setups.trans hsetups⟩,
    k.setupResponseDir.trans h.setupResponseDir, k.collected.trans h.collected, k.rx.trans h.rx⟩

theorem handleBusReset_same_exchange : Program.Moves SameExchange handleBusReset := by
  refine .bind (update_same_exchange fun _ => ⟨rfl, rfl, rfl, rfl, rfl, rfl⟩) fun _ => ?_
  refine .bind (onDcd_same_exchange _) fun _ => .bind (record_same_exchange rfl rfl) fun _ => ?_
  exact same_exchange_of_only_transfers (enqueueSpiMessage_only_transfers _)

theorem dcdEventSetupReceivedNew_received {pSetup : Buffer} {s t : Master}
    (h : dcdEventSetupReceivedNew pSetup s = .ok () t) : SetupReceived s t := by
  obtain ⟨_, _, hrecord, hstore⟩ := Program.bind_eq_ok h
  cases hrecord
  obtain ⟨_, middle, hsetup, hanswer⟩ := Program.bind_eq_ok hstore
  have hreceived : SetupReceived s middle := by
    cases hsetup
    exact ⟨⟨_, rfl, by simp [setups, Call.setup]⟩, rfl, rfl, rfl⟩
  refine hreceived.trans_same (Program.Moves.ok (.ite ?_ (.ite ?_ (.ite ?_ ?_))) hanswer)
  · exact same_exchange_of_only_transfers (enqueueSpiMessage_only_transfers _)
  · exact onDcd_same_exchange _
  · exact onDcd_same_exchange _
  · exact same_exchange_of_only_transfers (enqueueSpiMessage_only_transfers _)

theorem handleSetupReq_received {s t : Master} (h : handleSetupReq s = .ok () t) :
    SetupReceived s t := by
  obtain ⟨_, first, hpid, hrest⟩ := Program.bind_eq_ok h
  obtain ⟨d, -, rfl⟩ := Program.onPart_eq_ok hpid
  have hreceived := dcdEventSetupReceivedNew_received hrest
  exact ⟨hreceived.setups, hreceived.setupResponseDir, hreceived.collected, hreceived.rx⟩

/-- The interrupt handler receives the setup packet when there is one. -/
theorem dcdRp2040Irq_exchange {ints : DcdInts} {s t : Master}
    (h : dcdRp2040Irq ints s = .ok () t) :
    (ints.setupReq = true ∧ SetupReceived s t) ∨ (ints.setupReq = false ∧ SameExchange s t) := by
  obtain ⟨_, first, hreset, hrest⟩ := Program.bind_eq_ok h
  obtain ⟨_, second, hsetup, hbuffers⟩ := Program.bind_eq_ok hrest
  have hfirst : SameExchange s first :=
    (Program.Moves.when handleBusReset_same_exchange).ok hreset
  have hlast : SameExchange second t :=
    (Program.Moves.when
      (same_exchange_of_only_transfers hwHandleBuffStatus_only_transfers)).ok hbuffers
  by_cases hreq : ints.setupReq = true
  · rw [Program.when_true hreq] at hsetup
    have hreceived := handleSetupReq_received hsetup
    obtain ⟨setup, hlatest, hsetups⟩ := hreceived.setups
    refine .inl ⟨hreq, SetupReceived.trans_same ⟨⟨setup, hlatest, ?_⟩, ?_, ?_, ?_⟩ hlast⟩
    · rw [hsetups, hfirst.setups]
    · exact hreceived.setupResponseDir.trans hfirst.setupResponseDir
    · exact hreceived.collected.trans hfirst.collected
    · exact hreceived.rx.trans hfirst.rx
  · rw [Program.when_false hreq] at hsetup
    cases hsetup
    exact .inr ⟨by simpa using hreq, trans_of SameExchange hfirst hlast⟩

end UsbSec.Device
