import UsbSec.Device.Logs
import UsbSec.Host.Logs
import UsbSec.System.OpenedEndpoints

/-!
# Commands reach the device once and in order

The master tells the slave to send a setup packet or to start a transfer on an endpoint. The slave
carries out each of these commands once, in the order in which they were handed over, and starts
nothing else with the device but the stages of a control transfer. What the device is asked is
therefore what the host has asked, but for the requests that the master changes or keeps back.
-/

namespace UsbSec.System

open Library Link Usb

/-! ## Commands -/

/-- What the master can have the slave do with the device. -/
inductive Command where
  | setup (packet : ControlRequest)
  | transfer (epAddr : UInt8)
  deriving DecidableEq

/-- A command for a control transfer. -/
def Command.request : Command → Option ControlRequest
  | setup packet => some packet
  | transfer _ => none

/-- A transfer on an endpoint that is no control endpoint. -/
def dataTransfer (epAddr : UInt8) : Option Command :=
  if Host.IsControl epAddr then none else some (.transfer epAddr)

/-- The command in a message. Messages that are too short or too long are none: `slavework` would
read or write past a buffer. -/
def commandOf (message : SpiMessage) : Option Command :=
  if Host.messageKind message = MsgType.setupData then
    if 8 ≤ message.payload.length then
      some (.setup (.ofBuffer (Host.payloadBuffer message.payload)))
    else none
  else if Host.messageKind message = MsgType.usbData then
    if message.payload.dropLast.length ≤ Rp2040.buggerSize .slave then
      message.payload.getLast?.bind dataTransfer
    else none
  else if Host.messageKind message = MsgType.chgAddr then some (.setup Host.chgAddrSetup)
  else none

/-- The command that a call of the slave carries out. -/
def carriedOut : Host.Call → Option Command
  | .setupSend setup => some (.setup setup)
  | .edptXfer epAddr => dataTransfer epAddr
  | _ => none

/-- The commands that the slave has carried out, oldest first. -/
def carriedOutBy (s : Host.Slave) : List Command := picked Host.Slave.calls carriedOut s

/-! ## The slave carries out what it dequeues -/

/-- The slave has carried out one more command, or none. -/
abbrev CarriesOut (command : Option Command) (s t : Host.Slave) : Prop :=
  Program.Adds carriedOutBy command s t

theorem carriesOut_rule :
    Host.LogRule (Program.Same carriedOutBy) (fun made => carriedOut made = none) where
  quiet _ _ _ hcalls := picked_congr hcalls
  record _ _ h := picked_skip rfl h

theorem carriesOut_record (made : Host.Call) :
    Program.Moves (CarriesOut (carriedOut made)) (Host.record made) := fun _ => picked_concat rfl

/-- The setup packet is sent, whatever the controller does with it. -/
theorem sendSetup_carriesOut (setup : ControlRequest) :
    Program.Moves (CarriesOut (some (.setup setup))) (Host.sendSetup setup) := by
  intro s
  have hsend : Program.Moves (CarriesOut (some (.setup setup)))
      (Host.record (.setupSend setup) >>= fun _ => Program.read >>= fun s : Host.Slave =>
        Host.onHcd (Rp2040.hcdSetupSend s.devAddr setup.toBytes)) :=
    .adds_bind (carriesOut_record (.setupSend setup)) fun _ =>
      .bind .read fun _ => carriesOut_rule.onHcd _
  exact hsend { s with debugLock := true, setup := setup, level := 0 }

theorem handleSetupData_carriesOut {payload : List UInt8} (h : 8 ≤ payload.length) :
    Program.Moves (CarriesOut (some (.setup (.ofBuffer (Host.payloadBuffer payload)))))
      (Host.handleSetupData payload) := by
  intro s
  unfold Host.handleSetupData defined
  rw [Program.require_bind h]
  exact sendSetup_carriesOut _ s

theorem handleChgAddr_carriesOut :
    Program.Moves (CarriesOut (some (.setup Host.chgAddrSetup))) Host.handleChgAddr :=
  .adds_bind (sendSetup_carriesOut _) fun _ =>
    carriesOut_rule.update (fun _ => rfl) fun _ => rfl

theorem startXfer_carriesOut (devAddr epAddr : UInt8) (buffer : Rp2040.UserBuf) (buflen : UInt16) :
    Program.Moves (CarriesOut (dataTransfer epAddr)) (Host.startXfer devAddr epAddr buffer buflen) :=
  .adds_bind (carriesOut_record (.edptXfer epAddr)) fun _ => carriesOut_rule.onHcd _

/-- Bytes that fit are copied into the static buffer. -/
theorem fillBugger_ok {bytes : List UInt8} (h : bytes.length ≤ Rp2040.buggerSize .slave)
    (s : Host.Slave) :
    ∃ t, Host.fillBugger 0 bytes s = .ok () t ∧ Program.Same carriedOutBy s t := by
  have hfits : 0 + bytes.length ≤ Rp2040.buggerSize .slave := by rwa [Nat.zero_add]
  unfold Host.fillBugger defined
  rw [Program.require_bind hfits]
  exact ⟨_, rfl, rfl⟩

theorem handleUsbData_carriesOut {payload : List UInt8}
    (h : payload.dropLast.length ≤ Rp2040.buggerSize .slave) :
    Program.Moves (CarriesOut (payload.getLast?.bind dataTransfer))
      (Host.handleUsbData payload) := by
  intro s
  unfold Host.handleUsbData Host.setLevel
  rw [Program.update_bind]
  cases payload.getLast? with
  | none => exact Program.adds_none.mpr rfl
  | some epAddr =>
      obtain ⟨t, hfill, hsame⟩ := fillBugger_ok h { s with level := 3 }
      have hxfer := startXfer_carriesOut t.devAddr epAddr (.bugger 0)
        (UInt16.ofNat (payload.length - 1)) t
      dsimp only
      rw [Program.bind_ok hfill, Program.read_bind]
      exact Program.Adds.after (Eq.trans hsame rfl) hxfer

/-- A handler that reads or writes past a buffer stops before it does anything. -/
theorem handleSetupData_short {payload : List UInt8} (h : ¬ 8 ≤ payload.length) :
    Program.Moves (CarriesOut none) (Host.handleSetupData payload) := by
  intro s
  unfold Host.handleSetupData defined
  rw [Program.require_stops h]
  exact Program.adds_none.mpr rfl

theorem handleUsbData_long {payload : List UInt8}
    (h : ¬ payload.dropLast.length ≤ Rp2040.buggerSize .slave) :
    Program.Moves (CarriesOut none) (Host.handleUsbData payload) := by
  intro s
  unfold Host.handleUsbData Host.setLevel
  rw [Program.update_bind]
  cases payload.getLast? with
  | none => exact Program.adds_none.mpr rfl
  | some epAddr =>
      have hlong : ¬ 0 + payload.dropLast.length ≤ Rp2040.buggerSize .slave := by
        rwa [Nat.zero_add]
      have hstops : Host.fillBugger 0 payload.dropLast { s with level := 3 } =
          .error .undefined { s with level := 3 } := Program.require_stops hlong _ _ _
      dsimp only
      rw [Program.bind_error hstops]
      exact Program.adds_none.mpr rfl

/-- The slave carries out the command of the message it handles, and no other. -/
theorem handleMessage_carriesOut (message : SpiMessage) :
    Program.Moves (CarriesOut (commandOf message)) (Host.handleMessage message) := by
  by_cases hsetup : Host.messageKind message = MsgType.setupData
  · have hmessage : Host.handleMessage message = Host.handleSetupData message.payload := by
      unfold Host.handleMessage
      rw [hsetup, if_neg (by decide), if_neg (by decide), if_pos rfl]
    rw [hmessage, commandOf, if_pos hsetup]
    split
    · rename_i hwhole
      exact handleSetupData_carriesOut hwhole
    · rename_i hshort
      exact handleSetupData_short hshort
  by_cases huse : Host.messageKind message = MsgType.usbData
  · have hmessage : Host.handleMessage message = Host.handleUsbData message.payload := by
      unfold Host.handleMessage
      rw [huse, if_neg (by decide), if_neg (by decide), if_neg (by decide), if_pos rfl]
    rw [hmessage, commandOf, if_neg hsetup, if_pos huse]
    split
    · rename_i hfits
      exact handleUsbData_carriesOut hfits
    · rename_i hlong
      exact handleUsbData_long hlong
  by_cases haddress : Host.messageKind message = MsgType.chgAddr
  · have hmessage : Host.handleMessage message = Host.handleChgAddr := by
      unfold Host.handleMessage
      rw [haddress, if_neg (by decide), if_neg (by decide), if_neg (by decide),
        if_neg (by decide), if_pos rfl]
    rw [hmessage, commandOf, if_neg hsetup, if_neg huse, if_pos haddress]
    exact handleChgAddr_carriesOut
  · have hquiet : Program.Moves (Program.Same carriedOutBy) (Host.handleMessage message) :=
      Host.handleMessage_logs carriesOut_rule (fun h => absurd h hsetup) (fun h => absurd h huse)
        fun h => absurd h haddress
    rw [commandOf, if_neg hsetup, if_neg huse, if_neg haddress]
    exact fun s => Program.adds_none.mpr (hquiet s)

/-- Completions start nothing but the stages of a control transfer. -/
theorem hcdEventXferComplete_carriesOut (devAddr epAddr : UInt8) (xferredBytes : UInt16)
    (result : Host.XferResult) :
    Program.Moves (Program.Same carriedOutBy)
      (Host.hcdEventXferComplete devAddr epAddr xferredBytes result) := by
  have hrule := carriesOut_rule
  have hread : Program.Moves (Program.Same carriedOutBy) (Host.readResponse devAddr) :=
    .bind .read fun _ => hrule.startXfer (if_pos (by decide)) _ _ _
  have hsend (len : UInt16) (flag : UInt16) :
      Program.Moves (Program.Same carriedOutBy) (Host.sendEventToMaster len epAddr flag) := by
    refine .bind (.when (hrule.fillBugger _ _)) fun _ => .bind .read fun s => ?_
    exact .bind (hrule.recordCall rfl) fun _ => .update fun _ => rfl
  refine .bind (.require _ _) fun _ => .bind .read fun s => .bind (hrule.recordCall rfl) fun _ => ?_
  refine .ite (.ite ?_ (.ite (.ite ?_ ?_) (.pure _))) ?_
  · refine .bind (.require _ _) fun _ => .bind (.require _ _) fun _ => ?_
    exact .bind (hrule.setLevel _) fun _ => hread
  · refine .bind (hrule.setLevel _) fun _ => .bind (hrule.setDebugLock _) fun _ => ?_
    refine .bind .read fun t => .bind (.when ?_) fun _ => hsend _ _
    exact hrule.startXfer (if_pos (by decide)) _ _ _
  · exact .bind hread fun _ => hsend _ _
  · exact .bind (hrule.setDebugLock _) fun _ => hsend _ _

/-- `slavework` finds no message, or it takes the first one and carries out its command. -/
theorem slavework_carriesOut (s : Host.Slave) :
    let t := Program.final (Host.slavework s)
    (t.rx = s.rx ∧ CarriesOut none s t) ∨
      ∃ message, s.rx.items = message :: t.rx.items ∧ CarriesOut (commandOf message) s t := by
  unfold Host.slavework
  rw [Program.read_bind]
  cases hremove : s.rx.remove with
  | none => exact .inl ⟨rfl, Program.adds_none.mpr rfl⟩
  | some taken =>
      obtain ⟨message, rest⟩ := taken
      have hitems : s.rx.items = message :: rest.items := Fifo.remove_eq_some.mp hremove
      have hrx : (Program.final (Host.handleMessage message { s with rx := rest })).rx = rest :=
        Host.handleMessage_moves Host.sameRx_rule message (fun _ _ => rfl) { s with rx := rest }
      refine .inr ⟨message, ?_, handleMessage_carriesOut message { s with rx := rest }⟩
      show s.rx.items = message ::
        (Program.final (Host.handleMessage message { s with rx := rest })).rx.items
      rw [hrx]
      exact hitems

/-! ## The slave on the board -/

/-- The slave has carried out the commands of the messages that it has dequeued, and no others. -/
def CarriedInOrder (b : Board) : Prop :=
  carriedOutBy b.slave.slave = b.chips.slave.dequeued.filterMap commandOf

theorem CarriedInOrder.congr {b n : Board} (h : CarriedInOrder b)
    (hcalls : carriedOutBy n.slave.slave = carriedOutBy b.slave.slave)
    (hdequeued : n.chips.slave.dequeued = b.chips.slave.dequeued) : CarriedInOrder n := by
  unfold CarriedInOrder at *
  rw [hcalls, hdequeued, h]

theorem slavework_carriedInOrder {b : Board} (h : CarriedInOrder b) :
    CarriedInOrder (runSlave Host.slavework b) := by
  rcases slavework_carriesOut b.host.slave with ⟨hrx, hcarries⟩ | ⟨message, hitems, hcarries⟩
  · exact h.congr (Program.adds_none.mp hcarries) (take_self hrx)
  · have hdequeued : (runSlave Host.slavework b).chips.slave.dequeued =
        b.chips.slave.dequeued ++ [message] := take_first hitems
    have hcalls : carriedOutBy (runSlave Host.slavework b).slave.slave =
        carriedOutBy b.slave.slave ++ (commandOf message).toList := hcarries
    unfold CarriedInOrder at *
    rw [hcalls, hdequeued, h, filterMap_concat]

theorem CarriedInOrder.step {b n : Board} (h : CarriedInOrder b) (hstep : SlaveStep b n) :
    CarriedInOrder n := by
  cases hstep with
  | slavework hidle hnext =>
      subst hnext
      exact slavework_carriedInOrder h
  | hcdIrq hidle causes buffStatus transComplete hnext =>
      subst hnext
      refine h.congr ?_ (take_self (Host.hcdRp2040Irq_moves Host.sameRx_rule _ _ _ _))
      exact Host.hcdRp2040Irq_logs carriesOut_rule hcdEventXferComplete_carriesOut _ _ _
        b.host.slave
  | transacted hcd transaction hslave hhalted hdequeued =>
      refine h.congr ?_ hdequeued
      rw [hslave]
      exact picked_skip rfl rfl
  | other hcd hslave hhalted hdequeued =>
      refine h.congr ?_ hdequeued
      rw [hslave]
      exact picked_congr rfl

/-- In every run the slave has carried out the commands that the master has handed over, each once
and in their order, but for those that are still on their way. It has started nothing else with the
device than these and the stages of its control transfers. -/
theorem commands_of_run {masterRom slaveRom : BitVec 32} {actions : List Action} {b : Board}
    (h : Reaches masterRom slaveRom actions b) :
    (b.outbox .master).filterMap commandOf =
      carriedOutBy b.slave.slave ++ (b.undelivered .master).filterMap commandOf := by
  obtain ⟨hcarries, horder⟩ := h.invariant (I := CarriedInOrder) rfl
    fun _ _ _ hb _ hslave => hb.step hslave
  have hsplit := hcarries.outbox_eq .master
  rw [hsplit, List.filterMap_append]
  exact congrArg (· ++ _) horder.symm

/-- The slave is asked for a report and starts the read. -/
theorem readReportInOrder_commands :
    ∃ b, Reaches 0 0 (readReportInOrder ++ [.host .slavework]) b ∧
      carriedOutBy b.slave.slave = [.setup ⟨0x80, 6, 0x100, 0, 8⟩, .setup ⟨0x80, 6, 0x200, 0, 255⟩,
        .setup ⟨0x81, 6, 0x2200, 1, 8⟩, .transfer 0x81] ∧
      (b.outbox .master).filterMap commandOf =
        carriedOutBy b.slave.slave ++ (b.undelivered .master).filterMap commandOf := by
  have hends : ∃ b, Machine.run step (init 0 0) (readReportInOrder ++ [.host .slavework]) = some b ∧
      carriedOutBy b.slave.slave = [.setup ⟨0x80, 6, 0x100, 0, 8⟩, .setup ⟨0x80, 6, 0x200, 0, 255⟩,
        .setup ⟨0x81, 6, 0x2200, 1, 8⟩, .transfer 0x81] :=
    Machine.exists_run_of_any (by decide +kernel)
  obtain ⟨b, hrun, hcarried⟩ := hends
  exact ⟨b, hrun, hcarried, commands_of_run hrun⟩

/-! ## What the host has asked -/

/-- The setup packet that the device is sent when the host sends one. SET_ADDRESS becomes the
slave's own request. Two requests the master answers itself, and every other one is passed on. -/
def passedOn (setup : ControlRequest) : Option ControlRequest :=
  if Device.IsSetAddress setup then some Host.chgAddrSetup
  else if Device.IsDeviceQualifier setup ∨ Device.IsSetReport setup then none
  else some setup

/-- The setup packet that the device is sent because of a call of the master. -/
def forwarded : Device.Call → Option ControlRequest
  | .setupReceived setup => passedOn setup
  | _ => none

/-- The setup packet in a message of the master. -/
def requestOf (message : SpiMessage) : Option ControlRequest :=
  (commandOf message).bind Command.request

/-- The setup packet that the slave sends in a call. -/
def sentSetup : Host.Call → Option ControlRequest
  | .setupSend setup => some setup
  | _ => none

/-- What the master has handed over is what the host has asked. -/
def Forwards (s : Device.Master) : Prop :=
  picked Device.Master.outbox requestOf s = picked Device.Master.calls forwarded s

theorem requestOf_eq_none {message : SpiMessage}
    (hsetup : Host.messageKind message ≠ MsgType.setupData)
    (haddress : Host.messageKind message ≠ MsgType.chgAddr) : requestOf message = none := by
  unfold requestOf commandOf
  rw [if_neg hsetup, if_neg haddress]
  split
  · split
    · cases message.payload.getLast? with
      | none => rfl
      | some epAddr =>
          show (dataTransfer epAddr).bind Command.request = none
          unfold dataTransfer
          split <;> rfl
    · rfl
  · rfl

/-- A request that is forwarded arrives as it was. -/
theorem requestOf_setup {message : SpiMessage} {setup : ControlRequest}
    (hflag : message.eFlag = MsgType.setupData ||| MsgType.debugPrintAsHex)
    (hpayload : message.payload = setup.toBytes) : requestOf message = some setup := by
  have hkind : Host.messageKind message = MsgType.setupData := by
    rw [Host.messageKind, hflag]
    decide
  have hlength : message.payload.length = 8 := by
    rw [hpayload, ControlRequest.length_toBytes]
  have hwhole : 8 ≤ message.payload.length := Nat.le_of_eq hlength.symm
  unfold requestOf commandOf
  rw [if_pos hkind, if_pos hwhole, hpayload]
  exact congrArg some (ControlRequest.ofBuffer_toBytes setup)

theorem requestOf_chgAddr : requestOf (.bare MsgType.chgAddr) = some Host.chgAddrSetup := by decide

/-- No message but these two kinds, and no call but one, is of interest. -/
theorem forwards_rule : Device.LogRule (Program.Same (Device.logged requestOf forwarded))
    (fun made => ∀ setup, made ≠ .setupReceived setup)
    (fun kind => kind ≠ MsgType.setupData ∧ kind ≠ MsgType.chgAddr) where
  quiet := (Device.logRule_same requestOf forwarded).quiet
  record s made h := by
    refine (Device.logRule_same requestOf forwarded).record s made ?_
    cases made with
    | setupReceived setup => exact absurd rfl (h setup)
    | _ => rfl
  enqueue s message h :=
    (Device.logRule_same requestOf forwarded).enqueue s message fun _ hkind =>
      requestOf_eq_none (hkind ▸ h.1) (hkind ▸ h.2)

theorem forwards_of_same {α : Type} {program : Device.MasterM α}
    (h : Program.Moves (Program.Same (Device.logged requestOf forwarded)) program) :
    Program.Moves (Program.Keeps Forwards) program := by
  intro s hs
  have hsame := Prod.mk.inj (h s)
  unfold Forwards at *
  exact hsame.1.trans (hs.trans hsame.2.symm)

theorem handleSpiSlaveEvent_forwards :
    Program.Moves (Program.Keeps Forwards) Device.handleSpiSlaveEvent := by
  have hrule := forwards_rule
  have hpolicy : ∀ made : Device.Call, made.IsPolicy → ∀ setup, made ≠ .setupReceived setup := by
    intro made hmade setup
    cases hmade <;> simp
  have htransfer : ∀ made : Device.Call, made.IsTransfer →
      ∀ setup, made ≠ .setupReceived setup := by
    intro made hmade setup
    cases hmade <;> simp
  refine forwards_of_same (Device.handleSpiSlaveEvent_logs hrule (fun _ _ => rfl)
    (Device.handleMessage_logs hrule ?_ ?_))
  · refine Device.handleSetupResponse_logs hrule (by decide) (by decide) ?_ fun _ _ => ?_
    · exact Device.openEndpoint_logs hrule hpolicy (by decide)
    · exact hrule.recordCall (by simp)
  · exact Device.handleSpiSlaveEventWithDriver_logs hrule (by decide) htransfer

/-- The master forwards a request, or answers it itself. -/
theorem dcdEventSetupReceivedNew_forwards (pSetup : Buffer) :
    Program.Moves (Program.Keeps Forwards) (Device.dcdEventSetupReceivedNew pSetup) := by
  intro s hs
  let setup := ControlRequest.ofBuffer pSetup
  have hcall {t : Device.Master} (hcalls : t.calls = s.calls ++ [.setupReceived setup]) :
      picked Device.Master.calls forwarded t =
        picked Device.Master.calls forwarded s ++ (passedOn setup).toList := picked_concat hcalls
  have hquiet {t : Device.Master} (houtbox : t.outbox = s.outbox)
      (hcalls : t.calls = s.calls ++ [.setupReceived setup]) (hnone : passedOn setup = none) :
      Forwards t := by
    unfold Forwards at *
    rw [hcall hcalls, hnone, picked_congr houtbox, hs, Option.toList_none, List.append_nil]
  have hsends {t : Device.Master} {message : SpiMessage} (houtbox : t.outbox = s.outbox ++ [message])
      (hcalls : t.calls = s.calls ++ [.setupReceived setup])
      (hsame : requestOf message = passedOn setup) : Forwards t := by
    unfold Forwards at *
    rw [hcall hcalls, picked_concat houtbox, hs, hsame]
  unfold Device.dcdEventSetupReceivedNew Device.record
  dsimp only
  rw [Program.update_bind, Program.update_bind]
  split
  · rename_i haddress
    refine hsends rfl rfl ?_
    rw [requestOf_chgAddr, passedOn, if_pos haddress]
  rename_i haddress
  split
  · rename_i hqualifier
    have hnone : passedOn setup = none := by
      rw [passedOn, if_neg haddress, if_pos (.inl hqualifier)]
    unfold Device.onDcd
    rw [Program.final_onPart]
    exact hquiet rfl rfl hnone
  rename_i hqualifier
  split
  · rename_i hreport
    have hnone : passedOn setup = none := by
      rw [passedOn, if_neg haddress, if_pos (.inr hreport)]
    unfold Device.onDcd
    rw [Program.final_onPart]
    exact hquiet rfl rfl hnone
  · rename_i hreport
    refine hsends rfl rfl ?_
    have hother : ¬ (Device.IsDeviceQualifier setup ∨ Device.IsSetReport setup) :=
      not_or.mpr ⟨hqualifier, hreport⟩
    rw [passedOn, if_neg haddress, if_neg hother]
    exact requestOf_setup rfl rfl

theorem dcdRp2040Irq_forwards (ints : Device.DcdInts) :
    Program.Moves (Program.Keeps Forwards) (Device.dcdRp2040Irq ints) := by
  have hrule := forwards_rule
  refine .bind (.when ?_) fun _ => .bind (.when ?_) fun _ => .when ?_
  · exact forwards_of_same (Device.handleBusReset_logs hrule (by simp) (by decide))
  · refine .bind (forwards_of_same (hrule.onDcd _)) fun _ => .bind .read fun s => ?_
    exact dcdEventSetupReceivedNew_forwards _
  · exact forwards_of_same (Device.hwHandleBuffStatus_logs hrule (by decide) (by simp))

/-- A handler that keeps what the messages say of the calls keeps it on the board. -/
theorem runMaster_forwards {handler : Device.MasterM Unit} {b : Board}
    (h : Program.Moves (Program.Keeps Forwards) handler) (hb : Forwards b.master.master) :
    Forwards (runMaster handler b).master.master :=
  h { b.master.master with rx := b.chips.master.rx } hb

theorem step_forwards {b n : Board} (h : Forwards b.master.master) (hstep : MasterStep b n) :
    Forwards n.master.master := by
  cases hstep with
  | handleSpiSlaveEvent hidle hnext =>
      subst hnext
      exact runMaster_forwards handleSpiSlaveEvent_forwards h
  | dcdIrq hidle ints master hmaster hnext =>
      subst hnext
      exact runMaster_forwards (b := { b with master := master }) (dcdRp2040Irq_forwards ints)
        (hmaster ▸ h)
  | other dcd hdcd hmaster hhalted hdequeued =>
      rw [hmaster]
      exact h

theorem init_forwards (romWord : BitVec 32) : Forwards (Device.Master.init romWord) := by
  unfold Device.Master.init Device.onDcd
  rw [Program.final_onPart]
  rfl

/-- The control requests of the host reach the device. In every run the setup packets that the
slave has sent are those that the host has sent to the master, in their order, as the master
changes them or keeps them back, but for those that are still on their way. -/
theorem requests_of_run {masterRom slaveRom : BitVec 32} {actions : List Action} {b : Board}
    (h : Reaches masterRom slaveRom actions b) :
    b.master.master.calls.filterMap forwarded =
      b.slave.slave.calls.filterMap sentSetup ++
        (b.undelivered .master).filterMap requestOf := by
  obtain ⟨-, hforwards⟩ := h.invariant (I := fun b => Forwards b.master.master)
    (init_forwards masterRom) fun _ _ _ hb hmaster _ => step_forwards hb hmaster
  have hcommands := congrArg (List.filterMap Command.request) (commands_of_run h)
  unfold carriedOutBy picked at hcommands
  rw [List.filterMap_append, List.filterMap_filterMap, List.filterMap_filterMap,
    List.filterMap_filterMap] at hcommands
  have hsent : (fun made => (carriedOut made).bind Command.request) = sentSetup := by
    funext made
    cases made with
    | edptXfer epAddr =>
        show (dataTransfer epAddr).bind Command.request = none
        unfold dataTransfer
        split <;> rfl
    | _ => rfl
  rw [hsent] at hcommands
  exact hforwards.symm.trans hcommands

/-- The host asks for the device descriptor, sets the address, and asks for the device qualifier. -/
def threeRequests : List Action :=
  learnPacketSize ++ hostRequest ⟨0, 5, 9, 0, 0⟩ ++
    [.device (.hostSetup ⟨0x80, 6, 0x600, 0, 10⟩), .device .dcdIrq]

theorem threeRequests_requests :
    ∃ b, Reaches 0 0 threeRequests b ∧
      b.slave.slave.calls.filterMap sentSetup = [⟨0x80, 6, 0x100, 0, 8⟩] ∧
      (b.undelivered .master).filterMap requestOf = [Host.chgAddrSetup] ∧
      b.master.master.calls.filterMap forwarded =
        b.slave.slave.calls.filterMap sentSetup ++ (b.undelivered .master).filterMap requestOf := by
  have hends : ∃ b, Machine.run step (init 0 0) threeRequests = some b ∧
      (b.slave.slave.calls.filterMap sentSetup = [⟨0x80, 6, 0x100, 0, 8⟩] ∧
        (b.undelivered .master).filterMap requestOf = [Host.chgAddrSetup]) :=
    Machine.exists_run_of_any (by decide +kernel)
  obtain ⟨b, hrun, hsent, hwaits⟩ := hends
  exact ⟨b, hrun, hsent, hwaits, requests_of_run hrun⟩

end UsbSec.System
