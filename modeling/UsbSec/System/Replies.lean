import UsbSec.Host.ControlRead
import UsbSec.Host.DataRead
import UsbSec.System.Requests

/-!
# Completions on the slave arrive at the drivers of the master

The slave reports each packet of a data endpoint, and the end of each response to a setup packet.
The master hands a packet to the driver of its endpoint and interprets a response that has come to
its end. What the master has done in this way is what the slave has reported, each report once and
in its order, but for the reports that are still on their way. A core 0 that stops leaves a report
half done and does nothing more.
-/

namespace UsbSec.System

open Library Link Usb

/-- What a message of the slave makes the master do. -/
inductive Arrival where
  | packet (epAddr : UInt8)
  | response
  deriving DecidableEq

/-- What a message of the slave is to the master. Texts are printed, and the replies to a setup
packet before the last one are only collected. -/
def arrivalOf (message : SpiMessage) : Option Arrival :=
  if Device.isString message then none
  else if hasFlag message.eFlag MsgType.setupData then
    if hasFlag message.eFlag MsgType.lastPacket then some .response else none
  else message.payload.getLast?.map .packet

/-- What a completed transfer on the slave is to the master. -/
def completion : Host.Call → Option Arrival
  | .xferComplete epAddr level _ result =>
      if Host.IsControl epAddr then
        if level = 1 ∧ result = .success then some .response else none
      else some (.packet epAddr)
  | _ => none

/-- What the master does in a call. -/
def arrival : Device.Call → Option Arrival
  | .mscSpi epAddr | .hidSpi epAddr => some (.packet epAddr)
  | .handleSetupResponse _ _ => some .response
  | _ => none

/-- The reports that the slave has handed over. -/
def reportsOf (s : Host.Slave) : List Arrival := picked Host.Slave.outbox arrivalOf s

/-- The completions that the slave has to report. -/
def completionsOf (s : Host.Slave) : List Arrival := picked Host.Slave.calls completion s

/-- The reports that the master has acted on. -/
def arrivalsOf (s : Device.Master) : List Arrival := picked Device.Master.calls arrival s

/-! ## The master acts on what it dequeues -/

/-- A program acts on a report, or on none if it stops. -/
def ActsOn (report : Option Arrival) (program : Device.MasterM Unit) : Prop :=
  ∀ s, Program.Outcome program s (fun _ t => Program.Adds arrivalsOf report s t)
    (fun t => Program.Adds arrivalsOf report s t ∨ Program.Same arrivalsOf s t)

theorem actsOn_of_adds {report : Option Arrival} {program : Device.MasterM Unit}
    (h : Program.Moves (Program.Adds arrivalsOf report) program) : ActsOn report program :=
  fun _ => .of_moves h (fun _ _ hadds => hadds) fun _ hadds => .inl hadds

theorem actsOn_stop {report : Option Arrival} (reason : Halt) :
    ActsOn report (Program.stop reason) := fun _ => .stop (.inr rfl)

theorem actsOn_silent {program : Device.MasterM Unit}
    (h : Program.Moves (Program.Same arrivalsOf) program) : ActsOn none program :=
  actsOn_of_adds (h.mono fun _ _ => Program.adds_none.mpr)

/-- What comes before adds nothing. -/
theorem ActsOn.after {α : Type} {report : Option Arrival} {program : Device.MasterM α}
    {next : α → Device.MasterM Unit} (h : Program.Moves (Program.Same arrivalsOf) program)
    (hnext : ∀ value, ActsOn report (next value)) : ActsOn report (program >>= next) := by
  intro s
  have hfirst : Program.Outcome program s (fun _ t => Program.Same arrivalsOf s t)
      (fun t => Program.Adds arrivalsOf report s t ∨ Program.Same arrivalsOf s t) :=
    .of_moves h (fun _ _ hsame => hsame) fun _ hsame => .inr hsame
  refine hfirst.bind fun value middle hmiddle => (hnext value middle).mono ?_ ?_
  · exact fun _ t hadds => hadds.after hmiddle
  · rintro t (hadds | hsame)
    · exact .inl (hadds.after hmiddle)
    · exact .inr (trans_of (Program.Same arrivalsOf) hmiddle hsame)

/-- What follows adds nothing. -/
theorem ActsOn.same {report : Option Arrival} {program : Device.MasterM Unit}
    {next : Unit → Device.MasterM Unit} (h : ActsOn report program)
    (hnext : ∀ value, Program.Moves (Program.Same arrivalsOf) (next value)) :
    ActsOn report (program >>= next) := by
  intro s
  refine (h s).bind fun value middle hmiddle => .of_moves (hnext value) ?_ ?_
  · exact fun _ t hsame => hmiddle.same hsame
  · exact fun t hsame => .inl (hmiddle.same hsame)

theorem arrival_rule : Device.LogRule (Program.Same arrivalsOf) (fun made => arrival made = none)
    (fun _ => True) where
  quiet _ _ _ _ hcalls := picked_congr hcalls
  record _ _ h := picked_skip rfl h
  enqueue _ _ _ := picked_congr rfl

theorem arrival_record (made : Device.Call) :
    Program.Moves (Program.Adds arrivalsOf (arrival made)) (Device.record made) :=
  fun _ => picked_concat rfl

theorem mscSpi_actsOn (message : Device.SlavePacket) (edpt : UInt8) :
    ActsOn (some (.packet edpt)) (Device.mscSpi message edpt) := by
  have hrule := arrival_rule
  refine actsOn_of_adds (.adds_bind (arrival_record (.mscSpi edpt)) fun _ => .ite ?_ ?_)
  · refine .bind .read fun s => .bind ?_ fun _ => hrule.onDcd _
    exact Device.knockOnSlaveEdpt_logs hrule trivial _ _
  · exact .bind (hrule.update (fun _ => rfl) (fun _ => rfl) fun _ => rfl) fun _ => hrule.onDcd _

theorem hidSpi_actsOn (message : Device.SlavePacket) (edpt : UInt8) :
    ActsOn (some (.packet edpt)) (Device.hidSpi message edpt) :=
  actsOn_of_adds (.adds_bind (arrival_record (.hidSpi edpt)) fun _ => arrival_rule.onDcd _)

theorem handleSpiSlaveEventWithDriver_actsOn (message : Device.SlavePacket) (edpt : UInt8) :
    ActsOn (some (.packet edpt)) (Device.handleSpiSlaveEventWithDriver message edpt) := by
  refine .after .read fun s => .after (.require _ _) fun _ => .after (.when (.stop _)) fun _ => ?_
  cases s.drivers.edptDriver (Device.idx edpt).toNat with
  | illegal => exact actsOn_stop _
  | massStorage => exact mscSpi_actsOn message edpt
  | hid => exact hidSpi_actsOn message edpt

/-- Opening endpoints and asking for transfers is nothing that a report is acted on with. -/
theorem handleSetupResponse_actsOn : ActsOn (some .response) Device.handleSetupResponse := by
  have hrule := arrival_rule
  have hpolicy : ∀ made : Device.Call, made.IsPolicy → arrival made = none := by
    intro made hmade
    cases hmade <;> rfl
  intro s
  refine Program.Outcome.read_bind (actsOn_of_adds ?_ s)
  refine .adds_bind (arrival_record (.handleSetupResponse _ _)) fun _ => .bind (.when ?_) fun _ => ?_
  · refine .bind (hrule.enqueueMessage trivial _ rfl rfl) fun _ => ?_
    refine .bind (hrule.update (fun _ => rfl) (fun _ => rfl) fun _ => rfl) fun _ => ?_
    exact hrule.update (fun _ => rfl) (fun _ => rfl) fun _ => rfl
  · refine .ite (.pure _) (.bind (.when ?_) fun _ => .when ?_)
    · refine Device.walk_logs _ (fun pos itf => ?_) _ _ _ _
      exact Device.openEndpoint_logs hrule hpolicy trivial _ _ _
    · exact .bind .read fun _ => Device.knockOnSlaveEdpt_logs hrule trivial _ _

theorem handleSetupData_actsOn (message : Device.SlavePacket) :
    ActsOn (if hasFlag message.eFlag MsgType.lastPacket then some .response else none)
      (Device.handleSetupData message) := by
  have hrule := arrival_rule
  refine .after (Device.registerResponse_logs hrule _) fun _ => ?_
  split
  · rename_i hlast
    rw [Program.when_true hlast]
    refine handleSetupResponse_actsOn.same fun _ => ?_
    refine .bind (hrule.update (fun _ => rfl) (fun _ => rfl) fun _ => rfl) fun _ => ?_
    exact .bind .read fun _ => .when (hrule.onDcd _)
  · rename_i hearly
    rw [Program.when_false hearly]
    exact actsOn_silent (.pure _)

/-- The master acts on the report that it has dequeued. -/
theorem handleMessage_actsOn {message : SpiMessage} (htext : Device.isString message = false) :
    ActsOn (arrivalOf message) (Device.handleMessage message) := by
  unfold Device.handleMessage arrivalOf
  rw [htext]
  cases message.payload.getLast? with
  | none => exact actsOn_stop _
  | some epAddr =>
      dsimp only
      refine .after (.require _ _) fun _ => ?_
      rw [if_neg Bool.false_ne_true]
      split
      · exact handleSetupData_actsOn _
      · exact handleSpiSlaveEventWithDriver_actsOn _ _

theorem sameRx_rule : Device.LogRule (Program.Same Device.Master.rx) (fun _ => True)
    (fun _ => True) where
  quiet _ _ hrx _ _ := hrx
  record _ _ _ := rfl
  enqueue _ _ _ := rfl

/-- The handler of a message takes no other one. -/
theorem handleMessage_rx (message : SpiMessage) :
    Program.Moves (Program.Same Device.Master.rx) (Device.handleMessage message) := by
  have hrule := sameRx_rule
  refine Device.handleMessage_logs hrule ?_ ?_ message
  · refine Device.handleSetupResponse_logs hrule trivial trivial (fun arr pos itf => ?_) fun _ _ => ?_
    · exact Device.openEndpoint_logs hrule (fun _ _ => trivial) trivial arr pos itf
    · exact hrule.recordCall trivial
  · exact Device.handleSpiSlaveEventWithDriver_logs hrule trivial fun _ _ => trivial

/-- Texts are no reports. -/
theorem arrivals_texts {messages : List SpiMessage}
    (h : ∀ message ∈ messages, Device.isString message = true) :
    messages.filterMap arrivalOf = [] := by
  refine List.filterMap_eq_nil_iff.mpr fun message hmem => ?_
  rw [arrivalOf, if_pos (h message hmem)]

/-- The handler takes messages from the front of `rx` and acts on their reports. If it stops, it may
not have acted on the last one. -/
def Acts (s : Device.Master) (reason : Option Halt) (t : Device.Master) : Prop :=
  ∃ front, s.rx.items = front ++ t.rx.items ∧
    arrivalsOf t <+: arrivalsOf s ++ front.filterMap arrivalOf ∧
    (reason = none → arrivalsOf t = arrivalsOf s ++ front.filterMap arrivalOf)

theorem acts_of_eq {s t : Device.Master} (reason : Option Halt) {front : List SpiMessage}
    (hrx : s.rx.items = front ++ t.rx.items)
    (heq : arrivalsOf t = arrivalsOf s ++ front.filterMap arrivalOf) : Acts s reason t :=
  ⟨front, hrx, heq ▸ List.prefix_rfl, fun _ => heq⟩

theorem acts_of_same {s t : Device.Master} (reason : Option Halt) {front : List SpiMessage}
    (hrx : s.rx.items = front ++ t.rx.items) (hsame : arrivalsOf t = arrivalsOf s)
    (hnone : front.filterMap arrivalOf = []) : Acts s reason t := by
  refine acts_of_eq reason hrx ?_
  rw [hnone, hsame, List.append_nil]

theorem handleSpiSlaveEvent_acts (s : Device.Master) :
    Acts s (stopReason (Device.handleSpiSlaveEvent s))
      (Program.final (Device.handleSpiSlaveEvent s)) := by
  have htexts : ∀ message ∈ s.rx.items.takeWhile Device.isString,
      Device.isString message = true := fun message hmem => List.mem_takeWhile_imp hmem
  have hsplit : s.rx.items = s.rx.items.takeWhile Device.isString ++
      s.rx.items.dropWhile Device.isString := List.takeWhile_append_dropWhile.symm
  unfold Device.handleSpiSlaveEvent
  rw [Program.read_bind]
  by_cases hwriting : s.events.setupResponseDir = .writingResponse
  · rw [if_pos hwriting]
    exact acts_of_same _ (List.nil_append _).symm rfl rfl
  rw [if_neg hwriting]
  cases hremove : (s.rx.dropWhile Device.isString).remove with
  | none =>
      exact acts_of_same _ hsplit rfl (arrivals_texts htexts)
  | some taken =>
      obtain ⟨message, rest⟩ := taken
      have hitems : s.rx.items.dropWhile Device.isString = message :: rest.items :=
        Fifo.remove_eq_some.mp hremove
      have htext : Device.isString message = false := by
        have hhead := List.head?_dropWhile_not Device.isString s.rx.items
        rw [hitems] at hhead
        simpa using hhead
      have hacts := handleMessage_actsOn htext { s with rx := rest }
      have hrx := handleMessage_rx message { s with rx := rest }
      let front := s.rx.items.takeWhile Device.isString ++ [message]
      have hfront : front.filterMap arrivalOf = (arrivalOf message).toList := by
        rw [filterMap_concat, arrivals_texts htexts, List.nil_append]
      have htaken : s.rx.items = front ++ rest.items := by
        rw [List.append_assoc, List.singleton_append, ← hitems]
        exact hsplit
      show Acts s (stopReason (Device.handleMessage message { s with rx := rest }))
        (Program.final (Device.handleMessage message { s with rx := rest }))
      cases hrun : Device.handleMessage message { s with rx := rest } with
      | ok value t =>
          rw [hrun] at hrx
          have hadds : arrivalsOf t = arrivalsOf s ++ (arrivalOf message).toList := hacts.ok hrun
          have hrest : t.rx = rest := hrx
          rw [← hfront] at hadds
          exact acts_of_eq _ (hrest ▸ htaken) hadds
      | error reason t =>
          rw [hrun] at hrx
          have hrest : t.rx = rest := hrx
          rcases hacts.error hrun with hadds | hsame
          · have hadds : arrivalsOf t = arrivalsOf s ++ (arrivalOf message).toList := hadds
            rw [← hfront] at hadds
            exact acts_of_eq _ (hrest ▸ htaken) hadds
          · have hsame : arrivalsOf t = arrivalsOf s := hsame
            refine ⟨front, hrest ▸ htaken, ?_, fun hnone => by cases hnone⟩
            rw [Program.final_error, hsame]
            exact List.prefix_append _ _

/-- The interrupt handler of the master acts on no report. -/
theorem dcdRp2040Irq_same (ints : Device.DcdInts) :
    Program.Moves (Program.Same fun s => (s.rx, arrivalsOf s)) (Device.dcdRp2040Irq ints) := by
  have hrule : Device.LogRule (Program.Same fun s : Device.Master => (s.rx, arrivalsOf s))
      (fun made => arrival made = none) (fun _ => True) :=
    { quiet := fun s t hrx _ hcalls => congrArg₂ Prod.mk hrx (picked_congr hcalls)
      record := fun s made h => congrArg₂ Prod.mk rfl (picked_skip rfl h)
      enqueue := fun s message _ => rfl }
  exact Device.dcdRp2040Irq_logs hrule (fun _ => rfl) rfl (fun _ _ => rfl) (fun _ _ => trivial) ints

/-! ## The slave reports its completions -/

/-- The slave has reported every completion but the last one, or every one. -/
def Owes (report : Option Arrival) (s : Host.Slave) : Prop :=
  completionsOf s = reportsOf s ++ report.toList

/-- What has been reported are the first completions. -/
def FirstReported (s : Host.Slave) : Prop := reportsOf s <+: completionsOf s

theorem Owes.first {report : Option Arrival} {s : Host.Slave} (h : Owes report s) :
    FirstReported s := by
  unfold FirstReported
  rw [h]
  exact List.prefix_append _ _

theorem owes_none {s : Host.Slave} : Owes none s ↔ completionsOf s = reportsOf s := by
  unfold Owes
  rw [Option.toList_none, List.append_nil]

theorem silent_rule :
    Host.LogRule (Program.Same fun s => (reportsOf s, completionsOf s))
      (fun made => completion made = none) := Host.logRule_same arrivalOf completion

/-- What neither reports nor completes anything leaves the slave with what it owes. -/
theorem owes_of_silent {α : Type} {report : Option Arrival} {program : Host.SlaveM α}
    (h : Program.Moves (Program.Same fun s => (reportsOf s, completionsOf s)) program) :
    Program.Leads (Owes report) (Owes report) FirstReported program := by
  have hkeeps : Program.Moves (Program.Keeps (Owes report)) program := by
    intro s hs
    obtain ⟨hreports, hcompletions⟩ := Prod.mk.inj (h s)
    unfold Owes at *
    rw [hreports, hcompletions, hs]
  exact hkeeps.leads fun _ => Owes.first

/-- What `send_event_to_master` reports. -/
def reportOf (flag : UInt16) (epAddr : UInt8) : Option Arrival :=
  if hasFlag (MsgType.isPacket ||| flag) MsgType.setupData then
    if hasFlag (MsgType.isPacket ||| flag) MsgType.lastPacket then some .response else none
  else some (.packet epAddr)

/-- A message of the slave is no text. -/
theorem arrivalOf_reply {message : SpiMessage} {flag : UInt16} {bytes : List UInt8}
    {epAddr : UInt8} (hflag : message.eFlag = MsgType.isPacket ||| flag)
    (hpayload : message.payload = bytes ++ [epAddr]) :
    arrivalOf message = reportOf flag epAddr := by
  have htext : Device.isString message = false := by
    have hpacket : hasFlag message.eFlag MsgType.isPacket := by
      rw [hflag]
      exact (hasFlag_or _ _ _).mpr (.inl (by decide))
    rw [Device.isString, beq_eq_false_iff_ne]
    intro heq
    rw [heq] at hpacket
    exact absurd hpacket (by decide)
  unfold arrivalOf reportOf
  rw [htext, if_neg Bool.false_ne_true, hflag, hpayload, List.getLast?_concat]
  rfl

/-- The report that is owed is made, or the core stops before it hands anything over. -/
theorem sendEventToMaster_reports (len : UInt16) (epAddr : UInt8) (flag : UInt16) :
    Program.Leads (Owes (reportOf flag epAddr)) (Owes none) FirstReported
      (Host.sendEventToMaster len epAddr flag) := by
  intro s hs
  by_cases hlen : len.toNat < 1000
  · obtain ⟨message, bugger, hflag, hpayload, hrun⟩ := Host.sendEventToMaster_ok hlen epAddr flag s
    refine .of_ok hrun (owes_none.mpr ?_)
    have hcompletions : completionsOf (Host.withReply s bugger message) = completionsOf s :=
      picked_skip rfl rfl
    have hreports : reportsOf (Host.withReply s bugger message) =
        reportsOf s ++ (arrivalOf message).toList := picked_concat rfl
    rw [hcompletions, hreports, arrivalOf_reply hflag hpayload, hs]
  · exact .of_error (Host.sendEventToMaster_long (Nat.le_of_not_lt hlen) epAddr flag s) hs.first

/-- A completion is owed when it is recorded. -/
theorem record_owes (made : Host.Call) :
    Program.Leads (Owes none) (Owes (completion made)) FirstReported (Host.record made) := by
  intro s hs
  show completionsOf { s with calls := s.calls ++ [made] } = reportsOf s ++ (completion made).toList
  have hcompletions : completionsOf { s with calls := s.calls ++ [made] } =
      completionsOf s ++ (completion made).toList := picked_concat rfl
  rw [hcompletions, owes_none.mp hs]

theorem startXfer_silent (devAddr epAddr : UInt8) (buffer : Rp2040.UserBuf) (buflen : UInt16) :
    Program.Moves (Program.Same fun s => (reportsOf s, completionsOf s))
      (Host.startXfer devAddr epAddr buffer buflen) := silent_rule.startXfer rfl _ _ _

/-- The data of a response are reported when they are complete. -/
theorem completeResponse_reports (devAddr epAddr : UInt8) (xferredBytes : UInt16)
    (result : Host.XferResult) :
    Program.Leads (Owes (if result = .success then some .response else none)) (Owes none)
      FirstReported (Host.completeResponse devAddr epAddr xferredBytes result) := by
  unfold Host.completeResponse
  split
  · have hreport : reportOf (MsgType.lastPacket ||| MsgType.setupData) epAddr = some .response :=
      rfl
    refine (owes_of_silent (silent_rule.setLevel _)).bind fun _ => ?_
    refine (owes_of_silent (silent_rule.setDebugLock _)).bind fun _ => ?_
    refine (owes_of_silent .read).bind fun s => ?_
    refine (owes_of_silent (.when (startXfer_silent _ _ _ _))).bind fun _ => ?_
    exact hreport ▸ sendEventToMaster_reports _ _ _
  · have hreport : reportOf MsgType.setupData epAddr = none := rfl
    refine (owes_of_silent (.bind .read fun _ => startXfer_silent _ _ _ _)).bind fun _ => ?_
    exact hreport ▸ sendEventToMaster_reports _ _ _

/-- The slave reports each completed packet, and each completed response. -/
theorem hcdEventXferComplete_reports (devAddr epAddr : UInt8) (xferredBytes : UInt16)
    (result : Host.XferResult) :
    Program.Leads (Owes none) (Owes none) FirstReported
      (Host.hcdEventXferComplete devAddr epAddr xferredBytes result) := by
  refine (owes_of_silent (.require _ _)).bind fun _ => (owes_of_silent .read).bind fun s => ?_
  refine (record_owes (.xferComplete epAddr s.level xferredBytes result)).bind fun _ => ?_
  by_cases hcontrol : Host.IsControl epAddr
  · rw [completion, if_pos hcontrol, if_pos hcontrol]
    by_cases hsetup : s.level = 0
    · have hnone : ¬ (s.level = 1 ∧ result = .success) := by simp [hsetup]
      rw [if_neg hnone, if_pos hsetup]
      refine owes_of_silent (.bind (.require _ _) fun _ => .bind (.require _ _) fun _ => ?_)
      refine .bind (silent_rule.setLevel _) fun _ => .bind .read fun _ => ?_
      exact startXfer_silent _ _ _ _
    rw [if_neg hsetup]
    by_cases hdata : s.level = 1
    · simp only [hdata, true_and, if_true]
      exact completeResponse_reports devAddr epAddr xferredBytes result
    · have hnone : ¬ (s.level = 1 ∧ result = .success) := fun h => hdata h.1
      rw [if_neg hnone, if_neg hdata]
      exact owes_of_silent (.pure _)
  · have hreport : reportOf (Host.transferFlag result) epAddr = some (.packet epAddr) := by
      cases result <;> rfl
    rw [completion, if_neg hcontrol, if_neg hcontrol]
    refine (owes_of_silent (silent_rule.setDebugLock _)).bind fun _ => ?_
    exact hreport ▸ sendEventToMaster_reports _ _ _

theorem hcdRp2040Irq_reports (causes : List Host.Cause) (buffStatus transComplete : Bool) :
    Program.Leads (Owes none) (Owes none) FirstReported
      (Host.hcdRp2040Irq causes buffStatus transComplete) :=
  Host.hcdRp2040Irq_closed (Program.closed_leads fun _ => Owes.first)
    (fun program => owes_of_silent (silent_rule.onHcd program))
    (fun _ => owes_of_silent (silent_rule.update (fun _ => rfl) fun _ => rfl))
    hcdEventXferComplete_reports causes buffStatus transComplete

/-- A message from the master is no completion. -/
theorem slavework_silent :
    Program.Moves (Program.Same fun s => (reportsOf s, completionsOf s)) Host.slavework := by
  have hsend (setup : ControlRequest) :
      Program.Moves (Program.Same fun s => (reportsOf s, completionsOf s))
        (Host.sendSetup setup) := silent_rule.sendSetup rfl
  refine .bind .read fun s => ?_
  cases s.rx.remove with
  | none => exact .pure _
  | some taken =>
      refine .bind (silent_rule.update (fun _ => rfl) fun _ => rfl) fun _ => ?_
      refine Host.handleMessage_logs silent_rule (fun _ => ?_) (fun _ => ?_) fun _ => ?_
      · exact .bind (.require _ _) fun _ => hsend _
      · refine .bind (silent_rule.setLevel _) fun _ => ?_
        cases taken.1.payload.getLast? with
        | none => exact .stop _
        | some epAddr =>
            refine .bind (silent_rule.fillBugger _ _) fun _ => .bind .read fun t => ?_
            exact startXfer_silent _ _ _ _
      · exact .bind (hsend _) fun _ => silent_rule.update (fun _ => rfl) fun _ => rfl

/-! ## Both on the board -/

/-- What the master has acted on are the reports that it has dequeued, or the first of them. -/
structure ActedInOrder (b : Board) : Prop where
  first : arrivalsOf b.master.master <+: b.chips.master.dequeued.filterMap arrivalOf
  running : b.masterHalted = none →
    arrivalsOf b.master.master = b.chips.master.dequeued.filterMap arrivalOf

/-- What the slave has reported are its completions, or the first of them. -/
structure ReportedInOrder (b : Board) : Prop where
  first : FirstReported b.slave.slave
  running : b.slave.halted = none → Owes none b.slave.slave

theorem take_front {chip : Chip} {rx : SpiQueue} {front : List SpiMessage}
    (hitems : chip.rx.items = front ++ rx.items) :
    (taken chip rx).dequeued = chip.dequeued ++ front := by
  have hlevel : chip.rx.level - rx.level = front.length := by
    unfold Fifo.level
    rw [hitems, List.length_append]
    omega
  unfold taken
  rw [hlevel, hitems]
  simp

theorem handleSpiSlaveEvent_actedInOrder {b : Board} (h : ActedInOrder b) (hidle : b.Idle .master) :
    ActedInOrder (runMaster Device.handleSpiSlaveEvent b) := by
  have hbefore := h.running hidle.2
  obtain ⟨front, hitems, hfirst, hrunning⟩ :=
    handleSpiSlaveEvent_acts { b.master.master with rx := b.chips.master.rx }
  have hdequeued : (runMaster Device.handleSpiSlaveEvent b).chips.master.dequeued.filterMap
      arrivalOf = arrivalsOf b.master.master ++ front.filterMap arrivalOf := by
    rw [hbefore, ← List.filterMap_append]
    exact congrArg _ (take_front hitems)
  exact ⟨hdequeued ▸ hfirst, fun hhalted => hdequeued ▸ hrunning hhalted⟩

theorem ActedInOrder.congr {b n : Board} (h : ActedInOrder b)
    (harrivals : arrivalsOf n.master.master = arrivalsOf b.master.master)
    (hdequeued : n.chips.master.dequeued = b.chips.master.dequeued)
    (hhalted : n.masterHalted = none → b.masterHalted = none) : ActedInOrder n := by
  refine ⟨?_, fun hrunning => ?_⟩
  · rw [harrivals, hdequeued]
    exact h.first
  · rw [harrivals, hdequeued]
    exact h.running (hhalted hrunning)

theorem ActedInOrder.step {b n : Board} (h : ActedInOrder b) (hstep : MasterStep b n) :
    ActedInOrder n := by
  cases hstep with
  | handleSpiSlaveEvent hidle hnext =>
      subst hnext
      exact handleSpiSlaveEvent_actedInOrder h hidle
  | dcdIrq hidle ints master hmaster hnext =>
      subst hnext
      obtain ⟨hrx, harrivals⟩ := Prod.mk.inj
        (dcdRp2040Irq_same ints { master.master with rx := b.chips.master.rx })
      refine h.congr (harrivals.trans ?_) (take_self hrx) fun _ => hidle.2
      rw [hmaster]
      rfl
  | other dcd hdcd hmaster hhalted hdequeued =>
      refine h.congr ?_ hdequeued fun hrunning => hhalted ▸ hrunning
      rw [hmaster]
      rfl

theorem ReportedInOrder.of_silent {b n : Board} (h : ReportedInOrder b)
    (hreports : reportsOf n.slave.slave = reportsOf b.slave.slave)
    (hcompletions : completionsOf n.slave.slave = completionsOf b.slave.slave)
    (hhalted : n.slave.halted = none → b.slave.halted = none) : ReportedInOrder n := by
  refine ⟨?_, fun hrunning => ?_⟩
  · unfold FirstReported
    rw [hreports, hcompletions]
    exact h.first
  · unfold Owes
    rw [hreports, hcompletions]
    exact h.running (hhalted hrunning)

theorem hcdRp2040Irq_reportedInOrder {b : Board} (h : ReportedInOrder b) (hidle : b.Idle .slave)
    (causes : List Host.Cause) (buffStatus transComplete : Bool) :
    ReportedInOrder (runSlave (Host.hcdRp2040Irq causes buffStatus transComplete) b) := by
  have hirq := hcdRp2040Irq_reports causes buffStatus transComplete
    { b.slave.slave with rx := b.chips.slave.rx } (h.running hidle.2)
  cases hrun : Host.hcdRp2040Irq causes buffStatus transComplete
      { b.slave.slave with rx := b.chips.slave.rx } with
  | ok value slave =>
      have hnext : (runSlave (Host.hcdRp2040Irq causes buffStatus transComplete) b).slave.slave =
          slave := congrArg Program.final hrun
      have howes : Owes none slave := hirq.ok hrun
      refine ⟨?_, fun _ => ?_⟩
      · rw [hnext]
        exact howes.first
      · rw [hnext]
        exact howes
  | error reason slave =>
      have hnext : (runSlave (Host.hcdRp2040Irq causes buffStatus transComplete) b).slave.slave =
          slave := congrArg Program.final hrun
      refine ⟨?_, fun hrunning => ?_⟩
      · rw [hnext]
        exact hirq.error hrun
      · have hstopped : (runSlave (Host.hcdRp2040Irq causes buffStatus transComplete) b).slave.halted
            = some reason := congrArg stopReason hrun
        rw [hstopped] at hrunning
        cases hrunning

theorem ReportedInOrder.step {b n : Board} (h : ReportedInOrder b) (hstep : SlaveStep b n) :
    ReportedInOrder n := by
  cases hstep with
  | slavework hidle hnext =>
      subst hnext
      obtain ⟨hreports, hcompletions⟩ := Prod.mk.inj
        (slavework_silent { b.slave.slave with rx := b.chips.slave.rx })
      exact h.of_silent hreports hcompletions fun _ => hidle.2
  | hcdIrq hidle causes buffStatus transComplete hnext =>
      subst hnext
      exact hcdRp2040Irq_reportedInOrder h hidle causes buffStatus transComplete
  | transacted hcd transaction hslave hhalted hdequeued =>
      refine h.of_silent ?_ ?_ fun hrunning => hhalted ▸ hrunning
      · rw [hslave]
        rfl
      · rw [hslave]
        exact picked_skip rfl rfl
  | other hcd hslave hhalted hdequeued =>
      refine h.of_silent ?_ ?_ fun hrunning => hhalted ▸ hrunning
      · rw [hslave]
        rfl
      · rw [hslave]
        rfl

/-- In every run the master has acted on the first completions of the slave, each once and in
order. While no core 0 has stopped, the others are on their way. -/
theorem completions_of_run {masterRom slaveRom : BitVec 32} {actions : List Action} {b : Board}
    (h : Reaches masterRom slaveRom actions b) :
    arrivalsOf b.master.master <+: completionsOf b.slave.slave ∧
      (b.masterHalted = none → b.slave.halted = none →
        completionsOf b.slave.slave =
          arrivalsOf b.master.master ++ (b.undelivered .slave).filterMap arrivalOf) := by
  have hinit : ActedInOrder (init masterRom slaveRom) ∧ ReportedInOrder (init masterRom slaveRom) := by
    have hcalls : (Device.Master.init masterRom).calls = [] := by
      unfold Device.Master.init Device.onDcd
      rw [Program.final_onPart]
      rfl
    have harrivals : arrivalsOf (init masterRom slaveRom).master.master = [] := by
      show (Device.Master.init masterRom).calls.filterMap arrival = []
      rw [hcalls]
      rfl
    refine ⟨⟨?_, fun _ => ?_⟩, List.prefix_rfl, fun _ => rfl⟩
    · rw [harrivals]
      exact List.nil_prefix
    · rw [harrivals]
      rfl
  obtain ⟨hcarries, hacted, hreported⟩ := h.invariant
    (I := fun b => ActedInOrder b ∧ ReportedInOrder b) hinit
    fun _ _ _ hb hmaster hslave => ⟨hb.1.step hmaster, hb.2.step hslave⟩
  have hsplit : reportsOf b.slave.slave = b.chips.master.dequeued.filterMap arrivalOf ++
      (b.undelivered .slave).filterMap arrivalOf := by
    rw [← List.filterMap_append]
    exact congrArg _ (hcarries.outbox_eq .slave)
  refine ⟨?_, fun hmaster hslave => ?_⟩
  · have hdequeued : b.chips.master.dequeued.filterMap arrivalOf <+: reportsOf b.slave.slave := by
      rw [hsplit]
      exact List.prefix_append _ _
    exact hacted.first.trans (hdequeued.trans hreported.first)
  · rw [owes_none.mp (hreported.running hslave), hsplit, hacted.running hmaster]

/-- The report of interface 1 arrives at the slave, which hands it over. -/
def reportArrives : List Action :=
  readReportInOrder ++ [.host .slavework,
    .host (.interruptIn 1 ⟨[1, 0, 4, 0, 0, 0, 0, 0], by decide⟩), .host .hcdIrq]

theorem reportArrives_completions :
    ∃ b, Reaches 0 0 reportArrives b ∧ b.masterHalted = none ∧ b.slave.halted = none ∧
      arrivalsOf b.master.master = [.response, .response, .response] ∧
      completionsOf b.slave.slave =
        arrivalsOf b.master.master ++ (b.undelivered .slave).filterMap arrivalOf ∧
      (b.undelivered .slave).filterMap arrivalOf = [.packet 0x81] := by
  have hends : ∃ b, Machine.run step (init 0 0) reportArrives = some b ∧
      (b.masterHalted = none ∧ b.slave.halted = none ∧
        arrivalsOf b.master.master = [.response, .response, .response] ∧
        (b.undelivered .slave).filterMap arrivalOf = [.packet 0x81]) :=
    Machine.exists_run_of_any (by decide +kernel)
  obtain ⟨b, hrun, hmaster, hslave, harrivals, hwaits⟩ := hends
  exact ⟨b, hrun, hmaster, hslave, harrivals, (completions_of_run hrun).2 hmaster hslave, hwaits⟩

end UsbSec.System
