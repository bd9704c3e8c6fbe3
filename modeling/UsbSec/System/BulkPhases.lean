import UsbSec.System.BulkTraffic

/-!
# One message at a time

While the host sends nothing but command blocks, and each only when it has the status of the one
before, a single message is on its way between the controllers: the master waits for its answer
and asks for nothing else. So a transfer on the EPX registers is over before the next one starts.
-/

namespace UsbSec.System

open Library Usb Device Host

/-- The endpoint whose transfer the master waits for. -/
def BulkPath.endpoint (path : BulkPath) : Awaited → Option BulkEndpoint
  | .nothing => none
  | .echo => some path.slave.out
  | .packet => some path.slave.into

/-- The message reports a transfer on the endpoint. Packets of the device are at most as long as
the packet size. -/
structure Answers (path : BulkPath) (e : BulkEndpoint) (message : SpiMessage) : Prop where
  report : ∃ data, ReportsTransfer message e.epAddr data ∧
    (e = path.slave.into → data.length ≤ path.interface.inSize.toNat)

/-- Where the one message is that the master waits for: it is asked for, the slave has started the
transfer, or it was handed over. -/
inductive Underway (path : BulkPath) (awaited : Awaited) :
    Option BulkEndpoint → List SpiMessage → List SpiMessage → Prop
  | nothing (nobody : path.endpoint awaited = none) : Underway path awaited none [] []
  | asked {e : BulkEndpoint} {message : SpiMessage} {data : List UInt8}
      (endpoint : path.endpoint awaited = some e) (asks : AsksOnce path.slave message e data) :
      Underway path awaited none [message] []
  | active {e : BulkEndpoint} (endpoint : path.endpoint awaited = some e) :
      Underway path awaited (some e) [] []
  | answered {e : BulkEndpoint} {message : SpiMessage} (endpoint : path.endpoint awaited = some e)
      (answers : Answers path e message) : Underway path awaited none [] [message]

/-- What was reported: every packet but the one that waits. -/
structure Accounted (first : Board) (t : Traffic) (pending : Option Carried) : Prop where
  dequeued : first.chips.master.dequeued.length = (first.outbox .slave).length
  grown : (first.outbox .slave).length ≤ t.board.chips.master.dequeued.length
  reported : ∃ done, t.carried = done ++ pending.toList ∧ Reports done (handedSince first t)

/-- The traffic between two steps. -/
structure Flows (path : BulkPath) (first : Board) (t : Traffic) (awaited : Awaited)
    (who : Option BulkEndpoint) (pending : Option Carried) (down up : List SpiMessage) : Prop where
  carries : Carries t.board t.board.chips
  stage : MasterStage path.interface t.board.master t.turn t.waiting awaited
  ready : BulkReady path.slave t.board.slave.slave.hcd
  serves : EpxServes path.slave t.board.slave.slave.hcd who pending
  underway : Underway path awaited who down up
  down : t.board.undelivered .master = down
  up : t.board.undelivered .slave = up
  accounted : Accounted first t pending

/-- The invariant of the traffic. -/
def Flowing (path : BulkPath) (first : Board) (t : Traffic) : Prop :=
  ∃ awaited who pending down up, Flows path first t awaited who pending down up

/-! ## What the invariant gives -/

section Exclusive

variable {path : BulkPath} {first : Board} {t : Traffic} {awaited : Awaited}
  {who : Option BulkEndpoint} {pending : Option Carried} {down up : List SpiMessage}

/-- The EPX bit is up just while a packet waits. -/
theorem bit_iff_pending {dev : BulkDevice} {h : Rp2040.Hcd} (hserves : EpxServes dev h who pending) :
    Rp2040.hasBits h.bufStatus (slotBit Rp2040.epx) = true ↔ pending.isSome = true := by
  rw [hserves.bufStatus]
  cases pending with
  | none => exact iff_of_false (by decide) (by simp)
  | some carried =>
      have hbit : Rp2040.hasBits (slotBit Rp2040.epx) (slotBit Rp2040.epx) = true := by decide
      exact iff_of_true hbit rfl

theorem Flows.starts (h : Flows path first t awaited who pending down up)
    {message : SpiMessage} (hhead : message ∈ t.board.chips.slave.rx.items.head?) :
    EpxFree t.board.slave.slave.hcd := by
  have hserves := h.serves
  have hrx := h.carries.rx .master
  rw [h.down] at hrx
  have hitems : message :: t.board.chips.slave.rx.items.tail = t.board.chips.slave.rx.items :=
    List.cons_head?_tail hhead
  have hne : down ≠ [] := by
    rintro rfl
    have hnil : t.board.chips.slave.rx.items = [] := List.prefix_nil.mp hrx
    rw [hnil] at hitems
    cases hitems
  cases h.underway with
  | nothing => exact absurd rfl hne
  | asked => exact hserves.free
  | active => exact absurd rfl hne
  | answered => exact absurd rfl hne

/-- The slave has handed over at least what the master has dequeued. -/
theorem Flows.handed (h : Flows path first t awaited who pending down up) :
    (first.outbox .slave).length ≤ (t.board.outbox .slave).length :=
  h.accounted.grown.trans (h.carries.dequeued .slave).length_le

theorem Flows.exclusive (h : Flows path first t awaited who pending down up) :
    Exclusive first t := by
  obtain ⟨done, hcarried, hreports⟩ := h.accounted.reported
  constructor
  case starts =>
    intro _ message hhead _
    exact h.starts hhead
  case names =>
    intro hbit
    have hsome := (bit_iff_pending h.serves).mp hbit
    obtain ⟨carried, hpending⟩ := Option.isSome_iff_exists.mp hsome
    obtain ⟨slot, hactive, haddress⟩ := h.serves.active h.ready hpending
    refine ⟨slot, hactive, carried, ?_, haddress⟩
    rw [hcarried, hpending]
    simp
  case reported =>
    cases hpending : pending with
    | none =>
        have hbit : ¬ Rp2040.hasBits t.board.slave.slave.hcd.bufStatus (slotBit Rp2040.epx) = true := by
          rw [bit_iff_pending h.serves, hpending]
          simp
        rw [if_neg hbit, hcarried, hpending]
        simpa using hreports
    | some carried =>
        have hbit : Rp2040.hasBits t.board.slave.slave.hcd.bufStatus (slotBit Rp2040.epx) = true := by
          rw [bit_iff_pending h.serves, hpending]
          rfl
        rw [if_pos hbit, hcarried, hpending]
        simpa using hreports
  case arrives =>
    have hgrown := h.accounted.grown
    have hhanded : handedSince first t = dequeuedSince first t ++ t.board.undelivered .slave := by
      unfold handedSince dequeuedSince
      rw [h.carries.outbox_eq .slave, h.accounted.dequeued]
      exact List.drop_append_of_le_length hgrown
    have hlength := hreports.length_eq
    rw [hhanded, List.length_append] at hlength
    refine ⟨(dequeuedSince first t).length, ?_⟩
    have hfront := List.forall₂_take (dequeuedSince first t).length hreports
    rw [hhanded, List.take_left] at hfront
    rw [hcarried, List.take_append_of_le_length (by omega)]
    exact hfront

end Exclusive

/-! ## Steps of the link -/

section Steps

variable {path : BulkPath} {first n : Board} {t : Traffic}

/-- Nothing is exchanged, reported or dequeued. -/
theorem Accounted.of_same {pending : Option Carried} (h : Accounted first t pending) {next : Traffic}
    (hcarried : next.carried = t.carried)
    (houtbox : next.board.outbox .slave = t.board.outbox .slave)
    (hgrown : t.board.chips.master.dequeued.length ≤ next.board.chips.master.dequeued.length) :
    Accounted first next pending where
  dequeued := h.dequeued
  grown := h.grown.trans hgrown
  reported := by
    unfold handedSince
    rw [hcarried, houtbox]
    exact h.reported

/-- The packet that waited is reported. -/
theorem Accounted.reports {carried : Carried} {message : SpiMessage}
    (h : Accounted first t (some carried)) {next : Traffic} (hcarried : next.carried = t.carried)
    (houtbox : next.board.outbox .slave = t.board.outbox .slave ++ [message])
    (hgrown : t.board.chips.master.dequeued.length ≤ next.board.chips.master.dequeued.length)
    (hhanded : (first.outbox .slave).length ≤ (t.board.outbox .slave).length)
    (hmessage : carried.ReportedBy message) : Accounted first next none where
  dequeued := h.dequeued
  grown := h.grown.trans hgrown
  reported := by
    obtain ⟨done, hdone, hreports⟩ := h.reported
    refine ⟨done ++ [carried], ?_, ?_⟩
    · rw [hcarried, hdone]
      simp
    · unfold handedSince
      rw [houtbox, List.drop_append_of_le_length hhanded]
      exact List.rel_append hreports (.cons hmessage .nil)

/-- The link moves messages along. -/
theorem Flowing.link (h : Flowing path first t) {action : Link.Action}
    (hdequeue : ∀ role, action ≠ .dequeue role) (hstep : linkStep t.board action = some n)
    (hcarries : Carries n n.chips) : Flowing path first { t with board := n } := by
  obtain ⟨awaited, who, pending, down, up, hflows⟩ := h
  obtain ⟨chips, hchips, rfl⟩ := linkStep_eq_some hstep
  obtain ⟨mail, hmail⟩ := hflows.carries.implements
  have hdequeued := linkStep_dequeued hchips hdequeue hmail.inStep
  have hsame : ∀ sender, Board.undelivered { t.board with chips := chips } sender =
      t.board.undelivered sender := by
    refine undelivered_same (fun role => ?_) hdequeued
    cases role <;> rfl
  exact ⟨awaited, who, pending, down, up, {
    carries := hcarries
    stage := hflows.stage
    ready := hflows.ready
    serves := hflows.serves
    underway := hflows.underway
    down := (hsame .master).trans hflows.down
    up := (hsame .slave).trans hflows.up
    accounted := hflows.accounted.of_same rfl rfl (congrArg List.length (hdequeued .master)).ge }⟩

/-! ## Core 0 of the slave -/

/-- What a handler of core 0 has taken from the messages for it. -/
inductive Took (rx left : SpiQueue) : List SpiMessage → List SpiMessage → Prop
  | nothing (same : left = rx) (all : List SpiMessage) : Took rx left all all
  | first {message : SpiMessage} (items : rx.items = message :: left.items)
      (rest : List SpiMessage) : Took rx left (message :: rest) rest

section Ran

variable {awaited : Awaited} {who next : Option BulkEndpoint} {pending left : Option Carried}
  {down up rest more : List SpiMessage}

/-- The traffic after a handler of the slave. -/
theorem Flows.runSlave (h : Flows path first t awaited who pending down up)
    {handler : SlaveM Unit} {s : Slave}
    (hfinal : Program.final (handler { t.board.slave.slave with rx := t.board.chips.slave.rx }) = s)
    (hcarries : Carries (runSlave handler t.board) (runSlave handler t.board).chips)
    (houtbox : s.outbox = t.board.slave.slave.outbox ++ more)
    (htook : Took t.board.chips.slave.rx s.rx down rest) (hready : BulkReady path.slave s.hcd)
    (hserves : EpxServes path.slave s.hcd next left)
    (hunderway : Underway path awaited next rest (up ++ more))
    (haccounted : Accounted first { t with board := runSlave handler t.board } left) :
    Flowing path first { t with board := runSlave handler t.board } := by
  subst hfinal
  obtain ⟨hup, hsame, hfirst⟩ := undelivered_handler .slave
    (n := System.runSlave handler t.board) h.carries rfl houtbox rfl
  refine ⟨awaited, next, left, rest, up ++ more, hcarries, h.stage, hready, hserves, hunderway, ?_,
    hup.trans (congrArg (· ++ more) h.up), haccounted⟩
  cases htook with
  | nothing hsameRx all => exact (hsame hsameRx).trans h.down
  | first hitems rest =>
      have hdown := (hfirst _ hitems).symm.trans h.down
      exact (List.cons.inj hdown).2

/-- `slavework` finds nothing, or the message that asks for a transfer. -/
theorem Flows.slavework (h : Flows path first t awaited who pending down up)
    (hstep : hostStep t.board .slavework = some n) (hcarries : Carries n n.chips) :
    Flowing path first { t with board := n } := by
  obtain ⟨-, hnext⟩ := Option.ite_none_right_eq_some.mp hstep
  cases hnext
  let s : Slave := { t.board.slave.slave with rx := t.board.chips.slave.rx }
  have hready : BulkReady path.slave s.hcd := h.ready
  have hserves : EpxServes path.slave s.hcd who pending := h.serves
  have hrx := h.carries.rx .master
  rw [h.down] at hrx
  cases hitems : t.board.chips.slave.rx.items with
  | nil =>
      have hfinal : Program.final (Host.slavework s) = s := by
        rw [slavework_rests hitems, Program.final_ok]
      refine h.runSlave hfinal hcarries (List.append_nil _).symm (.nothing rfl _) hready hserves ?_
        (h.accounted.of_same rfl ?_ (Nat.le_refl _))
      · rw [List.append_nil]
        exact h.underway
      · show (Program.final (Host.slavework s)).outbox = _
        rw [hfinal]
        rfl
  | cons message rest =>
      have hdown : (t.board.chips.chip .slave).rx.items <+: down := hrx
      rw [show (t.board.chips.chip .slave).rx.items = message :: rest from hitems] at hdown
      cases h.underway with
      | nothing => cases List.prefix_nil.mp hdown
      | active => cases List.prefix_nil.mp hdown
      | answered => cases List.prefix_nil.mp hdown
      | @asked e _ data hendpoint hasks =>
          obtain ⟨rfl, hrest⟩ := List.cons_prefix_cons.mp hdown
          obtain rfl := List.prefix_nil.mp hrest
          obtain ⟨u, hrun, hleft, houtbox, hreadyNext, hservesNext⟩ :=
            hserves.slavework_serves hready hitems hasks
          have hfinal : Program.final (Host.slavework s) = u := by rw [hrun, Program.final_ok]
          obtain rfl := hserves.nothing_pending
          refine h.runSlave hfinal hcarries (houtbox.trans (List.append_nil _).symm)
            (.first (hitems.trans (by rw [hleft])) []) hreadyNext hservesNext (.active hendpoint)
            (h.accounted.of_same rfl ?_ (Nat.le_refl _))
          show (Program.final (Host.slavework s)).outbox = _
          rw [hfinal, houtbox]
          rfl

/-- The interrupt handler reports the packet that waits, if there is one. -/
theorem Flows.hcdIrq (h : Flows path first t awaited who pending down up)
    (hstep : hostStep t.board .hcdIrq = some n) (hcarries : Carries n n.chips) :
    Flowing path first { t with board := n } := by
  obtain ⟨-, hnext⟩ := Option.ite_none_right_eq_some.mp hstep
  cases hnext
  let s : Slave := { t.board.slave.slave with rx := t.board.chips.slave.rx }
  have hready : BulkReady path.slave s.hcd := h.ready
  have hserves : EpxServes path.slave s.hcd who pending := h.serves
  obtain ⟨hrx, hreadyNext, hquiet, hreports⟩ := hserves.irq hready t.board.slave.causes rfl
  cases hpending : pending with
  | none =>
      obtain ⟨houtbox, hservesNext⟩ := hquiet hpending
      subst hpending
      refine h.runSlave rfl hcarries (houtbox.trans (List.append_nil _).symm) (.nothing hrx _)
        hreadyNext hservesNext ?_ (h.accounted.of_same rfl houtbox (Nat.le_refl _))
      rw [List.append_nil]
      exact h.underway
  | some carried =>
      obtain ⟨hservesNext, message, houtbox, hmessage⟩ := hreports carried hpending
      subst hpending
      obtain ⟨e, rfl, haddress, hfits⟩ := hserves.pending_fits
      have hanswers : Answers path e message := ⟨carried.data, haddress ▸ hmessage, hfits⟩
      cases h.underway with
      | active hendpoint =>
          exact h.runSlave rfl hcarries houtbox (.nothing hrx _) hreadyNext hservesNext
            (.answered hendpoint hanswers)
            (h.accounted.reports rfl houtbox (Nat.le_refl _) h.handed hmessage)

/-! ## The controller of the slave -/

/-- A packet is exchanged on the EPX registers. -/
theorem Flows.exchanges (h : Flows path first t awaited who pending down up) {hcd : Rp2040.Hcd}
    {carried : Carried} (transaction : Transaction) (hnone : pending = none)
    (hready : BulkReady path.slave hcd)
    (hserves : EpxServes path.slave hcd who (some carried)) {m : Host.Core0}
    (htransact : transact transaction (some hcd) t.board.slave = some m)
    (hcarries : Carries { t.board with slave := m } t.board.chips) :
    Flowing path first
      { t with board := { t.board with slave := m }, carried := t.carried ++ [carried] } := by
  cases htransact
  subst hnone
  refine ⟨awaited, who, some carried, down, up, hcarries, h.stage, hready, hserves, h.underway,
    h.down, h.up, h.accounted.dequeued, h.accounted.grown, ?_⟩
  obtain ⟨done, hcarried, hreports⟩ := h.accounted.reported
  refine ⟨done, ?_, hreports⟩
  rw [hcarried]
  simp

theorem Flows.packetIn (h : Flows path first t awaited who pending down up) {packet : Packet}
    (hfits : packet.bytes.length ≤ path.interface.inSize.toNat)
    (hends : EndsRead t.board.slave.slave.hcd packet)
    (hstep : hostStep t.board (.packetIn packet) = some n) (hcarries : Carries n n.chips) :
    Flowing path first { t with
      board := n
      carried := t.carried ++ [⟨addressedEndpoint t.board.slave.slave.hcd, packet.bytes⟩] } := by
  obtain ⟨m, htransact, rfl⟩ := Option.map_eq_some_iff.mp hstep
  obtain ⟨hcd, hreceive, -⟩ := Option.map_eq_some_iff.mp htransact
  obtain ⟨hnone, hready, hserves⟩ := h.serves.receives h.ready hfits hends hreceive
  refine h.exchanges .packetIn hnone hready hserves ?_ hcarries
  rw [← hreceive]
  exact htransact

theorem Flows.packetOut (h : Flows path first t awaited who pending down up)
    (hstep : hostStep t.board .packetOut = some n) (hcarries : Carries n n.chips) :
    Flowing path first { t with
      board := n
      carried := t.carried ++ [⟨addressedEndpoint t.board.slave.slave.hcd,
        epxBytes t.board.slave.slave.hcd⟩] } := by
  obtain ⟨m, htransact, rfl⟩ := Option.map_eq_some_iff.mp hstep
  obtain ⟨hcd, hsend, -⟩ := Option.map_eq_some_iff.mp htransact
  obtain ⟨hnone, hready, hserves⟩ := h.serves.sends h.ready hsend
  refine h.exchanges .packetOut hnone hready hserves ?_ hcarries
  rw [← hsend]
  exact htransact

/-- Other events of the slave do not touch the traffic. -/
theorem Flows.slaveSame (h : Flows path first t awaited who pending down up) {m : Host.Core0}
    (hsame : m.slave = t.board.slave.slave)
    (hcarries : Carries { t.board with slave := m } t.board.chips) :
    Flowing path first { t with board := { t.board with slave := m } } := by
  have houtbox : ∀ role, Board.outbox { t.board with slave := m } role = t.board.outbox role := by
    intro role
    cases role with
    | master => rfl
    | slave => exact congrArg Slave.outbox hsame
  have hundelivered := undelivered_same (n := { t.board with slave := m }) houtbox fun _ => rfl
  refine ⟨awaited, who, pending, down, up, hcarries, h.stage, ?_, ?_, h.underway,
    (hundelivered .master).trans h.down, (hundelivered .slave).trans h.up,
    h.accounted.of_same rfl (houtbox .slave) (Nat.le_refl _)⟩
  · show BulkReady path.slave m.slave.hcd
    rw [hsame]
    exact h.ready
  · show EpxServes path.slave m.slave.hcd who pending
    rw [hsame]
    exact h.serves

/-! ## Core 0 of the master -/

/-- The traffic after a handler of the master. -/
theorem Flows.runMaster (h : Flows path first t awaited who pending down up) {next : Traffic}
    {rx : SpiQueue} {later : Awaited} (hslave : next.board.slave = t.board.slave)
    (hchips : next.board.chips = t.board.chips.setChip .master (taken t.board.chips.master rx))
    (houtbox : next.board.master.master.outbox = t.board.master.master.outbox ++ more)
    (hcarried : next.carried = t.carried) (hcarries : Carries next.board next.board.chips)
    (htook : Took t.board.chips.master.rx rx up rest)
    (hstage : MasterStage path.interface next.board.master next.turn next.waiting later)
    (hunderway : Underway path later who (down ++ more) rest) : Flowing path first next := by
  have hother : next.board.outbox .slave = t.board.outbox .slave :=
    congrArg (fun m : Host.Core0 => m.slave.outbox) hslave
  obtain ⟨hdown, hsame, hfirst⟩ := undelivered_handler .master h.carries hchips houtbox hother
  have hgrown : t.board.chips.master.dequeued.length ≤
      next.board.chips.master.dequeued.length := by
    rw [hchips]
    show _ ≤ (taken t.board.chips.master rx).dequeued.length
    unfold taken
    simp
  refine ⟨later, who, pending, down ++ more, rest, hcarries, hstage, ?_, ?_, hunderway,
    hdown.trans (congrArg (· ++ more) h.down), ?_, h.accounted.of_same hcarried hother hgrown⟩
  · rw [hslave]
    exact h.ready
  · rw [hslave]
    exact h.serves
  · cases htook with
    | nothing hsameRx all => exact (hsame hsameRx).trans h.up
    | first hitems rest =>
        have hup := (hfirst _ hitems).symm.trans h.up
        exact (List.cons.inj hup).2

/-- The message with which the driver asks for the first packet. -/
theorem knock_asks (path : BulkPath) (len : UInt8) :
    AsksOnce path.slave (knock path.interface.epIn len) path.slave.into
      (List.replicate len.toNat 0) where
  asks := ⟨show (MsgType.usbData ||| MsgType.debugPrintAsHex) &&& ~~~MsgType.debugPrintAsHex =
    MsgType.usbData by decide, rfl⟩
  one := by
    have hlt := len.toNat_lt
    refine .inl ⟨rfl, ?_⟩
    rw [List.length_replicate]
    omega

/-- The message with which the driver asks for the next packet. -/
theorem mscRead_asksOnce (path : BulkPath) :
    AsksOnce path.slave (mscRead path.interface.epIn) path.slave.into (List.replicate 64 0) where
  asks := ⟨show MsgType.usbData &&& ~~~MsgType.debugPrintAsHex = MsgType.usbData by decide, rfl⟩
  one := .inl ⟨rfl, by simp⟩

/-- The report of a packet is the message that the master reads it from. -/
theorem report_eq {message : SpiMessage} {dev : StorageInterface} {packet : Packet}
    (h : ReportsTransfer message dev.epIn packet.bytes) : message = packetReport dev packet := by
  obtain ⟨hflag, hpayload⟩ := h
  cases message
  cases hflag
  cases hpayload
  rfl

/-- `handle_spi_slave_event` finds nothing, or the message that the master waits for. -/
theorem Flows.handle (h : Flows path first t awaited who pending down up) (hturn : t.turn = .handle)
    (hstep : deviceStep t.board .handleSpiSlaveEvent = some n) (hcarries : Carries n n.chips) :
    Flowing path first { t with board := n, turn := .irq } := by
  obtain ⟨-, hnext⟩ := Option.ite_none_right_eq_some.mp hstep
  cases hnext
  have hstage : MasterStage path.interface t.board.device .handle t.waiting awaited :=
    hturn ▸ h.stage.of_rx t.board.chips.master.rx
  have hrx := h.carries.rx .slave
  rw [h.up] at hrx
  -- What follows from the state in which the handler ends.
  have hends {u : Master} {later : Awaited} {rest more : List SpiMessage}
      (hrun : handleSpiSlaveEvent t.board.device.master = .ok () u)
      (houtbox : u.outbox = t.board.master.master.outbox ++ more)
      (htook : Took t.board.chips.master.rx u.rx up rest)
      (hstageNext : MasterStage path.interface { t.board.device with master := u } .irq t.waiting later)
      (hunderway : Underway path later who (down ++ more) rest) :
      Flowing path first
        { t with board := System.runMaster handleSpiSlaveEvent t.board, turn := .irq } := by
    have hfinal : Program.final (handleSpiSlaveEvent t.board.device.master) = u := by
      rw [hrun, Program.final_ok]
    subst hfinal
    exact h.runMaster rfl rfl houtbox rfl hcarries htook hstageNext hunderway
  cases hitems : t.board.chips.master.rx.items with
  | nil =>
      have hrun := handleSpiSlaveEvent_rests hstage.mounted hitems
      refine hends hrun (List.append_nil _).symm (.nothing rfl up) hstage.irqNext ?_
      rw [List.append_nil]
      exact h.underway
  | cons message others =>
      have hup : (t.board.chips.chip .master).rx.items <+: up := hrx
      rw [show (t.board.chips.chip .master).rx.items = message :: others from hitems] at hup
      cases h.underway with
      | nothing => cases List.prefix_nil.mp hup
      | active => cases List.prefix_nil.mp hup
      | asked => cases List.prefix_nil.mp hup
      | @answered e _ hendpoint hanswers =>
          obtain ⟨rfl, hrest⟩ := List.cons_prefix_cons.mp hup
          obtain rfl := List.prefix_nil.mp hrest
          obtain ⟨data, hreport, hfits⟩ := hanswers.report
          cases awaited with
          | nothing => cases hendpoint
          | echo =>
              cases hendpoint
              have hlast : message.payload.getLast? = some path.interface.epOut := by
                rw [hreport.payload]
                simp [BulkPath.slave]
              obtain ⟨u, hrun, hleft, hstageNext, len, houtbox⟩ :=
                hstage.handle_echo hitems hreport.flag hlast
              exact hends hrun houtbox (.first (hitems.trans (by rw [hleft])) []) hstageNext
                (.asked rfl (knock_asks path len))
          | packet =>
              cases hendpoint
              have hsize := hfits rfl
              have hlimit := path.in_size
              let packet : Packet := ⟨data, by omega⟩
              have hmessage : message = packetReport path.interface packet := report_eq hreport
              have hread : t.board.device.master.rx.items = [packetReport path.interface packet] :=
                hitems.trans (by rw [hmessage])
              have hshort : packet.bytes.length ≤ 64 := hsize.trans hlimit
              obtain ⟨u, hrun, hleft, houtbox, hstageNext⟩ :=
                hstage.handle_packet hread hshort hsize
              exact hends hrun (houtbox.trans (List.append_nil _).symm)
                (.first (hitems.trans (by rw [hleft])) []) hstageNext (.nothing rfl)

/-- The message kind of what the master hands over when it asks for data. -/
theorem kind_of_asks : MasterSends fun message =>
    hasFlag message.eFlag MsgType.usbData → messageKind message = MsgType.usbData where
  reset := by decide
  chgAddr := by decide
  setup message hflag _ := by
    intro hdata
    rw [hflag] at hdata
    exact absurd hdata (by decide)
  packetSize message hflag _ := by
    intro hdata
    rw [hflag] at hdata
    exact absurd hdata (by decide)
  usbData message hflag _ := by
    unfold messageKind
    rcases hflag with hflag | hflag
    · rw [hflag]
      decide
    · rw [hflag]
      decide

/-- A block that the interrupt handler forwards asks for one transfer on the OUT endpoint. -/
theorem write_asksOnce {path : BulkPath} {m : Device.Core0} {s : Master} {block : List UInt8}
    {message : SpiMessage} (hrun : dcdRp2040Irq m.ints m.master = .ok () s)
    (houtbox : s.outbox = m.master.outbox ++ [message]) (hlength : block.length = 31)
    (hasks : AsksWrite path.interface message) (hpayload : message.payload = block ++ [path.interface.epOut]) :
    AsksOnce path.slave message path.slave.out block := by
  have hsends := dcdRp2040Irq_sends kind_of_asks m.ints m.master
  obtain ⟨-, added, hadded, hkinds⟩ := hsends
  have hfinal : (Program.final (dcdRp2040Irq m.ints m.master)).outbox =
      m.master.outbox ++ [message] := by
    rw [hrun]
    exact houtbox
  have hsame : added = [message] := List.append_cancel_left (hadded.symm.trans hfinal)
  have hkind := hkinds message (by rw [hsame]; exact List.mem_cons_self) hasks.1
  have hout := path.out_size
  refine ⟨⟨hkind, hpayload⟩, .inr ⟨rfl, by omega, ?_⟩⟩
  show block.length ≤ path.outSize.toNat
  omega

/-- The interrupt handler forwards a block, or asks for the next packet, or has nothing to ask. -/
theorem Flows.dcdIrq (h : Flows path first t awaited who pending down up)
    (hstep : deviceStep t.board .dcdIrq = some n) (hcarries : Carries n n.chips) :
    Flowing path first { t with board := n, turn := .handle } := by
  obtain ⟨-, hnext⟩ := Option.ite_none_right_eq_some.mp hstep
  cases hnext
  have hstage : MasterStage path.interface t.board.device t.turn t.waiting awaited :=
    h.stage.of_rx t.board.chips.master.rx
  obtain ⟨u, requests, later, hrun, hrx, houtbox, hasks, hstageNext⟩ := hstage.irq
  have hfinal : Program.final (dcdRp2040Irq t.board.master.ints t.board.device.master) = u :=
    (congrArg Program.final hrun).trans (Program.final_ok _ _)
  have hends (hunderway : Underway path later who (down ++ requests) up) :
      Flowing path first { t with
        board := System.runMaster (dcdRp2040Irq t.board.master.ints) { t.board with
          master := { t.board.master with busReset := false, setupReq := false } }
        turn := .handle } := by
    subst hfinal
    exact h.runMaster rfl rfl houtbox rfl hcarries (.nothing hrx up) hstageNext hunderway
  cases hasks with
  | none =>
      refine hends ?_
      rw [List.append_nil]
      exact h.underway
  | @write block message hlength hasks hpayload =>
      refine hends ?_
      have hone : AsksOnce path.slave message path.slave.out block :=
        write_asksOnce hrun houtbox hlength hasks hpayload
      cases h.underway with
      | nothing => exact Underway.asked (e := path.slave.out) rfl hone
      | asked hendpoint => cases hendpoint
      | active hendpoint => cases hendpoint
      | answered hendpoint => cases hendpoint
  | read =>
      refine hends ?_
      cases h.underway with
      | nothing => exact .asked rfl (mscRead_asksOnce path)
      | asked hendpoint => cases hendpoint
      | active hendpoint => cases hendpoint
      | answered hendpoint => cases hendpoint

/-! ## The host -/

/-- The host exchanges a packet with the master. -/
theorem Flows.hostSide (h : Flows path first t awaited who pending down up) {m : Device.Core0}
    {turn : Turn} {waiting : Bool} (hrx : m.master.outbox = t.board.master.master.outbox)
    (hstage : MasterStage path.interface m turn waiting awaited)
    (hcarries : Carries { t.board with master := m } t.board.chips) :
    Flowing path first
      { t with board := { t.board with master := m }, turn := turn, waiting := waiting } := by
  have houtbox : ∀ role, Board.outbox { t.board with master := m } role = t.board.outbox role := by
    intro role
    cases role with
    | master => exact hrx
    | slave => rfl
  have hundelivered := undelivered_same (n := { t.board with master := m }) houtbox fun _ => rfl
  exact ⟨awaited, who, pending, down, up, hcarries, hstage, h.ready, h.serves, h.underway,
    (hundelivered .master).trans h.down, (hundelivered .slave).trans h.up,
    h.accounted.of_same rfl rfl (Nat.le_refl _)⟩

end Ran

/-! ## Runs -/

/-- The step of the board in a step of the traffic. -/
theorem trafficStep_board {next : Traffic} {action : Action}
    (hstep : trafficStep t action = some next) : step t.board action = some next.board := by
  unfold trafficStep at hstep
  split at hstep
  case h_1 | h_2 =>
    obtain ⟨-, hmap⟩ := Option.ite_none_right_eq_some.mp hstep
    obtain ⟨n, hboard, rfl⟩ := Option.map_eq_some_iff.mp hmap
    exact hboard
  all_goals
    obtain ⟨n, hboard, rfl⟩ := Option.map_eq_some_iff.mp hstep
    exact hboard

/-- What an event of the master keeps. -/
theorem Flows.device {event : Device.Event} {awaited : Awaited} {who : Option BulkEndpoint}
    {pending : Option Carried} {down up : List SpiMessage} {next : Traffic}
    (h : Flows path first t awaited who pending down up) (hbulk : BulkOnly path (.device event))
    (hblocks : BlocksOnly t (.device event)) (hcarries : Carries next.board next.board.chips)
    (hstep : trafficStep t (.device event) = some next) : Flowing path first next := by
  cases event with
  | handleSpiSlaveEvent =>
      obtain ⟨hturn, hmap⟩ := Option.ite_none_right_eq_some.mp hstep
      obtain ⟨n, hboard, rfl⟩ := Option.map_eq_some_iff.mp hmap
      exact h.handle hturn hboard hcarries
  | dcdIrq =>
      obtain ⟨-, hmap⟩ := Option.ite_none_right_eq_some.mp hstep
      obtain ⟨n, hboard, rfl⟩ := Option.map_eq_some_iff.mp hmap
      exact h.dcdIrq hboard hcarries
  | receive message => cases hstep
  | hostSetup packet => exact hbulk.elim
  | hostReset => exact hbulk.elim
  | hostIn num =>
      cases hbulk
      obtain ⟨n, hboard, rfl⟩ := Option.map_eq_some_iff.mp hstep
      obtain ⟨m, hdevice, rfl⟩ := Option.map_eq_some_iff.mp hboard
      obtain ⟨rfl, hstage⟩ := h.stage.hostIn hdevice
      obtain ⟨dcd, -, rfl⟩ := Option.map_eq_some_iff.mp hdevice
      exact h.hostSide rfl hstage hcarries
  | hostOut num packet =>
      cases hbulk
      obtain ⟨hlength, hwaiting⟩ := hblocks
      obtain ⟨n, hboard, rfl⟩ := Option.map_eq_some_iff.mp hstep
      obtain ⟨m, hdevice, rfl⟩ := Option.map_eq_some_iff.mp hboard
      have hstage := h.stage
      rw [hwaiting] at hstage
      obtain ⟨rfl, hnext⟩ := hstage.hostOut hlength hdevice
      obtain ⟨dcd, -, rfl⟩ := Option.map_eq_some_iff.mp hdevice
      exact h.hostSide rfl hnext hcarries

/-- What an event of the slave keeps. -/
theorem Flows.host {event : Host.Event} {awaited : Awaited} {who : Option BulkEndpoint}
    {pending : Option Carried} {down up : List SpiMessage} {next : Traffic}
    (h : Flows path first t awaited who pending down up) (hbulk : BulkOnly path (.host event))
    (hblocks : BlocksOnly t (.host event)) (hcarries : Carries next.board next.board.chips)
    (hstep : trafficStep t (.host event) = some next) : Flowing path first next := by
  have hboard : hostStep t.board event = some next.board := trafficStep_board hstep
  cases event with
  | slavework =>
      obtain ⟨n, -, rfl⟩ := Option.map_eq_some_iff.mp hstep
      exact h.slavework hboard hcarries
  | hcdIrq =>
      obtain ⟨n, -, rfl⟩ := Option.map_eq_some_iff.mp hstep
      exact h.hcdIrq hboard hcarries
  | receive message => cases hboard
  | setupSent =>
      obtain ⟨m, htransact, -⟩ := Option.map_eq_some_iff.mp hboard
      obtain ⟨hcd, hsetup, -⟩ := Option.map_eq_some_iff.mp htransact
      rw [h.serves.no_setup] at hsetup
      cases hsetup
  | packetIn packet =>
      obtain ⟨n, -, rfl⟩ := Option.map_eq_some_iff.mp hstep
      exact h.packetIn hbulk hblocks hboard hcarries
  | packetOut =>
      obtain ⟨n, -, rfl⟩ := Option.map_eq_some_iff.mp hstep
      exact h.packetOut hboard hcarries
  | interruptIn slot packet => exact hbulk.elim
  | raise cause =>
      cases hstep
      exact h.slaveSame rfl hcarries

/-- What a step of the traffic keeps. -/
theorem trafficStep_flowing {next : Traffic} {action : Action} (h : Flowing path first t)
    (hbulk : BulkOnly path action) (hblocks : BlocksOnly t action)
    (hstep : trafficStep t action = some next) : Flowing path first next := by
  have hflowing := h
  obtain ⟨awaited, who, pending, down, up, hflows⟩ := h
  have hboard := trafficStep_board hstep
  obtain ⟨_, last, -, -, hlast⟩ := step_carries hflows.carries hboard
  have hcarries : Carries next.board next.board.chips := hlast.same ▸ hlast
  cases action with
  | device event => exact hflows.device hbulk hblocks hcarries hstep
  | host event => exact hflows.host hbulk hblocks hcarries hstep
  | enqueue role =>
      obtain ⟨n, hn, rfl⟩ := Option.map_eq_some_iff.mp hstep
      obtain ⟨taken, hdequeue, hlink⟩ := step_link hn (fun _ => nofun) fun _ => nofun
      exact hflowing.link hdequeue hlink hcarries
  | core1 role =>
      obtain ⟨n, hn, rfl⟩ := Option.map_eq_some_iff.mp hstep
      have hother : ∀ other, Link.Action.core1 role ≠ .dequeue other := by
        intro other hsame
        cases hsame
      exact hflowing.link hother hn hcarries
  | attach level =>
      have hother : ∀ other, Link.Action.attach level ≠ .dequeue other := by
        intro other hsame
        cases hsame
      cases hstep
      exact hflowing.link hother hboard hcarries

/-- Nothing is under way at the start. -/
theorem BulkAtRest.flowing {masterRom slaveRom : BitVec 32} {actions : List Action} {b : Board}
    (h : BulkAtRest path b) (hreach : Reaches masterRom slaveRom actions b) (turn : Turn) :
    Flowing path b (.start b turn) := by
  obtain ⟨_, -, -, hcarries⟩ := hreach.carries
  have hall := hcarries.outbox_eq .slave
  rw [h.delivered, List.append_nil] at hall
  have hlength : b.chips.master.dequeued.length = (b.outbox .slave).length := by
    rw [hall]
    rfl
  refine ⟨.nothing, none, none, [], [], hcarries, ?_, h.ready, .idle h.idle, .nothing rfl,
    h.delivered .master, h.delivered .slave, hlength, hlength.ge, [], rfl, ?_⟩
  · have hawaits := h.master
    have hrests : MasterStage path.interface b.device turn false .nothing :=
      .rest false ⟨hawaits.mounted, hawaits.busReset, hawaits.setupReq, hawaits.bufStatus⟩
        hawaits.awaits hawaits.idle nofun
    exact hrests.of_rx b.master.master.rx
  · have hnone : handedSince b (.start b turn) = [] := List.drop_length
    rw [hnone]
    exact .nil

end Steps

/-- In every run of bulk-only commands without data-out stage in which the device ends each read with
one packet, the EPX registers are not double-booked. -/
theorem exclusive_of_blocksOnly {masterRom slaveRom : BitVec 32} {setUp : List Action} {b : Board}
    {path : BulkPath} {turn : Turn} {actions : List Action} {t : Traffic}
    (hreach : Reaches masterRom slaveRom setUp b) (hrest : BulkAtRest path b)
    (hbulk : ∀ action ∈ actions, BulkOnly path action)
    (hblocks : Machine.Guarded trafficStep BlocksOnly (.start b turn) actions)
    (hrun : Machine.run trafficStep (.start b turn) actions = some t) : Exclusive b t := by
  have hguard := Machine.guarded_and (Machine.guarded_of_mem hbulk) hblocks
  obtain ⟨_, _, _, _, _, hflows⟩ := Machine.guarded_invariant (I := Flowing path b)
    (fun _ _ _ hflowing hok hstep => trafficStep_flowing hflowing hok.1 hok.2 hstep)
    (hrest.flowing hreach turn) hguard hrun
  exact hflows.exclusive

/-! ## A disk -/

/-- A configuration of one storage interface with endpoints 0x81 and 0x02. -/
def diskConfiguration : List UInt8 :=
  [9, 2, 32, 0, 1, 1, 0, 0x80, 50, 9, 4, 0, 0, 2, 8, 6, 0x50, 0, 7, 5, 0x81, 2, 64, 0, 0,
    7, 5, 0x02, 2, 64, 0, 0]

/-- The interface of that configuration, as it lies in the DPRAM. -/
def disk : StorageInterface where
  epOut := 0x02
  epIn := 0x81
  outBase := 0x200
  inBase := 0x180
  inSize := 64
  controlSize := 64
  out_dir := rfl
  in_dir := rfl
  out_pos := by decide
  in_pos := by decide
  out_lt := by decide
  in_lt := by decide
  in_status := by decide

/-- A packet of the given length. -/
def zeros (length : Nat) (h : length ≤ 1023) : Packet := ⟨List.replicate length 0, by simpa using h⟩

instance (ep : Rp2040.HwEndpoint) : Decidable (OnEpx ep) :=
  decidable_of_iff (ep.bufferControl = some Rp2040.epxBufCtrl ∧
    ep.endpointControl = some Rp2040.epxCtrl ∧ ep.hwDataBuf = some Rp2040.epxDataOffset)
    ⟨fun h => ⟨h.1, h.2.1, h.2.2⟩, fun h => ⟨h.1, h.2, h.3⟩⟩

instance (word : BitVec 32) (offset : Nat) : Decidable (Host.PointsTo word offset) :=
  decidable_of_iff ((word &&& 0xffc0#32).toNat = offset ∧
    Rp2040.hasBits word Rp2040.epCtrlDoubleBuffered = false)
    ⟨fun h => ⟨h.1, h.2⟩, fun h => ⟨h.1, h.2⟩⟩

instance (e : BulkEndpoint) (h : Rp2040.Hcd) : Decidable (BulkOpen e h) :=
  decidable_of_iff (Rp2040.getDevEp h e.epAddr = some e.slot ∧ ¬ IsControl e.epAddr ∧
    (h.epPool e.slot).epAddr = e.epAddr ∧ (h.epPool e.slot).rx = tuEdptDirIn e.epAddr ∧
    OnEpx (h.epPool e.slot) ∧ (h.epPool e.slot).wMaxPacketSize = e.size ∧
    Host.PointsTo (h.memory.word Rp2040.epxCtrl) Rp2040.epxDataOffset)
    ⟨fun h => ⟨h.1, h.2.1, h.2.2.1, h.2.2.2.1, h.2.2.2.2.1, h.2.2.2.2.2.1, h.2.2.2.2.2.2⟩,
      fun h => ⟨h.1, h.2, h.3, h.4, h.5, h.6, h.7⟩⟩

instance (h : Rp2040.Hcd) : Decidable (EpxIdle h) :=
  decidable_of_iff (EpxFree h ∧ h.bufStatus = 0 ∧
    Rp2040.hasBits (h.memory.word Rp2040.epxBufCtrl) Rp2040.bufCtrlAvail = false ∧
    Rp2040.hasBits h.sieCtrl Rp2040.sieCtrlSendSetup = false)
    ⟨fun h => ⟨h.1.inactive, h.2.1, h.2.2.1, h.2.2.2⟩,
      fun h => ⟨h.free, h.bufStatus, h.disarmed, h.noSetup⟩⟩

instance (path : BulkPath) (b : Board) : Decidable (BulkAtRest path b) :=
  decidable_of_iff (AwaitsCommand path.interface b.device ∧
    BulkOpen path.slave.out b.slave.slave.hcd ∧ BulkOpen path.slave.into b.slave.slave.hcd ∧
    EpxIdle b.slave.slave.hcd ∧ b.undelivered .master = [] ∧ b.undelivered .slave = [])
    ⟨fun h => ⟨h.1, ⟨h.2.1, h.2.2.1⟩, h.2.2.2.1, fun sender => by
        cases sender with
        | master => exact h.2.2.2.2.1
        | slave => exact h.2.2.2.2.2⟩,
      fun h => ⟨h.master, h.ready.out, h.ready.into, h.idle, h.delivered .master,
        h.delivered .slave⟩⟩

/-- The disk of `diskConfiguration`, with endpoints 0x81 and 0x02, behind both controllers. -/
def diskPath : BulkPath where
  interface := disk
  outSlot := 2
  inSlot := 1
  outSize := 64
  out_size := by decide
  in_size := by decide

/-- The first eight bytes of a device descriptor that gives 64 as the packet size. -/
def deviceHead : Packet := ⟨[18, 1, 0, 2, 0, 0, 0, 64], by decide⟩

/-- The host reads the configuration of the disk, and the slave opens its endpoints. -/
def mountDisk : List Action :=
  linkUp ++ hostRequest ⟨0x80, 6, 0x100, 0, 8⟩ ++ toSlave ++ sendSetup ++ replyWith deviceHead ++
    statusStage ++ toMaster 1 ++
    [.device .handleSpiSlaveEvent, .enqueue .master, .device .handleSpiSlaveEvent] ++ toSlave ++
    [.host .slavework] ++ hostRequest ⟨0x80, 6, 0x200, 0, 32⟩ ++ toSlave ++ sendSetup ++
    replyWith ⟨diskConfiguration, by decide⟩ ++ statusStage ++ toMaster 1 ++
    [.device .handleSpiSlaveEvent, .enqueue .master, .enqueue .master] ++ toSlave ++ toSlave ++
    [.host .slavework, .host .slavework, .device .handleSpiSlaveEvent]

/-- The host sends a command block, the device takes it, and the master asks for a packet. -/
def sendBlock : List Action :=
  [.device (.hostOut 2 (zeros 31 (by decide))), .device .dcdIrq, .enqueue .master] ++ toSlave ++
    [.host .slavework, .host .packetOut, .host .hcdIrq, .enqueue .slave] ++ toMaster 1 ++
    [.device .handleSpiSlaveEvent, .enqueue .master]

/-- The device answers with a status wrapper, and the host takes it. -/
def takeStatus : List Action :=
  toSlave ++ [.host .slavework, .host (.packetIn (zeros 13 (by decide))), .host .hcdIrq,
    .enqueue .slave, .device .dcdIrq] ++ toMaster 1 ++
    [.device .handleSpiSlaveEvent, .device (.hostIn 1)]

/-- The host sends the data of the command, and the slave gets both requests of the master. -/
def sendData : List Action :=
  [.device .dcdIrq, .device .handleSpiSlaveEvent, .device (.hostOut 2 (zeros 64 (by decide))),
    .device .dcdIrq, .enqueue .master] ++ toSlave ++ [.host .slavework] ++ toSlave

theorem oneCommand_exclusive :
    ∃ b t, Reaches 0 0 mountDisk b ∧
      Machine.run trafficStep (.start b .irq) (sendBlock ++ takeStatus) = some t ∧
      t.carried.length = 2 ∧ Exclusive b t := by
  have hends : ∃ b, Machine.run step (init 0 0) mountDisk = some b ∧ BulkAtRest diskPath b ∧
      (Machine.run trafficStep (.start b .irq) (sendBlock ++ takeStatus)).any
        (fun t => decide (t.carried.length = 2)) ∧
      Machine.Guarded trafficStep BlocksOnly (.start b .irq) (sendBlock ++ takeStatus) :=
    Machine.exists_run_of_any (by decide +kernel)
  obtain ⟨b, hreach, hrest, hany, hblocks⟩ := hends
  obtain ⟨t, hrun, hcarried⟩ := Machine.exists_run_of_any hany
  exact ⟨b, t, hreach, hrun, hcarried,
    exclusive_of_blocksOnly hreach hrest (by decide +kernel) hblocks hrun⟩

/-- A command with a data-out stage: the read that the master asks for after the command block is
still waiting for the device when the data arrive. -/
theorem dataOut_not_exclusive :
    ¬ ∀ masterRom slaveRom setUp b path turn actions t, Reaches masterRom slaveRom setUp b →
      BulkAtRest path b → (∀ action ∈ actions, BulkOnly path action) →
      Machine.run trafficStep (.start b turn) actions = some t → Exclusive b t := by
  intro hclaim
  have hends : ∃ b, Machine.run step (init 0 0) mountDisk = some b ∧ BulkAtRest diskPath b ∧
      (Machine.run trafficStep (.start b .irq) (sendBlock ++ sendData)).any fun t =>
        decide (t.board.halted .slave = none ∧
          (∃ message ∈ t.board.chips.slave.rx.items.head?,
            messageKind message = MsgType.usbData) ∧ ¬ EpxFree t.board.slave.slave.hcd) :=
    Machine.exists_run_of_any (by decide +kernel)
  obtain ⟨b, hreach, hrest, hany⟩ := hends
  obtain ⟨t, hrun, hrunning, ⟨message, hhead, hkind⟩, hbusy⟩ := Machine.exists_run_of_any hany
  have hexclusive := hclaim 0 0 mountDisk b diskPath .irq _ t hreach hrest (by decide +kernel) hrun
  exact hbusy (hexclusive.starts hrunning message hhead hkind)

end UsbSec.System
