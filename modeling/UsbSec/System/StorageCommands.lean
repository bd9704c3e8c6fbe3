import UsbSec.System.StoragePhases

/-!
# Every command gets its status

Each step of the loop keeps to the phases of a command, so every command of a mounted interface is
served: its block reaches the device, as many reads are requested as the device has packets, the host
takes these in order, and the next command is accepted. The driver takes any packet of 13 bytes for
the status wrapper, and a read that a full packet does not end goes on behind it, so this is so as
long as no data packet has that length and each packet ends its read.
-/

namespace UsbSec.System

open Library Usb Rp2040 Device Host

/-! ## Every step keeps to the phases -/

section Phases

variable {path : BulkPath} {l next : Loop} {task : Host.Task} {own left : Nat}
  {toCome : List Entry}

theorem lateBits_ne_zero (dev : StorageInterface) : lateBits dev true ≠ 0 := by
  have hlt : endpointNum dev.epIn < 16 := dev.in_lt
  exact bufStatusBit_ne_zero (2 * endpointNum dev.epIn) (by omega)

/-- Whose turn it is matters only for a late completion. -/
theorem CommandPhase.with_turn {m : Device.Core0} {before turn : Turn} {answer : List Packet}
    {waiting : Nat} (h : CommandPhase path m before answer waiting task own toCome)
    (hturn : turn = .irq ∨ m.master.dcd.bufStatus = 0) :
    CommandPhase path m turn answer waiting task own toCome := by
  have hlate {late : Bool} {rx : List SpiMessage}
      (hbetween : Between path.interface rx (lateBits path.interface late) m) (hstays : late = true) :
      turn = .irq := by
    rcases hturn with hirq | hzero
    · exact hirq
    · subst hstays
      exact absurd (hbetween.bufStatus.symm.trans hzero) (lateBits_ne_zero path.interface)
  cases h with
  | idle hbetween hawaits hidle hwaits => exact .idle hbetween hawaits hidle hwaits
  | sent late hbetween hheld hidle htaken hexpects =>
      exact .sent late hbetween hheld hidle htaken hexpects
  | forwarded late hbetween hidle hdone hexpects =>
      exact .forwarded late hbetween hidle hdone hexpects
  | written late hbetween hidle hdone hexpects => exact .written late hbetween hidle hdone hexpects
  | echoed late hbetween hflag hlast hidle hdone hexpects =>
      exact .echoed late hbetween hflag hlast hidle hdone hexpects
  | asked late hbetween hawaits hidle hdone hexpects =>
      exact .asked late hbetween hawaits hidle
        (fun hstays => ⟨(hdone hstays).1, hlate hbetween hstays⟩) hexpects
  | received late hbetween hawaits hidle hdone hdelivers hwaits =>
      exact .received late hbetween hawaits hidle
        (fun hstays => ⟨(hdone hstays).1, hlate hbetween hstays⟩) hdelivers hwaits
  | arrived late hbetween hawaits hidle hdone hdelivers hwaits =>
      exact .arrived late hbetween hawaits hidle
        (fun hstays => ⟨(hdone hstays).1, hlate hbetween hstays⟩) hdelivers hwaits
  | offered hbetween hawaits hoffer hdelivers hwaits =>
      exact .offered hbetween hawaits hoffer hdelivers hwaits
  | taken hbetween hawaits hgone hdelivers hwaits =>
      exact .taken hbetween hawaits hgone hdelivers hwaits

/-- The loop is in a phase, and its log is completed to the same log. -/
def KeepsLog (path : BulkPath) (next : Loop) (log : List Entry) : Prop :=
  ∃ task own left toCome, InPhase path next task own left toCome ∧ next.log ++ toCome = log

/-! ### The slave -/

theorem InPhase.step_toSlave (h : InPhase path l task own left toCome)
    (hstep : storageStep path l .toSlave = some next) : KeepsLog path next (l.log ++ toCome) := by
  obtain rfl : left = 2 := h.slave.toSlave_left hstep
  obtain ⟨slave, hother, hslave⟩ := h.slave.delivers
  cases hstep.symm.trans hother
  exact ⟨_, _, _, _, ⟨h.phase, hslave⟩, rfl⟩

theorem InPhase.step_slavework (h : InPhase path l task own left toCome)
    (hstep : storageStep path l .slavework = some next) : KeepsLog path next (l.log ++ toCome) := by
  obtain ⟨slave, later, hother, hslave⟩ := h.slave.slavework
  cases hstep.symm.trans hother
  exact ⟨_, _, _, _, ⟨h.phase, hslave⟩, rfl⟩

theorem InPhase.step_hcdIrq (h : InPhase path l task own left toCome)
    (hstep : storageStep path l .hcdIrq = some next) : KeepsLog path next (l.log ++ toCome) := by
  obtain ⟨slave, later, hother, hslave⟩ := h.slave.hcdIrq
  cases hstep.symm.trans hother
  exact ⟨_, _, _, _, ⟨h.phase, hslave⟩, rfl⟩

/-- The device takes the block of the command. -/
theorem packetOut_forwarded {block : List UInt8}
    (h : InPhase path l (.write block) own 0 toCome) :
    ∃ next toCome', storageStep path l .packetOut = some next ∧
      InPhase path next (.report ⟨path.interface.epOut, block⟩) (own - 2) 1 toCome' ∧
      next.log ++ toCome' = l.log ++ toCome := by
  obtain ⟨slave, hstep, hslave⟩ := h.slave.sends
  obtain ⟨hphase, -⟩ := h
  cases hphase with
  | @forwarded _ packets late hbetween hidle hdone hexpects =>
      refine ⟨_, packetEntries packets, hstep, ⟨.written late hbetween hidle hdone hexpects, hslave⟩, ?_⟩
      exact List.append_assoc _ _ _

/-- The device answers the read with its next packet. -/
theorem packetIn_asked {length : Nat} (h : InPhase path l (.read length) own 0 toCome) :
    ∃ next carried, storageStep path l .packetIn = some next ∧
      InPhase path next (.report carried) (own - 2) 1 toCome ∧ next.log = l.log := by
  obtain ⟨hphase, hslave⟩ := h
  cases hphase with
  | @asked _ packet rest late hbetween hawaits hidle hdone hexpects =>
      have hpending := hexpects.pending
      obtain ⟨slave, hstep, hslaveNext⟩ :=
        hslave.reads hexpects.answer hpending.head_fits.2 hpending.head_suffices
      exact ⟨_, _, hstep, ⟨.received late hbetween hawaits hidle hdone ⟨hpending, rfl⟩
        hexpects.waiting, hslaveNext⟩, rfl⟩

/-- The report is delivered to the master. -/
theorem toMaster_task {carried : Carried} (h : InPhase path l (.report carried) own 0 toCome) :
    ∃ next, storageStep path l .toMaster = some next ∧ InPhase path next .rest (own - 1) 0 toCome ∧
      next.log = l.log := by
  obtain ⟨hphase, hslave⟩ := h
  cases hphase with
  | written late hbetween hidle hdone hexpects =>
      exact toMaster_written hbetween hidle hdone hexpects hslave
  | received late hbetween hawaits hidle hdone hdelivers hwaits =>
      exact toMaster_received hbetween hawaits hidle hdone hdelivers hwaits hslave

theorem InPhase.step_packetOut (h : InPhase path l task own left toCome)
    (hstep : storageStep path l .packetOut = some next) : KeepsLog path next (l.log ++ toCome) := by
  obtain ⟨block, rfl, rfl⟩ := h.slave.packetOut_task hstep
  obtain ⟨other, rest, hother, hphase, hlog⟩ := packetOut_forwarded h
  cases hstep.symm.trans hother
  exact ⟨_, _, _, _, hphase, hlog⟩

theorem InPhase.step_packetIn (h : InPhase path l task own left toCome)
    (hstep : storageStep path l .packetIn = some next) : KeepsLog path next (l.log ++ toCome) := by
  obtain ⟨length, rfl, rfl⟩ := h.slave.packetIn_task hstep
  obtain ⟨other, carried, hother, hphase, hlog⟩ := packetIn_asked h
  cases hstep.symm.trans hother
  exact ⟨_, _, _, _, hphase, by rw [hlog]⟩

theorem InPhase.step_toMaster (h : InPhase path l task own left toCome)
    (hstep : storageStep path l .toMaster = some next) : KeepsLog path next (l.log ++ toCome) := by
  obtain ⟨carried, rfl, rfl⟩ := h.slave.toMaster_task hstep
  obtain ⟨other, hother, hphase, hlog⟩ := toMaster_task h
  cases hstep.symm.trans hother
  exact ⟨_, _, _, _, hphase, by rw [hlog]⟩

/-! ### The master -/

theorem InPhase.step_take (h : InPhase path l task own left toCome)
    (hstep : storageStep path l .take = some next) : KeepsLog path next (l.log ++ toCome) := by
  have hrest (hidle : (l.master.master.inLane path.interface).Idle) :
      KeepsLog path next (l.log ++ toCome) := by
    cases hstep.symm.trans (take_rest hidle)
  cases h.phase with
  | offered hbetween hawaits hoffer hdelivers hwaits =>
      obtain ⟨other, hother, hphase, hlog⟩ :=
        take_offered hbetween hawaits hoffer hdelivers hwaits h.slave
      cases hstep.symm.trans hother
      refine ⟨_, _, _, _, hphase, ?_⟩
      rw [hlog, List.append_assoc, List.singleton_append]
  | idle _ _ hidle => exact hrest hidle
  | sent _ _ _ hidle => exact hrest hidle
  | forwarded _ _ hidle => exact hrest hidle
  | written _ _ hidle => exact hrest hidle
  | echoed _ _ _ _ hidle => exact hrest hidle
  | asked _ _ _ hidle => exact hrest hidle
  | received _ _ _ hidle => exact hrest hidle
  | arrived _ _ _ hidle => exact hrest hidle
  | taken _ _ hgone => exact hrest hgone.idle

theorem turn_of_handle (hstep : storageStep path l .handle = some next) : l.turn = .handle := by
  by_contra hturn
  unfold storageStep at hstep
  dsimp only at hstep
  rw [if_neg hturn] at hstep
  cases hstep

theorem turn_of_irq (hstep : storageStep path l .irq = some next) : l.turn = .irq := by
  by_contra hturn
  unfold storageStep at hstep
  dsimp only at hstep
  rw [if_neg hturn] at hstep
  cases hstep

/-- A phase in which it is the turn of the other function. -/
theorem InPhase.with_turn (h : InPhase path l task own left toCome) {turn : Turn}
    (hturn : turn = .irq ∨ l.master.master.dcd.bufStatus = 0) :
    InPhase path { l with turn := turn } task own left toCome :=
  ⟨h.phase.with_turn hturn, h.slave.of_same rfl rfl rfl rfl⟩

theorem InPhase.step_handle (h : InPhase path l task own left toCome)
    (hstep : storageStep path l .handle = some next) : KeepsLog path next (l.log ++ toCome) := by
  have hturn := turn_of_handle hstep
  have hrest {bits : BitVec 32} (hbetween : Between path.interface [] bits l.master) :
      KeepsLog path next (l.log ++ toCome) := by
    cases hstep.symm.trans (handle_rest hbetween hturn)
    exact ⟨_, _, _, _, h.with_turn (Or.inl rfl), rfl⟩
  cases hphase : h.phase with
  | echoed late hbetween hflag hlast hidle hdone hexpects =>
      obtain ⟨other, rest, hother, hnext, hlog⟩ :=
        handle_echoed hbetween hflag hlast hidle hdone hexpects h.slave hturn
      cases hstep.symm.trans hother
      exact ⟨_, _, _, _, hnext, hlog⟩
  | arrived late hbetween hawaits hidle hdone hdelivers hwaits =>
      have hnow : late = false := by
        refine eq_false_of_ne_true fun hstays => ?_
        cases hturn.symm.trans (hdone hstays).2
      subst hnow
      obtain ⟨other, hother, hnext, hlog⟩ :=
        handle_arrived hbetween hawaits hdelivers hwaits h.slave hturn
      cases hstep.symm.trans hother
      exact ⟨_, _, _, _, hnext, by rw [hlog]⟩
  | idle hbetween => exact hrest hbetween
  | sent late hbetween => exact hrest hbetween
  | forwarded late hbetween => exact hrest hbetween
  | written late hbetween => exact hrest hbetween
  | asked late hbetween => exact hrest hbetween
  | received late hbetween => exact hrest hbetween
  | offered hbetween => exact hrest hbetween
  | taken hbetween => exact hrest hbetween

/-- The slave does not notice that a late completion is dealt with. -/
theorem InPhase.slave_late (h : InPhase path l task own left toCome) {t : Master}
    (houtbox : t.outbox = l.master.master.outbox) :
    SlaveAt path.slave { l with master := ⟨t, false, false⟩, turn := .handle } task left :=
  h.slave.of_same rfl rfl rfl houtbox

theorem InPhase.step_irq (h : InPhase path l task own left toCome)
    (hstep : storageStep path l .irq = some next) : KeepsLog path next (l.log ++ toCome) := by
  have hturn := turn_of_irq hstep
  have hrest {rx : List SpiMessage} (hbetween : Between path.interface rx 0 l.master) :
      KeepsLog path next (l.log ++ toCome) := by
    cases hstep.symm.trans (irq_rest hbetween hturn)
    exact ⟨_, _, _, _, h.with_turn (Or.inr hbetween.bufStatus), rfl⟩
  cases hphase : h.phase with
  | idle hbetween => exact hrest hbetween
  | offered hbetween => exact hrest hbetween
  | sent late hbetween hheld hidle htaken hexpects =>
      obtain ⟨other, hother, hnext, hlog⟩ :=
        irq_sent hbetween hheld hidle htaken hexpects h.slave hturn
      cases hstep.symm.trans hother
      exact ⟨_, _, _, _, hnext, by rw [hlog]⟩
  | taken hbetween hawaits hgone hdelivers hwaits =>
      obtain ⟨other, _, _, _, rest, hother, hnext, -, hlog⟩ :=
        irq_taken hbetween hawaits hgone hdelivers hwaits h.slave hturn
      cases hstep.symm.trans hother
      exact ⟨_, _, _, _, hnext, hlog⟩
  -- In the phases that follow there is at most the completion of the last status wrapper to handle.
  | forwarded late hbetween hidle hdone hexpects =>
      obtain ⟨t, hother, houtbox, hnext, -, hidleNext⟩ := irq_late hbetween hidle hdone hturn
      cases hstep.symm.trans hother
      exact ⟨_, _, _, _, ⟨.forwarded false hnext hidleNext nofun hexpects, h.slave_late houtbox⟩, rfl⟩
  | written late hbetween hidle hdone hexpects =>
      obtain ⟨t, hother, houtbox, hnext, -, hidleNext⟩ := irq_late hbetween hidle hdone hturn
      cases hstep.symm.trans hother
      exact ⟨_, _, _, _, ⟨.written false hnext hidleNext nofun hexpects, h.slave_late houtbox⟩, rfl⟩
  | echoed late hbetween hflag hlast hidle hdone hexpects =>
      obtain ⟨t, hother, houtbox, hnext, -, hidleNext⟩ := irq_late hbetween hidle hdone hturn
      cases hstep.symm.trans hother
      exact ⟨_, _, _, _,
        ⟨.echoed false hnext hflag hlast hidleNext nofun hexpects, h.slave_late houtbox⟩, rfl⟩
  | asked late hbetween hawaits hidle hdone hexpects =>
      obtain ⟨t, hother, houtbox, hnext, hout, hidleNext⟩ :=
        irq_late hbetween hidle (fun hstays => (hdone hstays).1) hturn
      cases hstep.symm.trans hother
      exact ⟨_, _, _, _, ⟨.asked false hnext (hout.symm ▸ hawaits) hidleNext nofun hexpects,
        h.slave_late houtbox⟩, rfl⟩
  | received late hbetween hawaits hidle hdone hdelivers hwaits =>
      obtain ⟨t, hother, houtbox, hnext, hout, hidleNext⟩ :=
        irq_late hbetween hidle (fun hstays => (hdone hstays).1) hturn
      cases hstep.symm.trans hother
      exact ⟨_, _, _, _,
        ⟨.received false hnext (hout.symm ▸ hawaits) hidleNext nofun hdelivers hwaits,
          h.slave_late houtbox⟩, rfl⟩
  | arrived late hbetween hawaits hidle hdone hdelivers hwaits =>
      obtain ⟨t, hother, houtbox, hnext, hout, hidleNext⟩ :=
        irq_late hbetween hidle (fun hstays => (hdone hstays).1) hturn
      cases hstep.symm.trans hother
      exact ⟨_, _, _, _,
        ⟨.arrived false hnext (hout.symm ▸ hawaits) hidleNext nofun hdelivers hwaits,
          h.slave_late houtbox⟩, rfl⟩

/-- Every step without a command keeps to the phases. -/
theorem InPhase.step_local (h : InPhase path l task own left toCome) {event : LoopEvent}
    (hlocal : event.IsLocal) (hstep : storageStep path l event = some next) :
    KeepsLog path next (l.log ++ toCome) := by
  cases event with
  | command command => exact hlocal.elim
  | toSlave => exact h.step_toSlave hstep
  | slavework => exact h.step_slavework hstep
  | packetOut => exact h.step_packetOut hstep
  | packetIn => exact h.step_packetIn hstep
  | hcdIrq => exact h.step_hcdIrq hstep
  | toMaster => exact h.step_toMaster hstep
  | handle => exact h.step_handle hstep
  | irq => exact h.step_irq hstep
  | take => exact h.step_take hstep

/-- A command that is accepted starts behind the last one. -/
theorem InPhase.step_command (h : InPhase path l task own left toCome) {command : StorageCommand}
    (hdistinct : command.Distinct path.interface)
    (hstep : storageStep path l (.command command) = some next) :
    KeepsLog path next (l.log ++ toCome ++ command.entries) := by
  have hsuits : command.Suits path.interface := by
    by_contra hnot
    unfold storageStep at hstep
    simp [hnot, guard] at hstep
  have hzero : l.waiting = 0 := by
    by_contra hnot
    cases hstep.symm.trans (command_rest hnot command)
  have hnone {length : Nat} {packets : List Packet}
      (hexpects : Expects path.interface length packets l.answer l.waiting) :
      KeepsLog path next (l.log ++ toCome ++ command.entries) := by
    have hwaiting := hexpects.waiting
    cases hexpects.pending with
    | status => simp [hzero] at hwaiting
    | data => simp [hzero] at hwaiting
  cases hphase : h.phase with
  | idle hbetween hawaits hidle hwaits =>
      obtain ⟨other, hother, hlog, hnext⟩ := command_accepted hbetween hawaits hidle
        false rfl nofun hwaits hsuits
      cases hstep.symm.trans hother
      refine ⟨_, _, _, _, hnext hdistinct _ h.slave, ?_⟩
      rw [hlog, List.append_nil]
  | taken hbetween hawaits hgone hdelivers hwaits =>
      have hnil := List.length_eq_zero_iff.mp (hwaits.symm.trans hzero)
      obtain ⟨other, hother, hlog, hnext⟩ := command_accepted hbetween hawaits
        hgone.idle true rfl (fun _ => ⟨_, hgone.taken⟩) hzero hsuits
      cases hstep.symm.trans hother
      refine ⟨_, _, _, _, hnext hdistinct _ h.slave, ?_⟩
      rw [hlog, hnil]
      simp [packetEntries]
  | sent late hbetween hheld hidle htaken hexpects => exact hnone hexpects
  | forwarded late hbetween hidle hdone hexpects => exact hnone hexpects
  | written late hbetween hidle hdone hexpects => exact hnone hexpects
  | echoed late hbetween hflag hlast hidle hdone hexpects => exact hnone hexpects
  | asked late hbetween hawaits hidle hdone hexpects => exact hnone hexpects
  | received late hbetween hawaits hidle hdone hdelivers hwaits => simp [hzero] at hwaits
  | arrived late hbetween hawaits hidle hdone hdelivers hwaits => simp [hzero] at hwaits
  | offered hbetween hawaits hoffer hdelivers hwaits => simp [hzero] at hwaits

/-! ## Every command comes to its end -/

/-- Nothing happens between two commands, and the next one is accepted. -/
theorem InPhase.settled (h : InPhase path l task own left toCome) (hown : own = 0) :
    toCome = [] ∧ Quiet path l ∧ AcceptsCommand path l := by
  cases hphase : h.phase with
  | idle hbetween hawaits hidle hwaits =>
      obtain ⟨-, hposted, hserves⟩ := h.slave.rests
      refine ⟨rfl, ⟨?_, hposted.rx, hserves.bufStatus, hbetween.rx, ?_⟩, fun command hsuits => ?_⟩
      · intro event hmem
        refine Option.isNone_iff_eq_none.mpr (Option.eq_none_iff_forall_ne_some.mpr ?_)
        intro next hnext
        simp only [List.mem_cons, List.not_mem_nil, or_false] at hmem
        obtain rfl | rfl | rfl | rfl | rfl := hmem
        · cases hnext.symm.trans (toSlave_rests hposted.sent)
        · obtain ⟨block, htask, -⟩ := h.slave.packetOut_task hnext
          cases htask
        · obtain ⟨length, htask, -⟩ := h.slave.packetIn_task hnext
          cases htask
        · obtain ⟨carried, htask, -⟩ := h.slave.toMaster_task hnext
          cases htask
        · cases hnext.symm.trans (take_rest hidle)
      · rw [hbetween.ints, hbetween.bufStatus]
        rfl
      · obtain ⟨other, hother, -⟩ := command_accepted hbetween hawaits hidle false
          rfl nofun hwaits hsuits
        rw [hother]
        rfl
  | sent => omega
  | forwarded => omega
  | written => omega
  | echoed => omega
  | asked => omega
  | received => omega
  | arrived => omega
  | offered => omega
  | taken => omega

/-- In a quiet loop the slave waits for the next exchange, or has done its task. -/
theorem SlaveAt.left_of_quiet (h : SlaveAt path.slave l task left) (hquiet : Quiet path l) :
    left = 0 := by
  cases hslave : h.errand with
  | rest => rfl
  | asked =>
      obtain ⟨slave, hstep, -⟩ := h.delivers
      have hnone := hquiet.exchanges .toSlave List.mem_cons_self
      rw [hstep] at hnone
      cases hnone
  | received hposted => cases hquiet.slaveRx.symm.trans hposted.rx
  | started => rfl
  | exchanged hposted hserves =>
      have hbit : l.slave.slave.hcd.bufStatus = slotBit epx := hserves.bufStatus
      have hne : slotBit epx ≠ 0 := by decide
      exact absurd (hbit.symm.trans hquiet.slaveBuffers) hne
  | reported => rfl

/-- A quiet loop is between two commands. -/
theorem InPhase.idle_of_quiet (h : InPhase path l task own left toCome) (hquiet : Quiet path l) :
    own = 0 := by
  obtain rfl := h.slave.left_of_quiet hquiet
  have hnone {event : LoopEvent} {other : Loop}
      (hmem : event ∈ [LoopEvent.toSlave, .packetOut, .packetIn, .toMaster, .take])
      (hstep : storageStep path l event = some other) : own = 0 := by
    have hquietStep := hquiet.exchanges event hmem
    rw [hstep] at hquietStep
    cases hquietStep
  -- A completed buffer of the master is still to be handled, so the loop is not quiet.
  have hints {rx : List SpiMessage} {bits : BitVec 32}
      (hbetween : Between path.interface rx bits l.master) (hbits : bits ≠ 0) : own = 0 := by
    have hsame := hquiet.masterInts
    rw [hbetween.ints, hbetween.bufStatus, bne_iff_ne.mpr hbits] at hsame
    cases hsame
  have hout : endpointNum path.interface.epOut < 16 := path.interface.out_lt
  have hin : endpointNum path.interface.epIn < 16 := path.interface.in_lt
  cases hphase : h.phase with
  | idle => rfl
  | sent late hbetween hheld hidle htaken hexpects =>
      have hset : hasBits (bufStatusBit (2 * endpointNum path.interface.epOut + 1) |||
          lateBits path.interface late) (bufStatusBit (2 * endpointNum path.interface.epOut + 1)) =
            true := by
        rw [hasBits_or, hasBits_bufStatusBit _ (by omega) _ (by omega), decide_eq_true rfl,
          Bool.true_or]
      exact hints hbetween (ne_zero_of_hasBits hset)
  | forwarded =>
      obtain ⟨other, _, hstep, -⟩ := packetOut_forwarded h
      exact hnone (by simp) hstep
  | written =>
      obtain ⟨other, hstep, -⟩ := toMaster_task h
      exact hnone (by simp) hstep
  | echoed late hbetween => cases hquiet.masterRx.symm.trans hbetween.rx
  | asked =>
      obtain ⟨other, _, hstep, -⟩ := packetIn_asked h
      exact hnone (by simp) hstep
  | received =>
      obtain ⟨other, hstep, -⟩ := toMaster_task h
      exact hnone (by simp) hstep
  | arrived late hbetween => cases hquiet.masterRx.symm.trans hbetween.rx
  | offered hbetween hawaits hoffer hdelivers hwaits =>
      obtain ⟨other, hstep, -⟩ := take_offered hbetween hawaits hoffer hdelivers hwaits h.slave
      exact hnone (by simp) hstep
  | taken hbetween => exact hints hbetween (bufStatusBit_ne_zero _ (by omega))

/-- Without a further command the loop comes to a state with so many phases to come. -/
def ComesTo (path : BulkPath) (count : Nat) (l : Loop) : Prop :=
  ∃ events last task own left toCome, (∀ event ∈ events, event.IsLocal) ∧
    Machine.run (storageStep path) l events = some last ∧
    InPhase path last task own left toCome ∧ own + left = count

theorem InPhase.comesTo (h : InPhase path l task own left toCome) {count : Nat}
    (hcount : own + left = count) : ComesTo path count l :=
  ⟨[], l, task, own, left, toCome, nofun, rfl, h, hcount⟩

theorem ComesTo.of_step {event : LoopEvent} {count : Nat}
    (hstep : storageStep path l event = some next) (hlocal : event.IsLocal)
    (h : ComesTo path count next) : ComesTo path count l := by
  obtain ⟨events, last, task, own, left, toCome, hevents, hrun, hphase⟩ := h
  refine ⟨event :: events, last, task, own, left, toCome, ?_,
    Machine.run_cons_eq_some.mpr ⟨next, hstep, hrun⟩, hphase⟩
  intro other hmem
  rcases List.mem_cons.mp hmem with rfl | hmem
  · exact hlocal
  · exact hevents other hmem

theorem ComesTo.trans {middle count : Nat} (h : ComesTo path middle l)
    (hnext : ∀ next task own left toCome, InPhase path next task own left toCome →
      own + left = middle → ComesTo path count next) : ComesTo path count l := by
  obtain ⟨events, last, task, own, left, toCome, hevents, hrun, hphase, hcount⟩ := h
  obtain ⟨more, final, hrest⟩ := hnext last task own left toCome hphase hcount
  obtain ⟨taskNext, ownNext, leftNext, rest, hmore, hrunMore, hfinal⟩ := hrest
  refine ⟨events ++ more, final, taskNext, ownNext, leftNext, rest, fun event hmem => ?_, ?_, hfinal⟩
  · rcases List.mem_append.mp hmem with hfirst | hsecond
    · exact hevents event hfirst
    · exact hmore event hsecond
  · rw [Machine.run_append, hrun]
    exact hrunMore

/-- While the slave has not done its task, its next step comes. -/
theorem InPhase.slave_advances (h : InPhase path l task own left toCome) (hleft : left ≠ 0) :
    ComesTo path (own + left - 1) l := by
  cases hslave : h.slave.errand with
  | rest => exact absurd rfl hleft
  | asked =>
      obtain ⟨slave, hstep, hnext⟩ := h.slave.delivers
      have hphase : InPhase path { l with slave := slave, handed := l.handed + 1 } task own 1 toCome :=
        ⟨h.phase, hnext⟩
      exact .of_step hstep trivial (hphase.comesTo rfl)
  | received hposted =>
      have hrequested : l.slave.slave.rx.items ≠ [] := by
        rw [hposted.rx]
        exact List.cons_ne_nil _ _
      obtain ⟨slave, hstep, hnext⟩ := h.slave.starts hrequested
      have hphase : InPhase path { l with slave := slave } task own 0 toCome :=
        ⟨h.phase, hnext⟩
      exact .of_step hstep trivial (hphase.comesTo rfl)
  | started => exact absurd rfl hleft
  | exchanged =>
      obtain ⟨slave, hstep, hnext⟩ := h.slave.reportsPacket
      have hphase : InPhase path { l with slave := slave } (.report _) own 0 toCome :=
        ⟨h.phase, hnext⟩
      exact .of_step hstep trivial (hphase.comesTo rfl)
  | reported => exact absurd rfl hleft

/-- What the other function of `core0_loop` leaves as it is comes after it. -/
theorem InPhase.after_handle (h : InPhase path l task own left toCome)
    (hbetween : Between path.interface [] l.master.master.dcd.bufStatus l.master) {count : Nat}
    (hnext : ∀ other : Loop, other.turn = .irq → other.master = l.master → other.answer = l.answer →
      other.waiting = l.waiting → SlaveAt path.slave other task left → ComesTo path count other) :
    ComesTo path count l := by
  cases hturn : l.turn with
  | irq => exact hnext l hturn rfl rfl rfl h.slave
  | handle =>
      refine .of_step (handle_rest hbetween hturn) trivial ?_
      exact hnext _ rfl rfl rfl rfl (h.slave.of_same rfl rfl rfl rfl)

/-- While a command is under way the loop comes to the next phase: at once, or after the other
function of `core0_loop` has had its turn. -/
theorem InPhase.advance (h : InPhase path l task own 0 toCome) (hmore : own ≠ 0) :
    ComesTo path (own - 1) l := by
  cases hphase : h.phase with
  | idle => exact absurd rfl hmore
  | sent late hbetween hheld hidle htaken hexpects =>
      refine h.after_handle ⟨⟨hbetween.mounted, hbetween.busReset, hbetween.setupReq, rfl⟩,
        hbetween.rx⟩ fun other hturn hmaster hanswer hwaiting hslave => ?_
      rw [← hmaster] at hbetween hheld hidle htaken
      rw [← hanswer, ← hwaiting] at hexpects
      obtain ⟨next, hstep, hnext, -⟩ :=
        irq_sent hbetween hheld hidle htaken hexpects hslave hturn
      exact .of_step hstep trivial (hnext.comesTo rfl)
  | forwarded =>
      obtain ⟨next, rest, hstep, hnext, -⟩ := packetOut_forwarded h
      exact .of_step hstep trivial (hnext.comesTo (by omega))
  | written =>
      obtain ⟨next, hstep, hnext, -⟩ := toMaster_task h
      exact .of_step hstep trivial (hnext.comesTo rfl)
  | echoed late hbetween hflag hlast hidle hdone hexpects =>
      have hpositive := hexpects.pending.positive
      cases hturn : l.turn with
      | handle =>
          obtain ⟨next, rest, hstep, hnext, -⟩ :=
            handle_echoed hbetween hflag hlast hidle hdone hexpects h.slave hturn
          exact .of_step hstep trivial (hnext.comesTo (by omega))
      | irq =>
          -- The interrupt handler has its turn first, and what it finds asks for no read.
          obtain ⟨t, hirq, houtbox, hnow, -, hidleNext⟩ := irq_late hbetween hidle hdone hturn
          refine .of_step hirq trivial ?_
          have hslave := h.slave_late houtbox
          have hdealt : Between path.interface _ (lateBits path.interface false) _ := hnow
          obtain ⟨next, rest, hstep, hnext, -⟩ := handle_echoed
            (l := { l with master := ⟨t, false, false⟩, turn := .handle }) hdealt hflag hlast
            hidleNext nofun hexpects hslave rfl
          exact .of_step hstep trivial (hnext.comesTo (by omega))
  | asked =>
      obtain ⟨next, carried, hstep, hnext, -⟩ := packetIn_asked h
      exact .of_step hstep trivial (hnext.comesTo (by omega))
  | received =>
      obtain ⟨next, hstep, hnext, -⟩ := toMaster_task h
      exact .of_step hstep trivial (hnext.comesTo rfl)
  | arrived late hbetween hawaits hidle hdone hdelivers hwaits =>
      cases hturn : l.turn with
      | handle =>
          -- A late completion would have been handled when the read was asked for.
          have hnow : late = false := by
            refine eq_false_of_ne_true fun hstays => ?_
            cases hturn.symm.trans (hdone hstays).2
          subst hnow
          obtain ⟨next, hstep, hnext, -⟩ :=
            handle_arrived hbetween hawaits hdelivers hwaits h.slave hturn
          exact .of_step hstep trivial (hnext.comesTo rfl)
      | irq =>
          obtain ⟨t, hirq, houtbox, hnow, hout, -⟩ :=
            irq_late hbetween hidle (fun hstays => (hdone hstays).1) hturn
          refine .of_step hirq trivial ?_
          obtain ⟨next, hstep, hnext, -⟩ := handle_arrived
            (l := { l with master := ⟨t, false, false⟩, turn := .handle }) hnow (hout.symm ▸ hawaits)
            hdelivers hwaits (h.slave_late houtbox) rfl
          exact .of_step hstep trivial (hnext.comesTo rfl)
  | offered hbetween hawaits hoffer hdelivers hwaits =>
      obtain ⟨next, hstep, hnext, -⟩ :=
        take_offered hbetween hawaits hoffer hdelivers hwaits h.slave
      exact .of_step hstep trivial (hnext.comesTo rfl)
  | taken hbetween hawaits hgone hdelivers hwaits =>
      refine h.after_handle ⟨⟨hbetween.mounted, hbetween.busReset, hbetween.setupReq, rfl⟩,
        hbetween.rx⟩ fun other hturn hmaster hanswer hwaiting hslave => ?_
      rw [← hmaster] at hbetween hawaits hgone
      rw [← hanswer] at hdelivers
      rw [← hwaiting] at hwaits
      obtain ⟨next, _, _, _, rest, hstep, hnext, hcount, -⟩ :=
        irq_taken hbetween hawaits hgone hdelivers hwaits hslave hturn
      exact .of_step hstep trivial (hnext.comesTo hcount)

/-- The loop comes to the end of the command. -/
theorem InPhase.comesToEnd (h : InPhase path l task own left toCome) : ComesTo path 0 l := by
  have hcount : ∃ count, own + left = count := ⟨_, rfl⟩
  obtain ⟨count, hcount⟩ := hcount
  induction count generalizing l task own left toCome with
  | zero => exact h.comesTo hcount
  | succ count ih =>
      have hless : ComesTo path count l := by
        by_cases hleft : left = 0
        · subst hleft
          have hnext := h.advance (by omega)
          rwa [show own - 1 = count by omega] at hnext
        · have hnext := h.slave_advances hleft
          rwa [show own + left - 1 = count by omega] at hnext
      exact hless.trans fun next task own left toCome hnext hcount => ih hnext hcount

/-- A loop in a phase serves the commands that were issued. -/
theorem InPhase.serves (h : InPhase path l task own left toCome) {commands : List StorageCommand}
    (hlog : l.log ++ toCome = expectedLog commands) : Serves path commands l where
  inOrder := ⟨toCome, hlog⟩
  complete hquiet := by
    obtain ⟨hnil, -, haccepts⟩ := h.settled (h.idle_of_quiet hquiet)
    rw [hnil, List.append_nil] at hlog
    exact ⟨hlog, haccepts⟩
  settles := by
    obtain ⟨events, last, task, own, left, rest, hevents, hrun, hphase, hcount⟩ := h.comesToEnd
    exact ⟨events, last, hevents, hrun, (hphase.settled (by omega)).2.1⟩

end Phases

/-! ## Sequences of commands -/

theorem commandsOf_concat (events : List LoopEvent) (event : LoopEvent) :
    commandsOf (events ++ [event]) = commandsOf events ++ commandsOf [event] := List.filterMap_append

theorem commandsOf_local {event : LoopEvent} (h : event.IsLocal) : commandsOf [event] = [] := by
  cases event with
  | command command => exact h.elim
  | toSlave | slavework | packetOut | packetIn | hcdIrq | toMaster | handle | irq | take => rfl

theorem expectedLog_concat (commands : List StorageCommand) (command : StorageCommand) :
    expectedLog (commands ++ [command]) = expectedLog commands ++ command.entries := by
  simp [expectedLog]

/-- The loop starts between two commands. -/
theorem StorageAtRest.inPhase {path : BulkPath} {master : Device.Core0} {slave : Host.Core0}
    (h : StorageAtRest path master slave) (turn : Turn) :
    InPhase path (Loop.start master slave turn) .rest 0 0 [] where
  phase := by
    have hawaits := h.master
    exact .idle ⟨⟨hawaits.mounted, hawaits.busReset, hawaits.setupReq, hawaits.bufStatus⟩,
      hawaits.rx⟩ hawaits.awaits hawaits.idle rfl
  slave := ⟨h.running, h.causes, h.ready, Nat.le_refl _, Nat.le_refl _,
    .rest ⟨List.drop_length, h.rx, List.drop_length⟩ (.idle h.idle)⟩

/-- The loop keeps to the phases as long as the driver can tell the packets of the device apart. -/
theorem keepsLog_of_run {path : BulkPath} {master : Device.Core0} {slave : Host.Core0} {turn : Turn}
    {events : List LoopEvent} {l : Loop} (hstart : StorageAtRest path master slave)
    (hrun : Machine.run (storageStep path) (.start master slave turn) events = some l)
    (hdistinct : ∀ command ∈ commandsOf events, command.Distinct path.interface) :
    KeepsLog path l (expectedLog (commandsOf events)) := by
  refine Machine.run_history (H := fun before state =>
    (∀ command ∈ commandsOf before, command.Distinct path.interface) →
      KeepsLog path state (expectedLog (commandsOf before))) ?_ ?_ hrun hdistinct
  · intro before state event next hbefore hstep hdistinct
    rw [commandsOf_concat] at hdistinct ⊢
    obtain ⟨task, own, left, toCome, hphase, hlog⟩ :=
      hbefore fun command hmem => hdistinct command (List.mem_append_left _ hmem)
    by_cases hlocal : event.IsLocal
    · rw [commandsOf_local hlocal, List.append_nil, ← hlog]
      exact hphase.step_local hlocal hstep
    · cases event with
      | command command =>
          have hcommand := hdistinct command (List.mem_append_right _ List.mem_cons_self)
          have hnext := hphase.step_command hcommand hstep
          rw [hlog] at hnext
          exact expectedLog_concat _ command ▸ hnext
      | toSlave | slavework | packetOut | packetIn | hcdIrq | toMaster | handle | irq | take =>
          exact absurd trivial hlocal
  · exact fun _ => ⟨.rest, 0, 0, [], hstart.inPhase turn, rfl⟩

/-- The commands of a mounted mass-storage interface are served, whatever their packets and in
whatever order the parties take their steps, as long as no data packet has the length of a status
wrapper and each packet ends the read that it answers. -/
theorem commands_served {path : BulkPath} {master : Device.Core0} {slave : Host.Core0} {turn : Turn}
    {events : List LoopEvent} {l : Loop} (hstart : StorageAtRest path master slave)
    (hrun : Machine.run (storageStep path) (.start master slave turn) events = some l)
    (hdistinct : ∀ command ∈ commandsOf events, command.Distinct path.interface) :
    Serves path (commandsOf events) l := by
  obtain ⟨task, own, left, toCome, hphase, hlog⟩ := keepsLog_of_run hstart hrun hdistinct
  exact hphase.serves hlog

/-- A command with one data packet. -/
def readCommand (length : Nat) (h : 1 ≤ length ∧ length ≤ 64) : StorageCommand where
  block := zeros 31 (by omega)
  data := [zeros length (by omega)]
  status := zeros 13 (by omega)
  block_length := rfl
  data_length := by simpa [zeros] using h
  status_length := rfl

/-- A packet is asked for, read, reported, offered and taken. -/
def passPacket : List LoopEvent :=
  [.toSlave, .slavework, .packetIn, .hcdIrq, .toMaster, .handle, .take, .irq]

/-- A block is sent and echoed, and its first packet is taken. -/
def passBlock (command : StorageCommand) : List LoopEvent :=
  [.handle, .command command, .irq, .toSlave, .slavework, .packetOut, .hcdIrq, .toMaster, .handle,
    .irq] ++ passPacket

theorem twoCommands_served :
    ∃ b l, Reaches 0 0 mountDisk b ∧ StorageAtRest diskPath b.device b.host ∧
      Machine.run (storageStep diskPath) (.start b.device b.host .handle)
        (passBlock (readCommand 64 (by omega)) ++ passPacket ++
          passBlock (readCommand 8 (by omega))) = some l ∧
      Serves diskPath [readCommand 64 (by omega), readCommand 8 (by omega)] l := by
  have hends : ∃ b, Machine.run step (init 0 0) mountDisk = some b ∧
      StorageAtRest diskPath b.device b.host ∧
      (Machine.run (storageStep diskPath) (.start b.device b.host .handle)
        (passBlock (readCommand 64 (by omega)) ++ passPacket ++
          passBlock (readCommand 8 (by omega)))).isSome :=
    Machine.exists_run_of_any (by decide +kernel)
  obtain ⟨b, hreach, hrest, hruns⟩ := hends
  obtain ⟨l, hrun⟩ := Option.isSome_iff_exists.mp hruns
  exact ⟨b, l, hreach, hrest, hrun, commands_served hrest hrun (by decide)⟩

/-- After a data packet of 13 bytes, such as the tail of a long answer, the master waits for a
command and the host for the status. -/
theorem shortPacket_not_served :
    ¬ ∀ (path : BulkPath) (master : Device.Core0) (slave : Host.Core0) (turn : Turn)
      (events : List LoopEvent) (l : Loop), StorageAtRest path master slave →
        Machine.run (storageStep path) (.start master slave turn) events = some l →
          Serves path (commandsOf events) l := by
  intro hclaim
  let events := passBlock (readCommand 13 (by omega))
  have hends : ∃ b, Machine.run step (init 0 0) mountDisk = some b ∧
      StorageAtRest diskPath b.device b.host ∧
      (Machine.run (storageStep diskPath) (.start b.device b.host .handle) events).any
        fun l => decide (Quiet diskPath l ∧ l.log.length = 3) :=
    Machine.exists_run_of_any (by decide +kernel)
  obtain ⟨b, -, hrest, hany⟩ := hends
  obtain ⟨l, hreach, hquiet, hlength⟩ := Machine.exists_run_of_any
    (P := fun l => Quiet diskPath l ∧ l.log.length = 3) hany
  have hserves := hclaim diskPath b.device b.host .handle events l hrest hreach
  have hlog := (hserves.complete hquiet).1
  have hexpected : (expectedLog (commandsOf events)).length = 5 := by decide
  rw [hlog, hexpected] at hlength
  cases hlength

end UsbSec.System
