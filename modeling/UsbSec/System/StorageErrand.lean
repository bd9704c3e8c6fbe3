import UsbSec.Host.BulkTask
import UsbSec.System.StorageLoop

/-!
# What the slave does with one message

The master sends the slave one message at a time, and the slave reports the packet that it asked
for. The message is delivered, dequeued by `slavework`, the packet is exchanged on the EPX registers,
the interrupt handler reports it, and the report is delivered. For each of these there is one lemma.
-/

namespace UsbSec.System

open Library Usb Rp2040 Device Host

/-! ## Errands -/

/-- The messages on their way to the slave, the ones it has, and the ones on their way back. -/
structure Posted (l : Loop) (sent rx reports : List SpiMessage) : Prop where
  sent : l.sent = sent
  rx : l.slave.slave.rx.items = rx
  reports : l.reports = reports

/-- How far the slave is with its task: the number of steps to come before the packet is exchanged,
or before the report is delivered. -/
inductive Errand (dev : BulkDevice) (l : Loop) : Task → Nat → Prop
  | rest (posted : Posted l [] [] []) (serves : EpxServes dev l.slave.slave.hcd none none) :
      Errand dev l .rest 0
  | asked {task : Task} {message : SpiMessage} (posted : Posted l [message] [] [])
      (requests : Requests dev message task) (serves : EpxServes dev l.slave.slave.hcd none none) :
      Errand dev l task 2
  | received {task : Task} {message : SpiMessage} (posted : Posted l [] [message] [])
      (requests : Requests dev message task) (serves : EpxServes dev l.slave.slave.hcd none none) :
      Errand dev l task 1
  | started {task : Task} (posted : Posted l [] [] [])
      (exchanging : Exchanging dev l.slave.slave.hcd task) : Errand dev l task 0
  | exchanged {e : BulkEndpoint} {carried : Carried} (posted : Posted l [] [] [])
      (serves : EpxServes dev l.slave.slave.hcd (some e) (some carried)) :
      Errand dev l (.report carried) 1
  | reported {carried : Carried} {message : SpiMessage} (posted : Posted l [] [] [message])
      (reports : carried.ReportedBy message)
      (serves : EpxServes dev l.slave.slave.hcd none none) : Errand dev l (.report carried) 0

/-- The slave runs, its endpoints are open, and it is so far with its task. -/
structure SlaveAt (dev : BulkDevice) (l : Loop) (task : Task) (left : Nat) : Prop where
  running : l.slave.halted = none
  causes : NoErrors l.slave.causes
  ready : BulkReady dev l.slave.slave.hcd
  handed : l.handed ≤ l.master.master.outbox.length
  reported : l.reported ≤ l.slave.slave.outbox.length
  errand : Errand dev l task left

/-! ## The steps of the slave -/

section Steps

variable {path : BulkPath} {l : Loop} {task : Task} {left : Nat}

/-- What is posted when nothing but the slave changes. -/
theorem Posted.of_slave {sent rx reports : List SpiMessage} (h : Posted l sent rx reports)
    {slave : Host.Core0} {items : List SpiMessage} (hrx : slave.slave.rx.items = items)
    (houtbox : slave.slave.outbox = l.slave.slave.outbox) :
    Posted { l with slave := slave } sent items reports := by
  refine ⟨h.sent, hrx, ?_⟩
  show slave.slave.outbox.drop l.reported = reports
  rw [houtbox]
  exact h.reports

/-- The queue of the slave takes a message that is delivered. -/
theorem receive_empty {c : Host.Core0} (hrunning : c.halted = none) (hrx : c.slave.rx.items = [])
    (message : SpiMessage) :
    ∃ queue : SpiQueue, queue.items = [message] ∧ Host.step c (.receive message) =
      some { c with slave := { c.slave with rx := queue } } := by
  let queue : SpiQueue := ⟨[message], by simp [spiQueueMaxCapacity]⟩
  have hadd : c.slave.rx.add message = some queue := by
    refine Fifo.add_eq_some.mpr ⟨?_, ?_⟩
    · rw [hrx]
      simp [spiQueueMaxCapacity]
    · rw [hrx]
      rfl
  refine ⟨queue, rfl, ?_⟩
  rw [Host.step_running hrunning]
  unfold Host.stepRunning
  dsimp only
  rw [hadd]
  rfl

/-- The message that is on its way is delivered. -/
theorem SlaveAt.delivers (h : SlaveAt path.slave l task 2) :
    ∃ slave, storageStep path l .toSlave = some { l with slave := slave, handed := l.handed + 1 } ∧
      SlaveAt path.slave { l with slave := slave, handed := l.handed + 1 } task 1 := by
  cases h.errand with
  | @asked _ message hposted hrequests hserves =>
      obtain ⟨queue, hqueue, hstep⟩ := receive_empty h.running hposted.rx message
      have hlt : l.handed < l.master.master.outbox.length := by
        refine Nat.lt_of_not_le fun hle => ?_
        have hnone : l.sent = [] := List.drop_eq_nil_of_le hle
        cases hnone.symm.trans hposted.sent
      refine ⟨{ l.slave with slave := { l.slave.slave with rx := queue } }, ?_, h.running, h.causes,
        h.ready, hlt, h.reported, ?_⟩
      · unfold storageStep
        dsimp only
        rw [hposted.sent]
        simp only [Option.bind_eq_bind, List.head?_cons, Option.bind_some, hstep]
      · refine .received ⟨?_, hqueue, hposted.reports⟩ hrequests hserves
        show l.master.master.outbox.drop (l.handed + 1) = []
        rw [← List.tail_drop, show l.master.master.outbox.drop l.handed = [message] from hposted.sent]
        rfl

/-- Without a message on its way nothing is delivered. -/
theorem toSlave_rests (hsent : l.sent = []) : storageStep path l .toSlave = none := by
  unfold storageStep
  dsimp only
  rw [hsent]
  rfl

/-- A function of core 0 that ends. -/
theorem step_slavework (hrunning : l.slave.halted = none) {s : Slave}
    (hrun : Host.slavework l.slave.slave = .ok () s) :
    storageStep path l .slavework = some { l with slave := { l.slave with slave := s } } := by
  unfold storageStep
  dsimp only
  rw [Host.step_running hrunning]
  unfold Host.stepRunning
  dsimp only
  rw [runHandler_ok hrun]
  rfl

theorem step_hcdIrq (hrunning : l.slave.halted = none) {s : Slave}
    (hrun : hcdRp2040Irq l.slave.causes (l.slave.slave.hcd.bufStatus != 0)
      l.slave.slave.hcd.transComplete l.slave.slave = .ok () s) :
    storageStep path l .hcdIrq = some { l with slave := { l.slave with slave := s } } := by
  unfold storageStep
  dsimp only
  rw [Host.step_running hrunning]
  unfold Host.stepRunning
  dsimp only
  rw [runHandler_ok hrun]
  rfl

/-- `slavework` starts the task that it was given. -/
theorem SlaveAt.starts (h : SlaveAt path.slave l task 1) (hrequested : l.slave.slave.rx.items ≠ []) :
    ∃ slave, storageStep path l .slavework = some { l with slave := slave } ∧
      SlaveAt path.slave { l with slave := slave } task 0 := by
  cases h.errand with
  | received hposted hrequests hserves =>
      obtain ⟨s, hrun, hitems, houtbox, hready, hexchanging⟩ :=
        hserves.slavework_starts h.ready hposted.rx hrequests
      refine ⟨_, step_slavework h.running hrun, h.running, h.causes, hready, h.handed, ?_, ?_⟩
      · show l.reported ≤ s.outbox.length
        rw [houtbox]
        exact h.reported
      · exact .started (hposted.of_slave hitems houtbox) hexchanging
  | exchanged hposted => exact absurd hposted.rx hrequested

/-- Without a message `slavework` does nothing. -/
theorem slavework_same (hrunning : l.slave.halted = none) (hrx : l.slave.slave.rx.items = []) :
    storageStep path l .slavework = some l := step_slavework hrunning (slavework_rests hrx)

/-- The controller exchanges nothing while the registers are idle. -/
theorem idle_no_exchange {dev : BulkDevice} {h : Hcd} (hserves : EpxServes dev h none none)
    (direction : BitVec 32) : ¬ DataStarted h direction := by
  cases hserves with
  | idle hidle => exact Host.no_exchange hidle.disarmed direction

/-- The device takes the block. -/
theorem SlaveAt.sends {block : List UInt8} (h : SlaveAt path.slave l (.write block) 0) :
    ∃ slave, storageStep path l .packetOut =
        some { l with slave := slave, log := l.log ++ [.block block] } ∧
      SlaveAt path.slave { l with slave := slave, log := l.log ++ [.block block] }
        (.report ⟨path.interface.epOut, block⟩) 1 := by
  cases h.errand with
  | started hposted hexchanging =>
      cases hexchanging with
      | writing hwriting hsize =>
          have hout : tuEdptDirIn path.slave.out.epAddr = false := path.slave.out_dir
          have hsome : (sendOut l.slave.slave.hcd).isSome := by
            unfold sendOut
            rw [if_pos ⟨hwriting.dataStarted hout, hwriting.full⟩]
            rfl
          obtain ⟨hcd, hsend⟩ := Option.isSome_iff_exists.mp hsome
          obtain ⟨hsame, hwritten, hbytes⟩ := hwriting.sends h.ready.out hsend
          have haddress : addressedEndpoint l.slave.slave.hcd = path.interface.epOut :=
            hwriting.transfer.addressed
          let slave : Host.Core0 := { l.slave with slave := { l.slave.slave with
            hcd := hcd, calls := l.slave.slave.calls ++ [.transacted .packetOut] } }
          have hstep : Host.step l.slave .packetOut = some slave := by
            rw [Host.step_running h.running]
            unfold Host.stepRunning transact
            dsimp only
            rw [hsend]
            rfl
          refine ⟨slave, ?_, h.running, h.causes, h.ready.of_same hsame, h.handed, h.reported, ?_⟩
          · unfold storageStep
            simp [haddress, guard, hstep, hbytes]
          · exact .exchanged ⟨hposted.sent, hposted.rx, hposted.reports⟩ (.written hwritten hsize)

/-- The device answers a read with a packet that ends it. -/
theorem SlaveAt.reads {length : Nat} {packet : Packet} {rest : List Packet}
    (h : SlaveAt path.slave l (.read length) 0) (hanswer : l.answer = packet :: rest)
    (hfits : packet.bytes.length ≤ path.interface.inSize.toNat)
    (hsuffices : Suffices path.interface length packet) :
    ∃ slave, storageStep path l .packetIn = some { l with slave := slave, answer := rest } ∧
      SlaveAt path.slave { l with slave := slave, answer := rest }
        (.report ⟨path.interface.epIn, packet.bytes⟩) 1 := by
  cases h.errand with
  | started hposted hexchanging =>
      cases hexchanging with
      | reading hreading hsize =>
          have hin : tuEdptDirIn path.slave.into.epAddr = true := path.slave.in_dir
          have hsome : (receiveIn l.slave.slave.hcd packet).isSome := by
            unfold receiveIn
            rw [if_pos (hreading.dataStarted hin)]
            rfl
          obtain ⟨hcd, hreceive⟩ := Option.isSome_iff_exists.mp hsome
          -- The packet is short, or the read asked for no more: the engine does not go on with it.
          have hends : EndsRead l.slave.slave.hcd packet :=
            hreading.endsRead h.ready.into hsize hsuffices
          have haddress : addressedEndpoint l.slave.slave.hcd = path.interface.epIn :=
            hreading.transfer.addressed
          obtain ⟨-, hready, hserves⟩ :=
            (EpxServes.reading hreading).receives h.ready hfits hends hreceive
          let slave : Host.Core0 := { l.slave with slave := { l.slave.slave with
            hcd := hcd, calls := l.slave.slave.calls ++ [.transacted .packetIn] } }
          have hstep : Host.step l.slave (.packetIn packet) = some slave := by
            rw [Host.step_running h.running]
            unfold Host.stepRunning transact
            dsimp only
            rw [hreceive]
            rfl
          refine ⟨slave, ?_, h.running, h.causes, hready, h.handed, h.reported, ?_⟩
          · unfold storageStep
            simp [haddress, guard, hanswer, hstep]
          · rw [haddress] at hserves
            exact .exchanged ⟨hposted.sent, hposted.rx, hposted.reports⟩ hserves

/-- The interrupt handler reports the packet. -/
theorem SlaveAt.reportsPacket {carried : Carried} (h : SlaveAt path.slave l (.report carried) 1) :
    ∃ slave, storageStep path l .hcdIrq = some { l with slave := slave } ∧
      SlaveAt path.slave { l with slave := slave } (.report carried) 0 := by
  cases h.errand with
  | received _ hrequests => cases hrequests
  | exchanged hposted hserves =>
      obtain ⟨s, message, hrun, hrx, houtbox, hmessage, hready, hidle⟩ :=
        irq_reports hserves h.ready h.causes
      have hreports : s.outbox.drop l.reported = [message] := by
        rw [houtbox, List.drop_append_of_le_length h.reported]
        show l.reports ++ [message] = [message]
        rw [hposted.reports]
        rfl
      refine ⟨{ l.slave with slave := s }, step_hcdIrq h.running hrun, h.running, h.causes, hready,
        h.handed, ?_, .reported ⟨hposted.sent, ?_, hreports⟩ hmessage hidle⟩
      · show l.reported ≤ s.outbox.length
        rw [houtbox, List.length_append]
        exact Nat.le_add_right_of_le h.reported
      · show s.rx.items = []
        rw [hrx]
        exact hposted.rx

/-! ## What cannot happen -/

/-- Without a message on its way nothing is delivered. -/
theorem SlaveAt.toSlave_left (h : SlaveAt path.slave l task left) {next : Loop}
    (hstep : storageStep path l .toSlave = some next) : left = 2 := by
  have hrest (hsent : l.sent = []) : left = 2 := by
    cases hstep.symm.trans (toSlave_rests hsent)
  cases h.errand with
  | asked => rfl
  | rest hposted => exact hrest hposted.sent
  | received hposted => exact hrest hposted.sent
  | started hposted => exact hrest hposted.sent
  | exchanged hposted => exact hrest hposted.sent
  | reported hposted => exact hrest hposted.sent

/-- The device takes a packet only when a block is to be written. -/
theorem SlaveAt.packetOut_task (h : SlaveAt path.slave l task left) {next : Loop}
    (hstep : storageStep path l .packetOut = some next) : ∃ block, task = .write block ∧ left = 0 := by
  have hstarted : DataStarted l.slave.slave.hcd sieCtrlSendData := by
    by_contra hnot
    have hnone : sendOut l.slave.slave.hcd = none := if_neg fun hsends => hnot hsends.1
    unfold storageStep at hstep
    simp [Host.step, Host.stepRunning, transact, hnone] at hstep
  cases h.errand with
  | rest _ hserves => exact absurd hstarted (idle_no_exchange hserves _)
  | asked _ _ hserves => exact absurd hstarted (idle_no_exchange hserves _)
  | received _ _ hserves => exact absurd hstarted (idle_no_exchange hserves _)
  | reported _ _ hserves => exact absurd hstarted (idle_no_exchange hserves _)
  | started _ hexchanging =>
      cases hexchanging with
      | writing => exact ⟨_, rfl, rfl⟩
      | reading hreading =>
          exact absurd hstarted (hreading.transfer.one_direction.2 path.slave.in_dir)
  | exchanged _ hserves => exact absurd hstarted (hserves.exchanged_rests _)

/-- The device answers only when a packet is to be read. -/
theorem SlaveAt.packetIn_task (h : SlaveAt path.slave l task left) {next : Loop}
    (hstep : storageStep path l .packetIn = some next) : ∃ length, task = .read length ∧ left = 0 := by
  have hstarted : DataStarted l.slave.slave.hcd sieCtrlReceiveData := by
    by_contra hnot
    have hnone (packet : Packet) : receiveIn l.slave.slave.hcd packet = none := if_neg hnot
    unfold storageStep at hstep
    simp [Host.step, Host.stepRunning, transact, hnone] at hstep
  cases h.errand with
  | rest _ hserves => exact absurd hstarted (idle_no_exchange hserves _)
  | asked _ _ hserves => exact absurd hstarted (idle_no_exchange hserves _)
  | received _ _ hserves => exact absurd hstarted (idle_no_exchange hserves _)
  | reported _ _ hserves => exact absurd hstarted (idle_no_exchange hserves _)
  | started _ hexchanging =>
      cases hexchanging with
      | reading => exact ⟨_, rfl, rfl⟩
      | writing hwriting =>
          exact absurd hstarted (hwriting.transfer.one_direction.1 path.slave.out_dir)
  | exchanged _ hserves => exact absurd hstarted (hserves.exchanged_rests _)

/-- `slavework` starts a task that it was given, or does nothing. -/
theorem SlaveAt.slavework (h : SlaveAt path.slave l task left) :
    ∃ slave later, storageStep path l .slavework = some { l with slave := slave } ∧
      SlaveAt path.slave { l with slave := slave } task later := by
  have hrest (hrx : l.slave.slave.rx.items = []) :
      ∃ slave later, storageStep path l .slavework = some { l with slave := slave } ∧
        SlaveAt path.slave { l with slave := slave } task later :=
    ⟨l.slave, left, slavework_same h.running hrx, h⟩
  cases herrand : h.errand with
  | received hposted =>
      obtain ⟨slave, hstep, hslave⟩ := h.starts (by rw [hposted.rx]; exact List.cons_ne_nil _ _)
      exact ⟨slave, 0, hstep, hslave⟩
  | asked hposted => exact hrest hposted.rx
  | rest hposted => exact hrest hposted.rx
  | started hposted => exact hrest hposted.rx
  | exchanged hposted => exact hrest hposted.rx
  | reported hposted => exact hrest hposted.rx

/-- While no packet waits, the interrupt handler leaves the task as it is. -/
theorem SlaveAt.acknowledges (h : SlaveAt path.slave l task left) {who : Option BulkEndpoint}
    (hserves : EpxServes path.slave l.slave.slave.hcd who none)
    (hkept : ∀ transComplete, Errand path.slave { l with slave := { l.slave with
      slave := acknowledged transComplete l.slave.slave } } task left) :
    ∃ slave, storageStep path l .hcdIrq = some { l with slave := slave } ∧
      SlaveAt path.slave { l with slave := slave } task left :=
  ⟨_, step_hcdIrq h.running (irq_quiet hserves h.causes), h.running, h.causes,
    h.ready.of_same ⟨fun _ => rfl, rfl, rfl⟩, h.handed, h.reported, hkept _⟩

/-- The interrupt handler reports a packet that waits, or leaves the task as it is. -/
theorem SlaveAt.hcdIrq (h : SlaveAt path.slave l task left) :
    ∃ slave later, storageStep path l .hcdIrq = some { l with slave := slave } ∧
      SlaveAt path.slave { l with slave := slave } task later := by
  have hsame {sent rx reports : List SpiMessage} (hposted : Posted l sent rx reports)
      (transComplete : Bool) : Posted { l with slave := { l.slave with
        slave := acknowledged transComplete l.slave.slave } } sent rx reports :=
    ⟨hposted.sent, hposted.rx, hposted.reports⟩
  cases herrand : h.errand with
  | rest hposted hserves =>
      obtain ⟨slave, hstep, hslave⟩ := h.acknowledges hserves fun transComplete =>
        .rest (hsame hposted _) (hserves.acknowledge _)
      exact ⟨slave, _, hstep, hslave⟩
  | asked hposted hrequests hserves =>
      obtain ⟨slave, hstep, hslave⟩ := h.acknowledges hserves fun transComplete =>
        .asked (hsame hposted _) hrequests (hserves.acknowledge _)
      exact ⟨slave, _, hstep, hslave⟩
  | received hposted hrequests hserves =>
      obtain ⟨slave, hstep, hslave⟩ := h.acknowledges hserves fun transComplete =>
        .received (hsame hposted _) hrequests (hserves.acknowledge _)
      exact ⟨slave, _, hstep, hslave⟩
  | started hposted hexchanging =>
      obtain ⟨e, hserves⟩ := hexchanging.serves
      obtain ⟨slave, hstep, hslave⟩ := h.acknowledges hserves fun transComplete =>
        .started (hsame hposted _) (hexchanging.acknowledge _)
      exact ⟨slave, _, hstep, hslave⟩
  | exchanged =>
      obtain ⟨slave, hstep, hslave⟩ := h.reportsPacket
      exact ⟨slave, 0, hstep, hslave⟩
  | reported hposted hreports hserves =>
      obtain ⟨slave, hstep, hslave⟩ := h.acknowledges hserves fun transComplete =>
        .reported (hsame hposted _) hreports (hserves.acknowledge _)
      exact ⟨slave, _, hstep, hslave⟩

/-! ## The master's side of the queues -/

/-- A slave with nothing to do has no message, and none is on its way. -/
theorem SlaveAt.rests (h : SlaveAt path.slave l .rest left) :
    left = 0 ∧ Posted l [] [] [] ∧ EpxServes path.slave l.slave.slave.hcd none none := by
  cases h.errand with
  | rest hposted hserves => exact ⟨rfl, hposted, hserves⟩
  | asked _ hrequests => cases hrequests
  | received _ hrequests => cases hrequests
  | started _ hexchanging => cases hexchanging

/-- The master hands over nothing. -/
theorem SlaveAt.of_same {dev : BulkDevice} (h : SlaveAt dev l task left) {next : Loop}
    (hslave : next.slave = l.slave) (hhanded : next.handed = l.handed)
    (hreported : next.reported = l.reported)
    (houtbox : next.master.master.outbox = l.master.master.outbox) : SlaveAt dev next task left := by
  have hposted {sent rx reports : List SpiMessage} (hposted : Posted l sent rx reports) :
      Posted next sent rx reports := by
    obtain ⟨hsent, hrx, hreports⟩ := hposted
    refine ⟨?_, ?_, ?_⟩
    · show next.master.master.outbox.drop next.handed = sent
      rw [houtbox, hhanded]
      exact hsent
    · rw [hslave]
      exact hrx
    · show next.slave.slave.outbox.drop next.reported = reports
      rw [hslave, hreported]
      exact hreports
  obtain ⟨hrunning, hcauses, hready, hle, hreportedLe, herrand⟩ := h
  rw [← hslave] at hrunning hcauses hready hreportedLe
  rw [← hhanded, ← houtbox] at hle
  rw [← hreported] at hreportedLe
  refine ⟨hrunning, hcauses, hready, hle, hreportedLe, ?_⟩
  cases herrand with
  | rest hp hserves => exact .rest (hposted hp) (hslave ▸ hserves)
  | asked hp hrequests hserves => exact .asked (hposted hp) hrequests (hslave ▸ hserves)
  | received hp hrequests hserves => exact .received (hposted hp) hrequests (hslave ▸ hserves)
  | started hp hexchanging => exact .started (hposted hp) (hslave ▸ hexchanging)
  | exchanged hp hserves => exact .exchanged (hposted hp) (hslave ▸ hserves)
  | reported hp hreports hserves => exact .reported (hposted hp) hreports (hslave ▸ hserves)

/-- The master hands over a message that gives the slave a task. -/
theorem SlaveAt.asks (h : SlaveAt path.slave l .rest left)
    {message : SpiMessage} (hrequests : Requests path.slave message task) {next : Loop}
    (hslave : next.slave = l.slave) (hhanded : next.handed = l.handed)
    (hreported : next.reported = l.reported)
    (houtbox : next.master.master.outbox = l.master.master.outbox ++ [message]) :
    SlaveAt path.slave next task 2 := by
  obtain ⟨-, hposted, hserves⟩ := h.rests
  have hsent : next.sent = [message] := by
    show next.master.master.outbox.drop next.handed = [message]
    rw [houtbox, hhanded, List.drop_append_of_le_length h.handed]
    show l.sent ++ [message] = [message]
    rw [hposted.sent]
    rfl
  have hreports : next.reports = [] := by
    show next.slave.slave.outbox.drop next.reported = []
    rw [hslave, hreported]
    exact hposted.reports
  have hrx := hposted.rx
  obtain ⟨hrunning, hcauses, hready, hle, hreportedLe, -⟩ := h
  rw [← hslave] at hrunning hcauses hready hreportedLe hrx hserves
  rw [← hreported] at hreportedLe
  refine ⟨hrunning, hcauses, hready, ?_, hreportedLe, .asked ⟨hsent, hrx, hreports⟩ hrequests hserves⟩
  rw [hhanded, houtbox, List.length_append]
  exact Nat.le_add_right_of_le hle

/-- A report that is on its way. -/
theorem SlaveAt.returns {carried : Carried} (h : SlaveAt path.slave l (.report carried) 0) :
    ∃ message, l.reports = [message] ∧ carried.ReportedBy message ∧ l.sent = [] := by
  cases h.errand with
  | started _ hexchanging => cases hexchanging
  | reported hposted hreports hserves => exact ⟨_, hposted.reports, hreports, hposted.sent⟩

/-- The report is delivered. -/
theorem SlaveAt.returned {carried : Carried} (h : SlaveAt path.slave l (.report carried) 0)
    {master : Device.Core0} (houtbox : master.master.outbox = l.master.master.outbox) :
    SlaveAt path.slave { l with master := master, reported := l.reported + 1 } .rest 0 := by
  cases h.errand with
  | started _ hexchanging => cases hexchanging
  | @reported _ message hposted _ hserves =>
      have hlt : l.reported < l.slave.slave.outbox.length := by
        refine Nat.lt_of_not_le fun hle => ?_
        have hnone : l.reports = [] := List.drop_eq_nil_of_le hle
        cases hnone.symm.trans hposted.reports
      refine ⟨h.running, h.causes, h.ready, ?_, hlt, .rest ⟨?_, hposted.rx, ?_⟩ hserves⟩
      · show l.handed ≤ master.master.outbox.length
        rw [houtbox]
        exact h.handed
      · show master.master.outbox.drop l.handed = []
        rw [houtbox]
        exact hposted.sent
      · show l.slave.slave.outbox.drop (l.reported + 1) = []
        rw [← List.tail_drop, show l.slave.slave.outbox.drop l.reported = [message] from
          hposted.reports]
        rfl

/-- Without a report on its way none is delivered. -/
theorem SlaveAt.toMaster_task (h : SlaveAt path.slave l task left) {next : Loop}
    (hstep : storageStep path l .toMaster = some next) :
    ∃ carried, task = .report carried ∧ left = 0 := by
  have hrest (hreports : l.reports = []) : ∃ carried, task = .report carried ∧ left = 0 := by
    unfold storageStep at hstep
    dsimp only at hstep
    rw [hreports] at hstep
    cases hstep
  cases h.errand with
  | reported => exact ⟨_, rfl, rfl⟩
  | rest hposted => exact hrest hposted.reports
  | asked hposted => exact hrest hposted.reports
  | received hposted => exact hrest hposted.reports
  | started hposted => exact hrest hposted.reports
  | exchanged hposted => exact hrest hposted.reports

end Steps

end UsbSec.System
