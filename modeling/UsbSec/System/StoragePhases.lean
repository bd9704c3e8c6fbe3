import UsbSec.System.StorageErrand

/-!
# The phases of a mass-storage command

A command passes through a fixed row of phases: its block is sent, forwarded, written to the device
and echoed, and then each packet of the device is asked for, read, reported, offered and taken. Each
phase says where the command is, what the slave has to do, and what the log still lacks. For each
there is one step of the loop that leads to the next phase.
-/

namespace UsbSec.System

open Library Usb Rp2040 Device Host

/-! ## Phases -/

/-- The packets that the device still has for a command, when the next read asks for so many bytes.
Only the last one, the status wrapper, has 13 bytes. -/
inductive Pending (dev : StorageInterface) : Nat → List Packet → Prop
  | status {length : Nat} {packet : Packet} (status : packet.bytes.length = 13)
      (ends : Suffices dev length packet) : Pending dev length [packet]
  | data {length : Nat} {packet : Packet} {rest : List Packet} (size : packet.bytes.length ≤ 64)
      (fits : packet.bytes.length ≤ dev.inSize.toNat) (other : packet.bytes.length ≠ 13)
      (ends : Suffices dev length packet) (pending : Pending dev 64 rest) :
      Pending dev length (packet :: rest)

/-- What holds of the master between the steps of the loop: the interface is mounted, and these are
the messages of the slave and the buffers that completed. -/
structure Between (dev : StorageInterface) (rx : List SpiMessage) (bits : BitVec 32)
    (m : Device.Core0) : Prop extends Attends dev bits m where
  rx : m.master.rx.items = rx

/-- The device has the packets, and the host waits for them. -/
structure Expects (dev : StorageInterface) (length : Nat) (packets answer : List Packet)
    (waiting : Nat) : Prop where
  pending : Pending dev length packets
  answer : answer = packets
  waiting : waiting = packets.length

/-- The device has sent a packet, and these are behind it. -/
structure Delivers (dev : StorageInterface) (length : Nat) (packet : Packet)
    (rest answer : List Packet) : Prop where
  pending : Pending dev length (packet :: rest)
  answer : answer = rest

/-- Where a command is, what the slave has to do then, the number of phases to come, and what the log
still lacks. The block of a command may be sent before the completion of the last status wrapper is
dealt with (`late`). Then that completion is dealt with before the driver is permitted to read again,
for `core0_loop` calls its functions in turn. -/
inductive CommandPhase (path : BulkPath) (m : Device.Core0) (turn : Turn) (answer : List Packet)
    (waiting : Nat) : Host.Task → Nat → List Entry → Prop
  | idle (between : Between path.interface [] 0 m)
      (awaits : AwaitsBlock (m.master.outLane path.interface))
      (idle : (m.master.inLane path.interface).Idle) (waits : waiting = 0) :
      CommandPhase path m turn answer waiting .rest 0 []
  | sent {block : List UInt8} {packets : List Packet} (late : Bool)
      (between : Between path.interface []
        (bufStatusBit (2 * endpointNum path.interface.epOut + 1) ||| lateBits path.interface late) m)
      (held : BlockHeld path.interface block m.master)
      (idle : (m.master.inLane path.interface).Idle)
      (lateTaken : late = true → ∃ count, PacketTaken count (m.master.inLane path.interface))
      (expects : Expects path.interface path.interface.controlSize.toNat packets answer waiting) :
      CommandPhase path m turn answer waiting .rest (8 * packets.length + 7)
        (.block block :: packetEntries packets)
  | forwarded {block : List UInt8} {packets : List Packet} (late : Bool)
      (between : Between path.interface [] (lateBits path.interface late) m)
      (idle : (m.master.inLane path.interface).Idle)
      (lateDone : late = true → LateDone path.interface m.master)
      (expects : Expects path.interface path.interface.controlSize.toNat packets answer waiting) :
      CommandPhase path m turn answer waiting (.write block) (8 * packets.length + 4)
        (.block block :: packetEntries packets)
  | written {block : List UInt8} {packets : List Packet} (late : Bool)
      (between : Between path.interface [] (lateBits path.interface late) m)
      (idle : (m.master.inLane path.interface).Idle)
      (lateDone : late = true → LateDone path.interface m.master)
      (expects : Expects path.interface path.interface.controlSize.toNat packets answer waiting) :
      CommandPhase path m turn answer waiting (.report ⟨path.interface.epOut, block⟩)
        (8 * packets.length + 2) (packetEntries packets)
  | echoed {packets : List Packet} {message : SpiMessage} (late : Bool)
      (between : Between path.interface [message] (lateBits path.interface late) m)
      (flag : message.eFlag = reportFlag)
      (last : message.payload.getLast? = some path.interface.epOut)
      (idle : (m.master.inLane path.interface).Idle)
      (lateDone : late = true → LateDone path.interface m.master)
      (expects : Expects path.interface path.interface.controlSize.toNat packets answer waiting) :
      CommandPhase path m turn answer waiting .rest (8 * packets.length + 1) (packetEntries packets)
  | asked {length : Nat} {packet : Packet} {rest : List Packet} (late : Bool)
      (between : Between path.interface [] (lateBits path.interface late) m)
      (awaits : AwaitsBlock (m.master.outLane path.interface))
      (idle : (m.master.inLane path.interface).Idle)
      (lateDone : late = true → LateDone path.interface m.master ∧ turn = .irq)
      (expects : Expects path.interface length (packet :: rest) answer waiting) :
      CommandPhase path m turn answer waiting (.read length) (8 * rest.length + 6)
        (.taken packet.bytes :: packetEntries rest)
  | received {length : Nat} {packet : Packet} {rest : List Packet} (late : Bool)
      (between : Between path.interface [] (lateBits path.interface late) m)
      (awaits : AwaitsBlock (m.master.outLane path.interface))
      (idle : (m.master.inLane path.interface).Idle)
      (lateDone : late = true → LateDone path.interface m.master ∧ turn = .irq)
      (delivers : Delivers path.interface length packet rest answer)
      (waits : waiting = rest.length + 1) :
      CommandPhase path m turn answer waiting (.report ⟨path.interface.epIn, packet.bytes⟩)
        (8 * rest.length + 4) (.taken packet.bytes :: packetEntries rest)
  | arrived {length : Nat} {packet : Packet} {rest : List Packet} (late : Bool)
      (between : Between path.interface [packetReport path.interface packet]
        (lateBits path.interface late) m)
      (awaits : AwaitsBlock (m.master.outLane path.interface))
      (idle : (m.master.inLane path.interface).Idle)
      (lateDone : late = true → LateDone path.interface m.master ∧ turn = .irq)
      (delivers : Delivers path.interface length packet rest answer)
      (waits : waiting = rest.length + 1) :
      CommandPhase path m turn answer waiting .rest (8 * rest.length + 3)
        (.taken packet.bytes :: packetEntries rest)
  | offered {length : Nat} {packet : Packet} {rest : List Packet}
      (between : Between path.interface [] 0 m)
      (awaits : AwaitsBlock (m.master.outLane path.interface))
      (offer : PacketOffered path.interface packet m.master)
      (delivers : Delivers path.interface length packet rest answer)
      (waits : waiting = rest.length + 1) :
      CommandPhase path m turn answer waiting .rest (8 * rest.length + 2)
        (.taken packet.bytes :: packetEntries rest)
  | taken {length : Nat} {packet : Packet} {rest : List Packet}
      (between : Between path.interface [] (bufStatusBit (2 * endpointNum path.interface.epIn)) m)
      (awaits : AwaitsBlock (m.master.outLane path.interface))
      (gone : PacketGone path.interface packet m.master)
      (delivers : Delivers path.interface length packet rest answer)
      (waits : waiting = rest.length) :
      CommandPhase path m turn answer waiting .rest (8 * rest.length + 1) (packetEntries rest)

/-- The loop is in a phase of a command, and the slave is so far with its task. -/
structure InPhase (path : BulkPath) (l : Loop) (task : Host.Task) (own left : Nat)
    (toCome : List Entry) : Prop where
  phase : CommandPhase path l.master l.turn l.answer l.waiting task own toCome
  slave : SlaveAt path.slave l task left

/-! ## The packets of a command -/

section Packets

variable {dev : StorageInterface} {length : Nat} {packet : Packet} {rest : List Packet}

theorem pending_append {data : List Packet} {status : Packet}
    (hstatus : status.bytes.length = 13) (hsize : ∀ packet ∈ data, packet.bytes.length ≤ 64)
    (hsuits : ∀ packet ∈ data, packet.bytes.length ≤ dev.inSize.toNat)
    (hother : ∀ packet ∈ data, packet.bytes.length ≠ 13)
    (hfirst : ∀ packet ∈ (data ++ [status]).head?, Suffices dev length packet)
    (hrest : ∀ packet ∈ (data ++ [status]).tail, Suffices dev 64 packet) :
    Pending dev length (data ++ [status]) := by
  induction data generalizing length with
  | nil => exact .status hstatus (hfirst status rfl)
  | cons packet rest ih =>
      have hmem : ∀ other ∈ rest, other ∈ packet :: rest := fun other hp => List.mem_cons_of_mem _ hp
      have hpending : Pending dev 64 (rest ++ [status]) := by
        refine ih (fun p hp => hsize p (hmem p hp)) (fun p hp => hsuits p (hmem p hp))
          (fun p hp => hother p (hmem p hp)) (fun p hp => ?_) fun p hp => ?_
        · exact hrest p (List.mem_of_mem_head? hp)
        · exact hrest p (List.mem_of_mem_tail hp)
      exact .data (hsize packet List.mem_cons_self) (hsuits packet List.mem_cons_self)
        (hother packet List.mem_cons_self) (hfirst packet rfl) hpending

theorem StorageCommand.pending {command : StorageCommand} (hsuits : command.Suits dev)
    (hdistinct : command.Distinct dev) : Pending dev dev.controlSize.toNat command.packets :=
  pending_append command.status_length (fun packet hp => (command.data_length packet hp).2) hsuits
    hdistinct.data hdistinct.first hdistinct.others

/-- The packets that the device has fit their buffer. -/
theorem Pending.head_fits (h : Pending dev length (packet :: rest)) :
    packet.bytes.length ≤ 64 ∧ packet.bytes.length ≤ dev.inSize.toNat := by
  have hstatus := dev.in_status
  cases h with
  | status hlength =>
      rw [hlength]
      exact ⟨by omega, hstatus⟩
  | data hsize hfits => exact ⟨hsize, hfits⟩

/-- The status wrapper is still to come. -/
theorem Pending.positive {packets : List Packet} (h : Pending dev length packets) :
    1 ≤ packets.length := by
  cases h with
  | status | data => simp

/-- The next packet ends the read that asks for it. -/
theorem Pending.head_suffices (h : Pending dev length (packet :: rest)) :
    Suffices dev length packet := by
  cases h with
  | status _ hends => exact hends
  | data _ _ _ hends => exact hends

/-- A packet has the length of a status wrapper just when it is the last one. -/
theorem Pending.head_status (h : Pending dev length (packet :: rest)) :
    packet.bytes.length = 13 ↔ rest = [] := by
  cases h with
  | status hlength => exact ⟨fun _ => rfl, fun _ => hlength⟩
  | data hsize hfits hother hends hpending =>
      refine ⟨fun hlength => absurd hlength hother, fun hnil => ?_⟩
      rw [hnil] at hpending
      cases hpending

/-- The packets behind the next one are read 64 bytes at a time. -/
theorem Pending.behind {next : Packet} (h : Pending dev length (packet :: next :: rest)) :
    Pending dev 64 (next :: rest) := by
  cases h with
  | data _ _ _ _ hpending => exact hpending

end Packets

/-! ## Steps of the master -/

section Steps

variable {path : BulkPath} {l : Loop} {rx : List SpiMessage} {bits : BitVec 32} {left : Nat}

theorem storageStep_handle (hturn : l.turn = .handle) {t : Master}
    (hrun : handleSpiSlaveEvent l.master.master = .ok () t) :
    storageStep path l .handle =
      some (l.afterHandler path.interface .irq { l.master with master := t }) := by
  unfold storageStep
  dsimp only
  rw [if_pos hturn]
  unfold Device.step Device.runHandler
  dsimp only
  rw [hrun]
  rfl

theorem storageStep_irq (hturn : l.turn = .irq) {t : Master}
    (hrun : dcdRp2040Irq l.master.ints l.master.master = .ok () t) :
    storageStep path l .irq =
      some (l.afterHandler path.interface .handle ⟨t, false, false⟩) := by
  unfold storageStep
  dsimp only
  rw [if_pos hturn]
  unfold Device.step Device.runHandler
  dsimp only
  rw [hrun]
  rfl

/-- The reads among the messages that were added. -/
theorem newReads_append {dev : StorageInterface} {s t : Master} {added : List SpiMessage}
    (h : t.outbox = s.outbox ++ added) :
    newReads dev s t = (added.filter fun message => AsksRead dev message).map fun _ => .read := by
  unfold newReads
  rw [h, List.drop_left]

theorem not_asksRead {dev : StorageInterface} {message : SpiMessage} (h : AsksWrite dev message) :
    ¬ AsksRead dev message := by
  intro hread
  have hsame : dev.epOut = dev.epIn := Option.some.inj (h.2.symm.trans hread.2)
  have hin := dev.in_dir
  rw [← hsame, dev.out_dir] at hin
  cases hin

/-- The message with which the driver asks for the first packet is a read. -/
theorem knock_asksRead (dev : StorageInterface) (len : UInt8) : AsksRead dev (knock dev.epIn len) := by
  refine ⟨show hasFlag (MsgType.usbData ||| MsgType.debugPrintAsHex) MsgType.usbData by decide, ?_⟩
  show (List.replicate len.toNat 0 ++ [dev.epIn]).getLast? = _
  simp

/-- A core without pending causes is as `dcd_rp2040_irq_new` leaves it. -/
theorem Between.core_eq {dev : StorageInterface} {m : Device.Core0} (h : Between dev rx bits m)
    (t : Master) : ({ m with master := t } : Device.Core0) = ⟨t, false, false⟩ := by
  show (⟨t, m.busReset, m.setupReq⟩ : Device.Core0) = _
  rw [h.busReset, h.setupReq]

/-- What is between the steps after core 0 has run. -/
theorem between_after {dev : StorageInterface} {t : Master} (hm : Mounted dev t)
    (hbits : t.dcd.bufStatus = bits) (hrx : t.rx.items = rx) : Between dev rx bits ⟨t, false, false⟩ :=
  ⟨⟨hm, rfl, rfl, hbits⟩, hrx⟩

/-- Without messages from the slave core 0 does nothing. -/
theorem handle_rest (h : Between path.interface [] bits l.master) (hturn : l.turn = .handle) :
    storageStep path l .handle = some { l with turn := .irq } := by
  refine (storageStep_handle hturn (handleSpiSlaveEvent_rests h.mounted h.rx)).trans ?_
  unfold Loop.afterHandler
  rw [newReads_append (List.append_nil _).symm]
  simp

/-- Without interrupt causes core 0 does nothing. -/
theorem irq_rest (h : Between path.interface rx 0 l.master) (hturn : l.turn = .irq) :
    storageStep path l .irq = some { l with turn := .handle } := by
  have hzero : l.master.ints = ⟨false, false, false⟩ := by
    rw [h.ints, h.bufStatus]
    rfl
  have hrun : dcdRp2040Irq l.master.ints l.master.master = .ok () l.master.master := by
    rw [hzero]
    rfl
  refine (storageStep_irq hturn hrun).trans ?_
  unfold Loop.afterHandler
  rw [newReads_append (List.append_nil _).symm, ← h.core_eq l.master.master]
  simp

/-- The interrupt handler deals with a late completion, if there is one. -/
theorem irq_late {late : Bool} (h : Between path.interface rx (lateBits path.interface late) l.master)
    (hidle : (l.master.master.inLane path.interface).Idle)
    (hlate : late = true → LateDone path.interface l.master.master) (hturn : l.turn = .irq) :
    ∃ t, storageStep path l .irq = some { l with master := ⟨t, false, false⟩, turn := .handle } ∧
      t.outbox = l.master.master.outbox ∧ Between path.interface rx 0 ⟨t, false, false⟩ ∧
      t.outLane path.interface = l.master.master.outLane path.interface ∧
      (t.inLane path.interface).Idle := by
  obtain ⟨t, hrun, hdone⟩ := dcdRp2040Irq_late h.mounted h.bufStatus hidle fun hstays =>
    (hlate hstays).leads
  have hbetween : Between path.interface rx 0 ⟨t, false, false⟩ := by
    refine between_after hdone.mounted hdone.bufStatus ?_
    rw [hdone.rx]
    exact h.rx
  rw [← h.ints] at hrun
  refine ⟨t, (storageStep_irq hturn hrun).trans ?_, hdone.outbox.trans (List.append_nil _), hbetween,
    hdone.outLane, hdone.idle⟩
  unfold Loop.afterHandler
  rw [newReads_append hdone.outbox]
  simp

/-- The block of a command is forwarded. -/
theorem irq_sent {block : List UInt8} {packets : List Packet} {late : Bool}
    (h : Between path.interface []
      (bufStatusBit (2 * endpointNum path.interface.epOut + 1) ||| lateBits path.interface late)
      l.master)
    (hheld : BlockHeld path.interface block l.master.master)
    (hidle : (l.master.master.inLane path.interface).Idle)
    (hlate : late = true → ∃ count, PacketTaken count (l.master.master.inLane path.interface))
    (hexpects : Expects path.interface path.interface.controlSize.toNat packets l.answer l.waiting)
    (hslave : SlaveAt path.slave l .rest left) (hturn : l.turn = .irq) :
    ∃ next, storageStep path l .irq = some next ∧
      InPhase path next (.write block) (8 * packets.length + 4) 2
        (.block block :: packetEntries packets) ∧ next.log = l.log := by
  obtain ⟨t, stays, hrun, hdone⟩ :=
    Device.dcdRp2040Irq_forwards h.mounted h.bufStatus hheld hidle hlate
  obtain ⟨message, houtbox, hasks, hpayload⟩ := hdone.outbox
  have hlength : block.length = 31 := by
    rw [← hheld.data]
    exact Buffer.length_bytesAt _ _ _
  have hbetween : Between path.interface [] (lateBits path.interface stays) ⟨t, false, false⟩ := by
    refine between_after hdone.mounted hdone.bufStatus ?_
    rw [hdone.rx]
    exact h.rx
  rw [← h.ints] at hrun
  have hrequests : Requests path.slave message (.write block) :=
    .write (write_asksOnce hrun houtbox hlength hasks hpayload)
  refine ⟨_, storageStep_irq hturn hrun, ⟨?_, hslave.asks hrequests rfl rfl rfl houtbox⟩, ?_⟩
  · exact .forwarded stays hbetween hdone.idle hdone.late hexpects
  · unfold Loop.afterHandler
    rw [newReads_append houtbox]
    simp [not_asksRead hasks]

/-- The echo of the block leads to the first read. -/
theorem handle_echoed {packets : List Packet} {message : SpiMessage} {late : Bool}
    (h : Between path.interface [message] (lateBits path.interface late) l.master)
    (hflag : message.eFlag = reportFlag)
    (hlast : message.payload.getLast? = some path.interface.epOut)
    (hidle : (l.master.master.inLane path.interface).Idle)
    (hlate : late = true → LateDone path.interface l.master.master)
    (hexpects : Expects path.interface path.interface.controlSize.toNat packets l.answer l.waiting)
    (hslave : SlaveAt path.slave l .rest left) (hturn : l.turn = .handle) :
    ∃ next toCome, storageStep path l .handle = some next ∧ InPhase path next
        (.read path.interface.controlSize.toNat) (8 * (packets.length - 1) + 6) 2 toCome ∧
      next.log ++ toCome = l.log ++ packetEntries packets := by
  obtain ⟨t, hrun, hmounted, hdrivers, hbits, hrx, hin, hawaits, houtbox⟩ :=
    handle_listens h.mounted h.rx hflag hlast
  have hbetween := between_after hmounted (hbits.trans h.bufStatus) hrx
  have hread := knock_asksRead path.interface path.interface.controlSize
  have hrequests : Requests path.slave (knock path.interface.epIn path.interface.controlSize)
      (.read path.interface.controlSize.toNat) := .read (knock_asks path path.interface.controlSize)
  have hstep : storageStep path l .handle = _ := storageStep_handle hturn hrun
  rw [h.core_eq] at hstep
  have hnextIdle : (t.inLane path.interface).Idle := by
    rw [hin]
    exact hidle
  have hnextLate (hstays : late = true) : LateDone path.interface t := by
    obtain ⟨⟨count, htaken⟩, hpermit⟩ := hlate hstays
    refine ⟨⟨count, ?_⟩, ?_⟩
    · rw [hin]
      exact htaken
    · rw [hdrivers]
      exact hpermit
  obtain ⟨hpending, hanswer, hwaiting⟩ := hexpects
  cases packets with
  | nil => cases hpending
  | cons packet rest =>
      refine ⟨_, .taken packet.bytes :: packetEntries rest, hstep, ⟨?_, ?_⟩, ?_⟩
      · exact .asked late hbetween hawaits hnextIdle (fun hstays => ⟨hnextLate hstays, rfl⟩)
          ⟨hpending, hanswer, hwaiting⟩
      · exact hslave.asks hrequests rfl rfl rfl houtbox
      · unfold Loop.afterHandler
        rw [newReads_append houtbox]
        simp [hread, packetEntries]

/-- The packet that arrived is offered to the host. -/
theorem handle_arrived {length : Nat} {packet : Packet} {rest : List Packet}
    (h : Between path.interface [packetReport path.interface packet] 0 l.master)
    (hawaits : AwaitsBlock (l.master.master.outLane path.interface))
    (hdelivers : Delivers path.interface length packet rest l.answer)
    (hwaits : l.waiting = rest.length + 1) (hslave : SlaveAt path.slave l .rest left)
    (hturn : l.turn = .handle) :
    ∃ next, storageStep path l .handle = some next ∧ InPhase path next .rest (8 * rest.length + 2)
      left (.taken packet.bytes :: packetEntries rest) ∧ next.log = l.log := by
  obtain ⟨hsize, hfits⟩ := hdelivers.pending.head_fits
  obtain ⟨t, hrun, hmounted, hbits, hrx, hout, houtbox, hoffer⟩ :=
    handle_offers h.mounted h.rx hsize hfits
  have hbetween := between_after hmounted (hbits.trans h.bufStatus) hrx
  have hawaitsNext : AwaitsBlock (t.outLane path.interface) := by
    rw [hout]
    exact hawaits
  have hstep : storageStep path l .handle = _ := storageStep_handle hturn hrun
  rw [h.core_eq] at hstep
  refine ⟨_, hstep, ⟨?_, hslave.of_same rfl rfl rfl houtbox⟩, ?_⟩
  · exact .offered hbetween hawaitsNext hoffer hdelivers hwaits
  · unfold Loop.afterHandler
    rw [newReads_append (houtbox.trans (List.append_nil _).symm)]
    simp

/-- The host takes nothing from a buffer that is not the controller's. -/
theorem take_rest (h : (l.master.master.inLane path.interface).Idle) :
    storageStep path l .take = none := by
  unfold storageStep Device.step
  dsimp only
  rw [sendIn_rests h]
  rfl

/-- The host takes the packet that is offered. -/
theorem take_offered {length : Nat} {packet : Packet} {rest : List Packet}
    (h : Between path.interface [] 0 l.master)
    (hawaits : AwaitsBlock (l.master.master.outLane path.interface))
    (hoffer : PacketOffered path.interface packet l.master.master)
    (hdelivers : Delivers path.interface length packet rest l.answer)
    (hwaits : l.waiting = rest.length + 1) (hslave : SlaveAt path.slave l .rest left) :
    ∃ next, storageStep path l .take = some next ∧ InPhase path next .rest (8 * rest.length + 1)
      left (packetEntries rest) ∧ next.log = l.log ++ [.taken packet.bytes] := by
  obtain ⟨hbytes, d, hsend, hmounted, hgone, hbits, hout⟩ := sendIn_takes h.mounted hoffer
  let next : Loop := { l with
    master := ⟨{ l.master.master with dcd := d }, false, false⟩, waiting := l.waiting - 1
    log := l.log ++ [.taken packet.bytes] }
  refine ⟨next, ?_, ⟨?_, hslave.of_same rfl rfl rfl rfl⟩, rfl⟩
  · unfold storageStep Device.step
    dsimp only
    rw [hsend, hbytes, Option.map_some]
    simp only [Option.bind_eq_bind, Option.bind_some]
    rw [h.core_eq]
  · have hraised : d.bufStatus = bufStatusBit (2 * endpointNum path.interface.epIn) := by
      rw [hbits, h.bufStatus]
      exact BitVec.zero_or
    have hawaitsNext : AwaitsBlock (d.lane (endpointNum path.interface.epOut) false) := by
      rw [hout]
      exact hawaits
    have hless : l.waiting - 1 = rest.length := by
      rw [hwaits, Nat.add_sub_cancel]
    exact .taken ⟨⟨hmounted, rfl, rfl, hraised⟩, h.rx⟩ hawaitsNext hgone hdelivers hless

/-- After a data packet the next one is asked for, and after the status wrapper none. -/
theorem irq_taken {length : Nat} {packet : Packet} {rest : List Packet}
    (h : Between path.interface [] (bufStatusBit (2 * endpointNum path.interface.epIn)) l.master)
    (hawaits : AwaitsBlock (l.master.master.outLane path.interface))
    (hgone : PacketGone path.interface packet l.master.master)
    (hdelivers : Delivers path.interface length packet rest l.answer)
    (hwaits : l.waiting = rest.length) (hslave : SlaveAt path.slave l .rest left)
    (hturn : l.turn = .irq) :
    ∃ next task own later toCome, storageStep path l .irq = some next ∧
      InPhase path next task own later toCome ∧ own + later = 8 * rest.length ∧
      next.log ++ toCome = l.log ++ packetEntries rest := by
  have hstatus := hdelivers.pending.head_status
  obtain ⟨t, hrun, hdone⟩ := dcdRp2040Irq_completes h.mounted h.bufStatus hgone.taken hgone.idle
  rw [hgone.nextReads] at hdone
  rw [← h.ints] at hrun
  have hawaitsNext : AwaitsBlock (t.outLane path.interface) := by
    rw [hdone.outLane]
    exact hawaits
  have hbetween : Between path.interface [] 0 ⟨t, false, false⟩ := by
    refine between_after hdone.mounted hdone.bufStatus ?_
    rw [hdone.rx]
    exact h.rx
  have hstep : storageStep path l .irq = _ := storageStep_irq hturn hrun
  have houtbox := hdone.outbox
  have hlog : (l.afterHandler path.interface .handle ⟨t, false, false⟩).log = l.log ++ _ :=
    congrArg (l.log ++ ·) (newReads_append houtbox)
  -- The last packet is the only one of 13 bytes, so the driver takes it for the status rightly.
  cases rest with
  | nil =>
      rw [if_pos (hstatus.mpr rfl)] at houtbox hlog
      refine ⟨_, .rest, 0, left, [], hstep, ⟨.idle hbetween hawaitsNext hdone.idle hwaits, ?_⟩, ?_, ?_⟩
      · exact hslave.of_same rfl rfl rfl (houtbox.trans (List.append_nil _))
      · exact (Nat.zero_add _).trans hslave.rests.1
      · rw [hlog]
        simp [packetEntries]
  | cons following rest =>
      have hother : ¬ packet.bytes.length = 13 := fun hlength => by
        cases hstatus.mp hlength
      have hread := mscRead_asks path.interface
      have hrequests : Requests path.slave (mscRead path.interface.epIn) (.read 64) :=
        .read (mscRead_asksOnce path)
      rw [if_neg hother] at houtbox hlog
      refine ⟨_, .read 64, 8 * rest.length + 6, 2, .taken following.bytes :: packetEntries rest, hstep,
        ⟨?_, hslave.asks hrequests rfl rfl rfl houtbox⟩, rfl, ?_⟩
      · exact .asked false hbetween hawaitsNext hdone.idle nofun
          ⟨hdelivers.pending.behind, hdelivers.answer, hwaits⟩
      · rw [hlog]
        simp [hread, packetEntries]

/-! ## The host issues a command -/

/-- The host does not issue a command while it waits. -/
theorem command_rest (h : l.waiting ≠ 0) (command : StorageCommand) :
    storageStep path l (.command command) = none := by
  unfold storageStep
  simp [h, guard]

/-- The host issues a command. -/
theorem command_accepted (h : Between path.interface [] bits l.master)
    (hawaits : AwaitsBlock (l.master.master.outLane path.interface))
    (hidle : (l.master.master.inLane path.interface).Idle) (late : Bool)
    (hbits : bits = lateBits path.interface late)
    (hlate : late = true → ∃ count, PacketTaken count (l.master.master.inLane path.interface))
    (hwaits : l.waiting = 0) {command : StorageCommand} (hsuits : command.Suits path.interface) :
    ∃ next, storageStep path l (.command command) = some next ∧ next.log = l.log ∧
      (command.Distinct path.interface → ∀ left, SlaveAt path.slave l .rest left →
        InPhase path next .rest (8 * command.packets.length + 7) left command.entries) := by
  obtain ⟨d, hreceive, hmounted, hheld, hraised, hin⟩ :=
    receiveOut_accepts h.mounted hawaits command.block_length
  let next : Loop := { l with
    master := ⟨{ l.master.master with dcd := d }, false, false⟩, answer := command.packets
    waiting := command.packets.length }
  refine ⟨next, ?_, rfl, fun hdistinct left hslave => ⟨?_, hslave.of_same rfl rfl rfl rfl⟩⟩
  · unfold storageStep Device.step
    dsimp only
    rw [hreceive, Option.map_some]
    simp only [Option.bind_eq_bind, Option.bind_some]
    rw [show (guard (l.waiting = 0 ∧ command.Suits path.interface) : Option Unit) = some () from
      if_pos ⟨hwaits, hsuits⟩, h.core_eq]
    rfl
  · have hbitsNext : d.bufStatus = bufStatusBit (2 * endpointNum path.interface.epOut + 1) |||
        lateBits path.interface late := by
      rw [hraised, h.bufStatus, hbits]
      exact BitVec.or_comm _ _
    have hidleNext : (d.lane (endpointNum path.interface.epIn) true).Idle := by
      rw [hin]
      exact hidle
    have hlateNext : late = true →
        ∃ count, PacketTaken count (d.lane (endpointNum path.interface.epIn) true) := by
      rw [hin]
      exact hlate
    exact .sent late ⟨⟨hmounted, rfl, rfl, hbitsNext⟩, h.rx⟩ hheld hidleNext hlateNext
      ⟨command.pending hsuits hdistinct, rfl, rfl⟩

/-! ## Reports reach the master -/

/-- A report goes into the empty queue of the master. -/
theorem report_delivered {m : Device.Core0} (h : Between path.interface [] bits m)
    (message : SpiMessage) :
    ∃ n, Device.step m (.receive message) = some n ∧ Between path.interface [message] bits n ∧
      ∃ queue : SpiQueue, n = ⟨{ m.master with rx := queue }, false, false⟩ := by
  let queue : SpiQueue := ⟨[message], by simp [spiQueueMaxCapacity]⟩
  have hadd : m.master.rx.add message = some queue := by
    refine Fifo.add_eq_some.mpr ⟨?_, ?_⟩
    · rw [h.rx]
      simp [spiQueueMaxCapacity]
    · rw [h.rx]
      rfl
  have hattends := h.toAttends.of_rx queue
  rw [h.core_eq] at hattends
  refine ⟨_, ?_, ⟨hattends, rfl⟩, queue, rfl⟩
  unfold Device.step
  dsimp only
  rw [hadd]
  exact congrArg some (h.core_eq _)

/-- The report of a packet is delivered. -/
theorem toMaster_reported {carried : Carried} (h : Between path.interface [] bits l.master)
    (hslave : SlaveAt path.slave l (.report carried) 0) :
    ∃ message queue, carried.ReportedBy message ∧
      storageStep path l .toMaster = some { l with
        master := ⟨{ l.master.master with rx := queue }, false, false⟩
        reported := l.reported + 1 } ∧
      Between path.interface [message] bits ⟨{ l.master.master with rx := queue }, false, false⟩ ∧
      SlaveAt path.slave { l with
        master := ⟨{ l.master.master with rx := queue }, false, false⟩
        reported := l.reported + 1 } .rest 0 := by
  obtain ⟨message, hreports, hmessage, -⟩ := hslave.returns
  obtain ⟨n, hstep, hbetween, queue, rfl⟩ := report_delivered h message
  refine ⟨message, queue, hmessage, ?_, hbetween, hslave.returned rfl⟩
  unfold storageStep
  dsimp only
  rw [hreports]
  simp only [Option.bind_eq_bind, List.head?_cons, Option.bind_some, hstep]

/-- The echo of a block is delivered. -/
theorem toMaster_written {block : List UInt8} {packets : List Packet} {late : Bool}
    (h : Between path.interface [] (lateBits path.interface late) l.master)
    (hidle : (l.master.master.inLane path.interface).Idle)
    (hlate : late = true → LateDone path.interface l.master.master)
    (hexpects : Expects path.interface path.interface.controlSize.toNat packets l.answer l.waiting)
    (hslave : SlaveAt path.slave l (.report ⟨path.interface.epOut, block⟩) 0) :
    ∃ next, storageStep path l .toMaster = some next ∧ InPhase path next .rest
      (8 * packets.length + 1) 0 (packetEntries packets) ∧ next.log = l.log := by
  obtain ⟨message, queue, hmessage, hstep, hbetween, hslaveNext⟩ := toMaster_reported h hslave
  have hlast : message.payload.getLast? = some path.interface.epOut := by
    rw [hmessage.payload]
    simp
  exact ⟨_, hstep, ⟨.echoed late hbetween hmessage.flag hlast hidle
    (fun hstays => (hlate hstays).of_rx queue) hexpects, hslaveNext⟩, rfl⟩

/-- The packet of the device is delivered. -/
theorem toMaster_received {length : Nat} {packet : Packet} {rest : List Packet} {late : Bool}
    (h : Between path.interface [] (lateBits path.interface late) l.master)
    (hawaits : AwaitsBlock (l.master.master.outLane path.interface))
    (hidle : (l.master.master.inLane path.interface).Idle)
    (hlate : late = true → LateDone path.interface l.master.master ∧ l.turn = .irq)
    (hdelivers : Delivers path.interface length packet rest l.answer)
    (hwaits : l.waiting = rest.length + 1)
    (hslave : SlaveAt path.slave l (.report ⟨path.interface.epIn, packet.bytes⟩) 0) :
    ∃ next, storageStep path l .toMaster = some next ∧ InPhase path next .rest
      (8 * rest.length + 3) 0 (.taken packet.bytes :: packetEntries rest) ∧ next.log = l.log := by
  obtain ⟨message, queue, hmessage, hstep, hbetween, hslaveNext⟩ := toMaster_reported h hslave
  obtain rfl : message = packetReport path.interface packet := report_eq hmessage
  exact ⟨_, hstep, ⟨.arrived late hbetween hawaits hidle
    (fun hstays => ⟨(hlate hstays).1.of_rx queue, (hlate hstays).2⟩) hdelivers hwaits, hslaveNext⟩,
    rfl⟩

end Steps

end UsbSec.System
