import UsbSec.Device.StorageIrq

/-!
# What the master waits for

Between two blocks of the host the master waits for one message of the slave at a time: the echo of
the block it has forwarded, or the packet it has asked for. For each thing that can happen on the
master there is one lemma that says what it waits for afterwards, and what it asks the slave for.
-/

namespace UsbSec.Device

open Library Usb Rp2040

/-- The message of the slave that the master waits for. -/
inductive Awaited where
  | nothing
  | echo
  | packet
  deriving DecidableEq

/-- The interface is mounted, these buffers have completed, and nothing is offered to the host. -/
structure Attends (dev : StorageInterface) (bits : BitVec 32) (m : Core0) : Prop where
  mounted : Mounted dev m.master
  busReset : m.busReset = false
  setupReq : m.setupReq = false
  bufStatus : m.master.dcd.bufStatus = bits

/-- The packet that the host took last leads to no read. -/
def LeadsNowhere (dev : StorageInterface) (s : Master) : Prop :=
  ∃ count, PacketTaken count (s.inLane dev) ∧
    nextReads dev s.drivers ((s.inLane dev).ep.xferredLen + count) = []

/-- What the master waits for, the function that `core0_loop` calls next, and whether the host waits
for the status of a command. The completion of the last status wrapper may still have to be dealt
with (`late`), but that is done before the next packet is offered. -/
inductive MasterStage (dev : StorageInterface) (m : Core0) : Turn → Bool → Awaited → Prop
  | rest {turn : Turn} (late : Bool) (attends : Attends dev (lateBits dev late) m)
      (awaits : AwaitsBlock (m.master.outLane dev)) (idle : (m.master.inLane dev).Idle)
      (leads : late = true → LeadsNowhere dev m.master) : MasterStage dev m turn false .nothing
  | held {turn : Turn} {block : List UInt8} (late : Bool)
      (attends : Attends dev (bufStatusBit (2 * endpointNum dev.epOut + 1) ||| lateBits dev late) m)
      (held : BlockHeld dev block m.master) (idle : (m.master.inLane dev).Idle)
      (taken : late = true → ∃ count, PacketTaken count (m.master.inLane dev)) :
      MasterStage dev m turn true .nothing
  | forwarded {turn : Turn} (late : Bool) (attends : Attends dev (lateBits dev late) m)
      (idle : (m.master.inLane dev).Idle) (lateDone : late = true → LateDone dev m.master) :
      MasterStage dev m turn true .echo
  | asked {turn : Turn} (late : Bool) (attends : Attends dev (lateBits dev late) m)
      (awaits : AwaitsBlock (m.master.outLane dev)) (idle : (m.master.inLane dev).Idle)
      (lateDone : late = true → LateDone dev m.master ∧ turn = .irq) : MasterStage dev m turn true .packet
  | offered {turn : Turn} {packet : Packet} (attends : Attends dev 0 m)
      (awaits : AwaitsBlock (m.master.outLane dev)) (offer : PacketOffered dev packet m.master) :
      MasterStage dev m turn true .nothing
  | taken {turn : Turn} {packet : Packet}
      (attends : Attends dev (bufStatusBit (2 * endpointNum dev.epIn)) m)
      (awaits : AwaitsBlock (m.master.outLane dev)) (gone : PacketGone dev packet m.master)
      (data : packet.bytes.length ≠ 13) : MasterStage dev m turn true .nothing

section Steps

variable {dev : StorageInterface} {m : Core0} {turn : Turn} {waiting : Bool} {awaited : Awaited}

/-- Messages of the slave that have not been read change nothing. -/
theorem Attends.of_rx {bits : BitVec 32} (h : Attends dev bits m) (rx : SpiQueue) :
    Attends dev bits { m with master := { m.master with rx := rx } } where
  mounted := ⟨h.mounted.reading, h.mounted.drivers, h.mounted.mode, h.mounted.out, h.mounted.into⟩
  busReset := h.busReset
  setupReq := h.setupReq
  bufStatus := h.bufStatus

theorem LateDone.of_rx {s : Master} (h : LateDone dev s) (rx : SpiQueue) :
    LateDone dev { s with rx := rx } := ⟨h.taken, h.permit⟩

theorem MasterStage.of_rx (h : MasterStage dev m turn waiting awaited) (rx : SpiQueue) :
    MasterStage dev { m with master := { m.master with rx := rx } } turn waiting awaited := by
  cases h with
  | rest late hattends hawaits hidle hleads =>
      exact .rest late (hattends.of_rx rx) hawaits hidle hleads
  | held late hattends hheld hidle htaken =>
      exact .held late (hattends.of_rx rx) ⟨hheld.held, hheld.xferredLen, hheld.data⟩ hidle htaken
  | forwarded late hattends hidle hlate =>
      exact .forwarded late (hattends.of_rx rx) hidle fun hstays => (hlate hstays).of_rx rx
  | asked late hattends hawaits hidle hlate =>
      refine .asked late (hattends.of_rx rx) hawaits hidle fun hstays => ?_
      exact ⟨(hlate hstays).1.of_rx rx, (hlate hstays).2⟩
  | offered hattends hawaits hoffer =>
      exact .offered (hattends.of_rx rx) hawaits ⟨hoffer.arms, hoffer.isPartial,
        hoffer.remainingLen, hoffer.xferredLen, hoffer.data, hoffer.permit, hoffer.count⟩
  | taken hattends hawaits hgone hdata =>
      exact .taken (hattends.of_rx rx) hawaits ⟨hgone.taken, hgone.idle, hgone.xferredLen,
        hgone.permit, hgone.count⟩ hdata

theorem Attends.ints {bits : BitVec 32} (h : Attends dev bits m) :
    m.ints = ⟨false, false, m.master.dcd.bufStatus != 0⟩ := by
  unfold Core0.ints
  rw [h.busReset, h.setupReq]

/-! ## `handle_spi_slave_event` -/

/-- It is the turn of the interrupt handler. -/
theorem MasterStage.irqNext (h : MasterStage dev m turn waiting awaited) : MasterStage dev m .irq waiting awaited := by
  cases h with
  | rest late hattends hawaits hidle hleads => exact .rest late hattends hawaits hidle hleads
  | held late hattends hheld hidle htaken => exact .held late hattends hheld hidle htaken
  | forwarded late hattends hidle hlate => exact .forwarded late hattends hidle hlate
  | asked late hattends hawaits hidle hlate =>
      exact .asked late hattends hawaits hidle fun hstays => ⟨(hlate hstays).1, rfl⟩
  | offered hattends hawaits hoffer => exact .offered hattends hawaits hoffer
  | taken hattends hawaits hgone hdata => exact .taken hattends hawaits hgone hdata

theorem MasterStage.mounted (h : MasterStage dev m turn waiting awaited) : Mounted dev m.master := by
  cases h with
  | rest _ hattends | held _ hattends | forwarded _ hattends | asked _ hattends | offered hattends
  | taken hattends => exact hattends.mounted

/-- After the echo of a block the master asks for a packet. -/
theorem MasterStage.handle_echo (h : MasterStage dev m turn waiting .echo) {message : SpiMessage}
    (hrx : m.master.rx.items = [message]) (hflag : message.eFlag = reportFlag)
    (hlast : message.payload.getLast? = some dev.epOut) :
    ∃ t, handleSpiSlaveEvent m.master = .ok () t ∧ t.rx.items = [] ∧
      MasterStage dev { m with master := t } .irq waiting .packet ∧
      ∃ len, t.outbox = m.master.outbox ++ [knock dev.epIn len] := by
  cases h with
  | forwarded late hattends hidle hlate =>
      have hm := hattends.mounted
      obtain ⟨t, hrun, hmounted, hdrivers, hbits, hrxNext, hin, hawaits, houtbox⟩ :=
        handle_listens hm hrx hflag hlast
      refine ⟨t, hrun, hrxNext, ?_, dev.controlSize, houtbox⟩
      refine .asked late ⟨hmounted, hattends.busReset, hattends.setupReq,
        hbits.trans hattends.bufStatus⟩ hawaits ?_ fun hstays => ⟨⟨?_, ?_⟩, rfl⟩
      · show (t.inLane dev).Idle
        rw [hin]
        exact hidle
      · show ∃ count, PacketTaken count (t.inLane dev)
        rw [hin]
        exact (hlate hstays).taken
      · exact (congrArg Drivers.permit0x81 hdrivers).trans (hlate hstays).permit

/-- A packet that was asked for is offered to the host. -/
theorem MasterStage.handle_packet (h : MasterStage dev m .handle waiting .packet) {packet : Packet}
    (hrx : m.master.rx.items = [packetReport dev packet]) (hsize : packet.bytes.length ≤ 64)
    (hfits : packet.bytes.length ≤ dev.inSize.toNat) :
    ∃ t, handleSpiSlaveEvent m.master = .ok () t ∧ t.rx.items = [] ∧
      t.outbox = m.master.outbox ∧ MasterStage dev { m with master := t } .irq waiting .nothing := by
  cases h with
  | asked late hattends hawaits hidle hlate =>
      -- A late completion is dealt with by the interrupt handler before this function runs again.
      have hnow : late = false := by
        cases late with
        | false => rfl
        | true => cases (hlate rfl).2
      subst hnow
      obtain ⟨t, hrun, hmounted, hbits, hrxNext, hout, houtbox, hoffer⟩ :=
        handle_offers hattends.mounted hrx hsize hfits
      refine ⟨t, hrun, hrxNext, houtbox, .offered ⟨hmounted, hattends.busReset, hattends.setupReq,
        hbits.trans hattends.bufStatus⟩ ?_ hoffer⟩
      show AwaitsBlock (t.outLane dev)
      rw [hout]
      exact hawaits

/-! ## The interrupt handler -/

/-- What the interrupt handler has asked the slave for, and what the master waits for then. -/
inductive Asks (dev : StorageInterface) : Awaited → Awaited → List SpiMessage → Prop
  | none (awaited : Awaited) : Asks dev awaited awaited []
  | write {block : List UInt8} {message : SpiMessage} (length : block.length = 31)
      (asks : AsksWrite dev message) (payload : message.payload = block ++ [dev.epOut]) :
      Asks dev .nothing .echo [message]
  | read : Asks dev .nothing .packet [mscRead dev.epIn]

theorem Finishes.attends {requests : List SpiMessage} {s t : Master}
    (h : Finishes dev requests s t) : Attends dev (lateBits dev false) ⟨t, false, false⟩ :=
  ⟨h.mounted, rfl, rfl, h.bufStatus⟩

/-- A completion that was late leads to no read. -/
theorem LateDone.leads {s : Master} (h : LateDone dev s) : LeadsNowhere dev s :=
  let ⟨count, htaken⟩ := h.taken
  ⟨count, htaken, nextReads_late h.permit _⟩

/-- The interrupt handler deals with whatever has completed. -/
theorem MasterStage.irq (h : MasterStage dev m turn waiting awaited) :
    ∃ t requests next, dcdRp2040Irq m.ints m.master = .ok () t ∧ t.rx = m.master.rx ∧
      t.outbox = m.master.outbox ++ requests ∧ Asks dev awaited next requests ∧
      MasterStage dev ⟨t, false, false⟩ .handle waiting next := by
  cases h with
  | rest late hattends hawaits hidle hleads =>
      obtain ⟨t, hrun, hdone⟩ :=
        dcdRp2040Irq_late hattends.mounted hattends.bufStatus hidle hleads
      rw [← hattends.ints] at hrun
      refine ⟨t, [], .nothing, hrun, hdone.rx, hdone.outbox, .none _,
        .rest false hdone.attends ?_ hdone.idle nofun⟩
      show AwaitsBlock (t.outLane dev)
      rw [hdone.outLane]
      exact hawaits
  | @held block late hattends hheld hidle htaken =>
      obtain ⟨t, stays, hrun, hdone⟩ :=
        dcdRp2040Irq_forwards hattends.mounted hattends.bufStatus hheld hidle htaken
      obtain ⟨message, houtbox, hasks, hpayload⟩ := hdone.outbox
      have hlength : block.length = 31 := by
        rw [← hheld.data]
        exact Buffer.length_bytesAt _ _ _
      rw [← hattends.ints] at hrun
      refine ⟨t, [message], .echo, hrun, hdone.rx, houtbox, .write hlength hasks hpayload, ?_⟩
      exact .forwarded stays ⟨hdone.mounted, rfl, rfl, hdone.bufStatus⟩ hdone.idle hdone.late
  | forwarded late hattends hidle hlate =>
      obtain ⟨t, hrun, hdone⟩ := dcdRp2040Irq_late hattends.mounted hattends.bufStatus hidle
        fun hstays => (hlate hstays).leads
      rw [← hattends.ints] at hrun
      exact ⟨t, [], .echo, hrun, hdone.rx, hdone.outbox, .none _,
        .forwarded false hdone.attends hdone.idle nofun⟩
  | asked late hattends hawaits hidle hlate =>
      obtain ⟨t, hrun, hdone⟩ := dcdRp2040Irq_late hattends.mounted hattends.bufStatus hidle
        fun hstays => (hlate hstays).1.leads
      rw [← hattends.ints] at hrun
      refine ⟨t, [], .packet, hrun, hdone.rx, hdone.outbox, .none _,
        .asked false hdone.attends ?_ hdone.idle nofun⟩
      show AwaitsBlock (t.outLane dev)
      rw [hdone.outLane]
      exact hawaits
  | offered hattends hawaits hoffer =>
      have hzero : m.ints = ⟨false, false, false⟩ := by
        rw [hattends.ints, hattends.bufStatus]
        rfl
      refine ⟨m.master, [], .nothing, ?_, rfl, (List.append_nil _).symm, .none _,
        .offered ⟨hattends.mounted, rfl, rfl, hattends.bufStatus⟩ hawaits hoffer⟩
      rw [hzero]
      rfl
  | taken hattends hawaits hgone hdata =>
      obtain ⟨t, hrun, hdone⟩ := dcdRp2040Irq_completes hattends.mounted hattends.bufStatus
        hgone.taken hgone.idle
      rw [hgone.nextReads, if_neg hdata] at hdone
      rw [← hattends.ints] at hrun
      refine ⟨t, _, .packet, hrun, hdone.rx, hdone.outbox, .read,
        .asked false hdone.attends ?_ hdone.idle nofun⟩
      show AwaitsBlock (t.outLane dev)
      rw [hdone.outLane]
      exact hawaits

/-! ## The host -/

/-- A block that the host sends while it does not wait is held until it is forwarded. -/
theorem MasterStage.hostOut (h : MasterStage dev m turn false awaited) {packet : Packet}
    (hlength : packet.bytes.length = 31) {next : Core0}
    (hstep : step m (.hostOut (endpointNum dev.epOut) packet) = some next) :
    awaited = .nothing ∧ MasterStage dev next turn true .nothing := by
  cases h with
  | rest late hattends hawaits hidle hleads =>
      obtain ⟨d, hreceive, hmounted, hheld, hraised, hin⟩ :=
        receiveOut_accepts hattends.mounted hawaits hlength
      unfold step at hstep
      dsimp only at hstep
      rw [hreceive] at hstep
      cases hstep
      refine ⟨rfl, .held late ⟨hmounted, hattends.busReset, hattends.setupReq, ?_⟩ hheld ?_ ?_⟩
      · show d.bufStatus = _
        rw [hraised, hattends.bufStatus]
        exact BitVec.or_comm _ _
      · show (d.lane (endpointNum dev.epIn) true).Idle
        rw [hin]
        exact hidle
      · intro hstays
        obtain ⟨count, htaken, -⟩ := hleads hstays
        refine ⟨count, ?_⟩
        show PacketTaken count (d.lane (endpointNum dev.epIn) true)
        rw [hin]
        exact htaken

/-- The host takes a packet that is offered, and nothing else. After a status wrapper it waits no
longer. -/
theorem MasterStage.hostIn (h : MasterStage dev m turn waiting awaited) {next : Core0}
    (hstep : step m (.hostIn (endpointNum dev.epIn)) = some next) :
    awaited = .nothing ∧ MasterStage dev next turn
      (waiting && decide ((offeredBytes m.master.dcd (endpointNum dev.epIn)).length ≠ 13))
      .nothing := by
  have hrests (hidle : (m.master.inLane dev).Idle) : False := by
    unfold step at hstep
    dsimp only at hstep
    rw [sendIn_rests hidle] at hstep
    cases hstep
  cases h with
  | rest late hattends hawaits hidle => exact (hrests hidle).elim
  | held late hattends hheld hidle => exact (hrests hidle).elim
  | forwarded late hattends hidle => exact (hrests hidle).elim
  | asked late hattends hawaits hidle => exact (hrests hidle).elim
  | taken hattends hawaits hgone => exact (hrests hgone.idle).elim
  | @offered packet hattends hawaits hoffer =>
      obtain ⟨hbytes, d, hsend, hmounted, hgone, hbits, hout⟩ :=
        sendIn_takes hattends.mounted hoffer
      unfold step at hstep
      dsimp only at hstep
      rw [hsend] at hstep
      cases hstep
      refine ⟨rfl, ?_⟩
      have hraised : d.bufStatus = bufStatusBit (2 * endpointNum dev.epIn) := by
        rw [hbits, hattends.bufStatus]
        exact BitVec.zero_or
      have hawaitsNext : AwaitsBlock (d.lane (endpointNum dev.epOut) false) := by
        rw [hout]
        exact hawaits
      rw [hbytes, Bool.true_and]
      by_cases hlength : packet.bytes.length = 13
      · rw [decide_eq_false (not_not.mpr hlength)]
        refine .rest true ⟨hmounted, hattends.busReset, hattends.setupReq, hraised⟩ hawaitsNext
          hgone.idle fun _ => ⟨_, hgone.taken, ?_⟩
        rw [hgone.nextReads, if_pos hlength]
      · rw [decide_eq_true hlength]
        exact .taken ⟨hmounted, hattends.busReset, hattends.setupReq, hraised⟩ hawaitsNext hgone
          hlength

end Steps

end UsbSec.Device
