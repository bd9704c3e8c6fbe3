import UsbSec.Host.Accounting
import UsbSec.Host.DataRead
import UsbSec.Host.Frame
import UsbSec.Rp2040.NextBuffer

/-!
# The packets of a transfer

A transfer of data as the controller sees it. A message is received and handled, then the
controller completes the buffer of the endpoint again and again, and each time the handler takes it
in. A buffer is completed with a packet from the device or with the packet that was in it, on the
EPX registers or on those of an interrupt endpoint.
-/

namespace UsbSec.Host

open Library Usb Rp2040

/-! ## The controller -/

/-- What the controller has exchanged when it completes a buffer. -/
inductive Exchange where
  | received (packet : Packet)
  | sent

/-- The word of a buffer that was sent. -/
def sentWord (word : BitVec 32) : BitVec 32 := word &&& ~~~(bufCtrlAvail ||| bufCtrlFull)

/-- The controller sends the packet in the buffer of an interrupt endpoint once it is armed. -/
def sendInterrupt (h : Hcd) (slot : Nat) : Option Hcd :=
  let buffer := intEpBufferCtrl (slot - 1)
  let word := h.memory.word buffer
  if slot ∈ interruptSlots ∧ hasBits word bufCtrlAvail = true ∧ hasBits word bufCtrlFull = true then
    some
      { h with memory := h.memory.writeWord (some buffer) (sentWord word)
               bufStatus := h.bufStatus ||| slotBit slot }
  else none

/-- The controller completes the buffer of the endpoint in a slot. -/
def exchanged (h : Hcd) (slot : Nat) : Exchange → Option Hcd
  | .received packet =>
      if (h.epPool slot).bufferControl = some epxBufCtrl then receiveIn h packet
      else receiveInterrupt h slot packet
  | .sent =>
      if (h.epPool slot).bufferControl = some epxBufCtrl then sendOut h else sendInterrupt h slot

/-- The slave with another state of the controller. -/
def Core0.withController (m : Core0) (hcd : Hcd) : Core0 :=
  { m with slave := { m.slave with hcd := hcd } }

/-- The controller completes a buffer and the handler runs. -/
def packetStep (slot : Nat) (m : Core0) (packet : Exchange) : Option Core0 :=
  (exchanged m.slave.hcd slot packet).bind fun hcd => step (m.withController hcd) .hcdIrq

/-- The state after a message was handled and packets were exchanged for it. -/
def afterPackets (slot : Nat) (message : SpiMessage) (packets : List Exchange) (c : Core0) :
    Option Core0 :=
  (Machine.run step c [.receive message, .slavework]).bind fun started =>
    Machine.run (packetStep slot) started packets

theorem packetStep_eq_some {slot : Nat} {m next : Core0} {packet : Exchange} :
    packetStep slot m packet = some next ↔
      ∃ hcd, exchanged m.slave.hcd slot packet = some hcd ∧
        step (m.withController hcd) .hcdIrq = some next := Option.bind_eq_some_iff

theorem afterPackets_eq_some {slot : Nat} {message : SpiMessage} {packets : List Exchange}
    {c last : Core0} :
    afterPackets slot message packets c = some last ↔
      ∃ started, Machine.run step c [.receive message, .slavework] = some started ∧
        Machine.run (packetStep slot) started packets = some last := Option.bind_eq_some_iff

/-! ## The frame -/

theorem sendInterrupt_samePool {h k : Hcd} {slot : Nat} (hsent : sendInterrupt h slot = some k) :
    SamePool h k := by
  unfold sendInterrupt at hsent
  dsimp only at hsent
  split at hsent
  · rename_i hpolled
    have hslot := interruptSlots_bounds hpolled.1
    have hnum : slot - 1 < hostInterruptEndpoints := by
      show slot - 1 < 15
      omega
    cases hsent
    exact ⟨rfl, fun _ hoffset =>
      writeWord_buffer _ (intEpBufferCtrl_isBufferControl hnum) hoffset _⟩
  · cases hsent

theorem exchanged_samePool {h k : Hcd} {slot : Nat} {packet : Exchange}
    (hexchange : exchanged h slot packet = some k) : SamePool h k := by
  cases packet with
  | received packet =>
      unfold exchanged at hexchange
      dsimp only at hexchange
      split at hexchange
      · exact receiveIn_samePool hexchange
      · exact receiveInterrupt_samePool hexchange
  | sent =>
      unfold exchanged at hexchange
      dsimp only at hexchange
      split at hexchange
      · exact sendOut_samePool hexchange
      · exact sendInterrupt_samePool hexchange

section Moves

variable {R : Hcd → Hcd → Prop} [IsPreorder Hcd R] (hR : TransferRule R) {slot : Nat}

include hR

/-- A packet after which core 0 still runs moves along the relation. -/
theorem packetStep_moves {m next : Core0} {packet : Exchange}
    (hstep : packetStep slot m packet = some next) (hrunning : next.halted = none) :
    m.halted = none ∧ R m.slave.hcd next.slave.hcd := by
  obtain ⟨hcd, hexchange, hirq⟩ := packetStep_eq_some.mp hstep
  have hhandled := step_transfers hR hirq hrunning nofun
  have hquiet : R m.slave.hcd hcd := hR.quiet _ _ (exchanged_samePool hexchange)
  exact ⟨hhandled.1, trans_of R hquiet hhandled.2⟩

/-- So do the packets of a transfer. -/
theorem packets_moves {m last : Core0} {packets : List Exchange}
    (hrun : Machine.run (packetStep slot) m packets = some last) (hrunning : last.halted = none) :
    m.halted = none ∧ R m.slave.hcd last.slave.hcd := by
  induction packets generalizing m with
  | nil =>
      cases hrun
      exact ⟨hrunning, refl_of R _⟩
  | cons packet rest ih =>
      obtain ⟨next, hstep, hrest⟩ := Machine.run_cons_eq_some.mp hrun
      obtain ⟨hnext, hmoves⟩ := ih hrest
      obtain ⟨hm, hfirst⟩ := packetStep_moves hR hstep hnext
      exact ⟨hm, trans_of R hfirst hmoves⟩

end Moves

/-- A packet leaves `rx` alone. -/
theorem packetStep_rx {slot : Nat} {m next : Core0} {packet : Exchange}
    (hstep : packetStep slot m packet = some next) (hrunning : next.halted = none) :
    next.slave.rx = m.slave.rx := by
  obtain ⟨hcd, -, hirq⟩ := packetStep_eq_some.mp hstep
  have hm : (m.withController hcd).halted = none := by
    by_contra hhalted
    rw [step, if_neg hhalted] at hirq
    cases hirq
  rw [step_running hm] at hirq
  cases hrun : hcdRp2040Irq (m.withController hcd).causes
      ((m.withController hcd).slave.hcd.bufStatus != 0)
      (m.withController hcd).slave.hcd.transComplete (m.withController hcd).slave with
  | error reason t =>
      cases (congrArg some (runHandler_error hrun)).symm.trans hirq
      cases hrunning
  | ok _ t =>
      cases (congrArg some (runHandler_ok hrun)).symm.trans hirq
      have hkept : t.rx = (m.withController hcd).slave.rx :=
        (hcdRp2040Irq_moves sameRx_rule _ _ _).ok hrun
      exact hkept

/-! ## A completed buffer -/

/-- What a completed buffer leaves behind. -/
structure PacketDone (bit : BitVec 32) (buffer : Nat) (h k : Hcd) : Prop where
  armed : hasBits (h.memory.word buffer) bufCtrlAvail = true
  disarmed : hasBits (k.memory.word buffer) bufCtrlAvail = false
  epPool : k.epPool = h.epPool
  activeEp : k.activeEp = h.activeEp
  bufStatus : k.bufStatus = h.bufStatus ||| bit
  noSetup : hasBits h.sieCtrl sieCtrlSendSetup = false →
    hasBits k.sieCtrl sieCtrlSendSetup = false
  word : ∀ offset, offset ≠ buffer → k.memory.word offset = h.memory.word offset

theorem finished_noSetup {h : Hcd} (hnone : hasBits h.sieCtrl sieCtrlSendSetup = false) :
    hasBits (finishTransaction h).sieCtrl sieCtrlSendSetup = false :=
  (hasBits_kept (by decide)).trans hnone

theorem sentWord_bits (word : BitVec 32) : hasBits (sentWord word) bufCtrlAvail = false :=
  hasBits_cleared (by decide)

theorem receiveIn_done {h k : Hcd} {packet : Packet} (hreceive : receiveIn h packet = some k) :
    PacketDone (slotBit epx) epxBufCtrl h k := by
  unfold receiveIn at hreceive
  split at hreceive
  · rename_i hstarted
    have hdisarmed : hasBits ((storePacket h.memory epxCtrl epxBufCtrl packet).word epxBufCtrl)
        bufCtrlAvail = false := by
      rw [storePacket_same]
      exact (receivedWord_bits _ packet).2
    have hother (offset : Nat) (hne : offset ≠ epxBufCtrl) :=
      storePacket_other h.memory epxCtrl packet hne
    cases hreceive
    split
    · exact ⟨hstarted.2.2.2, hdisarmed, rfl, rfl, rfl, finished_noSetup, hother⟩
    · exact ⟨hstarted.2.2.2, hdisarmed, rfl, rfl, rfl, id, hother⟩
  · cases hreceive

theorem sendOut_done {h k : Hcd} (hsent : sendOut h = some k) :
    PacketDone (slotBit epx) epxBufCtrl h k := by
  unfold sendOut at hsent
  split at hsent
  · rename_i hstarted
    have hdisarmed : hasBits ((emptyEpx h).memory.word epxBufCtrl) bufCtrlAvail = false := by
      show hasBits ((Memory.writeWord _ (some epxBufCtrl) _).word epxBufCtrl) _ = false
      rw [Memory.writeWord_same]
      exact sentWord_bits _
    have hother (offset : Nat) (hne : offset ≠ epxBufCtrl) :
        (emptyEpx h).memory.word offset = h.memory.word offset := Memory.writeWord_other _ _ hne
    cases hsent
    split
    · exact ⟨hstarted.1.2.2.2, hdisarmed, rfl, rfl, rfl, finished_noSetup, hother⟩
    · exact ⟨hstarted.1.2.2.2, hdisarmed, rfl, rfl, rfl, id, hother⟩
  · cases hsent

theorem receiveInterrupt_done {h k : Hcd} {slot : Nat} {packet : Packet}
    (hreceive : receiveInterrupt h slot packet = some k) :
    PacketDone (slotBit slot) (intEpBufferCtrl (slot - 1)) h k := by
  unfold receiveInterrupt at hreceive
  dsimp only at hreceive
  split at hreceive
  · rename_i hpolled
    cases hreceive
    refine ⟨hpolled.2.2, ?_, rfl, rfl, rfl, id, fun offset hother => ?_⟩
    · show hasBits ((storePacket _ _ _ packet).word _) _ = false
      rw [storePacket_same]
      exact (receivedWord_bits _ packet).2
    · exact storePacket_other _ _ packet hother
  · cases hreceive

theorem sendInterrupt_done {h k : Hcd} {slot : Nat} (hsent : sendInterrupt h slot = some k) :
    PacketDone (slotBit slot) (intEpBufferCtrl (slot - 1)) h k := by
  unfold sendInterrupt at hsent
  dsimp only at hsent
  split at hsent
  · rename_i hpolled
    cases hsent
    refine ⟨hpolled.2.1, ?_, rfl, rfl, rfl, id, fun offset hother => ?_⟩
    · show hasBits ((Memory.writeWord _ (some _) _).word _) _ = false
      rw [Memory.writeWord_same]
      exact sentWord_bits _
    · exact Memory.writeWord_other _ _ hother
  · cases hsent

/-- The buffer of the endpoint was armed and is not any more, and its bit is set. -/
theorem exchanged_done {h k : Hcd} {slot buffer control data : Nat} {bit : BitVec 32}
    {packet : Exchange} (hpath : Path h slot bit buffer control data)
    (hexchange : exchanged h slot packet = some k) : PacketDone bit buffer h k := by
  have hbuffer := hpath.bufferControl
  cases hpath with
  | shared registers active =>
      cases packet with
      | received packet => exact receiveIn_done ((if_pos hbuffer).symm.trans hexchange)
      | sent => exact sendOut_done ((if_pos hbuffer).symm.trans hexchange)
  | own mem registers =>
      have hother : (h.epPool slot).bufferControl ≠ some epxBufCtrl := by
        rw [hbuffer]
        intro hsame
        have hvalue : 0x88 + 8 * (slot - 1) = 0x80 := Option.some.inj hsame
        omega
      cases packet with
      | received packet => exact receiveInterrupt_done ((if_neg hother).symm.trans hexchange)
      | sent => exact sendInterrupt_done ((if_neg hother).symm.trans hexchange)

/-! ## The engine -/

theorem tuMin16_of_le {first second : UInt16} (h : first ≤ second) : tuMin16 first second = first := by
  unfold tuMin16
  split
  · rfl
  · rename_i hlt
    exact (UInt16.le_antisymm h (UInt16.not_lt.mp hlt)).symm

/-- A packet that was sent completes its write. -/
theorem hwEndpointXferContinue_sent {c : Channel} {count : UInt16} (hrx : c.ep.rx = false)
    (hwhole : c.ep.isPartial = false) (hremaining : c.ep.remainingLen = 0)
    (hempty : hasBits (c.memory.readWord c.ep.bufferControl) bufCtrlFull = false)
    (hlength : bufLen (c.memory.readWord c.ep.bufferControl) = count)
    (hsingle : hasBits (c.memory.readWord c.ep.endpointControl) epCtrlDoubleBuffered = false) :
    hwEndpointXferContinue .slave c =
      .ok true { c with ep := { c.ep with xferredLen := c.ep.xferredLen + count } } := by
  let sent : Channel := { c with ep := { c.ep with xferredLen := c.ep.xferredLen + count } }
  have hsent : syncSent (c.memory.readWord c.ep.bufferControl) count c = .ok () sent :=
    Program.require_bind hempty _ _ _
  have hsync : syncEpBuffer .slave c = .ok () sent := by
    have hzero : ({ sent with ep := { sent.ep with remainingLen := 0 } } : Channel) = sent := by
      rw [← hremaining]
    unfold syncEpBuffer
    rw [Program.read_bind, hlength, if_pos hrx]
    refine (Program.bind_ok hsent).trans ?_
    rw [Program.read_bind]
    by_cases hshort : IsShort count sent.ep.wMaxPacketSize
    · rw [Program.when_true hshort]
      exact congrArg (EStateM.Result.ok ()) hzero
    · rw [Program.when_false hshort]
      rfl
  unfold hwEndpointXferContinue
  rw [Program.read_bind, hwhole]
  refine (Program.bind_ok hsync).trans ?_
  have hdouble : ¬ hasBits (sent.memory.readWord sent.ep.endpointControl) epCtrlDoubleBuffered =
      true := by
    show ¬ hasBits (c.memory.readWord c.ep.endpointControl) epCtrlDoubleBuffered = true
    rw [hsingle]
    decide
  rw [Program.read_bind, if_neg hdouble, if_pos hremaining]
  rfl

/-! ## The start of a transfer -/

/-- The endpoint in a slot when a transfer of data from or to the static buffer starts. -/
def freshChannel (slot : Nat) (length : UInt16) (h : Hcd) : Channel :=
  { slotChannel slot h with ep := freshTransfer (.bugger 0) length (h.epPool slot) }

/-- The registers once the first buffer of a transfer is armed. -/
def transferStarted (devAddr epAddr : UInt8) (slot : Nat) (length : UInt16) (h : Hcd) : Hcd :=
  let fresh := freshChannel slot length h
  { storeSlot slot h ⟨nextEp .slave fresh.ep, nextMemory .slave fresh⟩ with
    activeEp := some slot
    devAddrCtrl := devAddr.toBitVec.setWidth 32 |||
      (tuEdptNumber epAddr).toBitVec.setWidth 32 <<< 16
    sieCtrl := startDataFlags h epAddr }

/-- The slave once a USB_DATA message has started a transfer. -/
def dataStarted (epAddr : UInt8) (slot : Nat) (bytes : List UInt8) (s : Slave) : Slave :=
  withHcd (withCall (filled bytes s) (.edptXfer epAddr))
    (transferStarted s.devAddr epAddr slot (UInt16.ofNat bytes.length) (filled bytes s).hcd)

section Start

variable {slot : Nat} {devAddr epAddr : UInt8}

/-- Starting a transfer arms the first buffer, or is undefined. -/
theorem hcdEdptXfer_outcome {h : Hcd} (hslot : getDevEp h epAddr = some slot)
    (haddress : (h.epPool slot).epAddr = epAddr) (devAddr : UInt8) (length : UInt16) :
    Program.Outcome (hcdEdptXfer devAddr epAddr (.bugger 0) length) h
      (fun _ k => CanLoadNext .slave (freshChannel slot length h).ep ∧
        k = transferStarted devAddr epAddr slot length h)
      (fun _ => ¬ CanLoadNext .slave (freshChannel slot length h).ep) := by
  let active : Hcd := { h with activeEp := some slot }
  have harm : Program.Outcome (hwEndpointXferStart .slave (.bugger 0) length) (slotChannel slot active)
      (fun _ d => CanLoadNext .slave (freshChannel slot length h).ep ∧
        d = ⟨nextEp .slave (freshChannel slot length h).ep,
          nextMemory .slave (freshChannel slot length h)⟩)
      (fun _ => ¬ CanLoadNext .slave (freshChannel slot length h).ep) :=
    .of_eq (hwEndpointXferStart_apply _ _ _) (startNextBufferSlave_outcome _)
  unfold hcdEdptXfer
  refine .read_bind ?_
  rw [hslot]
  refine .of_eq (Program.update_bind _ _ _) ?_
  rw [Program.when_false (not_not.mpr haddress.symm)]
  refine .of_eq (Program.pure_bind _ _ _) ?_
  let armed : Channel := ⟨nextEp .slave (freshChannel slot length h).ep,
    nextMemory .slave (freshChannel slot length h)⟩
  refine .bind (P := fun _ k => CanLoadNext .slave (freshChannel slot length h).ep ∧
    k = storeSlot slot active armed) (.onPart harm ?_ fun _ hnot => hnot) ?_
  · rintro _ _ ⟨hcan, rfl⟩
    exact ⟨hcan, rfl⟩
  · rintro _ _ ⟨hcan, rfl⟩
    exact .of_ok rfl ⟨hcan, rfl⟩

/-- A USB_DATA message starts a transfer, if its data fit the static buffer. -/
theorem handleUsbData_outcome {message : SpiMessage} {bytes : List UInt8} {s : Slave}
    (hmessage : AsksFor message epAddr bytes) (hslot : getDevEp s.hcd epAddr = some slot)
    (haddress : (s.hcd.epPool slot).epAddr = epAddr) :
    let length := UInt16.ofNat bytes.length
    let ready := (filled bytes s).hcd
    Program.Outcome (handleUsbData message.payload) s
      (fun _ t => bytes.length ≤ 1000 ∧ CanLoadNext .slave (freshChannel slot length ready).ep ∧
        t = dataStarted epAddr slot bytes s)
      (fun _ => ¬ (bytes.length ≤ 1000 ∧
        CanLoadNext .slave (freshChannel slot length ready).ep)) := by
  intro length ready
  have hfound : getDevEp ready epAddr = some slot := hslot
  have hxfer := hcdEdptXfer_outcome hfound haddress s.devAddr length
  have happly := handleUsbData_apply hmessage s
  by_cases hfits : bytes.length ≤ 1000
  · rw [if_pos hfits] at happly
    refine .of_eq happly (.of_eq (Program.update_bind _ _ _) ?_)
    refine .onPart hxfer ?_ fun _ hnot hboth => hnot hboth.2
    rintro _ _ ⟨hcan, rfl⟩
    exact ⟨hfits, hcan, rfl⟩
  · rw [if_neg hfits] at happly
    exact .of_error happly fun hboth => hfits hboth.1

/-- The registers of the endpoint once its first buffer is armed. -/
structure FirstArmed (devAddr epAddr : UInt8) (slot : Nat) (length : UInt16) (h : Hcd)
    (bit : BitVec 32) (buffer control data : Nat) : Prop where
  path : Path (transferStarted devAddr epAddr slot length h) slot bit buffer control data
  control : PointsTo ((transferStarted devAddr epAddr slot length h).memory.word control) data
  ep : (transferStarted devAddr epAddr slot length h).epPool slot =
    nextEp .slave (freshChannel slot length h).ep
  word : (transferStarted devAddr epAddr slot length h).memory.word buffer =
    Rp2040.bufferWord .slave (freshChannel slot length h).ep

theorem transferStarted_armed {h : Hcd} (hpool : PoolOk h) (hslot : getDevEp h epAddr = some slot)
    (hother : ¬ IsControl epAddr) (devAddr : UInt8) (length : UInt16) :
    ∃ bit buffer control data, FirstArmed devAddr epAddr slot length h bit buffer control data := by
  obtain ⟨-, hconfigured, -⟩ := getDevEp_other hslot hother
  have hopened := (hpool slot).opened ((hpool slot).registers hconfigured)
  have hep : (transferStarted devAddr epAddr slot length h).epPool slot =
      nextEp .slave (freshChannel slot length h).ep := storeSlot_same _ _ _
  obtain ⟨bit, buffer, control, data, hpath⟩ := hopened.registered.path
    (h := transferStarted devAddr epAddr slot length h) (by rw [hep]; rfl) rfl
  have hbuffer := hpath.bufferControl
  have hcontrol := hpath.endpointControl
  have hdata := hpath.hwDataBuf
  rw [hep] at hbuffer hcontrol hdata
  refine ⟨bit, buffer, control, data, hpath, ?_, hep, nextMemory_word .slave hbuffer⟩
  show PointsTo ((nextMemory .slave (freshChannel slot length h)).word control) data
  rw [nextMemory_slave_other hbuffer hpath.apart.1]
  exact hopened.control control data hcontrol hdata

/-- When a USB_DATA message was handled and core 0 still runs, the transfer was started. -/
theorem slavework_started {c next : Core0} {message : SpiMessage} {rest : List SpiMessage}
    {bytes : List UInt8} (hrunning : c.halted = none) (hrx : c.slave.rx.items = message :: rest)
    (hmessage : AsksFor message epAddr bytes) (hother : ¬ IsControl epAddr)
    (hslot : getDevEp c.slave.hcd epAddr = some slot) (hstep : step c .slavework = some next)
    (hnext : next.halted = none) :
    ∃ queue : SpiQueue, queue.items = rest ∧ bytes.length ≤ 1000 ∧
      next = { c with slave := dataStarted epAddr slot bytes { c.slave with rx := queue } } := by
  obtain ⟨queue, hqueue, hwork⟩ := slavework_message hrx hmessage
  have haddress := (getDevEp_other hslot hother).2.2
  have hdata := handleUsbData_outcome (s := { c.slave with rx := queue }) hmessage hslot haddress
  rw [step_running hrunning] at hstep
  cases hrun : handleUsbData message.payload { c.slave with rx := queue } with
  | error reason t =>
      cases (congrArg some (runHandler_error (hwork.trans hrun))).symm.trans hstep
      cases hnext
  | ok _ t =>
      cases (congrArg some (runHandler_ok (hwork.trans hrun))).symm.trans hstep
      obtain ⟨hfits, -, rfl⟩ := hdata.ok hrun
      exact ⟨queue, hqueue, hfits, rfl⟩

end Start

end UsbSec.Host
