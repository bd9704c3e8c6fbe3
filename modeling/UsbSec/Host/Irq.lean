import UsbSec.Host.Events
import UsbSec.Library.Machine

/-!
# Interrupts and runs of the slave

The rest of `hcd_rp2040.c`, whose handler calls back into the event handlers, and the machine that
the slave's core 0 forms with its surroundings. `core0_loop` calls `hcd_rp2040_irq_new` and
`slavework` in turn; the machine allows them in any order. Between them the controller completes
transactions with the device and core 1 adds messages to `rx`.

A core that stops stays in the state in which it stopped, and the run ends there.
-/

namespace UsbSec.Host

open Library Usb Rp2040

/-! ## The interrupt handler -/

/-- The bit of a slot in `buf_status`. -/
def slotBit (slot : Nat) : BitVec 32 := 1#32 <<< (2 * slot)

/-- `hw_xfer_complete`. -/
def hwXferComplete (slot : Nat) (result : XferResult) : SlaveM Unit := do
  let s ← Program.read
  -- The length is read before the reset clears it.
  let ep := s.hcd.epPool slot
  Program.when (result ≠ .more) (onHcd (onSlot slot hwEndpointResetTransferNew))
  hcdEventXferComplete ep.devAddr ep.epAddr ep.xferredLen result

/-- `_handle_buff_status_bit`. -/
def handleBuffStatusBit (bit : BitVec 32) (slot : Nat) : SlaveM Unit := do
  Program.update fun s => { s with hcd := { s.hcd with bufStatus := s.hcd.bufStatus &&& ~~~bit } }
  let done ← onHcd (onSlot slot (hwEndpointXferContinue .slave))
  hwXferComplete slot (if done then .success else .more)

/-- The EPX part of `hw_handle_buff_status`: the buffer belongs to the active endpoint. -/
def handleEpxBuffer : SlaveM Unit := do
  let s ← Program.read
  match s.hcd.activeEp with
  | none => Program.stop .undefined
  | some slot => handleBuffStatusBit (slotBit epx) slot

/-- The loop of `hw_handle_buff_status` over the interrupt endpoints. -/
def handleInterruptBuffers : List Nat → BitVec 32 → SlaveM (BitVec 32)
  | [], remaining => pure remaining
  | slot :: rest, remaining =>
      if remaining = 0 then pure remaining
      else if hasBits remaining (slotBit slot) then do
        handleBuffStatusBit (slotBit slot) slot
        handleInterruptBuffers rest (remaining &&& ~~~slotBit slot)
      else handleInterruptBuffers rest remaining

/-- `hw_handle_buff_status`. -/
def hwHandleBuffStatus : SlaveM Unit := do
  let s ← Program.read
  let remaining := s.hcd.bufStatus
  Program.when (hasBits remaining (slotBit epx)) handleEpxBuffer
  let remaining ← handleInterruptBuffers interruptSlots (remaining &&& ~~~slotBit epx)
  Program.when (remaining ≠ 0) (error "Unhandled buffer %d\n")

/-- `hw_trans_complete`. Data transactions are handled by their buffers. -/
def hwTransComplete : SlaveM Unit := do
  let s ← Program.read
  Program.when (hasBits s.hcd.sieCtrl sieCtrlSendSetup) (hwXferComplete epx .success)

/-- The other interrupt causes that are enabled. -/
inductive Cause where
  | hostConnDis
  | hostResume
  | epStallNak
  | stall
  | errorRxTimeout
  | errorDataSeq
  deriving DecidableEq, Repr

/-- What `hcd_rp2040_irq_new` does on the causes behind `TRANS_COMPLETE`. A receive timeout only
lights the LED. -/
def handleCauses (causes : List Cause) : SlaveM Unit := do
  Program.when (.epStallNak ∈ causes) (error "")
  Program.when (.stall ∈ causes) (error "")
  Program.when (.errorDataSeq ∈ causes) (error "Data Seq Error \n")
  Program.when (.hostResume ∈ causes) (error "Unhandled IRQ 0x%x\n")

/-- `hcd_rp2040_irq_new` for the causes that `usb_hw->ints` shows. Attachment and removal only
drive a pin. -/
def hcdRp2040Irq (causes : List Cause) (buffStatus transComplete : Bool) : SlaveM Unit := do
  Program.when buffStatus hwHandleBuffStatus
  Program.when transComplete do
    Program.update fun s => { s with hcd := { s.hcd with transComplete := false } }
    hwTransComplete
  handleCauses causes

/-! ## The slave and its surroundings -/

/-- What can happen on the slave: core 1 adds a message to `rx`, core 0 runs one of the two
functions of its loop, and the controller sends the setup packet, receives a packet in the EPX
buffer, sends the packet in it, receives a packet in the buffer of an interrupt endpoint, or
raises another cause. -/
inductive Event where
  | receive (message : SpiMessage)
  | slavework
  | hcdIrq
  | setupSent
  | packetIn (packet : Packet)
  | packetOut
  | interruptIn (slot : Nat) (packet : Packet)
  | raise (cause : Cause)

/-- The slave with the other causes that are pending, and the reason why its core 0 stopped. -/
structure Core0 where
  slave : Slave
  causes : List Cause
  halted : Option Halt

/-- The controller is to send the setup packet. -/
def SetupStarted (h : Hcd) : Prop :=
  hasBits h.sieCtrl sieCtrlStartTrans = true ∧ hasBits h.sieCtrl sieCtrlSendSetup = true

instance (h : Hcd) : Decidable (SetupStarted h) := inferInstanceAs (Decidable (_ ∧ _))

/-- The controller is to carry out a data transaction in the given direction on the EPX buffer,
which is armed. -/
def DataStarted (h : Hcd) (direction : BitVec 32) : Prop :=
  hasBits h.sieCtrl sieCtrlStartTrans = true ∧ hasBits h.sieCtrl sieCtrlSendSetup = false ∧
    hasBits h.sieCtrl direction = true ∧ hasBits (h.memory.word epxBufCtrl) bufCtrlAvail = true

instance (h : Hcd) (direction : BitVec 32) : Decidable (DataStarted h direction) :=
  inferInstanceAs (Decidable (_ ∧ _))

/-- The word of a buffer that a packet was received in. -/
def receivedWord (word : BitVec 32) (packet : Packet) : BitVec 32 :=
  (word &&& ~~~(bufCtrlAvail ||| bufCtrlLenMask)) ||| bufCtrlFull |||
    BitVec.ofNat 32 packet.bytes.length

/-- Store a received packet in the buffer that the endpoint control register points to. -/
def storePacket (memory : Memory) (control buffer : Nat) (packet : Packet) : Memory :=
  let offset := (memory.word control &&& 0xffc0#32).toNat
  { memory.writeWord (some buffer) (receivedWord (memory.word buffer) packet) with
    data := memory.data.writeAt offset packet.bytes }

/-- The transaction is over: the controller reports it and clears START_TRANS. -/
def finishTransaction (h : Hcd) : Hcd :=
  { h with sieCtrl := h.sieCtrl &&& ~~~sieCtrlStartTrans, transComplete := true }

/-- The controller sends the setup packet. -/
def sendSetupPacket (h : Hcd) : Option Hcd :=
  if SetupStarted h then some (finishTransaction h) else none

/-- The EPX buffer is filled with a packet. -/
def fillEpx (h : Hcd) (packet : Packet) : Hcd :=
  { h with memory := storePacket h.memory epxCtrl epxBufCtrl packet
           bufStatus := h.bufStatus ||| slotBit epx }

/-- The controller receives a packet in the EPX buffer. The transaction is over after the last
buffer and after an empty packet. -/
def receiveIn (h : Hcd) (packet : Packet) : Option Hcd :=
  if DataStarted h sieCtrlReceiveData then
    some (if hasBits (h.memory.word epxBufCtrl) bufCtrlLast ∨ packet.bytes = [] then
      finishTransaction (fillEpx h packet) else fillEpx h packet)
  else none

/-- The EPX buffer is emptied. -/
def emptyEpx (h : Hcd) : Hcd :=
  let sent := h.memory.word epxBufCtrl &&& ~~~(bufCtrlAvail ||| bufCtrlFull)
  { h with memory := h.memory.writeWord (some epxBufCtrl) sent
           bufStatus := h.bufStatus ||| slotBit epx }

/-- The controller sends the packet in the EPX buffer. -/
def sendOut (h : Hcd) : Option Hcd :=
  if DataStarted h sieCtrlSendData ∧ hasBits (h.memory.word epxBufCtrl) bufCtrlFull = true then
    some (if hasBits (h.memory.word epxBufCtrl) bufCtrlLast then finishTransaction (emptyEpx h)
      else emptyEpx h)
  else none

/-- The controller has polled an interrupt endpoint and received a packet. -/
def receiveInterrupt (h : Hcd) (slot : Nat) (packet : Packet) : Option Hcd :=
  let buffer := intEpBufferCtrl (slot - 1)
  if slot ∈ interruptSlots ∧ hasBits h.intEpCtrl (1#32 <<< slot) = true ∧
      hasBits (h.memory.word buffer) bufCtrlAvail = true then
    some
      { h with memory := storePacket h.memory (intEpCtrl (slot - 1)) buffer packet
               bufStatus := h.bufStatus ||| slotBit slot }
  else none

/-- Run a handler of core 0. -/
def runHandler (handler : SlaveM Unit) (m : Core0) : Core0 :=
  match handler m.slave with
  | .ok _ slave => { m with slave := slave }
  | .error reason slave => { m with slave := slave, halted := some reason }

/-- The controller completes a transaction on the EPX registers. -/
def transact (transaction : Transaction) (next : Option Hcd) (m : Core0) : Option Core0 :=
  next.map fun hcd =>
    { m with slave := { m.slave with
        hcd := hcd, calls := m.slave.calls ++ [.transacted transaction] } }

/-- One step of the slave and its surroundings while core 0 runs. -/
def stepRunning (m : Core0) : Event → Option Core0
  | .receive message =>
      (m.slave.rx.add message).map fun rx => { m with slave := { m.slave with rx := rx } }
  | .slavework => some (runHandler slavework m)
  | .hcdIrq =>
      some (runHandler
        (hcdRp2040Irq m.causes (m.slave.hcd.bufStatus != 0) m.slave.hcd.transComplete) m)
  | .setupSent => transact .setupSent (sendSetupPacket m.slave.hcd) m
  | .packetIn packet => transact .packetIn (receiveIn m.slave.hcd packet) m
  | .packetOut => transact .packetOut (sendOut m.slave.hcd) m
  | .interruptIn slot packet =>
      (receiveInterrupt m.slave.hcd slot packet).map fun hcd =>
        { m with slave := { m.slave with hcd := hcd } }
  | .raise cause => some { m with causes := cause :: m.causes }

/-- One step of the slave and its surroundings. The run of a core that stopped is over. -/
def step (m : Core0) (event : Event) : Option Core0 :=
  if m.halted = none then stepRunning m event else none

/-- The slave when its loop starts. -/
def Core0.init (romWord : BitVec 32) : Core0 := ⟨.init romWord, [], none⟩

theorem step_running {m : Core0} (h : m.halted = none) (event : Event) :
    step m event = stepRunning m event := if_pos h

/-- What `slavework` has done when it ends. -/
theorem slavework_ok {s t : Slave} (hrun : slavework s = .ok () t) :
    t = s ∨ ∃ message rest, s.rx.items = message :: rest.items ∧
      handleMessage message { s with rx := rest } = .ok () t := by
  unfold slavework at hrun
  rw [Program.read_bind] at hrun
  cases hremove : s.rx.remove with
  | none =>
      rw [hremove] at hrun
      cases hrun
      exact .inl rfl
  | some taken =>
      obtain ⟨message, rest⟩ := taken
      rw [hremove] at hrun
      exact .inr ⟨message, rest, Fifo.remove_eq_some.mp hremove, hrun⟩

/-- A handler that ends gives the next state. -/
theorem runHandler_ok {handler : SlaveM Unit} {m : Core0} {slave : Slave}
    (h : handler m.slave = .ok () slave) : runHandler handler m = { m with slave := slave } := by
  unfold runHandler
  rw [h]

/-- A handler that stops ends the run. -/
theorem runHandler_error {handler : SlaveM Unit} {m : Core0} {reason : Halt} {slave : Slave}
    (h : handler m.slave = .error reason slave) :
    runHandler handler m = { m with slave := slave, halted := some reason } := by
  unfold runHandler
  rw [h]

end UsbSec.Host
