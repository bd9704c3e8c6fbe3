import UsbSec.Device.Events
import UsbSec.Library.Machine

/-!
# Interrupts and runs of the master

The rest of `dcd_rp2040.c`, whose handler calls back into the event handlers, and the machine
that the master's core 0 forms with its surroundings. `core0_loop` calls
`handle_spi_slave_event` and `dcd_rp2040_irq_new` in turn; the machine allows them in any order.
Between them the host sends SETUP packets, resets the bus and moves data through armed buffers,
and core 1 adds messages to `rx`.
-/

namespace UsbSec.Device

open Library Usb Rp2040

/-! ## The interrupt handler -/

/-- The bit of an endpoint in `buf_status`. -/
def bufStatusBit (i : Nat) : BitVec 32 := 1#32 <<< i

/-- The call of `hw_endpoint_xfer_continue` on the endpoint of a number and direction. -/
def xferContinue (num : Nat) (dirIn : Bool) : MasterM Bool := do
  record (.xferContinue num dirIn)
  onDcd (withEndpoint num dirIn (hwEndpointXferContinue .master))

/-- `hw_handle_buff_status_bit`. Its copy of the remaining bits is not handed back. -/
def hwHandleBuffStatusBit (i : Nat) : MasterM Unit := do
  Program.update fun s =>
    { s with dcd := { s.dcd with bufStatus := s.dcd.bufStatus &&& ~~~bufStatusBit i } }
  let num := i / 2
  let dirIn := i % 2 == 0
  let done ← xferContinue num dirIn
  Program.when done do
    let s ← Program.read
    let ep := s.dcd.hwEndpoints num dirIn
    dcdEventXferCompleteNew ep.epAddr ep.xferredLen
    onDcd (withEndpoint num dirIn hwEndpointResetTransferNew)

/-- The loop over the OUT endpoints 3, 5, .. that follow. -/
def handleOutEndpoints : List Nat → BitVec 32 → MasterM (BitVec 32)
  | [], remaining => pure remaining
  | i :: rest, remaining =>
      if remaining = 0 then pure remaining
      else if hasBits remaining (bufStatusBit i) then do
        hwHandleBuffStatusBit i
        -- The constant is the bit of IN endpoint 1, whichever endpoint was handled.
        handleOutEndpoints rest (remaining &&& ~~~4#32)
      else handleOutEndpoints rest remaining

/-- The loop over the IN endpoints 2, 4, .. that follow. -/
def handleInEndpoints : List Nat → BitVec 32 → MasterM Unit
  | [], _ => pure ()
  | i :: rest, remaining =>
      if remaining = 0 then pure ()
      else do
        Program.when (hasBits remaining (bufStatusBit i)) (hwHandleBuffStatusBit i)
        handleInEndpoints rest remaining

/-- The bits of the non-control OUT endpoints, in the order they are looked at. -/
def outBits : List Nat := (List.range 15).map fun k => 2 * k + 3

/-- The bits of the non-control IN endpoints, in the order they are looked at. -/
def inBits : List Nat := (List.range 15).map fun k => 2 * k + 2

/-- `hw_handle_buff_status`. -/
def hwHandleBuffStatus : MasterM Unit := do
  let s ← Program.read
  let remaining := s.dcd.bufStatus
  -- The bits of endpoint 0 stay in `remaining`: the callee clears them in its own copy.
  Program.when (hasBits remaining 2#32) (hwHandleBuffStatusBit 1)
  Program.when (hasBits remaining 1#32) (hwHandleBuffStatusBit 0)
  let remaining ← handleOutEndpoints outBits remaining
  handleInEndpoints inBits remaining

/-- The interrupt causes that the device controller raises and the handler acts on. The suspend
and resume causes are only acknowledged. -/
structure DcdInts where
  busReset : Bool
  setupReq : Bool
  buffStatus : Bool
  deriving DecidableEq

/-- The bus-reset branch of `dcd_rp2040_irq_new`. -/
def handleBusReset : MasterM Unit := do
  Program.update fun s => { s with dcd := { s.dcd with devAddrCtrl := 0 } }
  onDcd resetNonControlEndpoints
  deviceEventBusReset

/-- The setup branch of `dcd_rp2040_irq_new`. -/
def handleSetupReq : MasterM Unit := do
  onDcd resetEp0Pid
  let s ← Program.read
  dcdEventSetupReceivedNew s.dcd.setupPacket

/-- `dcd_rp2040_irq_new`. -/
def dcdRp2040Irq (ints : DcdInts) : MasterM Unit := do
  Program.when ints.busReset handleBusReset
  Program.when ints.setupReq handleSetupReq
  Program.when ints.buffStatus hwHandleBuffStatus

/-! ## The master and its surroundings -/

/-- What can happen on the master: the host sends a SETUP packet or resets the bus, takes the
packet armed on an IN endpoint or fills the buffer armed on an OUT endpoint; core 1 adds a
message to `rx`; core 0 runs one of the two functions of its loop. -/
inductive Event where
  | hostSetup (packet : ControlRequest)
  | hostReset
  | hostIn (num : Nat)
  | hostOut (num : Nat) (packet : Packet)
  | receive (message : SpiMessage)
  | handleSpiSlaveEvent
  | dcdIrq

/-- The master with the interrupt causes that are pending. -/
structure Core0 where
  master : Master
  busReset : Bool
  setupReq : Bool

/-- The buffer the controller uses for an endpoint, when the endpoint is enabled. -/
def controllerBuffer (dcd : Dcd) (num : Nat) (dirIn : Bool) : Option Nat :=
  if num = 0 then some ep0BufA
  else if num < usbMaxEndpoints then
    let control := dcd.memory.word (epCtrl (num - 1) dirIn)
    if hasBits control epCtrlEnable then some (control &&& 0xffc0#32).toNat else none
  else none

/-- The controller has sent the armed IN buffer: it clears AVAIL and FULL and raises the bit of
the endpoint. -/
def sendIn (dcd : Dcd) (num : Nat) : Option Dcd := do
  let _ ← controllerBuffer dcd num true
  let word := dcd.memory.word (epBufCtrl num true)
  guard (hasBits word bufCtrlAvail && hasBits word bufCtrlFull)
  let word := word &&& ~~~(bufCtrlAvail ||| bufCtrlFull)
  some
    { dcd with
      memory := dcd.memory.writeWord (some (epBufCtrl num true)) word
      bufStatus := dcd.bufStatus ||| bufStatusBit (2 * num) }

/-- The controller has received a packet in the armed OUT buffer: it stores the bytes and their
number, sets FULL, clears AVAIL and raises the bit of the endpoint. -/
def receiveOut (dcd : Dcd) (num : Nat) (packet : Packet) : Option Dcd := do
  let buffer ← controllerBuffer dcd num false
  let word := dcd.memory.word (epBufCtrl num false)
  guard (hasBits word bufCtrlAvail && !hasBits word bufCtrlFull)
  let word := (word &&& ~~~(bufCtrlAvail ||| bufCtrlLenMask)) ||| bufCtrlFull |||
    BitVec.ofNat 32 packet.bytes.length
  let memory := dcd.memory.writeWord (some (epBufCtrl num false)) word
  some
    { dcd with
      memory := { memory with data := memory.data.writeAt buffer packet.bytes }
      bufStatus := dcd.bufStatus ||| bufStatusBit (2 * num + 1) }

/-- Run a handler of core 0. A core that stops takes no further step. -/
def runHandler (handler : MasterM Unit) (m : Core0) : Option Core0 :=
  match handler m.master with
  | .ok _ master => some { m with master := master }
  | .error _ _ => none

/-- The causes that `usb_hw->ints` shows. -/
def Core0.ints (m : Core0) : DcdInts :=
  ⟨m.busReset, m.setupReq, m.master.dcd.bufStatus != 0⟩

/-- One step of the master and its surroundings. -/
def step (m : Core0) : Event → Option Core0
  | .hostSetup packet =>
      let bytes : Buffer := fun i => packet.toBytes.getD i 0
      let dcd := { m.master.dcd with setupPacket := bytes }
      some { m with master := { m.master with dcd := dcd }, setupReq := true }
  | .hostReset => some { m with busReset := true }
  | .hostIn num =>
      (sendIn m.master.dcd num).map fun dcd => { m with master := { m.master with dcd := dcd } }
  | .hostOut num packet =>
      (receiveOut m.master.dcd num packet).map fun dcd =>
        { m with master := { m.master with dcd := dcd } }
  | .receive message =>
      (m.master.rx.add message).map fun rx => { m with master := { m.master with rx := rx } }
  | .handleSpiSlaveEvent => runHandler handleSpiSlaveEvent m
  | .dcdIrq =>
      runHandler (dcdRp2040Irq m.ints) { m with busReset := false, setupReq := false }

/-- The master when its loop starts. -/
def Core0.init (romWord : BitVec 32) : Core0 := ⟨.init romWord, false, false⟩

/-- The master's core 0 reaches `m` from its start by the given events. -/
def Reaches (romWord : BitVec 32) (events : List Event) (m : Core0) : Prop :=
  Machine.run step (.init romWord) events = some m

/-- A handler that went through ran to its end. -/
theorem runHandler_eq_some {handler : MasterM Unit} {m n : Core0}
    (h : runHandler handler m = some n) :
    ∃ master, handler m.master = .ok () master ∧ n = { m with master := master } := by
  unfold runHandler at h
  split at h
  · rename_i value master hrun
    cases h
    exact ⟨master, hrun, rfl⟩
  · cases h

/-- A run that can be computed reaches a state with a property that can be tested. -/
theorem exists_reaches_of_any {romWord : BitVec 32} {events : List Event} {P : Core0 → Prop}
    [DecidablePred P]
    (h : (Machine.run step (.init romWord) events).any (fun m => decide (P m)) = true) :
    ∃ m, Reaches romWord events m ∧ P m := Machine.exists_run_of_any h

end UsbSec.Device
