import UsbSec.Device.StorageTraffic
import UsbSec.Host.BulkService
import UsbSec.System.Projection
import UsbSec.System.WellFormed

/-!
# Bulk-only commands over both controllers

A mass-storage interface is set up on the master, and the slave has opened its endpoints. The host
sends blocks to the OUT endpoint and takes packets from the IN endpoint; in between the master, the
link, the slave and the device pass one message on at a time. The endpoints share the EPX registers
of the slave, and nothing but the order of these messages keeps their transfers apart.
-/

namespace UsbSec.System

open Library Usb Device Host

/-! ## The interface and its traffic -/

/-- A mass-storage interface on both controllers: as the master knows it, and the slots of the
slave's pool that its endpoints are in. A command block fits a packet of the OUT endpoint. -/
structure BulkPath where
  interface : StorageInterface
  outSlot : Nat
  inSlot : Nat
  outSize : UInt16
  out_size : 31 ≤ outSize.toNat
  in_size : interface.inSize.toNat ≤ 64

/-- The interface as the slave knows it. -/
def BulkPath.slave (path : BulkPath) : BulkDevice where
  out := ⟨path.outSlot, path.interface.epOut, path.outSize⟩
  into := ⟨path.inSlot, path.interface.epIn, path.interface.inSize⟩
  out_dir := path.interface.out_dir
  in_dir := path.interface.in_dir
  in_size := path.in_size

/-- The board with its traffic: the function that core 0 of the master calls next, whether the host
waits for the status of a command, and the packets that the slave's controller has exchanged on the
EPX registers. -/
structure Traffic where
  board : Board
  turn : Turn
  waiting : Bool
  carried : List Carried

/-- The interface is set up and nothing is under way. -/
def Traffic.start (b : Board) (turn : Turn) : Traffic := ⟨b, turn, false, []⟩

/-- One step of the board. Core 0 of the master calls its two functions in turn. The host waits
after a block until it has taken a status wrapper, which has 13 bytes. -/
def trafficStep (t : Traffic) (action : Action) : Option Traffic :=
  match action with
  | .device .handleSpiSlaveEvent =>
      if t.turn = .handle then
        (step t.board action).map fun b => { t with board := b, turn := .irq }
      else none
  | .device .dcdIrq =>
      if t.turn = .irq then
        (step t.board action).map fun b => { t with board := b, turn := .handle }
      else none
  | .device (.hostOut _ _) => (step t.board action).map fun b => { t with board := b, waiting := true }
  | .device (.hostIn num) =>
      let bytes := offeredBytes t.board.master.master.dcd num
      (step t.board action).map fun b =>
        { t with board := b, waiting := t.waiting && decide (bytes.length ≠ 13) }
  | .host (.packetIn packet) =>
      let carried : Carried := ⟨addressedEndpoint t.board.slave.slave.hcd, packet.bytes⟩
      (step t.board action).map fun b => { t with board := b, carried := t.carried ++ [carried] }
  | .host .packetOut =>
      let hcd := t.board.slave.slave.hcd
      let carried : Carried := ⟨addressedEndpoint hcd, epxBytes hcd⟩
      (step t.board action).map fun b => { t with board := b, carried := t.carried ++ [carried] }
  | _ => (step t.board action).map fun b => { t with board := b }

/-- The traffic of bulk-only commands: the host sends to the OUT endpoint and takes from the IN
endpoint, and the device sends packets of at most the packet size. -/
def BulkOnly (path : BulkPath) : Action → Prop
  | .device (.hostOut num _) => num = endpointNum path.interface.epOut
  | .device (.hostIn num) => num = endpointNum path.interface.epIn
  | .device (.hostSetup _) | .device .hostReset | .host (.interruptIn _ _) => False
  | .host (.packetIn packet) => packet.bytes.length ≤ path.interface.inSize.toNat
  | _ => True

instance (path : BulkPath) : ∀ action, Decidable (BulkOnly path action)
  | .device (.hostOut _ _) | .device (.hostIn _) => inferInstanceAs (Decidable (_ = _))
  | .device (.hostSetup _) | .device .hostReset | .host (.interruptIn _ _) => isFalse nofun
  | .host (.packetIn _) => inferInstanceAs (Decidable (_ ≤ _))
  | .device .handleSpiSlaveEvent | .device .dcdIrq | .device (.receive _) | .host .slavework
  | .host .hcdIrq | .host (.receive _) | .host .setupSent | .host .packetOut | .host (.raise _)
  | .enqueue _ | .core1 _ | .attach _ => isTrue trivial

/-- No data-out stage: the host sends a command block, and only when it has the status of the
command before. And the device ends every read with one packet. -/
def BlocksOnly (t : Traffic) : Action → Prop
  | .device (.hostOut _ packet) => packet.bytes.length = 31 ∧ t.waiting = false
  | .host (.packetIn packet) => EndsRead t.board.slave.slave.hcd packet
  | _ => True

instance (t : Traffic) : ∀ action, Decidable (BlocksOnly t action)
  | .device (.hostOut _ _) => inferInstanceAs (Decidable (_ ∧ _))
  | .host (.packetIn _) => inferInstanceAs (Decidable (EndsRead _ _))
  | .device (.hostIn _) | .device (.hostSetup _) | .device .hostReset | .host (.interruptIn _ _)
  | .device .handleSpiSlaveEvent | .device .dcdIrq | .device (.receive _) | .host .slavework
  | .host .hcdIrq | .host (.receive _) | .host .setupSent | .host .packetOut | .host (.raise _)
  | .enqueue _ | .core1 _ | .attach _ => isTrue trivial

/-- The messages report these packets, each with the address of its endpoint. -/
def Reports (carried : List Carried) (messages : List SpiMessage) : Prop :=
  List.Forall₂ Carried.ReportedBy carried messages

/-- The messages that core 0 of the slave has handed over since the board was as `first`. -/
def handedSince (first : Board) (t : Traffic) : List SpiMessage :=
  (t.board.outbox .slave).drop (first.outbox .slave).length

/-- The messages that core 0 of the master has dequeued since the board was as `first`. -/
def dequeuedSince (first : Board) (t : Traffic) : List SpiMessage :=
  t.board.chips.master.dequeued.drop first.chips.master.dequeued.length

/-- The EPX registers are not double-booked: a transfer that `slavework` is about to start finds
them free, the active endpoint is the one that has exchanged the packet in the buffer, and every
packet but that one is reported to the master with the address of its endpoint and its bytes. -/
structure Exclusive (first : Board) (t : Traffic) : Prop where
  starts : t.board.halted .slave = none → ∀ message ∈ t.board.chips.slave.rx.items.head?,
    messageKind message = MsgType.usbData → EpxFree t.board.slave.slave.hcd
  names : Rp2040.hasBits t.board.slave.slave.hcd.bufStatus (slotBit Rp2040.epx) = true →
    ∃ slot, t.board.slave.slave.hcd.activeEp = some slot ∧ ∃ carried ∈ t.carried.getLast?,
      (t.board.slave.slave.hcd.epPool slot).epAddr = carried.epAddr
  reported : Reports
    (if Rp2040.hasBits t.board.slave.slave.hcd.bufStatus (slotBit Rp2040.epx) = true then
      t.carried.dropLast else t.carried) (handedSince first t)
  arrives : ∃ count, Reports (t.carried.take count) (dequeuedSince first t)

/-- The interface is set up on both controllers, and nothing is under way. -/
structure BulkAtRest (path : BulkPath) (b : Board) : Prop where
  master : AwaitsCommand path.interface b.device
  ready : BulkReady path.slave b.slave.slave.hcd
  idle : EpxIdle b.slave.slave.hcd
  delivered : ∀ sender, b.undelivered sender = []

end UsbSec.System
