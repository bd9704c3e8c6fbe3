import UsbSec.Device.Irq
import UsbSec.Rp2040.Frame

/-!
# What transfers leave alone on the master

Handing messages to the drivers, starting transfers and completing them changes the progress of
the endpoints, the driver's counters and the messages for the slave. It changes neither the
response that is being collected nor the driver tables nor the queue of messages received.
-/

namespace UsbSec.Device

open Library Usb Rp2040

/-- The call hands a message to a driver, or continues a transfer. -/
inductive Call.IsTransfer : Call → Prop where
  | mscSpi (edpt : UInt8) : IsTransfer (.mscSpi edpt)
  | hidSpi (edpt : UInt8) : IsTransfer (.hidSpi edpt)
  | xferContinue (num : Nat) (dirIn : Bool) : IsTransfer (.xferContinue num dirIn)

/-- What a transfer may do to the state. -/
structure OnlyTransfers (s t : Master) : Prop where
  events : t.events = s.events
  aggregator : t.aggregator = s.aggregator
  rx : t.rx = s.rx
  itfCopy : t.drivers.itfCopy = s.drivers.itfCopy
  edptDriver : t.drivers.edptDriver = s.drivers.edptDriver
  shapes : SameShapes s.dcd t.dcd
  outbox : s.outbox <+: t.outbox
  calls : ∃ more, t.calls = s.calls ++ more ∧ ∀ call ∈ more, call.IsTransfer

instance : IsPreorder Master OnlyTransfers where
  refl s := ⟨rfl, rfl, rfl, rfl, rfl, refl_of SameShapes s.dcd, List.prefix_rfl, [], by simp⟩
  trans s t u h k := by
    obtain ⟨first, hfirst, hquiet⟩ := h.calls
    obtain ⟨second, hsecond, hquiet'⟩ := k.calls
    refine ⟨k.events.trans h.events, k.aggregator.trans h.aggregator, k.rx.trans h.rx,
      k.itfCopy.trans h.itfCopy, k.edptDriver.trans h.edptDriver,
      trans_of SameShapes h.shapes k.shapes, h.outbox.trans k.outbox, first ++ second, ?_, ?_⟩
    · rw [hsecond, hfirst, List.append_assoc]
    · intro call hcall
      rcases List.mem_append.mp hcall with hin | hin
      · exact hquiet call hin
      · exact hquiet' call hin

theorem onDcd_only_transfers {α : Type} {program : DcdM α}
    (h : Program.Moves OnlyProgress program) : Program.Moves OnlyTransfers (onDcd program) :=
  Program.Moves.onPart_of h fun _ _ hprogress =>
    ⟨rfl, rfl, rfl, rfl, rfl, hprogress.sameShapes, List.prefix_rfl, [], by simp⟩

theorem record_only_transfers {call : Call} (h : call.IsTransfer) :
    Program.Moves OnlyTransfers (record call) :=
  Program.Moves.update fun _ =>
    ⟨rfl, rfl, rfl, rfl, rfl, fun _ _ => rfl, List.prefix_rfl, [call], rfl, by simpa using h⟩

theorem enqueueSpiMessage_only_transfers (message : SpiMessage) :
    Program.Moves OnlyTransfers (enqueueSpiMessage message) :=
  Program.Moves.update fun s =>
    ⟨rfl, rfl, rfl, rfl, rfl, fun _ _ => rfl, List.prefix_append s.outbox [message], [], by simp⟩

/-- An update of the driver's own counters and buffers. -/
theorem update_only_transfers {change : Master → Master}
    (hdrivers : ∀ s, (change s).drivers.itfCopy = s.drivers.itfCopy ∧
      (change s).drivers.edptDriver = s.drivers.edptDriver)
    (hdcd : ∀ s, (change s).dcd.hwEndpoints = s.dcd.hwEndpoints)
    (hrest : ∀ s, { change s with drivers := s.drivers, dcd := s.dcd } = s) :
    Program.Moves OnlyTransfers (Program.update change : MasterM Unit) := by
  refine Program.Moves.update fun s => ?_
  have hfield {β : Type} (field : Master → β) :
      field { change s with drivers := s.drivers, dcd := s.dcd } = field s :=
    congrArg field (hrest s)
  have hshapes : SameShapes s.dcd (change s).dcd := fun num dirIn => by rw [hdcd s]
  have houtbox : (change s).outbox = s.outbox := hfield Master.outbox
  have hcalls : (change s).calls = s.calls := hfield Master.calls
  refine ⟨hfield Master.events, hfield Master.aggregator, hfield Master.rx, (hdrivers s).1,
    (hdrivers s).2, hshapes, ⟨[], ?_⟩, [], ?_, by simp⟩
  · rw [houtbox, List.append_nil]
  · rw [hcalls, List.append_nil]

theorem dcdEdptXferNew_only_transfers (epAddr : UInt8) (buffer : UserBuf) (totalBytes : UInt16) :
    Program.Moves OnlyTransfers (onDcd (dcdEdptXferNew epAddr buffer totalBytes)) :=
  onDcd_only_transfers (dcdEdptXferNew_only_progress _ _ _)

/-! ## The drivers -/

/-- The state after a call is recorded and transfers follow. -/
def AfterCall (call : Call) (s t : Master) : Prop :=
  OnlyTransfers { s with calls := s.calls ++ [call] } t

theorem AfterCall.only_transfers {call : Call} {s t : Master} (h : AfterCall call s t)
    (hcall : call.IsTransfer) : OnlyTransfers s t :=
  trans_of OnlyTransfers (record_only_transfers hcall s) h

/-- A recorded call stays in the log. -/
theorem AfterCall.calls_extended {call : Call} {s t : Master} (h : AfterCall call s t) :
    s.calls ++ [call] <+: t.calls := by
  obtain ⟨more, hmore, -⟩ := OnlyTransfers.calls h
  rw [hmore]
  exact List.prefix_append _ more

theorem record_bind_after_call {call : Call} {rest : Unit → MasterM Unit}
    (h : ∀ value, Program.Moves OnlyTransfers (rest value)) :
    Program.Moves (AfterCall call) (record call >>= rest) :=
  fun s => h () { s with calls := s.calls ++ [call] }

theorem mscSpi_after_call (message : SlavePacket) (edpt : UInt8) :
    Program.Moves (AfterCall (.mscSpi edpt)) (mscSpi message edpt) := by
  refine record_bind_after_call fun _ => .ite (.bind .read fun s => ?_) (.bind ?_ fun _ => ?_)
  · exact .bind (enqueueSpiMessage_only_transfers _) fun _ => dcdEdptXferNew_only_transfers _ _ _
  · exact update_only_transfers (fun _ => ⟨rfl, rfl⟩) (fun _ => rfl) fun _ => rfl
  · exact onDcd_only_transfers (dcdEdptXferPartial_only_progress _ _ _)

theorem mscSpi_only_transfers (message : SlavePacket) (edpt : UInt8) :
    Program.Moves OnlyTransfers (mscSpi message edpt) :=
  fun s => (mscSpi_after_call message edpt s).only_transfers (.mscSpi edpt)

theorem mscXferOut_only_transfers (edpt : UInt8) (xferredBytes : UInt16) :
    Program.Moves OnlyTransfers (mscXferOut edpt xferredBytes) := by
  refine .bind (update_only_transfers (fun _ => ⟨rfl, rfl⟩) (fun _ => rfl) fun _ => rfl)
    fun _ => ?_
  refine .bind (.require _ _) fun _ => ?_
  refine .bind (update_only_transfers (fun _ => ⟨rfl, rfl⟩) (fun _ => rfl) fun _ => rfl)
    fun _ => ?_
  exact .bind .read fun _ => enqueueSpiMessage_only_transfers _

theorem mscXfer_only_transfers (edpt : UInt8) (xferredBytes : UInt16) :
    Program.Moves OnlyTransfers (mscXfer edpt xferredBytes) :=
  .bind .read fun _ =>
    .ite (mscXferOut_only_transfers _ _) (.when (enqueueSpiMessage_only_transfers _))

theorem hidSpi_after_call (message : SlavePacket) (edpt : UInt8) :
    Program.Moves (AfterCall (.hidSpi edpt)) (hidSpi message edpt) :=
  record_bind_after_call fun _ => dcdEdptXferNew_only_transfers _ _ _

theorem hidSpi_only_transfers (message : SlavePacket) (edpt : UInt8) :
    Program.Moves OnlyTransfers (hidSpi message edpt) :=
  fun s => (hidSpi_after_call message edpt s).only_transfers (.hidSpi edpt)

theorem hidXfer_only_transfers (edpt : UInt8) : Program.Moves OnlyTransfers (hidXfer edpt) :=
  .bind .read fun _ => enqueueSpiMessage_only_transfers _

theorem handleSpiSlaveEventWithDriver_only_transfers (message : SlavePacket) (edpt : UInt8) :
    Program.Moves OnlyTransfers (handleSpiSlaveEventWithDriver message edpt) := by
  refine .bind .read fun s => .bind (.require _ _) fun _ => ?_
  refine .bind (.when (.stop _)) fun _ => ?_
  cases s.drivers.edptDriver (idx edpt).toNat with
  | illegal => exact .stop _
  | massStorage => exact mscSpi_only_transfers message edpt
  | hid => exact hidSpi_only_transfers message edpt

theorem handleDeviceXferCompleteWithDriver_only_transfers (edpt : UInt8)
    (xferredBytes : UInt16) :
    Program.Moves OnlyTransfers (handleDeviceXferCompleteWithDriver edpt xferredBytes) := by
  refine .bind .read fun s => .bind (.require _ _) fun _ => ?_
  cases s.drivers.edptDriver (idx edpt).toNat with
  | illegal => exact .stop _
  | massStorage => exact mscXfer_only_transfers edpt xferredBytes
  | hid => exact hidXfer_only_transfers edpt

theorem handleHidReport_only_transfers (setup : ControlRequest) :
    Program.Moves OnlyTransfers (handleHidReport setup) :=
  .when (.bind .read fun _ => enqueueSpiMessage_only_transfers _)

/-! ## Completed buffers -/

section Buffers

variable {R : Master → Master → Prop} [IsPreorder Master R]
variable (hbit : ∀ i, Program.Moves R (hwHandleBuffStatusBit i))
include hbit

theorem handleOutEndpoints_moves (bits : List Nat) (remaining : BitVec 32) :
    Program.Moves R (handleOutEndpoints bits remaining) := by
  induction bits generalizing remaining with
  | nil => exact .pure _
  | cons i rest ih => exact .ite (.pure _) (.ite (.bind (hbit i) fun _ => ih _) (ih _))

theorem handleInEndpoints_moves (bits : List Nat) (remaining : BitVec 32) :
    Program.Moves R (handleInEndpoints bits remaining) := by
  induction bits with
  | nil => exact .pure _
  | cons i rest ih => exact .ite (.pure _) (.bind (.when (hbit i)) fun _ => ih)

/-- What handling each buffer does, handling all of them does. -/
theorem hwHandleBuffStatus_moves : Program.Moves R hwHandleBuffStatus := by
  refine .bind .read fun s => .bind (.when (hbit 1)) fun _ => .bind (.when (hbit 0)) fun _ => ?_
  exact .bind (handleOutEndpoints_moves hbit _ _) fun _ => handleInEndpoints_moves hbit _ _

end Buffers

theorem dcdEventXferCompleteNew_only_transfers (epAddr : UInt8) (xferredBytes : UInt16) :
    Program.Moves OnlyTransfers (dcdEventXferCompleteNew epAddr xferredBytes) := by
  refine .bind .read fun s => .ite ?_ (.ite (.pure _) ?_)
  · exact onDcd_only_transfers (dcdEdpt0StatusComplete_only_progress _)
  · exact handleDeviceXferCompleteWithDriver_only_transfers _ _

theorem xferContinue_only_transfers (num : Nat) (dirIn : Bool) :
    Program.Moves OnlyTransfers (xferContinue num dirIn) :=
  .bind (record_only_transfers (.xferContinue num dirIn)) fun _ =>
    onDcd_only_transfers (withEndpoint_only_progress _ _ (hwEndpointXferContinue_same_fixed _))

theorem hwHandleBuffStatusBit_only_transfers (i : Nat) :
    Program.Moves OnlyTransfers (hwHandleBuffStatusBit i) := by
  refine .bind (update_only_transfers (fun _ => ⟨rfl, rfl⟩) (fun _ => rfl) fun _ => rfl)
    fun _ => ?_
  refine .bind (xferContinue_only_transfers _ _) fun done => .when (.bind .read fun s => ?_)
  refine .bind (dcdEventXferCompleteNew_only_transfers _ _) fun _ => ?_
  exact onDcd_only_transfers (withEndpoint_only_progress _ _
    (hwEndpointResetTransferNew_moves sameFixed_rule))

theorem hwHandleBuffStatus_only_transfers :
    Program.Moves OnlyTransfers hwHandleBuffStatus :=
  hwHandleBuffStatus_moves hwHandleBuffStatusBit_only_transfers

end UsbSec.Device
