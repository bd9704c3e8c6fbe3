import UsbSec.Device.Frame
import UsbSec.Host.Events
import UsbSec.Library.Log

/-!
# What the handlers of the master log

Properties of whole runs compare what the handlers have handed over with the calls they have made.
The walk through the handlers is made once here, for every relation that allows any other change of
the state. The messages and the calls that a handler adds are up to the relation.
-/

namespace UsbSec.Device

open Library Usb Rp2040

/-- A relation that allows every change of the state but to its logs and `rx`, calls of some kinds
and messages of some kinds. -/
structure LogRule (R : Master → Master → Prop) (call : Call → Prop) (kind : UInt16 → Prop) :
    Prop where
  quiet : ∀ s t, t.rx = s.rx → t.outbox = s.outbox → t.calls = s.calls → R s t
  record : ∀ s made, call made → R s { s with calls := s.calls ++ [made] }
  enqueue : ∀ s message, kind (Host.messageKind message) →
    R s { s with outbox := s.outbox ++ [message] }

/-- The call opens an endpoint or registers its driver. -/
inductive Call.IsPolicy : Call → Prop where
  | edptOpen (epAddr : UInt8) (maxPacketSize : UInt16) (xfer : UInt8) :
      IsPolicy (.edptOpen epAddr maxPacketSize xfer)
  | registerDriver (epAddr : UInt8) (maxPacketSize : UInt16) (itf : InterfaceDescriptor) :
      IsPolicy (.registerDriver epAddr maxPacketSize itf)

/-- What is of interest in the two logs. -/
def logged {β γ : Type} (ofMessage : SpiMessage → Option β) (ofCall : Call → Option γ)
    (s : Master) : List β × List γ :=
  (picked Master.outbox ofMessage s, picked Master.calls ofCall s)

/-- Calls and messages that are of no interest may be added. -/
theorem logRule_same {β γ : Type} (ofMessage : SpiMessage → Option β) (ofCall : Call → Option γ) :
    LogRule (Program.Same (logged ofMessage ofCall)) (fun made => ofCall made = none)
      (fun kind => ∀ message, Host.messageKind message = kind → ofMessage message = none) where
  quiet _ _ _ houtbox hcalls := congrArg₂ Prod.mk (picked_congr houtbox) (picked_congr hcalls)
  record _ _ h := congrArg₂ Prod.mk (picked_congr rfl) (picked_skip rfl h)
  enqueue _ message h := congrArg₂ Prod.mk (picked_skip rfl (h message rfl)) (picked_congr rfl)

section LogRule

variable {R : Master → Master → Prop} {call : Call → Prop} {kind : UInt16 → Prop}

theorem LogRule.update (hR : LogRule R call kind) {change : Master → Master}
    (hrx : ∀ s, (change s).rx = s.rx) (houtbox : ∀ s, (change s).outbox = s.outbox)
    (hcalls : ∀ s, (change s).calls = s.calls) :
    Program.Moves R (Program.update change : MasterM Unit) :=
  fun s => hR.quiet s _ (hrx s) (houtbox s) (hcalls s)

theorem LogRule.onDcd (hR : LogRule R call kind) {α : Type} (program : DcdM α) :
    Program.Moves R (onDcd program) :=
  Program.Moves.onPart fun _ _ => hR.quiet _ _ rfl rfl rfl

theorem LogRule.recordCall (hR : LogRule R call kind) {made : Call} (h : call made) :
    Program.Moves R (Device.record made) := fun s => hR.record s made h

theorem LogRule.enqueueMessage (hR : LogRule R call kind) {message : SpiMessage}
    {sent : UInt16} (h : kind sent) (flag : UInt16) (hflag : message.eFlag = flag)
    (hsent : flag &&& ~~~MsgType.debugPrintAsHex = sent) :
    Program.Moves R (enqueueSpiMessage message) := by
  refine fun s => hR.enqueue s message ?_
  rw [Host.messageKind, hflag, hsent]
  exact h

theorem knockOnSlaveEdpt_logs (hR : LogRule R call kind) (huse : kind MsgType.usbData)
    (edpt len : UInt8) : Program.Moves R (knockOnSlaveEdpt edpt len) :=
  hR.enqueueMessage huse (MsgType.usbData ||| MsgType.debugPrintAsHex) rfl (by decide)

variable [IsPreorder Master R] (hR : LogRule R call kind)
include hR

theorem registerResponse_logs (message : SlavePacket) :
    Program.Moves R (registerResponse message) := by
  refine .bind .read fun s => .bind (.require _ _) fun _ => ?_
  refine .bind (hR.update (fun _ => rfl) (fun _ => rfl) fun _ => rfl) fun _ => ?_
  exact .bind (hR.onDcd _) fun _ => hR.update (fun _ => rfl) (fun _ => rfl) fun _ => rfl

/-! ## Requests for transfers -/

section Uses

variable (huse : kind MsgType.usbData)
include huse

theorem mscXferOut_logs (edpt : UInt8) (xferredBytes : UInt16) :
    Program.Moves R (mscXferOut edpt xferredBytes) := by
  refine .bind (hR.update (fun _ => rfl) (fun _ => rfl) fun _ => rfl) fun _ => ?_
  refine .bind (.require _ _) fun _ => ?_
  refine .bind (hR.update (fun _ => rfl) (fun _ => rfl) fun _ => rfl) fun _ => .bind .read fun _ => ?_
  exact hR.enqueueMessage huse (MsgType.usbData ||| MsgType.debugPrintAsHex) rfl (by decide)

theorem handleDeviceXferCompleteWithDriver_logs (edpt : UInt8) (xferredBytes : UInt16) :
    Program.Moves R (handleDeviceXferCompleteWithDriver edpt xferredBytes) := by
  refine .bind .read fun s => .bind (.require _ _) fun _ => ?_
  cases s.drivers.edptDriver (idx edpt).toNat with
  | illegal => exact .stop _
  | hid => exact .bind .read fun _ => knockOnSlaveEdpt_logs hR huse _ _
  | massStorage =>
      refine .bind .read fun _ => .ite (mscXferOut_logs hR huse _ _) (.when ?_)
      exact hR.enqueueMessage huse MsgType.usbData rfl (by decide)

theorem hwHandleBuffStatusBit_logs (hcontinue : ∀ num dirIn, call (.xferContinue num dirIn))
    (i : Nat) : Program.Moves R (hwHandleBuffStatusBit i) := by
  refine .bind (hR.update (fun _ => rfl) (fun _ => rfl) fun _ => rfl) fun _ => ?_
  refine .bind (.bind (hR.recordCall (hcontinue _ _)) fun _ => hR.onDcd _) fun done => ?_
  refine .when (.bind .read fun s => .bind (.bind .read fun t => ?_) fun _ => hR.onDcd _)
  refine .ite (hR.onDcd _) (.ite (.pure _) ?_)
  exact handleDeviceXferCompleteWithDriver_logs hR huse _ _

/-- Completed buffers call for nothing but further transfers. -/
theorem hwHandleBuffStatus_logs (hcontinue : ∀ num dirIn, call (.xferContinue num dirIn)) :
    Program.Moves R hwHandleBuffStatus :=
  hwHandleBuffStatus_moves (hwHandleBuffStatusBit_logs hR huse hcontinue)

theorem handleSpiSlaveEventWithDriver_logs (htransfer : ∀ made : Call, made.IsTransfer → call made)
    (message : SlavePacket) (edpt : UInt8) :
    Program.Moves R (handleSpiSlaveEventWithDriver message edpt) := by
  refine .bind .read fun s => .bind (.require _ _) fun _ => .bind (.when (.stop _)) fun _ => ?_
  cases s.drivers.edptDriver (idx edpt).toNat with
  | illegal => exact .stop _
  | hid => exact .bind (hR.recordCall (htransfer _ (.hidSpi edpt))) fun _ => hR.onDcd _
  | massStorage =>
      refine .bind (hR.recordCall (htransfer _ (.mscSpi edpt))) fun _ => .ite ?_ ?_
      · refine .bind .read fun t => .bind (knockOnSlaveEdpt_logs hR huse _ _) fun _ => ?_
        exact hR.onDcd _
      · exact .bind (hR.update (fun _ => rfl) (fun _ => rfl) fun _ => rfl) fun _ => hR.onDcd _

end Uses

/-! ## Responses to setup packets -/

theorem registerDriverForEdpt_logs (hpolicy : ∀ made : Call, made.IsPolicy → call made)
    (edpt : EndpointPointer) (itf : Option InterfaceDescriptor) (newMps : UInt8) :
    Program.Moves R (registerDriverForEdpt edpt itf newMps) := by
  refine .bind (hR.update (fun _ => rfl) (fun _ => rfl) fun _ => rfl) fun _ => ?_
  cases itf with
  | none => exact .stop _
  | some descriptor =>
      refine .bind (hR.recordCall (hpolicy _ (.registerDriver _ _ _))) fun _ => ?_
      refine .bind (.require _ _) fun _ => ?_
      refine .bind (hR.update (fun _ => rfl) (fun _ => rfl) fun _ => rfl) fun _ => ?_
      refine .ite (hR.update (fun _ => rfl) (fun _ => rfl) fun _ => rfl) (.ite ?_ (.stop _))
      refine .bind (hR.update (fun _ => rfl) (fun _ => rfl) fun _ => rfl) fun _ => ?_
      exact .ite (hR.onDcd _) (hR.update (fun _ => rfl) (fun _ => rfl) fun _ => rfl)

omit hR in
/-- What opening each endpoint does to the logs, the walk does. -/
theorem walk_logs (arr : Buffer) (hopen : ∀ pos itf, Program.Moves R (openEndpoint arr pos itf))
    (len fuel pos : Nat) (itf : Option Nat) : Program.Moves R (walk arr len fuel pos itf) := by
  induction fuel generalizing pos itf with
  | zero => exact .ite (.stop _) (.pure _)
  | succ fuel ih => exact .ite (.bind (.when (hopen _ _)) fun _ => ih _ _) (.pure _)

theorem openEndpoint_logs (hpolicy : ∀ made : Call, made.IsPolicy → call made)
    (hkind : kind MsgType.edptOpen) (arr : Buffer) (pos : Nat) (itf : Option Nat) :
    Program.Moves R (openEndpoint arr pos itf) := by
  refine .bind (hR.recordCall (hpolicy _ (.edptOpen _ _ _))) fun _ => ?_
  refine .bind (hR.onDcd _) fun _ => .bind .read fun s => ?_
  exact .bind (registerDriverForEdpt_logs hR hpolicy _ _ _) fun _ =>
    hR.enqueueMessage hkind (MsgType.edptOpen ||| MsgType.debugPrintAsHex) rfl (by decide)

/-- What follows in `handle_setup_response` once the call is recorded. -/
theorem handleSetupResponse_logs (huse : kind MsgType.usbData)
    (hsize : kind MsgType.chgEpxPacketsize)
    (hopen : ∀ arr pos itf, Program.Moves R (openEndpoint arr pos itf))
    (hrespond : ∀ setup response, Program.Moves R (record (.handleSetupResponse setup response))) :
    Program.Moves R handleSetupResponse := by
  refine .bind .read fun s => .bind (hrespond _ _) fun _ => .bind (.when ?_) fun _ => ?_
  · refine .bind ?_ fun _ =>
      .bind (hR.update (fun _ => rfl) (fun _ => rfl) fun _ => rfl) fun _ =>
        hR.update (fun _ => rfl) (fun _ => rfl) fun _ => rfl
    exact hR.enqueueMessage hsize (MsgType.chgEpxPacketsize ||| MsgType.debugPrintAsHex) rfl
      (by decide)
  · refine .ite (.pure _) (.bind (.when (walk_logs _ (hopen _) _ _ _ _)) fun _ => .when ?_)
    exact .bind .read fun _ => knockOnSlaveEdpt_logs hR huse _ _

/-- The reply to a setup packet adds nothing unless it is the last one. -/
theorem handleSetupData_logs (hresponse : Program.Moves R handleSetupResponse)
    (message : SlavePacket) : Program.Moves R (handleSetupData message) := by
  refine .bind (registerResponse_logs hR _) fun _ => .when (.bind hresponse fun _ => ?_)
  refine .bind (hR.update (fun _ => rfl) (fun _ => rfl) fun _ => rfl) fun _ => ?_
  exact .bind .read fun _ => .when (hR.onDcd _)

/-- What responses and the drivers do to the logs, the handler of a message does. -/
theorem handleMessage_logs (hresponse : Program.Moves R handleSetupResponse)
    (hdriver : ∀ message edpt, Program.Moves R (handleSpiSlaveEventWithDriver message edpt))
    (message : SpiMessage) : Program.Moves R (handleMessage message) := by
  unfold handleMessage
  cases message.payload.getLast? with
  | none => exact .stop _
  | some epAddr =>
      refine .bind (.require _ _) fun _ => .ite ?_ (hdriver _ _)
      exact handleSetupData_logs hR hresponse _

/-- What the handler of a message does to the logs, `handle_spi_slave_event` does. -/
theorem handleSpiSlaveEvent_logs (htake : ∀ s rx, R s { s with rx := rx })
    (hmessage : ∀ message, Program.Moves R (handleMessage message)) :
    Program.Moves R handleSpiSlaveEvent := by
  refine .bind .read fun s => .ite (.bind ?_ fun _ => .when ?_) ?_
  · exact .bind (hR.update (fun _ => rfl) (fun _ => rfl) fun _ => rfl) fun _ => .pure _
  · exact hR.update (fun _ => rfl) (fun _ => rfl) fun _ => rfl
  · dsimp only
    cases (s.rx.dropWhile isString).remove with
    | none => exact fun t => htake t _
    | some taken => exact .bind (fun t => htake t _) fun _ => hmessage _

/-- The request to reset the device follows the call. -/
theorem handleBusReset_logs (hcall : call .busReset) (hkind : kind MsgType.resetUsb) :
    Program.Moves R handleBusReset := by
  refine .bind (hR.update (fun _ => rfl) (fun _ => rfl) fun _ => rfl) fun _ => ?_
  refine .bind (hR.onDcd _) fun _ => .bind (hR.recordCall hcall) fun _ => ?_
  exact hR.enqueueMessage hkind MsgType.resetUsb rfl (by decide)

/-- A setup packet of the host is recorded, and forwarded or answered. -/
theorem handleSetupReq_logs (hcall : ∀ setup, call (.setupReceived setup))
    (hsetup : kind MsgType.setupData) (haddress : kind MsgType.chgAddr) :
    Program.Moves R handleSetupReq := by
  refine .bind (hR.onDcd _) fun _ => .bind .read fun s => .bind (hR.recordCall (hcall _)) fun _ => ?_
  refine .bind (hR.update (fun _ => rfl) (fun _ => rfl) fun _ => rfl) fun _ => .ite ?_
    (.ite (hR.onDcd _) (.ite (hR.onDcd _) ?_))
  · exact hR.enqueueMessage haddress MsgType.chgAddr rfl (by decide)
  · exact hR.enqueueMessage hsetup (MsgType.setupData ||| MsgType.debugPrintAsHex) rfl (by decide)

theorem dcdRp2040Irq_logs (hcalls : ∀ setup, call (.setupReceived setup)) (hbus : call .busReset)
    (hcontinue : ∀ num dirIn, call (.xferContinue num dirIn))
    (hkinds : ∀ sent ∈ [MsgType.resetUsb, MsgType.setupData, MsgType.chgAddr, MsgType.usbData],
      kind sent) (ints : DcdInts) : Program.Moves R (dcdRp2040Irq ints) := by
  refine .bind (.when ?_) fun _ => .bind (.when ?_) fun _ => .when ?_
  · exact handleBusReset_logs hR hbus (hkinds _ (by simp))
  · exact handleSetupReq_logs hR hcalls (hkinds _ (by simp)) (hkinds _ (by simp))
  · exact hwHandleBuffStatus_logs hR (hkinds _ (by simp)) hcontinue

end LogRule

end UsbSec.Device
