import UsbSec.Host.Frame
import UsbSec.Library.Log

/-!
# What the handlers of the slave log

As on the master, the walk through the handlers is made once, for every relation that allows any
other change of the state. What is logged when a message is handled, and when a transfer is
complete, is up to the relation.
-/

namespace UsbSec.Host

open Library Usb Rp2040

/-- A relation that allows every change of the state but to its logs, and calls of some kinds. -/
structure LogRule (R : Slave → Slave → Prop) (call : Call → Prop) : Prop where
  quiet : ∀ s t, t.outbox = s.outbox → t.calls = s.calls → R s t
  record : ∀ s made, call made → R s { s with calls := s.calls ++ [made] }

/-- What is of interest in the two logs. -/
def logged {β γ : Type} (ofMessage : SpiMessage → Option β) (ofCall : Call → Option γ)
    (s : Slave) : List β × List γ :=
  (picked Slave.outbox ofMessage s, picked Slave.calls ofCall s)

/-- Calls that are of no interest may be made. -/
theorem logRule_same {β γ : Type} (ofMessage : SpiMessage → Option β) (ofCall : Call → Option γ) :
    LogRule (Program.Same (logged ofMessage ofCall)) (fun made => ofCall made = none) where
  quiet _ _ houtbox hcalls := congrArg₂ Prod.mk (picked_congr houtbox) (picked_congr hcalls)
  record _ _ h := congrArg₂ Prod.mk (picked_congr rfl) (picked_skip rfl h)

section LogRule

variable {R : Slave → Slave → Prop} {call : Call → Prop}

theorem LogRule.update (hR : LogRule R call) {change : Slave → Slave}
    (houtbox : ∀ s, (change s).outbox = s.outbox) (hcalls : ∀ s, (change s).calls = s.calls) :
    Program.Moves R (Program.update change : SlaveM Unit) :=
  fun s => hR.quiet s _ (houtbox s) (hcalls s)

theorem LogRule.onHcd (hR : LogRule R call) {α : Type} (program : HcdM α) :
    Program.Moves R (onHcd program) :=
  Program.Moves.onPart fun _ _ => hR.quiet _ _ rfl rfl

theorem LogRule.recordCall (hR : LogRule R call) {made : Call} (h : call made) :
    Program.Moves R (Host.record made) := fun s => hR.record s made h

theorem LogRule.setLevel (hR : LogRule R call) (level : UInt8) :
    Program.Moves R (setLevel level) := hR.update (fun _ => rfl) fun _ => rfl

theorem LogRule.setDebugLock (hR : LogRule R call) (value : Bool) :
    Program.Moves R (setDebugLock value) := hR.update (fun _ => rfl) fun _ => rfl

variable [IsPreorder Slave R] (hR : LogRule R call)
include hR

theorem LogRule.fillBugger (start : Nat) (bytes : List UInt8) :
    Program.Moves R (fillBugger start bytes) :=
  .bind (.require _ _) fun _ => hR.update (fun _ => rfl) fun _ => rfl

theorem LogRule.startXfer {epAddr : UInt8} (hstart : call (.edptXfer epAddr)) (devAddr : UInt8)
    (buffer : UserBuf) (buflen : UInt16) :
    Program.Moves R (startXfer devAddr epAddr buffer buflen) :=
  .bind (hR.recordCall hstart) fun _ => hR.onHcd _

/-! ## Messages -/

theorem LogRule.sendSetup {setup : ControlRequest} (hsetup : call (.setupSend setup)) :
    Program.Moves R (sendSetup setup) := by
  refine .bind (hR.setDebugLock _) fun _ => .bind (hR.update (fun _ => rfl) fun _ => rfl) fun _ => ?_
  refine .bind (hR.setLevel _) fun _ => .bind (hR.recordCall hsetup) fun _ => ?_
  exact .bind .read fun _ => hR.onHcd _

/-- A message other than the three that start a transfer logs nothing. -/
theorem handleMessage_logs {message : SpiMessage}
    (hsetup : messageKind message = MsgType.setupData →
      Program.Moves R (handleSetupData message.payload))
    (huse : messageKind message = MsgType.usbData →
      Program.Moves R (handleUsbData message.payload))
    (haddress : messageKind message = MsgType.chgAddr → Program.Moves R handleChgAddr) :
    Program.Moves R (handleMessage message) := by
  unfold handleMessage
  dsimp only
  split
  · exact hR.update (fun _ => rfl) fun _ => rfl
  split
  · exact .bind (.require _ _) fun _ => .bind .read fun _ => hR.onHcd _
  split
  · rename_i hkind
    exact hsetup hkind
  split
  · rename_i hkind
    exact huse hkind
  split
  · rename_i hkind
    exact haddress hkind
  split
  · unfold handleChgEpxPacketsize
    split
    · exact hR.onHcd _
    · exact .stop _
  · exact .ite (.pure _) (.stop _)

end LogRule

/-! ## Completed transfers -/

section Completions

variable {C : ∀ {α : Type}, SlaveM α → Prop} (hC : Program.Closed C)
  (hHcd : ∀ {α : Type} (program : HcdM α), C (onHcd program))
  (hstatus : ∀ change : Hcd → Hcd, C (Program.update fun s : Slave => { s with hcd := change s.hcd }))
  (hcomplete : ∀ devAddr epAddr xferredBytes result,
    C (hcdEventXferComplete devAddr epAddr xferredBytes result))
include hC hHcd hcomplete

theorem hwXferComplete_closed (slot : Nat) (result : XferResult) : C (hwXferComplete slot result) :=
  hC.bind hC.read fun _ => hC.bind (hC.when (hHcd _)) fun _ => hcomplete _ _ _ _

include hstatus

theorem handleBuffStatusBit_closed (bit : BitVec 32) (slot : Nat) :
    C (handleBuffStatusBit bit slot) := by
  refine hC.bind (hstatus fun hcd => { hcd with bufStatus := hcd.bufStatus &&& ~~~bit }) fun _ => ?_
  exact hC.bind (hHcd _) fun _ => hwXferComplete_closed hC hHcd hcomplete _ _

theorem handleInterruptBuffers_closed (slots : List Nat) (remaining : BitVec 32) :
    C (handleInterruptBuffers slots remaining) := by
  induction slots generalizing remaining with
  | nil => exact hC.pure _
  | cons slot rest ih =>
      unfold handleInterruptBuffers
      split
      · exact hC.pure _
      split
      · exact hC.bind (handleBuffStatusBit_closed hC hHcd hstatus hcomplete _ _) fun _ => ih _
      · exact ih _

theorem hwHandleBuffStatus_closed : C hwHandleBuffStatus := by
  refine hC.bind hC.read fun s => hC.bind (hC.when (hC.bind hC.read fun t => ?_)) fun _ => ?_
  · cases t.hcd.activeEp with
    | none => exact hC.stop _
    | some slot => exact handleBuffStatusBit_closed hC hHcd hstatus hcomplete _ _
  · refine hC.bind (handleInterruptBuffers_closed hC hHcd hstatus hcomplete _ _) fun _ => ?_
    exact hC.when (hC.stop _)

/-- What the completion of each transfer is, the interrupt handler is. -/
theorem hcdRp2040Irq_closed (causes : List Cause) (buffStatus transComplete : Bool) :
    C (hcdRp2040Irq causes buffStatus transComplete) := by
  refine hC.bind (hC.when (hwHandleBuffStatus_closed hC hHcd hstatus hcomplete)) fun _ => ?_
  refine hC.bind (hC.when (hC.bind ?_ fun _ => hC.bind hC.read fun s => hC.when ?_)) fun _ => ?_
  · exact hstatus fun hcd => { hcd with transComplete := false }
  · exact hwXferComplete_closed hC hHcd hcomplete _ _
  · refine hC.bind (hC.when (hC.stop _)) fun _ => hC.bind (hC.when (hC.stop _)) fun _ => ?_
    exact hC.bind (hC.when (hC.stop _)) fun _ => hC.when (hC.stop _)

end Completions

/-- What the completion of each transfer does, the interrupt handler does. -/
theorem hcdRp2040Irq_logs {R : Slave → Slave → Prop} {call : Call → Prop} [IsPreorder Slave R]
    (hR : LogRule R call)
    (hcomplete : ∀ devAddr epAddr xferredBytes result,
      Program.Moves R (hcdEventXferComplete devAddr epAddr xferredBytes result))
    (causes : List Cause) (buffStatus transComplete : Bool) :
    Program.Moves R (hcdRp2040Irq causes buffStatus transComplete) :=
  hcdRp2040Irq_closed (Program.closed_moves R) hR.onHcd
    (fun _ => hR.update (fun _ => rfl) fun _ => rfl) hcomplete causes buffStatus transComplete

end UsbSec.Host
