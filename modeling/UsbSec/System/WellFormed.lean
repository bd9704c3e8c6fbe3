import UsbSec.Host.Messages
import UsbSec.System.QueueWait

/-!
# What the messages are like when they arrive

The producers of messages put together what the other side's handlers read: the master messages
of the six kinds that `slavework` knows, the slave packets with the endpoint address behind their
data. One message repeats bytes of the device: the request to open an endpoint is as long as the
endpoint descriptor says it is. In every run in which the descriptors that the walk reaches give
their length as at least seven, every message that a core 0 dequeues is well formed.
-/

namespace UsbSec.System

open Library Link

/-- What a message of the given sender has to be like. -/
def WellFormed : SpiRole → SpiMessage → Prop
  | .master => Host.ForSlavework
  | .slave => Host.IsReply

/-- The handler of the master that is about to run walks only over endpoint descriptors that
give their length as at least seven. -/
def OpensWhole (b : Board) : Action → Prop
  | .device .handleSpiSlaveEvent =>
      Device.NextOpensOnly (fun message => 7 ≤ message.payload.length)
        { b.master.master with rx := b.chips.master.rx }
  | _ => True

instance (b : Board) : ∀ action, Decidable (OpensWhole b action)
  | .device .handleSpiSlaveEvent => inferInstanceAs (Decidable (Device.NextOpensOnly _ _))
  | .device (.hostSetup _) | .device .hostReset | .device (.hostIn _) | .device (.hostOut _ _)
  | .device (.receive _) | .device .dcdIrq | .host _ | .enqueue _ | .core1 _ | .attach _ =>
      isTrue trivial

/-- Every message that a core 0 has dequeued is well formed, and the slave has not stopped over a
message of an unknown kind. -/
structure MessagesGood (b : Board) : Prop where
  slave : ∀ message ∈ b.chips.slave.dequeued, Host.ForSlavework message
  master : ∀ message ∈ b.chips.master.dequeued, Host.IsReply message
  known : b.halted .slave ≠ some Host.invalidMessage

theorem wellFormed_master : Device.MasterSends (WellFormed .master) where
  reset := .resetUsb (by decide)
  chgAddr := .chgAddr (by decide)
  setup message hflag hpayload := by
    refine .setupData ?_ hpayload
    rw [Host.messageKind, hflag]
    decide
  packetSize message hflag hpayload := by
    refine .chgEpxPacketsize ?_ hpayload
    rw [Host.messageKind, hflag]
    decide
  usbData message hflag hpayload := by
    refine .usbData ?_ (List.length_pos_of_ne_nil hpayload)
    rcases hflag with hflag | hflag
    · rw [Host.messageKind, hflag]
      decide
    · rw [Host.messageKind, hflag]
      decide

theorem wellFormed_openMessage {arr : Buffer} {pos : Nat}
    (h : 7 ≤ (Device.openMessage arr pos).payload.length) :
    WellFormed .master (Device.openMessage arr pos) := by
  refine .edptOpen ?_ h
  show (MsgType.edptOpen ||| MsgType.debugPrintAsHex) &&& ~~~MsgType.debugPrintAsHex = _
  decide

/-- A message that is in `rx` or has been dequeued was handed over by the other core 0. -/
theorem Carries.handedOver {b : Board} (h : Carries b b.chips) (sender : SpiRole)
    {message : SpiMessage}
    (hmem : message ∈ (b.chips.chip sender.other).rx.items ∨
      message ∈ (b.chips.chip sender.other).dequeued) : message ∈ b.outbox sender := by
  obtain ⟨mail, hmail⟩ := h.implements
  have hdelivered := hmail.delivered sender
  refine (h.inOrder sender).subset ?_
  rcases hmem with hrx | hdequeued
  · rw [hdelivered.complete, missing]
    simp [hrx]
  · exact hdelivered.ordered.subset hdequeued

/-- What is kept in a run in which only whole endpoint descriptors are reached. -/
structure Invariant (b : Board) : Prop where
  carries : Carries b b.chips
  wellFormed : AllHave WellFormed b
  known : b.halted .slave ≠ some Host.invalidMessage

theorem stopReason_known {handler : Host.SlaveM Unit} {s : Host.Slave}
    (h : ∀ reason last, handler s = .error reason last → Host.MessageKnown reason) :
    stopReason (handler s) ≠ some Host.invalidMessage := by
  cases hrun : handler s with
  | ok value last => exact nofun
  | error reason last =>
      intro hreason
      exact h reason last hrun (Option.some.inj hreason)

theorem hostStep_known {b n : Board} {event : Host.Event}
    (hrx : ∀ message ∈ b.chips.slave.rx.items, Host.ForSlavework message)
    (hknown : b.slave.halted ≠ some Host.invalidMessage) (hstep : hostStep b event = some n) :
    n.slave.halted ≠ some Host.invalidMessage := by
  cases event with
  | slavework =>
      obtain ⟨-, hnext⟩ := Option.ite_none_right_eq_some.mp hstep
      cases hnext
      exact stopReason_known fun reason last hrun => Host.slavework_known hrx hrun
  | hcdIrq =>
      obtain ⟨-, hnext⟩ := Option.ite_none_right_eq_some.mp hstep
      cases hnext
      exact stopReason_known fun reason last hrun => Host.hcdRp2040Irq_known _ _ _ _ _ _ hrun
  | receive message => cases hstep
  | setupSent | packetOut =>
      obtain ⟨slave, hslave, rfl⟩ := Option.map_eq_some_iff.mp hstep
      obtain ⟨hcd, -, rfl⟩ := Option.map_eq_some_iff.mp hslave
      exact hknown
  | packetIn packet =>
      obtain ⟨slave, hslave, rfl⟩ := Option.map_eq_some_iff.mp hstep
      obtain ⟨hcd, -, rfl⟩ := Option.map_eq_some_iff.mp hslave
      exact hknown
  | interruptIn slot packet =>
      obtain ⟨slave, hslave, rfl⟩ := Option.map_eq_some_iff.mp hstep
      obtain ⟨hcd, -, rfl⟩ := Option.map_eq_some_iff.mp hslave
      exact hknown
  | raise cause =>
      cases hstep
      exact hknown

theorem deviceStep_slave {b n : Board} {event : Device.Event} (hstep : deviceStep b event = some n) :
    n.slave = b.slave := by
  cases event with
  | handleSpiSlaveEvent | dcdIrq =>
      obtain ⟨-, hnext⟩ := Option.ite_none_right_eq_some.mp hstep
      cases hnext
      rfl
  | receive message => cases hstep
  | hostSetup packet | hostReset =>
      cases hstep
      rfl
  | hostIn num | hostOut num packet =>
      obtain ⟨master, -, rfl⟩ := Option.map_eq_some_iff.mp hstep
      rfl

theorem linkStep_slave {b n : Board} {action : Link.Action} (hstep : linkStep b action = some n) :
    n.slave = b.slave := by
  obtain ⟨chips, -, rfl⟩ := linkStep_eq_some hstep
  rfl

theorem step_known {b n : Board} {action : Action}
    (hrx : ∀ message ∈ b.chips.slave.rx.items, Host.ForSlavework message)
    (hknown : b.slave.halted ≠ some Host.invalidMessage) (hstep : step b action = some n) :
    n.slave.halted ≠ some Host.invalidMessage := by
  cases action with
  | host event => exact hostStep_known hrx hknown hstep
  | device event =>
      rw [deviceStep_slave hstep]
      exact hknown
  | enqueue role =>
      unfold step at hstep
      dsimp only at hstep
      split at hstep
      · cases hstep
      · rw [linkStep_slave hstep]
        exact hknown
  | core1 role | attach level =>
      rw [linkStep_slave hstep]
      exact hknown

theorem step_invariant {b n : Board} {action : Action} (hb : Invariant b)
    (hopens : OpensWhole b action) (hstep : step b action = some n) : Invariant n := by
  obtain ⟨_, last, -, -, hcarries⟩ := step_carries hb.carries hstep
  have hshares : Shares WellFormed b n := by
    refine step_shares wellFormed_master (fun _ h => h) (fun haction => ?_) hstep
    subst haction
    exact hopens.imp fun _ _ => wellFormed_openMessage
  refine ⟨hcarries.same ▸ hcarries, hshares.allHave hb.wellFormed, ?_⟩
  refine step_known (fun message hmem => ?_) hb.known hstep
  exact hb.wellFormed .master message (hb.carries.handedOver .master (.inl hmem))

theorem Invariant.messagesGood {b : Board} (h : Invariant b) : MessagesGood b where
  slave message hmem :=
    h.wellFormed .master message (h.carries.handedOver .master (.inr hmem))
  master message hmem :=
    h.wellFormed .slave message (h.carries.handedOver .slave (.inr hmem))
  known := h.known

theorem init_invariant (masterRom slaveRom : BitVec 32) : Invariant (init masterRom slaveRom) where
  carries := init_carries masterRom slaveRom
  wellFormed role message hmem := by
    have houtbox : (init masterRom slaveRom).outbox role = [] := by cases role <;> rfl
    rw [houtbox] at hmem
    cases hmem
  known := nofun

/-- In every run in which the walk reaches only whole endpoint descriptors, every message that a
core 0 dequeues is well formed. -/
theorem messagesGood_of_opensWhole {masterRom slaveRom : BitVec 32} {actions : List Action}
    {b : Board} (h : Reaches masterRom slaveRom actions b)
    (hopens : Machine.Guarded step OpensWhole (init masterRom slaveRom) actions) :
    MessagesGood b :=
  (Machine.guarded_invariant (fun _ _ _ => step_invariant) (init_invariant masterRom slaveRom)
    hopens h).messagesGood

/-- The host reads the configuration, and the slave gets what the master makes of it. -/
def readConfiguration (packets : List Usb.Packet) : List Action :=
  learnPacketSize ++ hostRequest ⟨0x80, 6, 0x200, 0, 255⟩ ++ toSlave ++ sendSetup ++
    packets.flatMap replyWith ++ statusStage ++ toMaster packets.length ++
    List.replicate packets.length (.device .handleSpiSlaveEvent) ++ [.enqueue .master] ++ toSlave ++
    [.host .slavework]

/-- A configuration with one HID interface and an endpoint descriptor of the given length, in
which the walk steps over what follows the endpoint descriptor. -/
def configuration (bLength : UInt8) : List Usb.Packet :=
  [⟨[9, 2, 27, 0, 1, 1, 0, 0x80], by decide⟩, ⟨[50, 9, 4, 0, 0, 1, 3, 0], by decide⟩,
    ⟨[0, 0, bLength, 5, 0x81, 3, 8, 0], by simp⟩, ⟨[9 - bLength, 0x24, 0], by simp⟩]

theorem readConfiguration_messagesGood :
    ∃ b, Reaches 0 0 (readConfiguration (configuration 7)) b ∧ MessagesGood b := by
  have hends : ∃ b, Machine.run step (init 0 0) (readConfiguration (configuration 7)) = some b ∧
      b.chips.slave.dequeued.length = 4 := Machine.exists_run_of_any (by decide +kernel)
  obtain ⟨b, hrun, -⟩ := hends
  exact ⟨b, hrun, messagesGood_of_opensWhole hrun (by decide +kernel)⟩

/-- A request to open an endpoint that is shorter than an endpoint descriptor. -/
theorem not_forSlavework_of_short {message : SpiMessage}
    (hkind : Host.messageKind message = MsgType.edptOpen) (hshort : message.payload.length < 7) :
    ¬ Host.ForSlavework message := by
  intro h
  cases h with
  | edptOpen _ hwhole => omega
  | resetUsb hother | setupData hother | usbData hother | chgAddr hother | chgEpxPacketsize hother =>
      exact absurd (hkind.symm.trans hother) (by decide)

/-- The endpoint descriptor gives its length as six, and the slave gets six bytes. -/
theorem readConfiguration_not_messagesGood :
    ¬ ∀ masterRom slaveRom actions b, Reaches masterRom slaveRom actions b → MessagesGood b := by
  intro hclaim
  have hends : ∃ b, Machine.run step (init 0 0) (readConfiguration (configuration 6)) = some b ∧
      ∃ message ∈ b.chips.slave.dequeued, Host.messageKind message = MsgType.edptOpen ∧
        message.payload.length < 7 := Machine.exists_run_of_any (by decide +kernel)
  obtain ⟨b, hrun, message, hmem, hkind, hshort⟩ := hends
  exact not_forSlavework_of_short hkind hshort ((hclaim 0 0 _ b hrun).slave message hmem)

end UsbSec.System
