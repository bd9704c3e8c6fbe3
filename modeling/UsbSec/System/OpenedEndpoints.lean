import UsbSec.Device.Announced
import UsbSec.Host.Known
import UsbSec.System.Projection
import UsbSec.System.WellFormed

/-!
# Endpoints are opened before they are used

The master hands over a request to open an endpoint before it asks for a transfer on it, the link
keeps the order, and the slave keeps the endpoints it has opened. Each of the three has its
condition: the two knocks of the master that do not go through a driver name announced endpoints,
and opening an endpoint drops none that the slave knows. In every run that meets them the slave
knows every endpoint that it is asked to use.
-/

namespace UsbSec.System

open Library Link

/-- If the next message of the slave asks for a transfer on an endpoint, the slave has handled a
request to open it, and finds it in its pool. -/
def UsesOpened (b : Board) : Prop :=
  b.halted .slave = none → ∀ message ∈ b.chips.slave.rx.items.head?, ∀ epAddr,
    Device.Uses epAddr message →
      (∃ request ∈ b.chips.slave.dequeued, Host.messageKind request = MsgType.edptOpen ∧
        request.payload[2]? = some epAddr) ∧ Host.Known b.slave.slave.hcd epAddr

/-- The master is about to knock on announced endpoints only, and the slave about to open only
endpoints that drop none it knows. -/
def Introduced (b : Board) : Action → Prop
  | .device .handleSpiSlaveEvent => Device.NextKnockAnnounced b.device.master
  | .host .slavework => Host.NextDropsNone b.host.slave
  | _ => True

instance (b : Board) : ∀ action, Decidable (Introduced b action)
  | .device .handleSpiSlaveEvent => inferInstanceAs (Decidable (Device.NextKnockAnnounced _))
  | .host .slavework => inferInstanceAs (Decidable (Host.NextDropsNone _))
  | .device (.hostSetup _) | .device .hostReset | .device (.hostIn _) | .device (.hostOut _ _)
  | .device (.receive _) | .device .dcdIrq | .host (.receive _) | .host .hcdIrq | .host .setupSent
  | .host (.packetIn _) | .host .packetOut | .host (.interruptIn _ _) | .host (.raise _)
  | .enqueue _ | .core1 _ | .attach _ => isTrue trivial

/-- Every endpoint that the slave was asked to open is in its pool. -/
def KeepsOpened (b : Board) : Prop :=
  ∀ request ∈ b.chips.slave.dequeued, Host.messageKind request = MsgType.edptOpen →
    ∃ epAddr, request.payload[2]? = some epAddr ∧ Host.Known b.slave.slave.hcd epAddr

/-- What is kept in a run whose steps are all such. A core 0 of the master that stopped has handed
over its messages in order. -/
structure Prepared (b : Board) : Prop where
  carries : Carries b b.chips
  ordered : Device.OpenedBeforeUse (b.outbox .master)
  announced : b.masterHalted = none → Device.Announced b.device.master
  opened : b.slave.halted = none → KeepsOpened b

/-! ## The master -/

theorem step_keepsAnnounced {b n : Board} {action : Action} (hstep : step b action = some n)
    (hb : Device.Announced b.device.master) (hok : Introduced b action)
    (hrunning : n.masterHalted = none) : Device.Announced n.device.master := by
  cases step_onDevice hstep hrunning with
  | event event hmachine =>
      refine Device.step_announced hb ?_ hmachine
      cases event with
      | handleSpiSlaveEvent => exact hok
      | hostSetup packet | hostReset | hostIn num | hostOut num packet | receive message
      | dcdIrq => trivial
  | receive action message hmachine =>
      have hfree : Device.KnocksAnnounced b.device (.receive message) := trivial
      exact Device.step_announced hb hfree hmachine
  | same action hsame =>
      rw [hsame]
      exact hb

theorem deviceStep_ordered {b n : Board} {event : Device.Event}
    (hb : Device.OpenedBeforeUse (b.outbox .master))
    (hannounced : b.masterHalted = none → Device.Announced b.device.master)
    (hok : Introduced b (.device event)) (hstep : deviceStep b event = some n) :
    Device.OpenedBeforeUse (n.outbox .master) := by
  cases event with
  | handleSpiSlaveEvent =>
      obtain ⟨hidle, hnext⟩ := Option.ite_none_right_eq_some.mp hstep
      cases hnext
      exact Device.handleSpiSlaveEvent_ordered (hannounced hidle.2) hok
  | dcdIrq =>
      obtain ⟨hidle, hnext⟩ := Option.ite_none_right_eq_some.mp hstep
      cases hnext
      exact (Device.dcdRp2040Irq_announces _ _ (hannounced hidle.2)).1.inOrder
  | receive message => cases hstep
  | hostSetup packet | hostReset =>
      cases hstep
      exact hb
  | hostIn num | hostOut num packet =>
      obtain ⟨master, hmaster, rfl⟩ := Option.map_eq_some_iff.mp hstep
      obtain ⟨dcd, -, rfl⟩ := Option.map_eq_some_iff.mp hmaster
      exact hb

theorem step_ordered {b n : Board} {action : Action} (hstep : step b action = some n)
    (hb : Device.OpenedBeforeUse (b.outbox .master))
    (hannounced : b.masterHalted = none → Device.Announced b.device.master)
    (hok : Introduced b action) : Device.OpenedBeforeUse (n.outbox .master) := by
  by_cases hdevice : ∃ event, action = .device event
  · obtain ⟨event, rfl⟩ := hdevice
    exact deviceStep_ordered hb hannounced hok hstep
  by_cases hhost : ∃ event, action = .host event
  · obtain ⟨event, rfl⟩ := hhost
    have hsame : n.device.master.outbox = b.device.master.outbox := by
      rw [(hostStep_device hstep).1]
    show Device.OpenedBeforeUse n.device.master.outbox
    rw [hsame]
    exact hb
  obtain ⟨taken, -, hlink⟩ := step_link hstep (fun event h => hdevice ⟨event, h⟩)
    fun event h => hhost ⟨event, h⟩
  obtain ⟨chips, -, rfl⟩ := linkStep_eq_some hlink
  exact hb

/-! ## The slave -/

theorem step_keepsKnown {b n : Board} {action : Action} (hstep : step b action = some n)
    (hok : Introduced b action) (hrunning : n.slave.halted = none) :
    Host.KeepsKnown b.host.slave.hcd n.host.slave.hcd := by
  cases step_onHost hstep (step_slaveHalted hstep hrunning) with
  | event event hmachine =>
      refine Host.step_keepsKnown hmachine hrunning fun hwork => ?_
      subst hwork
      exact hok
  | receive action message hmachine =>
      exact Host.step_keepsKnown hmachine hrunning fun hwork => by cases hwork
  | same action hsame =>
      rw [hsame]
      exact refl_of Host.KeepsKnown _

/-- A request to open an endpoint that was handled has put it into the pool. -/
theorem handleMessage_opened {message : SpiMessage} {s t : Host.Slave}
    (hkind : Host.messageKind message = MsgType.edptOpen)
    (hrun : Host.handleMessage message s = .ok () t) :
    ∃ epAddr, message.payload[2]? = some epAddr ∧ Host.Known t.hcd epAddr := by
  rw [Host.handleMessage_open hkind] at hrun
  obtain ⟨hlength, hopen⟩ := Host.handleEdptOpen_ok hrun
  have hlt : 2 < message.payload.length := by omega
  refine ⟨message.payload[2], List.getElem?_eq_getElem hlt, ?_⟩
  have haddress : (Host.descriptorOf message.payload).bEndpointAddress = message.payload[2] :=
    List.getD_eq_getElem _ _ hlt
  rw [← haddress]
  exact Host.hcdEdptOpen_opened hopen

theorem step_keepsOpened {b n : Board} {action : Action} (hstep : step b action = some n)
    (hinStep : InStep b.chips) (hb : KeepsOpened b) (hok : Introduced b action)
    (hrunning : n.slave.halted = none) : KeepsOpened n := by
  have hkept := step_keepsKnown hstep hok hrunning
  have hold : ∀ request ∈ b.chips.slave.dequeued,
      Host.messageKind request = MsgType.edptOpen →
        ∃ epAddr, request.payload[2]? = some epAddr ∧ Host.Known n.slave.slave.hcd epAddr := by
    intro request hmem hkind
    obtain ⟨epAddr, haddress, hknown⟩ := hb request hmem hkind
    exact ⟨epAddr, haddress, hkept epAddr hknown⟩
  intro request hmem hkind
  by_cases hwork : action = .host .slavework
  · subst hwork
    rcases slavework_dequeued hstep hrunning with hsame | ⟨message, rest, -, hmore, hrun⟩
    · rw [hsame] at hmem
      exact hold request hmem hkind
    · rw [hmore] at hmem
      rcases List.mem_append.mp hmem with hfront | hlast
      · exact hold request hfront hkind
      · obtain rfl := List.mem_singleton.mp hlast
        have hopened := handleMessage_opened hkind hrun
        exact hopened
  · rw [step_dequeued hstep hinStep hwork] at hmem
    exact hold request hmem hkind

/-! ## Runs -/

theorem step_prepared {b n : Board} {action : Action} (hb : Prepared b)
    (hok : Introduced b action) (hstep : step b action = some n) : Prepared n := by
  obtain ⟨_, last, -, -, hcarries⟩ := step_carries hb.carries hstep
  obtain ⟨mail, hmail⟩ := hb.carries.implements
  refine ⟨hcarries.same ▸ hcarries, step_ordered hstep hb.ordered hb.announced hok, ?_, ?_⟩
  · intro hrunning
    exact step_keepsAnnounced hstep (hb.announced (step_masterHalted hstep hrunning)) hok hrunning
  · intro hrunning
    exact step_keepsOpened hstep hmail.inStep (hb.opened (step_slaveHalted hstep hrunning)) hok
      hrunning

theorem init_prepared (masterRom slaveRom : BitVec 32) : Prepared (init masterRom slaveRom) where
  carries := init_carries masterRom slaveRom
  ordered := (Device.init_announced masterRom).inOrder
  announced _ := Device.init_announced masterRom
  opened _ _ hmem := nomatch hmem

theorem Prepared.usesOpened {b : Board} (h : Prepared b) : UsesOpened b := by
  intro hrunning message hhead epAddr huses
  obtain ⟨mail, hmail⟩ := h.carries.implements
  have hitems : message :: b.chips.slave.rx.items.tail = b.chips.slave.rx.items :=
    List.cons_head?_tail hhead
  have hfront : b.chips.slave.dequeued ++ [message] <+: b.outbox .master := by
    refine List.IsPrefix.trans ?_ (h.carries.inOrder .master)
    have hcomplete : b.chips.master.enqueued = _ := (hmail.delivered .master).complete
    show _ <+: b.chips.master.enqueued
    rw [hcomplete, missing]
    show _ <+: b.chips.slave.dequeued ++ (b.chips.slave.rx.items ++ _ ++ _)
    rw [← hitems]
    simp
  obtain ⟨request, hmem, hkind, hthird⟩ := h.ordered _ message hfront epAddr huses
  obtain ⟨opened, haddress, hknown⟩ := h.opened hrunning request hmem hkind
  obtain rfl : opened = epAddr := hthird opened haddress
  exact ⟨⟨request, hmem, hkind, haddress⟩, hknown⟩

/-- In every run in which knocks name announced endpoints and no known endpoint is dropped, every
endpoint that the slave is asked to use was opened before, and the slave finds it. -/
theorem usesOpened_of_introduced {masterRom slaveRom : BitVec 32} {actions : List Action}
    {b : Board} (h : Reaches masterRom slaveRom actions b)
    (hok : Machine.Guarded step Introduced (init masterRom slaveRom) actions) : UsesOpened b :=
  (Machine.guarded_invariant (fun _ _ _ => step_prepared) (init_prepared masterRom slaveRom)
    hok h).usesOpened

/-- The host reads the report descriptor of interface 1, and the slave gets the poll that the
master begins with. -/
def readReport : List Action :=
  hostRequest ⟨0x81, 6, 0x2200, 1, 8⟩ ++ toSlave ++ sendSetup ++
    replyWith ⟨[5, 1, 9, 2, 0xa1, 1, 9, 1], by decide⟩ ++ statusStage ++ toMaster 1 ++
    [.device .handleSpiSlaveEvent, .enqueue .master] ++ toSlave

/-- The slave is asked to use endpoint 0x81. -/
def AsksForReport (b : Board) : Prop :=
  b.halted .slave = none ∧ ∃ message ∈ b.chips.slave.rx.items.head?, Device.Uses 0x81 message

instance (b : Board) : Decidable (AsksForReport b) := inferInstanceAs (Decidable (_ ∧ ∃ _ ∈ _, _))

/-- The host reads the configuration of a HID device with endpoint 0x81 before the report
descriptor. -/
def readReportInOrder : List Action :=
  readConfiguration (configuration 7) ++ [.device .handleSpiSlaveEvent] ++ readReport

theorem readReportInOrder_usesOpened :
    ∃ b, Reaches 0 0 readReportInOrder b ∧ AsksForReport b ∧ UsesOpened b := by
  have hends : ∃ b, Machine.run step (init 0 0) readReportInOrder = some b ∧ AsksForReport b :=
    Machine.exists_run_of_any (by decide +kernel)
  obtain ⟨b, hrun, hasks⟩ := hends
  exact ⟨b, hrun, hasks, usesOpened_of_introduced hrun (by decide +kernel)⟩

/-- The host reads the report descriptor before it has read a configuration, and the slave is
asked to use an endpoint that it does not know. -/
theorem readReport_not_usesOpened :
    ¬ ∀ masterRom slaveRom actions b, Reaches masterRom slaveRom actions b → UsesOpened b := by
  intro hclaim
  have hends : ∃ b, Machine.run step (init 0 0) (learnPacketSize ++ readReport) = some b ∧
      AsksForReport b ∧ ¬ Host.Known b.slave.slave.hcd 0x81 :=
    Machine.exists_run_of_any (by decide +kernel)
  obtain ⟨b, hrun, ⟨hrunning, message, hhead, huses⟩, hunknown⟩ := hends
  exact hunknown (hclaim 0 0 _ b hrun hrunning message hhead 0x81 huses).2

end UsbSec.System
