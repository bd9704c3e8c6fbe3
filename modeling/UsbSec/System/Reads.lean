import UsbSec.Device.Handover
import UsbSec.Library.Mailbox
import UsbSec.Library.Observation
import UsbSec.System.Replies

/-!
# What the host reads is what the device has sent

The host takes packets from the IN endpoints of the master. Each of them was sent by the slave in a
message for this endpoint, and is byte for byte the packet of the message; the packets come in the
order of the messages, and none comes twice. A packet that is replaced before the host has taken it,
or that is lost when the bus is reset, never comes. Only the empty packets that end requests on
endpoint 0 are the master's own.
-/

namespace UsbSec.System

open Library Link Usb

/-! ## Packets -/

/-- The packet that a message has for an endpoint. -/
def carriedTo (num : Nat) (message : SpiMessage) : Option (List UInt8) :=
  (Device.carried message).bind fun packet => if packet.1 = num then some packet.2 else none

/-- The packet is not one of the empty packets with which requests on endpoint 0 end. -/
def HasData (num : Nat) (bytes : List UInt8) : Bool := num != 0 || bytes != []

/-- The packet that the host takes from an IN endpoint in a step. -/
def readFrom (num : Nat) (b : Board) : Action → List (List UInt8)
  | .device (.hostIn other) =>
      if other = num then [Device.offeredBytes b.master.master.dcd num] else []
  | _ => []

/-- What is handed over to the controllers in a step fits the endpoint it is for. -/
def PacketsFit (b : Board) : Action → Prop
  | .device event => Device.PacketsFit b.device event
  | _ => True

instance (b : Board) : ∀ action, Decidable (PacketsFit b action)
  | .device event => inferInstanceAs (Decidable (Device.PacketsFit b.device event))
  | .host _ => isTrue trivial
  | .enqueue _ => isTrue trivial
  | .core1 _ => isTrue trivial
  | .attach _ => isTrue trivial

/-! ## What core 0 of the master dequeues -/

/-- Texts have no packets. -/
theorem carried_texts {messages : List SpiMessage}
    (h : ∀ message ∈ messages, Device.isString message = true) :
    messages.filterMap Device.carried = [] := by
  refine List.filterMap_eq_nil_iff.mpr fun message hmem => ?_
  unfold Device.carried
  rw [h message hmem]
  cases message.payload.getLast? <;> rfl

/-- The handler takes the next message and the texts before it. -/
theorem handleSpiSlaveEvent_front {s t : Device.Master}
    (h : Device.handleSpiSlaveEvent s = .ok () t) :
    ∃ front, s.rx.items = front ++ t.rx.items ∧
      front.filterMap Device.carried = (s.nextMessage.bind Device.carried).toList := by
  have htexts : ∀ message ∈ s.rx.items.takeWhile Device.isString,
      Device.isString message = true := fun message hmem => List.mem_takeWhile_imp hmem
  have hsplit : s.rx.items = s.rx.items.takeWhile Device.isString ++
      s.rx.items.dropWhile Device.isString := List.takeWhile_append_dropWhile.symm
  rcases Device.handleSpiSlaveEvent_cases s with
    ⟨hnext, hpassed | hidle⟩ | ⟨message, rest, hnext, htaken, hhandles⟩
  · cases hpassed.symm.trans h
    refine ⟨[], (List.nil_append _).symm, ?_⟩
    rw [hnext]
    rfl
  · cases hidle.symm.trans h
    refine ⟨_, hsplit, ?_⟩
    rw [carried_texts htexts, hnext]
    rfl
  · have hitems : s.rx.items.dropWhile Device.isString = message :: rest.items :=
      Fifo.remove_eq_some.mp htaken
    have hrx : t.rx = rest := (handleMessage_rx message).ok (hhandles.symm.trans h)
    refine ⟨s.rx.items.takeWhile Device.isString ++ [message], ?_, ?_⟩
    · rw [hrx, List.append_assoc, List.singleton_append, ← hitems]
      exact hsplit
    · rw [filterMap_concat, carried_texts htexts, hnext]
      rfl

/-- Only `handle_spi_slave_event` dequeues a message. -/
theorem step_masterDequeued {b n : Board} {action : Action} (hstep : step b action = some n)
    (hinStep : InStep b.chips) (hother : action ≠ .device .handleSpiSlaveEvent) :
    n.chips.master.dequeued = b.chips.master.dequeued := by
  cases action with
  | device event =>
      cases event with
      | handleSpiSlaveEvent => exact absurd rfl hother
      | dcdIrq =>
          obtain ⟨-, hnext⟩ := Option.ite_none_right_eq_some.mp hstep
          cases hnext
          exact take_self (Prod.mk.inj (dcdRp2040Irq_same _ _)).1
      | receive message => cases hstep
      | hostSetup packet | hostReset =>
          cases hstep
          rfl
      | hostIn num | hostOut num packet =>
          obtain ⟨master, -, rfl⟩ := Option.map_eq_some_iff.mp hstep
          rfl
  | host event =>
      cases event with
      | slavework | hcdIrq =>
          obtain ⟨-, hnext⟩ := Option.ite_none_right_eq_some.mp hstep
          cases hnext
          rfl
      | receive message => cases hstep
      | setupSent | packetIn packet | packetOut | interruptIn slot packet =>
          obtain ⟨slave, -, rfl⟩ := Option.map_eq_some_iff.mp hstep
          rfl
      | raise cause =>
          cases hstep
          rfl
  | enqueue role | core1 role | attach level =>
      obtain ⟨taken, hdequeue, hlink⟩ := step_link hstep (fun _ h => by cases h) fun _ h => by cases h
      obtain ⟨chips, hchips, rfl⟩ := linkStep_eq_some hlink
      exact linkStep_dequeued hchips hdequeue hinStep .master

/-- What is dequeued in a step has the packet that is handed over in it. -/
theorem device_dequeued {b n : Board} {event : Device.Event}
    (hstep : step b (.device event) = some n) (hinStep : InStep b.chips)
    (hrunning : n.masterHalted = none) :
    ∃ front, n.chips.master.dequeued = b.chips.master.dequeued ++ front ∧
      front.filterMap Device.carried = (Device.handedOver b.device event).toList := by
  by_cases hhandles : event = .handleSpiSlaveEvent
  · subst hhandles
    have hdevice : deviceStep b .handleSpiSlaveEvent = some n := hstep
    have hmachine := deviceStep_device hdevice hrunning
    obtain ⟨-, hnext⟩ := Option.ite_none_right_eq_some.mp hstep
    cases hnext
    obtain ⟨t, hrun, ht⟩ := Device.runHandler_eq_some hmachine
    obtain ⟨front, hitems, hfront⟩ := handleSpiSlaveEvent_front hrun
    refine ⟨front, take_front ?_, hfront⟩
    have hrx : t.rx = (runMaster Device.handleSpiSlaveEvent b).device.master.rx := by rw [ht]
    rw [hrx] at hitems
    exact hitems
  · have hsame := step_masterDequeued hstep hinStep fun h => hhandles (Action.device.inj h)
    refine ⟨[], by rw [hsame, List.append_nil], ?_⟩
    cases event <;> first | exact absurd rfl hhandles | rfl

/-! ## Packets pass through the controller of the master -/

/-- The packets for an endpoint that core 0 of the master has dequeued. -/
def arrivedFor (num : Nat) (b : Board) : List (List UInt8) :=
  b.chips.master.dequeued.filterMap (carriedTo num)

/-- The packet that the host is offered on an endpoint, if it has data. -/
def waitingOn (num : Nat) (b : Board) : Option (List UInt8) :=
  (Device.offer b.master.master.dcd num).filter (HasData num)

/-- While core 0 of the master runs, the packets that the host has read are packets that core 0 has
dequeued, and so is the one that it is offered next. -/
structure ReadInOrder (num : Nat) (read : List (List UInt8)) (b : Board) : Prop where
  sound : Device.Allows (fun _ _ => True) b.master.master
  passes : Passes (arrivedFor num b) (read.filter (HasData num)) (waitingOn num b)

section ReadInOrder

variable {num : Nat} {read : List (List UInt8)} {b n : Board}

theorem arrivedFor_front {front : List SpiMessage} {packet : Option (Nat × List UInt8)}
    (hdequeued : n.chips.master.dequeued = b.chips.master.dequeued ++ front)
    (hfront : front.filterMap Device.carried = packet.toList) :
    arrivedFor num n = arrivedFor num b ++
      (packet.bind fun packet => if packet.1 = num then some packet.2 else none).toList := by
  have hpackets : front.filterMap (carriedTo num) =
      (front.filterMap Device.carried).filterMap
        fun packet => if packet.1 = num then some packet.2 else none :=
    List.filterMap_filterMap.symm
  unfold arrivedFor
  rw [hdequeued, List.filterMap_append, hpackets, hfront]
  cases packet with
  | none => rfl
  | some packet =>
      by_cases hsame : packet.1 = num
      · simp [hsame]
      · simp [hsame]

theorem readFrom_other {event : Device.Event} (h : event ≠ .hostIn num) :
    readFrom num b (.device event) = [] := by
  cases event with
  | hostIn other => exact if_neg fun hsame => h (congrArg _ hsame)
  | _ => rfl

/-- The host takes the packet that it is offered. -/
theorem ReadInOrder.taken (h : ReadInOrder num read b) (hinStep : InStep b.chips)
    (hstep : step b (.device (.hostIn num)) = some n) :
    ReadInOrder num (read ++ readFrom num b (.device (.hostIn num))) n := by
  have hdequeued := step_masterDequeued hstep hinStep fun h => by cases h
  obtain ⟨master, hmaster, rfl⟩ := Option.map_eq_some_iff.mp hstep
  obtain ⟨dcd, hsend, rfl⟩ := Option.map_eq_some_iff.mp hmaster
  obtain ⟨hsound, hnone⟩ := Device.sendIn_offers h.sound hsend
  have hoffer : Device.offer b.master.master.dcd num =
      some (Device.offeredBytes b.master.master.dcd num) := by
    unfold Device.offer
    rw [hsend]
    rfl
  refine ⟨hsound, ?_⟩
  have hpasses := h.passes
  unfold waitingOn at hpasses ⊢
  rw [hoffer] at hpasses
  rw [show readFrom num b (.device (.hostIn num)) = _ from if_pos rfl, List.filter_append]
  rw [show Device.offer _ num = none from hnone]
  show Passes (b.chips.master.dequeued.filterMap (carriedTo num)) _ none
  cases hdata : HasData num (Device.offeredBytes b.master.master.dcd num) with
  | true =>
      rw [Option.filter_some, if_pos hdata] at hpasses
      rw [List.filter_singleton, hdata, cond_true]
      exact hpasses.take
  | false =>
      rw [List.filter_singleton, hdata, cond_false, List.append_nil]
      exact hpasses.clear

/-- Every other step offers what it hands over, or nothing new. -/
theorem ReadInOrder.event {event : Device.Event} (h : ReadInOrder num read b)
    (hinStep : InStep b.chips) (hfits : PacketsFit b (.device event))
    (hstep : step b (.device event) = some n) (hrunning : n.masterHalted = none) :
    ReadInOrder num (read ++ readFrom num b (.device event)) n := by
  by_cases hread : event = .hostIn num
  · subst hread
    exact h.taken hinStep hstep
  rw [readFrom_other hread, List.append_nil]
  let allowed (other : Nat) (bytes : List UInt8) : Prop :=
    Device.offer b.master.master.dcd other = some bytes ∨
      Device.handedOver b.device event = some (other, bytes) ∨ other = 0 ∧ bytes = []
  have hbefore : Device.Allows allowed b.device.master :=
    ⟨h.sound.toHoused, h.sound.finished, fun other hlt bytes hoffer =>
      ⟨(h.sound.offered other hlt bytes hoffer).1, .inl hoffer⟩⟩
  have hmachine : Device.step b.device event = some n.device := deviceStep_device hstep hrunning
  have hafter : Device.Allows allowed n.device.master :=
    Device.step_allows hfits (fun packet hpacket => .inr (.inl hpacket)) (.inr (.inr ⟨rfl, rfl⟩))
      hbefore hmachine
  obtain ⟨front, hdequeued, hfront⟩ := device_dequeued hstep hinStep hrunning
  have harrived : arrivedFor num n = arrivedFor num b ++ ((Device.handedOver b.device event).bind
      fun packet => if packet.1 = num then some packet.2 else none).toList :=
    arrivedFor_front hdequeued hfront
  refine ⟨⟨hafter.toHoused, hafter.finished, fun other hlt bytes hoffer =>
    ⟨(hafter.offered other hlt bytes hoffer).1, trivial⟩⟩, ?_⟩
  rw [harrived]
  cases hwaiting : waitingOn num n with
  | none => exact (h.passes.more _).clear
  | some bytes =>
      obtain ⟨hoffer, hdata⟩ := Option.filter_eq_some_iff.mp hwaiting
      have hlt : num < Rp2040.usbMaxEndpoints := by
        obtain ⟨_, hbuffer, -⟩ := Device.offer_eq_some.mp hoffer
        exact Device.controllerBuffer_bounded hbuffer
      rcases (hafter.offered num hlt bytes hoffer).2 with hold | hnew | ⟨rfl, rfl⟩
      · have hsame : waitingOn num b = some bytes := Option.filter_eq_some_iff.mpr ⟨hold, hdata⟩
        exact (hsame ▸ h.passes).more _
      · rw [hnew]
        show Passes (_ ++ (if num = num then some bytes else none).toList) _ _
        rw [if_pos rfl]
        exact h.passes.put bytes
      · cases hdata

/-- A step that is none of the master's does not touch its controller. -/
theorem ReadInOrder.elsewhere {action : Action} (h : ReadInOrder num read b)
    (hinStep : InStep b.chips) (hstep : step b action = some n)
    (hother : ∀ event, action ≠ .device event) :
    ReadInOrder num (read ++ readFrom num b action) n := by
  have hdequeued := step_masterDequeued hstep hinStep (hother _)
  have hdcd : n.master.master.dcd = b.master.master.dcd := by
    cases action with
    | device event => exact absurd rfl (hother event)
    | host event =>
        have hsame := congrArg (fun m : Device.Core0 => m.master.dcd) (hostStep_device hstep).1
        exact hsame
    | enqueue role | core1 role | attach level =>
        obtain ⟨_, -, hlink⟩ := step_link hstep hother fun _ h => by cases h
        obtain ⟨chips, -, rfl⟩ := linkStep_eq_some hlink
        rfl
  have hnothing : readFrom num b action = [] := by
    cases action with
    | device event => exact absurd rfl (hother event)
    | _ => rfl
  rw [hnothing, List.append_nil]
  constructor
  · unfold Device.Allows
    rw [hdcd]
    exact h.sound
  · unfold arrivedFor waitingOn
    rw [hdequeued, hdcd]
    exact h.passes

end ReadInOrder

/-- In every run in which all packets fit their endpoints, and until core 0 of the master stops,
the packets that the host reads from an endpoint are packets that the slave has sent for this
endpoint: they are the same byte for byte, come in the same order, and each comes once. -/
theorem reads_of_run {masterRom slaveRom : BitVec 32} {actions : List Action} {b : Board} (num : Nat)
    (h : Reaches masterRom slaveRom actions b) (hrunning : b.masterHalted = none)
    (hfits : Machine.Guarded step PacketsFit (init masterRom slaveRom) actions) :
    ((Machine.observed step (readFrom num) (init masterRom slaveRom) actions).filter
      (HasData num)).Sublist ((b.outbox .slave).filterMap (carriedTo num)) := by
  have hoffers (allowed : Nat → List UInt8 → Prop) :
      Device.Allows allowed (Device.Master.init masterRom) := Device.dcdAfterInit_offers masterRom
  have hnone : waitingOn num (init masterRom slaveRom) = none := by
    refine Option.eq_none_iff_forall_ne_some.mpr fun bytes hwaiting => ?_
    obtain ⟨hoffer, -⟩ := Option.filter_eq_some_iff.mp hwaiting
    obtain ⟨_, hbuffer, -⟩ := Device.offer_eq_some.mp hoffer
    exact ((hoffers fun _ _ => False).offered num (Device.controllerBuffer_bounded hbuffer) bytes
      hoffer).2
  have hinit : Carries (init masterRom slaveRom) (init masterRom slaveRom).chips ∧
      ((init masterRom slaveRom).masterHalted = none →
        ReadInOrder num [] (init masterRom slaveRom)) := by
    refine ⟨init_carries masterRom slaveRom, fun _ => ⟨hoffers _, ?_⟩⟩
    rw [hnone]
    exact List.Sublist.refl _
  have hkept : ∀ read b action n, Carries b b.chips ∧
      (b.masterHalted = none → ReadInOrder num read b) → PacketsFit b action →
      step b action = some n → Carries n n.chips ∧
        (n.masterHalted = none → ReadInOrder num (read ++ readFrom num b action) n) := by
    intro read b action n hb hpacket hstep
    obtain ⟨mail, hmail⟩ := hb.1.implements
    obtain ⟨_, last, -, -, hcarries⟩ := step_carries hb.1 hstep
    obtain rfl := hcarries.same
    refine ⟨hcarries, fun hn => ?_⟩
    have hbefore := hb.2 (step_masterHalted hstep hn)
    by_cases hdevice : ∃ event, action = .device event
    · obtain ⟨event, rfl⟩ := hdevice
      exact hbefore.event hmail.1 hpacket hstep hn
    · exact hbefore.elsewhere hmail.1 hstep fun event h => hdevice ⟨event, h⟩
  obtain ⟨hcarries, hread⟩ := Machine.guarded_observed hkept hinit hfits h
  refine (hread hrunning).passes.taken_sublist.trans ?_
  exact ((hcarries.dequeued .slave).sublist).filterMap _

/-- The report of the device arrives at the host. -/
def readReportByHost : List Action :=
  reportArrives ++ [.enqueue .slave] ++ toMaster 1 ++
    [.device .handleSpiSlaveEvent, .device .handleSpiSlaveEvent, .device (.hostIn 1)]

theorem readReportByHost_reads :
    ∃ b, Reaches 0 0 readReportByHost b ∧
      Machine.observed step (readFrom 1) (init 0 0) readReportByHost = [[1, 0, 4, 0, 0, 0, 0, 0]] ∧
      ([[1, 0, 4, 0, 0, 0, 0, 0]] : List (List UInt8)).Sublist
        ((b.outbox .slave).filterMap (carriedTo 1)) := by
  have hends : ∃ b, Machine.run step (init 0 0) readReportByHost = some b ∧ b.masterHalted = none :=
    Machine.exists_run_of_any (by decide +kernel)
  obtain ⟨b, hrun, hrunning⟩ := hends
  have hread : Machine.observed step (readFrom 1) (init 0 0) readReportByHost =
      [[1, 0, 4, 0, 0, 0, 0, 0]] := by decide +kernel
  have hfits : Machine.Guarded step PacketsFit (init 0 0) readReportByHost := by decide +kernel
  have hreads := reads_of_run 1 hrun hrunning hfits
  rw [hread] at hreads
  exact ⟨b, hrun, hread, hreads⟩

end UsbSec.System
