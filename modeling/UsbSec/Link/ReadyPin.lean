import UsbSec.Link.Delivery

/-!
# The ready pin

`GPIO_SLAVE_WAITING_PIN` is high from before the slave starts to receive a frame until after it
has received it, and the master sends when it sees the pin high. The comment in `send_message`
describes a handshake in which the master asks first, over a second pin that is never set up.
Without it the pin may still be high for the frame before: the master then sends while the slave
is not receiving.
-/

namespace UsbSec.Link

open Library

/-- The master sends only while the slave waits inside the receive step, with no earlier frame on
the link that this step could take. -/
def ReadyToReceive (chips : Chips) : Prop :=
  ∀ outgoing, chips.masterPc = .transmit outgoing →
    chips.slavePc = .receive ∧ chips.toSlave = []

/-- The master is about to see the pin high. -/
def SeesPin (chips : Chips) : Action → Prop
  | .core1 .master =>
      match chips.masterPc with
      | .waitPin _ => chips.slaveWaiting = true
      | _ => False
  | _ => False

instance (chips : Chips) (action : Action) : Decidable (SeesPin chips action) := by
  unfold SeesPin
  split
  · split <;> infer_instance
  · infer_instance

/-- When the master sees the pin high, the slave has dealt with every frame that was sent. -/
def FreshPin (chips : Chips) (action : Action) : Prop :=
  SeesPin chips action → pendingFrames chips = []

instance (chips : Chips) (action : Action) : Decidable (FreshPin chips action) :=
  inferInstanceAs (Decidable (_ → _))

/-- The pin is high only around the receive step. -/
def PinAroundReceive (chips : Chips) : Prop :=
  chips.slaveWaiting = true →
    chips.slavePc = .receive ∨ ∃ frame, chips.slavePc = .lowerPin frame

/-- The slave's half drives the pin. -/
theorem slaveStep_pin {chips next : Chips} (h : PinAroundReceive chips)
    (hstep : slaveStep chips = some next) : PinAroundReceive next := by
  obtain ⟨master, slave, masterPc, slavePc, toSlave, toMaster, waiting, attached⟩ := chips
  have hlow (hother : slavePc ≠ .receive ∧ ∀ frame, slavePc ≠ .lowerPin frame) :
      waiting = false := by
    cases waiting with
    | false => rfl
    | true =>
        rcases h rfl with hreceive | ⟨frame, hlower⟩
        · exact absurd hreceive hother.1
        · exact absurd hlower (hother.2 frame)
  cases slavePc with
  | raisePin =>
      cases hstep
      exact fun _ => .inl rfl
  | receive =>
      obtain ⟨⟨frame, rest⟩, -, rfl⟩ := Option.map_eq_some_iff.mp hstep
      exact fun _ => .inr ⟨frame, rfl⟩
  | lowerPin frame =>
      cases hstep
      exact nofun
  | process frame =>
      have hdown := hlow ⟨nofun, nofun⟩
      unfold slaveStep at hstep
      dsimp only at hstep
      split at hstep
      · cases hstep
        exact fun hup => Bool.noConfusion (hdown.symm.trans hup)
      · obtain ⟨rx, -, rfl⟩ := Option.map_eq_some_iff.mp hstep
        exact fun hup => Bool.noConfusion (hdown.symm.trans hup)
  | readLevel | sendCount recCount | transmit message recCount =>
      have hdown := hlow ⟨nofun, nofun⟩
      cases hstep
      exact fun hup => Bool.noConfusion (hdown.symm.trans hup)
  | sendReplies recCount =>
      have hdown := hlow ⟨nofun, nofun⟩
      cases recCount with
      | zero =>
          cases hstep
          exact fun hup => Bool.noConfusion (hdown.symm.trans hup)
      | succ recCount =>
          obtain ⟨⟨message, rest⟩, -, rfl⟩ := Option.map_eq_some_iff.mp hstep
          exact fun hup => Bool.noConfusion (hdown.symm.trans hup)

/-- While the slave waits inside the receive step its half does not go on without a frame. -/
theorem slaveStep_waits {chips : Chips} (hpc : chips.slavePc = .receive)
    (hlink : chips.toSlave = []) : slaveStep chips = none := by
  unfold slaveStep
  rw [hpc, hlink]
  rfl

/-- The master may send behind seeing the pin exactly when the slave has dealt with every frame
that was sent. -/
theorem seesPin_ready_iff {chips next : Chips} (h : PinAroundReceive chips)
    (hsees : SeesPin chips (.core1 .master)) (hstep : masterStep chips = some next) :
    ReadyToReceive next ↔ pendingFrames chips = [] := by
  obtain ⟨master, slave, masterPc, slavePc, toSlave, toMaster, waiting, attached⟩ := chips
  cases masterPc with
  | waitPin outgoing =>
      have hup : waiting = true := hsees
      subst hup
      cases hstep
      constructor
      · intro hready
        obtain ⟨hpc, hlink⟩ := hready outgoing rfl
        have hpc : slavePc = .receive := hpc
        have hlink : toSlave = [] := hlink
        subst hpc hlink
        rfl
      · intro hpending other _
        have hpending : slavePc.frame ++ toSlave = [] := hpending
        obtain ⟨hframe, hlink⟩ := List.append_eq_nil_iff.mp hpending
        rcases h rfl with hreceive | ⟨frame, hlower⟩
        · exact ⟨hreceive, hlink⟩
        · have hlower : slavePc = .lowerPin frame := hlower
          rw [hlower] at hframe
          cases hframe
  | start | drain | transmit _ | receiveCount | receiveReplies _ | addReply _ _ | halted =>
      exact hsees.elim

/-- A step of the master that does not see the pin does not lead to sending. -/
theorem masterStep_not_sending {chips next : Chips} (hsees : ¬ SeesPin chips (.core1 .master))
    (hstep : masterStep chips = some next) : ReadyToReceive next := by
  obtain ⟨master, slave, masterPc, slavePc, toSlave, toMaster, waiting, attached⟩ := chips
  intro outgoing hpc
  cases masterPc with
  | start =>
      cases hstep
      cases attached <;> cases hpc
  | drain =>
      unfold masterStep at hstep
      dsimp only at hstep
      split at hstep <;> cases hstep <;> cases hpc
  | waitPin other =>
      unfold masterStep at hstep
      dsimp only at hstep
      split at hstep
      · rename_i hup
        exact absurd hup hsees
      · cases hstep
  | transmit other =>
      cases hstep
      cases other <;> cases hpc
  | receiveCount =>
      obtain ⟨⟨frame, rest⟩, -, rfl⟩ := Option.map_eq_some_iff.mp hstep
      dsimp only at hpc
      split at hpc <;> cases hpc
  | receiveReplies recCount =>
      cases recCount with
      | zero =>
          cases hstep
          cases hpc
      | succ recCount =>
          obtain ⟨⟨frame, rest⟩, -, rfl⟩ := Option.map_eq_some_iff.mp hstep
          cases hpc
  | addReply message recCount =>
      obtain ⟨rx, -, rfl⟩ := Option.map_eq_some_iff.mp hstep
      cases hpc
  | halted => cases hstep

/-- What every step keeps when it meets the condition. -/
structure PinSound (chips : Chips) : Prop where
  around : PinAroundReceive chips
  ready : ReadyToReceive chips

/-- Only the two halves of `sync` touch the pin and the link. -/
theorem PinSound.setChip {chips : Chips} (h : PinSound chips) (role : SpiRole) (chip : Chip) :
    PinSound (chips.setChip role chip) := by
  cases role <;> exact ⟨h.around, h.ready⟩

theorem masterStep_around {chips next : Chips} (h : PinAroundReceive chips)
    (hstep : masterStep chips = some next) : PinAroundReceive next := by
  obtain ⟨-, hpc, hpin⟩ := masterStep_slave hstep
  unfold PinAroundReceive
  rw [hpin, hpc]
  exact h

theorem step_pinSound {chips next : Chips} {action : Action} (h : PinSound chips)
    (hfresh : FreshPin chips action) (hstep : step chips action = some next) : PinSound next := by
  cases action with
  | enqueue role message =>
      obtain ⟨chip, -, rfl⟩ := Option.map_eq_some_iff.mp hstep
      exact h.setChip role chip
  | dequeue role =>
      cases hstep
      exact h.setChip role _
  | attach level =>
      cases hstep
      exact ⟨h.around, h.ready⟩
  | core1 role =>
      cases role with
      | master =>
          refine ⟨masterStep_around h.around hstep, ?_⟩
          by_cases hsees : SeesPin chips (.core1 .master)
          · exact (seesPin_ready_iff h.around hsees hstep).mpr (hfresh hsees)
          · exact masterStep_not_sending hsees hstep
      | slave =>
          refine ⟨slaveStep_pin h.around hstep, fun outgoing hpc => ?_⟩
          -- The slave cannot have moved: it waits for the frame that the master is sending.
          have hsame := (slaveStep_master hstep).2
          obtain ⟨hreceive, hlink⟩ := h.ready outgoing (hsame.symm.trans hpc)
          cases (slaveStep_waits hreceive hlink).symm.trans hstep

/-- In a run in which the master sees the pin high only when the slave has dealt with every frame
that was sent, it sends only while the slave waits for the frame. -/
theorem readyToReceive_of_fresh {actions : List Action} {chips : Chips}
    (hfresh : Machine.Guarded step FreshPin init actions)
    (hrun : Machine.run step init actions = some chips) : ReadyToReceive chips := by
  have hinit : PinSound init := ⟨nofun, nofun⟩
  exact (Machine.guarded_invariant (fun _ _ _ h hok hstep => step_pinSound h hok hstep) hinit
    hfresh hrun).ready

/-- A round with one message, up to where the master is about to send the query. -/
def sendingRound : List Action :=
  [.attach true, .enqueue .master setupPacket] ++ turns .slave 1 ++ turns .master 4 ++
    turns .slave 4 ++ turns .master 2

theorem sendingRound_ready :
    ∃ chips, Machine.run step init sendingRound = some chips ∧ ReadyToReceive chips ∧
      chips.masterPc = .transmit .query := by
  have hfresh : Machine.Guarded step FreshPin init sendingRound := by decide +kernel
  have hends : ∃ chips, Machine.run step init sendingRound = some chips ∧
      chips.masterPc = .transmit .query := Machine.exists_run_of_any (by decide +kernel)
  obtain ⟨chips, hrun, hpc⟩ := hends
  exact ⟨chips, hrun, readyToReceive_of_fresh hfresh hrun, hpc⟩

/-- The master sees the pin that was raised for the message before the slave lowers it. -/
def stalePin : List Action :=
  [.attach true, .enqueue .master setupPacket] ++ turns .slave 1 ++ turns .master 4 ++
    turns .slave 1 ++ turns .master 2

/-- The master is about to send the query while the slave is about to lower the pin. -/
theorem stalePin_not_ready :
    ¬ ∀ (actions : List Action) (chips : Chips),
      Machine.run step init actions = some chips → ReadyToReceive chips := by
  intro hclaim
  have hends : ∃ chips, Machine.run step init stalePin = some chips ∧
      (chips.masterPc = .transmit .query ∧ chips.slavePc = .lowerPin setupPacket) :=
    Machine.exists_run_of_any (by decide +kernel)
  obtain ⟨chips, hrun, hmaster, hslave⟩ := hends
  obtain ⟨hreceive, -⟩ := hclaim stalePin chips hrun .query hmaster
  cases hslave.symm.trans hreceive

end UsbSec.Link
