import UsbSec.Device.Announced
import UsbSec.Library.Observation

/-!
# The keyboard ban

`check_comm` looks at the interface copy in the slot of the endpoint a message is for. A slot
holds the last endpoint descriptor registered in it, so a keyboard stays banned exactly as long as
no later descriptor with the same slot lies under another kind of interface.

What keyboards a run declares is read off the responses that it completes. Only the responses that
are walked get into the slots, and a bus reset leaves the slots alone.
-/

namespace UsbSec.Device

open Library Usb Rp2040

/-! ## The endpoints that a run describes -/

/-- What a step shows: a bus reset, or a response with the setup packet it answers, whether it is
walked, and its endpoint descriptors. -/
inductive Sighting where
  | busReset
  | response (setup : ControlRequest) (walked : Bool) (endpoints : List Registration)
  deriving DecidableEq

/-- The response that was completed is walked as a configuration. -/
def Master.Walks (s : Master) : Prop :=
  (ControlRequest.ofBuffer s.dcd.setupPacket).bRequest ≠ 0x5 ∧ IsConfigRequest s.events.setup

instance (s : Master) : Decidable s.Walks := inferInstanceAs (Decidable (_ ∧ _))

/-- The endpoint descriptors in the response that was completed. -/
def Master.described (s : Master) : List Registration :=
  describedEndpoints s.aggregator.bugger s.aggregator.len.toNat s.aggregator.len.toNat 0 none

/-- The message completes the response to a setup packet. -/
def CompletesResponse (msg : SpiMessage) : Prop :=
  hasFlag msg.eFlag MsgType.setupData ∧ hasFlag msg.eFlag MsgType.lastPacket

instance (msg : SpiMessage) : Decidable (CompletesResponse msg) :=
  inferInstanceAs (Decidable (_ ∧ _))

/-- The response that a message completes. -/
def Master.sighted (s : Master) (msg : SpiMessage) : List Sighting :=
  if CompletesResponse msg then
    let t := s.withResponse (handlerPacket msg)
    [.response t.events.setup t.Walks t.described]
  else []

/-- What a step of the master shows. -/
def sightings (m : Core0) : Event → List Sighting
  | .dcdIrq => if m.busReset then [.busReset] else []
  | .handleSpiSlaveEvent => m.master.nextMessage.elim [] m.master.sighted
  | _ => []

/-- What a run of the master shows. -/
def seen (romWord : BitVec 32) (events : List Event) : List Sighting :=
  Machine.observed step sightings (.init romWord) events

/-- The endpoint descriptors of a configuration. A request for a configuration has its descriptor
type, 2, in the high byte of `wValue`. -/
def Sighting.declared : Sighting → List Registration
  | .response setup _ endpoints => if setup.wValue >>> 8 = 0x2 then endpoints else []
  | .busReset => []

/-- The endpoint descriptors of a response that is walked. -/
def Sighting.walked : Sighting → List Registration
  | .response _ walked endpoints => if walked then endpoints else []
  | .busReset => []

/-- In a configuration completed since the last bus reset the endpoint descriptor of `epAddr` lies
under a keyboard interface. -/
def DeclaredKeyboard (shown : List Sighting) (epAddr : UInt8) : Prop :=
  ∃ entry ∈ (shown.rtakeWhile (· ≠ .busReset)).flatMap Sighting.declared,
    entry.epAddr = epAddr ∧ IsKeyboard entry.itf

instance (shown : List Sighting) (epAddr : UInt8) : Decidable (DeclaredKeyboard shown epAddr) :=
  inferInstanceAs (Decidable (∃ _ ∈ _, _))

/-- The last endpoint descriptor for the slot of `epAddr`, among those of the responses walked,
lies under a keyboard interface. -/
def KeyboardWalkedLast (shown : List Sighting) (epAddr : UInt8) : Prop :=
  ∃ entry ∈ lastIn (slotOf epAddr) (shown.flatMap Sighting.walked), IsKeyboard entry.itf

instance (shown : List Sighting) (epAddr : UInt8) : Decidable (KeyboardWalkedLast shown epAddr) :=
  inferInstanceAs (Decidable (∃ _ ∈ _, _))

/-! ## The responses that are walked get into the log -/

/-- The endpoint descriptors that a message has the walk come to. -/
theorem sighted_walked (s : Master) (msg : SpiMessage) :
    (s.sighted msg).flatMap Sighting.walked =
      if CompletesResponse msg ∧ (s.withResponse (handlerPacket msg)).Walks then
        (s.withResponse (handlerPacket msg)).described
      else [] := by
  unfold Master.sighted
  by_cases hcompletes : CompletesResponse msg
  · by_cases hwalks : (s.withResponse (handlerPacket msg)).Walks
    · simp [hcompletes, hwalks, Sighting.walked]
    · simp [hcompletes, hwalks, Sighting.walked]
  · simp [hcompletes]

/-- The last reply to a setup packet registers the endpoint descriptors of the response that it
completes, when that response is walked. Every other reply registers nothing. -/
theorem handleSetupData_registers {message : SlavePacket} {s t : Master}
    (h : handleSetupData message s = .ok () t) :
    registrations t.calls = registrations s.calls ++
      if hasFlag message.eFlag MsgType.lastPacket ∧ (s.withResponse message).Walks then
        (s.withResponse message).described
      else [] := by
  obtain ⟨_, first, hregister, hrest⟩ := Program.bind_eq_ok h
  have hfirst : registrations first.calls = registrations s.calls :=
    ((registerResponse_same_tables _).ok hregister).all
  have hsame : first.setupPackets = s.setupPackets :=
    (registerResponse_same_setupPackets _).ok hregister
  by_cases hlast : hasFlag message.eFlag MsgType.lastPacket
  · rw [Program.when_true hlast] at hrest
    obtain ⟨_, second, hresponse, hstatus⟩ := Program.bind_eq_ok hrest
    have hsecond : registrations t.calls = registrations second.calls := by
      have hquiet : Program.Moves SameTables (do
          Program.update fun s : Master =>
            { s with events := { s.events with setupResponseDir := .writingResponse } }
          let s ← Program.read
          Program.when (s.events.setup.direction = 1) (onDcd (dcdEdptXferNew 0x00 .null 0))) := by
        refine .bind (update_same_tables fun _ => ⟨rfl, rfl, rfl, rfl, fun _ _ => rfl⟩) fun _ => ?_
        refine .bind .read fun _ => .when ?_
        exact same_tables_of_only_transfers (dcdEdptXferNew_only_transfers _ _ _)
      exact (hquiet.ok hstatus).all
    obtain ⟨d, rfl⟩ := registerResponse_eq_ok hregister
    -- Passing the bytes on to the host leaves the packet in the DPRAM alone.
    have hpacket : d.setupPacket = s.dcd.setupPacket := congrArg Prod.snd hsame
    have hregistered := (handleSetupResponse_registers hresponse).1
    dsimp only at hregistered
    rw [hpacket, hfirst] at hregistered
    rw [hsecond, hregistered]
    simp only [hlast, true_and]
    rfl
  · rw [Program.when_false hlast] at hrest
    cases hrest
    rw [hfirst, if_neg fun h => hlast h.1, List.append_nil]

theorem handleMessage_registers {msg : SpiMessage} {s t : Master}
    (h : handleMessage msg s = .ok () t) :
    registrations t.calls =
      registrations s.calls ++ (s.sighted msg).flatMap Sighting.walked := by
  unfold handleMessage at h
  cases hpayload : msg.payload.getLast? with
  | none =>
      rw [hpayload] at h
      cases h
  | some epAddr =>
      rw [hpayload] at h
      obtain ⟨_, _, hassert, hrest⟩ := Program.bind_eq_ok h
      obtain ⟨-, rfl⟩ := Program.require_eq_ok hassert
      by_cases hsetup : hasFlag msg.eFlag MsgType.setupData
      · rw [if_pos hsetup] at hrest
        rw [sighted_walked, handleSetupData_registers hrest]
        simp only [CompletesResponse, hsetup, true_and]
        rfl
      · rw [if_neg hsetup] at hrest
        have hsame := (same_tables_of_only_transfers
          (handleSpiSlaveEventWithDriver_only_transfers _ _)).ok hrest
        rw [hsame.all, sighted_walked, if_neg fun h => hsetup h.1.1, List.append_nil]

theorem handleSpiSlaveEvent_registers {s t : Master} (h : handleSpiSlaveEvent s = .ok () t) :
    registrations t.calls = registrations s.calls ++
      (s.nextMessage.elim [] s.sighted).flatMap Sighting.walked := by
  rcases handleSpiSlaveEvent_cases s with ⟨hnext, hpassed | hidle⟩ | ⟨msg, rest, hnext, -, hhandles⟩
  · cases hpassed.symm.trans h
    rw [hnext]
    exact (List.append_nil _).symm
  · cases hidle.symm.trans h
    rw [hnext]
    exact (List.append_nil _).symm
  · have hregistered := handleMessage_registers (hhandles.symm.trans h)
    rw [hnext]
    exact hregistered

/-- A bus reset, a SETUP packet and completed buffers register nothing. -/
theorem dcdRp2040Irq_registers (ints : DcdInts) :
    Program.Moves (Program.Same fun s : Master => registrations s.calls) (dcdRp2040Irq ints) := by
  refine .bind (.when (Program.Moves.update fun s => ?_)) fun _ => ?_
  · exact (registrations_append _ _).trans (List.append_nil _)
  · refine Program.Moves.mono (R := SameTables) ?_ fun s t h => h.all
    refine .bind (.when handleSetupReq_same_tables) fun _ => .when ?_
    exact same_tables_of_only_transfers hwHandleBuffStatus_only_transfers

/-- The log of registrations grows by what a step shows of responses that are walked. -/
theorem step_registers {m n : Core0} {event : Event} (hstep : step m event = some n) :
    registrations n.master.calls =
      registrations m.master.calls ++ (sightings m event).flatMap Sighting.walked := by
  cases event with
  | hostSetup packet =>
      cases hstep
      exact (List.append_nil _).symm
  | hostReset =>
      cases hstep
      exact (List.append_nil _).symm
  | hostIn num =>
      obtain ⟨d, -, rfl⟩ := Option.map_eq_some_iff.mp hstep
      exact (List.append_nil _).symm
  | hostOut num packet =>
      obtain ⟨d, -, rfl⟩ := Option.map_eq_some_iff.mp hstep
      exact (List.append_nil _).symm
  | receive message =>
      obtain ⟨rx, -, rfl⟩ := Option.map_eq_some_iff.mp hstep
      exact (List.append_nil _).symm
  | handleSpiSlaveEvent =>
      obtain ⟨t, hrun, rfl⟩ := runHandler_eq_some hstep
      exact handleSpiSlaveEvent_registers hrun
  | dcdIrq =>
      obtain ⟨t, hrun, rfl⟩ := runHandler_eq_some hstep
      have hsame := (dcdRp2040Irq_registers _).ok hrun
      have hnone : (sightings m .dcdIrq).flatMap Sighting.walked = [] := by
        show List.flatMap Sighting.walked (if m.busReset then [.busReset] else []) = []
        split <;> rfl
      rw [hnone, List.append_nil]
      exact hsame

/-- In every reachable state the log of registrations holds the endpoint descriptors of the
responses walked. -/
theorem Reaches.registrations_eq {romWord : BitVec 32} {events : List Event} {m : Core0}
    (h : Reaches romWord events m) :
    registrations m.master.calls = (seen romWord events).flatMap Sighting.walked := by
  refine Machine.run_observed
    (I := fun notes m => registrations m.master.calls = notes.flatMap Sighting.walked) ?_ rfl h
  intro notes m event n hnotes hstep
  rw [step_registers hstep, hnotes, List.flatMap_append]

/-! ## The ban -/

/-- Every message from the slave for `epAddr` stops the master with the text of the ban, before
anything is done with the message. -/
def Banned (s : Master) (epAddr : UInt8) : Prop :=
  ∀ message, handleSpiSlaveEventWithDriver message epAddr s = .error keyboardBanned s

theorem handleSpiSlaveEventWithDriver_keyboard {s : Master} {epAddr : UInt8}
    (hslot : slotOf epAddr < driverSlots) (hkeyboard : IsKeyboard (s.drivers.itfCopy (slotOf epAddr)))
    (message : SlavePacket) :
    handleSpiSlaveEventWithDriver message epAddr s = .error keyboardBanned s := by
  unfold handleSpiSlaveEventWithDriver checkComm defined
  unfold slotOf at hslot hkeyboard
  simp only [Program.read_bind]
  rw [Program.require_true hslot, Program.when_true hkeyboard]
  rfl

/-- A message for any other registered endpoint is handed to a driver. -/
theorem handleSpiSlaveEventWithDriver_driver {s : Master} {epAddr : UInt8}
    (hslot : slotOf epAddr < driverSlots)
    (hkeyboard : ¬ IsKeyboard (s.drivers.itfCopy (slotOf epAddr)))
    (hdriver : s.drivers.edptDriver (slotOf epAddr) ≠ .illegal) (message : SlavePacket) :
    ∃ call : Call, call.IsTransfer ∧ s.calls ++ [call] <+:
      (Program.final (handleSpiSlaveEventWithDriver message epAddr s)).calls := by
  unfold handleSpiSlaveEventWithDriver checkComm defined
  unfold slotOf at hslot hkeyboard hdriver
  simp only [Program.read_bind]
  rw [Program.require_true hslot, Program.when_false hkeyboard]
  simp only [Program.pure_bind]
  cases hkind : s.drivers.edptDriver (idx epAddr).toNat with
  | illegal => exact absurd hkind hdriver
  | massStorage =>
      exact ⟨.mscSpi epAddr, .mscSpi epAddr, (mscSpi_after_call message epAddr s).calls_extended⟩
  | hid =>
      exact ⟨.hidSpi epAddr, .hidSpi epAddr, (hidSpi_after_call message epAddr s).calls_extended⟩

/-- A message for an endpoint that was never registered stops the master with another text. -/
theorem handleSpiSlaveEventWithDriver_unregistered {s : Master} {epAddr : UInt8}
    (hslot : slotOf epAddr < driverSlots)
    (hkeyboard : ¬ IsKeyboard (s.drivers.itfCopy (slotOf epAddr)))
    (hdriver : s.drivers.edptDriver (slotOf epAddr) = .illegal) (message : SlavePacket) :
    handleSpiSlaveEventWithDriver message epAddr s =
      .error (.error "Unregistered edpt 0x%x") s := by
  unfold handleSpiSlaveEventWithDriver checkComm defined
  unfold slotOf at hslot hkeyboard hdriver
  simp only [Program.read_bind]
  rw [Program.require_true hslot, Program.when_false hkeyboard]
  simp only [Program.pure_bind, hdriver]
  rfl

/-- An endpoint is banned exactly when the interface copy in its slot is a keyboard. -/
theorem banned_iff_itfCopy {s : Master} {epAddr : UInt8} :
    Banned s epAddr ↔
      slotOf epAddr < driverSlots ∧ IsKeyboard (s.drivers.itfCopy (slotOf epAddr)) := by
  constructor
  · intro hbanned
    have hstops := hbanned ⟨0, [], 0⟩
    by_cases hslot : slotOf epAddr < driverSlots
    · refine ⟨hslot, ?_⟩
      by_contra hkeyboard
      by_cases hdriver : s.drivers.edptDriver (slotOf epAddr) = .illegal
      · rw [handleSpiSlaveEventWithDriver_unregistered hslot hkeyboard hdriver] at hstops
        injection hstops with htext
        revert htext
        decide
      · -- A driver that stops core 0 has been called before, and the call is in the log.
        obtain ⟨call, -, hcalls⟩ :=
          handleSpiSlaveEventWithDriver_driver hslot hkeyboard hdriver ⟨0, [], 0⟩
        rw [hstops] at hcalls
        have hlength : (s.calls ++ [call]).length ≤ s.calls.length := hcalls.length_le
        rw [List.length_append, List.length_singleton] at hlength
        omega
    · unfold handleSpiSlaveEventWithDriver defined at hstops
      unfold slotOf at hslot
      rw [Program.read_bind, Program.require_false hslot] at hstops
      cases hstops
  · rintro ⟨hslot, hkeyboard⟩ message
    exact handleSpiSlaveEventWithDriver_keyboard hslot hkeyboard message

/-- In a reachable state an endpoint is banned exactly when its slot was last walked over under a
keyboard interface. -/
theorem banned_iff_walkedLast {romWord : BitVec 32} {events : List Event} {m : Core0}
    {epAddr : UInt8} (hreach : Reaches romWord events m) :
    Banned m.master epAddr ↔ KeyboardWalkedLast (seen romWord events) epAddr := by
  have htables := hreach.tablesLogged
  -- The interface copy is that of the last registration, and what is registered is what is walked.
  rw [banned_iff_itfCopy, htables.itfCopy, KeyboardWalkedLast, ← hreach.registrations_eq]
  cases hlast : lastIn (slotOf epAddr) (registrations m.master.calls) with
  | none =>
      constructor
      · rintro ⟨-, hkeyboard, -⟩
        revert hkeyboard
        decide
      · rintro ⟨entry, hentry, -⟩
        cases hentry
  | some entry =>
      obtain ⟨hmem, hsame⟩ := lastIn_slot hlast
      have hslot : slotOf epAddr < driverSlots := hsame ▸ (htables.inTable entry hmem).1
      constructor
      · rintro ⟨-, hkeyboard⟩
        exact ⟨entry, rfl, hkeyboard⟩
      · rintro ⟨other, hother, hkeyboard⟩
        cases hother
        exact ⟨hslot, hkeyboard⟩

/-- A keyboard that was declared since the last bus reset is banned in a reachable state exactly
when the last endpoint descriptor for its slot, among those of the responses walked, lies under a
keyboard interface. -/
theorem declaredKeyboard_banned_iff {romWord : BitVec 32} {events : List Event} {m : Core0}
    {epAddr : UInt8} (hreach : Reaches romWord events m) :
    DeclaredKeyboard (seen romWord events) epAddr →
      (Banned m.master epAddr ↔ KeyboardWalkedLast (seen romWord events) epAddr) :=
  fun _ => banned_iff_walkedLast hreach

/-- A configuration of one keyboard with endpoint 0x81. -/
def keyboardConfiguration : List UInt8 :=
  [9, 2, 25, 0, 1, 1, 0, 0x80, 50, 9, 4, 0, 0, 1, 3, 1, 1, 0, 7, 5, 0x81, 3, 8, 0, 10]

/-- A keyboard and a storage interface that both describe endpoint 0x81. -/
def shadowedConfiguration : List UInt8 :=
  [9, 2, 41, 0, 2, 1, 0, 0x80, 50, 9, 4, 0, 0, 1, 3, 1, 1, 0, 7, 5, 0x81, 3, 8, 0, 10,
    9, 4, 1, 0, 1, 8, 6, 0x50, 0, 7, 5, 0x81, 2, 64, 0, 0]

/-- The host fetches the configuration of the keyboard, resets the bus and fetches it again. -/
def fetchKeyboardTwice : List Event :=
  fetchConfiguration keyboardConfiguration (by decide) ++ [.hostReset, .dcdIrq] ++
    fetchConfiguration keyboardConfiguration (by decide)

theorem fetchKeyboardTwice_banned :
    ∃ m, Reaches 0 fetchKeyboardTwice m ∧ Banned m.master 0x81 := by
  have hrun : ∃ m, Reaches 0 fetchKeyboardTwice m ∧ True := exists_reaches_of_any (by decide +kernel)
  obtain ⟨m, hreach, -⟩ := hrun
  have hdeclared : DeclaredKeyboard (seen 0 fetchKeyboardTwice) 0x81 := by decide +kernel
  have hlast : KeyboardWalkedLast (seen 0 fetchKeyboardTwice) 0x81 := by decide +kernel
  exact ⟨m, hreach, (declaredKeyboard_banned_iff hreach hdeclared).mpr hlast⟩

/-- A key press in a packet from endpoint 0x81. -/
def keyPress : SlavePacket := ⟨MsgType.isPacket, [0, 0, 4, 0, 0, 0, 0, 0, 0x81], 8⟩

/-- After the shadowed configuration a packet of the declared keyboard reaches a driver. -/
theorem shadowedConfiguration_not_banned :
    ¬ ∀ romWord events m epAddr, Reaches romWord events m →
      DeclaredKeyboard (seen romWord events) epAddr → Banned m.master epAddr := by
  intro hclaim
  have hrun : ∃ m, Reaches 0 (fetchConfiguration shadowedConfiguration (by decide)) m ∧
      Call.mscSpi 0x81 ∉ m.master.calls ∧
      Call.mscSpi 0x81 ∈
        (Program.final (handleSpiSlaveEventWithDriver keyPress 0x81 m.master)).calls :=
    exists_reaches_of_any (by decide +kernel)
  obtain ⟨m, hreach, hnever, hhanded⟩ := hrun
  rw [hclaim 0 _ m 0x81 hreach (by decide +kernel), Program.final_error] at hhanded
  exact hnever hhanded

end UsbSec.Device
