import UsbSec.Device.Allocation
import UsbSec.Device.Announced
import UsbSec.Device.BufferPass

/-!
# The interrupt handler branch by branch

`dcd_rp2040_irq_new` reads its causes once and goes through its branches one after the other. The
controller works on meanwhile, so a SETUP packet can overwrite the one in the DPRAM between two
branches. `takeBranch` takes the branches one at a time, with anything outside the handler in between; an
interrupt that is handled without a break is a run of branches. `run_packets` says which SETUP packet
lies in the DPRAM and which one is saved after any run.
-/

namespace UsbSec.Device

open Library Usb Rp2040

/-! ## Turns -/

/-- A branch of the interrupt handler, or something else that happens on the master. -/
inductive Branch where
  | outside (event : Event)
  | busReset
  | setupReq
  | buffStatusBit (i : Nat)

/-- Take a branch, when its cause is pending. -/
def takeBranch (m : Core0) : Branch → Option Core0
  | .outside .dcdIrq => none
  | .outside event => step m event
  | .busReset =>
      if m.busReset then runHandler handleBusReset { m with busReset := false } else none
  | .setupReq =>
      if m.setupReq then runHandler handleSetupReq { m with setupReq := false } else none
  | .buffStatusBit i =>
      if m.master.dcd.bufStatus.getLsbD i then runHandler (hwHandleBuffStatusBit i) m else none

theorem runHandler_ok {handler : MasterM Unit} {m : Core0} {master : Master}
    (h : handler m.master = .ok () master) : runHandler handler m = some { m with master := master } := by
  unfold runHandler
  rw [h]

/-- Completed buffers are handled in one branch each. -/
theorem handleBuffers_branches {bits : List Nat} (hnodup : bits.Nodup) {m : Core0} {s : Master}
    (hset : ∀ i ∈ bits, m.master.dcd.bufStatus.getLsbD i = true)
    (hrun : handleBuffers bits m.master = .ok () s) :
    Machine.run takeBranch m (bits.map .buffStatusBit) = some { m with master := s } := by
  induction bits generalizing m with
  | nil =>
      cases hrun
      rfl
  | cons i rest ih =>
      obtain ⟨hfresh, hrestNodup⟩ := List.nodup_cons.mp hnodup
      rw [handleBuffers_cons] at hrun
      obtain ⟨_, first, hfirst, hrest⟩ := Program.bind_eq_ok hrun
      have htaken : takeBranch m (.buffStatusBit i) = some { m with master := first } := by
        show (if _ then _ else _) = _
        rw [if_pos (hset i List.mem_cons_self), runHandler_ok hfirst]
      rw [List.map_cons, Machine.run_cons, htaken]
      refine ih hrestNodup (fun j hj => ?_) hrest
      have hstatus : first.dcd.bufStatus = m.master.dcd.bufStatus &&& ~~~bufStatusBit i :=
        (hwHandleBuffStatusBit_clears i).ok hfirst
      have hne : j ≠ i := fun heq => hfresh (heq ▸ hj)
      show first.dcd.bufStatus.getLsbD j = true
      rw [hstatus, getLsbD_cleared, hset j (List.mem_cons_of_mem _ hj), decide_eq_true hne]
      rfl

theorem handledBits_nodup (word : BitVec 32) : (handledBits word).Nodup := by
  unfold handledBits
  split
  · exact (completedBits_nodup word).filter _
  · exact completedBits_nodup word

theorem handledBits_set {word : BitVec 32} {i : Nat} (h : i ∈ handledBits word) :
    word.getLsbD i = true := by
  unfold handledBits at h
  split at h
  · exact mem_completedBits.mp (List.mem_filter.mp h).1
  · exact mem_completedBits.mp h

/-- The reset branch is a run of at most one branch. -/
theorem busReset_branches {m : Core0} {s : Master}
    (h : Program.when (m.busReset = true) handleBusReset m.master = .ok () s) :
    ∃ branches, Machine.run takeBranch m branches = some { m with busReset := false, master := s } := by
  by_cases hpending : m.busReset = true
  · rw [Program.when_true hpending] at h
    refine ⟨[.busReset], ?_⟩
    rw [Machine.run_cons, takeBranch, if_pos hpending,
      runHandler_ok (m := { m with busReset := false }) h]
    rfl
  · rw [Program.when_false hpending] at h
    cases h
    refine ⟨[], congrArg some ?_⟩
    rw [← Bool.eq_false_iff.mpr hpending]

/-- The setup branch is a run of at most one branch. -/
theorem setupReq_branches {m : Core0} {s : Master}
    (h : Program.when (m.setupReq = true) handleSetupReq m.master = .ok () s) :
    ∃ branches, Machine.run takeBranch m branches = some { m with setupReq := false, master := s } := by
  by_cases hpending : m.setupReq = true
  · rw [Program.when_true hpending] at h
    refine ⟨[.setupReq], ?_⟩
    rw [Machine.run_cons, takeBranch, if_pos hpending,
      runHandler_ok (m := { m with setupReq := false }) h]
    rfl
  · rw [Program.when_false hpending] at h
    cases h
    refine ⟨[], congrArg some ?_⟩
    rw [← Bool.eq_false_iff.mpr hpending]

/-- An interrupt that is handled without a break is a run of branches. -/
theorem irq_branches {m n : Core0} (h : step m .dcdIrq = some n) :
    ∃ branches, Machine.run takeBranch m branches = some n := by
  obtain ⟨t, hrun, rfl⟩ := runHandler_eq_some h
  obtain ⟨_, first, hreset, hrun⟩ := Program.bind_eq_ok hrun
  obtain ⟨_, second, hsetup, hbuffers⟩ := Program.bind_eq_ok hrun
  let resetDone : Core0 := { m with busReset := false, master := first }
  let setupDone : Core0 := { resetDone with setupReq := false, master := second }
  obtain ⟨resetBranches, hresetBranches⟩ := busReset_branches (m := m) hreset
  obtain ⟨setupBranches, hsetupBranches⟩ := setupReq_branches (m := resetDone) hsetup
  have hbufferBranches : ∃ branches, Machine.run takeBranch setupDone branches =
      some { setupDone with master := t } := by
    by_cases hpending : m.ints.buffStatus = true
    · rw [Program.when_true hpending, hwHandleBuffStatus_apply] at hbuffers
      exact ⟨_, handleBuffers_branches (m := setupDone) (handledBits_nodup _)
        (fun _ => handledBits_set) hbuffers⟩
    · rw [Program.when_false hpending] at hbuffers
      cases hbuffers
      exact ⟨[], rfl⟩
  obtain ⟨bufferBranches, hbufferBranches⟩ := hbufferBranches
  refine ⟨resetBranches ++ (setupBranches ++ bufferBranches), ?_⟩
  rw [Machine.run_append, hresetBranches, Option.bind_some, Machine.run_append, hsetupBranches,
    Option.bind_some, hbufferBranches]

/-! ## The SETUP packets -/

/-- The setup packet that lies in the DPRAM. -/
def Master.livePacket (s : Master) : ControlRequest := .ofBuffer s.dcd.setupPacket

/-- The message with which a setup packet is passed on. -/
def forwardMessage (setup : ControlRequest) : SpiMessage where
  eFlag := MsgType.setupData ||| MsgType.debugPrintAsHex
  payload := setup.toBytes
  payload_lt := setup.toBytes_lt

/-- What `dcd_event_setup_received_new` does with a packet that it has kept. -/
def answerSetup (setup : ControlRequest) : MasterM Unit :=
  if IsSetAddress setup then enqueueSpiMessage (.bare MsgType.chgAddr)
  else if IsDeviceQualifier setup then onDcd (dcdEdptXferNew 0x80 .null 0)
  else if IsSetReport setup then onDcd (dcdEdptXferNew 0x00 .null 0)
  else enqueueSpiMessage (forwardMessage setup)

/-- The master that has kept the setup packet in the DPRAM and begins to answer it. -/
def Master.keepingSetup (s : Master) : Master :=
  { s with
    dcd := Program.final (resetEp0Pid s.dcd)
    events := { s.events with setup := s.livePacket }
    calls := s.calls ++ [.setupReceived s.livePacket] }

theorem handleSetupReq_apply (s : Master) :
    handleSetupReq s = answerSetup s.livePacket s.keepingSetup := rfl

theorem onDcd_same_setupPackets {α : Type} {program : DcdM α}
    (h : Program.Moves (Program.Same Dcd.setupPacket) program) :
    Program.Moves (Program.Same Master.setupPackets) (onDcd program) :=
  Program.Moves.onPart_of h fun s _ hsame => congrArg (Prod.mk s.events.setup) hsame

/-- What only transfers do is not done to the saved packet, and what leaves the allocation alone
leaves the packet in the DPRAM alone. -/
theorem same_setupPackets_of_transfers {α : Type} {program : MasterM α}
    (htransfers : Program.Moves OnlyTransfers program)
    (hallocation : Program.Moves SameAllocation program) :
    Program.Moves (Program.Same Master.setupPackets) program := by
  intro s
  have hevents := (htransfers s).events
  have hpacket : (Program.final (program s)).allocation.2 = s.allocation.2 :=
    congrArg Prod.snd (hallocation s)
  exact Prod.ext (congrArg DeviceEvents.setup hevents) hpacket

theorem dcdEdptOpenNew_same_setupPacket (desc : EndpointPointer) :
    Program.Moves (Program.Same Dcd.setupPacket) (dcdEdptOpenNew desc) := by
  have hset (num : Nat) (dirIn : Bool) (change : HwEndpoint → HwEndpoint) :
      Program.Moves (Program.Same Dcd.setupPacket) (withEndpoint num dirIn (setEp change)) :=
    Program.Moves.onPart fun _ _ => rfl
  refine .bind (.bind (.require _ _) fun _ => .pure _) fun place => .bind (hset _ _ _) fun _ => ?_
  refine .bind (.update fun _ => rfl) fun _ => .ite (hset _ _ _) (.bind (hset _ _ _) fun _ => ?_)
  refine .bind .read fun d => .bind (hset _ _ _) fun _ => .bind (.update fun _ => rfl) fun _ => ?_
  exact .bind (.require _ _) fun _ => .bind (.require _ _) fun _ => .update fun _ => rfl

theorem registerDriverForEdpt_same_setupPackets (edpt : EndpointPointer)
    (itf : Option InterfaceDescriptor) (newMps : UInt8) :
    Program.Moves (Program.Same Master.setupPackets) (registerDriverForEdpt edpt itf newMps) := by
  refine .bind (.update fun _ => rfl) fun _ => ?_
  cases itf with
  | none => exact .stop _
  | some descriptor =>
      refine .bind (.update fun _ => rfl) fun _ => .bind (.require _ _) fun _ => ?_
      refine .bind (.update fun _ => rfl) fun _ => .ite (.update fun _ => rfl) (.ite ?_ (.stop _))
      refine .bind (.update fun _ => rfl) fun _ => .ite ?_ (.update fun _ => rfl)
      exact onDcd_same_setupPackets (dcdEdptXferNew_same_setupPacket _ _ _)

theorem walk_same_setupPackets (arr : Buffer) (len fuel pos : Nat) (itf : Option Nat) :
    Program.Moves (Program.Same Master.setupPackets) (walk arr len fuel pos itf) := by
  induction fuel generalizing pos itf with
  | zero => exact .ite (.stop _) (.pure _)
  | succ fuel ih =>
      refine .ite (.bind (.when (.bind (.update fun _ => rfl) fun _ => ?_)) fun _ => ih _ _) (.pure _)
      refine .bind (onDcd_same_setupPackets (dcdEdptOpenNew_same_setupPacket _)) fun _ => ?_
      refine .bind .read fun s => .bind (registerDriverForEdpt_same_setupPackets _ _ _) fun _ => ?_
      exact .update fun _ => rfl

theorem handleSetupResponse_same_setupPackets :
    Program.Moves (Program.Same Master.setupPackets) handleSetupResponse := by
  refine .bind .read fun s => .bind (.update fun _ => rfl) fun _ => .bind (.when ?_) fun _ => ?_
  · exact .bind (.update fun _ => rfl) fun _ => .bind (.update fun _ => rfl) fun _ =>
      .update fun _ => rfl
  · refine .ite (.pure _) (.bind (.when (walk_same_setupPackets _ _ _ _ _)) fun _ => .when ?_)
    exact .bind .read fun s => .update fun _ => rfl

theorem handleSpiSlaveEvent_same_setupPackets :
    Program.Moves (Program.Same Master.setupPackets) handleSpiSlaveEvent := by
  refine .bind .read fun s => .ite ?_ ?_
  · exact .bind (.bind (.update fun _ => rfl) fun _ => .pure _) fun _ =>
      .when (.update fun _ => rfl)
  · dsimp only
    cases (s.rx.dropWhile isString).remove with
    | none => exact .update fun _ => rfl
    | some taken =>
        refine .bind (.update fun _ => rfl) fun _ => ?_
        unfold handleMessage
        cases taken.1.payload.getLast? with
        | none => exact .stop _
        | some epAddr =>
            refine .bind (.require _ _) fun _ => .ite ?_ ?_
            · refine .bind (registerResponse_same_setupPackets _) fun _ => .when ?_
              refine .bind handleSetupResponse_same_setupPackets fun _ => ?_
              refine .bind (.update fun _ => rfl) fun _ => .bind .read fun t => .when ?_
              exact onDcd_same_setupPackets (dcdEdptXferNew_same_setupPacket _ _ _)
            · exact same_setupPackets_of_transfers
                (handleSpiSlaveEventWithDriver_only_transfers _ _)
                (handleSpiSlaveEventWithDriver_allocation _ _)

theorem hwHandleBuffStatusBit_same_setupPackets (i : Nat) :
    Program.Moves (Program.Same Master.setupPackets) (hwHandleBuffStatusBit i) :=
  same_setupPackets_of_transfers (hwHandleBuffStatusBit_only_transfers i)
    (hwHandleBuffStatusBit_allocation i)

theorem handleBusReset_same_setupPackets :
    Program.Moves (Program.Same Master.setupPackets) handleBusReset := by
  refine .bind (.update fun _ => rfl) fun _ => ?_
  refine .bind (onDcd_same_setupPackets (.update fun _ => rfl)) fun _ => ?_
  exact .bind (.update fun _ => rfl) fun _ => .update fun _ => rfl

/-- The SETUP packet in the DPRAM and the one that the event handlers have saved. -/
structure SetupPackets where
  live : ControlRequest
  saved : ControlRequest
  deriving DecidableEq

def Master.packets (s : Master) : SetupPackets := ⟨s.livePacket, s.events.setup⟩

/-- What a branch makes of the two packets: a SETUP packet from the host overwrites the one in the
DPRAM, and the setup branch saves it. -/
def SetupPackets.after (packets : SetupPackets) : Branch → SetupPackets
  | .outside (.hostSetup packet) => { packets with live := packet }
  | .setupReq => { packets with saved := packets.live }
  | _ => packets

theorem packets_of_same {s t : Master} (h : Program.Same Master.setupPackets s t) :
    t.packets = s.packets := by
  have hsaved : t.events.setup = s.events.setup := congrArg Prod.fst h
  have hlive : t.dcd.setupPacket = s.dcd.setupPacket := congrArg Prod.snd h
  unfold Master.packets Master.livePacket
  rw [hsaved, hlive]

theorem handleSetupReq_packets (s : Master) :
    (Program.final (handleSetupReq s)).packets = ⟨s.livePacket, s.livePacket⟩ := by
  have hrest : Program.Moves (Program.Same Master.setupPackets)
      (answerSetup s.livePacket) := by
    refine .ite (.update fun _ => rfl) (.ite ?_ (.ite ?_ (.update fun _ => rfl)))
    · exact onDcd_same_setupPackets (dcdEdptXferNew_same_setupPacket _ _ _)
    · exact onDcd_same_setupPackets (dcdEdptXferNew_same_setupPacket _ _ _)
  exact packets_of_same (hrest s.keepingSetup)

/-- Each branch makes of the packets what `SetupPackets.after` says. -/
theorem takeBranch_packets {m n : Core0} {next : Branch} (h : takeBranch m next = some n) :
    n.master.packets = m.master.packets.after next := by
  -- Apart from the setup branch no handler writes to either packet.
  have hhandler {handler : MasterM Unit} {start : Core0}
      (hsame : Program.Moves (Program.Same Master.setupPackets) handler)
      (hrun : runHandler handler start = some n) : n.master.packets = start.master.packets := by
    obtain ⟨t, hok, rfl⟩ := runHandler_eq_some hrun
    exact packets_of_same (hsame.ok hok)
  cases next with
  | outside event =>
      cases event with
      | hostSetup packet =>
          cases h
          exact congrArg (SetupPackets.mk · m.master.events.setup)
            (ControlRequest.ofBuffer_toBytes packet)
      | hostReset =>
          cases h
          rfl
      | hostIn num =>
          obtain ⟨d, hsend, rfl⟩ := Option.map_eq_some_iff.mp h
          have hpacket : d.setupPacket = _ := congrArg Prod.snd (sendIn_allocation hsend)
          exact congrArg (SetupPackets.mk · m.master.events.setup) (congrArg ControlRequest.ofBuffer
            hpacket)
      | hostOut num packet =>
          obtain ⟨d, hreceive, rfl⟩ := Option.map_eq_some_iff.mp h
          have hpacket : d.setupPacket = _ := congrArg Prod.snd (receiveOut_allocation hreceive)
          exact congrArg (SetupPackets.mk · m.master.events.setup) (congrArg ControlRequest.ofBuffer
            hpacket)
      | receive message =>
          obtain ⟨rx, -, rfl⟩ := Option.map_eq_some_iff.mp h
          rfl
      | handleSpiSlaveEvent => exact hhandler handleSpiSlaveEvent_same_setupPackets h
      | dcdIrq => cases h
  | busReset =>
      obtain ⟨-, hrun⟩ := Option.ite_none_right_eq_some.mp h
      have hpackets := hhandler handleBusReset_same_setupPackets hrun
      exact hpackets
  | setupReq =>
      obtain ⟨-, hrun⟩ := Option.ite_none_right_eq_some.mp h
      obtain ⟨t, hok, rfl⟩ := runHandler_eq_some hrun
      have hpackets := handleSetupReq_packets m.master
      rw [hok] at hpackets
      exact hpackets
  | buffStatusBit i =>
      obtain ⟨-, hrun⟩ := Option.ite_none_right_eq_some.mp h
      exact hhandler (hwHandleBuffStatusBit_same_setupPackets i) hrun

/-- The packets after a run are those that its branches make of the packets before. -/
theorem run_packets {branches : List Branch} {m n : Core0}
    (h : Machine.run takeBranch m branches = some n) :
    n.master.packets = branches.foldl SetupPackets.after m.master.packets := by
  induction branches generalizing m with
  | nil =>
      cases h
      rfl
  | cons next rest ih =>
      obtain ⟨middle, htaken, hrest⟩ := Machine.run_cons_eq_some.mp h
      rw [List.foldl_cons, ← takeBranch_packets htaken]
      exact ih hrest

end UsbSec.Device
