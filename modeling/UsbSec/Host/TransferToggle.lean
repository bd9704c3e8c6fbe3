import UsbSec.Host.ControlTransfer
import UsbSec.Host.Known
import UsbSec.Host.Packets
import UsbSec.Host.ReadToggle

/-!
# The data toggle of bulk and interrupt endpoints

When the host half arms a buffer it toggles the PID by the parity of the number of packets that it
predicts for the rest of the transfer. Nothing counts the packets that are exchanged. The PID is
right after a transfer of one packet for which an odd number was predicted, and after no other
transfer: with two packets or more, some packet is armed with the PID of the one before it, or the
PID is wrong at the end.
-/

namespace UsbSec.Host

open Library Usb Rp2040

/-! ## The next PID of an endpoint -/

/-- The next PID of every endpoint is one of the two. -/
def PidsOk (h : Hcd) : Prop := ∀ slot, PidOk (h.epPool slot).nextPid

instance : IsPreorder Hcd (Program.Keeps PidsOk) where
  refl _ := fun h => h
  trans _ _ _ h k := fun hok => k (h hok)

theorem onSlot_pidsOk {α : Type} (slot : Nat) {engine : Engine α}
    (hengine : Program.Moves KeepsPid engine) :
    Program.Moves (Program.Keeps PidsOk) (onSlot slot engine) := by
  refine Program.Moves.onPart_of hengine fun h c hkeeps hok other => ?_
  show PidOk (Function.update h.epPool slot c.ep other).nextPid
  by_cases hother : other = slot
  · rw [hother, Function.update_self]
    exact hkeeps (hok slot)
  · rw [Function.update_of_ne hother]
    exact hok other

theorem setEp_keepsPid {change : HwEndpoint → HwEndpoint}
    (hchange : ∀ ep, PidOk ep.nextPid → PidOk (change ep).nextPid) :
    Program.Moves KeepsPid (setEp change) := Program.Moves.update fun c => hchange c.ep

theorem initialised_pidOk (devAddr epAddr : UInt8) (wMaxPacketSize : UInt16) (transferType : UInt8)
    (ep : HwEndpoint) :
    PidOk (HwEndpoint.initialised devAddr epAddr wMaxPacketSize transferType ep).nextPid := by
  show PidOk (if tuEdptNumber epAddr = 0 then 1 else 0)
  split
  · exact .inr rfl
  · exact .inl rfl

theorem hostEndpointInit_pidsOk (slot : Nat) (devAddr epAddr : UInt8) (wMaxPacketSize : UInt16)
    (transferType bmInterval : UInt8) : Program.Moves (Program.Keeps PidsOk)
      (hostEndpointInit slot devAddr epAddr wMaxPacketSize transferType bmInterval) := by
  refine .bind .read fun h => .bind (.require _ _) fun _ => .bind (.require _ _) fun _ => ?_
  refine .bind (.require _ _) fun _ => .bind ?_ fun _ => .bind (.require _ _) fun _ => ?_
  · exact onSlot_pidsOk _ (setEp_keepsPid fun ep _ => initialised_pidOk _ _ _ _ ep)
  · refine .bind (.update fun _ hok => hok) fun _ => .bind ?_ fun _ => .when ?_
    · exact onSlot_pidsOk _ (setEp_keepsPid fun _ hok => hok)
    · exact .bind (.require _ _) fun _ => .bind .read fun _ => .bind (.require _ _) fun _ =>
        .update fun _ hok => hok

theorem nextFreeInterruptEp_pidsOk :
    Program.Moves (Program.Keeps PidsOk) nextFreeInterruptEp := by
  refine .bind .read fun h => ?_
  cases interruptSlots.find? fun i => !(h.epPool i).configured with
  | none => exact .pure _
  | some slot => exact .bind (onSlot_pidsOk _ (setEp_keepsPid fun _ hok => hok)) fun _ => .pure _

theorem hwEndpointAllocate_pidsOk (transferType epAddr : UInt8) :
    Program.Moves (Program.Keeps PidsOk) (hwEndpointAllocate transferType epAddr) := by
  refine .ite ?_ ?_
  · refine .bind nextFreeInterruptEp_pidsOk fun slot => .bind .read fun _ => ?_
    refine .bind (.require _ _) fun _ => .bind ?_ fun _ => .pure _
    exact onSlot_pidsOk _ (setEp_keepsPid fun _ hok => hok)
  · have hregisters (slot : Nat) : Program.Moves (Program.Keeps PidsOk)
        (onSlot slot (setEp HwEndpoint.onEpxRegisters)) :=
      onSlot_pidsOk _ (setEp_keepsPid fun _ hok => hok)
    dsimp only
    refine .ite (.bind (.pure _) fun slot => .bind (hregisters slot) fun _ => .pure _) ?_
    exact .bind nextFreeInterruptEp_pidsOk fun slot => .bind (hregisters slot) fun _ => .pure _

theorem pidsOk_rule : DriverRule (Program.Keeps PidsOk) where
  quiet _ _ hsame hok slot := by
    rw [hsame.epPool]
    exact hok slot
  engine slot _ _ hpid := onSlot_pidsOk slot hpid
  size size := by
    have hchange : Program.Moves KeepsPid (setEp fun ep =>
        { ep with wMaxPacketSize := size.toUInt16 }) := setEp_keepsPid fun _ hok => hok
    exact (onSlot_pidsOk epx hchange).ends
  setup devAddr packet := by
    refine Program.Moves.ends ?_
    refine .bind (.update fun _ hok => hok) fun _ => .bind (hwEndpointAllocate_pidsOk _ _) fun _ => ?_
    refine .bind .read fun _ => .bind (hostEndpointInit_pidsOk _ _ _ _ _ _) fun _ => ?_
    refine .bind (.update fun _ hok => hok) fun _ => .bind ?_ fun _ => .update fun _ hok => hok
    exact onSlot_pidsOk _ (setEp_keepsPid fun _ hok => hok)
  turn devAddr epAddr h k hrun := (hostEndpointInit_pidsOk _ _ _ _ _ _).ok hrun
  opened desc devAddr :=
    (Program.Moves.bind (hwEndpointAllocate_pidsOk _ _) fun _ =>
      hostEndpointInit_pidsOk _ _ _ _ _ _).ends

theorem pidsOk_of_run {romWord : BitVec 32} {events : List Event} {m : Core0}
    (hrun : Machine.run step (.init romWord) events = some m) (hrunning : m.halted = none) :
    PidsOk m.slave.hcd := running_invariant pidsOk_rule (fun _ => .inl rfl) hrun hrunning

/-! ## The engine on a completed buffer -/

/-- What taking a buffer in leaves alone: the PID and the registers. -/
structure SamePid (c d : Channel) : Prop where
  nextPid : d.ep.nextPid = c.ep.nextPid
  whole : d.ep.isPartial = c.ep.isPartial
  active : c.ep.active = true → d.ep.active = true
  word : d.memory.word = c.memory.word

instance : IsPreorder Channel SamePid where
  refl _ := ⟨rfl, rfl, id, rfl⟩
  trans _ _ _ h k := ⟨k.nextPid.trans h.nextPid, k.whole.trans h.whole, k.active ∘ h.active,
    k.word.trans h.word⟩

theorem setEp_samePid {change : HwEndpoint → HwEndpoint}
    (hpid : ∀ ep, (change ep).nextPid = ep.nextPid ∧ (change ep).isPartial = ep.isPartial)
    (hactive : ∀ ep, ep.active = true → (change ep).active = true) :
    Program.Moves SamePid (setEp change) :=
  Program.Moves.update fun c => ⟨(hpid c.ep).1, (hpid c.ep).2, hactive c.ep, rfl⟩

theorem writeUser_samePid (buffer : UserBuf) (bytes : List UInt8) :
    Program.Moves SamePid (writeUser .slave buffer bytes) := by
  cases buffer with
  | null => exact .require _ _
  | bugger offset => exact .bind (.require _ _) fun _ => .update fun _ => ⟨rfl, rfl, id, rfl⟩
  | reserveBugger offset =>
      exact .bind (.require _ _) fun _ => .update fun _ => ⟨rfl, rfl, id, rfl⟩
  | object offset => exact .bind (.require _ _) fun _ => .update fun _ => ⟨rfl, rfl, id, rfl⟩
  | payload _ _ => exact .require _ _

theorem syncEpBuffer_samePid : Program.Moves SamePid (syncEpBuffer .slave) := by
  have hcount (count : UInt16) : Program.Moves SamePid (setEp fun ep : HwEndpoint =>
      { ep with xferredLen := ep.xferredLen + count }) :=
    setEp_samePid (fun _ => ⟨rfl, rfl⟩) fun _ => id
  refine .bind .read fun c => .bind (.ite ?_ ?_) fun _ => ?_
  · exact .bind (.require _ _) fun _ => hcount _
  · refine .bind (.when (.stop _)) fun _ => .bind .read fun d => ?_
    refine .bind (.when (setEp_samePid (fun _ => ⟨rfl, rfl⟩) fun _ _ => rfl)) fun _ => ?_
    refine .bind .read fun e => .bind (readData_moves _ _) fun bytes => ?_
    refine .bind (writeUser_samePid _ _) fun _ => .bind (hcount _) fun _ => .when ?_
    exact setEp_samePid (fun _ => ⟨rfl, rfl⟩) fun _ => id
  · exact .bind .read fun d => .when (setEp_samePid (fun _ => ⟨rfl, rfl⟩) fun _ => id)

/-- The engine takes the buffer in; the transfer is complete, or the next buffer is armed. -/
theorem hwEndpointXferContinue_taken {c : Channel} (hwhole : c.ep.isPartial = false) :
    Program.Outcome (hwEndpointXferContinue .slave) c
      (fun done d => ∃ e, Counted c e ∧ SamePid c e ∧ (done = true ↔ e.ep.remainingLen = 0) ∧
        d = if done then e else { ep := nextEp .slave e.ep, memory := nextMemory .slave e })
      fun _ => True := by
  have hsync : Program.Outcome (syncEpBuffer .slave) c (fun _ e => Counted c e ∧ SamePid c e)
      fun _ => True :=
    (syncEpBuffer_counts c).and_moves syncEpBuffer_samePid fun _ _ _ => trivial
  refine .read_bind (.ite (fun hpart => ?_) fun _ => ?_)
  · exact absurd (hwhole.symm.trans hpart) (by decide)
  refine .bind hsync fun _ e he => .read_bind (.ite (fun _ => .stop trivial) fun _ => ?_)
  refine .ite (fun hzero => .pure ⟨e, he.1, he.2, ?_, rfl⟩) fun hmore => ?_
  · exact iff_of_true rfl hzero
  · refine .bind ((startNextBufferSlave_outcome e).mono (fun _ _ h => h) fun _ _ => trivial) ?_
    intro _ d hd
    refine .pure ⟨e, he.1, he.2, ?_, hd.2⟩
    exact iff_of_false Bool.false_ne_true hmore

/-! ## The handler -/

/-- The state of a slot after its buffer was handled: `e` is the channel after the buffer was taken
in. -/
def afterBuffer (done : Bool) (e : Channel) : Channel :=
  if done then e else { ep := nextEp .slave e.ep, memory := nextMemory .slave e }

/-- What handling a completed buffer has done when it ends. -/
theorem handleBuffStatusBit_taken {bit : BitVec 32} {slot : Nat} {s t : Slave}
    (hother : ¬ IsControl (s.hcd.epPool slot).epAddr)
    (hwhole : (s.hcd.epPool slot).isPartial = false)
    (hrun : handleBuffStatusBit bit slot s = .ok () t) :
    ∃ done e message bugger, Counted (slotChannel slot s.hcd) e ∧
      SamePid (slotChannel slot s.hcd) e ∧ (done = true ↔ e.ep.remainingLen = 0) ∧
      t = withReply (completed slot (if done then .success else .more)
        (slotHandled bit slot (afterBuffer done e) s)) bugger message := by
  unfold handleBuffStatusBit at hrun
  rw [Program.update_bind] at hrun
  obtain ⟨done, middle, hcontinue, hcomplete⟩ := Program.bind_eq_ok hrun
  obtain ⟨hcd, hslot, rfl⟩ := Program.onPart_eq_ok hcontinue
  obtain ⟨d, hengine, rfl⟩ := Program.onPart_eq_ok hslot
  obtain ⟨e, hcounted, hsame, hdone, rfl⟩ := (hwEndpointXferContinue_taken hwhole).ok hengine
  have hfixed : (afterBuffer done e).ep.fixed = (s.hcd.epPool slot).fixed := by
    unfold afterBuffer
    cases done <;> exact hcounted.fixed
  have haddress : ((slotHandled bit slot (afterBuffer done e) s).hcd.epPool slot).epAddr =
      (s.hcd.epPool slot).epAddr := by
    rw [show (slotHandled bit slot (afterBuffer done e) s).hcd.epPool slot =
      (afterBuffer done e).ep from storeSlot_same _ _ _]
    exact eq_of_fixed (fun _ => rfl) hfixed
  have hresult : (if done then XferResult.success else .more) = .success ∨
      (if done then XferResult.success else .more) = .more := by
    cases done
    · exact .inr rfl
    · exact .inl rfl
  change hwXferComplete slot (if done then .success else .more)
    (slotHandled bit slot (afterBuffer done e) s) = .ok () t at hcomplete
  rw [hwXferComplete_data (by rw [haddress]; exact hother) hresult] at hcomplete
  obtain ⟨message, bugger, -, rfl⟩ := (sendEventToMaster_outcome _ _ _ _).ok hcomplete
  exact ⟨done, e, message, bugger, hcounted, hsame, hdone, rfl⟩

/-! ## A transfer -/

section Transfer

variable {slot buffer control data : Nat} {bit : BitVec 32} {epAddr pid : UInt8}
  {size remaining : UInt16} {c next : Core0}
  {hcd : Hcd}

/-- The buffer is armed with `pid` while `remaining` bytes remain. -/
structure InTransfer (slot : Nat) (bit : BitVec 32) (buffer control data : Nat) (epAddr : UInt8)
    (size : UInt16) (pid : UInt8) (remaining : UInt16) (c : Core0) : Prop where
  rest : AtRest c
  path : Path c.slave.hcd slot bit buffer control data
  control : PointsTo (c.slave.hcd.memory.word control) data
  noSetup : hasBits c.slave.hcd.sieCtrl sieCtrlSendSetup = false
  epAddr : (c.slave.hcd.epPool slot).epAddr = epAddr
  whole : (c.slave.hcd.epPool slot).isPartial = false
  active : (c.slave.hcd.epPool slot).active = true
  small : remaining.toNat ≤ 1000
  remainingLen : (c.slave.hcd.epPool slot).remainingLen = remaining - tuMin16 remaining size
  nextPid : (c.slave.hcd.epPool slot).nextPid = toggled (predicted size remaining) pid
  size : (c.slave.hcd.epPool slot).wMaxPacketSize = size
  word : hasBits (c.slave.hcd.memory.word buffer) bufCtrlData1Pid = decide (pid ≠ 0)

/-- The transfer is over, and the next PID is `pid`. -/
structure Over (slot : Nat) (bit : BitVec 32) (buffer control data : Nat) (pid : UInt8)
    (c : Core0) : Prop where
  rest : AtRest c
  path : Path c.slave.hcd slot bit buffer control data
  active : (c.slave.hcd.epPool slot).active = false
  nextPid : (c.slave.hcd.epPool slot).nextPid = pid
  disarmed : hasBits (c.slave.hcd.memory.word buffer) bufCtrlAvail = false

/-- The slot and the registers after a completion. -/
structure SlotAfter (slot : Nat) (bit : BitVec 32) (ep : HwEndpoint) (word : Nat → BitVec 32)
    (s t : Slave) : Prop where
  ep : t.hcd.epPool slot = ep
  word : t.hcd.memory.word = word
  activeEp : t.hcd.activeEp = s.hcd.activeEp
  sieCtrl : t.hcd.sieCtrl = s.hcd.sieCtrl
  bufStatus : t.hcd.bufStatus = s.hcd.bufStatus &&& ~~~bit

theorem completed_slot (result : XferResult) (e : Channel) (s : Slave) (bugger : Buffer)
    (message : SpiMessage) :
    SlotAfter slot bit (if result = .more then e.ep else e.ep.resetTransfer) e.memory.word s
      (withReply (completed slot result (slotHandled bit slot e s)) bugger message) := by
  have hep : (slotHandled bit slot e s).hcd.epPool slot = e.ep := storeSlot_same _ _ _
  by_cases hmore : result = .more
  · subst hmore
    exact ⟨hep, rfl, rfl, rfl, rfl⟩
  · simp only [completed, if_neg hmore, hep]
    exact ⟨storeSlot_same _ _ _, rfl, rfl, rfl, rfl⟩

/-- What the handler has done with the packet. -/
theorem InTransfer.taken
    (hc : InTransfer slot bit buffer control data epAddr size pid remaining c)
    (hother : ¬ IsControl epAddr) (hpacket : PacketDone bit buffer c.slave.hcd hcd)
    (hstep : step (c.withController hcd) .hcdIrq = some next) (hrunning : next.halted = none) :
    ∃ done e, Counted (slotChannel slot hcd) e ∧ SamePid (slotChannel slot hcd) e ∧
      (done = true ↔ e.ep.remainingLen = 0) ∧ AtRest next ∧
      SlotAfter slot bit (if done then e.ep.resetTransfer else (afterBuffer done e).ep)
        (afterBuffer done e).memory.word (c.withController hcd).slave next.slave := by
  have hep : hcd.epPool slot = c.slave.hcd.epPool slot := congrFun hpacket.epPool slot
  have hpath : Path hcd slot bit buffer control data :=
    hc.path.congr (by rw [hep]) hpacket.activeEp
  have hbits : hcd.bufStatus = bit := by
    rw [hpacket.bufStatus, hc.rest.bufStatus]
    exact BitVec.zero_or
  have hdrunning : (c.withController hcd).halted = none := hc.rest.running
  have hcauses : NoErrors (c.withController hcd).causes := hc.rest.causes
  cases hrun : handleBuffStatusBit bit slot (c.withController hcd).slave with
  | error reason t =>
      obtain ⟨stopped, hstopped, hhalted⟩ := hpath.hcdIrq_stops hdrunning hbits hrun
      cases hstopped.symm.trans hstep
      exact absurd hrunning hhalted
  | ok _ t =>
      have hpart : ((c.withController hcd).slave.hcd.epPool slot).isPartial = false := by
        show (hcd.epPool slot).isPartial = false
        rw [hep]
        exact hc.whole
      have haddress : ¬ IsControl ((c.withController hcd).slave.hcd.epPool slot).epAddr := by
        show ¬ IsControl (hcd.epPool slot).epAddr
        rw [hep, hc.epAddr]
        exact hother
      obtain ⟨done, e, message, bugger, hcounted, hsame, hdone, rfl⟩ :=
        handleBuffStatusBit_taken haddress hpart hrun
      have hafter : SlotAfter slot bit _ _ (c.withController hcd).slave _ := completed_slot
        (if done then .success else .more) (afterBuffer done e) _ bugger message
      have hsetup := (congrArg (hasBits · sieCtrlSendSetup) hafter.sieCtrl).trans
        (hpacket.noSetup hc.noSetup)
      cases (hpath.hcdIrq_ok hdrunning hcauses hbits hrun hsetup).symm.trans hstep
      have hclear : hcd.bufStatus &&& ~~~bit = 0 := by
        rw [hbits]
        exact BitVec.and_not_self _
      refine ⟨done, e, hcounted, hsame, hdone,
        ⟨hdrunning, hcauses, hafter.bufStatus.trans hclear⟩, ?_⟩
      have hslot := hafter.ep
      cases done
      · exact ⟨hslot, hafter.word, hafter.activeEp, hafter.sieCtrl, hafter.bufStatus⟩
      · exact ⟨hslot, hafter.word, hafter.activeEp, hafter.sieCtrl, hafter.bufStatus⟩

/-- The handler takes in the packet: the transfer is over, or the buffer is armed again. -/
theorem InTransfer.handled
    (hc : InTransfer slot bit buffer control data epAddr size pid remaining c)
    (hother : ¬ IsControl epAddr) {packet : Exchange}
    (hstep : packetStep slot c packet = some next) (hrunning : next.halted = none) :
    Over slot bit buffer control data (toggled (predicted size remaining) pid) next ∨
      remaining - tuMin16 remaining size ≠ 0 ∧
        InTransfer slot bit buffer control data epAddr size (toggled (predicted size remaining) pid)
          (remaining - tuMin16 remaining size) next := by
  obtain ⟨hcd, hexchange, hirq⟩ := packetStep_eq_some.mp hstep
  have hpacket := exchanged_done hc.path hexchange
  obtain ⟨done, e, hcounted, hsame, hdone, hrest, hafter⟩ :=
    hc.taken hother hpacket hirq hrunning
  have hslot : (slotChannel slot hcd).ep = c.slave.hcd.epPool slot :=
    congrFun hpacket.epPool slot
  have hpid : e.ep.nextPid = toggled (predicted size remaining) pid := by
    rw [hsame.nextPid, hslot, hc.nextPid]
  have hfixed : e.ep.fixed = (c.slave.hcd.epPool slot).fixed := by
    rw [hcounted.fixed, hslot]
  have hactive : next.slave.hcd.activeEp = c.slave.hcd.activeEp :=
    hafter.activeEp.trans hpacket.activeEp
  cases done with
  | true =>
      have hdisarmed : hasBits (e.memory.word buffer) bufCtrlAvail = false := by
        rw [hsame.word]
        exact hpacket.disarmed
      have hnext : next.slave.hcd.epPool slot = e.ep.resetTransfer := hafter.ep
      refine .inl ⟨hrest, hc.path.congr ?_ hactive, congrArg HwEndpoint.active hafter.ep,
        (congrArg HwEndpoint.nextPid hafter.ep).trans hpid,
        (congrArg (hasBits · bufCtrlAvail) (congrFun hafter.word buffer)).trans hdisarmed⟩
      rw [hnext]
      exact shape_of_fixed hfixed
  | false =>
      have hmore : e.ep.remainingLen ≠ 0 := fun hzero => Bool.false_ne_true (hdone.mpr hzero)
      -- The packet was not short, so what remained behind the buffer still remains.
      have hleft : e.ep.remainingLen = remaining - tuMin16 remaining size := by
        have hcount := hcounted.remainingLen
        split at hcount
        · exact absurd hcount hmore
        · rw [hcount, hslot, hc.remainingLen]
      have hsmall : (remaining - tuMin16 remaining size).toNat ≤ 1000 := by
        have hle := hc.small
        rw [toNat_sub_tuMin16]
        omega
      have hbuffer : e.ep.bufferControl = some buffer :=
        (eq_of_fixed (fun _ => rfl) hfixed).trans hc.path.bufferControl
      have hsize : e.ep.wMaxPacketSize = size :=
        (eq_of_fixed (fun _ => rfl) hfixed).trans hc.size
      have hnext : next.slave.hcd.epPool slot = nextEp .slave e.ep := hafter.ep
      have hwords : next.slave.hcd.memory.word = (nextMemory .slave e).word := hafter.word
      rw [← hleft]
      refine .inr ⟨hmore, hrest, hc.path.congr ?_ hactive, ?_, ?_, ?_, ?_, ?_, ?_, ?_, ?_, ?_, ?_⟩
      · rw [hnext]
        exact shape_of_fixed hfixed
      · rw [hwords, nextMemory_slave_other hbuffer hc.path.apart.1, hsame.word]
        show PointsTo (hcd.memory.word control) data
        rw [hpacket.word _ hc.path.apart.1]
        exact hc.control
      · rw [hafter.sieCtrl]
        exact hpacket.noSetup hc.noSetup
      · rw [hnext]
        exact (eq_of_fixed (fun _ => rfl) hfixed).trans hc.epAddr
      · rw [hnext]
        show e.ep.isPartial = false
        rw [hsame.whole, hslot]
        exact hc.whole
      · rw [hnext]
        refine hsame.active ?_
        rw [hslot]
        exact hc.active
      · rw [hleft]
        exact hsmall
      · rw [hnext, ← hsize]
        rfl
      · rw [hnext, ← hpid, ← hsize]
        exact nextPidAfter_predicted _ _ _
      · rw [hnext]
        exact hsize
      · rw [hwords, nextMemory_word .slave hbuffer, bufferWord_pid, hpid]
        show e.ep.remainingLen.toNat < 1024
        rw [hleft]
        omega

/-! ### The start -/

/-- The message is dequeued and the transfer is started. -/
theorem slavework_inTransfer {message : SpiMessage} {rest : List SpiMessage} {bytes : List UInt8}
    (hrest : AtRest c) (hpool : PoolOk c.slave.hcd) (hrx : c.slave.rx.items = message :: rest)
    (hmessage : AsksFor message epAddr bytes) (hother : ¬ IsControl epAddr)
    (hslot : getDevEp c.slave.hcd epAddr = some slot) (hstep : step c .slavework = some next)
    (hrunning : next.halted = none) :
    bytes.length ≤ 1000 ∧ next.slave.rx.items = rest ∧ ∃ bit buffer control data,
      InTransfer slot bit buffer control data epAddr (c.slave.hcd.epPool slot).wMaxPacketSize
        (c.slave.hcd.epPool slot).nextPid (UInt16.ofNat bytes.length) next := by
  obtain ⟨queue, hqueue, hfits, rfl⟩ :=
    slavework_started hrest.running hrx hmessage hother hslot hstep hrunning
  let ready := filled bytes { c.slave with rx := queue }
  have hpoolReady : PoolOk ready.hcd := hpool.of_samePool (.of_eq rfl rfl)
  obtain ⟨bit, buffer, control, data, harmed⟩ := transferStarted_armed hpoolReady
    (show getDevEp ready.hcd epAddr = some slot from hslot) hother c.slave.devAddr
    (UInt16.ofNat bytes.length)
  have hep := harmed.ep
  have hlength : (UInt16.ofNat bytes.length).toNat = bytes.length := by
    rw [UInt16.toNat_ofNat']
    omega
  refine ⟨hfits, hqueue, bit, buffer, control, data,
    ⟨hrest.running, hrest.causes, hrest.bufStatus⟩, harmed.path, harmed.control,
    (startDataFlags_bits ready.hcd epAddr).2.1, ?_, congrArg HwEndpoint.isPartial hep,
    congrArg HwEndpoint.active hep, ?_, congrArg HwEndpoint.remainingLen hep, ?_,
    (congrArg HwEndpoint.wMaxPacketSize hep).trans rfl, ?_⟩
  · exact (congrArg HwEndpoint.epAddr hep).trans (getDevEp_other hslot hother).2.2
  · rw [hlength]
    exact hfits
  · exact (congrArg HwEndpoint.nextPid hep).trans (nextPidAfter_predicted _ _ _)
  · refine (congrArg (hasBits · bufCtrlData1Pid) harmed.word).trans (bufferWord_pid ?_)
    show (UInt16.ofNat bytes.length).toNat < 1024
    omega

/-! ### The end -/

/-- Nothing is exchanged once the transfer is over. -/
theorem Over.no_packet (hover : Over slot bit buffer control data pid c) (packet : Exchange) :
    packetStep slot c packet ≠ some next := by
  intro hstep
  obtain ⟨hcd, hexchange, -⟩ := packetStep_eq_some.mp hstep
  have harmed := (exchanged_done hover.path hexchange).armed
  exact absurd (hover.disarmed.symm.trans harmed) (by decide)

/-- The packets of a transfer take it to its end. -/
theorem InTransfer.finished {packets : List Exchange} (hother : ¬ IsControl epAddr)
    (hc : InTransfer slot bit buffer control data epAddr size pid remaining c)
    (hrun : Machine.run (packetStep slot) c packets = some next) (hrunning : next.halted = none)
    (hinactive : (next.slave.hcd.epPool slot).active = false) :
    AtRest next ∧ next.slave.rx = c.slave.rx := by
  induction packets generalizing c pid remaining with
  | nil =>
      cases hrun
      exact absurd (hinactive.symm.trans hc.active) (by decide)
  | cons packet rest ih =>
      obtain ⟨middle, hstep, hrest⟩ := Machine.run_cons_eq_some.mp hrun
      have hmiddle : middle.halted = none := (packets_moves fixedSlots_rule hrest hrunning).1
      have hrx := packetStep_rx hstep hmiddle
      rcases hc.handled hother hstep hmiddle with hover | ⟨-, hmore⟩
      · cases rest with
        | nil =>
            cases hrest
            exact ⟨hover.rest, hrx⟩
        | cons second others =>
            obtain ⟨_, hsecond, -⟩ := Machine.run_cons_eq_some.mp hrest
            exact absurd hsecond (hover.no_packet second)
      · obtain ⟨hatRest, hsame⟩ := ih hmore hrest
        exact ⟨hatRest, hsame.trans hrx⟩

/-! ## The toggle -/

/-- A transfer: the message that asks for it, and the packets that are exchanged for it. -/
structure DataTransfer where
  message : SpiMessage
  packets : List Exchange

/-- The PID that the buffer of the endpoint in a slot is armed with. -/
def armedData1 (slot : Nat) (h : Hcd) : Bool :=
  hasBits (h.memory.readWord (h.epPool slot).bufferControl) bufCtrlData1Pid

/-- The packets take the transfer to its end. -/
structure DataTransfer.Completes (t : DataTransfer) (slot : Nat) (epAddr : UInt8)
    (c last : Core0) : Prop where
  asks : ∃ bytes, AsksFor t.message epAddr bytes
  run : afterPackets slot t.message t.packets c = some last
  running : last.halted = none
  inactive : (last.slave.hcd.epPool slot).active = false

/-- Each packet is armed with the PID opposite to that of the packet before it, and so will the
next one be. -/
structure DataTransfer.Toggles (t : DataTransfer) (slot : Nat) (c last : Core0) : Prop where
  armed : ∀ before packet after m, t.packets = before ++ packet :: after →
    afterPackets slot t.message before c = some m →
      armedData1 slot m.slave.hcd =
        decide (toggled before.length (c.slave.hcd.epPool slot).nextPid ≠ 0)
  next : (last.slave.hcd.epPool slot).nextPid =
    toggled t.packets.length (c.slave.hcd.epPool slot).nextPid

/-- One packet is exchanged, and an odd number is predicted. -/
def DataTransfer.OnePacket (t : DataTransfer) (size : UInt16) : Prop :=
  t.packets.length = 1 ∧ predicted size (UInt16.ofNat (t.message.payload.length - 1)) % 2 = 1

instance (t : DataTransfer) (size : UInt16) : Decidable (t.OnePacket size) :=
  inferInstanceAs (Decidable (_ ∧ _))

/-- Each transfer of a sequence completes. -/
def CompletesAll (slot : Nat) (epAddr : UInt8) : Core0 → List DataTransfer → Prop
  | _, [] => True
  | c, t :: rest => ∃ last, t.Completes slot epAddr c last ∧ CompletesAll slot epAddr last rest

/-- Each transfer of a sequence toggles the PID with each packet. -/
def TogglesAll (slot : Nat) : Core0 → List DataTransfer → Prop
  | _, [] => True
  | c, t :: rest => ∃ last, afterPackets slot t.message t.packets c = some last ∧
      t.Toggles slot c last ∧ TogglesAll slot last rest

/-- Between two transfers on the endpoint. -/
structure BetweenTransfers (slot : Nat) (epAddr : UInt8) (size : UInt16) (c : Core0) : Prop where
  rest : AtRest c
  rx : c.slave.rx.items = []
  pool : PoolOk c.slave.hcd
  pids : PidsOk c.slave.hcd
  found : getDevEp c.slave.hcd epAddr = some slot
  size : (c.slave.hcd.epPool slot).wMaxPacketSize = size

/-- The message of a transfer is handled. -/
theorem BetweenTransfers.started {message : SpiMessage} {bytes : List UInt8}
    (hc : BetweenTransfers slot epAddr size c) (hother : ¬ IsControl epAddr)
    (hmessage : AsksFor message epAddr bytes)
    (hrun : Machine.run step c [.receive message, .slavework] = some next)
    (hrunning : next.halted = none) :
    bytes.length ≤ 1000 ∧ next.slave.rx.items = [] ∧
      (∀ R [IsPreorder Hcd R], TransferRule R → R c.slave.hcd next.slave.hcd) ∧
      ∃ bit buffer control data, InTransfer slot bit buffer control data epAddr size
        (c.slave.hcd.epPool slot).nextPid (UInt16.ofNat bytes.length) next := by
  obtain ⟨asked, hreceive, hwork⟩ := Machine.run_cons_eq_some.mp hrun
  obtain ⟨worked, hstep, hend⟩ := Machine.run_cons_eq_some.mp hwork
  cases hend
  rw [step_running hc.rest.running] at hreceive
  obtain ⟨rx, hadd, rfl⟩ := Option.map_eq_some_iff.mp hreceive
  have hitems : rx.items = message :: [] := by
    rw [(Fifo.add_eq_some.mp hadd).2, hc.rx]
    rfl
  have hrest : AtRest { c with slave := { c.slave with rx := rx } } :=
    ⟨hc.rest.running, hc.rest.causes, hc.rest.bufStatus⟩
  obtain ⟨hfits, hempty, hinside⟩ := slavework_inTransfer hrest hc.pool hitems hmessage hother
    hc.found hstep hrunning
  rw [show (Core0.slave _).hcd.epPool slot = c.slave.hcd.epPool slot from rfl, hc.size] at hinside
  refine ⟨hfits, hempty, fun R _ hR => ?_, hinside⟩
  refine (step_transfers hR hstep hrunning fun _ front others hfront hopen _ => ?_).2
  cases List.cons.inj (hitems.symm.trans hfront) |>.1
  exact absurd (hmessage.kind.symm.trans hopen) (by decide)

/-- A transfer that completes leaves the endpoint as it was between transfers. -/
theorem DataTransfer.Completes.after {t : DataTransfer} (hc : BetweenTransfers slot epAddr size c)
    (hother : ¬ IsControl epAddr) (ht : t.Completes slot epAddr c next) :
    BetweenTransfers slot epAddr size next := by
  obtain ⟨bytes, hmessage⟩ := ht.asks
  obtain ⟨started, hstart, hpackets⟩ := afterPackets_eq_some.mp ht.run
  have hrunning := (packets_moves fixedSlots_rule hpackets ht.running).1
  obtain ⟨-, hempty, hmoves, bit, buffer, control, data, hinside⟩ :=
    hc.started hother hmessage hstart hrunning
  obtain ⟨hrest, hrx⟩ := hinside.finished hother hpackets ht.running ht.inactive
  have hall (R : Hcd → Hcd → Prop) [IsPreorder Hcd R] (hR : TransferRule R) :
      R c.slave.hcd next.slave.hcd :=
    trans_of R (hmoves R hR) (packets_moves hR hpackets ht.running).2
  have hfixed := hall FixedSlots fixedSlots_rule
  have hmem : slot ∈ interruptSlots := (getDevEp_other hc.found hother).1
  refine ⟨hrest, ?_, hall _ poolOk_rule.toTransferRule hc.pool,
    hall _ pidsOk_rule.toTransferRule hc.pids, ?_, ?_⟩
  · rw [hrx]
    exact hempty
  · rw [hfixed.sameSlots.getDevEp_eq]
    exact hc.found
  · exact (eq_of_fixed (fun _ => rfl) (hfixed slot hmem)).trans hc.size

/-! ### The parity of the predictions -/

theorem toggled_eq_iff {count other : Nat} (pid : UInt8) :
    toggled count pid = toggled other pid ↔ count % 2 = other % 2 := by
  have hflip : pid ^^^ 1 ≠ pid := by
    intro hsame
    have hone : pid ^^^ (pid ^^^ 1) = pid ^^^ pid := by rw [hsame]
    rw [← UInt8.xor_assoc, UInt8.xor_self, UInt8.zero_xor] at hone
    exact absurd hone (by decide)
  constructor
  · intro hsame
    unfold toggled at hsame
    split at hsame <;> split at hsame
    · omega
    · exact absurd hsame.symm hflip
    · exact absurd hsame hflip
    · omega
  · intro hparity
    exact toggled_congr hparity pid

/-- The bit tells the two PIDs apart. -/
theorem pidBit_eq_iff {count other : Nat} {pid : UInt8} (hok : PidOk pid) :
    decide (toggled count pid ≠ 0) = decide (toggled other pid ≠ 0) ↔ count % 2 = other % 2 := by
  have hodd (n : Nat) : decide (toggled n pid ≠ 0) = (decide (pid ≠ 0) ^^ decide (n % 2 = 1)) := by
    unfold toggled
    rcases Nat.mod_two_eq_zero_or_one n with hn | hn <;> rcases hok with rfl | rfl <;> rw [hn] <;>
      rfl
  rw [hodd, hodd]
  rcases Nat.mod_two_eq_zero_or_one count with hcount | hcount <;>
    rcases Nat.mod_two_eq_zero_or_one other with hother | hother <;>
    cases decide (pid ≠ 0) <;> simp [hcount, hother]

theorem InTransfer.armedData1
    (hc : InTransfer slot bit buffer control data epAddr size pid remaining c) :
    armedData1 slot c.slave.hcd = decide (pid ≠ 0) := by
  unfold Host.armedData1
  rw [hc.path.bufferControl]
  exact hc.word

/-- With two packets or more the toggle is lost: either the second packet is armed with the PID of
the first, or an odd number is predicted for the first and so an even one for the second. -/
theorem DataTransfer.Completes.not_toggles {t : DataTransfer} {first second : Exchange}
    {rest : List Exchange} (hc : BetweenTransfers slot epAddr size c)
    (hother : ¬ IsControl epAddr) (hsize : size ≠ 0) (ht : t.Completes slot epAddr c next)
    (hpackets : t.packets = first :: second :: rest) : ¬ t.Toggles slot c next := by
  intro htoggles
  obtain ⟨bytes, hmessage⟩ := ht.asks
  obtain ⟨started, hstart, hrun⟩ := afterPackets_eq_some.mp ht.run
  rw [hpackets] at hrun
  obtain ⟨afterFirst, hfirst, hlater⟩ := Machine.run_cons_eq_some.mp hrun
  obtain ⟨afterSecond, hsecond, hrest⟩ := Machine.run_cons_eq_some.mp hlater
  have hrunning := ht.running
  have hsecondRuns := (packets_moves fixedSlots_rule hrest hrunning).1
  have hfirstRuns := (packetStep_moves fixedSlots_rule hsecond hsecondRuns).1
  have hstartRuns := (packetStep_moves fixedSlots_rule hfirst hfirstRuns).1
  obtain ⟨-, -, -, bit, buffer, control, data, hinside⟩ :=
    hc.started hother hmessage hstart hstartRuns
  let pid := (c.slave.hcd.epPool slot).nextPid
  have hok : PidOk pid := hc.pids slot
  rcases hinside.handled hother hfirst hfirstRuns with hover | ⟨hmore, hagain⟩
  · exact hover.no_packet second hsecond
  have hlonger : size.toNat < (UInt16.ofNat bytes.length).toNat := by
    by_contra hshort
    refine hmore (UInt16.toNat_inj.mp ?_)
    rw [toNat_sub_tuMin16, UInt16.toNat_zero]
    omega
  have hpredicted := predicted_rest hsize hlonger
  -- The second packet has the other PID only if the prediction for the first is odd.
  have hodd := htoggles.armed [first] second rest afterFirst hpackets
    (afterPackets_eq_some.mpr ⟨started, hstart, by rw [Machine.run_cons, hfirst]; rfl⟩)
  rw [hagain.armedData1] at hodd
  have hparity := (pidBit_eq_iff hok).mp hodd
  have hsum := toggled_add (predicted size (UInt16.ofNat bytes.length))
    (predicted size (UInt16.ofNat bytes.length - tuMin16 (UInt16.ofNat bytes.length) size)) pid
  -- But then the third one has the PID of the second.
  rcases hagain.handled hother hsecond hsecondRuns with hover | ⟨-, hthird⟩
  · cases rest with
    | cons third others =>
        obtain ⟨_, hstep, -⟩ := Machine.run_cons_eq_some.mp hrest
        exact hover.no_packet third hstep
    | nil =>
        cases hrest
        have hnext := htoggles.next
        rw [hover.nextPid, ← hsum, hpackets] at hnext
        have heven := (toggled_eq_iff pid).mp hnext
        simp only [List.length_cons, List.length_nil] at heven hparity
        omega
  · cases rest with
    | nil =>
        cases hrest
        exact absurd (ht.inactive.symm.trans hthird.active) (by decide)
    | cons third others =>
        have heven := htoggles.armed [first, second] third others afterSecond hpackets
          (afterPackets_eq_some.mpr ⟨started, hstart, by
            rw [Machine.run_cons, hfirst, Option.bind_some, Machine.run_cons, hsecond]
            rfl⟩)
        rw [hthird.armedData1, ← hsum] at heven
        have hboth := (pidBit_eq_iff hok).mp heven
        simp only [List.length_cons, List.length_nil] at hboth hparity
        omega

/-- A transfer toggles the PID with each packet exactly when one packet is exchanged and an odd
number was predicted. -/
theorem DataTransfer.Completes.toggles_iff {t : DataTransfer}
    (hc : BetweenTransfers slot epAddr size c) (hother : ¬ IsControl epAddr) (hsize : size ≠ 0)
    (ht : t.Completes slot epAddr c next) : t.Toggles slot c next ↔ t.OnePacket size := by
  obtain ⟨bytes, hmessage⟩ := ht.asks
  obtain ⟨started, hstart, hrun⟩ := afterPackets_eq_some.mp ht.run
  have hstartRuns := (packets_moves fixedSlots_rule hrun ht.running).1
  obtain ⟨-, -, -, bit, buffer, control, data, hinside⟩ :=
    hc.started hother hmessage hstart hstartRuns
  have hlength : t.message.payload.length - 1 = bytes.length := by
    rw [hmessage.payload, List.length_append]
    rfl
  unfold DataTransfer.OnePacket
  rw [hlength]
  cases hpackets : t.packets with
  | nil =>
      rw [hpackets] at hrun
      cases hrun
      exact absurd (ht.inactive.symm.trans hinside.active) (by decide)
  | cons first others =>
      cases others with
      | cons second rest =>
          refine iff_of_false (ht.not_toggles hc hother hsize hpackets) fun hone => ?_
          simp only [List.length_cons] at hone
          omega
      | nil =>
          rw [hpackets] at hrun
          obtain ⟨_, hfirst, hend⟩ := Machine.run_cons_eq_some.mp hrun
          cases hend
          rcases hinside.handled hother hfirst ht.running with hover | ⟨-, hagain⟩
          · constructor
            · intro htoggles
              have hnext := htoggles.next
              rw [hover.nextPid, hpackets] at hnext
              exact ⟨rfl, (toggled_eq_iff _).mp hnext⟩
            · rintro ⟨-, hodd⟩
              refine ⟨fun before packet after m hsplit hm => ?_, ?_⟩
              · rw [hpackets] at hsplit
                cases before with
                | nil =>
                    obtain ⟨_, hsame, hnone⟩ := afterPackets_eq_some.mp hm
                    cases hstart.symm.trans hsame
                    cases hnone
                    exact hinside.armedData1
                | cons _ more =>
                    have hlengths := congrArg List.length hsplit
                    simp only [List.length_cons, List.length_append, List.length_nil] at hlengths
                    omega
              · rw [hover.nextPid, hpackets]
                exact (toggled_eq_iff _).mpr hodd
          · exact absurd (ht.inactive.symm.trans hagain.active) (by decide)

/-- The PIDs of a sequence of transfers alternate exactly when each of the transfers exchanges one
packet and predicts an odd number of them. -/
theorem transfers_toggle_iff {romWord : BitVec 32} {events : List Event}
    {transfers : List DataTransfer}
    (hrun : Machine.run step (.init romWord) events = some c) (hrest : AtRest c)
    (hrx : c.slave.rx.items = []) (hother : tuEdptNumber epAddr ≠ 0)
    (hfound : getDevEp c.slave.hcd epAddr = some slot)
    (hpositive : (c.slave.hcd.epPool slot).wMaxPacketSize ≠ 0)
    (hcompletes : CompletesAll slot epAddr c transfers) :
    TogglesAll slot c transfers ↔
      ∀ t ∈ transfers, t.OnePacket (c.slave.hcd.epPool slot).wMaxPacketSize := by
  have hc : BetweenTransfers slot epAddr (c.slave.hcd.epPool slot).wMaxPacketSize c :=
    ⟨hrest, hrx, poolOk_of_run hrun hrest.running, pidsOk_of_run hrun hrest.running, hfound, rfl⟩
  generalize (c.slave.hcd.epPool slot).wMaxPacketSize = size at hc hpositive ⊢
  clear hrun hrest hrx hfound
  induction transfers generalizing c with
  | nil => exact iff_of_true trivial nofun
  | cons t rest ih =>
      obtain ⟨last, ht, hall⟩ := hcompletes
      have hlast : TogglesAll slot last rest ↔ ∀ t ∈ rest, t.OnePacket size :=
        ih hall (ht.after hc hother)
      rw [List.forall_mem_cons, ← ht.toggles_iff hc hother hpositive, ← hlast]
      constructor
      · rintro ⟨other, hsame, htoggles, hlater⟩
        cases ht.run.symm.trans hsame
        exact ⟨htoggles, hlater⟩
      · rintro ⟨htoggles, hlater⟩
        exact ⟨last, ht.run, htoggles, hlater⟩

end Transfer

/-! ## A read of one packet, and one of two -/

theorem openSmall_lt : ([7, 5, 0x81, 2, 8, 0, 0] : List UInt8).length < 2 ^ 16 := by decide

theorem readTwo_lt : (List.replicate 16 0 ++ [0x81] : List UInt8).length < 2 ^ 16 := by decide

/-- The master opens a bulk endpoint with packets of eight bytes. -/
def bulkOpened : List Event :=
  [.receive ⟨MsgType.edptOpen, [7, 5, 0x81, 2, 8, 0, 0], openSmall_lt⟩, .slavework]

/-- One full packet is read. -/
def oneRead : DataTransfer :=
  ⟨⟨MsgType.usbData, List.replicate 8 0 ++ [0x81], by decide⟩,
    [.received (packetOf (List.replicate 8 1) (by decide))]⟩

/-- Two full packets are read. -/
def twoReads : DataTransfer :=
  ⟨⟨MsgType.usbData, List.replicate 16 0 ++ [0x81], readTwo_lt⟩,
    [.received (packetOf (List.replicate 8 1) (by decide)),
      .received (packetOf (List.replicate 8 2) (by decide))]⟩

/-- The transfer can be carried out on the endpoint that was opened. -/
def Readable (t : DataTransfer) (c : Core0) : Prop :=
  c.halted = none ∧ c.causes = [] ∧ c.slave.hcd.bufStatus = 0 ∧ c.slave.rx.items = [] ∧
    getDevEp c.slave.hcd 0x81 = some 1 ∧ (c.slave.hcd.epPool 1).wMaxPacketSize = 8 ∧
    (afterPackets 1 t.message t.packets c).any (fun last =>
      decide (last.halted = none ∧ (last.slave.hcd.epPool 1).active = false)) = true

instance (t : DataTransfer) (c : Core0) : Decidable (Readable t c) :=
  inferInstanceAs (Decidable (_ ∧ _))

theorem bulkOpened_readable {t : DataTransfer} {bytes : List UInt8}
    (hmessage : AsksFor t.message 0x81 bytes)
    (hreadable : ∃ c, Machine.run step (.init 0) bulkOpened = some c ∧ Readable t c) :
    ∃ c, Machine.run step (.init 0) bulkOpened = some c ∧ AtRest c ∧ c.slave.rx.items = [] ∧
      getDevEp c.slave.hcd 0x81 = some 1 ∧ (c.slave.hcd.epPool 1).wMaxPacketSize = 8 ∧
      CompletesAll 1 0x81 c [t] := by
  obtain ⟨c, hrun, hrunning, hcauses, hstatus, hrx, hslot, hsize, hany⟩ := hreadable
  obtain ⟨last, hlast, hends⟩ := Option.any_eq_true _ _ |>.mp hany
  obtain ⟨hend, hinactive⟩ := of_decide_eq_true hends
  refine ⟨c, hrun, ⟨hrunning, ?_, hstatus⟩, hrx, hslot, hsize, last,
    ⟨⟨bytes, hmessage⟩, hlast, hend, hinactive⟩, trivial⟩
  rw [hcauses]
  exact nofun

theorem oneRead_toggles : ∃ c, Machine.run step (.init 0) bulkOpened = some c ∧
    TogglesAll 1 c [oneRead] := by
  obtain ⟨c, hrun, hrest, hrx, hslot, hsize, hcompletes⟩ :=
    bulkOpened_readable (t := oneRead) ⟨by decide, rfl⟩
      (Machine.exists_run_of_any (by decide +kernel))
  have hpositive : (c.slave.hcd.epPool 1).wMaxPacketSize ≠ 0 := by
    rw [hsize]
    decide
  refine ⟨c, hrun, (transfers_toggle_iff hrun hrest hrx (by decide) hslot hpositive
    hcompletes).mpr ?_⟩
  rw [hsize]
  decide

/-- The second packet of sixteen bytes is armed with the PID of the first. -/
theorem twoReads_not_toggle :
    ¬ ∀ (romWord : BitVec 32) (events : List Event) (c : Core0) (slot : Nat) (epAddr : UInt8)
      (transfers : List DataTransfer), Machine.run step (.init romWord) events = some c →
      AtRest c → c.slave.rx.items = [] → tuEdptNumber epAddr ≠ 0 →
      getDevEp c.slave.hcd epAddr = some slot → (c.slave.hcd.epPool slot).wMaxPacketSize ≠ 0 →
      CompletesAll slot epAddr c transfers → TogglesAll slot c transfers := by
  intro hclaim
  obtain ⟨c, hrun, hrest, hrx, hslot, hsize, hcompletes⟩ :=
    bulkOpened_readable (t := twoReads) ⟨by decide, rfl⟩
      (Machine.exists_run_of_any (by decide +kernel))
  have hpositive : (c.slave.hcd.epPool 1).wMaxPacketSize ≠ 0 := by
    rw [hsize]
    decide
  obtain ⟨last, hlast, htoggles, -⟩ :=
    hclaim 0 bulkOpened c 1 0x81 [twoReads] hrun hrest hrx (by decide) hslot hpositive hcompletes
  have hbetween : BetweenTransfers 1 0x81 8 c :=
    ⟨hrest, hrx, poolOk_of_run hrun hrest.running, pidsOk_of_run hrun hrest.running, hslot, hsize⟩
  obtain ⟨_, hcompleted, -⟩ := hcompletes
  cases hcompleted.run.symm.trans hlast
  exact hcompleted.not_toggles hbetween (by decide) (by decide) rfl htoggles

end UsbSec.Host
