import UsbSec.Host.Epx

/-!
# The endpoint pool

`_hw_endpoint_allocate` gives a slot of the pool either the registers of the interrupt endpoint
with its number or the EPX registers, which all the other slots of that kind share with `epx`.
`PoolOk` says what follows for the endpoints that are configured. Opening an endpoint
establishes it, nothing else changes the fields it speaks about, so it holds in every state of a
run in which core 0 has not stopped.
-/

namespace UsbSec.Host

open Library Usb Rp2040

/-! ## Walking through the handlers -/

/-- The offset is one of a buffer control register. -/
def IsBufferControl (offset : Nat) : Prop := epxBufCtrl ≤ offset ∧ offset < epxCtrl

instance (offset : Nat) : Decidable (IsBufferControl offset) :=
  inferInstanceAs (Decidable (_ ∧ _))

/-- The pool is the same, and so are the registers that are not buffer control registers. -/
structure SamePool (h k : Hcd) : Prop where
  epPool : k.epPool = h.epPool
  word : ∀ offset, ¬ IsBufferControl offset → k.memory.word offset = h.memory.word offset

theorem SamePool.of_eq {h k : Hcd} (hpool : k.epPool = h.epPool)
    (hword : k.memory.word = h.memory.word) : SamePool h k := ⟨hpool, fun _ _ => by rw [hword]⟩

/-- A relation between controllers that the controller and the handlers move along, but for the
one that opens an endpoint. -/
structure TransferRule (R : Hcd → Hcd → Prop) : Prop where
  quiet : ∀ h k, SamePool h k → R h k
  engine : ∀ {α : Type} (slot : Nat) (program : Engine α), Program.Moves Elsewhere program →
    Program.Moves KeepsPid program → Program.Moves R (onSlot slot program)
  size : ∀ size, Program.Ends R (changeEpxPacketsize size)
  setup : ∀ devAddr packet, Program.Ends R (hcdSetupSend devAddr packet)
  turn : ∀ devAddr epAddr h k, hostEndpointInit epx devAddr epAddr (h.epPool epx).wMaxPacketSize
    (h.epPool epx).transferType 0 h = .ok () k → R h k

/-- A relation between controllers that the handlers and the controller move along. -/
structure DriverRule (R : Hcd → Hcd → Prop) : Prop extends TransferRule R where
  opened : ∀ desc devAddr, Program.Ends R (hcdEdptOpen desc devAddr)

theorem TransferRule.mono {R S : Hcd → Hcd → Prop} (hR : TransferRule R)
    (himp : ∀ h k, R h k → S h k) : TransferRule S where
  quiet h k hsame := himp h k (hR.quiet h k hsame)
  engine slot program hprogram hpid := (hR.engine slot program hprogram hpid).mono himp
  size size := (hR.size size).mono himp
  setup devAddr packet := (hR.setup devAddr packet).mono himp
  turn devAddr epAddr h k hrun := himp h k (hR.turn devAddr epAddr h k hrun)

/-- The relation between the controllers of two states of the slave. -/
def OnDriver (R : Hcd → Hcd → Prop) (s t : Slave) : Prop := R s.hcd t.hcd

instance (R : Hcd → Hcd → Prop) [IsPreorder Hcd R] : IsPreorder Slave (OnDriver R) where
  refl s := refl_of R s.hcd
  trans _ _ _ h k := trans_of R h k

/-! ### What the controller does -/

theorem writeWord_buffer (memory : Memory) {buffer offset : Nat} (hbuffer : IsBufferControl buffer)
    (hoffset : ¬ IsBufferControl offset) (value : BitVec 32) :
    (memory.writeWord (some buffer) value).word offset = memory.word offset :=
  Memory.writeWord_other _ _ fun hsame => hoffset (hsame ▸ hbuffer)

theorem storePacket_buffer (memory : Memory) (control : Nat) {buffer offset : Nat}
    (hbuffer : IsBufferControl buffer) (hoffset : ¬ IsBufferControl offset) (packet : Packet) :
    (storePacket memory control buffer packet).word offset = memory.word offset := by
  unfold storePacket
  exact writeWord_buffer _ hbuffer hoffset _

theorem intEpBufferCtrl_isBufferControl {num : Nat} (h : num < hostInterruptEndpoints) :
    IsBufferControl (intEpBufferCtrl num) := by
  have hnum : num < 15 := h
  constructor
  · show 0x80 ≤ 0x88 + 8 * num
    omega
  · show 0x88 + 8 * num < 0x100
    omega

theorem interruptSlots_bounds {slot : Nat} (h : slot ∈ interruptSlots) : 1 ≤ slot ∧ slot ≤ 15 := by
  obtain ⟨num, hnum, rfl⟩ := List.mem_map.mp h
  have hlt : num < 15 := List.mem_range.mp hnum
  omega

theorem slotBits_distinct : ∀ slot ∈ interruptSlots, ∀ other ∈ interruptSlots,
    hasBits (slotBit slot) (slotBit other) = decide (other = slot) := by decide

theorem sendSetupPacket_samePool {h k : Hcd} (hsent : sendSetupPacket h = some k) :
    SamePool h k := by
  unfold sendSetupPacket at hsent
  split at hsent
  · cases hsent
    exact .of_eq rfl rfl
  · cases hsent

theorem receiveIn_samePool {h k : Hcd} {packet : Packet} (hreceived : receiveIn h packet = some k) :
    SamePool h k := by
  have hfill : SamePool h (fillEpx h packet) :=
    ⟨rfl, fun _ hoffset => storePacket_buffer _ _ (by decide) hoffset _⟩
  unfold receiveIn at hreceived
  split at hreceived
  · cases hreceived
    split
    · exact ⟨rfl, hfill.word⟩
    · exact hfill
  · cases hreceived

theorem sendOut_samePool {h k : Hcd} (hsent : sendOut h = some k) : SamePool h k := by
  have hempty : SamePool h (emptyEpx h) :=
    ⟨rfl, fun _ hoffset => writeWord_buffer _ (by decide) hoffset _⟩
  unfold sendOut at hsent
  split at hsent
  · cases hsent
    split
    · exact ⟨rfl, hempty.word⟩
    · exact hempty
  · cases hsent

theorem receiveInterrupt_samePool {h k : Hcd} {slot : Nat} {packet : Packet}
    (hreceived : receiveInterrupt h slot packet = some k) : SamePool h k := by
  unfold receiveInterrupt at hreceived
  dsimp only at hreceived
  split at hreceived
  · rename_i hpolled
    have hslot := interruptSlots_bounds hpolled.1
    have hnum : slot - 1 < hostInterruptEndpoints := by
      show slot - 1 < 15
      omega
    cases hreceived
    exact ⟨rfl, fun _ hoffset =>
      storePacket_buffer _ _ (intEpBufferCtrl_isBufferControl hnum) hoffset _⟩
  · cases hreceived

/-! ### What the handlers do -/

theorem hwEndpointXferStart_slave_moves {R : Channel → Channel → Prop} [IsPreorder Channel R]
    (hR : EngineRule R) (buffer : UserBuf) (totalLen : UInt16) :
    Program.Moves R (hwEndpointXferStart .slave buffer totalLen) := by
  have hstart : Program.Moves R (hwEndpointStartNextBuffer .slave) := startNextBufferSlave_moves hR
  exact hwEndpointXferStart_moves hR hstart _ _

theorem hwEndpointXferContinue_slave_moves {R : Channel → Channel → Prop} [IsPreorder Channel R]
    (hR : EngineRule R) : Program.Moves R (hwEndpointXferContinue .slave) :=
  hwEndpointXferContinue_moves hR (startNextBufferSlave_moves hR)

theorem hwEndpointXferStart_elsewhere (buffer : UserBuf) (totalLen : UInt16) :
    Program.Moves Elsewhere (hwEndpointXferStart .slave buffer totalLen) :=
  hwEndpointXferStart_slave_moves elsewhere_rule buffer totalLen

theorem hwEndpointXferContinue_slave_elsewhere :
    Program.Moves Elsewhere (hwEndpointXferContinue .slave) :=
  hwEndpointXferContinue_slave_moves elsewhere_rule

/-- The slot that is found for an endpoint has its address, unless it is `epx`. -/
theorem getDevEp_some {h : Hcd} {epAddr : UInt8} {slot : Nat} (hslot : getDevEp h epAddr = some slot) :
    slot = epx ∨ slot ∈ interruptSlots ∧ (h.epPool slot).configured = true ∧
      (h.epPool slot).epAddr = epAddr := by
  unfold getDevEp at hslot
  split at hslot
  · exact .inl (Option.some.inj hslot).symm
  · right
    have hfound := List.find?_some hslot
    simp only [Bool.and_eq_true, beq_iff_eq] at hfound
    exact ⟨List.mem_of_find?_eq_some hslot, hfound⟩

section TransferRule

variable {R : Hcd → Hcd → Prop}

theorem onHcd_ends {α : Type} {program : HcdM α} (h : Program.Ends R program) :
    Program.Ends (OnDriver R) (onHcd program) := by
  intro s value t hrun
  obtain ⟨next, hnext, rfl⟩ := Program.onPart_eq_ok hrun
  exact h s.hcd value next hnext

variable [IsPreorder Hcd R] (hR : TransferRule R)
include hR

theorem hcdEdptXfer_ends (devAddr epAddr : UInt8) (buffer : UserBuf) (buflen : UInt16) :
    Program.Ends R (hcdEdptXfer devAddr epAddr buffer buflen) := by
  intro h value last hrun
  unfold hcdEdptXfer at hrun
  rw [Program.read_bind] at hrun
  cases hslot : getDevEp h epAddr with
  | none =>
      rw [hslot] at hrun
      cases hrun
  | some slot =>
      rw [hslot] at hrun
      let active : Hcd := { h with activeEp := some slot }
      obtain ⟨_, _, hactive, hrun⟩ := Program.bind_eq_ok hrun
      cases hactive
      obtain ⟨_, turned, hturn, hrest⟩ := Program.bind_eq_ok hrun
      have hturned : R active turned := by
        by_cases hsame : epAddr = (h.epPool slot).epAddr
        · rw [Program.when_false (not_not.mpr hsame)] at hturn
          cases hturn
          exact refl_of R active
        · rw [Program.when_true hsame] at hturn
          rcases getDevEp_some hslot with rfl | ⟨-, -, haddress⟩
          · exact hR.turn devAddr epAddr active turned hturn
          · exact absurd haddress.symm hsame
      obtain ⟨_, started, hstart, hflags⟩ := Program.bind_eq_ok hrest
      have hstarted : R turned started :=
        (hR.engine slot _ (hwEndpointXferStart_elsewhere buffer buflen)
          (hwEndpointXferStart_slave_moves keepsPid_rule buffer buflen)).ok hstart
      cases hflags
      refine trans_of R (hR.quiet h active (.of_eq rfl rfl))
        (trans_of R hturned (trans_of R hstarted ?_))
      exact hR.quiet _ _ (.of_eq rfl rfl)

omit [IsPreorder Hcd R] in
theorem update_quiet {change : Slave → Slave} (hpool : ∀ s, (change s).hcd.epPool = s.hcd.epPool)
    (hword : ∀ s, (change s).hcd.memory.word = s.hcd.memory.word) :
    Program.Ends (OnDriver R) (Program.update change : SlaveM Unit) := by
  intro s value t hrun
  cases hrun
  exact hR.quiet _ _ (.of_eq (hpool s) (hword s))

omit [IsPreorder Hcd R] in
theorem record_quiet (call : Call) : Program.Ends (OnDriver R) (record call) :=
  update_quiet hR (fun _ => rfl) fun _ => rfl

theorem fillBugger_ends (start : Nat) (bytes : List UInt8) :
    Program.Ends (OnDriver R) (fillBugger start bytes) :=
  .bind (Program.Moves.require _ _).ends fun _ => update_quiet hR (fun _ => rfl) fun _ => rfl

theorem startXfer_ends (devAddr epAddr : UInt8) (buffer : UserBuf) (buflen : UInt16) :
    Program.Ends (OnDriver R) (startXfer devAddr epAddr buffer buflen) :=
  .bind (record_quiet hR _) fun _ => onHcd_ends (hcdEdptXfer_ends hR _ _ _ _)

theorem readResponse_ends (devAddr : UInt8) :
    Program.Ends (OnDriver R) (readResponse devAddr) :=
  .read_bind fun _ => startXfer_ends hR _ _ _ _

theorem sendEventToMaster_ends (len : UInt16) (epAddr : UInt8) (eFlag : UInt16) :
    Program.Ends (OnDriver R) (sendEventToMaster len epAddr eFlag) := by
  refine .bind (.when (fillBugger_ends hR _ _)) fun _ => .read_bind fun s => ?_
  exact .bind (record_quiet hR _) fun _ => update_quiet hR (fun _ => rfl) fun _ => rfl

theorem completeResponse_ends (devAddr epAddr : UInt8) (xferredBytes : UInt16)
    (result : XferResult) :
    Program.Ends (OnDriver R) (completeResponse devAddr epAddr xferredBytes result) := by
  refine .ite ?_ ?_
  · refine .bind (update_quiet hR (fun _ => rfl) fun _ => rfl) fun _ => ?_
    refine .bind (update_quiet hR (fun _ => rfl) fun _ => rfl) fun _ => .read_bind fun s => ?_
    exact .bind (.when (startXfer_ends hR _ _ _ _)) fun _ => sendEventToMaster_ends hR _ _ _
  · exact .bind (readResponse_ends hR _) fun _ => sendEventToMaster_ends hR _ _ _

theorem hcdEventXferComplete_ends (devAddr epAddr : UInt8) (xferredBytes : UInt16)
    (result : XferResult) :
    Program.Ends (OnDriver R) (hcdEventXferComplete devAddr epAddr xferredBytes result) := by
  refine .bind (Program.Moves.require _ _).ends fun _ => .read_bind fun s => ?_
  refine .bind (record_quiet hR _) fun _ => .ite (.ite ?_ (.ite ?_ (Program.Moves.pure _).ends)) ?_
  · refine .bind (Program.Moves.require _ _).ends fun _ => ?_
    refine .bind (Program.Moves.require _ _).ends fun _ => ?_
    exact .bind (update_quiet hR (fun _ => rfl) fun _ => rfl) fun _ => readResponse_ends hR _
  · exact completeResponse_ends hR _ _ _ _
  · exact .bind (update_quiet hR (fun _ => rfl) fun _ => rfl) fun _ =>
      sendEventToMaster_ends hR _ _ _

theorem hwXferComplete_ends (slot : Nat) (result : XferResult) :
    Program.Ends (OnDriver R) (hwXferComplete slot result) := by
  have hreset := hR.engine slot _ (hwEndpointResetTransferNew_moves elsewhere_rule)
    (hwEndpointResetTransferNew_moves keepsPid_rule)
  refine .read_bind fun s => .bind (.when (onHcd_ends hreset.ends)) fun _ => ?_
  exact hcdEventXferComplete_ends hR _ _ _ _

theorem handleBuffStatusBit_ends (bit : BitVec 32) (slot : Nat) :
    Program.Ends (OnDriver R) (handleBuffStatusBit bit slot) := by
  refine .bind (update_quiet hR (fun _ => rfl) fun _ => rfl) fun _ => ?_
  have hcontinue := hR.engine slot _ hwEndpointXferContinue_slave_elsewhere
    (hwEndpointXferContinue_slave_moves keepsPid_rule)
  exact .bind (onHcd_ends hcontinue.ends) fun _ => hwXferComplete_ends hR _ _

theorem handleInterruptBuffers_ends (slots : List Nat) (remaining : BitVec 32) :
    Program.Ends (OnDriver R) (handleInterruptBuffers slots remaining) := by
  induction slots generalizing remaining with
  | nil => exact (Program.Moves.pure _).ends
  | cons slot rest ih =>
      refine .ite (Program.Moves.pure _).ends (.ite ?_ (ih _))
      exact .bind (handleBuffStatusBit_ends hR _ _) fun _ => ih _

theorem hwHandleBuffStatus_ends : Program.Ends (OnDriver R) hwHandleBuffStatus := by
  refine .read_bind fun s => .bind (.when (.read_bind fun t => ?_)) fun _ => ?_
  · cases t.hcd.activeEp with
    | none => exact .stop _
    | some slot => exact handleBuffStatusBit_ends hR _ _
  · exact .bind (handleInterruptBuffers_ends hR _ _) fun _ => .when (.stop _)

theorem hcdRp2040Irq_ends (causes : List Cause) (buffStatus transComplete : Bool) :
    Program.Ends (OnDriver R) (hcdRp2040Irq causes buffStatus transComplete) := by
  refine .bind (.when (hwHandleBuffStatus_ends hR)) fun _ => .bind (.when ?_) fun _ => ?_
  · refine .bind (update_quiet hR (fun _ => rfl) fun _ => rfl) fun _ => ?_
    exact .read_bind fun s => .when (hwXferComplete_ends hR _ _)
  · refine .bind (.when (.stop _)) fun _ => .bind (.when (.stop _)) fun _ => ?_
    exact .bind (.when (.stop _)) fun _ => .when (.stop _)

theorem sendSetup_ends (setup : ControlRequest) :
    Program.Ends (OnDriver R) (sendSetup setup) := by
  refine .bind (update_quiet hR (fun _ => rfl) fun _ => rfl) fun _ => ?_
  refine .bind (update_quiet hR (fun _ => rfl) fun _ => rfl) fun _ => ?_
  refine .bind (update_quiet hR (fun _ => rfl) fun _ => rfl) fun _ => ?_
  exact .bind (record_quiet hR _) fun _ => .read_bind fun _ => onHcd_ends (hR.setup _ _)

theorem handleUsbData_ends (payload : List UInt8) :
    Program.Ends (OnDriver R) (handleUsbData payload) := by
  refine .bind (update_quiet hR (fun _ => rfl) fun _ => rfl) fun _ => ?_
  cases payload.getLast? with
  | none => exact .stop _
  | some epAddr =>
      refine .bind (fillBugger_ends hR _ _) fun _ => .read_bind fun s => ?_
      exact startXfer_ends hR _ _ _ _

omit [IsPreorder Hcd R] in
theorem handleChgEpxPacketsize_ends (payload : List UInt8) :
    Program.Ends (OnDriver R) (handleChgEpxPacketsize payload) := by
  unfold handleChgEpxPacketsize
  split
  · exact onHcd_ends (hR.size _)
  · exact .stop _

/-- The handler of a message that opens no endpoint. -/
theorem handleMessage_ends {message : SpiMessage}
    (hother : messageKind message ≠ MsgType.edptOpen) :
    Program.Ends (OnDriver R) (handleMessage message) := by
  unfold handleMessage
  dsimp only
  rw [if_neg hother]
  refine .ite (update_quiet hR (fun _ => rfl) fun _ => rfl) (.ite ?_
    (.ite (handleUsbData_ends hR _) (.ite ?_ (.ite (handleChgEpxPacketsize_ends hR _)
      (.ite (Program.Moves.pure _).ends (.stop _))))))
  · exact .bind (Program.Moves.require _ _).ends fun _ => sendSetup_ends hR _
  · exact .bind (sendSetup_ends hR _) fun _ => update_quiet hR (fun _ => rfl) fun _ => rfl

omit [IsPreorder Hcd R] hR in
theorem handleMessage_open {message : SpiMessage}
    (hkind : messageKind message = MsgType.edptOpen) :
    handleMessage message = handleEdptOpen message.payload := by
  have hother : messageKind message ≠ MsgType.resetUsb := by
    rw [hkind]
    decide
  unfold handleMessage
  dsimp only
  rw [if_neg hother, if_pos hkind]

/-- A step after which core 0 still runs moves along the relation, unless it opens an endpoint. -/
theorem step_transfers {m next : Core0} {event : Event} (hstep : step m event = some next)
    (hrunning : next.halted = none)
    (hopen : event = .slavework → ∀ message rest, m.slave.rx.items = message :: rest.items →
      messageKind message = MsgType.edptOpen →
      handleEdptOpen message.payload { m.slave with rx := rest } = .ok () next.slave →
      R m.slave.hcd next.slave.hcd) :
    m.halted = none ∧ R m.slave.hcd next.slave.hcd := by
  have hm : m.halted = none := by
    by_contra hhalted
    rw [step, if_neg hhalted] at hstep
    cases hstep
  refine ⟨hm, ?_⟩
  rw [step_running hm] at hstep
  have hhandler {handler : SlaveM Unit} (hnext : some (runHandler handler m) = some next) :
      handler m.slave = .ok () next.slave := by
    unfold runHandler at hnext
    cases hrun : handler m.slave with
    | ok value slave =>
        rw [hrun] at hnext
        cases hnext
        rfl
    | error reason slave =>
        rw [hrun] at hnext
        cases hnext
        cases hrunning
  cases event with
  | receive message =>
      obtain ⟨rx, -, rfl⟩ := Option.map_eq_some_iff.mp hstep
      exact refl_of R m.slave.hcd
  | slavework =>
      rcases slavework_ok (hhandler hstep) with hsame | ⟨message, rest, hitems, hrun⟩
      · rw [hsame]
        exact refl_of R m.slave.hcd
      · by_cases hkind : messageKind message = MsgType.edptOpen
        · rw [handleMessage_open hkind] at hrun
          exact hopen rfl message rest hitems hkind hrun
        · let taken : Slave := { m.slave with rx := rest }
          exact handleMessage_ends hR hkind taken () next.slave hrun
  | hcdIrq => exact hcdRp2040Irq_ends hR _ _ _ _ _ _ (hhandler hstep)
  | setupSent =>
      obtain ⟨hcd, hsent, rfl⟩ := Option.map_eq_some_iff.mp hstep
      exact hR.quiet _ _ (sendSetupPacket_samePool hsent)
  | packetIn packet =>
      obtain ⟨hcd, hreceived, rfl⟩ := Option.map_eq_some_iff.mp hstep
      exact hR.quiet _ _ (receiveIn_samePool hreceived)
  | packetOut =>
      obtain ⟨hcd, hsent, rfl⟩ := Option.map_eq_some_iff.mp hstep
      exact hR.quiet _ _ (sendOut_samePool hsent)
  | interruptIn slot packet =>
      obtain ⟨hcd, hreceived, rfl⟩ := Option.map_eq_some_iff.mp hstep
      exact hR.quiet _ _ (receiveInterrupt_samePool hreceived)
  | raise cause =>
      cases hstep
      exact refl_of R m.slave.hcd

end TransferRule

/-- A step after which core 0 still runs moves along the relation. -/
theorem step_ends {R : Hcd → Hcd → Prop} [IsPreorder Hcd R] (hR : DriverRule R) {m next : Core0}
    {event : Event} (hstep : step m event = some next) (hrunning : next.halted = none) :
    m.halted = none ∧ R m.slave.hcd next.slave.hcd := by
  refine step_transfers hR.toTransferRule hstep hrunning fun _ message rest _ _ hrun => ?_
  have hopened : Program.Ends (OnDriver R) (handleEdptOpen message.payload) :=
    .bind (Program.Moves.require _ _).ends fun _ => .read_bind fun _ => onHcd_ends (hR.opened _ _)
  let taken : Slave := { m.slave with rx := rest }
  exact hopened taken () next.slave hrun

/-- An invariant of the controller that the handlers keep holds while core 0 runs. -/
theorem running_invariant {I : Hcd → Prop} (hI : DriverRule (Program.Keeps I)) {romWord : BitVec 32}
    (hinit : I (.init romWord)) {events : List Event} {m : Core0}
    (hrun : Machine.run step (.init romWord) events = some m) (hrunning : m.halted = none) :
    I m.slave.hcd := by
  refine Machine.run_invariant (I := fun m => m.halted = none → I m.slave.hcd) ?_ (fun _ => hinit)
    hrun hrunning
  intro m event next hm hstep hnext
  obtain ⟨hbefore, hmoves⟩ := step_ends hI hstep hnext
  exact hmoves (hm hbefore)

/-! ## What the pool holds -/

/-- The endpoint has the registers of an interrupt endpoint. -/
structure OnInterrupt (num : Nat) (ep : HwEndpoint) : Prop where
  bufferControl : ep.bufferControl = some (intEpBufferCtrl num)
  endpointControl : ep.endpointControl = some (intEpCtrl num)
  hwDataBuf : ep.hwDataBuf = some (epxDataOffset + 64 * (num + 2))

/-- An endpoint control word asks for one buffer, at the given offset. -/
structure PointsTo (word : BitVec 32) (offset : Nat) : Prop where
  offset : (word &&& 0xffc0#32).toNat = offset
  single : hasBits word epCtrlDoubleBuffered = false

/-- The endpoint has the registers that `_hw_endpoint_allocate` gives to its slot: those of EPX,
or those of the interrupt endpoint with its number. -/
inductive Registered (slot : Nat) (ep : HwEndpoint) : Prop
  | epx (registers : OnEpx ep) (num : ep.interruptNum = 255)
  | interrupt (mem : slot ∈ interruptSlots) (registers : OnInterrupt (slot - 1) ep)
      (num : ep.interruptNum.toNat = slot - 1)

/-- What `_hw_endpoint_init` leaves in a slot. -/
structure Opened (h : Hcd) (slot : Nat) : Prop where
  direction : (h.epPool slot).rx = tuEdptDirIn (h.epPool slot).epAddr
  type : (h.epPool slot).transferType.toNat < 4
  registered : Registered slot (h.epPool slot)
  control : ∀ pointer data, (h.epPool slot).endpointControl = some pointer →
    (h.epPool slot).hwDataBuf = some data → PointsTo (h.memory.word pointer) data

/-- A slot with registers is opened, and a configured slot has registers. -/
structure SlotOk (h : Hcd) (slot : Nat) : Prop where
  buffer : ∀ offset, (h.epPool slot).bufferControl = some offset → IsBufferControl offset
  registers : (h.epPool slot).configured = true → (h.epPool slot).endpointControl ≠ none
  opened : (h.epPool slot).endpointControl ≠ none → Opened h slot

/-- Every slot of the pool is in order. -/
def PoolOk (h : Hcd) : Prop := ∀ slot, SlotOk h slot

/-- The fields of an endpoint that `SlotOk` is about. -/
structure Wiring where
  configured : Bool
  rx : Bool
  epAddr : UInt8
  endpointControl : Option Nat
  bufferControl : Option Nat
  hwDataBuf : Option Nat
  transferType : UInt8
  interruptNum : UInt8

/-- The wiring of an endpoint. -/
def wiring (ep : HwEndpoint) : Wiring :=
  ⟨ep.configured, ep.rx, ep.epAddr, ep.endpointControl, ep.bufferControl, ep.hwDataBuf,
    ep.transferType, ep.interruptNum⟩

theorem wiring_fixed (ep : HwEndpoint) : wiring ep.fixed = wiring ep := rfl

theorem OnEpx.congr {ep other : HwEndpoint} (h : OnEpx ep) (hsame : wiring other = wiring ep) :
    OnEpx other :=
  ⟨(congrArg Wiring.bufferControl hsame).trans h.bufferControl,
    (congrArg Wiring.endpointControl hsame).trans h.endpointControl,
    (congrArg Wiring.hwDataBuf hsame).trans h.hwDataBuf⟩

theorem OnInterrupt.congr {num : Nat} {ep other : HwEndpoint} (h : OnInterrupt num ep)
    (hsame : wiring other = wiring ep) : OnInterrupt num other :=
  ⟨(congrArg Wiring.bufferControl hsame).trans h.bufferControl,
    (congrArg Wiring.endpointControl hsame).trans h.endpointControl,
    (congrArg Wiring.hwDataBuf hsame).trans h.hwDataBuf⟩

theorem intEpCtrl_notBuffer {num : Nat} (h : num < hostInterruptEndpoints) :
    ¬ IsBufferControl (intEpCtrl num) := by
  rintro ⟨hle, -⟩
  have hnum : num < 15 := h
  have hle : 0x80 ≤ 0x08 + 8 * num := hle
  omega

/-- The slot of an interrupt endpoint has a number in range. -/
theorem interruptSlots_num {slot : Nat} (h : slot ∈ interruptSlots) :
    slot - 1 < hostInterruptEndpoints := by
  obtain ⟨hlow, hhigh⟩ := interruptSlots_bounds h
  show slot - 1 < 15
  omega

theorem Registered.congr {slot : Nat} {ep other : HwEndpoint} (h : Registered slot ep)
    (hsame : wiring other = wiring ep) : Registered slot other := by
  have hnum : other.interruptNum = ep.interruptNum := congrArg Wiring.interruptNum hsame
  cases h with
  | epx registers num => exact .epx (registers.congr hsame) (hnum.trans num)
  | interrupt mem registers num =>
      refine .interrupt mem (registers.congr hsame) ?_
      rw [hnum]
      exact num

/-- The endpoint control register of a slot is no buffer control register. -/
theorem Registered.control_notBuffer {slot : Nat} {ep : HwEndpoint} (h : Registered slot ep)
    {pointer : Nat} (hpointer : ep.endpointControl = some pointer) : ¬ IsBufferControl pointer := by
  cases h with
  | epx registers _ =>
      cases registers.endpointControl.symm.trans hpointer
      decide
  | interrupt mem registers _ =>
      cases registers.endpointControl.symm.trans hpointer
      exact intEpCtrl_notBuffer (interruptSlots_num mem)

/-- Slots that share a control register share a buffer. -/
theorem Registered.data_eq {slot other : Nat} {ep otherEp : HwEndpoint} (h : Registered slot ep)
    (hother : Registered other otherEp) (hsame : otherEp.endpointControl = ep.endpointControl) :
    otherEp.hwDataBuf = ep.hwDataBuf := by
  cases h with
  | epx registers _ =>
      cases hother with
      | epx registers' _ => rw [registers'.hwDataBuf, registers.hwDataBuf]
      | interrupt mem registers' _ =>
          have hpointer := registers'.endpointControl.symm.trans
            (hsame.trans registers.endpointControl)
          have hpointer : 0x08 + 8 * (other - 1) = 0x100 := Option.some.inj hpointer
          have hnum : other - 1 < 15 := interruptSlots_num mem
          omega
  | interrupt mem registers _ =>
      have hnum : slot - 1 < 15 := interruptSlots_num mem
      cases hother with
      | epx registers' _ =>
          have hpointer := registers'.endpointControl.symm.trans
            (hsame.trans registers.endpointControl)
          have hpointer : 0x100 = 0x08 + 8 * (slot - 1) := Option.some.inj hpointer
          omega
      | interrupt mem' registers' _ =>
          have hpointer := registers'.endpointControl.symm.trans
            (hsame.trans registers.endpointControl)
          have hpointer : 0x08 + 8 * (other - 1) = 0x08 + 8 * (slot - 1) :=
            Option.some.inj hpointer
          rw [registers'.hwDataBuf, registers.hwDataBuf, show other - 1 = slot - 1 by omega]

/-- A slot whose wiring stays stays in order, when its control register points to its buffer as
before. -/
theorem SlotOk.congr {h k : Hcd} {slot : Nat} (hok : SlotOk h slot)
    (hsame : wiring (k.epPool slot) = wiring (h.epPool slot))
    (hcontrol : ∀ pointer data, Registered slot (h.epPool slot) →
      (h.epPool slot).endpointControl = some pointer → (h.epPool slot).hwDataBuf = some data →
      PointsTo (h.memory.word pointer) data → PointsTo (k.memory.word pointer) data) :
    SlotOk k slot := by
  have hpointer : (k.epPool slot).endpointControl = (h.epPool slot).endpointControl :=
    congrArg Wiring.endpointControl hsame
  have hdata : (k.epPool slot).hwDataBuf = (h.epPool slot).hwDataBuf :=
    congrArg Wiring.hwDataBuf hsame
  refine ⟨fun offset hbuffer => hok.buffer offset ?_, fun hconfigured => ?_, fun hwired => ?_⟩
  · exact (congrArg Wiring.bufferControl hsame).symm.trans hbuffer
  · rw [hpointer]
    exact hok.registers ((congrArg Wiring.configured hsame).symm.trans hconfigured)
  · have hopened := hok.opened (hpointer ▸ hwired)
    refine ⟨?_, ?_, hopened.registered.congr hsame, fun pointer data hk hkdata => ?_⟩
    · rw [show (k.epPool slot).rx = _ from congrArg Wiring.rx hsame,
        show (k.epPool slot).epAddr = _ from congrArg Wiring.epAddr hsame]
      exact hopened.direction
    · rw [show (k.epPool slot).transferType = _ from congrArg Wiring.transferType hsame]
      exact hopened.type
    · rw [hpointer] at hk
      rw [hdata] at hkdata
      exact hcontrol pointer data hopened.registered hk hkdata (hopened.control _ _ hk hkdata)

/-- Writing buffer control registers only leaves a slot in order. -/
theorem SlotOk.of_words {h k : Hcd} {slot : Nat} (hok : SlotOk h slot)
    (hsame : wiring (k.epPool slot) = wiring (h.epPool slot))
    (hword : ∀ offset, ¬ IsBufferControl offset →
      k.memory.word offset = h.memory.word offset) : SlotOk k slot := by
  refine hok.congr hsame fun pointer data hregistered hpointer _ hpoints => ?_
  rw [hword _ (hregistered.control_notBuffer hpointer)]
  exact hpoints

theorem PoolOk.of_samePool {h k : Hcd} (hok : PoolOk h) (hsame : SamePool h k) : PoolOk k :=
  fun slot => (hok slot).of_words (by rw [hsame.epPool]) hsame.word

/-- The engine keeps every slot in order, whichever slot it runs on. -/
theorem onSlot_poolOk {α : Type} (slot : Nat) {engine : Engine α}
    (hengine : Program.Moves Elsewhere engine) :
    Program.Moves (Program.Keeps PoolOk) (onSlot slot engine) := by
  refine Program.Moves.onPart_of hengine fun h c helsewhere hok => ?_
  intro other
  refine (hok other).of_words ?_ fun offset hoffset => ?_
  · show wiring (Function.update h.epPool slot c.ep other) = _
    by_cases hother : other = slot
    · subst hother
      rw [Function.update_self]
      exact eq_of_fixed wiring_fixed helsewhere.fixed
    · rw [Function.update_of_ne hother]
  · exact helsewhere.word offset fun hbuffer => hoffset ((hok slot).buffer offset hbuffer)

/-! ### Opening an endpoint -/

/-- A word shifted past the offset field has no bits in it. -/
theorem shifted_offset {count : Nat} (hcount : 16 ≤ count) (word : BitVec 32) :
    (word <<< count) &&& 0xffc0#32 = 0#32 := by
  have hmask : ∀ i < 32, ¬ i < 16 → (0xffc0#32).getLsbD i = false := by decide
  apply BitVec.eq_of_getLsbD_eq
  intro i hi
  by_cases hlow : i < 16
  · simp [show i < count by omega]
  · simp only [BitVec.getLsbD_and, hmask i hi hlow, Bool.and_false, BitVec.getLsbD_zero]

/-- A word without bit `bit` does not ask for two buffers once it is shifted there. -/
theorem shifted_single {word : UInt8} {count : Nat} (hcount : count ≤ 30)
    (h : word.toNat < 2 ^ (30 - count)) :
    hasBits (word.toBitVec.setWidth 32 <<< count) epCtrlDoubleBuffered = false := by
  have hbit : epCtrlDoubleBuffered = BitVec.twoPow 32 30 := by decide
  have hclear : word.toBitVec.getLsbD (30 - count) = false := Nat.testBit_lt_two_pow h
  have hnone : word.toBitVec.setWidth 32 <<< count &&& epCtrlDoubleBuffered = 0 := by
    rw [hbit, BitVec.and_twoPow]
    simp [hclear, show ¬ 30 < count by omega]
  unfold hasBits
  rw [hnone]
  rfl

/-- The control word of an endpoint points to its buffer. -/
theorem hostEndpointReg_pointsTo {transferType : UInt8} (htype : transferType.toNat < 4)
    {offset : Nat} (hoffset : BitVec.ofNat 32 offset &&& 0xffc0#32 = BitVec.ofNat 32 offset)
    (hsmall : offset < 2 ^ 16) (bmInterval : UInt8) :
    PointsTo (hostEndpointReg transferType offset bmInterval) offset := by
  have htypeBits : (transferType.toBitVec.setWidth 32 <<< 26) &&& 0xffc0#32 = 0#32 :=
    shifted_offset (by decide) _
  have hinterval : ((if bmInterval ≠ 0 then (bmInterval - 1).toBitVec.setWidth 32 <<< 16
      else 0 : BitVec 32)) &&& 0xffc0#32 = 0#32 ∧
      hasBits (if bmInterval ≠ 0 then (bmInterval - 1).toBitVec.setWidth 32 <<< 16
        else 0 : BitVec 32) epCtrlDoubleBuffered = false := by
    split
    · refine ⟨shifted_offset (by decide) _, shifted_single (by decide) ?_⟩
      have hlt := (bmInterval - 1).toNat_lt
      omega
    · decide
  constructor
  · have hflags : epCtrlEnable &&& 0xffc0#32 = 0#32 ∧
        epCtrlInterruptPerBuffer &&& 0xffc0#32 = 0#32 := by decide
    unfold hostEndpointReg endpointReg
    simp only [BitVec.and_or_distrib_right, hflags.1, hflags.2, htypeBits, hoffset, hinterval.1]
    simp
    omega
  · have hdata : hasBits (BitVec.ofNat 32 offset) epCtrlDoubleBuffered = false := by
      have hmask : 0xffc0#32 &&& epCtrlDoubleBuffered = 0#32 := by decide
      have hnone : BitVec.ofNat 32 offset &&& epCtrlDoubleBuffered = 0 := by
        rw [← hoffset, BitVec.and_assoc, hmask]
        simp
      unfold hasBits
      rw [hnone]
      rfl
    have htypeBit : hasBits (transferType.toBitVec.setWidth 32 <<< 26) epCtrlDoubleBuffered =
        false := shifted_single (by decide) (by omega)
    have hflags : hasBits epCtrlEnable epCtrlDoubleBuffered = false ∧
        hasBits epCtrlInterruptPerBuffer epCtrlDoubleBuffered = false := by decide
    unfold hostEndpointReg endpointReg
    rw [hasBits_or, hasBits_or, hasBits_or, hasBits_or, hdata, htypeBit, hflags.1, hflags.2,
      hinterval.2]
    rfl

/-- The offset of the buffer of an interrupt endpoint fits the field of the control word. -/
theorem interruptData_offset {num : Nat} (h : num < hostInterruptEndpoints) :
    hwDataOffset (epxDataOffset + 64 * (num + 2)) = epxDataOffset + 64 * (num + 2) ∧
      BitVec.ofNat 32 (epxDataOffset + 64 * (num + 2)) &&& 0xffc0#32 =
        BitVec.ofNat 32 (epxDataOffset + 64 * (num + 2)) := by
  have hall : ∀ num < 15, hwDataOffset (epxDataOffset + 64 * (num + 2)) =
      epxDataOffset + 64 * (num + 2) ∧
      BitVec.ofNat 32 (epxDataOffset + 64 * (num + 2)) &&& 0xffc0#32 =
        BitVec.ofNat 32 (epxDataOffset + 64 * (num + 2)) := by decide
  exact hall num h

/-- The control word that `_hw_endpoint_init` writes points to the buffer of the slot. -/
theorem Registered.pointsTo {slot : Nat} {ep : HwEndpoint} (h : Registered slot ep)
    {transferType : UInt8} (htype : transferType.toNat < 4) (bmInterval : UInt8) {data : Nat}
    (hdata : ep.hwDataBuf = some data) :
    PointsTo (hostEndpointReg transferType (hwDataOffset (ep.hwDataBuf.getD 0)) bmInterval)
      data := by
  cases h with
  | epx registers _ =>
      cases registers.hwDataBuf.symm.trans hdata
      rw [registers.hwDataBuf]
      exact hostEndpointReg_pointsTo htype (by decide) (by decide) _
  | interrupt mem registers _ =>
      have hnum : slot - 1 < 15 := interruptSlots_num mem
      obtain ⟨hoffset, hfield⟩ := interruptData_offset (interruptSlots_num mem)
      cases registers.hwDataBuf.symm.trans hdata
      rw [registers.hwDataBuf, Option.getD_some, hoffset]
      refine hostEndpointReg_pointsTo htype hfield ?_ _
      show 0x180 + 64 * (slot - 1 + 2) < 2 ^ 16
      omega

theorem Registered.buffer {slot : Nat} {ep : HwEndpoint} (h : Registered slot ep) {offset : Nat}
    (hbuffer : ep.bufferControl = some offset) : IsBufferControl offset := by
  cases h with
  | epx registers _ =>
      cases registers.bufferControl.symm.trans hbuffer
      decide
  | interrupt mem registers _ =>
      cases registers.bufferControl.symm.trans hbuffer
      exact intEpBufferCtrl_isBufferControl (interruptSlots_num mem)

/-- Filling in a slot leaves its registers as they are. -/
theorem Registered.initialised {slot : Nat} {ep : HwEndpoint} (h : Registered slot ep)
    (devAddr epAddr : UInt8) (wMaxPacketSize : UInt16) (transferType : UInt8) :
    Registered slot { HwEndpoint.initialised devAddr epAddr wMaxPacketSize transferType ep with
      configured := true } := by
  cases h with
  | epx registers num =>
      exact .epx ⟨registers.bufferControl, registers.endpointControl, registers.hwDataBuf⟩ num
  | interrupt mem registers num =>
      exact .interrupt mem
        ⟨registers.bufferControl, registers.endpointControl, registers.hwDataBuf⟩ num

/-- The controller after the part of `_hw_endpoint_init` for all endpoints. -/
def slotInitialised (slot : Nat) (devAddr epAddr : UInt8) (wMaxPacketSize : UInt16)
    (transferType bmInterval : UInt8) (h : Hcd) : Hcd :=
  let ready := HwEndpoint.initialised devAddr epAddr wMaxPacketSize transferType (h.epPool slot)
  let reg := hostEndpointReg transferType (hwDataOffset ((h.epPool slot).hwDataBuf.getD 0))
    bmInterval
  { h with
    epPool := Function.update h.epPool slot { ready with configured := true }
    memory := h.memory.writeWord (h.epPool slot).endpointControl reg }

/-- What `_hw_endpoint_init` has done when it ends, but for the part for polled endpoints. -/
theorem hostEndpointInit_split {slot : Nat} {devAddr epAddr : UInt8} {wMaxPacketSize : UInt16}
    {transferType bmInterval : UInt8} {h k : Hcd}
    (hrun : hostEndpointInit slot devAddr epAddr wMaxPacketSize transferType bmInterval h =
      .ok () k) :
    (∃ pointer, (h.epPool slot).endpointControl = some pointer) ∧
      Program.when (bmInterval ≠ 0) (enablePolling slot devAddr epAddr)
        (slotInitialised slot devAddr epAddr wMaxPacketSize transferType bmInterval h) =
          .ok () k := by
  unfold hostEndpointInit at hrun
  rw [Program.read_bind] at hrun
  obtain ⟨_, _, hcontrol, hrun⟩ := Program.bind_eq_ok hrun
  obtain ⟨hcontrol, rfl⟩ := Program.require_eq_ok hcontrol
  obtain ⟨_, _, hbuffer, hrun⟩ := Program.bind_eq_ok hrun
  obtain ⟨-, rfl⟩ := Program.require_eq_ok hbuffer
  obtain ⟨_, _, hdata, hrun⟩ := Program.bind_eq_ok hrun
  obtain ⟨-, rfl⟩ := Program.require_eq_ok hdata
  obtain ⟨_, _, hfields, hrun⟩ := Program.bind_eq_ok hrun
  cases hfields
  obtain ⟨_, _, haligned, hrun⟩ := Program.bind_eq_ok hrun
  obtain ⟨-, rfl⟩ := Program.require_eq_ok haligned
  obtain ⟨_, _, hreg, hrun⟩ := Program.bind_eq_ok hrun
  cases hreg
  obtain ⟨_, _, hconfigured, hrun⟩ := Program.bind_eq_ok hrun
  cases hconfigured
  refine ⟨Option.ne_none_iff_exists'.mp hcontrol, ?_⟩
  rw [← hrun]
  simp [slotInitialised]

/-- The pool and the registers after `_hw_endpoint_init`. -/
theorem hostEndpointInit_ok {slot : Nat} {devAddr epAddr : UInt8} {wMaxPacketSize : UInt16}
    {transferType bmInterval : UInt8} {h k : Hcd}
    (hrun : hostEndpointInit slot devAddr epAddr wMaxPacketSize transferType bmInterval h =
      .ok () k) :
    (∃ pointer, (h.epPool slot).endpointControl = some pointer) ∧
    k.epPool = Function.update h.epPool slot
      { HwEndpoint.initialised devAddr epAddr wMaxPacketSize transferType (h.epPool slot) with
        configured := true } ∧
    k.memory = h.memory.writeWord (h.epPool slot).endpointControl
      (hostEndpointReg transferType (hwDataOffset ((h.epPool slot).hwDataBuf.getD 0))
        bmInterval) := by
  obtain ⟨hcontrol, hpolled⟩ := hostEndpointInit_split hrun
  have hpolling : Program.Moves (Program.Same fun h : Hcd => (h.epPool, h.memory))
      (Program.when (bmInterval ≠ 0) (enablePolling slot devAddr epAddr)) :=
    .when (.bind (.require _ _) fun _ => .bind .read fun _ => .bind (.require _ _) fun _ =>
      .update fun _ => rfl)
  have hkept := hpolling.ok hpolled
  exact ⟨hcontrol, congrArg Prod.fst hkept, congrArg Prod.snd hkept⟩

/-- Opening an endpoint in a slot with registers puts the pool in order. -/
theorem hostEndpointInit_poolOk {slot : Nat} {devAddr epAddr : UInt8} {wMaxPacketSize : UInt16}
    {transferType bmInterval : UInt8} {h k : Hcd}
    (hrun : hostEndpointInit slot devAddr epAddr wMaxPacketSize transferType bmInterval h =
      .ok () k)
    (hregistered : Registered slot (h.epPool slot)) (htype : transferType.toNat < 4)
    (hothers : ∀ other, other ≠ slot → SlotOk h other) : PoolOk k := by
  obtain ⟨⟨written, hwritten⟩, hpool, hmemory⟩ := hostEndpointInit_ok hrun
  rw [hwritten] at hmemory
  intro other
  by_cases hother : other = slot
  · subst hother
    have hslot : k.epPool other =
        { HwEndpoint.initialised devAddr epAddr wMaxPacketSize transferType (h.epPool other) with
          configured := true } := by
      rw [hpool, Function.update_self]
    have hkept : Registered other (k.epPool other) := by
      rw [hslot]
      exact hregistered.initialised _ _ _ _
    refine ⟨fun offset => hkept.buffer, fun _ hnone => ?_, fun _ => ⟨?_, ?_, hkept, ?_⟩⟩
    · rw [hslot] at hnone
      cases hwritten.symm.trans hnone
    · rw [hslot]
      rfl
    · rw [hslot]
      exact htype
    · intro pointer data hpointer hdata
      rw [hslot] at hpointer hdata
      cases hwritten.symm.trans hpointer
      rw [hmemory, Memory.writeWord_same]
      exact hregistered.pointsTo htype _ hdata
  · have hsame : k.epPool other = h.epPool other := by
      rw [hpool, Function.update_of_ne hother]
    refine (hothers other hother).congr (by rw [hsame]) fun pointer data hreg hpointer hdata hold => ?_
    rw [hmemory]
    by_cases hshared : pointer = written
    · subst hshared
      have hbuffer := hregistered.data_eq hreg (hpointer.trans hwritten.symm)
      rw [Memory.writeWord_same]
      exact hregistered.pointsTo htype _ (hbuffer.symm.trans hdata)
    · rw [Memory.writeWord_other _ _ hshared]
      exact hold

/-- The controller with another endpoint in a slot. -/
def withSlot (h : Hcd) (slot : Nat) (ep : HwEndpoint) : Hcd :=
  { h with epPool := Function.update h.epPool slot ep }

@[simp] theorem withSlot_same (h : Hcd) (slot : Nat) (ep : HwEndpoint) :
    (withSlot h slot ep).epPool slot = ep := Function.update_self _ _ _

theorem withSlot_other (h : Hcd) {slot other : Nat} (ep : HwEndpoint) (hother : other ≠ slot) :
    (withSlot h slot ep).epPool other = h.epPool other := Function.update_of_ne hother _ _

/-- Every slot behind `epx` is taken. -/
def Exhausted (h : Hcd) : Prop := ∀ slot ∈ interruptSlots, (h.epPool slot).configured = true

instance (h : Hcd) : Decidable (Exhausted h) :=
  inferInstanceAs (Decidable (∀ slot ∈ interruptSlots, _))

/-- The search for a free slot takes the first one that is not configured, or the last slot. -/
theorem nextFreeInterruptEp_ok {h k : Hcd} {slot : Nat}
    (hrun : nextFreeInterruptEp h = .ok slot k) :
    slot ∈ interruptSlots ∧
      ((h.epPool slot).configured = false ∧ k = withSlot h slot { h.epPool slot with
          interruptNum := UInt8.ofNat (slot - 1) } ∨
        Exhausted h ∧ slot = hostInterruptEndpoints ∧ k = h) := by
  unfold nextFreeInterruptEp at hrun
  rw [Program.read_bind] at hrun
  cases hfind : interruptSlots.find? fun i => !(h.epPool i).configured with
  | none =>
      rw [hfind] at hrun
      cases hrun
      have hall := List.find?_eq_none.mp hfind
      exact ⟨by decide, .inr ⟨by simpa [Exhausted] using hall, rfl, rfl⟩⟩
  | some free =>
      rw [hfind] at hrun
      cases hrun
      have hfree := List.find?_some hfind
      exact ⟨List.mem_of_find?_eq_some hfind, .inl ⟨by simpa using hfree, rfl⟩⟩

/-- The slot that `_hw_endpoint_allocate` returns has its registers, and nothing else has
changed. -/
theorem hwEndpointAllocate_ok {transferType epAddr : UInt8} {h k : Hcd} {slot : Nat}
    (hok : PoolOk h) (hrun : hwEndpointAllocate transferType epAddr h = .ok slot k) :
    Registered slot (k.epPool slot) ∧ k.memory = h.memory ∧
      ∀ other, other ≠ slot → k.epPool other = h.epPool other := by
  unfold hwEndpointAllocate at hrun
  split at hrun
  · obtain ⟨found, middle, hfound, hrun⟩ := Program.bind_eq_ok hrun
    rw [Program.read_bind] at hrun
    obtain ⟨_, _, hnum, hrun⟩ := Program.bind_eq_ok hrun
    obtain ⟨hlt, hsame⟩ := Program.require_eq_ok hnum
    rw [hsame] at hrun
    cases hrun
    obtain ⟨hmem, hcase⟩ := nextFreeInterruptEp_ok hfound
    -- The number of the slot tells which registers it is given.
    have hnumber : (middle.epPool slot).interruptNum.toNat = slot - 1 := by
      rcases hcase with ⟨-, rfl⟩ | ⟨hall, -, rfl⟩
      · have hnum : slot - 1 < 15 := interruptSlots_num hmem
        rw [withSlot_same]
        show (UInt8.ofNat (slot - 1)).toNat = slot - 1
        rw [UInt8.toNat_ofNat']
        omega
      · have hlt : (middle.epPool slot).interruptNum.toNat < 15 := hlt
        cases ((hok slot).opened ((hok slot).registers (hall slot hmem))).registered with
        | epx _ num =>
            rw [num] at hlt
            exact absurd hlt (by decide)
        | interrupt _ _ num => exact num
    have hothers : middle.memory = h.memory ∧
        ∀ other, other ≠ slot → middle.epPool other = h.epPool other := by
      rcases hcase with ⟨-, rfl⟩ | ⟨-, -, rfl⟩
      · exact ⟨rfl, fun other hother => withSlot_other h _ hother⟩
      · exact ⟨rfl, fun _ _ => rfl⟩
    refine ⟨?_, hothers.1, fun other hother => ?_⟩
    · show Registered slot ((withSlot middle slot _).epPool slot)
      rw [withSlot_same, hnumber]
      exact .interrupt hmem ⟨rfl, rfl, rfl⟩ hnumber
    · exact (withSlot_other middle _ hother).trans (hothers.2 other hother)
  · have hepx (middle : Hcd) (hmemory : middle.memory = h.memory)
        (hpool : ∀ other, other ≠ slot → middle.epPool other = h.epPool other)
        (hk : k = withSlot middle slot (middle.epPool slot).onEpxRegisters) :
        Registered slot (k.epPool slot) ∧ k.memory = h.memory ∧
          ∀ other, other ≠ slot → k.epPool other = h.epPool other := by
      subst hk
      refine ⟨?_, hmemory, fun other hother => ?_⟩
      · rw [withSlot_same]
        exact .epx ⟨rfl, rfl, rfl⟩ rfl
      · exact (withSlot_other middle _ hother).trans (hpool other hother)
    dsimp only at hrun
    split at hrun
    · cases hrun
      exact hepx h rfl (fun _ _ => rfl) rfl
    · obtain ⟨found, middle, hfound, hrun⟩ := Program.bind_eq_ok hrun
      cases hrun
      rcases (nextFreeInterruptEp_ok hfound).2 with ⟨-, rfl⟩ | ⟨-, -, rfl⟩
      · exact hepx (withSlot h slot _) rfl (fun other hother => withSlot_other h _ hother) rfl
      · exact hepx _ rfl (fun _ _ => rfl) rfl

/-- Opening an endpoint with freshly given registers puts the pool in order. -/
theorem PoolOk.allocated {transferType epAddr : UInt8} {h k l : Hcd} {slot : Nat} (hok : PoolOk h)
    (halloc : hwEndpointAllocate transferType epAddr h = .ok slot k)
    {devAddr address : UInt8} {wMaxPacketSize : UInt16} {type bmInterval : UInt8}
    (htype : type.toNat < 4)
    (hinit : hostEndpointInit slot devAddr address wMaxPacketSize type bmInterval k = .ok () l) :
    PoolOk l := by
  obtain ⟨hregistered, hmemory, hothers⟩ := hwEndpointAllocate_ok hok halloc
  refine hostEndpointInit_poolOk hinit hregistered htype fun other hother => ?_
  exact (hok other).of_words (by rw [hothers other hother]) fun _ _ => by rw [hmemory]

theorem hcdEdptOpen_poolOk (desc : EndpointPointer) (devAddr : UInt8) :
    Program.Ends (Program.Keeps PoolOk) (hcdEdptOpen desc devAddr) := by
  intro h value last hrun hok
  obtain ⟨slot, middle, halloc, hinit⟩ := Program.bind_eq_ok hrun
  refine hok.allocated halloc ?_ hinit
  have hand : desc.xfer.toNat ≤ 3 := by
    show (_ &&& (0x3 : UInt8)).toNat ≤ 3
    rw [UInt8.toNat_and]
    exact Nat.and_le_right
  omega

theorem hcdSetupSend_poolOk (devAddr : UInt8) (packet : List UInt8) :
    Program.Ends (Program.Keeps PoolOk) (hcdSetupSend devAddr packet) := by
  intro h value last hrun hok
  have hloaded : PoolOk { h with setupPacket := h.setupPacket.writeAt 0 packet } :=
    hok.of_samePool (.of_eq rfl rfl)
  obtain ⟨_, _, hload, hrun⟩ := Program.bind_eq_ok hrun
  cases hload
  obtain ⟨slot, middle, halloc, hrun⟩ := Program.bind_eq_ok hrun
  rw [Program.read_bind] at hrun
  obtain ⟨_, opened, hinit, hrun⟩ := Program.bind_eq_ok hrun
  have hopened : PoolOk opened := hloaded.allocated halloc (by decide) hinit
  obtain ⟨_, _, hactive, hrun⟩ := Program.bind_eq_ok hrun
  cases hactive
  obtain ⟨_, started, hstart, hflags⟩ := Program.bind_eq_ok hrun
  have helsewhere : Program.Moves Elsewhere (setEp fun ep : HwEndpoint =>
      { ep with remainingLen := 8, active := true }) :=
      elsewhere_rule.setEp (fun _ => rfl) fun _ => rfl
  have hready := (onSlot_poolOk slot helsewhere).ok hstart (hopened.of_samePool (.of_eq rfl rfl))
  cases hflags
  exact hready.of_samePool (.of_eq rfl rfl)

theorem poolOk_rule : DriverRule (Program.Keeps PoolOk) where
  quiet _ _ hsame hok := hok.of_samePool hsame
  engine slot _ hengine _ := onSlot_poolOk slot hengine
  size size h _ k hrun hok := by
    cases hrun
    intro slot
    refine (hok slot).of_words ?_ fun _ _ => rfl
    show wiring (Function.update h.epPool epx _ slot) = _
    by_cases hslot : slot = epx
    · rw [hslot, Function.update_self]
      rfl
    · rw [Function.update_of_ne hslot]
  setup := hcdSetupSend_poolOk
  turn devAddr epAddr h k hrun hok := by
    obtain ⟨⟨pointer, hpointer⟩, -, -⟩ := hostEndpointInit_ok hrun
    have hopened := (hok epx).opened (by rw [hpointer]; exact Option.some_ne_none _)
    exact hostEndpointInit_poolOk hrun hopened.registered hopened.type fun other _ => hok other
  opened := hcdEdptOpen_poolOk

theorem poolOk_init (romWord : BitVec 32) : PoolOk (.init romWord) :=
  fun _ => ⟨nofun, nofun, fun h => absurd rfl h⟩

/-- The pool is in order in every state of a run in which core 0 has not stopped. -/
theorem poolOk_of_run {romWord : BitVec 32} {events : List Event} {m : Core0}
    (hrun : Machine.run step (.init romWord) events = some m) (hrunning : m.halted = none) :
    PoolOk m.slave.hcd := running_invariant poolOk_rule (poolOk_init romWord) hrun hrunning

end UsbSec.Host
