import UsbSec.Library.Machine
import UsbSec.Rp2040.Delivery

/-!
# Transfers one after another

Transfers on one endpoint of the device half, each started when the one before it is complete. In
between anything may happen to the memory, so that the transfers of the other endpoints and what the
rest of the firmware does to its buffers are covered. Each transfer delivers its buffer exactly, and
the PIDs of the packets alternate from the first packet of the first transfer to the last packet of
the last one.
-/

namespace UsbSec.Rp2040

open Library Usb

/-! ## Transfers -/

/-- A transfer with the memory in which it starts, its packets, and the endpoint and the memory when
it is complete. -/
structure Delivery where
  buffer : UserBuf
  totalLen : UInt16
  before : Memory
  wires : List WirePacket
  after : Channel

/-- The bytes that go over the bus. -/
def Delivery.bytes (x : Delivery) : List UInt8 := (x.wires.map WirePacket.bytes).flatten

/-- A transfer of all that its buffer holds, to its end. -/
structure Completes (ep : HwEndpoint) (x : Delivery) : Prop where
  deviceMode : DeviceMode x.before
  holds : x.buffer.Holds .master x.totalLen.toNat
  writable : ep.rx = true → ¬ x.buffer.IsPayload
  exchanged : ∃ started, hwEndpointXferStart .master x.buffer x.totalLen ⟨ep, x.before⟩ =
    .ok () started ∧ Exchanged started x.wires x.after

/-- Transfers on an endpoint, one after another. -/
inductive Transfers : HwEndpoint → List Delivery → HwEndpoint → Prop
  | nil (ep : HwEndpoint) : Transfers ep [] ep
  | cons {ep last : HwEndpoint} {x : Delivery} {rest : List Delivery} (h : Completes ep x)
      (later : Transfers x.after.ep.resetTransfer rest last) : Transfers ep (x :: rest) last

/-- The packets to the host are the bytes of the buffer in order, each of full size but the last,
and only the last is marked as the last. -/
structure SentExactly (size : Nat) (x : Delivery) : Prop where
  bytes : x.bytes = x.buffer.bytes x.before x.totalLen.toNat
  count : x.wires.length = max 1 ((x.totalLen.toNat + size - 1) / size)
  lengths : ∀ i wire, x.wires[i]? = some wire →
    wire.bytes.length = min (x.totalLen.toNat - size * i) size
  last : ∀ i wire, x.wires[i]? = some wire → (wire.last = true ↔ i + 1 = x.wires.length)
  xferredLen : x.after.ep.xferredLen = x.totalLen

/-- The packets from the host end with the first short one or the last byte that was asked for, and
their bytes are in the buffer. -/
structure ReceivedExactly (size : Nat) (x : Delivery) : Prop where
  fills : Fills size x.totalLen.toNat (x.wires.map WirePacket.bytes)
  stored : x.buffer.bytes x.after.memory x.bytes.length = x.bytes
  xferredLen : x.after.ep.xferredLen.toNat = x.bytes.length

/-- The transfer delivers its buffer. -/
def DeliveredExactly (ep : HwEndpoint) (x : Delivery) : Prop :=
  if ep.rx then ReceivedExactly ep.wMaxPacketSize.toNat x
  else SentExactly ep.wMaxPacketSize.toNat x

/-- A transfer can be made: towards the host it runs in one way, from the host with all packets that
fill the buffer. -/
def CanDeliver (ep : HwEndpoint) : Prop :=
  ∀ (buffer : UserBuf) (totalLen : UInt16) (before : Memory), DeviceMode before →
    buffer.Holds .master totalLen.toNat → (ep.rx = true → ¬ buffer.IsPayload) →
    ∃ started, hwEndpointXferStart .master buffer totalLen ⟨ep, before⟩ = .ok () started ∧
      if ep.rx then ∀ packets : List Packet,
        Fills ep.wMaxPacketSize.toNat totalLen.toNat (packets.map Packet.bytes) →
          ∃ wires after, Exchanged started wires after ∧ wires.map WirePacket.packet = packets
      else ∃ wires after, ∀ others last,
        Exchanged started others last ↔ others = wires ∧ last = after

/-- Whatever transfers the endpoint makes, each delivers its buffer, the PIDs alternate from the
next PID on, and another transfer can be made. -/
def DeliversExactly (ep : HwEndpoint) : Prop :=
  ∀ deliveries last, Transfers ep deliveries last →
    (∀ x ∈ deliveries, DeliveredExactly ep x) ∧
      Alternating (decide (ep.nextPid ≠ 0)) (deliveries.flatMap Delivery.wires)
        (decide (last.nextPid ≠ 0)) ∧ CanDeliver last

/-! ## One transfer -/

section Transfer

variable {size buffer control base : Nat}

/-- The registers and the buffer of an endpoint, in any memory. -/
def Seated (size buffer control base : Nat) (ep : HwEndpoint) : Prop :=
  ∀ memory, DeviceMode memory → Ready size buffer control base ⟨ep, memory⟩

theorem Ready.seated {c : Channel} (h : Ready size buffer control base c) :
    Seated size buffer control base c.ep := fun _ hmode => h.of_fixed rfl hmode h.pid

theorem Seated.fresh {ep : HwEndpoint} (h : Seated size buffer control base ep) {before : Memory}
    (hmode : DeviceMode before) (origin : UserBuf) (totalLen : UInt16) :
    Ready size buffer control base (freshChannel origin totalLen ⟨ep, before⟩) :=
  (h before hmode).of_fixed rfl hmode (h before hmode).pid

/-- A transfer to the host is started with the first packet. -/
theorem Seated.sends {ep : HwEndpoint} (h : Seated size buffer control base ep)
    (hrx : ep.rx = false) {before : Memory} (hmode : DeviceMode before) {origin : UserBuf}
    {totalLen : UInt16} (hholds : origin.Holds .master totalLen.toNat) :
    ∃ started wires after,
      hwEndpointXferStart .master origin totalLen ⟨ep, before⟩ = .ok () started ∧
      started.ep.nextPid = ep.nextPid ^^^ 1 ∧ started.ep.xferredLen = 0 ∧
      ContentSent size buffer control base (origin.bytes before totalLen.toNat) started wires
        after := by
  have hlength := UserBuf.length_bytes hholds before
  have hall : origin.bytes before (origin.bytes before totalLen.toNat).length =
      origin.bytes before totalLen.toNat := congrArg (origin.bytes before) hlength
  have hheld : origin.Holds .master (origin.bytes before totalLen.toNat).length := by
    rw [hlength]
    exact hholds
  obtain ⟨started, hstart, hep, hsending⟩ :=
    (h.fresh hmode origin totalLen).starts_sending rfl hrx hlength.symm hheld hall
  obtain ⟨wires, after, hsent⟩ := hsending.content_sent
  refine ⟨started, wires, after, ?_, ?_, ?_, hsent⟩
  · rw [hwEndpointXferStart_eq]
    exact hstart
  · rw [hep]
    rfl
  · rw [hep]
    rfl

/-- A transfer from the host is started with nothing received. -/
theorem Seated.receives {ep : HwEndpoint} (h : Seated size buffer control base ep)
    (hrx : ep.rx = true) {before : Memory} (hmode : DeviceMode before) {origin : UserBuf}
    {totalLen : UInt16} (hholds : origin.Holds .master totalLen.toNat)
    (hwritable : ¬ origin.IsPayload) :
    ∃ started, hwEndpointXferStart .master origin totalLen ⟨ep, before⟩ = .ok () started ∧
      started.ep.nextPid = ep.nextPid ^^^ 1 ∧ started.ep.xferredLen = 0 ∧
      Receiving size buffer control base origin [] totalLen.toNat started := by
  have hnone : origin.bytes before 0 = [] := by
    cases origin <;> rfl
  have hwhere : (freshChannel origin totalLen ⟨ep, before⟩).ep.userBuf =
      origin.advance ([] : List UInt8).length := by
    cases origin <;> rfl
  have hall : origin.Holds .master (([] : List UInt8).length + totalLen.toNat) := by
    rw [List.length_nil, Nat.zero_add]
    exact hholds
  obtain ⟨started, hstart, hep, hreceiving⟩ := (h.fresh hmode origin totalLen).starts_receiving
    rfl hrx rfl hwhere hnone hall hwritable
  refine ⟨started, ?_, ?_, ?_, hreceiving⟩
  · rw [hwEndpointXferStart_eq]
    exact hstart
  · rw [hep]
    rfl
  · rw [hep]
    rfl

theorem Seated.canDeliver {ep : HwEndpoint} (h : Seated size buffer control base ep) :
    CanDeliver ep := by
  intro origin totalLen before hmode hholds hwritable
  have hsize := (h before hmode).wMaxPacketSize
  cases hrx : ep.rx with
  | true =>
      obtain ⟨started, hstart, -, -, hreceiving⟩ := h.receives hrx hmode hholds (hwritable hrx)
      refine ⟨started, hstart, ?_⟩
      intro packets hfills
      rw [hsize] at hfills
      exact hreceiving.takes hfills
  | false =>
      obtain ⟨started, wires, after, hstart, -, -, hsent⟩ := h.sends hrx hmode hholds
      exact ⟨started, hstart, wires, after, hsent.only⟩

/-- The controller does not touch the endpoint. -/
theorem exchange_ep {c taken : Channel} {wire : WirePacket} (h : exchange c wire = some taken) :
    taken.ep = c.ep := by
  unfold exchange at h
  split at h
  · dsimp only at h
    rw [Option.ite_none_right_eq_some] at h
    obtain ⟨-, h⟩ := h
    split at h
    · rw [Option.ite_none_right_eq_some] at h
      obtain ⟨-, h⟩ := h
      cases h
      rfl
    · rw [Option.ite_none_right_eq_some] at h
      obtain ⟨-, h⟩ := h
      cases h
      rfl
  · cases h

/-- The exchange of packets moves no pointers. -/
theorem Exchanged.fixed {c d : Channel} {wires : List WirePacket} (h : Exchanged c wires d) :
    d.ep.fixed = c.ep.fixed := by
  have hround {c d : Channel} {wire : WirePacket} {done : Bool}
      (hrun : round c wire = some (done, d)) : d.ep.fixed = c.ep.fixed := by
    obtain ⟨taken, hexchange, heq⟩ := Option.bind_eq_some_iff.mp hrun
    have htaken := exchange_ep hexchange
    split at heq
    · rename_i hcontinue
      cases heq
      rw [← htaken]
      exact (hwEndpointXferContinue_same_fixed .master).ok hcontinue
    · cases heq
  induction h with
  | last hrun => exact hround hrun
  | more hrun _ ih => exact ih.trans (hround hrun)

/-- What a transfer that is complete has done. -/
structure Complete (size buffer control base : Nat) (ep : HwEndpoint) (x : Delivery) : Prop where
  delivered : DeliveredExactly ep x
  pids : Alternating (decide (ep.nextPid ≠ 0)) x.wires (decide (x.after.ep.nextPid ≠ 0))
  ready : Ready size buffer control base x.after
  fixed : x.after.ep.fixed = ep.fixed

/-- Each packet is one of those into which the content is split. -/
theorem ContentSent.sentExactly {content : List UInt8} {started : Channel} {x : Delivery}
    (h : ContentSent size buffer control base content started x.wires x.after)
    (hpositive : 0 < size) (hcontent : content = x.buffer.bytes x.before x.totalLen.toNat)
    (hlength : content.length = x.totalLen.toNat) (hfresh : started.ep.xferredLen = 0) :
    SentExactly size x := by
  have hsplit := h.bytes
  constructor
  case bytes =>
    unfold Delivery.bytes
    rw [hsplit, flatten_split hpositive, hcontent]
  case count =>
    rw [← hlength, ← length_split hpositive, ← hsplit, List.length_map]
  case lengths =>
    intro i wire hwire
    rw [← hlength]
    refine length_packet hpositive content ?_
    rw [← hsplit, List.getElem?_map, hwire]
    rfl
  case last => exact h.last
  case xferredLen =>
    rw [h.xferredLen, hfresh, hlength, UInt16.ofNat_toNat, UInt16.zero_add]

/-- A transfer to the host that runs to its end sends its buffer. -/
theorem Completes.sent {ep : HwEndpoint} {x : Delivery} (hx : Completes ep x)
    (h : Seated size buffer control base ep) (hrx : ep.rx = false) :
    Complete size buffer control base ep x := by
  have hready := h x.before hx.deviceMode
  obtain ⟨other, hother, hexchanged⟩ := hx.exchanged
  obtain ⟨started, wires, after, hstart, hpid, hfresh, hsent⟩ := h.sends hrx hx.deviceMode hx.holds
  cases hother.symm.trans hstart
  obtain ⟨rfl, rfl⟩ := (hsent.only _ _).mp hexchanged
  have hpids := hsent.pids
  rw [hpid, hready.pid.data1_toggle, Bool.not_not] at hpids
  refine ⟨?_, hpids, hsent.ready, ?_⟩
  · unfold DeliveredExactly
    rw [hrx, hready.wMaxPacketSize]
    exact hsent.sentExactly hready.positive rfl (UserBuf.length_bytes hx.holds _) hfresh
  · exact hexchanged.fixed.trans ((hwEndpointXferStart_same_fixed _ _ _).ok hstart)

/-- A transfer from the host that runs to its end stores what arrives. -/
theorem Completes.received {ep : HwEndpoint} {x : Delivery} (hx : Completes ep x)
    (h : Seated size buffer control base ep) (hrx : ep.rx = true) :
    Complete size buffer control base ep x := by
  have hready := h x.before hx.deviceMode
  obtain ⟨other, hother, hexchanged⟩ := hx.exchanged
  obtain ⟨started, hstart, hpid, hfresh, hreceiving⟩ :=
    h.receives hrx hx.deviceMode hx.holds (hx.writable hrx)
  cases hother.symm.trans hstart
  have hreceived := hreceiving.content_received hexchanged
  have hpids := hreceived.pids
  rw [hpid, hready.pid.data1_toggle, Bool.not_not] at hpids
  refine ⟨?_, hpids, hreceived.ready, ?_⟩
  · have hle : x.bytes.length ≤ x.totalLen.toNat := hreceived.fills.length_le
    have hlt := x.totalLen.toNat_lt
    have hxferred : x.after.ep.xferredLen = UInt16.ofNat x.bytes.length := by
      have hsum := hreceived.xferredLen
      rw [hfresh, UInt16.zero_add] at hsum
      exact hsum
    unfold DeliveredExactly
    rw [hrx, hready.wMaxPacketSize]
    refine ⟨hreceived.fills, hreceived.bytes, ?_⟩
    rw [hxferred, UInt16.toNat_ofNat']
    omega
  · exact hexchanged.fixed.trans ((hwEndpointXferStart_same_fixed _ _ _).ok hstart)

theorem Completes.complete {ep : HwEndpoint} {x : Delivery} (hx : Completes ep x)
    (h : Seated size buffer control base ep) : Complete size buffer control base ep x := by
  cases hrx : ep.rx with
  | true => exact hx.received h hrx
  | false => exact hx.sent h hrx

/-- The endpoint can be used again. -/
theorem Complete.seated {ep : HwEndpoint} {x : Delivery} (h : Complete size buffer control base ep x) :
    Seated size buffer control base x.after.ep.resetTransfer :=
  (h.ready.of_fixed (d := ⟨x.after.ep.resetTransfer, x.after.memory⟩) rfl h.ready.deviceMode
    h.ready.pid).seated

theorem DeliveredExactly.of_fixed {first second : HwEndpoint} {x : Delivery}
    (h : DeliveredExactly second x) (hfixed : second.fixed = first.fixed) :
    DeliveredExactly first x := by
  have hrx : second.rx = first.rx := eq_of_fixed (fun _ => rfl) hfixed
  have hsize : second.wMaxPacketSize = first.wMaxPacketSize := eq_of_fixed (fun _ => rfl) hfixed
  unfold DeliveredExactly at h ⊢
  rwa [← hrx, ← hsize]

/-- An endpoint with its registers and a buffer delivers every buffer exactly. -/
theorem Seated.deliversExactly {ep : HwEndpoint} (h : Seated size buffer control base ep) :
    DeliversExactly ep := by
  intro deliveries last hrun
  induction hrun with
  | nil ep => exact ⟨fun x hx => absurd hx List.not_mem_nil, .nil _, h.canDeliver⟩
  | @cons ep last x rest hx _ ih =>
      have hcomplete := hx.complete h
      obtain ⟨hlater, hpids, hcan⟩ := ih hcomplete.seated
      refine ⟨?_, ?_, hcan⟩
      · intro y hy
        rcases List.mem_cons.mp hy with rfl | hmem
        · exact hcomplete.delivered
        · exact (hlater y hmem).of_fixed hcomplete.fixed
      · rw [List.flatMap_cons]
        exact hcomplete.pids.append hpids

end Transfer

/-! ## Open endpoints -/

/-- What the device half does to its table: the calls that concern the buffers, and the ends of
transfers. Anything else may change but the main control register. -/
inductive DriverStep where
  | call (function : BufferCall)
  | resetTransfer (num : Nat) (dirIn : Bool)
  | resetEp0Pid
  | outside (change : Dcd → Dcd)

/-- The call opens no endpoint but one numbered 1 to 15. -/
def DriverStep.Numbered : DriverStep → Prop
  | .call function => function.Numbered
  | _ => True

instance decidableStepNumbered : ∀ step : DriverStep, Decidable step.Numbered
  | .call function => decidableNumbered function
  | .resetTransfer _ _ => isTrue trivial
  | .resetEp0Pid => isTrue trivial
  | .outside _ => isTrue trivial

/-- A change that leaves alone the table, the allocator and the main control register. -/
def outsideChange (change : Dcd → Dcd) (d : Dcd) : Dcd :=
  { change d with
    hwEndpoints := d.hwEndpoints
    nextBufferPtr := d.nextBufferPtr
    memory := { (change d).memory with mainCtrl := d.memory.mainCtrl } }

/-- A step that does not stop the master. -/
def driverStep (d : Dcd) : DriverStep → Option Dcd
  | .call function => bufferStep d function
  | .resetTransfer num dirIn =>
      some (Program.final (withEndpoint num dirIn hwEndpointResetTransferNew d))
  | .resetEp0Pid => some (Program.final (resetEp0Pid d))
  | .outside change => some (outsideChange change d)

/-- The pointers of the endpoint are those of its registers. -/
structure Pointed (num : Nat) (dirIn : Bool) (ep : HwEndpoint) : Prop where
  bufferControl : ep.bufferControl = some (epBufCtrl num dirIn)
  endpointControl : ep.endpointControl = some (epCtrl (num - 1) dirIn)

/-- The buffers are arranged, each open endpoint has its registers, and each PID is one of the
two. -/
structure Serving (d : Dcd) : Prop where
  arranged : Arranged d
  pointed : ∀ num dirIn, d.buffer (num, dirIn) ≠ none → Pointed num dirIn (d.hwEndpoints num dirIn)
  pids : ∀ num dirIn, PidOk (d.hwEndpoints num dirIn).nextPid

/-- The PIDs of the table are one of the two. -/
def PidsOk (d : Dcd) : Prop := ∀ num dirIn, PidOk (d.hwEndpoints num dirIn).nextPid

theorem withEndpoint_keeps_pids {α : Type} (num : Nat) (dirIn : Bool) {engine : Engine α}
    (h : Program.Moves KeepsPid engine) :
    Program.Moves (Program.Keeps PidsOk) (withEndpoint num dirIn engine) := by
  refine Program.Moves.onPart_of h fun d c hc hd other dir => ?_
  by_cases hsame : other = num ∧ dir = dirIn
  · obtain ⟨rfl, rfl⟩ := hsame
    show PidOk ((d.setEndpoint other dir c.ep).hwEndpoints other dir).nextPid
    rw [Dcd.setEndpoint_same]
    exact hc (hd other dir)
  · show PidOk ((d.setEndpoint num dirIn c.ep).hwEndpoints other dir).nextPid
    rw [Dcd.setEndpoint_other _ _ hsame]
    exact hd other dir

theorem startNextBufferMaster_keeps_pid : Program.Moves KeepsPid startNextBufferMaster :=
  startNextBufferMaster_moves keepsPid_rule fun _ _ _ => id

theorem Transfer.engine_keeps_pid (transfer : Transfer) : Program.Moves KeepsPid transfer.engine := by
  have hstart : Program.Moves KeepsPid (hwEndpointStartNextBuffer .master) :=
    startNextBufferMaster_keeps_pid
  cases transfer with
  | xferStart buffer totalLen => exact hwEndpointXferStart_moves keepsPid_rule hstart _ _
  | xferPartial buffer totalLen =>
      exact hwEndpointXferPartial_moves keepsPid_rule (fun _ _ _ => id) _ _ _
  | xferContinue =>
      exact .bind (hwEndpointXferContinue_moves keepsPid_rule hstart) fun _ => .pure _

theorem setEp_keeps_pid {change : HwEndpoint → HwEndpoint}
    (h : ∀ ep, PidOk ep.nextPid → PidOk (change ep).nextPid) :
    Program.Moves KeepsPid (setEp change) := Program.Moves.update fun c => h c.ep

theorem hwEndpointAlloc_keeps_pids (num : Nat) (dirIn : Bool) (transferType : UInt8) :
    Program.Moves (Program.Keeps PidsOk) (hwEndpointAlloc num dirIn transferType) := by
  refine .bind .read fun d => ?_
  refine .bind (withEndpoint_keeps_pids _ _ (setEp_keeps_pid fun _ => id)) fun _ => ?_
  refine .bind (.update fun _ => id) fun _ => ?_
  refine .bind (.require _ _) fun _ => .bind (.require _ _) fun _ => ?_
  exact .update fun _ => id

/-- An endpoint that is opened begins with DATA0. -/
theorem hwEndpointInit_keeps_pids (epAddr : UInt8) (wMaxPacketSize : UInt16)
    (transferType : UInt8) :
    Program.Moves (Program.Keeps PidsOk) (hwEndpointInit epAddr wMaxPacketSize transferType) := by
  refine .bind (.bind (.require _ _) fun _ => .pure _) fun place => ?_
  refine .bind (withEndpoint_keeps_pids _ _ (setEp_keeps_pid fun _ _ => .inl rfl)) fun _ => ?_
  refine .bind (.update fun _ => id) fun _ => .ite ?_ ?_
  · exact withEndpoint_keeps_pids _ _ (setEp_keeps_pid fun _ => id)
  · refine .bind (withEndpoint_keeps_pids _ _ (setEp_keeps_pid fun _ => id)) fun _ => ?_
    exact hwEndpointAlloc_keeps_pids _ _ _

theorem resetNonControlEndpoints_keeps_pids :
    Program.Moves (Program.Keeps PidsOk) resetNonControlEndpoints := by
  intro d hd num dirIn
  show PidOk (if 1 ≤ num ∧ num < usbMaxEndpoints then HwEndpoint.zero
    else d.hwEndpoints num dirIn).nextPid
  split
  · exact .inl rfl
  · exact hd num dirIn

/-! ## Each step keeps the endpoints in service -/

/-- Only the progress of transfers has changed. -/
theorem Serving.of_progress {d e : Dcd} (h : Serving d) (harranged : Arranged e)
    (hprogress : OnlyProgress d e) (hpids : PidsOk e) : Serving e := by
  refine ⟨harranged, fun num dirIn hopen => ?_, hpids⟩
  have hshape : (e.hwEndpoints num dirIn).shape = (d.hwEndpoints num dirIn).shape :=
    shape_of_fixed (hprogress num dirIn)
  have hopenBefore : d.buffer (num, dirIn) ≠ none := by
    have hbuf : (e.hwEndpoints num dirIn).hwDataBuf = (d.hwEndpoints num dirIn).hwDataBuf :=
      congrArg Shape.hwDataBuf hshape
    unfold Dcd.buffer at hopen ⊢
    rw [hbuf] at hopen
    split
    · rename_i hnum
      rw [if_pos hnum, Ne, Option.map_eq_none_iff] at hopen
      rwa [Ne, Option.map_eq_none_iff]
    · rename_i hnum
      rw [if_neg hnum] at hopen
      exact hopen
  have hpointed := h.pointed num dirIn hopenBefore
  exact ⟨(congrArg Shape.bufferControl hshape).trans hpointed.bufferControl,
    (congrArg Shape.endpointControl hshape).trans hpointed.endpointControl⟩

theorem Serving.openNew {d e : Dcd} {desc : EndpointPointer} (h : Serving d)
    (hnum : (BufferCall.openNew desc).Numbered) (harranged : Arranged e)
    (hrun : dcdEdptOpenNew desc d = .ok () e) : Serving e := by
  obtain ⟨-, hother, hshape⟩ := hwEndpointInit_ok hrun
  refine ⟨harranged, fun num dirIn hopen => ?_, (hwEndpointInit_keeps_pids _ _ _).ok hrun h.pids⟩
  by_cases hsame : num = (tuEdptNumber desc.bEndpointAddress).toNat ∧
      dirIn = tuEdptDirIn desc.bEndpointAddress
  · obtain ⟨rfl, rfl⟩ := hsame
    have hopened := hshape (Nat.ne_of_gt hnum.1)
    exact ⟨congrArg Shape.bufferControl hopened, congrArg Shape.endpointControl hopened⟩
  · have hep := hother num dirIn hsame
    have hopenBefore : d.buffer (num, dirIn) ≠ none := by
      unfold Dcd.buffer at hopen ⊢
      rwa [hep] at hopen
    rw [hep]
    exact h.pointed num dirIn hopenBefore

theorem Serving.call {d e : Dcd} {function : BufferCall} (h : Serving d) (hnum : function.Numbered)
    (hstep : bufferStep d function = some e) : Serving e := by
  have harranged := bufferStep_arranged hnum h.arranged hstep
  have hrun : function.program d = .ok () e := by
    unfold bufferStep at hstep
    split at hstep
    · rename_i value next hok
      cases hstep
      exact hok
    · cases hstep
  cases function with
  | openNew desc => exact h.openNew hnum harranged hrun
  | resetNonControl =>
      refine ⟨harranged, fun num dirIn hopen => ?_,
        resetNonControlEndpoints_keeps_pids.ok hrun h.pids⟩
      -- No endpoint but endpoint 0 has a buffer after a reset.
      have hnone : e.buffer (num, dirIn) = none := by
        cases hrun
        unfold Dcd.buffer
        split
        · rename_i hplace
          have hzero : (if 1 ≤ num ∧ num < usbMaxEndpoints then HwEndpoint.zero
              else d.hwEndpoints num dirIn) = .zero := if_pos hplace
          show (if 1 ≤ num ∧ num < usbMaxEndpoints then HwEndpoint.zero
            else d.hwEndpoints num dirIn).hwDataBuf.map _ = none
          rw [hzero]
          rfl
        · rfl
      exact absurd hnone hopen
  | transfer num dirIn kind =>
      refine h.of_progress harranged ?_ ?_
      · exact (withEndpoint_only_progress num dirIn kind.engine_same_fixed).ok hrun
      · exact (withEndpoint_keeps_pids num dirIn kind.engine_keeps_pid).ok hrun h.pids

theorem driverStep_serving {d e : Dcd} {step : DriverStep} (hnum : step.Numbered) (h : Serving d)
    (hstep : driverStep d step = some e) : Serving e := by
  cases step with
  | call function => exact h.call hnum hstep
  | resetTransfer num dirIn =>
      cases hstep
      have hprogress := withEndpoint_only_progress num dirIn
        (hwEndpointResetTransferNew_moves sameFixed_rule) d
      refine h.of_progress (h.arranged.of_same ?_ hprogress ?_) hprogress ?_
      · unfold withEndpoint
        rw [Program.final_onPart]
        rfl
      · unfold withEndpoint
        rw [Program.final_onPart]
        exact h.arranged.deviceMode
      · exact withEndpoint_keeps_pids num dirIn
          (hwEndpointResetTransferNew_moves keepsPid_rule) d h.pids
  | resetEp0Pid =>
      cases hstep
      have hprogress := resetEp0Pid_only_progress d
      refine h.of_progress (h.arranged.of_same rfl hprogress h.arranged.deviceMode) hprogress ?_
      have hset (dirIn : Bool) : Program.Moves (Program.Keeps PidsOk)
          (withEndpoint 0 dirIn (setEp fun ep => { ep with nextPid := 1 })) :=
        withEndpoint_keeps_pids 0 dirIn (setEp_keeps_pid fun _ _ => .inr rfl)
      have hmoves : Program.Moves (Program.Keeps PidsOk) resetEp0Pid :=
        .bind (hset false) fun _ => hset true
      exact hmoves d h.pids
  | outside change =>
      cases hstep
      have hprogress : OnlyProgress d (outsideChange change d) := fun _ _ => rfl
      exact h.of_progress (h.arranged.of_same rfl hprogress h.arranged.deviceMode) hprogress h.pids

theorem dcdAfterInit_serving (romWord : BitVec 32) : Serving (dcdAfterInit romWord) := by
  have hinit : Program.Moves (Program.Keeps PidsOk) dcdInitNew :=
    .bind (hwEndpointInit_keeps_pids _ _ _) fun _ => .bind (hwEndpointInit_keeps_pids _ _ _)
      fun _ => resetNonControlEndpoints_keeps_pids
  refine ⟨dcdAfterInit_arranged romWord, fun num dirIn hopen => ?_,
    hinit (.cleared romWord) fun _ _ => .inl rfl⟩
  have hnone : (dcdAfterInit romWord).buffer (num, dirIn) = none := by
    unfold Dcd.buffer
    split
    · rename_i hplace
      have hzero : (dcdAfterInit romWord).hwEndpoints num dirIn = .zero := if_pos hplace
      rw [hzero]
      rfl
    · rfl
  exact absurd hnone hopen

/-- An open endpoint has its registers and a buffer that its packets fit. -/
theorem Serving.seated {d : Dcd} {num : Nat} {dirIn : Bool} {region : Region} (h : Serving d)
    (hopen : d.buffer (num, dirIn) = some region)
    (hpositive : 0 < (d.hwEndpoints num dirIn).wMaxPacketSize.toNat)
    (hbounded : (d.hwEndpoints num dirIn).wMaxPacketSize.toNat ≤ 1023) :
    Seated (d.hwEndpoints num dirIn).wMaxPacketSize.toNat (epBufCtrl num dirIn)
      (epCtrl (num - 1) dirIn) region.base (d.hwEndpoints num dirIn) := by
  intro memory hmode
  have hpointed := h.pointed num dirIn (by rw [hopen]; exact Option.some_ne_none _)
  have hpacket := h.arranged.packets (num, dirIn) region hopen
  have hfinish : region.base + region.size ≤ d.nextBufferPtr :=
    h.arranged.placed.finish_le (num, dirIn) region hopen
  have hpointer := h.arranged.pointer_le
  obtain ⟨hplace, hbuffer⟩ : (0 < num ∧ num < usbMaxEndpoints) ∧
      (d.hwEndpoints num dirIn).hwDataBuf = some region.base := by
    unfold Dcd.buffer at hopen
    split at hopen
    · rename_i hplace
      obtain ⟨base, hbase, rfl⟩ := Option.map_eq_some_iff.mp hopen
      exact ⟨hplace, hbase⟩
    · cases hopen
  dsimp only at hpacket
  exact ⟨hpositive, hbounded, hpointed.bufferControl, hpointed.endpointControl, hbuffer, rfl,
    epBufCtrl_ne_epCtrl hplace.2, by omega, hmode, h.pids num dirIn⟩

/-- After every run of the device half each open endpoint with packets of at most 1023 bytes delivers
every buffer exactly. -/
theorem deliversExactly_of_run {romWord : BitVec 32} {steps : List DriverStep} {d : Dcd} {num : Nat}
    {dirIn : Bool} (hnum : ∀ step ∈ steps, step.Numbered)
    (hrun : Machine.run driverStep (dcdAfterInit romWord) steps = some d)
    (hopen : d.buffer (num, dirIn) ≠ none)
    (hpositive : 0 < (d.hwEndpoints num dirIn).wMaxPacketSize.toNat)
    (hbounded : (d.hwEndpoints num dirIn).wMaxPacketSize.toNat ≤ 1023) :
    DeliversExactly (d.hwEndpoints num dirIn) := by
  have hserving : Serving d :=
    Machine.run_invariant_of_mem (fun _ _ _ hd hstep hrun => driverStep_serving hstep hd hrun)
      (dcdAfterInit_serving romWord) hnum hrun
  obtain ⟨region, hregion⟩ := Option.ne_none_iff_exists'.mp hopen
  exact (hserving.seated hregion hpositive hbounded).deliversExactly

/-- Two endpoints of a storage device, opened one after the other. -/
def openedSteps : List DriverStep :=
  [.call (.openNew (endpointBytes 0x81 2 64)), .call (.openNew (endpointBytes 0x02 2 64))]

theorem openedSteps_deliver : ∃ d, Machine.run driverStep (dcdAfterInit 0) openedSteps = some d ∧
    DeliversExactly (d.hwEndpoints 1 true) ∧ DeliversExactly (d.hwEndpoints 2 false) := by
  have hends : ∃ d, Machine.run driverStep (dcdAfterInit 0) openedSteps = some d ∧
      (d.buffer (1, true) ≠ none ∧ d.buffer (2, false) ≠ none) ∧
      (d.hwEndpoints 1 true).wMaxPacketSize = 64 ∧ (d.hwEndpoints 2 false).wMaxPacketSize = 64 :=
    Machine.exists_run_of_any (by decide +kernel)
  obtain ⟨d, hrun, ⟨hin, hout⟩, hfirst, hsecond⟩ := hends
  have hnum : ∀ step ∈ openedSteps, step.Numbered := by decide +kernel
  refine ⟨d, hrun, ?_, ?_⟩
  · exact deliversExactly_of_run hnum hrun hin (by rw [hfirst]; decide) (by rw [hfirst]; decide)
  · exact deliversExactly_of_run hnum hrun hout (by rw [hsecond]; decide) (by rw [hsecond]; decide)

end UsbSec.Rp2040
