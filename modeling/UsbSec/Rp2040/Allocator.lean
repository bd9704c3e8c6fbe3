import UsbSec.Library.Machine
import UsbSec.Library.Region
import UsbSec.Rp2040.Frame

/-!
# The allocator of buffers in the DPRAM

`_hw_endpoint_alloc` takes the buffer of an endpoint from a pointer that only moves forward, and
`reset_non_control_endpoints` moves the pointer back to the start. Over any sequence of openings,
resets and transfers the buffers of the open endpoints stay apart, and a transfer on one of them
writes no other.
-/

namespace UsbSec.Rp2040

open Library Usb

/-! ## Sizes and offsets -/

theorem maxPacketSize_le (desc : EndpointPointer) : desc.maxPacketSize.toNat ≤ 2047 := by
  unfold EndpointPointer.maxPacketSize
  rw [UInt16.toNat_and]
  exact Nat.and_le_right

/-- Buffers are multiples of 64 bytes, and the largest fills the DPRAM. -/
theorem allocSize_bounds {wMaxPacketSize : UInt16} (h : wMaxPacketSize.toNat ≤ 2047)
    (transferType : UInt8) :
    64 ∣ (allocSize wMaxPacketSize transferType).toNat ∧
      wMaxPacketSize.toNat ≤ (allocSize wMaxPacketSize transferType).toNat ∧
      (allocSize wMaxPacketSize transferType).toNat ≤ usbDpramMax := by
  have hsize : (UInt16.ofNat ((wMaxPacketSize.toNat + 63) / 64 * 64)).toNat =
      (wMaxPacketSize.toNat + 63) / 64 * 64 := by
    rw [UInt16.toNat_ofNat']
    omega
  show 64 ∣ _ ∧ _ ∧ _ ≤ 4096
  unfold allocSize
  dsimp only
  split
  · rw [UInt16.toNat_mul, hsize]
    show 64 ∣ (wMaxPacketSize.toNat + 63) / 64 * 64 * 2 % 65536 ∧
      _ ≤ (wMaxPacketSize.toNat + 63) / 64 * 64 * 2 % 65536 ∧
      (wMaxPacketSize.toNat + 63) / 64 * 64 * 2 % 65536 ≤ 4096
    omega
  · rw [hsize]
    omega

/-- Up to twice the size of the DPRAM, pointers are told from its base. -/
theorem hwDataOffset_eq {offset : Nat} (haligned : 64 ∣ offset) (hbound : offset ≤ 8192) :
    hwDataOffset offset = offset := by
  obtain ⟨count, rfl⟩ := haligned
  have hall : ∀ count < 129, hwDataOffset (64 * count) = 64 * count := by decide
  exact hall count (by omega)

/-- The assertions of `_hw_endpoint_alloc` when `size` bytes behind `next` are taken. -/
def RoomFor (next size : Nat) : Prop :=
  (usbDpram + (next + size)) % 64 = 0 ∧ hwDataOffset (next + size) ≤ usbDpramMax

instance (next size : Nat) : Decidable (RoomFor next size) := inferInstanceAs (Decidable (_ ∧ _))

/-- For aligned pointers in the DPRAM the assertions say that the buffer ends in the DPRAM. -/
theorem roomFor_iff {next size : Nat} (haligned : 64 ∣ next) (hbound : next ≤ usbDpramMax)
    (hsize : 64 ∣ size) (hmax : size ≤ usbDpramMax) :
    RoomFor next size ↔ next + size ≤ usbDpramMax := by
  have hnext : 64 ∣ next + size := Nat.dvd_add haligned hsize
  have hbase : 64 ∣ usbDpram := by decide
  have hoffset : hwDataOffset (next + size) = next + size :=
    hwDataOffset_eq hnext (Nat.add_le_add hbound hmax)
  unfold RoomFor
  rw [hoffset, and_iff_right (Nat.mod_eq_zero_of_dvd (Nat.dvd_add hbase hnext))]

/-! ## Opening an endpoint -/

/-- The memory without the registers: the data, the main control register and the buffers of the
role. -/
structure SameData (c d : Memory) : Prop where
  data : d.data = c.data
  mainCtrl : d.mainCtrl = c.mainCtrl

theorem writeWord_sameData (memory : Memory) (pointer : Option Nat) (value : BitVec 32) :
    SameData memory (memory.writeWord pointer value) := by
  cases pointer <;> exact ⟨rfl, rfl⟩

theorem SameData.trans {c d e : Memory} (h : SameData c d) (k : SameData d e) : SameData c e :=
  ⟨k.data.trans h.data, k.mainCtrl.trans h.mainCtrl⟩

theorem withEndpoint_setEp (num : Nat) (dirIn : Bool) (change : HwEndpoint → HwEndpoint) (d : Dcd) :
    withEndpoint num dirIn (setEp change) d =
      .ok () (d.setEndpoint num dirIn (change (d.hwEndpoints num dirIn))) := rfl

/-- Where an endpoint is set up, the buffer it got and the fields that come with it. -/
structure HasBuffer (dirIn : Bool) (wMaxPacketSize : UInt16) (transferType : UInt8) (buffer : Nat)
    (ep : HwEndpoint) : Prop where
  rx : ep.rx = !dirIn
  wMaxPacketSize : ep.wMaxPacketSize = wMaxPacketSize
  transferType : ep.transferType = transferType
  hwDataBuf : ep.hwDataBuf = some buffer

/-- One endpoint of the table has taken `size` bytes at the allocation pointer. -/
structure Allocated (num : Nat) (dirIn : Bool) (size : Nat) (d e : Dcd) : Prop where
  nextBufferPtr : e.nextBufferPtr = d.nextBufferPtr + size
  setupPacket : e.setupPacket = d.setupPacket
  memory : SameData d.memory e.memory
  other : ∀ other dir, ¬ (other = num ∧ dir = dirIn) → e.hwEndpoints other dir =
    d.hwEndpoints other dir

theorem hwEndpointAlloc_outcome (num : Nat) (dirIn : Bool) (transferType : UInt8) (d : Dcd) :
    Program.Outcome (hwEndpointAlloc num dirIn transferType) d
      (fun _ e =>
        RoomFor d.nextBufferPtr
          (allocSize (d.hwEndpoints num dirIn).wMaxPacketSize transferType).toNat ∧
        Allocated num dirIn
          (allocSize (d.hwEndpoints num dirIn).wMaxPacketSize transferType).toNat d e ∧
        e.hwEndpoints num dirIn =
          { d.hwEndpoints num dirIn with hwDataBuf := some d.nextBufferPtr })
      (fun _ => ¬ RoomFor d.nextBufferPtr
        (allocSize (d.hwEndpoints num dirIn).wMaxPacketSize transferType).toNat) := by
  refine .read_bind (.of_eq (Program.bind_ok rfl) (.of_eq (Program.update_bind _ _ _) ?_))
  refine .require_bind (fun haligned => .require_bind (fun hfits => ?_) fun hfull => ?_) fun hodd => ?_
  · refine .of_ok rfl ⟨⟨haligned, hfits⟩, ⟨rfl, rfl, ?_, fun _ _ hother => ?_⟩, ?_⟩
    · exact writeWord_sameData _ _ _
    · exact Dcd.setEndpoint_other _ _ hother
    · exact Dcd.setEndpoint_same _ _ _ _
  · exact fun h => hfull h.2
  · exact fun h => hodd h.1

/-- Setting up an endpoint other than endpoint 0 ends when its buffer fits. -/
theorem hwEndpointInit_outcome {epAddr : UInt8} (wMaxPacketSize : UInt16) (transferType : UInt8)
    (d : Dcd) (hpos : (tuEdptNumber epAddr).toNat ≠ 0)
    (hlt : (tuEdptNumber epAddr).toNat < usbMaxEndpoints) :
    Program.Outcome (hwEndpointInit epAddr wMaxPacketSize transferType) d
      (fun _ e =>
        RoomFor d.nextBufferPtr (allocSize wMaxPacketSize transferType).toNat ∧
        Allocated (tuEdptNumber epAddr).toNat (tuEdptDirIn epAddr)
          (allocSize wMaxPacketSize transferType).toNat d e ∧
        HasBuffer (tuEdptDirIn epAddr) wMaxPacketSize transferType d.nextBufferPtr
          (e.hwEndpoints (tuEdptNumber epAddr).toNat (tuEdptDirIn epAddr)))
      (fun _ => ¬ RoomFor d.nextBufferPtr (allocSize wMaxPacketSize transferType).toNat) := by
  have hplace : hwEndpointGetByAddr epAddr d =
      .ok ((tuEdptNumber epAddr).toNat, tuEdptDirIn epAddr) d := Program.require_bind hlt _ _ d
  refine .of_eq (Program.bind_ok hplace) ?_
  refine .of_eq (Program.bind_ok (withEndpoint_setEp _ _ _ _)) ?_
  refine .of_eq (Program.update_bind _ _ _) ?_
  refine .ite (fun hzero => absurd hzero hpos) fun _ => ?_
  refine .of_eq (Program.bind_ok (withEndpoint_setEp _ _ _ _)) ?_
  generalize hready : Dcd.setEndpoint _ _ _ _ = ready
  have hnext : ready.nextBufferPtr = d.nextBufferPtr := by rw [← hready]; rfl
  have hep : ∃ pointers : HwEndpoint, ready.hwEndpoints (tuEdptNumber epAddr).toNat
      (tuEdptDirIn epAddr) = pointers ∧ pointers.rx = (!tuEdptDirIn epAddr) ∧
      pointers.wMaxPacketSize = wMaxPacketSize ∧ pointers.transferType = transferType := by
    rw [← hready, Dcd.setEndpoint_same, Dcd.setEndpoint_same]
    exact ⟨_, rfl, rfl, rfl, rfl⟩
  obtain ⟨pointers, hpointers, hrx, hsize, htype⟩ := hep
  have halloc := hwEndpointAlloc_outcome (tuEdptNumber epAddr).toNat (tuEdptDirIn epAddr)
    transferType ready
  rw [hpointers, hsize, hnext] at halloc
  refine halloc.mono (fun _ e he => ⟨he.1, ?_, ?_⟩) fun _ => id
  · obtain ⟨-, hallocated, -⟩ := he
    refine ⟨hallocated.nextBufferPtr.trans (by rw [hnext]), ?_, ?_, fun other dir hother => ?_⟩
    · exact hallocated.setupPacket.trans (by rw [← hready]; rfl)
    · refine SameData.trans ?_ hallocated.memory
      rw [← hready]
      exact writeWord_sameData d.memory
        (some (epBufCtrl (tuEdptNumber epAddr).toNat (tuEdptDirIn epAddr))) 0
    · rw [hallocated.other other dir hother, ← hready, Dcd.setEndpoint_other _ _ hother]
      exact Dcd.setEndpoint_other _ _ hother
  · rw [he.2.2]
    exact ⟨hrx, hsize, htype, rfl⟩

/-! ## What a transfer writes -/

/-- The controller is in device mode. -/
def DeviceMode (memory : Memory) : Prop := hasBits memory.mainCtrl mainCtrlHostNdevice = false

/-- On a controller in device mode a transfer writes no data but in the first `wMaxPacketSize`
bytes of the buffer of its endpoint, and leaves the controller in device mode. -/
structure CopiesOwn (c d : Channel) : Prop where
  deviceMode : DeviceMode c.memory → DeviceMode d.memory
  fixed : DeviceMode c.memory → d.ep.fixed = c.ep.fixed
  data : DeviceMode c.memory → ∀ buffer, c.ep.hwDataBuf = some buffer →
    ∀ i, i < buffer ∨ buffer + c.ep.wMaxPacketSize.toNat ≤ i → d.memory.data i = c.memory.data i

instance : IsPreorder Channel CopiesOwn where
  refl _ := ⟨id, fun _ => rfl, fun _ _ _ _ _ => rfl⟩
  trans c d e h k := by
    have hfixed (hdevice : DeviceMode c.memory) : e.ep.fixed = c.ep.fixed :=
      (k.fixed (h.deviceMode hdevice)).trans (h.fixed hdevice)
    refine ⟨fun hdevice => k.deviceMode (h.deviceMode hdevice), hfixed, ?_⟩
    intro hdevice buffer hbuffer i hi
    have hshape : d.ep.shape = c.ep.shape := shape_of_fixed (h.fixed hdevice)
    have hsize : d.ep.wMaxPacketSize = c.ep.wMaxPacketSize := congrArg Shape.wMaxPacketSize hshape
    have hsame : d.ep.hwDataBuf = some buffer := (congrArg Shape.hwDataBuf hshape).trans hbuffer
    have hlater := k.data (h.deviceMode hdevice) buffer hsame i (by rw [hsize]; exact hi)
    exact hlater.trans (h.data hdevice buffer hbuffer i hi)

/-- The endpoint may make progress. -/
theorem CopiesOwn.progress (c : Channel) {ep : HwEndpoint} (h : ep.fixed = c.ep.fixed) :
    CopiesOwn c { c with ep := ep } :=
  ⟨id, fun _ => h, fun _ _ _ _ _ => rfl⟩

/-- The registers and the buffers of the role may be written. -/
theorem CopiesOwn.sameData (c : Channel) {memory : Memory} (h : SameData c.memory memory) :
    CopiesOwn c { c with memory := memory } := by
  refine ⟨fun hdevice => ?_, fun _ => rfl, fun _ _ _ i _ => congrFun h.data i⟩
  unfold DeviceMode at hdevice ⊢
  rw [h.mainCtrl]
  exact hdevice

theorem setEp_copies {change : HwEndpoint → HwEndpoint}
    (h : ∀ ep, (change ep).fixed = ep.fixed) : Program.Moves CopiesOwn (setEp change) :=
  Program.Moves.update fun c => .progress c (h c.ep)

theorem setMemory_copies {change : Memory → Memory} (h : ∀ memory, SameData memory (change memory)) :
    Program.Moves CopiesOwn (setMemory change) :=
  Program.Moves.update fun c => .sameData c (h c.memory)

theorem writeWord_copies (pointer : Option Nat) (value : BitVec 32) :
    Program.Moves CopiesOwn (setMemory fun m => m.writeWord pointer value) :=
  setMemory_copies fun memory => writeWord_sameData memory pointer value

theorem hwEndpointBufferControlSetValue32_copies (value : BitVec 32) :
    Program.Moves CopiesOwn (hwEndpointBufferControlSetValue32 value) :=
  Program.Moves.read_bind fun c => .sameData c (writeWord_sameData c.memory _ _)

/-- No more bytes are read than were asked for. -/
theorem readUser_outcome (role : SpiRole) (buffer : UserBuf) (count : Nat) (c : Channel) :
    Program.Outcome (readUser role buffer count) c
      (fun bytes d => d = c ∧ bytes.length ≤ count) (fun d => d = c) := by
  refine .read_bind ?_
  cases buffer with
  | null => exact .require_bind (fun _ => .of_ok rfl ⟨rfl, by simp⟩) fun _ => rfl
  | bugger offset => exact .require_bind (fun _ => .of_ok rfl ⟨rfl, by simp⟩) fun _ => rfl
  | reserveBugger offset => exact .require_bind (fun _ => .of_ok rfl ⟨rfl, by simp⟩) fun _ => rfl
  | object offset => exact .require_bind (fun _ => .of_ok rfl ⟨rfl, by simp⟩) fun _ => rfl
  | payload bytes offset =>
      refine .require_bind (fun _ => .of_ok rfl ⟨rfl, ?_⟩) fun _ => rfl
      rw [List.length_take]
      exact Nat.min_le_left _ _

/-- A load of one packet at most into the first half of the buffer. -/
theorem loadBuffer_outcome (role : SpiRole) (buffer : UserBuf) {count : Nat} {c : Channel}
    (hcount : count ≤ c.ep.wMaxPacketSize.toNat) :
    Program.Outcome (loadBuffer role buffer 0 count) c (fun _ d => CopiesOwn c d)
      (fun d => CopiesOwn c d) := by
  have hrefl : CopiesOwn c c := refl_of CopiesOwn c
  refine .read_bind (.bind ((readUser_outcome role buffer count c).mono (fun _ _ h => h) ?_) ?_)
  · intro d hd
    rw [hd]
    exact hrefl
  · intro bytes d ⟨hd, hlength⟩
    rw [hd]
    unfold writeData
    cases hbuf : c.ep.hwDataBuf with
    | none => exact .of_moves (.require _ _) (fun _ _ h => h) fun _ h => h
    | some offset =>
        refine .require_bind (fun _ => .of_ok rfl ⟨id, fun _ => rfl, ?_⟩) fun _ => hrefl
        intro _ other hother i hi
        rw [hbuf, Option.some.injEq] at hother
        rw [← hother] at hi
        rcases hi with hbefore | hbehind
        · exact Buffer.writeAt_of_lt _ _ (by omega)
        · exact Buffer.writeAt_of_le _ _ (by omega)

theorem tuMin16_le_right (first second : UInt16) :
    (tuMin16 first second).toNat ≤ second.toNat := by
  unfold tuMin16
  split
  · rename_i hlt
    exact Nat.le_of_lt hlt
  · exact Nat.le_refl _

/-- `prepare_ep_buffer` copies one packet at most, to the start of the endpoint's buffer. -/
theorem prepareEpBuffer_copies (role : SpiRole) : Program.Moves CopiesOwn (prepareEpBuffer role 0) := by
  refine Program.Moves.of_outcome fun c => .read_bind (.of_eq (Program.update_bind _ _ _) ?_)
  have hprogress : CopiesOwn c { c with ep := { c.ep with
      remainingLen := c.ep.remainingLen - tuMin16 c.ep.remainingLen c.ep.wMaxPacketSize
      nextPid := c.ep.nextPid ^^^ 1 } } := .progress c rfl
  refine .bind (.when (fun _ => ?_) fun _ => hprogress) fun _ d hd => .of_ok rfl hd
  have hcount := tuMin16_le_right c.ep.remainingLen c.ep.wMaxPacketSize
  refine .bind (P := fun _ d => CopiesOwn c d)
    (.mono (loadBuffer_outcome role c.ep.userBuf hcount) ?_ ?_) fun _ d hd => ?_
  · exact fun _ d hd => trans_of CopiesOwn hprogress hd
  · exact fun d hd => trans_of CopiesOwn hprogress hd
  · refine .of_ok rfl (trans_of CopiesOwn hd ?_)
    exact .progress d rfl

/-- In device mode a transfer uses one buffer only. -/
theorem startNextBufferMaster_copies : Program.Moves CopiesOwn startNextBufferMaster := by
  refine Program.Moves.of_outcome fun c => .read_bind ?_
  refine .bind (.of_moves (prepareEpBuffer_copies _) (fun _ _ h => h) fun _ h => h) ?_
  intro bufCtrl d hd
  refine .read_bind (.ite (fun hdouble => ?_) fun _ => ?_)
  · -- The second buffer is for hosts.
    have hhost : ¬ DeviceMode c.memory := by
      intro hdevice
      have hsingle : hasBits d.memory.mainCtrl mainCtrlHostNdevice = false := hd.deviceMode hdevice
      simp [hsingle] at hdouble
    have hany (e : Channel) : CopiesOwn c e :=
      ⟨fun h => absurd h hhost, fun h => absurd h hhost, fun h => absurd h hhost⟩
    exact .of_moves (R := fun _ _ => True) (fun _ => trivial) (fun _ e _ => hany e)
      fun e _ => hany e
  · have hrest : Program.Moves CopiesOwn (do
        setMemory fun m => m.writeWord c.ep.endpointControl
          (singleBuffered (c.memory.readWord c.ep.endpointControl))
        hwEndpointBufferControlSetValue32 (bufCtrl ||| bufCtrlSel)) :=
      .bind (writeWord_copies _ _) fun _ => hwEndpointBufferControlSetValue32_copies _
    refine .of_moves hrest (fun _ e he => trans_of CopiesOwn hd he) fun e he => ?_
    exact trans_of CopiesOwn hd he

theorem hwEndpointResetTransferNew_copies :
    Program.Moves CopiesOwn hwEndpointResetTransferNew := setEp_copies fun _ => rfl

theorem hwEndpointXferStart_copies (buffer : UserBuf) (totalLen : UInt16) :
    Program.Moves CopiesOwn (hwEndpointXferStart .master buffer totalLen) := by
  refine .bind .read fun c => .bind (.when hwEndpointResetTransferNew_copies) fun _ => ?_
  exact .bind (setEp_copies fun _ => rfl) fun _ => startNextBufferMaster_copies

theorem hwEndpointXferPartial_copies (buffer : UserBuf) (totalLen : UInt16) :
    Program.Moves CopiesOwn (hwEndpointXferPartial .master buffer totalLen) := by
  refine .bind (setEp_copies fun _ => rfl) fun _ => .bind .read fun c => ?_
  refine .bind (prepareEpBuffer_copies _) fun _ => .bind .read fun d => .ite (.stop _) ?_
  refine .bind (writeWord_copies _ _) fun _ => .bind (setEp_copies fun _ => rfl) fun _ => ?_
  exact hwEndpointBufferControlSetValue32_copies _

theorem writeUser_copies (role : SpiRole) (buffer : UserBuf) (bytes : List UInt8) :
    Program.Moves CopiesOwn (writeUser role buffer bytes) := by
  cases buffer with
  | null => exact .require _ _
  | bugger offset => exact .bind (.require _ _) fun _ => setMemory_copies fun _ => ⟨rfl, rfl⟩
  | reserveBugger offset => exact .bind (.require _ _) fun _ => setMemory_copies fun _ => ⟨rfl, rfl⟩
  | object offset => exact .bind (.require _ _) fun _ => setMemory_copies fun _ => ⟨rfl, rfl⟩
  | payload _ _ => exact .require _ _

theorem syncEpBuffer_copies (role : SpiRole) : Program.Moves CopiesOwn (syncEpBuffer role) := by
  refine .bind .read fun c => .bind (.ite ?_ ?_) fun _ => ?_
  · exact .bind (.require _ _) fun _ => setEp_copies fun _ => rfl
  · refine .bind (.when (.stop _)) fun _ => .bind .read fun d => ?_
    refine .bind (.when (setEp_copies fun _ => rfl)) fun _ => .bind .read fun e => ?_
    refine .bind (readData_moves _ _) fun bytes => .bind (writeUser_copies _ _ _) fun _ => ?_
    exact .bind (setEp_copies fun _ => rfl) fun _ => .when (setEp_copies fun _ => rfl)
  · exact .bind .read fun d => .when (setEp_copies fun _ => rfl)

theorem hwEndpointXferContinue_copies :
    Program.Moves CopiesOwn (hwEndpointXferContinue .master) := by
  refine .bind .read fun c => .ite (.pure _) (.bind (syncEpBuffer_copies _) fun _ => ?_)
  refine .bind .read fun d => .ite (.stop _) (.ite (.pure _) ?_)
  exact .bind startNextBufferMaster_copies fun _ => .pure _

/-! ## Sequences of calls -/

/-- A transfer on an endpoint: its start, in one piece or as a part, and the handling of a buffer
that the host has taken or filled. -/
inductive Transfer where
  | xferStart (buffer : UserBuf) (totalLen : UInt16)
  | xferPartial (buffer : UserBuf) (totalLen : UInt16)
  | xferContinue

/-- The functions of the engine behind a transfer. -/
def Transfer.engine : Transfer → Engine Unit
  | .xferStart buffer totalLen => hwEndpointXferStart .master buffer totalLen
  | .xferPartial buffer totalLen => hwEndpointXferPartial .master buffer totalLen
  | .xferContinue => do
      let _ ← hwEndpointXferContinue .master
      pure ()

/-- A call that concerns the buffers of the endpoints. -/
inductive BufferCall where
  | openNew (desc : EndpointPointer)
  | resetNonControl
  | transfer (num : Nat) (dirIn : Bool) (kind : Transfer)

/-- The call opens no endpoint but one numbered 1 to 15. -/
def BufferCall.Numbered : BufferCall → Prop
  | .openNew desc => 0 < (tuEdptNumber desc.bEndpointAddress).toNat ∧
      (tuEdptNumber desc.bEndpointAddress).toNat < usbMaxEndpoints
  | _ => True

instance decidableNumbered : ∀ call : BufferCall, Decidable call.Numbered
  | .openNew _ => inferInstanceAs (Decidable (_ ∧ _))
  | .resetNonControl => isTrue trivial
  | .transfer _ _ _ => isTrue trivial

/-- What a call runs. -/
def BufferCall.program : BufferCall → DcdM Unit
  | .openNew desc => dcdEdptOpenNew desc
  | .resetNonControl => resetNonControlEndpoints
  | .transfer num dirIn kind => withEndpoint num dirIn kind.engine

/-- A call that does not stop the master, as a failed assertion would. -/
def bufferStep (d : Dcd) (call : BufferCall) : Option Dcd :=
  match call.program d with
  | .ok _ e => some e
  | .error _ _ => none

/-- The driver after `dcd_init_new`. -/
def dcdAfterInit (romWord : BitVec 32) : Dcd := Program.final (dcdInitNew (.cleared romWord))

/-- The buffer of an open endpoint, as large as `_hw_endpoint_alloc` has made it. -/
def Dcd.buffer (d : Dcd) (place : Nat × Bool) : Option Region :=
  if 0 < place.1 ∧ place.1 < usbMaxEndpoints then
    (d.hwEndpoints place.1 place.2).hwDataBuf.map fun base =>
      ⟨base, (allocSize (d.hwEndpoints place.1 place.2).wMaxPacketSize
        (d.hwEndpoints place.1 place.2).transferType).toNat⟩
  else none

/-- The buffers are placed behind `epx_data`, packets fit into the buffers, and the controller
is in device mode. -/
structure Arranged (d : Dcd) : Prop where
  placed : Placed 64 epxDataOffset d.nextBufferPtr d.buffer
  pointer_le : d.nextBufferPtr ≤ usbDpramMax
  packets : ∀ place region, d.buffer place = some region →
    (d.hwEndpoints place.1 place.2).wMaxPacketSize.toNat ≤ region.size
  deviceMode : DeviceMode d.memory

/-- The allocation pointer and the buffers of the open endpoints lie in the DPRAM, at multiples
of 64 bytes, and are told from its base by the offset; buffers of different endpoints do not
overlap; and a transfer on an open endpoint copies and writes inside its buffer only. -/
structure BuffersSeparate (d : Dcd) : Prop where
  pointer : 64 ∣ usbDpram + d.nextBufferPtr ∧ epxDataOffset ≤ d.nextBufferPtr ∧
    d.nextBufferPtr ≤ usbDpramMax ∧
    hwDataOffset d.nextBufferPtr = usbDpram + d.nextBufferPtr - usbDpram
  buffers : ∀ place region, d.buffer place = some region →
    64 ∣ usbDpram + region.base ∧ epxDataOffset ≤ region.base ∧ region.finish ≤ usbDpramMax ∧
      hwDataOffset region.base = usbDpram + region.base - usbDpram
  apart : ∀ first second region other, first ≠ second → d.buffer first = some region →
    d.buffer second = some other → region.Apart other
  copies : ∀ place region, d.buffer place = some region → ∀ remainingLen : UInt16,
    region.base +
      (tuMin16 remainingLen (d.hwEndpoints place.1 place.2).wMaxPacketSize).toNat ≤ region.finish
  writes : ∀ place region, d.buffer place = some region → ∀ (transfer : Transfer) (i : Nat),
    ¬ region.Contains i →
      (Program.final (withEndpoint place.1 place.2 transfer.engine d)).memory.data i =
        d.memory.data i

theorem Transfer.engine_copies (transfer : Transfer) :
    Program.Moves CopiesOwn transfer.engine := by
  cases transfer with
  | xferStart buffer totalLen => exact hwEndpointXferStart_copies buffer totalLen
  | xferPartial buffer totalLen => exact hwEndpointXferPartial_copies buffer totalLen
  | xferContinue => exact .bind hwEndpointXferContinue_copies fun _ => .pure _

theorem Transfer.engine_same_fixed (transfer : Transfer) :
    Program.Moves SameFixed transfer.engine := by
  cases transfer with
  | xferStart buffer totalLen => exact hwEndpointXferStart_same_fixed _ buffer totalLen
  | xferPartial buffer totalLen => exact hwEndpointXferPartial_same_fixed _ buffer totalLen
  | xferContinue => exact .bind (hwEndpointXferContinue_same_fixed _) fun _ => .pure _

theorem Arranged.buffersSeparate {d : Dcd} (h : Arranged d) : BuffersSeparate d := by
  have hbase : 64 ∣ usbDpram := by decide
  have hmax : usbDpramMax = 4096 := rfl
  have hpointer := h.pointer_le
  have hfits (place : Nat × Bool) (region : Region) (hregion : d.buffer place = some region) :
      region.finish ≤ usbDpramMax := Nat.le_trans (h.placed.finish_le place region hregion) hpointer
  constructor
  case pointer =>
    have haligned := h.placed.pointer_aligned
    have hoffset := hwDataOffset_eq haligned (by omega)
    exact ⟨Nat.dvd_add hbase haligned, h.placed.low_le_pointer, hpointer, by omega⟩
  case buffers =>
    intro place region hregion
    have haligned := h.placed.aligned place region hregion
    have hfinish := hfits place region hregion
    have hlast : region.base + region.size ≤ usbDpramMax := hfinish
    have hoffset := hwDataOffset_eq haligned (by omega)
    exact ⟨Nat.dvd_add hbase haligned, h.placed.low_le place region hregion, hfinish, by omega⟩
  case apart => exact h.placed.apart
  case copies =>
    intro place region hregion remainingLen
    have hpacket := h.packets place region hregion
    have hmin := tuMin16_le_right remainingLen (d.hwEndpoints place.1 place.2).wMaxPacketSize
    unfold Region.finish
    omega
  case writes =>
    intro place region hregion transfer i houtside
    have hpacket := h.packets place region hregion
    have hcopies := transfer.engine_copies ⟨d.hwEndpoints place.1 place.2, d.memory⟩
    have hbuffer : (d.hwEndpoints place.1 place.2).hwDataBuf = some region.base := by
      unfold Dcd.buffer at hregion
      split at hregion
      · obtain ⟨base, hbase, rfl⟩ := Option.map_eq_some_iff.mp hregion
        exact hbase
      · cases hregion
    have hside : i < region.base ∨
        region.base + (d.hwEndpoints place.1 place.2).wMaxPacketSize.toNat ≤ i := by
      unfold Region.Contains Region.finish at houtside
      omega
    unfold withEndpoint
    rw [Program.final_onPart]
    exact hcopies.data h.deviceMode region.base hbuffer i hside

/-! ## Each call keeps the arrangement -/

theorem Arranged.of_same {d e : Dcd} (h : Arranged d)
    (hnext : e.nextBufferPtr = d.nextBufferPtr)
    (hfixed : ∀ num dirIn, (e.hwEndpoints num dirIn).fixed = (d.hwEndpoints num dirIn).fixed)
    (hmode : DeviceMode e.memory) : Arranged e := by
  have hsize (num : Nat) (dirIn : Bool) : (e.hwEndpoints num dirIn).wMaxPacketSize =
      (d.hwEndpoints num dirIn).wMaxPacketSize := eq_of_fixed (fun _ => rfl) (hfixed num dirIn)
  have htype (num : Nat) (dirIn : Bool) : (e.hwEndpoints num dirIn).transferType =
      (d.hwEndpoints num dirIn).transferType := eq_of_fixed (fun _ => rfl) (hfixed num dirIn)
  have hbuf (num : Nat) (dirIn : Bool) : (e.hwEndpoints num dirIn).hwDataBuf =
      (d.hwEndpoints num dirIn).hwDataBuf := eq_of_fixed (fun _ => rfl) (hfixed num dirIn)
  have hbuffer : e.buffer = d.buffer := by
    funext place
    unfold Dcd.buffer
    rw [hsize, htype, hbuf]
  refine ⟨?_, hnext ▸ h.pointer_le, fun place region hregion => ?_, hmode⟩
  · rw [hbuffer, hnext]
    exact h.placed
  · rw [hsize]
    exact h.packets place region (hbuffer ▸ hregion)

theorem transfer_arranged (num : Nat) (dirIn : Bool) (transfer : Transfer) :
    Program.Moves (Program.Keeps Arranged) (withEndpoint num dirIn transfer.engine) := by
  intro d hd
  have hprogress := withEndpoint_only_progress num dirIn transfer.engine_same_fixed d
  have hcopies := transfer.engine_copies ⟨d.hwEndpoints num dirIn, d.memory⟩
  refine hd.of_same ?_ hprogress ?_
  · unfold withEndpoint
    rw [Program.final_onPart]
    rfl
  · unfold withEndpoint
    rw [Program.final_onPart]
    exact hcopies.deviceMode hd.deviceMode

theorem resetNonControlEndpoints_arranged :
    Program.Moves (Program.Keeps Arranged) resetNonControlEndpoints := by
  intro d hd
  have hnone : (Program.final (resetNonControlEndpoints d)).buffer = fun _ => none := by
    funext place
    unfold Dcd.buffer
    split
    · rename_i hnum
      have hzero : (Program.final (resetNonControlEndpoints d)).hwEndpoints place.1 place.2 =
          .zero := if_pos hnum
      rw [hzero]
      rfl
    · rfl
  refine ⟨?_, ?_, fun place region hregion => ?_, hd.deviceMode⟩
  · rw [hnone]
    exact Placed.none (by decide)
  · show epxDataOffset ≤ usbDpramMax
    decide
  · rw [hnone] at hregion
    cases hregion

/-- An endpoint that is opened gets the buffer at the allocation pointer; its old buffer, if it had
one, is in use no longer. -/
theorem Allocated.arranged {num : Nat} {dirIn : Bool} {wMaxPacketSize : UInt16}
    {transferType : UInt8} {d e : Dcd} (hd : Arranged d) (hpos : 0 < num)
    (hlt : num < usbMaxEndpoints) (hmax : wMaxPacketSize.toNat ≤ 2047)
    (hroom : RoomFor d.nextBufferPtr (allocSize wMaxPacketSize transferType).toNat)
    (hall : Allocated num dirIn (allocSize wMaxPacketSize transferType).toNat d e)
    (hep : HasBuffer dirIn wMaxPacketSize transferType d.nextBufferPtr
      (e.hwEndpoints num dirIn)) : Arranged e := by
  obtain ⟨haligned, hpacket, hsize⟩ := allocSize_bounds hmax transferType
  have hhere : e.buffer (num, dirIn) =
      some ⟨d.nextBufferPtr, (allocSize wMaxPacketSize transferType).toNat⟩ := by
    unfold Dcd.buffer
    rw [if_pos ⟨hpos, hlt⟩, hep.hwDataBuf, hep.wMaxPacketSize, hep.transferType]
    rfl
  have hother (place : Nat × Bool) (hne : place ≠ (num, dirIn)) :
      e.hwEndpoints place.1 place.2 = d.hwEndpoints place.1 place.2 :=
    hall.other place.1 place.2 fun h => hne (Prod.ext h.1 h.2)
  have hbuffer : e.buffer = Function.update d.buffer (num, dirIn)
      (some ⟨d.nextBufferPtr, (allocSize wMaxPacketSize transferType).toNat⟩) := by
    funext place
    by_cases hplace : place = (num, dirIn)
    · rw [hplace, Function.update_self, hhere]
    · rw [Function.update_of_ne hplace]
      unfold Dcd.buffer
      rw [hother place hplace]
  refine ⟨?_, ?_, fun place region hregion => ?_, ?_⟩
  · rw [hbuffer, hall.nextBufferPtr]
    exact hd.placed.allocate (num, dirIn) haligned
  · rw [hall.nextBufferPtr]
    exact (roomFor_iff hd.placed.pointer_aligned hd.pointer_le haligned hsize).mp hroom
  · by_cases hplace : place = (num, dirIn)
    · rw [hplace, hhere, Option.some.injEq] at hregion
      rw [hplace, hep.wMaxPacketSize, ← hregion]
      exact hpacket
    · rw [hbuffer, Function.update_of_ne hplace] at hregion
      rw [hother place hplace]
      exact hd.packets place region hregion
  · have hmode := hd.deviceMode
    unfold DeviceMode at hmode ⊢
    rw [hall.memory.mainCtrl]
    exact hmode

theorem dcdEdptOpenNew_arranged {desc : EndpointPointer} (hnum : (BufferCall.openNew desc).Numbered) :
    Program.Ends (Program.Keeps Arranged) (dcdEdptOpenNew desc) := by
  intro d _ e hrun hd
  obtain ⟨hpos, hlt⟩ := hnum
  have houtcome := hwEndpointInit_outcome desc.maxPacketSize desc.xfer d (Nat.ne_of_gt hpos) hlt
  obtain ⟨hroom, hall, hep⟩ := houtcome.ok hrun
  exact hall.arranged hd hpos hlt (maxPacketSize_le desc) hroom hep

theorem bufferStep_arranged {d e : Dcd} {call : BufferCall} (hnum : call.Numbered)
    (hd : Arranged d) (hstep : bufferStep d call = some e) : Arranged e := by
  have hrun : call.program d = .ok () e := by
    unfold bufferStep at hstep
    split at hstep
    · rename_i value next hok
      cases hstep
      exact hok
    · cases hstep
  cases call with
  | openNew desc => exact dcdEdptOpenNew_arranged hnum _ _ _ hrun hd
  | resetNonControl => exact resetNonControlEndpoints_arranged.ok hrun hd
  | transfer num dirIn kind => exact (transfer_arranged num dirIn kind).ok hrun hd

theorem dcdAfterInit_arranged (romWord : BitVec 32) : Arranged (dcdAfterInit romWord) := by
  have hnone : (dcdAfterInit romWord).buffer = fun _ => none := by
    funext place
    unfold Dcd.buffer
    split
    · rename_i hnum
      have hzero : (dcdAfterInit romWord).hwEndpoints place.1 place.2 = .zero := if_pos hnum
      rw [hzero]
      rfl
    · rfl
  have hmode : hasBits mainCtrlControllerEn mainCtrlHostNdevice = false := by decide
  refine ⟨?_, ?_, fun place region hregion => ?_, hmode⟩
  · rw [hnone]
    exact Placed.none (by decide)
  · show epxDataOffset ≤ usbDpramMax
    decide
  · rw [hnone] at hregion
    cases hregion

/-- After every sequence of openings of endpoints 1 to 15, resets and transfers in which no
assertion fails, the buffers of the open endpoints are separate. -/
theorem buffersSeparate_of_run {romWord : BitVec 32} {calls : List BufferCall} {d : Dcd}
    (hnum : ∀ call ∈ calls, call.Numbered)
    (hrun : Machine.run bufferStep (dcdAfterInit romWord) calls = some d) : BuffersSeparate d := by
  have harranged : Arranged d :=
    Machine.run_invariant_of_mem (fun _ _ _ hd hcall hstep => bufferStep_arranged hcall hd hstep)
      (dcdAfterInit_arranged romWord) hnum hrun
  exact harranged.buffersSeparate

/-- A descriptor of an endpoint with the given address, type and packet size below 256. -/
def endpointBytes (epAddr xfer wMaxPacketSize : UInt8) : EndpointPointer :=
  ⟨fun i => [7, 5, epAddr, xfer, wMaxPacketSize, 0, 0].getD i 0, 0⟩

/-- The endpoints of a storage device are opened, the bus is reset, and one of them is opened
again. -/
def storageCalls : List BufferCall :=
  [.openNew (endpointBytes 0x81 2 64), .openNew (endpointBytes 0x02 2 64), .resetNonControl,
    .openNew (endpointBytes 0x02 2 64), .openNew (endpointBytes 0x81 2 64),
    .transfer 1 true (.xferStart (.bugger 0) 64)]

theorem storageCalls_buffersSeparate :
    ∃ d, Machine.run bufferStep (dcdAfterInit 0) storageCalls = some d ∧ BuffersSeparate d ∧
      d.nextBufferPtr = 0x280 := by
  have hends : ∃ d, Machine.run bufferStep (dcdAfterInit 0) storageCalls = some d ∧
      d.nextBufferPtr = 0x280 := Machine.exists_run_of_any (by decide +kernel)
  obtain ⟨d, hrun, hnext⟩ := hends
  have hnum : ∀ call ∈ storageCalls, call.Numbered := by decide +kernel
  exact ⟨d, hrun, buffersSeparate_of_run hnum hrun, hnext⟩

end UsbSec.Rp2040
