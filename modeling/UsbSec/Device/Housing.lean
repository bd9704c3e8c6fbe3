import UsbSec.Device.MassStorage
import UsbSec.Rp2040.Exchange
import UsbSec.Rp2040.NextBuffer
import UsbSec.Rp2040.Unarmed

/-!
# Driver and controller agree on the buffers

The driver keeps the place of an endpoint's buffer in `hw_data_buf`, and the controller takes it
from the endpoint control register. Between the functions of the loop the two agree: an endpoint is
open with its own registers, or cleared as a bus reset leaves it, and the buffers of different
endpoints lie apart. Endpoint 0 has one buffer for both directions.
-/

namespace UsbSec.Device

open Library Usb Rp2040

/-! ## Open and cleared endpoints -/

/-- The endpoint is open with its registers, or cleared. -/
def OpenOrClear (num : Nat) (dirIn : Bool) (ep : HwEndpoint) : Prop :=
  (ep.hwDataBuf ≠ none ∧ ep.rx = (!dirIn) ∧ ep.bufferControl = some (epBufCtrl num dirIn)) ∨
    ep.fixed = HwEndpoint.zero.fixed

theorem OpenOrClear.of_fixed {num : Nat} {dirIn : Bool} {first second : HwEndpoint}
    (h : OpenOrClear num dirIn first) (hfixed : second.fixed = first.fixed) :
    OpenOrClear num dirIn second := by
  have hshape := shape_of_fixed hfixed
  rcases h with ⟨hopen, hrx, hbuffer⟩ | hclear
  · refine .inl ⟨?_, ?_, ?_⟩
    · rw [show second.hwDataBuf = first.hwDataBuf from congrArg Shape.hwDataBuf hshape]
      exact hopen
    · exact (eq_of_fixed (fun _ => rfl) hfixed).trans hrx
    · exact (congrArg Shape.bufferControl hshape).trans hbuffer
  · exact .inr (hfixed.trans hclear)

/-- An endpoint without a buffer has no registers either. -/
theorem OpenOrClear.clear {num : Nat} {dirIn : Bool} {ep : HwEndpoint}
    (h : OpenOrClear num dirIn ep) (hnone : ep.hwDataBuf = none) :
    ep.shape = HwEndpoint.zero.shape := by
  rcases h with ⟨hopen, -⟩ | hclear
  · exact absurd hnone hopen
  · exact shape_of_fixed hclear

theorem OpenOrClear.registers {num : Nat} {dirIn : Bool} {ep : HwEndpoint}
    (h : OpenOrClear num dirIn ep) {base : Nat} (hbase : ep.hwDataBuf = some base) :
    ep.rx = (!dirIn) ∧ ep.bufferControl = some (epBufCtrl num dirIn) := by
  rcases h with ⟨-, hopen⟩ | hclear
  · exact hopen
  · have hnone : ep.hwDataBuf = none := congrArg Shape.hwDataBuf (shape_of_fixed hclear)
    rw [hbase] at hnone
    cases hnone

/-- The controller uses the buffers of the table. Each endpoint is open with its own registers and a
buffer of its own, or cleared. -/
structure Housed (d : Dcd) : Prop where
  wired : Wired d
  arranged : Arranged d
  located : ∀ num < usbMaxEndpoints, ∀ dirIn,
    controllerBuffer d num dirIn = (d.hwEndpoints num dirIn).hwDataBuf
  opened : ∀ num < usbMaxEndpoints, ∀ dirIn, OpenOrClear num dirIn (d.hwEndpoints num dirIn)

/-- The bytes of its buffer that an endpoint uses. -/
def homeSize (d : Dcd) (num : Nat) (dirIn : Bool) : Nat :=
  if num = 0 then 64 else (d.hwEndpoints num dirIn).wMaxPacketSize.toNat

/-- The buffers of two endpoints lie apart, unless both belong to endpoint 0. -/
theorem Housed.apart {d : Dcd} (h : Housed d) {num other base otherBase : Nat} {dirIn dir : Bool}
    (hnum : num < usbMaxEndpoints) (hother : other < usbMaxEndpoints)
    (hne : ¬ (other = num ∧ dir = dirIn)) (hzero : ¬ (num = 0 ∧ other = 0))
    (hbase : (d.hwEndpoints num dirIn).hwDataBuf = some base)
    (hotherBase : (d.hwEndpoints other dir).hwDataBuf = some otherBase) :
    base + homeSize d num dirIn ≤ otherBase ∨ otherBase + homeSize d other dir ≤ base := by
  have hregion {n b : Nat} {i : Bool} (hn : n < usbMaxEndpoints) (hpos : n ≠ 0)
      (hb : (d.hwEndpoints n i).hwDataBuf = some b) :
      ∃ region : Region, d.buffer (n, i) = some region ∧ region.base = b ∧
        homeSize d n i ≤ region.size ∧ epxDataOffset ≤ b := by
    have hbuffer : d.buffer (n, i) = some ⟨b, (allocSize (d.hwEndpoints n i).wMaxPacketSize
        (d.hwEndpoints n i).transferType).toNat⟩ := by
      unfold Dcd.buffer
      rw [if_pos ⟨Nat.pos_of_ne_zero hpos, hn⟩, hb]
      rfl
    refine ⟨_, hbuffer, rfl, ?_, h.arranged.placed.low_le _ _ hbuffer⟩
    unfold homeSize
    rw [if_neg hpos]
    exact h.arranged.packets _ _ hbuffer
  have hcontrol {b : Nat} {i : Bool} (hb : (d.hwEndpoints 0 i).hwDataBuf = some b) :
      b + 64 ≤ epxDataOffset := by
    cases (h.wired.control i).hwDataBuf.symm.trans hb
    decide
  by_cases hn : num = 0
  · subst hn
    obtain ⟨-, -, -, -, hlow⟩ := hregion hother (fun hm => hzero ⟨rfl, hm⟩) hotherBase
    exact .inl (Nat.le_trans (hcontrol hbase) hlow)
  obtain ⟨first, hfirst, rfl, hsize, hlow⟩ := hregion hnum hn hbase
  by_cases hm : other = 0
  · subst hm
    exact .inr (Nat.le_trans (hcontrol hotherBase) hlow)
  obtain ⟨second, hsecond, rfl, hotherSize, -⟩ := hregion hother hm hotherBase
  have hplaces : (num, dirIn) ≠ (other, dir) := by
    intro hsame
    cases hsame
    exact hne ⟨rfl, rfl⟩
  rcases h.arranged.placed.apart _ _ _ _ hplaces hfirst hsecond with hbefore | hbehind
  · exact .inl (Nat.le_trans (Nat.add_le_add_left hsize _) hbefore)
  · exact .inr (Nat.le_trans (Nat.add_le_add_left hotherSize _) hbehind)

/-! ## Work on one endpoint -/

/-- A transfer leaves the endpoint control word as it is, or writes it for a single buffer. -/
def Rewritten (old word : BitVec 32) : Prop := word = old ∨ word = singleBuffered old

/-- Work on one endpoint moves no pointers and writes no registers but those of the endpoint, whose
control word keeps its buffer. -/
structure OnEndpoint (num : Nat) (dirIn : Bool) (d e : Dcd) : Prop where
  progress : OnlyProgress d e
  elsewhere : ∀ other dir, ¬ (other = num ∧ dir = dirIn) →
    e.hwEndpoints other dir = d.hwEndpoints other dir
  nextBufferPtr : e.nextBufferPtr = d.nextBufferPtr
  deviceMode : DeviceMode d.memory → DeviceMode e.memory
  others : SameOthers num dirIn d e
  control : num ≠ 0 → Rewritten (d.memory.word (epCtrl (num - 1) dirIn))
    (e.memory.word (epCtrl (num - 1) dirIn))

theorem singleBuffered_enable (word : BitVec 32) :
    hasBits (singleBuffered word) epCtrlEnable = hasBits word epCtrlEnable ∧
      singleBuffered word &&& 0xffc0#32 = word &&& 0xffc0#32 := by
  constructor
  · unfold singleBuffered
    rw [hasBits_or, hasBits_kept (by decide), show hasBits epCtrlInterruptPerBuffer epCtrlEnable =
      false from by decide, Bool.or_false]
  · unfold singleBuffered
    rw [BitVec.and_comm, BitVec.and_or_distrib_left, BitVec.and_comm, BitVec.and_assoc]
    simp [epCtrlDoubleBuffered, epCtrlInterruptPerDoubleBuffer, epCtrlInterruptPerBuffer]

theorem controllerBuffer_congr {d e : Dcd} {num : Nat} {dirIn : Bool}
    (h : num ≠ 0 → num < usbMaxEndpoints →
      Rewritten (d.memory.word (epCtrl (num - 1) dirIn))
        (e.memory.word (epCtrl (num - 1) dirIn))) :
    controllerBuffer e num dirIn = controllerBuffer d num dirIn := by
  unfold controllerBuffer
  split
  · rfl
  split
  · rename_i hpos hlt
    obtain ⟨henable, hbase⟩ := singleBuffered_enable (d.memory.word (epCtrl (num - 1) dirIn))
    rcases h hpos hlt with hsame | hsingle
    · rw [hsame]
    · rw [hsingle]
      dsimp only
      rw [henable, hbase]
  · rfl

section OnEndpoint

variable {num : Nat} {dirIn : Bool} {d e : Dcd}

/-- The controller uses the same buffers as before. -/
theorem OnEndpoint.controllerBuffer (h : OnEndpoint num dirIn d e) (other : Nat) (dir : Bool) :
    controllerBuffer e other dir = Device.controllerBuffer d other dir := by
  refine controllerBuffer_congr fun hpos hlt => ?_
  by_cases hsame : other = num ∧ dir = dirIn
  · obtain ⟨rfl, rfl⟩ := hsame
    exact h.control hpos
  · exact .inl (h.others _ (notOwn_epCtrl hpos hlt hsame))

theorem OnEndpoint.housed (h : OnEndpoint num dirIn d e) (hd : Housed d) : Housed e := by
  refine ⟨hd.wired.of_progress h.progress, ?_, fun other hother dir => ?_,
    fun other hother dir => ?_⟩
  · exact hd.arranged.of_same h.nextBufferPtr h.progress (h.deviceMode hd.arranged.deviceMode)
  · rw [h.controllerBuffer, hd.located other hother dir]
    exact (congrArg Shape.hwDataBuf (shape_of_fixed (h.progress other dir))).symm
  · exact (hd.opened other hother dir).of_fixed (h.progress other dir)

theorem OnEndpoint.homeSize (h : OnEndpoint num dirIn d e) (other : Nat) (dir : Bool) :
    homeSize e other dir = Device.homeSize d other dir := by
  have hshape := shape_of_fixed (h.progress other dir)
  have hsize : (e.hwEndpoints other dir).wMaxPacketSize =
      (d.hwEndpoints other dir).wMaxPacketSize := congrArg Shape.wMaxPacketSize hshape
  unfold Device.homeSize
  rw [hsize]

/-- What the engine has done on the channel of an endpoint. -/
theorem onEndpoint_of_channel {c : Rp2040.Channel} (hd : Wired d) (hnum : num < usbMaxEndpoints)
    (hfixed : c.ep.fixed = (d.hwEndpoints num dirIn).fixed)
    (hmode : DeviceMode d.memory → DeviceMode c.memory)
    (hothers : ∀ offset, (d.hwEndpoints num dirIn).bufferControl ≠ some offset →
      (d.hwEndpoints num dirIn).endpointControl ≠ some offset →
        c.memory.word offset = d.memory.word offset)
    (hcontrol : ∀ offset, (d.hwEndpoints num dirIn).endpointControl = some offset →
      Rewritten (d.memory.word offset) (c.memory.word offset)) :
    OnEndpoint num dirIn d (d.withChannel num dirIn c) := by
  have hown := hd.own num hnum dirIn
  refine ⟨fun other dir => ?_, fun other dir hother => Dcd.setEndpoint_other _ _ hother, rfl, hmode,
    fun offset hnot => ?_, fun hpos => ?_⟩
  · by_cases hsame : other = num ∧ dir = dirIn
    · obtain ⟨rfl, rfl⟩ := hsame
      show ((d.setEndpoint other dir c.ep).hwEndpoints other dir).fixed = _
      rw [Dcd.setEndpoint_same]
      exact hfixed
    · show ((d.setEndpoint num dirIn c.ep).hwEndpoints other dir).fixed = _
      rw [Dcd.setEndpoint_other _ _ hsame]
  · refine hothers offset (fun hbuffer => ?_) fun hregister => ?_
    · exact hnot.1 (hown.bufferControl offset hbuffer)
    · obtain ⟨hpos, hsame⟩ := hown.endpointControl offset hregister
      exact hnot.2 hpos hsame
  · by_cases hregister : (d.hwEndpoints num dirIn).endpointControl = some (epCtrl (num - 1) dirIn)
    · exact hcontrol _ hregister
    · refine .inl (hothers _ (fun hbuffer => ?_) hregister)
      exact epBufCtrl_ne_epCtrl hnum (hown.bufferControl _ hbuffer).symm

end OnEndpoint

/-! ## The table -/

theorem endpointReg_buffer (transferType : UInt8) {offset : Nat} (haligned : 64 ∣ offset)
    (hbound : offset ≤ usbDpramMax) :
    hasBits (endpointReg transferType offset) epCtrlEnable = true ∧
      (endpointReg transferType offset &&& 0xffc0#32).toNat = offset := by
  have hmax : offset ≤ 4096 := hbound
  have hhigh : (transferType.toBitVec.setWidth 32 <<< 26) &&& 0xffc0#32 = 0#32 := by
    apply BitVec.eq_of_getLsbD_eq
    intro i hi
    by_cases hlow : i < 26
    · simp [BitVec.getLsbD_shiftLeft, hlow]
    · have hmask : ∀ i < 32, ¬ i < 26 → (0xffc0#32).getLsbD i = false := by decide
      rw [BitVec.getLsbD_and, hmask i hi hlow, Bool.and_false]
      simp
  have henable : epCtrlEnable &&& 0xffc0#32 = 0#32 := by decide
  obtain ⟨count, rfl⟩ := haligned
  have hall : ∀ count < 65, BitVec.ofNat 32 (64 * count) &&& 0xffc0#32 =
      BitVec.ofNat 32 (64 * count) := by decide
  constructor
  · unfold endpointReg
    rw [hasBits_or, hasBits_or, show hasBits epCtrlEnable epCtrlEnable = true from by decide]
    rfl
  · unfold endpointReg
    rw [BitVec.and_comm, BitVec.and_or_distrib_left, BitVec.and_or_distrib_left, BitVec.and_comm,
      henable, BitVec.and_comm, hhigh, BitVec.and_comm, hall count (by omega)]
    simp
    omega

/-- Setting up an endpoint other than endpoint 0 names its buffer in the control register. -/
theorem hwEndpointInit_control {epAddr : UInt8} {wMaxPacketSize : UInt16} {transferType : UInt8}
    {d e : Dcd} (h : hwEndpointInit epAddr wMaxPacketSize transferType d = .ok () e)
    (hpos : (tuEdptNumber epAddr).toNat ≠ 0) :
    e.memory.word (epCtrl ((tuEdptNumber epAddr).toNat - 1) (tuEdptDirIn epAddr)) =
      endpointReg transferType (hwDataOffset d.nextBufferPtr) := by
  obtain ⟨⟨num, dirIn⟩, _, haddr, hinit⟩ := Program.bind_eq_ok h
  obtain ⟨-, hplace, rfl⟩ := hwEndpointGetByAddr_ok haddr
  cases hplace
  obtain ⟨_, _, hfields, h⟩ := Program.bind_eq_ok hinit
  cases hfields
  obtain ⟨_, _, hword, h⟩ := Program.bind_eq_ok h
  cases hword
  split at h
  · rename_i hzero
    exact absurd hzero hpos
  · obtain ⟨_, _, hcontrol, h⟩ := Program.bind_eq_ok h
    cases hcontrol
    obtain ⟨next, rfl⟩ := hwEndpointAlloc_eq_ok h
    simp only [Dcd.setEndpoint_same]
    exact Memory.writeWord_same _ _ _

/-- Setting up endpoint 0 allocates nothing. -/
theorem hwEndpointInit_pointer {epAddr : UInt8} {wMaxPacketSize : UInt16} {transferType : UInt8}
    {d e : Dcd} (h : hwEndpointInit epAddr wMaxPacketSize transferType d = .ok () e)
    (hzero : (tuEdptNumber epAddr).toNat = 0) : e.nextBufferPtr = d.nextBufferPtr := by
  obtain ⟨⟨num, dirIn⟩, _, haddr, hinit⟩ := Program.bind_eq_ok h
  obtain ⟨-, hplace, rfl⟩ := hwEndpointGetByAddr_ok haddr
  cases hplace
  obtain ⟨_, _, hfields, h⟩ := Program.bind_eq_ok hinit
  cases hfields
  obtain ⟨_, _, hword, h⟩ := Program.bind_eq_ok h
  cases hword
  split at h
  · cases h
    rfl
  · rename_i hpos
    exact absurd hzero hpos

/-- Endpoint 0 is not among the buffers that are arranged. -/
theorem arranged_of_control {d e : Dcd} (h : Arranged d)
    (hsame : ∀ num dirIn, num ≠ 0 → e.hwEndpoints num dirIn = d.hwEndpoints num dirIn)
    (hnext : e.nextBufferPtr = d.nextBufferPtr) (hmode : DeviceMode e.memory) : Arranged e := by
  have hbuffer : e.buffer = d.buffer := by
    funext place
    unfold Dcd.buffer
    split
    · rename_i hplace
      rw [hsame _ _ (Nat.ne_of_gt hplace.1)]
    · rfl
  refine ⟨?_, hnext ▸ h.pointer_le, fun place region hregion => ?_, hmode⟩
  · rw [hbuffer, hnext]
    exact h.placed
  · have hpos : place.1 ≠ 0 := by
      intro hzero
      unfold Dcd.buffer at hregion
      rw [hzero, if_neg (fun hplace => Nat.lt_irrefl 0 hplace.1)] at hregion
      cases hregion
    rw [hsame _ _ hpos]
    exact h.packets place region (hbuffer ▸ hregion)

theorem dcdEdptOpenNew_housed (desc : EndpointPointer) :
    Program.Ends (Program.Keeps Housed) (dcdEdptOpenNew desc) := by
  intro d _ e hrun hd
  obtain ⟨hnum, hsetUp⟩ := hwEndpointInit_setUp hrun
  have hmode : DeviceMode e.memory := by
    have hbefore := hd.arranged.deviceMode
    unfold DeviceMode at hbefore ⊢
    rwa [hsetUp.memory.mainCtrl]
  have hother {other : Nat} {dir : Bool} (hlt : other < usbMaxEndpoints)
      (hne : ¬ (other = (tuEdptNumber desc.bEndpointAddress).toNat ∧
        dir = tuEdptDirIn desc.bEndpointAddress)) :
      controllerBuffer e other dir = controllerBuffer d other dir :=
    controllerBuffer_congr fun hpos _ => .inl (hsetUp.others _ (notOwn_epCtrl hpos hlt hne))
  by_cases hzero : (tuEdptNumber desc.bEndpointAddress).toNat = 0
  · have hcontrol := hsetUp.control hzero
    have hpointer := hwEndpointInit_pointer hrun hzero
    refine ⟨hsetUp.wired hd.wired, arranged_of_control hd.arranged (fun num dirIn hpos => ?_)
      hpointer hmode, fun other hlt dir => ?_, fun other hlt dir => ?_⟩
    · exact hsetUp.other num dirIn fun hsame => hpos (hsame.1.trans hzero)
    · by_cases hsame : other = (tuEdptNumber desc.bEndpointAddress).toNat ∧
          dir = tuEdptDirIn desc.bEndpointAddress
      · obtain ⟨rfl, rfl⟩ := hsame
        rw [hcontrol.hwDataBuf]
        exact if_pos hzero
      · rw [hother hlt hsame, hsetUp.other other dir hsame]
        exact hd.located other hlt dir
    · by_cases hsame : other = (tuEdptNumber desc.bEndpointAddress).toNat ∧
          dir = tuEdptDirIn desc.bEndpointAddress
      · obtain ⟨rfl, rfl⟩ := hsame
        refine .inl ⟨?_, hcontrol.rx, hcontrol.bufferControl.trans ?_⟩
        · rw [hcontrol.hwDataBuf]
          exact Option.some_ne_none _
        · rw [hzero]
      · rw [hsetUp.other other dir hsame]
        exact hd.opened other hlt dir
  · obtain ⟨-, -, hshape⟩ := hwEndpointInit_ok hrun
    have hopened := hshape hzero
    have hword := hwEndpointInit_control hrun hzero
    have hpointer := hd.arranged.pointer_le
    have haligned := hd.arranged.placed.pointer_aligned
    have hmax : usbDpramMax = 4096 := rfl
    have hoffset : hwDataOffset d.nextBufferPtr = d.nextBufferPtr :=
      hwDataOffset_eq haligned (by omega)
    have hbuffer : (e.hwEndpoints (tuEdptNumber desc.bEndpointAddress).toNat
        (tuEdptDirIn desc.bEndpointAddress)).hwDataBuf = some d.nextBufferPtr :=
      congrArg Shape.hwDataBuf hopened
    refine ⟨hsetUp.wired hd.wired, ?_, fun other hlt dir => ?_, fun other hlt dir => ?_⟩
    · exact dcdEdptOpenNew_arranged ⟨Nat.pos_of_ne_zero hzero, hnum⟩ _ _ _ hrun hd.arranged
    · by_cases hsame : other = (tuEdptNumber desc.bEndpointAddress).toNat ∧
          dir = tuEdptDirIn desc.bEndpointAddress
      · obtain ⟨rfl, rfl⟩ := hsame
        obtain ⟨henable, hbase⟩ := endpointReg_buffer desc.xfer haligned hpointer
        unfold controllerBuffer
        rw [if_neg hzero, if_pos hlt, hbuffer]
        dsimp only
        rw [hword, hoffset, henable, hbase]
        rfl
      · rw [hother hlt hsame, hsetUp.other other dir hsame]
        exact hd.located other hlt dir
    · by_cases hsame : other = (tuEdptNumber desc.bEndpointAddress).toNat ∧
          dir = tuEdptDirIn desc.bEndpointAddress
      · obtain ⟨rfl, rfl⟩ := hsame
        refine .inl ⟨?_, hsetUp.rx, congrArg Shape.bufferControl hopened⟩
        rw [hbuffer]
        exact Option.some_ne_none _
      · rw [hsetUp.other other dir hsame]
        exact hd.opened other hlt dir

/-- Clearing the registers of the other endpoints takes their buffers from the controller. -/
theorem controllerBuffer_cleared {d : Dcd} {num : Nat} {dirIn : Bool} (hpos : num ≠ 0)
    (hlt : num < usbMaxEndpoints)
    (h : ∀ offset, 0x08 ≤ offset → offset < 0x80 → d.memory.word offset = 0) :
    controllerBuffer d num dirIn = none := by
  have hcleared : d.memory.word (epCtrl (num - 1) dirIn) = 0 := by
    have hbound : num < 16 := hlt
    refine h _ ?_ ?_
    · unfold epCtrl
      omega
    · unfold epCtrl
      cases dirIn <;> simp <;> omega
  unfold controllerBuffer
  rw [if_neg hpos, if_pos hlt]
  dsimp only
  rw [hcleared]
  rfl

theorem controllerBuffer_zero {d : Dcd} (h : Wired d) (dirIn : Bool) :
    controllerBuffer d 0 dirIn = (d.hwEndpoints 0 dirIn).hwDataBuf := by
  rw [(h.control dirIn).hwDataBuf]
  rfl

theorem openOrClear_zero {d : Dcd} (h : Wired d) (dirIn : Bool) :
    OpenOrClear 0 dirIn (d.hwEndpoints 0 dirIn) := by
  have hcontrol := h.control dirIn
  refine .inl ⟨?_, hcontrol.rx, hcontrol.bufferControl⟩
  rw [hcontrol.hwDataBuf]
  exact Option.some_ne_none _

theorem resetNonControlEndpoints_housed :
    Program.Moves (Program.Keeps Housed) resetNonControlEndpoints := by
  intro d hd
  have hwired := resetNonControlEndpoints_wired d hd.wired
  refine ⟨hwired, resetNonControlEndpoints_arranged d hd.arranged, fun num hlt dirIn => ?_,
    fun num hlt dirIn => ?_⟩
  · by_cases hzero : num = 0
    · rw [hzero]
      exact controllerBuffer_zero hwired dirIn
    · rw [controllerBuffer_cleared hzero hlt fun _ hlow hhigh => if_pos ⟨hlow, hhigh⟩]
      show none = (if 1 ≤ num ∧ num < usbMaxEndpoints then HwEndpoint.zero
        else d.hwEndpoints num dirIn).hwDataBuf
      rw [if_pos ⟨Nat.pos_of_ne_zero hzero, hlt⟩]
      rfl
  · show OpenOrClear num dirIn (if 1 ≤ num ∧ num < usbMaxEndpoints then HwEndpoint.zero
      else d.hwEndpoints num dirIn)
    split
    · exact .inr rfl
    · exact hd.opened num hlt dirIn

theorem dcdAfterInit_housed (romWord : BitVec 32) : Housed (dcdAfterInit romWord) := by
  have hwired := dcdAfterInit_wired romWord
  have hclear {num : Nat} {dirIn : Bool} (hzero : num ≠ 0) (hlt : num < usbMaxEndpoints) :
      (dcdAfterInit romWord).hwEndpoints num dirIn = HwEndpoint.zero :=
    if_pos ⟨Nat.pos_of_ne_zero hzero, hlt⟩
  refine ⟨hwired, dcdAfterInit_arranged romWord, fun num hlt dirIn => ?_, fun num hlt dirIn => ?_⟩
  · by_cases hzero : num = 0
    · rw [hzero]
      exact controllerBuffer_zero hwired dirIn
    · rw [hclear hzero hlt, controllerBuffer_cleared hzero hlt fun _ hlow hhigh =>
        if_pos ⟨hlow, hhigh⟩]
      rfl
  · by_cases hzero : num = 0
    · rw [hzero]
      exact openOrClear_zero hwired dirIn
    · rw [hclear hzero hlt]
      exact .inr rfl

end UsbSec.Device
