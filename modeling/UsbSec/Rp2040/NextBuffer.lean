import UsbSec.Rp2040.Arming

/-!
# Arming the next buffer

What `_hw_endpoint_start_next_buffer` does in each role, on every endpoint. The master charges the
next packet and names its length in the buffer control word. The slave charges the next packet too,
but what it puts into the word is all that remained before. Both lengths are ORed into the word as
they are.
-/

namespace UsbSec.Rp2040

open Library Usb

/-! ## The outcome -/

/-- The length of the next packet. -/
def HwEndpoint.nextLen (ep : HwEndpoint) : UInt16 := tuMin16 ep.remainingLen ep.wMaxPacketSize

/-- What remains behind the next packet. -/
def HwEndpoint.leftLen (ep : HwEndpoint) : UInt16 := ep.remainingLen - ep.nextLen

/-- The length that is put into the buffer control word. -/
def wordLen (role : SpiRole) (ep : HwEndpoint) : UInt16 :=
  match role with
  | .master => ep.nextLen
  | .slave => ep.remainingLen

/-- The bit that selects the first buffer, which the device half sets. -/
def selBits : SpiRole → BitVec 32
  | .master => bufCtrlSel
  | .slave => 0

/-- The flags of the buffer control word. -/
def wordFlags (role : SpiRole) (ep : HwEndpoint) : BitVec 32 :=
  bufCtrlAvail ||| pidBits ep.nextPid ||| fullBits ep.rx ||| lastBits ep.leftLen ||| selBits role

/-- The buffer control word for the next buffer. -/
def bufferWord (role : SpiRole) (ep : HwEndpoint) : BitVec 32 :=
  lenBits (wordLen role ep) ||| wordFlags role ep

/-- Where the bytes of the next packet are taken from: the device half moves the pointer, the host
half counts from it. -/
def nextSource (role : SpiRole) (ep : HwEndpoint) : UserBuf :=
  match role with
  | .master => ep.userBuf
  | .slave => ep.userBuf.advance ep.xferredLen.toNat

/-- The endpoint after the next buffer is armed. -/
def nextEp (role : SpiRole) (ep : HwEndpoint) : HwEndpoint :=
  match role with
  | .master =>
      { ep with remainingLen := ep.leftLen, nextPid := ep.nextPid ^^^ 1
                userBuf := if ep.rx then ep.userBuf else ep.userBuf.advance ep.nextLen.toNat }
  | .slave =>
      { ep with
        remainingLen := ep.leftLen
        nextPid := nextPidAfter ep.nextPid ep.leftLen ep.nextLen ep.wMaxPacketSize }

/-- What must hold for the next packet to be loaded. -/
def CanLoadNext (role : SpiRole) (ep : HwEndpoint) : Prop :=
  ep.rx = false → (nextSource role ep).Holds role ep.nextLen.toNat ∧
    HasRoom ep.hwDataBuf ep.nextLen.toNat

/-- The memory with the next packet in the buffer, if it is to be sent. -/
def nextLoaded (role : SpiRole) (c : Channel) : Memory :=
  if c.ep.rx then c.memory
  else c.memory.load c.ep.hwDataBuf ((nextSource role c.ep).bytes c.memory c.ep.nextLen.toNat)

/-- The memory after the next buffer is armed. -/
def nextMemory (role : SpiRole) (c : Channel) : Memory :=
  match role with
  | .master => armedMemory (bufferWord .master c.ep) c (nextLoaded .master c)
  | .slave => (nextLoaded .slave c).writeWord c.ep.bufferControl (bufferWord .slave c.ep)

/-- Charging the next packet loads its bytes, or is undefined. -/
theorem prepareEpBuffer_outcome (c : Channel) :
    Program.Outcome (prepareEpBuffer .master 0) c
      (fun word d => CanLoadNext .master c.ep ∧ word ||| bufCtrlSel = bufferWord .master c.ep ∧
        d = { ep := nextEp .master c.ep, memory := nextLoaded .master c })
      (fun _ => ¬ CanLoadNext .master c.ep) := by
  have hword : lenBits c.ep.nextLen ||| bufCtrlAvail ||| pidBits c.ep.nextPid |||
      fullBits c.ep.rx ||| lastBits c.ep.leftLen ||| bufCtrlSel = bufferWord .master c.ep := by
    unfold bufferWord wordFlags wordLen selBits
    simp only [BitVec.or_assoc]
  refine .read_bind (.of_eq (Program.update_bind _ _ _) ?_)
  cases hrx : c.ep.rx with
  | true =>
      refine .of_ok rfl ⟨fun h => absurd (hrx.symm.trans h) (by decide), hrx ▸ hword, ?_⟩
      unfold nextEp nextLoaded
      simp only [hrx, if_true]
      rfl
  | false =>
      rw [Program.when_true rfl]
      refine .bind (P := fun _ d => CanLoadNext .master c.ep ∧
        d = { ep := nextEp .master c.ep, memory := nextLoaded .master c }) ?_
        fun _ d hd => .of_ok rfl ⟨hd.1, hrx ▸ hword, hd.2⟩
      refine .bind (.mono (loadBuffer_outcome_bytes _ _ _ _) (fun _ _ h => h)
        fun _ hnot h => hnot (h hrx)) fun _ d hd => ?_
      obtain ⟨hcan, rfl⟩ := hd
      refine .of_ok rfl ⟨fun _ => hcan, ?_⟩
      unfold nextEp nextLoaded
      simp only [hrx]
      rfl

theorem startNextBufferMaster_outcome {c : Channel} (hmode : DeviceMode c.memory) :
    Program.Outcome startNextBufferMaster c
      (fun _ d => CanLoadNext .master c.ep ∧
        d = { ep := nextEp .master c.ep, memory := nextMemory .master c })
      (fun _ => ¬ CanLoadNext .master c.ep) := by
  refine .read_bind (.bind (prepareEpBuffer_outcome c) ?_)
  intro word d hd
  obtain ⟨hcan, hword, rfl⟩ := hd
  have hsingle : (!hasBits (nextLoaded .master c).mainCtrl mainCtrlHostNdevice) = true := by
    have hsame : (nextLoaded .master c).mainCtrl = c.memory.mainCtrl := by
      unfold nextLoaded
      split
      · rfl
      · exact Memory.load_mainCtrl _ _ _
    rw [hsame, show hasBits c.memory.mainCtrl mainCtrlHostNdevice = false from hmode]
    rfl
  refine .read_bind (.ite (fun hmore => ?_) fun _ => ?_)
  · exact absurd (hsingle.symm.trans hmore.2) (by decide)
  · rw [hword]
    refine .of_eq (Program.bind_ok rfl) ?_
    exact .of_ok (hwEndpointBufferControlSetValue32_apply _ _) ⟨hcan, rfl⟩

theorem startNextBufferSlave_outcome (c : Channel) :
    Program.Outcome startNextBufferSlave c
      (fun _ d => CanLoadNext .slave c.ep ∧
        d = { ep := nextEp .slave c.ep, memory := nextMemory .slave c })
      (fun _ => ¬ CanLoadNext .slave c.ep) := by
  have hword : lenBits c.ep.remainingLen ||| bufCtrlAvail ||| fullBits c.ep.rx |||
      pidBits c.ep.nextPid ||| lastBits c.ep.leftLen = bufferWord .slave c.ep := by
    show _ = lenBits c.ep.remainingLen ||| (bufCtrlAvail ||| pidBits c.ep.nextPid |||
      fullBits c.ep.rx ||| lastBits c.ep.leftLen ||| 0#32)
    rw [BitVec.or_zero]
    ac_rfl
  refine .read_bind (.of_eq (Program.update_bind _ _ _) ?_)
  refine .bind (P := fun _ d => CanLoadNext .slave c.ep ∧
    d = { ep := { c.ep with remainingLen := c.ep.leftLen }, memory := nextLoaded .slave c })
    (.when (fun hrx => ?_) fun hrx => ⟨fun hnot => absurd hnot hrx, ?_⟩) fun _ d hd => ?_
  · refine .mono (loadBuffer_outcome_bytes _ _ _ _) (fun _ d hd => ⟨fun _ => hd.1, ?_⟩)
      fun _ hnot h => hnot (h hrx)
    rw [hd.2]
    unfold nextLoaded
    rw [if_neg (by simp [hrx])]
    rfl
  · unfold nextLoaded
    rw [if_pos (eq_true_of_ne_false hrx)]
    rfl
  · obtain ⟨hcan, rfl⟩ := hd
    rw [when_divides]
    refine .of_eq (Program.bind_ok rfl) ?_
    refine .of_ok (hwEndpointBufferControlSetValue32_apply _ _) ⟨hcan, ?_⟩
    unfold nextMemory
    rw [← hword]
    rfl

/-- Arming the next buffer ends with the endpoint charged and the buffer control word written, or is
undefined. -/
theorem startNextBuffer_outcome {role : SpiRole} {c : Channel}
    (hmode : role = .master → DeviceMode c.memory) :
    Program.Outcome (hwEndpointStartNextBuffer role) c
      (fun _ d => CanLoadNext role c.ep ∧ d = { ep := nextEp role c.ep, memory := nextMemory role c })
      (fun _ => ¬ CanLoadNext role c.ep) := by
  cases role with
  | master => exact startNextBufferMaster_outcome (hmode rfl)
  | slave => exact startNextBufferSlave_outcome c

/-- A buffer that is to receive is always armed. -/
theorem startNextBuffer_receives {role : SpiRole} {c : Channel}
    (hmode : role = .master → DeviceMode c.memory) (hrx : c.ep.rx = true) :
    hwEndpointStartNextBuffer role c =
      .ok () { ep := nextEp role c.ep, memory := nextMemory role c } := by
  have hcan : CanLoadNext role c.ep := by
    intro hnot
    exact absurd (hrx.symm.trans hnot) (by decide)
  obtain ⟨_, d, hrun, -, rfl⟩ := ((startNextBuffer_outcome hmode).mono (fun _ _ h => h)
    fun _ hnot => hnot hcan).exists_ok
  exact hrun

theorem nextMemory_word (role : SpiRole) {c : Channel} {offset : Nat}
    (hbuffer : c.ep.bufferControl = some offset) :
    (nextMemory role c).word offset = bufferWord role c.ep := by
  cases role with
  | master =>
      unfold nextMemory armedMemory
      rw [hbuffer, Memory.writeWord_same]
  | slave =>
      unfold nextMemory
      rw [hbuffer, Memory.writeWord_same]

/-- Arming a buffer of the host half writes no other register. -/
theorem nextMemory_slave_other {c : Channel} {buffer offset : Nat}
    (hbuffer : c.ep.bufferControl = some buffer) (hother : offset ≠ buffer) :
    (nextMemory .slave c).word offset = c.memory.word offset := by
  have hloaded : (nextLoaded .slave c).word = c.memory.word := by
    unfold nextLoaded
    split
    · rfl
    · exact Memory.load_word _ _ _
  unfold nextMemory
  rw [hbuffer]
  exact (Memory.writeWord_other _ _ hother).trans (congrFun hloaded offset)

/-! ## The PIDs -/

/-- The PID after a number of packets. -/
def toggled (count : Nat) (pid : UInt8) : UInt8 := if count % 2 = 0 then pid else pid ^^^ 1

@[simp] theorem toggled_zero (pid : UInt8) : toggled 0 pid = pid := rfl

@[simp] theorem toggled_one (pid : UInt8) : toggled 1 pid = pid ^^^ 1 := rfl

theorem toggled_add (first second : Nat) (pid : UInt8) :
    toggled (first + second) pid = toggled second (toggled first pid) := by
  have htwice : pid ^^^ 1 ^^^ 1 = pid := by
    rw [UInt8.xor_assoc, UInt8.xor_self, UInt8.xor_zero]
  unfold toggled
  rcases Nat.mod_two_eq_zero_or_one first with hfirst | hfirst <;>
    rcases Nat.mod_two_eq_zero_or_one second with hsecond | hsecond <;>
    simp [Nat.add_mod, hfirst, hsecond, htwice]

/-- Only the parity of the number counts. -/
theorem toggled_congr {first second : Nat} (h : first % 2 = second % 2) (pid : UInt8) :
    toggled first pid = toggled second pid := by
  unfold toggled
  rw [h]

/-- The number of packets that the host half predicts when a buffer is armed while `remaining` bytes
remain. -/
def predicted (size remaining : UInt16) : Nat :=
  if tuMin16 remaining size = 0 then 1 else 1 + (remaining.toNat - 1) / size.toNat

/-- The host half toggles the PID once for each packet that it predicts. -/
theorem nextPidAfter_predicted (pid : UInt8) (size remaining : UInt16) :
    nextPidAfter pid (remaining - tuMin16 remaining size) (tuMin16 remaining size) size =
      toggled (predicted size remaining) pid := by
  have hsum : (remaining - tuMin16 remaining size).toNat + (tuMin16 remaining size).toNat =
      remaining.toNat := by
    have hle := tuMin16_le_left remaining size
    rw [UInt16.toNat_sub_of_le _ _ hle]
    exact Nat.sub_add_cancel (UInt16.le_iff_toNat_le.mp hle)
  unfold nextPidAfter predicted packetCount
  rw [hsum]
  by_cases hempty : tuMin16 remaining size = 0
  · rw [if_pos hempty, if_pos hempty, toggled_one]
  · rw [if_neg hempty, if_neg hempty]
    unfold toggled
    split <;> split <;> first | rfl | omega

/-! ## The bits of the word -/

/-- No bit of a length is in a flag position exactly when it is below 1024. -/
theorem lenBits_noFlag (length : UInt16) :
    hasBits (lenBits length) (0xffff#32 &&& ~~~bufCtrlLenMask) = false ↔ length.toNat < 1024 := by
  constructor
  · intro hnone
    have hzero : lenBits length &&& (0xffff#32 &&& ~~~bufCtrlLenMask) = 0 := by
      simpa [hasBits] using hnone
    by_contra hlarge
    have hhigh : ∃ i, 10 ≤ i ∧ length.toNat.testBit i = true := by
      refine Nat.exists_ge_and_testBit_of_ge_two_pow ?_
      omega
    obtain ⟨i, hi, hbit⟩ := hhigh
    have hlt : i < 16 := by
      by_contra hge
      have hsmall : length.toNat < 2 ^ i :=
        Nat.lt_of_lt_of_le length.toNat_lt (Nat.pow_le_pow_right (by omega) (by omega))
      rw [Nat.testBit_lt_two_pow hsmall] at hbit
      cases hbit
    have hlength : (lenBits length).getLsbD i = true := by
      unfold lenBits
      rw [BitVec.getLsbD_setWidth, decide_eq_true (by omega : i < 32), Bool.true_and]
      exact hbit
    have hmask : (0xffff#32 &&& ~~~bufCtrlLenMask).getLsbD i = true := by
      have hall : ∀ i < 16, 10 ≤ i → (0xffff#32 &&& ~~~bufCtrlLenMask).getLsbD i = true := by
        decide
      exact hall i hlt hi
    have hand := congrArg (fun word : BitVec 32 => word.getLsbD i) hzero
    simp only [BitVec.getLsbD_and, hlength, hmask] at hand
    simp at hand
  · intro hlength
    exact hasBits_lenBits hlength (by decide)

/-- The bits of the flags, one case for each flag that may be set or clear. -/
theorem flags_bits (pid rx last : Bool) (role : SpiRole) :
    let word := bufCtrlAvail ||| (if pid then bufCtrlData1Pid else bufCtrlData0Pid) |||
      fullBits rx ||| (if last then bufCtrlLast else 0) ||| selBits role
    hasBits word bufCtrlAvail = true ∧ hasBits word bufCtrlStall = false ∧
      hasBits word bufCtrlData1Pid = pid ∧ hasBits word bufCtrlFull = (!rx) ∧
      hasBits word bufCtrlLast = last ∧ word &&& bufCtrlLenMask = 0 := by
  cases pid <;> cases rx <;> cases last <;> cases role <;> decide

theorem wordFlags_bits (role : SpiRole) (ep : HwEndpoint) :
    hasBits (wordFlags role ep) bufCtrlAvail = true ∧
      hasBits (wordFlags role ep) bufCtrlStall = false ∧
      hasBits (wordFlags role ep) bufCtrlData1Pid = decide (ep.nextPid ≠ 0) ∧
      hasBits (wordFlags role ep) bufCtrlFull = (!ep.rx) ∧
      hasBits (wordFlags role ep) bufCtrlLast = decide (ep.leftLen = 0) ∧
      wordFlags role ep &&& bufCtrlLenMask = 0 := by
  have hflags : wordFlags role ep =
      bufCtrlAvail ||| (if decide (ep.nextPid ≠ 0) then bufCtrlData1Pid else bufCtrlData0Pid) |||
        fullBits ep.rx ||| (if decide (ep.leftLen = 0) then bufCtrlLast else 0) |||
        selBits role := by
    simp only [wordFlags, pidBits, lastBits, decide_eq_true_eq]
  rw [hflags]
  exact flags_bits _ _ _ _

/-- The PID bit of the word, when the length does not reach the flags. -/
theorem bufferWord_pid {role : SpiRole} {ep : HwEndpoint} (h : (wordLen role ep).toNat < 1024) :
    hasBits (bufferWord role ep) bufCtrlData1Pid = decide (ep.nextPid ≠ 0) := by
  obtain ⟨-, -, hpid, -⟩ := wordFlags_bits role ep
  rw [bufferWord, hasBits_or, hasBits_lenBits h (by decide), hpid, Bool.false_or]

end UsbSec.Rp2040
