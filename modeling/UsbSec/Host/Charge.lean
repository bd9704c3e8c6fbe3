import UsbSec.Host.DataRead

/-!
# What a transfer can count

`sync_ep_buffer` adds the length of each packet to `xferred_len`, and the transfer goes on until a
packet is shorter than the packet size or nothing remains. What remains shrinks by the packet size
and not by the length of the packet, so when packets are longer than the packet size more is
counted than was asked for. `Within` says that whatever the device sends, no more than 999 bytes
are counted: as many as the static buffer holds before the endpoint address.
-/

namespace UsbSec.Host

open Library Usb Rp2040

/-! ## The most that is counted -/

/-- The most that one packet counts when `length` bytes are asked for. A packet from the device has
at most 64 bytes; one to the device counts all that remains. -/
def packetMost (rx : Bool) (length : Nat) : Nat := if rx then min 64 length else length

/-- The most that the packets of a transfer of `length` bytes count. -/
def transferMost (rx : Bool) (size length : Nat) : Nat :=
  packetMost rx length +
    if size ≠ 0 ∧ size ≤ packetMost rx length ∧ size < length then
      transferMost rx size (length - size) else 0
termination_by length
decreasing_by omega

/-- The most that is counted from a packet of `length` bytes on, with `remaining` bytes behind
it. -/
def pendingMost (rx : Bool) (size remaining length : Nat) : Nat :=
  packetMost rx length +
    if size ≠ 0 ∧ size ≤ packetMost rx length ∧ remaining ≠ 0 then
      transferMost rx size remaining else 0

theorem transferMost_eq (rx : Bool) (size length : Nat) :
    transferMost rx size length = pendingMost rx size (length - size) length := by
  have hsame : (size ≠ 0 ∧ size ≤ packetMost rx length ∧ size < length) ↔
      size ≠ 0 ∧ size ≤ packetMost rx length ∧ length - size ≠ 0 := by
    constructor
    · rintro ⟨hsize, hpacket, hlonger⟩
      exact ⟨hsize, hpacket, by omega⟩
    · rintro ⟨hsize, hpacket, hlonger⟩
      exact ⟨hsize, hpacket, by omega⟩
  rw [transferMost, pendingMost]
  simp only [hsame]

theorem pendingMost_zero (rx : Bool) (size length : Nat) :
    pendingMost rx size 0 length = packetMost rx length := by
  unfold pendingMost
  rw [if_neg fun hmore => hmore.2.2 rfl]
  rfl

theorem packetMost_mono (rx : Bool) {first second : Nat} (h : first ≤ second) :
    packetMost rx first ≤ packetMost rx second := by
  cases rx with
  | true =>
      show min 64 first ≤ min 64 second
      omega
  | false => exact h

theorem pendingMost_mono (rx : Bool) (size remaining : Nat) {first second : Nat}
    (h : first ≤ second) :
    pendingMost rx size remaining first ≤ pendingMost rx size remaining second := by
  have hpacket := packetMost_mono rx h
  unfold pendingMost
  by_cases hmore : size ≠ 0 ∧ size ≤ packetMost rx first ∧ remaining ≠ 0
  · have hmore' : size ≠ 0 ∧ size ≤ packetMost rx second ∧ remaining ≠ 0 :=
      ⟨hmore.1, Nat.le_trans hmore.2.1 hpacket, hmore.2.2⟩
    rw [if_pos hmore, if_pos hmore']
    omega
  · rw [if_neg hmore]
    omega

/-! ## An endpoint and its buffer -/

/-- The word of the endpoint's buffer control register. -/
def bufferWord (c : Channel) : BitVec 32 := c.memory.readWord c.ep.bufferControl

/-- The buffer is to be sent from another register than that of EPX: the controller never does. -/
def Stuck (c : Channel) : Prop :=
  c.ep.rx = false ∧ c.ep.bufferControl ≠ some epxBufCtrl ∧
    hasBits (bufferWord c) bufCtrlFull = true

/-- The bytes that were counted and may still be, with `length` bytes in the buffer. -/
def chargeAt (ep : HwEndpoint) (length : Nat) : Nat :=
  ep.xferredLen.toNat +
    pendingMost ep.rx ep.wMaxPacketSize.toNat ep.remainingLen.toNat length

/-- Whatever the device sends, no more than 999 bytes are counted. -/
structure Within (c : Channel) : Prop where
  wired : c.ep.bufferControl ≠ none
  counted : c.ep.xferredLen.toNat ≤ 999
  remaining : c.ep.remainingLen.toNat ≤ 1000
  received : c.ep.rx = true → hasBits (bufferWord c) bufCtrlFull = true →
    (bufLen (bufferWord c)).toNat ≤ 64
  charge : Stuck c ∨ chargeAt c.ep (bufLen (bufferWord c)).toNat ≤ 999

/-- Another buffer word does no harm if it is that of a received packet or of a sent one. -/
theorem Within.of_word {c d : Channel} (h : Within c) (hep : d.ep = c.ep)
    (hshorter : (bufLen (bufferWord d)).toNat ≤ (bufLen (bufferWord c)).toNat)
    (hreceived : c.ep.rx = true → hasBits (bufferWord d) bufCtrlFull = true →
      (bufLen (bufferWord d)).toNat ≤ 64)
    (hstuck : c.ep.bufferControl ≠ some epxBufCtrl →
      hasBits (bufferWord d) bufCtrlFull = true) : Within d := by
  obtain ⟨hwired, hcounted, hremaining, -, hcharge⟩ := h
  rw [← hep] at hwired hcounted hremaining hreceived
  refine ⟨hwired, hcounted, hremaining, hreceived, ?_⟩
  rcases hcharge with ⟨hout, hplace, -⟩ | hcharge
  · left
    unfold Stuck
    rw [hep]
    exact ⟨hout, hplace, hstuck hplace⟩
  · right
    rw [hep]
    have hmono := pendingMost_mono c.ep.rx c.ep.wMaxPacketSize.toNat c.ep.remainingLen.toNat
      hshorter
    unfold chargeAt at hcharge ⊢
    omega

/-! ## Arming a buffer -/

theorem bufLen_toNat (word : BitVec 32) : (bufLen word).toNat = word.toNat % 1024 := by
  show ((word &&& bufCtrlLenMask).setWidth 16).toNat = _
  have hmask : bufCtrlLenMask.toNat = 2 ^ 10 - 1 := by decide
  rw [BitVec.toNat_setWidth, BitVec.toNat_and, hmask, Nat.and_two_pow_sub_one_eq_mod]
  omega

/-- The flags of an armed buffer are no part of its length. -/
theorem bufLen_armedWord_eq (ep : HwEndpoint) :
    (bufLen (armedWord ep)).toNat = ep.remainingLen.toNat % 1024 := by
  have hflags (word : BitVec 32) (rx : Bool) (pid : UInt8) (last : UInt16) :
      (word ||| bufCtrlAvail ||| fullBits rx ||| pidBits pid ||| lastBits last) &&&
        bufCtrlLenMask = word &&& bufCtrlLenMask := by
    have havail : bufCtrlAvail &&& bufCtrlLenMask = 0#32 := by decide
    have hfull : fullBits rx &&& bufCtrlLenMask = 0#32 := by
      cases rx <;> decide
    have hpid : pidBits pid &&& bufCtrlLenMask = 0#32 := by
      unfold pidBits
      split <;> decide
    have hlast : lastBits last &&& bufCtrlLenMask = 0#32 := by
      unfold lastBits
      split <;> decide
    rw [BitVec.and_or_distrib_right, BitVec.and_or_distrib_right, BitVec.and_or_distrib_right,
      BitVec.and_or_distrib_right, havail, hfull, hpid, hlast]
    simp
  have hlength : bufLen (armedWord ep) = bufLen (lenBits ep.remainingLen) := by
    unfold bufLen armedWord
    rw [hflags]
  have hword : (lenBits ep.remainingLen).toNat = ep.remainingLen.toNat := by
    show (ep.remainingLen.toBitVec.setWidth 32).toNat = _
    rw [BitVec.toNat_setWidth]
    have hlt := ep.remainingLen.toNat_lt
    exact Nat.mod_eq_of_lt (by omega)
  rw [hlength, bufLen_toNat, hword]

theorem bufLen_armedWord (ep : HwEndpoint) :
    (bufLen (armedWord ep)).toNat ≤ ep.remainingLen.toNat := by
  rw [bufLen_armedWord_eq]
  exact Nat.mod_le _ _

/-- A buffer that is armed for reception is not full. -/
theorem armedWord_full {ep : HwEndpoint} (hsmall : ep.remainingLen.toNat ≤ 1000) :
    hasBits (armedWord ep) bufCtrlFull = !ep.rx := by
  have hlength : hasBits (lenBits ep.remainingLen) bufCtrlFull = false := by
    have hbit : bufCtrlFull = BitVec.twoPow 32 15 := by decide
    have hclear : ep.remainingLen.toBitVec[15] = false := by
      refine Nat.testBit_lt_two_pow ?_
      show ep.remainingLen.toNat < 2 ^ 15
      omega
    have hnone : lenBits ep.remainingLen &&& bufCtrlFull = 0 := by
      unfold lenBits
      rw [hbit, BitVec.and_twoPow]
      simp [hclear]
    unfold hasBits
    rw [hnone]
    rfl
  have hpid : hasBits (pidBits ep.nextPid) bufCtrlFull = false := by
    unfold pidBits
    split <;> decide
  have hlast (last : UInt16) : hasBits (lastBits last) bufCtrlFull = false := by
    unfold lastBits
    split <;> decide
  have havail : hasBits bufCtrlAvail bufCtrlFull = false := by decide
  have hfull : hasBits (fullBits ep.rx) bufCtrlFull = !ep.rx := by
    cases ep.rx <;> decide
  unfold armedWord
  rw [hasBits_or, hasBits_or, hasBits_or, hasBits_or, hlength, hpid, hlast, havail, hfull]
  simp

/-- The endpoint and the registers are as before. -/
structure SameWords (c d : Channel) : Prop where
  ep : d.ep = c.ep
  word : d.memory.word = c.memory.word
  romWord : d.memory.romWord = c.memory.romWord

instance : IsPreorder Channel SameWords where
  refl _ := ⟨rfl, rfl, rfl⟩
  trans _ _ _ h k := ⟨k.ep.trans h.ep, k.word.trans h.word, k.romWord.trans h.romWord⟩

/-- Loading a buffer writes data only. -/
theorem loadBuffer_sameWords (buffer : UserBuf) (skip count : Nat) :
    Program.Moves SameWords (loadBuffer .slave buffer skip count) := by
  refine .bind .read fun c => .bind (readUser_moves _ _ _) fun bytes => ?_
  unfold writeData
  cases c.ep.hwDataBuf with
  | none => exact defined_moves _
  | some offset => exact .bind (defined_moves _) fun _ => .update fun _ => ⟨rfl, rfl, rfl⟩

/-- What is armed: the buffer holds the word for what remained, and the rest is charged. -/
structure Armed (c d : Channel) : Prop where
  fixed : d.ep.fixed = c.ep.fixed
  xferredLen : d.ep.xferredLen = c.ep.xferredLen
  remainingLen : d.ep.remainingLen =
    c.ep.remainingLen - tuMin16 c.ep.remainingLen c.ep.wMaxPacketSize
  word : c.ep.bufferControl ≠ none → bufferWord d = armedWord c.ep

theorem startNextBufferSlave_armed (c : Channel) :
    Program.Outcome startNextBufferSlave c (fun _ d => Armed c d) fun _ => True := by
  let left := c.ep.remainingLen - tuMin16 c.ep.remainingLen c.ep.wMaxPacketSize
  let charged : Channel := { c with ep := { c.ep with remainingLen := left } }
  refine .read_bind (.of_eq (Program.update_bind _ _ _) ?_)
  refine .bind (P := fun _ d => SameWords charged d) (.when (fun _ => ?_) fun _ => ?_) ?_
  · exact .of_moves (loadBuffer_sameWords _ _ _) (fun _ _ hd => hd) fun _ _ => trivial
  · exact refl_of SameWords charged
  · intro _ d hd
    rw [when_divides]
    refine .of_eq (Program.update_bind _ _ _) ?_
    refine .of_eq (hwEndpointBufferControlSetValue32_apply _ _) (.of_ok rfl ?_)
    refine ⟨?_, ?_, ?_, fun hwired => ?_⟩
    · show ({ d.ep with nextPid := _ } : HwEndpoint).fixed = _
      rw [hd.ep]
      rfl
    · show d.ep.xferredLen = _
      rw [hd.ep]
    · show d.ep.remainingLen = _
      rw [hd.ep]
    · have hpointer : d.ep.bufferControl = c.ep.bufferControl := by rw [hd.ep]
      obtain ⟨offset, hoffset⟩ := Option.ne_none_iff_exists'.mp hwired
      unfold Host.bufferWord Memory.readWord
      rw [hoffset] at hpointer
      simp [hpointer, armedWord]

/-- What remains of a transfer fits behind the bytes that were counted, or is never sent. -/
def Fits (ep : HwEndpoint) : Prop :=
  ep.rx = false ∧ ep.bufferControl ≠ some epxBufCtrl ∨
    ep.xferredLen.toNat + transferMost ep.rx ep.wMaxPacketSize.toNat ep.remainingLen.toNat ≤ 999

theorem Armed.within {c d : Channel} (h : Armed c d) (hwired : c.ep.bufferControl ≠ none)
    (hcounted : c.ep.xferredLen.toNat ≤ 999) (hremaining : c.ep.remainingLen.toNat ≤ 1000)
    (hfits : Fits c.ep) : Within d := by
  have hrx : d.ep.rx = c.ep.rx := eq_of_fixed (fun _ => rfl) h.fixed
  have hsize : d.ep.wMaxPacketSize = c.ep.wMaxPacketSize := eq_of_fixed (fun _ => rfl) h.fixed
  have hplace : d.ep.bufferControl = c.ep.bufferControl := eq_of_fixed (fun _ => rfl) h.fixed
  have hword := h.word hwired
  have hfull := armedWord_full hremaining
  have hlength := bufLen_armedWord c.ep
  have hleft : d.ep.remainingLen.toNat =
      c.ep.remainingLen.toNat - c.ep.wMaxPacketSize.toNat := by
    rw [h.remainingLen, toNat_sub_tuMin16]
    omega
  refine ⟨?_, ?_, ?_, fun hin hset => ?_, ?_⟩
  · rwa [hplace]
  · rwa [h.xferredLen]
  · omega
  · rw [hword, hfull, ← hrx, hin] at hset
    cases hset
  · rcases hfits with ⟨hout, hother⟩ | hfits
    · left
      unfold Stuck
      rw [hrx, hplace, hword, hfull, hout]
      exact ⟨rfl, hother, rfl⟩
    · right
      have hmono := pendingMost_mono c.ep.rx c.ep.wMaxPacketSize.toNat
        (c.ep.remainingLen.toNat - c.ep.wMaxPacketSize.toNat) hlength
      rw [← transferMost_eq] at hmono
      unfold chargeAt
      rw [hword, hrx, hsize, hleft, h.xferredLen]
      omega

/-- A transfer is started that fits. -/
theorem hwEndpointXferStart_within {c : Channel} (buffer : UserBuf) {totalLen : UInt16}
    (hwired : c.ep.bufferControl ≠ none) (hsmall : totalLen.toNat ≤ 1000)
    (hfits : Fits (freshTransfer buffer totalLen c.ep)) :
    Program.Outcome (hwEndpointXferStart .slave buffer totalLen) c (fun _ d => Within d)
      fun _ => True := by
  refine .of_eq (hwEndpointXferStart_apply buffer totalLen c) ?_
  refine (startNextBufferSlave_armed _).mono (fun _ d hd => ?_) fun _ _ => trivial
  exact hd.within hwired (Nat.zero_le _) hsmall hfits

/-! ## Taking a buffer in -/

/-- The bytes of the buffer are counted. -/
structure Counted (c d : Channel) : Prop where
  fixed : d.ep.fixed = c.ep.fixed
  word : bufferWord d = bufferWord c
  full : hasBits (bufferWord c) bufCtrlFull = c.ep.rx
  xferredLen : d.ep.xferredLen = c.ep.xferredLen + bufLen (bufferWord c)
  remainingLen : d.ep.remainingLen =
    if IsShort (bufLen (bufferWord c)) c.ep.wMaxPacketSize then 0 else c.ep.remainingLen

/-- Only where the data goes may change before the bytes are counted. -/
structure SameCount (c d : Channel) : Prop where
  fixed : d.ep.fixed = c.ep.fixed
  word : bufferWord d = bufferWord c
  xferredLen : d.ep.xferredLen = c.ep.xferredLen
  remainingLen : d.ep.remainingLen = c.ep.remainingLen

instance : IsPreorder Channel SameCount where
  refl _ := ⟨rfl, rfl, rfl, rfl⟩
  trans _ _ _ h k := ⟨k.fixed.trans h.fixed, k.word.trans h.word, k.xferredLen.trans h.xferredLen,
    k.remainingLen.trans h.remainingLen⟩

theorem writeUser_sameCount (buffer : UserBuf) (bytes : List UInt8) :
    Program.Moves SameCount (writeUser .slave buffer bytes) := by
  have hmemory (change : Memory → Memory) (hword : ∀ m, (change m).word = m.word)
      (hrom : ∀ m, (change m).romWord = m.romWord) :
      Program.Moves SameCount (setMemory change) := by
    refine .update fun c => ⟨rfl, ?_, rfl, rfl⟩
    unfold bufferWord Memory.readWord
    rw [hword, hrom]
  cases buffer with
  | null => exact defined_moves _
  | bugger offset => exact .bind (defined_moves _) fun _ => hmemory _ (fun _ => rfl) fun _ => rfl
  | reserveBugger offset =>
      exact .bind (defined_moves _) fun _ => hmemory _ (fun _ => rfl) fun _ => rfl
  | object offset => exact .bind (defined_moves _) fun _ => hmemory _ (fun _ => rfl) fun _ => rfl
  | payload _ _ => exact defined_moves _

/-- Both branches of `sync_ep_buffer` count the bytes of the buffer, or stop. -/
theorem syncBranch_counts (c : Channel) :
    Program.Outcome (if c.ep.rx = false then syncSent (bufferWord c) (bufLen (bufferWord c))
        else syncReceived .slave (bufferWord c) (bufLen (bufferWord c))) c
      (fun _ d => hasBits (bufferWord c) bufCtrlFull = c.ep.rx ∧ d.ep.fixed = c.ep.fixed ∧
        bufferWord d = bufferWord c ∧
        d.ep.xferredLen = c.ep.xferredLen + bufLen (bufferWord c) ∧
        d.ep.remainingLen = c.ep.remainingLen) fun _ => True := by
  refine .ite (fun hout => ?_) fun hin => ?_
  · refine .require_bind (fun hempty => .of_ok rfl ⟨?_, rfl, rfl, rfl, rfl⟩) fun _ => trivial
    rw [hout]
    exact hempty
  · have hin : c.ep.rx = true := by simpa using hin
    refine .bind (P := fun _ d => d = c ∧ hasBits (bufferWord c) bufCtrlFull = true)
      (.when (fun _ => .stop trivial) fun hfull => ⟨rfl, by simpa using hfull⟩) ?_
    intro _ same hsame
    obtain ⟨hsame, hfull⟩ := hsame
    rw [hsame]
    refine .read_bind (.bind (P := fun _ d => SameCount c d) (.when (fun _ => ?_) fun _ => ?_) ?_)
    · exact .of_ok rfl ⟨rfl, rfl, rfl, rfl⟩
    · exact refl_of SameCount c
    · intro _ d hd
      have hread : Program.Moves SameCount
          (readData d.ep.hwDataBuf (bufLen (bufferWord c)).toNat) := readData_moves _ _
      refine .read_bind (.bind (P := fun _ e => SameCount c e) ?_ fun bytes e he => ?_)
      · exact .of_moves hread (fun _ _ he => trans_of SameCount hd he) fun _ _ => trivial
      · refine .bind (P := fun _ f => SameCount c f) ?_ fun _ f hf => ?_
        · exact .of_moves (writeUser_sameCount _ _) (fun _ _ hf => trans_of SameCount he hf)
            fun _ _ => trivial
        · refine .of_eq (Program.update_bind _ _ _) (.of_ok rfl ?_)
          refine ⟨hfull.trans hin.symm, hf.fixed, hf.word, ?_, hf.remainingLen⟩
          show f.ep.xferredLen + _ = _
          rw [hf.xferredLen]

theorem syncEpBuffer_counts (c : Channel) :
    Program.Outcome (syncEpBuffer .slave) c (fun _ d => Counted c d) fun _ => True := by
  refine .read_bind (.bind (syncBranch_counts c) ?_)
  rintro _ d ⟨hfull, hfixed, hword, hxferred, hremaining⟩
  have hsize : d.ep.wMaxPacketSize = c.ep.wMaxPacketSize := eq_of_fixed (fun _ => rfl) hfixed
  refine .read_bind ?_
  show Program.Outcome (Program.when (IsShort (bufLen (bufferWord c)) d.ep.wMaxPacketSize) _) d _ _
  rw [hsize]
  by_cases hshort : IsShort (bufLen (bufferWord c)) c.ep.wMaxPacketSize
  · rw [Program.when_true hshort]
    exact .of_ok rfl ⟨hfixed, hword, hfull, hxferred, (if_pos hshort).symm⟩
  · rw [Program.when_false hshort]
    exact .pure ⟨hfixed, hword, hfull, hxferred, hremaining.trans (if_neg hshort).symm⟩

/-- The endpoint with its transfer reset, if it is complete. -/
def afterTransfer (done : Bool) (c : Channel) : Channel :=
  if done then { c with ep := c.ep.resetTransfer } else c

section Counted

variable {c d : Channel} (h : Within c) (hd : Counted c d)
include h hd

/-- A buffer that was counted is charged with its length. -/
theorem Counted.charge : c.ep.xferredLen.toNat + (bufLen (bufferWord c)).toNat +
    (if c.ep.wMaxPacketSize.toNat ≠ 0 ∧
        c.ep.wMaxPacketSize.toNat ≤ (bufLen (bufferWord c)).toNat ∧ c.ep.remainingLen.toNat ≠ 0 then
      transferMost c.ep.rx c.ep.wMaxPacketSize.toNat c.ep.remainingLen.toNat else 0) ≤ 999 := by
  have hpacket : packetMost c.ep.rx (bufLen (bufferWord c)).toNat =
      (bufLen (bufferWord c)).toNat := by
    cases hrx : c.ep.rx with
    | true =>
        have hshort := h.received hrx (hd.full.trans hrx)
        show min 64 _ = _
        omega
    | false => rfl
  rcases h.charge with ⟨hout, -, hset⟩ | hcharge
  · rw [hd.full, hout] at hset
    cases hset
  · unfold chargeAt pendingMost at hcharge
    rw [hpacket] at hcharge
    omega

theorem Counted.xferred : d.ep.xferredLen.toNat =
    c.ep.xferredLen.toNat + (bufLen (bufferWord c)).toNat := by
  have hcharge := hd.charge h
  rw [hd.xferredLen, UInt16.toNat_add]
  exact Nat.mod_eq_of_lt (by omega)

theorem Counted.xferred_le : d.ep.xferredLen.toNat ≤ 999 := by
  have hcharge := hd.charge h
  rw [hd.xferred h]
  omega

/-- The transfer is complete. -/
theorem Counted.reset : Within { d with ep := d.ep.resetTransfer } := by
  have hrx : d.ep.rx = c.ep.rx := eq_of_fixed (fun _ => rfl) hd.fixed
  have hplace : d.ep.bufferControl = c.ep.bufferControl := eq_of_fixed (fun _ => rfl) hd.fixed
  have hword : bufferWord { d with ep := d.ep.resetTransfer } = bufferWord c := hd.word
  have hcharge := hd.charge h
  refine ⟨?_, Nat.zero_le _, Nat.zero_le _, fun hin hset => ?_, .inr ?_⟩
  · show d.ep.bufferControl ≠ none
    rw [hplace]
    exact h.wired
  · rw [hword] at hset ⊢
    exact h.received (hrx.symm.trans hin) hset
  · have hpacket : packetMost d.ep.rx (bufLen (bufferWord c)).toNat ≤
        (bufLen (bufferWord c)).toNat := by
      cases d.ep.rx with
      | true => exact Nat.min_le_right _ _
      | false => exact Nat.le_refl _
    rw [hword]
    show 0 + pendingMost d.ep.rx d.ep.wMaxPacketSize.toNat 0 _ ≤ 999
    rw [pendingMost_zero]
    omega

/-- The transfer goes on. -/
theorem Counted.more (hmore : d.ep.remainingLen ≠ 0) :
    d.ep.bufferControl ≠ none ∧ d.ep.remainingLen.toNat ≤ 1000 ∧ Fits d.ep := by
  have hrx : d.ep.rx = c.ep.rx := eq_of_fixed (fun _ => rfl) hd.fixed
  have hsize : d.ep.wMaxPacketSize = c.ep.wMaxPacketSize := eq_of_fixed (fun _ => rfl) hd.fixed
  have hplace : d.ep.bufferControl = c.ep.bufferControl := eq_of_fixed (fun _ => rfl) hd.fixed
  have hlong : ¬ IsShort (bufLen (bufferWord c)) c.ep.wMaxPacketSize := by
    intro hshort
    exact hmore (hd.remainingLen.trans (if_pos hshort))
  have hleft : d.ep.remainingLen = c.ep.remainingLen := hd.remainingLen.trans (if_neg hlong)
  obtain ⟨hpacket, hnonzero⟩ := not_or.mp hlong
  have hpacket : c.ep.wMaxPacketSize.toNat ≤ (bufLen (bufferWord c)).toNat :=
    Nat.not_lt.mp fun hlt => hpacket (UInt16.lt_iff_toNat_lt.mpr hlt)
  have hnonzero : c.ep.wMaxPacketSize.toNat ≠ 0 :=
    fun hzero => hnonzero (UInt16.toNat_inj.mp hzero)
  have hsome : c.ep.remainingLen.toNat ≠ 0 := by
    intro hzero
    rw [hleft] at hmore
    exact hmore (UInt16.toNat_inj.mp hzero)
  have hcharge := hd.charge h
  rw [if_pos ⟨hnonzero, hpacket, hsome⟩] at hcharge
  refine ⟨by rw [hplace]; exact h.wired, by rw [hleft]; exact h.remaining, .inr ?_⟩
  rw [hrx, hsize, hleft, hd.xferred h]
  exact hcharge

end Counted

/-- The engine on a buffer: what is counted stays within the bound. -/
theorem hwEndpointXferContinue_within {c : Channel} (h : Within c) :
    Program.Outcome (hwEndpointXferContinue .slave) c
      (fun done d => d.ep.xferredLen.toNat ≤ 999 ∧ Within (afterTransfer done d))
      fun _ => True := by
  refine .read_bind (.ite (fun _ => .pure ⟨h.counted, h⟩) fun _ => ?_)
  refine .bind (syncEpBuffer_counts c) fun _ d hd => .read_bind ?_
  refine .ite (fun _ => .stop trivial) fun _ => .ite (fun _ => ?_) fun hmore => ?_
  · exact .pure ⟨hd.xferred_le h, hd.reset h⟩
  · obtain ⟨hwired, hsmall, hfits⟩ := hd.more h hmore
    refine .bind (startNextBufferSlave_armed d) fun _ e he => .pure ⟨?_, ?_⟩
    · rw [he.xferredLen]
      exact hd.xferred_le h
    · exact he.within hwired (hd.xferred_le h) hsmall hfits

/-- A packet of `epx` whose transfer has counted nothing before is counted with its length. -/
theorem hwEndpointXferContinue_single {c : Channel} (hfresh : c.ep.xferredLen = 0)
    (hshort : (bufLen (bufferWord c)).toNat ≤ 64) :
    Program.Outcome (hwEndpointXferContinue .slave) c
      (fun _ d => d.ep.xferredLen.toNat ≤ 999) fun _ => True := by
  refine .read_bind (.ite (fun _ => .pure ?_) fun _ => ?_)
  · rw [hfresh]
    exact Nat.zero_le _
  refine .bind (syncEpBuffer_counts c) fun _ d hd => .read_bind ?_
  have hxferred : d.ep.xferredLen.toNat ≤ 999 := by
    rw [hd.xferredLen, hfresh, UInt16.zero_add]
    omega
  refine .ite (fun _ => .stop trivial) fun _ => .ite (fun _ => .pure hxferred) fun _ => ?_
  refine .bind (startNextBufferSlave_armed d) fun _ e he => .pure ?_
  rw [he.xferredLen]
  exact hxferred

end UsbSec.Host
