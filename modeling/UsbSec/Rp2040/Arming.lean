import UsbSec.Rp2040.Allocator

/-!
# Transfers of one packet

What `hw_endpoint_xfer_start` and `hw_endpoint_xfer_partial` do on the master when the transfer fits
one packet of its endpoint: all of its bytes are in the buffer before the function returns, the
buffer control word names their number, and nothing remains to be read from the user's buffer. A
longer transfer to the host arms the buffer for its first packet.
-/

namespace UsbSec.Rp2040

open Library Usb

/-! ## Buffer control words -/

/-- The word arms the buffer for a packet of the given length, to be received or to be sent. -/
structure ArmsBuffer (rx : Bool) (length : Nat) (word : BitVec 32) : Prop where
  avail : hasBits word bufCtrlAvail = true
  full : hasBits word bufCtrlFull = !rx
  length : (bufLen word).toNat = length

instance (rx : Bool) (length : Nat) (word : BitVec 32) : Decidable (ArmsBuffer rx length word) :=
  decidable_of_iff (hasBits word bufCtrlAvail = true ∧ hasBits word bufCtrlFull = !rx ∧
    (bufLen word).toNat = length) ⟨fun h => ⟨h.1, h.2.1, h.2.2⟩, fun h => ⟨h.1, h.2, h.3⟩⟩

/-- A length that fits the length field occupies no other bits. -/
theorem lenBits_masked {length : UInt16} (h : length.toNat < 1024) :
    lenBits length &&& bufCtrlLenMask = lenBits length := by
  apply BitVec.eq_of_toNat_eq
  show (length.toBitVec.setWidth 32).toNat &&& (2 ^ 10 - 1) = (length.toBitVec.setWidth 32).toNat
  rw [Nat.and_two_pow_sub_one_eq_mod, BitVec.toNat_setWidth]
  have hsame : length.toBitVec.toNat = length.toNat := rfl
  omega

theorem hasBits_lenBits {length : UInt16} (h : length.toNat < 1024) {bits : BitVec 32}
    (hbits : bufCtrlLenMask &&& bits = 0) : hasBits (lenBits length) bits = false := by
  unfold hasBits
  rw [← lenBits_masked h, BitVec.and_assoc, hbits]
  simp

theorem bufLen_lenBits_or {length : UInt16} (h : length.toNat < 1024) {flags : BitVec 32}
    (hflags : flags &&& bufCtrlLenMask = 0) : bufLen (lenBits length ||| flags) = length := by
  have hmasked : (lenBits length ||| flags) &&& bufCtrlLenMask = lenBits length := by
    rw [BitVec.and_comm, BitVec.and_or_distrib_left, BitVec.and_comm, lenBits_masked h,
      BitVec.and_comm, hflags]
    simp
  unfold bufLen
  rw [hmasked]
  apply UInt16.toNat_inj.mp
  show ((length.toBitVec.setWidth 32).setWidth 16).toNat = length.toNat
  rw [BitVec.toNat_setWidth, BitVec.toNat_setWidth]
  have hsame : length.toBitVec.toNat = length.toNat := rfl
  omega

/-- A length together with the right flags arms a buffer. -/
theorem armsBuffer_of_flags {rx : Bool} {length : UInt16} (h : length.toNat < 1024)
    {flags : BitVec 32} (hmask : flags &&& bufCtrlLenMask = 0)
    (havail : hasBits flags bufCtrlAvail = true) (hfull : hasBits flags bufCtrlFull = !rx) :
    ArmsBuffer rx length.toNat (lenBits length ||| flags) := by
  constructor
  · rw [hasBits_or, havail, Bool.or_true]
  · rw [hasBits_or, hasBits_lenBits h (by decide), hfull, Bool.false_or]
  · rw [bufLen_lenBits_or h hmask]

/-- The flags of a single packet after which nothing remains. -/
def wholeFlags (rx : Bool) (nextPid : UInt8) : BitVec 32 :=
  bufCtrlAvail ||| pidBits nextPid ||| fullBits rx ||| bufCtrlLast ||| bufCtrlSel

/-- The word for a transfer of one packet. -/
def wholeWord (ep : HwEndpoint) (length : UInt16) : BitVec 32 :=
  lenBits length ||| wholeFlags ep.rx ep.nextPid

theorem wholeWord_arms (ep : HwEndpoint) {length : UInt16} (h : length.toNat < 1024) :
    ArmsBuffer ep.rx length.toNat (wholeWord ep length) := by
  refine armsBuffer_of_flags h ?_ ?_ ?_
  all_goals
    unfold wholeFlags pidBits
    split <;> cases ep.rx <;> decide

/-- The flags of a single packet of a transfer in parts, which end with a packet below 64 bytes. -/
def partFlags (rx : Bool) (nextPid : UInt8) (length : UInt16) : BitVec 32 :=
  let flags := wholeFlags rx nextPid &&& ~~~bufCtrlLast
  if length < 64 then flags ||| bufCtrlLast else flags

/-- The word for a part of a transfer. -/
def partWord (ep : HwEndpoint) (length : UInt16) : BitVec 32 :=
  let word := wholeWord ep length &&& ~~~bufCtrlLast
  if length < 64 then word ||| bufCtrlLast else word

theorem partWord_arms (ep : HwEndpoint) {length : UInt16} (h : length.toNat < 1024) :
    ArmsBuffer ep.rx length.toNat (partWord ep length) := by
  have hlength : lenBits length &&& ~~~bufCtrlLast = lenBits length := by
    rw [← lenBits_masked h, BitVec.and_assoc]
    rfl
  have hcleared : wholeWord ep length &&& ~~~bufCtrlLast =
      lenBits length ||| (wholeFlags ep.rx ep.nextPid &&& ~~~bufCtrlLast) := by
    unfold wholeWord
    rw [BitVec.and_comm, BitVec.and_or_distrib_left, BitVec.and_comm, hlength, BitVec.and_comm]
  have hword : partWord ep length = lenBits length ||| partFlags ep.rx ep.nextPid length := by
    unfold partWord partFlags
    rw [hcleared]
    split
    · rw [BitVec.or_assoc]
    · rfl
  rw [hword]
  refine armsBuffer_of_flags h ?_ ?_ ?_
  all_goals
    unfold partFlags wholeFlags pidBits
    split <;> split <;> cases ep.rx <;> decide

/-! ## Loading a packet -/

/-- The next `count` bytes at `buffer`. -/
def UserBuf.bytes (memory : Memory) (count : Nat) : UserBuf → List UInt8
  | .null => []
  | .bugger offset => memory.bugger.bytesAt offset count
  | .reserveBugger offset => memory.reserveBugger.bytesAt offset count
  | .object offset => memory.object.bytesAt offset count
  | .payload bytes offset => (bytes.drop offset).take count

/-- `count` bytes can be read at `buffer`. -/
def UserBuf.Holds (role : SpiRole) (count : Nat) : UserBuf → Prop
  | .null => count = 0
  | .bugger offset => offset + count ≤ buggerSize role
  | .reserveBugger offset => offset + count ≤ 64
  | .object offset => offset + count ≤ objectSize
  | .payload bytes offset => offset + count ≤ bytes.length

/-- `count` bytes can be written at the start of the DPRAM buffer. -/
def HasRoom (hwDataBuf : Option Nat) (count : Nat) : Prop :=
  match hwDataBuf with
  | none => count = 0
  | some base => base + count ≤ usbDpramMax

/-- The memory with the bytes at the start of the DPRAM buffer. -/
def Memory.load (memory : Memory) (hwDataBuf : Option Nat) (bytes : List UInt8) : Memory :=
  match hwDataBuf with
  | none => memory
  | some base => { memory with data := memory.data.writeAt base bytes }

@[simp] theorem Memory.load_word (memory : Memory) (hwDataBuf : Option Nat) (bytes : List UInt8) :
    (memory.load hwDataBuf bytes).word = memory.word := by
  cases hwDataBuf <;> rfl

@[simp] theorem Memory.load_mainCtrl (memory : Memory) (hwDataBuf : Option Nat)
    (bytes : List UInt8) : (memory.load hwDataBuf bytes).mainCtrl = memory.mainCtrl := by
  cases hwDataBuf <;> rfl

@[simp] theorem Memory.load_romWord (memory : Memory) (hwDataBuf : Option Nat)
    (bytes : List UInt8) : (memory.load hwDataBuf bytes).romWord = memory.romWord := by
  cases hwDataBuf <;> rfl

theorem UserBuf.length_bytes {role : SpiRole} {count : Nat} {buffer : UserBuf}
    (h : buffer.Holds role count) (memory : Memory) :
    (buffer.bytes memory count).length = count := by
  cases buffer with
  | null => exact (show count = 0 from h).symm
  | bugger offset => exact Buffer.length_bytesAt _ _ _
  | reserveBugger offset => exact Buffer.length_bytesAt _ _ _
  | object offset => exact Buffer.length_bytesAt _ _ _
  | payload bytes offset =>
      have hbound : offset + count ≤ bytes.length := h
      unfold UserBuf.bytes
      rw [List.length_take, List.length_drop]
      omega

/-- Reading at a buffer gives its bytes, or is undefined. -/
theorem readUser_outcome_bytes (role : SpiRole) (buffer : UserBuf) (count : Nat) (c : Channel) :
    Program.Outcome (readUser role buffer count) c
      (fun bytes d => buffer.Holds role count ∧ bytes = buffer.bytes c.memory count ∧ d = c)
      (fun _ => ¬ buffer.Holds role count) := by
  refine .read_bind ?_
  cases buffer with
  | null => exact .require_bind (fun h => .of_ok rfl ⟨h, rfl, rfl⟩) id
  | bugger offset => exact .require_bind (fun h => .of_ok rfl ⟨h, rfl, rfl⟩) id
  | reserveBugger offset => exact .require_bind (fun h => .of_ok rfl ⟨h, rfl, rfl⟩) id
  | object offset => exact .require_bind (fun h => .of_ok rfl ⟨h, rfl, rfl⟩) id
  | payload bytes offset => exact .require_bind (fun h => .of_ok rfl ⟨h, rfl, rfl⟩) id

/-- Loading a packet puts its bytes into the DPRAM, or is undefined. -/
theorem loadBuffer_outcome_bytes (role : SpiRole) (buffer : UserBuf) (count : Nat) (c : Channel) :
    Program.Outcome (loadBuffer role buffer 0 count) c
      (fun _ d => (buffer.Holds role count ∧ HasRoom c.ep.hwDataBuf count) ∧
        d = { c with memory := c.memory.load c.ep.hwDataBuf (buffer.bytes c.memory count) })
      (fun _ => ¬ (buffer.Holds role count ∧ HasRoom c.ep.hwDataBuf count)) := by
  refine .read_bind (.bind (.mono (readUser_outcome_bytes role buffer count c) (fun _ _ h => h)
    fun _ hnot h => hnot h.1) ?_)
  rintro bytes d ⟨hholds, rfl, rfl⟩
  have hlength := UserBuf.length_bytes hholds d.memory
  unfold writeData HasRoom Memory.load
  cases d.ep.hwDataBuf with
  | none =>
      refine .of_eq rfl (.ite (fun hempty => .pure ⟨⟨hholds, ?_⟩, rfl⟩) fun hsome => .stop ?_)
      · show count = 0
        rw [← hlength, hempty]
        rfl
      · intro h
        have hzero : count = 0 := h.2
        exact hsome (List.length_eq_zero_iff.mp (hlength.trans hzero))
  | some base =>
      refine .require_bind (fun hroom => .of_ok rfl ⟨⟨hholds, ?_⟩, rfl⟩) fun hfull h => hfull ?_
      · show base + count ≤ usbDpramMax
        rw [hlength] at hroom
        exact hroom
      · rw [hlength]
        exact h.2

/-! ## Whole transfers -/

theorem tuMin16_eq_left {first second : UInt16} (h : first ≤ second) :
    tuMin16 first second = first := by
  unfold tuMin16
  split
  · rfl
  · rename_i hlt
    exact UInt16.le_antisymm (UInt16.not_lt.mp hlt) h

/-- What must hold for a packet to be loaded: an endpoint that receives loads nothing. -/
def CanLoad (buffer : UserBuf) (length : UInt16) (ep : HwEndpoint) : Prop :=
  ep.rx = false → buffer.Holds .master length.toNat ∧ HasRoom ep.hwDataBuf length.toNat

/-- The memory after a packet is loaded. -/
def loadedMemory (buffer : UserBuf) (length : UInt16) (c : Channel) : Memory :=
  if c.ep.rx then c.memory
  else c.memory.load c.ep.hwDataBuf (buffer.bytes c.memory length.toNat)

/-- The endpoint after all of a transfer is charged. -/
def chargedEp (buffer : UserBuf) (length : UInt16) (ep : HwEndpoint) : HwEndpoint :=
  { ep with remainingLen := 0, nextPid := ep.nextPid ^^^ 1
            userBuf := if ep.rx then buffer else buffer.advance length.toNat }

/-- Charging all of a transfer loads all of its bytes. -/
theorem prepareEpBuffer_whole {c : Channel} (hfits : c.ep.remainingLen ≤ c.ep.wMaxPacketSize) :
    Program.Outcome (prepareEpBuffer .master 0) c
      (fun word d => CanLoad c.ep.userBuf c.ep.remainingLen c.ep ∧
        word ||| bufCtrlSel = wholeWord c.ep c.ep.remainingLen ∧
        d = { ep := chargedEp c.ep.userBuf c.ep.remainingLen c.ep
              memory := loadedMemory c.ep.userBuf c.ep.remainingLen c })
      (fun _ => ¬ CanLoad c.ep.userBuf c.ep.remainingLen c.ep) := by
  have hword : lenBits c.ep.remainingLen ||| bufCtrlAvail ||| pidBits c.ep.nextPid |||
      fullBits c.ep.rx ||| lastBits 0 ||| bufCtrlSel = wholeWord c.ep c.ep.remainingLen := by
    unfold wholeWord wholeFlags lastBits
    simp only [BitVec.or_assoc, if_pos]
  refine .read_bind (.of_eq (Program.update_bind _ _ _) ?_)
  dsimp only
  rw [tuMin16_eq_left hfits, UInt16.sub_self]
  cases hrx : c.ep.rx with
  | true =>
      refine .of_ok rfl ⟨fun h => absurd (hrx.symm.trans h) (by decide), hrx ▸ hword, ?_⟩
      unfold chargedEp loadedMemory
      rw [if_pos hrx, if_pos hrx, hrx]
  | false =>
      rw [Program.when_true rfl]
      refine .bind (P := fun _ d => CanLoad c.ep.userBuf c.ep.remainingLen c.ep ∧
        d = { ep := chargedEp c.ep.userBuf c.ep.remainingLen c.ep
              memory := loadedMemory c.ep.userBuf c.ep.remainingLen c }) ?_
        fun _ d hd => .of_ok rfl ⟨hd.1, hrx ▸ hword, hd.2⟩
      refine .bind (.mono (loadBuffer_outcome_bytes _ _ _ _) (fun _ _ h => h)
        fun _ hnot h => hnot (h hrx)) fun _ d hd => ?_
      obtain ⟨hcan, rfl⟩ := hd
      refine .of_ok rfl ⟨fun _ => hcan, ?_⟩
      unfold chargedEp loadedMemory
      rw [if_neg (by simp [hrx]), if_neg (by simp [hrx]), hrx]

theorem sub_tuMin16_ne_zero {first second : UInt16} (h : ¬ first ≤ second) :
    first - tuMin16 first second ≠ 0 := by
  have hlt : second < first := UInt16.not_le.mp h
  have hmin : tuMin16 first second = second := if_neg (UInt16.not_lt.mpr (UInt16.le_of_lt hlt))
  rw [hmin]
  intro hzero
  have hsub := UInt16.toNat_sub_of_le _ _ (UInt16.le_of_lt hlt)
  rw [hzero] at hsub
  have hnat : second.toNat < first.toNat := hlt
  have hzero' : (0 : UInt16).toNat = 0 := rfl
  omega

/-- Charging a packet of a longer transfer leaves something to send. -/
theorem prepareEpBuffer_more {c : Channel} (hlong : ¬ c.ep.remainingLen ≤ c.ep.wMaxPacketSize) :
    Program.Outcome (prepareEpBuffer .master 0) c
      (fun _ d => d.ep.remainingLen ≠ 0 ∧ d.ep.epAddr = c.ep.epAddr) (fun _ => True) := by
  have hmore := sub_tuMin16_ne_zero hlong
  refine .read_bind (.of_eq (Program.update_bind _ _ _) ?_)
  refine .bind (P := fun _ d => d.ep.remainingLen ≠ 0 ∧ d.ep.epAddr = c.ep.epAddr)
    (.when (fun _ => ?_) fun _ => ⟨hmore, rfl⟩) fun _ d hd => .of_ok rfl hd
  refine .bind (.mono (loadBuffer_outcome_bytes _ _ _ _) (fun _ _ h => h) fun _ _ => trivial)
    fun _ d hd => ?_
  obtain ⟨-, rfl⟩ := hd
  exact .of_ok rfl ⟨hmore, rfl⟩

/-- The registers after the endpoint is switched to a single buffer and the buffer is armed. -/
def armedMemory (word : BitVec 32) (c : Channel) (memory : Memory) : Memory :=
  (memory.writeWord c.ep.endpointControl
    (singleBuffered (c.memory.readWord c.ep.endpointControl))).writeWord c.ep.bufferControl word

/-- The endpoint and the memory after a transfer of one packet is started. -/
def wholeChannel (buffer : UserBuf) (totalLen : UInt16) (c : Channel) : Channel where
  ep := { chargedEp buffer totalLen c.ep with xferredLen := 0, active := true, isPartial := false }
  memory := armedMemory (wholeWord c.ep totalLen) c (loadedMemory buffer totalLen c)

/-- The endpoint and the memory after one packet of a transfer in parts is started. -/
def partChannel (buffer : UserBuf) (totalLen : UInt16) (c : Channel) : Channel where
  ep := { chargedEp buffer totalLen c.ep with xferredLen := 0, active := true, isPartial := false }
  memory := armedMemory (partWord c.ep totalLen) c (loadedMemory buffer totalLen c)

/-- The endpoint at the start of a transfer, with all of it still to do. -/
def freshChannel (buffer : UserBuf) (totalLen : UInt16) (c : Channel) : Channel :=
  { c with ep := { c.ep with
      remainingLen := totalLen, xferredLen := 0, active := true, userBuf := buffer
      isPartial := false } }

theorem hwEndpointXferStart_eq (buffer : UserBuf) (totalLen : UInt16) (c : Channel) :
    hwEndpointXferStart .master buffer totalLen c =
      startNextBufferMaster (freshChannel buffer totalLen c) := by
  obtain ⟨ep, memory⟩ := c
  cases ep
  rename_i active _ _ _ _ _ _ _ _
  cases active <;> rfl

/-- Starting a transfer of one packet arms the buffer with all of its bytes, or is undefined. -/
theorem hwEndpointXferStart_whole {buffer : UserBuf} {totalLen : UInt16} {c : Channel}
    (hfits : totalLen ≤ c.ep.wMaxPacketSize) :
    Program.Outcome (hwEndpointXferStart .master buffer totalLen) c
      (fun _ d => CanLoad buffer totalLen c.ep ∧ d = wholeChannel buffer totalLen c)
      (fun _ => ¬ CanLoad buffer totalLen c.ep) := by
  refine .of_eq (hwEndpointXferStart_eq _ _ _) (.read_bind ?_)
  refine .bind (prepareEpBuffer_whole (c := freshChannel buffer totalLen c) hfits) ?_
  rintro word d ⟨hcan, hword, rfl⟩
  refine .read_bind (.ite (fun hmore => absurd rfl hmore.1) fun _ => ?_)
  rw [hword]
  refine .of_eq (Program.bind_ok rfl) ?_
  exact .of_ok (hwEndpointBufferControlSetValue32_apply _ _) ⟨hcan, rfl⟩

/-- A transfer in parts arms the buffer with all bytes of the part. A part that is longer than a
packet stops the master, unless its endpoint is not for IN transfers. -/
theorem hwEndpointXferPartial_whole {buffer : UserBuf} {totalLen : UInt16} {c : Channel}
    (hfits : tuEdptDirIn c.ep.epAddr = false → totalLen ≤ c.ep.wMaxPacketSize) :
    Program.Outcome (hwEndpointXferPartial .master buffer totalLen) c
      (fun _ d => totalLen ≤ c.ep.wMaxPacketSize ∧ CanLoad buffer totalLen c.ep ∧
        d = partChannel buffer totalLen c)
      (fun _ => ¬ (totalLen ≤ c.ep.wMaxPacketSize ∧ CanLoad buffer totalLen c.ep)) := by
  let fresh : Channel := { c with ep := { c.ep with
    remainingLen := totalLen, xferredLen := 0, active := true, userBuf := buffer
    isPartial := true } }
  refine .of_eq (Program.update_bind _ _ _) (.read_bind ?_)
  by_cases hwhole : totalLen ≤ c.ep.wMaxPacketSize
  · refine .bind (.mono (prepareEpBuffer_whole (c := fresh) hwhole) (fun _ _ h => h)
      fun _ hnot h => hnot h.2) ?_
    rintro word d ⟨hcan, hword, rfl⟩
    refine .read_bind (.ite (fun hmore => absurd rfl hmore.1) fun _ => ?_)
    rw [hword]
    refine .of_eq (Program.bind_ok rfl) (.of_eq (Program.bind_ok rfl) ?_)
    exact .of_ok (hwEndpointBufferControlSetValue32_apply _ _) ⟨hwhole, hcan, rfl⟩
  · refine .bind (.mono (prepareEpBuffer_more (c := fresh) hwhole) (fun _ _ h => h)
      fun _ _ h => hwhole h.1) ?_
    rintro word d ⟨hmore, haddr⟩
    refine .read_bind (.ite (fun _ => .stop fun h => hwhole h.1) fun hsingle => ?_)
    -- Only an endpoint for OUT transfers goes on with something left.
    refine absurd ?_ hsingle
    have hin : tuEdptDirIn d.ep.epAddr = true := by
      rw [haddr]
      exact eq_true_of_ne_false fun hout => hwhole (hfits hout)
    exact ⟨hmore, by simp [hin]⟩

/-! ## Transfers to the host that never stop -/

/-- The low half of a word is not touched by what is shifted into the high half. -/
theorem shifted_masked (word : BitVec 32) {bits : BitVec 32} (h : bits &&& 0xffff#32 = bits) :
    (word <<< 16) &&& bits = 0 := by
  have hlow : (word <<< 16) &&& 0xffff#32 = 0 := by
    apply BitVec.eq_of_toNat_eq
    show (word <<< 16).toNat &&& (2 ^ 16 - 1) = 0
    rw [Nat.and_two_pow_sub_one_eq_mod, BitVec.toNat_shiftLeft, Nat.shiftLeft_eq]
    omega
  rw [← h, BitVec.and_comm bits, ← BitVec.and_assoc, hlow]
  simp

/-- The word arms the buffer for a packet to the host whose length is that of a packet of `length`
bytes in the length field. -/
structure SendsLength (length : UInt16) (word : BitVec 32) : Prop where
  avail : hasBits word bufCtrlAvail = true
  full : hasBits word bufCtrlFull = true
  length : bufLen word = bufLen (lenBits length)

/-- A length together with the flags of a packet to the host. -/
theorem sendsLength_of_flags (length : UInt16) {flags : BitVec 32}
    (havail : hasBits flags bufCtrlAvail = true) (hfull : hasBits flags bufCtrlFull = true)
    (hflags : flags &&& bufCtrlLenMask = 0) : SendsLength length (lenBits length ||| flags) := by
  constructor
  · rw [hasBits_or, havail, Bool.or_true]
  · rw [hasBits_or, hfull, Bool.or_true]
  · unfold bufLen
    rw [BitVec.and_comm, BitVec.and_or_distrib_left, BitVec.and_comm _ flags, hflags,
      BitVec.and_comm]
    simp

/-- Other bits may be set. -/
theorem SendsLength.or {length : UInt16} {word : BitVec 32} (h : SendsLength length word)
    {flags : BitVec 32} (hflags : flags &&& bufCtrlLenMask = 0) :
    SendsLength length (word ||| flags) := by
  constructor
  · rw [hasBits_or, h.avail, Bool.true_or]
  · rw [hasBits_or, h.full, Bool.true_or]
  · rw [← h.length]
    unfold bufLen
    rw [BitVec.and_comm, BitVec.and_or_distrib_left, BitVec.and_comm _ flags, hflags,
      BitVec.and_comm]
    simp

/-- A second packet in the other buffer of the endpoint. -/
theorem SendsLength.second {length : UInt16} {word : BitVec 32} (h : SendsLength length word)
    (other : BitVec 32) : SendsLength length (word ||| other <<< 16) :=
  h.or (shifted_masked other rfl)

theorem bufLen_lenBits_toNat (length : UInt16) :
    (bufLen (lenBits length)).toNat = length.toNat % 1024 := by
  show ((length.toBitVec.setWidth 32 &&& 0x3ff#32).setWidth 16).toNat = _
  rw [BitVec.toNat_setWidth, BitVec.toNat_and, BitVec.toNat_setWidth]
  show (length.toNat % 2 ^ 32 &&& (2 ^ 10 - 1)) % 2 ^ 16 = _
  rw [Nat.and_two_pow_sub_one_eq_mod]
  have hlt := length.toNat_lt
  omega

theorem SendsLength.armsEmpty_iff {length : UInt16} {word : BitVec 32} (h : SendsLength length word) :
    ArmsBuffer false 0 word ↔ length.toNat % 1024 = 0 := by
  rw [← bufLen_lenBits_toNat, ← h.length]
  exact ⟨fun harms => harms.length, fun hzero => ⟨h.avail, h.full, hzero⟩⟩

theorem UserBuf.Holds.advance {role : SpiRole} {total count : Nat} {buffer : UserBuf}
    (h : buffer.Holds role total) (hle : count ≤ total) :
    buffer.Holds role count ∧ (buffer.advance count).Holds role (total - count) := by
  cases buffer with
  | null =>
      have hzero : total = 0 := h
      exact ⟨show count = 0 by omega, show total - count = 0 by omega⟩
  | bugger offset =>
      have hbound : offset + total ≤ buggerSize role := h
      exact ⟨show offset + count ≤ _ by omega, show offset + count + (total - count) ≤ _ by omega⟩
  | reserveBugger offset =>
      have hbound : offset + total ≤ 64 := h
      exact ⟨show offset + count ≤ _ by omega, show offset + count + (total - count) ≤ _ by omega⟩
  | object offset =>
      have hbound : offset + total ≤ objectSize := h
      exact ⟨show offset + count ≤ _ by omega, show offset + count + (total - count) ≤ _ by omega⟩
  | payload bytes offset =>
      have hbound : offset + total ≤ bytes.length := h
      exact ⟨show offset + count ≤ _ by omega, show offset + count + (total - count) ≤ _ by omega⟩

/-- Loading a packet goes through where it can be read and there is room behind `skip`. -/
theorem loadBuffer_succeeds {role : SpiRole} {buffer : UserBuf} {skip count : Nat} {c : Channel}
    {base : Nat} (hholds : buffer.Holds role count) (hbase : c.ep.hwDataBuf = some base)
    (hroom : base + skip + count ≤ usbDpramMax) :
    Program.Outcome (loadBuffer role buffer skip count) c (fun _ d => d.ep = c.ep)
      fun _ => False := by
  refine .read_bind (.bind (.mono (readUser_outcome_bytes role buffer count c) (fun _ _ h => h)
    fun _ hnot => hnot hholds) ?_)
  rintro bytes d ⟨-, rfl, rfl⟩
  have hlength := UserBuf.length_bytes hholds d.memory
  unfold writeData
  rw [hbase]
  refine .require_bind (fun _ => .of_ok rfl rfl) fun hfull => hfull ?_
  rw [hlength]
  exact hroom

/-- What the endpoint has left to send can be read, and fits its buffer. -/
structure CanSend (base offset : Nat) (c : Channel) : Prop where
  rx : c.ep.rx = false
  bufferControl : c.ep.bufferControl = some offset
  hwDataBuf : c.ep.hwDataBuf = some base
  holds : c.ep.userBuf.Holds .master c.ep.remainingLen.toNat
  room : base + 64 + c.ep.remainingLen.toNat ≤ usbDpramMax

theorem tuMin16_le_left (first second : UInt16) : tuMin16 first second ≤ first := by
  unfold tuMin16
  split
  · exact UInt16.le_refl _
  · rename_i hlt
    exact UInt16.not_lt.mp hlt

theorem prepareEpBuffer_sends {base offset bufId : Nat} {c : Channel} (hc : CanSend base offset c)
    (hbuf : bufId ≤ 1) :
    Program.Outcome (prepareEpBuffer .master bufId) c
      (fun word d => CanSend base offset d ∧
        (bufId = 0 → SendsLength (tuMin16 c.ep.remainingLen c.ep.wMaxPacketSize) word) ∧
        (bufId ≠ 0 → ∃ other : BitVec 32, word = other <<< 16))
      fun _ => False := by
  have hle : tuMin16 c.ep.remainingLen c.ep.wMaxPacketSize ≤ c.ep.remainingLen := tuMin16_le_left _ _
  generalize hlen : tuMin16 c.ep.remainingLen c.ep.wMaxPacketSize = length at hle ⊢
  have hsub := UInt16.toNat_sub_of_le _ _ hle
  have hnat : length.toNat ≤ c.ep.remainingLen.toNat := hle
  have hroom := hc.room
  obtain ⟨hread, hrest⟩ := hc.holds.advance hnat
  rw [← hsub] at hrest
  refine .read_bind (.of_eq (Program.update_bind _ _ _) ?_)
  dsimp only
  rw [hlen]
  refine .bind (P := fun _ d => CanSend base offset d) ?_ fun _ d hd => .of_ok rfl ⟨hd, ?_, ?_⟩
  · rw [Program.when_true hc.rx]
    refine .bind (.mono (loadBuffer_succeeds hread hc.hwDataBuf ?_) (fun _ _ h => h)
      fun _ h => h) fun _ d hd => .of_ok rfl ?_
    · have hskip : bufId * 64 ≤ 64 := by omega
      omega
    · constructor
      all_goals simp only [hd]
      · exact hc.rx
      · exact hc.bufferControl
      · exact hc.hwDataBuf
      · exact hrest
      · omega
  · intro hzero
    rw [if_neg (not_not.mpr hzero), hc.rx]
    simp only [BitVec.or_assoc]
    refine sendsLength_of_flags length ?_ ?_ ?_
    all_goals
      rw [show fullBits false = bufCtrlFull from rfl]
      unfold pidBits lastBits
      split <;> split <;> decide
  · intro hsecond
    exact ⟨_, if_pos hsecond⟩

/-- The end of `_hw_endpoint_start_next_buffer` writes the word of the buffer last. -/
theorem armBuffer_word {pointer : Option Nat} {offset : Nat} (control word : BitVec 32) {c : Channel}
    (hoffset : c.ep.bufferControl = some offset) :
    Program.Outcome (do
      setMemory fun m => m.writeWord pointer control
      hwEndpointBufferControlSetValue32 word) c (fun _ d => d.memory.word offset = word)
      fun _ => False := by
  refine .of_eq (Program.update_bind _ _ _) ?_
  refine .of_ok (hwEndpointBufferControlSetValue32_apply _ _) ?_
  rw [hoffset]
  exact Memory.writeWord_same _ _ _

/-- A transfer to the host for which there is room never stops, and arms the buffer for its first
packet. -/
theorem hwEndpointXferStart_sends {buffer : UserBuf} {totalLen : UInt16} {base offset : Nat}
    {c : Channel} (hc : CanSend base offset (freshChannel buffer totalLen c)) :
    Program.Outcome (hwEndpointXferStart .master buffer totalLen) c
      (fun _ d => SendsLength (tuMin16 totalLen c.ep.wMaxPacketSize) (d.memory.word offset))
      fun _ => False := by
  refine .of_eq (hwEndpointXferStart_eq _ _ _) (.read_bind ?_)
  refine .bind (prepareEpBuffer_sends hc (Nat.zero_le 1)) ?_
  rintro word d ⟨hd, hword, -⟩
  have hfirst := (hword rfl).or (show bufCtrlSel &&& bufCtrlLenMask = 0 from rfl)
  refine .read_bind (.ite (fun _ => ?_) fun _ => ?_)
  · refine .bind (prepareEpBuffer_sends hd (Nat.le_refl 1)) ?_
    rintro second e ⟨he, -, hsecond⟩
    obtain ⟨other, hother⟩ := hsecond Nat.one_ne_zero
    refine (armBuffer_word _ _ he.bufferControl).mono (fun _ f hf => ?_) fun _ h => h
    rw [hf, hother]
    show SendsLength _ (word ||| bufCtrlSel ||| other <<< 16)
    exact hfirst.second other
  · refine (armBuffer_word _ _ hd.bufferControl).mono (fun _ f hf => ?_) fun _ h => h
    rw [hf]
    exact hfirst

/-! ## Transfers that are done with a payload -/

/-- The buffer is in the payload of a message. -/
def UserBuf.IsPayload : UserBuf → Prop
  | .payload _ _ => True
  | _ => False

theorem UserBuf.isPayload_advance {count : Nat} {buffer : UserBuf} :
    (buffer.advance count).IsPayload ↔ buffer.IsPayload := by
  cases buffer <;> exact Iff.rfl

/-- Nothing remains to be read from a payload. -/
def Settled (ep : HwEndpoint) : Prop := ep.userBuf.IsPayload → ep.remainingLen = 0

/-- The endpoint does not come to use a payload. -/
def NoPayload (c : Channel) : Prop := ¬ c.ep.userBuf.IsPayload

theorem setEp_noPayload {change : HwEndpoint → HwEndpoint}
    (h : ∀ ep, (change ep).userBuf.IsPayload → ep.userBuf.IsPayload) :
    Program.Moves (Program.Keeps NoPayload) (setEp change) :=
  Program.Moves.update fun c hc hpayload => hc (h c.ep hpayload)

theorem setMemory_noPayload (change : Memory → Memory) :
    Program.Moves (Program.Keeps NoPayload) (setMemory change) := Program.Moves.update fun _ => id

theorem loadBuffer_noPayload (role : SpiRole) (buffer : UserBuf) (skip count : Nat) :
    Program.Moves (Program.Keeps NoPayload) (loadBuffer role buffer skip count) := by
  refine .bind .read fun c => .bind (readUser_moves _ _ _) fun bytes => ?_
  unfold writeData
  cases c.ep.hwDataBuf with
  | none => exact .require _ _
  | some base => exact .bind (.require _ _) fun _ => setMemory_noPayload _

theorem prepareEpBuffer_noPayload (role : SpiRole) (bufId : Nat) :
    Program.Moves (Program.Keeps NoPayload) (prepareEpBuffer role bufId) := by
  refine .bind .read fun c => .bind (setEp_noPayload fun _ => id) fun _ => ?_
  refine .bind (.when (.bind (loadBuffer_noPayload _ _ _ _) fun _ => ?_)) fun _ => .pure _
  exact setEp_noPayload fun _ => UserBuf.isPayload_advance.mp

theorem hwEndpointBufferControlSetValue32_noPayload (value : BitVec 32) :
    Program.Moves (Program.Keeps NoPayload) (hwEndpointBufferControlSetValue32 value) :=
  .bind .read fun _ => setMemory_noPayload _

theorem startNextBufferMaster_noPayload :
    Program.Moves (Program.Keeps NoPayload) startNextBufferMaster := by
  refine .bind .read fun c => .bind (prepareEpBuffer_noPayload _ _) fun _ => .bind .read fun d => ?_
  refine .ite (.bind (prepareEpBuffer_noPayload _ _) fun _ => ?_) ?_
  · exact .bind (setMemory_noPayload _) fun _ => hwEndpointBufferControlSetValue32_noPayload _
  · exact .bind (setMemory_noPayload _) fun _ => hwEndpointBufferControlSetValue32_noPayload _

/-- A transfer with another buffer leaves no payload in use. -/
theorem hwEndpointXferStart_noPayload {buffer : UserBuf} (h : ¬ buffer.IsPayload)
    (totalLen : UInt16) (c : Channel) :
    NoPayload (Program.final (hwEndpointXferStart .master buffer totalLen c)) := by
  rw [hwEndpointXferStart_eq]
  exact startNextBufferMaster_noPayload _ h

/-- What handling a completed buffer does before the next one is started. -/
structure SyncKeeps (c d : Channel) : Prop where
  payload : d.ep.userBuf.IsPayload → c.ep.userBuf.IsPayload
  remaining : c.ep.remainingLen = 0 → d.ep.remainingLen = 0
  data : d.memory.data = c.memory.data

instance : IsPreorder Channel SyncKeeps where
  refl _ := ⟨id, id, rfl⟩
  trans _ _ _ h k := ⟨fun hd => h.payload (k.payload hd), fun hc => k.remaining (h.remaining hc),
    k.data.trans h.data⟩

theorem setEp_sync_keeps {change : HwEndpoint → HwEndpoint}
    (hpayload : ∀ ep, (change ep).userBuf.IsPayload → ep.userBuf.IsPayload)
    (hremaining : ∀ ep, ep.remainingLen = 0 → (change ep).remainingLen = 0) :
    Program.Moves SyncKeeps (setEp change) :=
  Program.Moves.update fun c => ⟨hpayload c.ep, hremaining c.ep, rfl⟩

theorem writeUser_sync_keeps (role : SpiRole) (buffer : UserBuf) (bytes : List UInt8) :
    Program.Moves SyncKeeps (writeUser role buffer bytes) := by
  cases buffer with
  | null => exact .require _ _
  | bugger offset => exact .bind (.require _ _) fun _ => .update fun _ => ⟨id, id, rfl⟩
  | reserveBugger offset => exact .bind (.require _ _) fun _ => .update fun _ => ⟨id, id, rfl⟩
  | object offset => exact .bind (.require _ _) fun _ => .update fun _ => ⟨id, id, rfl⟩
  | payload _ _ => exact .require _ _

theorem syncEpBuffer_sync_keeps : Program.Moves SyncKeeps (syncEpBuffer .master) := by
  refine .bind .read fun c => .bind (.ite ?_ ?_) fun _ => ?_
  · exact .bind (.require _ _) fun _ => setEp_sync_keeps (fun _ => id) fun _ => id
  · refine .bind (.when (.stop _)) fun _ => .bind .read fun d => ?_
    refine .bind (.when (setEp_sync_keeps (fun _ h => h.elim) fun _ => id)) fun _ => ?_
    refine .bind .read fun e => .bind (readData_moves _ _) fun bytes => ?_
    refine .bind (writeUser_sync_keeps _ _ _) fun _ => ?_
    refine .bind (setEp_sync_keeps (fun _ => id) fun _ => id) fun _ => .when ?_
    exact setEp_sync_keeps (fun _ => UserBuf.isPayload_advance.mp) fun _ => id
  · exact .bind .read fun d => .when (setEp_sync_keeps (fun _ => id) fun _ _ => rfl)

/-- The transfer stays done with its payload, and loads nothing more from one. -/
def StaysSettled (c d : Channel) : Prop :=
  Settled c.ep → Settled d.ep ∧ (c.ep.userBuf.IsPayload → d.memory.data = c.memory.data)

theorem hwEndpointXferContinue_settled :
    Program.Moves StaysSettled (hwEndpointXferContinue .master) := by
  refine Program.Moves.of_outcome fun c => .read_bind (.ite (fun _ => .pure fun h => ⟨h, fun _ => rfl⟩)
    fun _ => ?_)
  have hsync {d : Channel} (hd : SyncKeeps c d) : StaysSettled c d :=
    fun hc => ⟨fun hpayload => hd.remaining (hc (hd.payload hpayload)), fun _ => hd.data⟩
  refine .bind (.of_moves syncEpBuffer_sync_keeps (fun _ _ h => h) fun _ h => hsync h) fun _ d hd => ?_
  refine .read_bind (.ite (fun _ => .stop (hsync hd)) fun _ => .ite (fun _ => .pure (hsync hd))
    fun hmore => ?_)
  -- Something remains, so the buffer is in no payload, and stays so.
  have hrest {e : Channel} (he : NoPayload d → NoPayload e) : StaysSettled c e := by
    intro hc
    have hnone : ¬ c.ep.userBuf.IsPayload := fun hpayload => hmore (hd.remaining (hc hpayload))
    refine ⟨fun hpayload => absurd hpayload (he fun h => hnone (hd.payload h)), fun hpayload => ?_⟩
    exact absurd hpayload hnone
  refine .bind (P := fun _ e => StaysSettled c e) ?_ fun _ e he => .pure he
  exact .of_moves startNextBufferMaster_noPayload (fun _ _ he => hrest he) fun _ he => hrest he

end UsbSec.Rp2040
