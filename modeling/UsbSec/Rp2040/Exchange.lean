import UsbSec.Rp2040.Arming
import UsbSec.Rp2040.Registers

/-!
# One packet through an endpoint of the device

A transfer of one packet in either direction, from the point where the buffer is armed to the point
where `hw_endpoint_xfer_continue` reports it as complete. `Lane` is what a transfer on one endpoint
reads and writes: its entry in the table and its two registers. A transfer on another endpoint
leaves the lane as it is.
-/

namespace UsbSec.Rp2040

open Library Usb

/-! ## Lanes -/

/-- An endpoint with its endpoint control register and its buffer control register. -/
structure Lane where
  ep : HwEndpoint
  control : BitVec 32
  buffer : BitVec 32

/-- The buffer of the lane does not belong to the controller. -/
def Lane.Idle (lane : Lane) : Prop := hasBits lane.buffer bufCtrlAvail = false

instance (lane : Lane) : Decidable lane.Idle := inferInstanceAs (Decidable (_ = _))

/-- The lane of an endpoint other than endpoint 0, as the transfer engine sees it. -/
def Channel.lane (c : Channel) (num : Nat) (dirIn : Bool) : Lane where
  ep := c.ep
  control := c.memory.word (epCtrl (num - 1) dirIn)
  buffer := c.memory.word (epBufCtrl num dirIn)

/-- An endpoint of the table together with the memory. -/
def Dcd.channel (d : Dcd) (num : Nat) (dirIn : Bool) : Channel := ⟨d.hwEndpoints num dirIn, d.memory⟩

/-- The lane of an endpoint of the table. -/
def Dcd.lane (d : Dcd) (num : Nat) (dirIn : Bool) : Lane := (d.channel num dirIn).lane num dirIn

/-- The table and the memory after the transfer engine has run on one endpoint. -/
def Dcd.withChannel (d : Dcd) (num : Nat) (dirIn : Bool) (c : Channel) : Dcd :=
  { d.setEndpoint num dirIn c.ep with memory := c.memory }

theorem withEndpoint_apply {α : Type} {num : Nat} {dirIn : Bool} {engine : Engine α} {d : Dcd}
    {value : α} {c : Channel} (h : engine (d.channel num dirIn) = .ok value c) :
    withEndpoint num dirIn engine d = .ok value (d.withChannel num dirIn c) :=
  Program.onPart_ok h

theorem Dcd.lane_withChannel (d : Dcd) (num : Nat) (dirIn : Bool) (c : Channel) :
    (d.withChannel num dirIn c).lane num dirIn = c.lane num dirIn := by
  unfold Dcd.lane Dcd.channel Dcd.withChannel
  dsimp only
  rw [Dcd.setEndpoint_same]

theorem notOwn_epCtrl {num other : Nat} {dirIn dir : Bool} (hother : other ≠ 0)
    (hlt : other < usbMaxEndpoints) (h : ¬ (other = num ∧ dir = dirIn)) :
    NotOwn num dirIn (epCtrl (other - 1) dir) := by
  refine ⟨Ne.symm (epBufCtrl_ne_epCtrl hlt), fun _ hsame => h ?_⟩
  unfold epCtrl at hsame
  cases dir <;> cases dirIn <;> simp at hsame ⊢ <;> omega

/-- A transfer that writes no registers but its own leaves the other lanes alone. -/
theorem Dcd.lane_withChannel_other {d : Dcd} {num other : Nat} {dirIn dir : Bool} {c : Channel}
    (hlt : num < usbMaxEndpoints) (hother : other ≠ 0) (hotherLt : other < usbMaxEndpoints) (h : ¬ (other = num ∧ dir = dirIn))
    (hword : ∀ offset, NotOwn num dirIn offset → c.memory.word offset = d.memory.word offset) :
    (d.withChannel num dirIn c).lane other dir = d.lane other dir := by
  unfold Dcd.lane Dcd.channel Channel.lane Dcd.withChannel
  dsimp only
  rw [Dcd.setEndpoint_other _ _ h, hword _ (notOwn_epCtrl hother hotherLt h),
    hword _ (notOwn_epBufCtrl hlt h)]

/-- The endpoint control word of an enabled endpoint with a single buffer at `base`. -/
structure Controls (base : Nat) (word : BitVec 32) : Prop where
  enabled : hasBits word epCtrlEnable = true
  buffer : (word &&& 0xffc0#32).toNat = base
  single : hasBits word epCtrlDoubleBuffered = false

instance (base : Nat) (word : BitVec 32) : Decidable (Controls base word) :=
  decidable_of_iff (hasBits word epCtrlEnable = true ∧ (word &&& 0xffc0#32).toNat = base ∧
    hasBits word epCtrlDoubleBuffered = false) ⟨fun h => ⟨h.1, h.2.1, h.2.2⟩,
      fun h => ⟨h.1, h.2, h.3⟩⟩

theorem Controls.singleBuffered {base : Nat} {word : BitVec 32} (h : Controls base word) :
    Controls base (singleBuffered word) := by
  have hmasked : Rp2040.singleBuffered word &&& 0xffc0#32 = word &&& 0xffc0#32 := by
    unfold Rp2040.singleBuffered
    rw [BitVec.and_comm, BitVec.and_or_distrib_left, BitVec.and_comm, BitVec.and_assoc]
    simp [epCtrlDoubleBuffered, epCtrlInterruptPerDoubleBuffer, epCtrlInterruptPerBuffer]
  constructor
  · unfold Rp2040.singleBuffered
    rw [hasBits_or, hasBits_kept (by decide), h.enabled, Bool.true_or]
  · rw [hmasked, h.buffer]
  · unfold Rp2040.singleBuffered
    rw [hasBits_or, hasBits_cleared (by decide)]
    decide

/-- The endpoint is set up with its own registers and a buffer for a packet at `base`. -/
structure Opened (num : Nat) (dirIn : Bool) (base : Nat) (lane : Lane) : Prop where
  rx : lane.ep.rx = !dirIn
  bufferControl : lane.ep.bufferControl = some (epBufCtrl num dirIn)
  endpointControl : lane.ep.endpointControl = some (epCtrl (num - 1) dirIn)
  hwDataBuf : lane.ep.hwDataBuf = some base
  room : base + 64 ≤ usbDpramMax
  control : Controls base lane.control

instance (num : Nat) (dirIn : Bool) (base : Nat) (lane : Lane) :
    Decidable (Opened num dirIn base lane) :=
  decidable_of_iff (lane.ep.rx = (!dirIn) ∧ lane.ep.bufferControl = some (epBufCtrl num dirIn) ∧
    lane.ep.endpointControl = some (epCtrl (num - 1) dirIn) ∧ lane.ep.hwDataBuf = some base ∧
    base + 64 ≤ usbDpramMax ∧ Controls base lane.control)
    ⟨fun h => ⟨h.1, h.2.1, h.2.2.1, h.2.2.2.1, h.2.2.2.2.1, h.2.2.2.2.2⟩,
      fun h => ⟨h.1, h.2, h.3, h.4, h.5, h.6⟩⟩

/-- What a transfer that does not move pointers or change the endpoint control word keeps. -/
theorem Opened.of_fixed {num base : Nat} {dirIn : Bool} {lane next : Lane}
    (h : Opened num dirIn base lane) (hfixed : next.ep.fixed = lane.ep.fixed)
    (hcontrol : Controls base next.control) : Opened num dirIn base next where
  rx := (eq_of_fixed (fun _ => rfl) hfixed).trans h.rx
  bufferControl := (eq_of_fixed (fun _ => rfl) hfixed).trans h.bufferControl
  endpointControl := (eq_of_fixed (fun _ => rfl) hfixed).trans h.endpointControl
  hwDataBuf := (eq_of_fixed (fun _ => rfl) hfixed).trans h.hwDataBuf
  room := h.room
  control := hcontrol

section Armed

variable {num base : Nat} {dirIn : Bool} {c : Channel}

theorem Opened.armed_buffer (h : Opened num dirIn base (c.lane num dirIn)) (word : BitVec 32) (memory : Memory) :
    (armedMemory word c memory).word (epBufCtrl num dirIn) = word := by
  have hbuffer : c.ep.bufferControl = some (epBufCtrl num dirIn) := h.bufferControl
  unfold armedMemory
  rw [hbuffer]
  exact Memory.writeWord_same _ _ _

theorem Opened.armed_control (h : Opened num dirIn base (c.lane num dirIn)) (hnum : num < usbMaxEndpoints)
    (word : BitVec 32) (memory : Memory) :
    Controls base ((armedMemory word c memory).word (epCtrl (num - 1) dirIn)) := by
  have hbuffer : c.ep.bufferControl = some (epBufCtrl num dirIn) := h.bufferControl
  have hcontrol : c.ep.endpointControl = some (epCtrl (num - 1) dirIn) := h.endpointControl
  unfold armedMemory
  rw [hbuffer, hcontrol,
    Memory.writeWord_other _ _ (Ne.symm (epBufCtrl_ne_epCtrl hnum)), Memory.writeWord_same]
  exact h.control.singleBuffered

theorem Opened.armed_other (h : Opened num dirIn base (c.lane num dirIn)) (hpos : num ≠ 0) (word : BitVec 32)
    (memory : Memory) {offset : Nat} (hother : NotOwn num dirIn offset) :
    (armedMemory word c memory).word offset = memory.word offset := by
  have hbuffer : c.ep.bufferControl = some (epBufCtrl num dirIn) := h.bufferControl
  have hcontrol : c.ep.endpointControl = some (epCtrl (num - 1) dirIn) := h.endpointControl
  unfold armedMemory
  rw [hbuffer, hcontrol, Memory.writeWord_other _ _ hother.1,
    Memory.writeWord_other _ _ (hother.2 hpos)]

end Armed

/-- Arming a buffer writes no data. -/
theorem armedMemory_sameData (word : BitVec 32) (c : Channel) (memory : Memory) :
    SameData memory (armedMemory word c memory) :=
  (writeWord_sameData _ _ _).trans (writeWord_sameData _ _ _)

/-! ## A packet from the host -/

/-- The word with which the first packet of a transfer from the host is armed. -/
def listenWord (ep : HwEndpoint) (totalLen : UInt16) : BitVec 32 :=
  let buflen := tuMin16 totalLen ep.wMaxPacketSize
  lenBits buflen ||| bufCtrlAvail ||| pidBits ep.nextPid ||| fullBits true |||
    lastBits (totalLen - buflen) ||| bufCtrlSel

/-- The endpoint and the memory after a transfer from the host is started in device mode. -/
def listeningChannel (buffer : UserBuf) (totalLen : UInt16) (c : Channel) : Channel where
  ep := { c.ep with
    remainingLen := totalLen - tuMin16 totalLen c.ep.wMaxPacketSize, xferredLen := 0
    active := true, userBuf := buffer, isPartial := false, nextPid := c.ep.nextPid ^^^ 1 }
  memory := armedMemory (listenWord c.ep totalLen) c c.memory

/-- The word waits for a packet from the host. -/
def Listens (word : BitVec 32) : Prop :=
  (hasBits word bufCtrlAvail && !hasBits word bufCtrlFull) = true

instance (word : BitVec 32) : Decidable (Listens word) := inferInstanceAs (Decidable (_ = _))

theorem listenWord_listens (ep : HwEndpoint) {totalLen : UInt16} (h : totalLen.toNat < 1024) :
    Listens (listenWord ep totalLen) := by
  have hle : tuMin16 totalLen ep.wMaxPacketSize ≤ totalLen := tuMin16_le_left _ _
  have hlen : (tuMin16 totalLen ep.wMaxPacketSize).toNat < 1024 := by
    have hnat : (tuMin16 totalLen ep.wMaxPacketSize).toNat ≤ totalLen.toNat := hle
    omega
  have hfull : hasBits (listenWord ep totalLen) bufCtrlFull = false := by
    unfold listenWord
    simp only [hasBits_or]
    rw [hasBits_lenBits hlen (by decide)]
    unfold pidBits lastBits
    split <;> split <;> decide
  have havail : hasBits (listenWord ep totalLen) bufCtrlAvail = true := by
    unfold listenWord
    simp only [hasBits_or]
    simp [show hasBits bufCtrlAvail bufCtrlAvail = true from rfl]
  unfold Listens
  rw [havail, hfull]
  rfl

/-- Charging the next packet from the host loads nothing. -/
theorem prepareEpBuffer_receives {c : Channel} (hrx : c.ep.rx = true) :
    prepareEpBuffer .master 0 c =
      .ok (lenBits (tuMin16 c.ep.remainingLen c.ep.wMaxPacketSize) ||| bufCtrlAvail |||
          pidBits c.ep.nextPid ||| fullBits true |||
          lastBits (c.ep.remainingLen - tuMin16 c.ep.remainingLen c.ep.wMaxPacketSize))
        { c with ep := { c.ep with
            remainingLen := c.ep.remainingLen - tuMin16 c.ep.remainingLen c.ep.wMaxPacketSize
            nextPid := c.ep.nextPid ^^^ 1 } } := by
  obtain ⟨ep, memory⟩ := c
  cases ep
  cases hrx
  rfl

/-- Starting a transfer from the host arms the buffer for its first packet. -/
theorem hwEndpointXferStart_listens {buffer : UserBuf} {totalLen : UInt16} {c : Channel}
    (hrx : c.ep.rx = true) (hmode : DeviceMode c.memory) :
    hwEndpointXferStart .master buffer totalLen c =
      .ok () (listeningChannel buffer totalLen c) := by
  have hprepare := prepareEpBuffer_receives (c := freshChannel buffer totalLen c) hrx
  rw [hwEndpointXferStart_eq]
  unfold startNextBufferMaster
  rw [Program.read_bind, Program.bind_ok hprepare, Program.read_bind]
  refine Eq.trans (congrFun (if_neg ?_) _) ?_
  · intro hmore
    have hsingle : (!hasBits c.memory.mainCtrl mainCtrlHostNdevice) = false := hmore.2
    rw [show hasBits c.memory.mainCtrl mainCtrlHostNdevice = false from hmode] at hsingle
    cases hsingle
  · refine (Program.bind_ok rfl).trans ?_
    exact hwEndpointBufferControlSetValue32_apply _ _

/-! ## A packet that has arrived -/

/-- The lane holds a short packet of `count` bytes for the static buffer. -/
structure HoldsPacket (count : UInt16) (lane : Lane) : Prop where
  userBuf : lane.ep.userBuf = .bugger 0
  isPartial : lane.ep.isPartial = false
  full : hasBits lane.buffer bufCtrlFull = true
  bufLen : bufLen lane.buffer = count
  short : count < lane.ep.wMaxPacketSize
  bounded : count.toNat ≤ 64

/-- The word of the buffer of a lane. -/
theorem Opened.readWord {num base : Nat} {dirIn : Bool} {c : Channel}
    (h : Opened num dirIn base (c.lane num dirIn)) :
    c.memory.readWord c.ep.bufferControl = (c.lane num dirIn).buffer := by
  rw [show c.ep.bufferControl = some (epBufCtrl num dirIn) from h.bufferControl]
  rfl

/-- A lane does not use two buffers. -/
theorem Opened.single {num base : Nat} {dirIn : Bool} {c : Channel}
    (h : Opened num dirIn base (c.lane num dirIn)) :
    hasBits (c.memory.readWord c.ep.endpointControl) epCtrlDoubleBuffered = false := by
  rw [show c.ep.endpointControl = some (epCtrl (num - 1) dirIn) from h.endpointControl]
  exact h.control.single

/-- The endpoint and the memory after the packet is copied. -/
def receivedChannel (base : Nat) (count : UInt16) (c : Channel) : Channel where
  ep := { c.ep with
    xferredLen := c.ep.xferredLen + count, userBuf := .bugger count.toNat, remainingLen := 0 }
  memory := { c.memory with
    bugger := c.memory.bugger.writeAt 0 (c.memory.data.bytesAt base count.toNat) }

theorem syncReceived_receives {num base : Nat} {count : UInt16} {c : Channel}
    (hopen : Opened num false base (c.lane num false)) (hc : HoldsPacket count (c.lane num false)) :
    syncReceived .master (c.lane num false).buffer count c =
      .ok () { receivedChannel base count c with
        ep := { c.ep with
          xferredLen := c.ep.xferredLen + count, userBuf := .bugger count.toNat } } := by
  have hroom := hopen.room
  have hcount := hc.bounded
  have huser : c.ep.userBuf = .bugger 0 := hc.userBuf
  have hread : readData c.ep.hwDataBuf count.toNat c =
      .ok (c.memory.data.bytesAt base count.toNat) c := by
    rw [show c.ep.hwDataBuf = some base from hopen.hwDataBuf]
    exact Program.require_bind (show base + count.toNat ≤ usbDpramMax by omega) _ _ _
  have hwrite : writeUser .master c.ep.userBuf (c.memory.data.bytesAt base count.toNat) c =
      .ok () { receivedChannel base count c with ep := c.ep } := by
    have hfits : 0 + (c.memory.data.bytesAt base count.toNat).length ≤ buggerSize .master := by
      rw [Buffer.length_bytesAt]
      show 0 + count.toNat ≤ 1024
      omega
    rw [huser]
    exact Program.require_bind hfits _ _ _
  have hkept : ¬ (c.ep.userBuf = .null ∧ 0 < count) := by simp [huser]
  have hadvance : c.ep.userBuf.advance count.toNat = .bugger count.toNat := by
    rw [huser]
    show UserBuf.bugger (0 + count.toNat) = _
    rw [Nat.zero_add]
  unfold syncReceived
  rw [hc.full, Program.when_false (by decide), Program.pure_bind, Program.read_bind,
    Program.when_false hkept, Program.pure_bind, Program.read_bind]
  refine (Program.bind_ok hread).trans ?_
  refine (Program.bind_ok hwrite).trans ?_
  rw [← hadvance]
  rfl

/-- A short packet from the host completes the transfer. -/
theorem hwEndpointXferContinue_receives {num base : Nat} {count : UInt16} {c : Channel}
    (hopen : Opened num false base (c.lane num false)) (hc : HoldsPacket count (c.lane num false)) :
    hwEndpointXferContinue .master c = .ok true (receivedChannel base count c) := by
  have hrx : ¬ c.ep.rx = false := by simp [show c.ep.rx = true from hopen.rx]
  have hsync : syncEpBuffer .master c = .ok () (receivedChannel base count c) := by
    unfold syncEpBuffer
    rw [Program.read_bind, hopen.readWord, hc.bufLen, if_neg hrx]
    refine (Program.bind_ok (syncReceived_receives hopen hc)).trans ?_
    rw [Program.read_bind]
    exact congrFun (if_pos (Or.inl hc.short)) _
  have hsingle : hasBits ((receivedChannel base count c).memory.readWord
      (receivedChannel base count c).ep.endpointControl) epCtrlDoubleBuffered = false :=
    hopen.single
  unfold hwEndpointXferContinue
  rw [Program.read_bind, show c.ep.isPartial = false from hc.isPartial]
  refine (Program.bind_ok hsync).trans ?_
  rw [Program.read_bind, hsingle]
  rfl

/-! ## A packet to the host that has been taken -/

/-- The endpoint and the memory after a packet of `count` bytes is accounted for. -/
def sentChannel (count : UInt16) (c : Channel) : Channel where
  ep := { c.ep with xferredLen := c.ep.xferredLen + count, remainingLen := 0 }
  memory := c.memory

/-- The packet of the lane was the whole of a transfer to the host, and the host has taken it. -/
structure PacketTaken (count : UInt16) (lane : Lane) : Prop where
  isPartial : lane.ep.isPartial = false
  remainingLen : lane.ep.remainingLen = 0
  full : hasBits lane.buffer bufCtrlFull = false
  bufLen : bufLen lane.buffer = count

/-- The controller leaves the length in the word of a packet that is taken. -/
theorem bufLen_taken (word : BitVec 32) :
    bufLen (word &&& ~~~(bufCtrlAvail ||| bufCtrlFull)) = bufLen word := by
  have hmask : ~~~(bufCtrlAvail ||| bufCtrlFull) &&& bufCtrlLenMask = bufCtrlLenMask := by decide
  unfold bufLen
  rw [BitVec.and_assoc, hmask]

/-- A packet to the host that was the whole of a transfer completes it. -/
theorem hwEndpointXferContinue_sends {num base : Nat} {count : UInt16} {c : Channel}
    (hopen : Opened num true base (c.lane num true)) (hc : PacketTaken count (c.lane num true)) :
    hwEndpointXferContinue .master c = .ok true (sentChannel count c) := by
  have hrx : c.ep.rx = false := hopen.rx
  have hsent : syncSent (c.lane num true).buffer count c = .ok () (sentChannel count c) := by
    refine (Program.require_bind hc.full _ _ _).trans ?_
    unfold sentChannel
    rw [← show c.ep.remainingLen = 0 from hc.remainingLen]
    rfl
  have hsync : syncEpBuffer .master c = .ok () (sentChannel count c) := by
    unfold syncEpBuffer
    rw [Program.read_bind, hopen.readWord, hc.bufLen, if_pos hrx]
    refine (Program.bind_ok hsent).trans ?_
    rw [Program.read_bind]
    unfold Program.when
    split
    · rfl
    · rfl
  have hsingle : hasBits ((sentChannel count c).memory.readWord
      (sentChannel count c).ep.endpointControl) epCtrlDoubleBuffered = false := hopen.single
  unfold hwEndpointXferContinue
  rw [Program.read_bind, show c.ep.isPartial = false from hc.isPartial]
  refine (Program.bind_ok hsync).trans ?_
  rw [Program.read_bind, hsingle]
  rfl

end UsbSec.Rp2040
