import UsbSec.Library.Split
import UsbSec.Rp2040.Exchange
import UsbSec.Rp2040.NextBuffer

/-!
# A transfer of any length on the device half

The engine splits a transfer into packets. It arms a buffer for the next packet; the controller
exchanges the packet; `hw_endpoint_xfer_continue` takes it in and arms the buffer again, until the
transfer is complete. Towards the host the packets are the bytes of the user buffer in order. From
the host the bytes of the packets are put one behind the other, up to the first short packet. Every
packet has the PID opposite to that of the one before it.
-/

namespace UsbSec.Rp2040

open Library Usb

/-! ## The controller -/

/-- What goes over the bus for one buffer. -/
structure WirePacket where
  packet : Packet
  data1 : Bool
  last : Bool

/-- The bytes of the packet. -/
def WirePacket.bytes (wire : WirePacket) : List UInt8 := wire.packet.bytes

/-- The word of a buffer that a packet was received in. -/
def filledWord (word : BitVec 32) (packet : Packet) : BitVec 32 :=
  (word &&& ~~~(bufCtrlAvail ||| bufCtrlLenMask)) ||| bufCtrlFull |||
    BitVec.ofNat 32 packet.bytes.length

/-- The controller exchanges a packet in the armed buffer: towards the host as many bytes of the
endpoint's data buffer as the word says, from the host at most that many. -/
def exchange (c : Channel) (wire : WirePacket) : Option Channel :=
  match c.ep.bufferControl, c.ep.hwDataBuf with
  | some buffer, some base =>
      let word := c.memory.word buffer
      if hasBits word bufCtrlAvail = true ∧ hasBits word bufCtrlData1Pid = wire.data1 ∧
          hasBits word bufCtrlLast = wire.last then
        if c.ep.rx then
          if hasBits word bufCtrlFull = false ∧ wire.bytes.length ≤ (bufLen word).toNat then
            let memory := c.memory.writeWord (some buffer) (filledWord word wire.packet)
            some { c with memory := { memory with data := memory.data.writeAt base wire.bytes } }
          else none
        else
          if hasBits word bufCtrlFull = true ∧
              c.memory.data.bytesAt base (bufLen word).toNat = wire.bytes then
            let sent := word &&& ~~~(bufCtrlAvail ||| bufCtrlFull)
            some { c with memory := c.memory.writeWord (some buffer) sent }
          else none
      else none
  | _, _ => none

/-- The controller exchanges a packet and the engine takes it in. -/
def round (c : Channel) (wire : WirePacket) : Option (Bool × Channel) :=
  (exchange c wire).bind fun taken =>
    match hwEndpointXferContinue .master taken with
    | .ok done d => some (done, d)
    | .error _ _ => none

/-- The packets are exchanged, and the engine finds the transfer complete with the last one and with
no other. -/
inductive Exchanged : Channel → List WirePacket → Channel → Prop
  | last {c d : Channel} {wire : WirePacket} (h : round c wire = some (true, d)) :
      Exchanged c [wire] d
  | more {c d e : Channel} {wire : WirePacket} {rest : List WirePacket}
      (h : round c wire = some (false, d)) (later : Exchanged d rest e) :
      Exchanged c (wire :: rest) e

/-! ## User memory -/

/-- The memory outside the DPRAM is the same. -/
structure SameUser (first second : Memory) : Prop where
  bugger : second.bugger = first.bugger
  reserveBugger : second.reserveBugger = first.reserveBugger
  object : second.object = first.object

theorem SameUser.bytes {first second : Memory} (h : SameUser first second) (buffer : UserBuf)
    (count : Nat) : buffer.bytes second count = buffer.bytes first count := by
  unfold UserBuf.bytes
  rw [h.bugger, h.reserveBugger, h.object]

theorem SameUser.trans {first second third : Memory} (h : SameUser first second)
    (k : SameUser second third) : SameUser first third :=
  ⟨k.bugger.trans h.bugger, k.reserveBugger.trans h.reserveBugger, k.object.trans h.object⟩

theorem writeWord_sameUser (memory : Memory) (pointer : Option Nat) (value : BitVec 32) :
    SameUser memory (memory.writeWord pointer value) := by
  cases pointer <;> exact ⟨rfl, rfl, rfl⟩

theorem load_sameUser (memory : Memory) (hwDataBuf : Option Nat) (bytes : List UInt8) :
    SameUser memory (memory.load hwDataBuf bytes) := by
  cases hwDataBuf <;> exact ⟨rfl, rfl, rfl⟩

theorem nextMemory_sameUser (c : Channel) : SameUser c.memory (nextMemory .master c) := by
  have hloaded : SameUser c.memory (nextLoaded .master c) := by
    unfold nextLoaded
    split
    · exact ⟨rfl, rfl, rfl⟩
    · exact load_sameUser _ _ _
  exact hloaded.trans ((writeWord_sameUser _ _ _).trans (writeWord_sameUser _ _ _))

/-- The bytes at a buffer are the first of them and those behind. -/
theorem UserBuf.bytes_add {role : SpiRole} {buffer : UserBuf} {first second : Nat}
    (h : buffer.Holds role (first + second)) (memory : Memory) :
    buffer.bytes memory (first + second) =
      buffer.bytes memory first ++ (buffer.advance first).bytes memory second := by
  cases buffer with
  | null => rfl
  | bugger offset => exact Buffer.bytesAt_add _ _ _ _
  | reserveBugger offset => exact Buffer.bytesAt_add _ _ _ _
  | object offset => exact Buffer.bytesAt_add _ _ _ _
  | payload bytes offset =>
      show (bytes.drop offset).take (first + second) = _
      rw [List.take_add, List.drop_drop]
      rfl

theorem UserBuf.advance_advance (buffer : UserBuf) (first second : Nat) :
    (buffer.advance first).advance second = buffer.advance (first + second) := by
  cases buffer with
  | null => rfl
  | bugger offset => exact congrArg UserBuf.bugger (Nat.add_assoc _ _ _)
  | reserveBugger offset => exact congrArg UserBuf.reserveBugger (Nat.add_assoc _ _ _)
  | object offset => exact congrArg UserBuf.object (Nat.add_assoc _ _ _)
  | payload bytes offset => exact congrArg (UserBuf.payload bytes) (Nat.add_assoc _ _ _)

/-! ## An armed buffer -/

section Buffer

variable {size buffer control base : Nat}

/-- The endpoint has its registers and a buffer for packets of `size` bytes. -/
structure Ready (size buffer control base : Nat) (c : Channel) : Prop where
  positive : 0 < size
  bounded : size ≤ 1023
  bufferControl : c.ep.bufferControl = some buffer
  endpointControl : c.ep.endpointControl = some control
  hwDataBuf : c.ep.hwDataBuf = some base
  wMaxPacketSize : c.ep.wMaxPacketSize.toNat = size
  apart : buffer ≠ control
  room : base + size ≤ usbDpramMax
  deviceMode : DeviceMode c.memory
  pid : PidOk c.ep.nextPid

/-- The buffer is armed for the next packet of a transfer, and `left` bytes of the transfer remained
before. -/
structure Armed (size buffer control base left : Nat) (c : Channel) : Prop extends
    Ready size buffer control base c where
  whole : c.ep.isPartial = false
  single : hasBits (c.memory.word control) epCtrlDoubleBuffered = false
  avail : hasBits (c.memory.word buffer) bufCtrlAvail = true
  full : hasBits (c.memory.word buffer) bufCtrlFull = !c.ep.rx
  data1 : hasBits (c.memory.word buffer) bufCtrlData1Pid = !decide (c.ep.nextPid ≠ 0)
  last : hasBits (c.memory.word buffer) bufCtrlLast = decide (left ≤ size)
  length : (bufLen (c.memory.word buffer)).toNat = min left size
  remainingLen : c.ep.remainingLen.toNat = left - size

theorem Ready.of_fixed {c d : Channel} (h : Ready size buffer control base c)
    (hfixed : d.ep.fixed = c.ep.fixed) (hmode : DeviceMode d.memory) (hpid : PidOk d.ep.nextPid) :
    Ready size buffer control base d where
  positive := h.positive
  bounded := h.bounded
  bufferControl := (eq_of_fixed (fun _ => rfl) hfixed).trans h.bufferControl
  endpointControl := (eq_of_fixed (fun _ => rfl) hfixed).trans h.endpointControl
  hwDataBuf := (eq_of_fixed (fun _ => rfl) hfixed).trans h.hwDataBuf
  wMaxPacketSize := by
    have hsize : d.ep.wMaxPacketSize = c.ep.wMaxPacketSize := eq_of_fixed (fun _ => rfl) hfixed
    rw [hsize]
    exact h.wMaxPacketSize
  apart := h.apart
  room := h.room
  deviceMode := hmode
  pid := hpid

theorem PidOk.data1_toggle {pid : UInt8} (h : PidOk pid) :
    decide (pid ^^^ 1 ≠ 0) = !decide (pid ≠ 0) := by
  rcases h with rfl | rfl <;> rfl

/-- The next packet is full, or is what remains. -/
theorem Ready.nextLen {c : Channel} (h : Ready size buffer control base c) :
    c.ep.nextLen.toNat = min c.ep.remainingLen.toNat size := by
  have hsize := h.wMaxPacketSize
  unfold HwEndpoint.nextLen tuMin16
  split
  · rename_i hlt
    have hnat : c.ep.remainingLen.toNat < c.ep.wMaxPacketSize.toNat := hlt
    omega
  · rename_i hle
    have hnat : ¬ c.ep.remainingLen.toNat < c.ep.wMaxPacketSize.toNat := hle
    omega

theorem Ready.leftLen {c : Channel} (h : Ready size buffer control base c) :
    c.ep.leftLen.toNat = c.ep.remainingLen.toNat - size := by
  have hnext := h.nextLen
  have hle : c.ep.nextLen ≤ c.ep.remainingLen := tuMin16_le_left _ _
  unfold HwEndpoint.leftLen
  rw [UInt16.toNat_sub_of_le _ _ hle, hnext]
  omega

theorem nextLoaded_mainCtrl (role : SpiRole) (c : Channel) :
    (nextLoaded role c).mainCtrl = c.memory.mainCtrl := by
  unfold nextLoaded
  split
  · rfl
  · exact Memory.load_mainCtrl _ _ _

/-- Arming the next buffer arms it. -/
theorem Ready.armed {c : Channel} (h : Ready size buffer control base c)
    (hwhole : c.ep.isPartial = false) :
    Armed size buffer control base c.ep.remainingLen.toNat
      { ep := nextEp .master c.ep, memory := nextMemory .master c } := by
  have hbounded := h.bounded
  have hnext := h.nextLen
  have hleft := h.leftLen
  have hsmall : c.ep.nextLen.toNat < 1024 := by omega
  have hword : (nextMemory .master c).word buffer = bufferWord .master c.ep :=
    nextMemory_word .master h.bufferControl
  have hcontrol : (nextMemory .master c).word control = singleBuffered (c.memory.word control) := by
    unfold nextMemory armedMemory
    dsimp only
    rw [h.bufferControl, h.endpointControl, Memory.writeWord_other _ _ (Ne.symm h.apart),
      Memory.writeWord_same]
    rfl
  have hmode : DeviceMode (nextMemory .master c) := by
    unfold DeviceMode nextMemory armedMemory
    dsimp only
    rw [h.bufferControl, h.endpointControl]
    show hasBits (nextLoaded .master c).mainCtrl mainCtrlHostNdevice = false
    rw [nextLoaded_mainCtrl]
    exact h.deviceMode
  have hlast : decide (c.ep.leftLen = 0) = decide (c.ep.remainingLen.toNat ≤ size) := by
    rw [decide_eq_decide, ← UInt16.toNat_inj, hleft]
    show _ - size = 0 ↔ _
    omega
  obtain ⟨havail, -, hpid, hfull, hlastBit, hmask⟩ := wordFlags_bits .master c.ep
  have hflag {bits : BitVec 32} (hbits : bufCtrlLenMask &&& bits = 0) :
      hasBits (bufferWord .master c.ep) bits = hasBits (wordFlags .master c.ep) bits := by
    unfold bufferWord wordLen
    rw [hasBits_or, hasBits_lenBits hsmall hbits, Bool.false_or]
  constructor
  case toReady => exact h.of_fixed rfl hmode h.pid.toggle
  case whole => exact hwhole
  case single =>
    rw [hcontrol]
    unfold singleBuffered
    rw [hasBits_or, hasBits_cleared (by decide)]
    decide
  case avail => rw [hword, hflag (by decide), havail]
  case full => exact (congrArg (hasBits · _) hword).trans ((hflag (by decide)).trans hfull)
  case data1 =>
    show _ = !decide (c.ep.nextPid ^^^ 1 ≠ 0)
    rw [hword, hflag (by decide), hpid, h.pid.data1_toggle, Bool.not_not]
  case last => rw [hword, hflag (by decide), hlastBit, hlast]
  case length =>
    rw [hword]
    unfold bufferWord wordLen
    rw [bufLen_lenBits_or hsmall hmask, hnext]
  case remainingLen => exact hleft

end Buffer

/-! ## Taking a packet in -/

/-- A transfer that is found complete. -/
theorem hwEndpointXferContinue_completes {role : SpiRole} {c d : Channel}
    (hwhole : c.ep.isPartial = false) (hsync : syncEpBuffer role c = .ok () d)
    (hsingle : hasBits (d.memory.readWord d.ep.endpointControl) epCtrlDoubleBuffered = false)
    (hdone : d.ep.remainingLen = 0) : hwEndpointXferContinue role c = .ok true d := by
  unfold hwEndpointXferContinue
  rw [Program.read_bind, hwhole]
  refine (Program.bind_ok hsync).trans ?_
  rw [Program.read_bind, hsingle]
  exact congrFun (if_pos hdone) _

/-- A transfer of which something remains. -/
theorem hwEndpointXferContinue_continues {role : SpiRole} {c d e : Channel}
    (hwhole : c.ep.isPartial = false) (hsync : syncEpBuffer role c = .ok () d)
    (hsingle : hasBits (d.memory.readWord d.ep.endpointControl) epCtrlDoubleBuffered = false)
    (hmore : d.ep.remainingLen ≠ 0) (hstart : hwEndpointStartNextBuffer role d = .ok () e) :
    hwEndpointXferContinue role c = .ok false e := by
  unfold hwEndpointXferContinue
  rw [Program.read_bind, hwhole]
  refine (Program.bind_ok hsync).trans ?_
  rw [Program.read_bind, hsingle]
  refine (congrFun (if_neg hmore) _).trans ?_
  rw [Program.bind_ok hstart]
  rfl

/-- The fields that `sync_ep_buffer` accounts in. -/
def HwEndpoint.accounted (ep : HwEndpoint) (count : UInt16) : HwEndpoint :=
  { ep with
    xferredLen := ep.xferredLen + count
    remainingLen := if IsShort count ep.wMaxPacketSize then 0 else ep.remainingLen }

/-- A short packet leaves nothing to be transferred. -/
theorem when_short {ep : HwEndpoint} {memory : Memory} (count : UInt16) :
    (Program.when (IsShort count ep.wMaxPacketSize) do
      setEp fun ep => { ep with remainingLen := 0 }) { ep := ep, memory := memory } =
      .ok () { ep := { ep with
                 remainingLen := if IsShort count ep.wMaxPacketSize then 0 else ep.remainingLen }
               memory := memory } := by
  by_cases hshort : IsShort count ep.wMaxPacketSize
  · rw [Program.when_true hshort, if_pos hshort]
    rfl
  · rw [Program.when_false hshort, if_neg hshort]
    rfl

theorem syncEpBuffer_sent (role : SpiRole) {c : Channel} (hrx : c.ep.rx = false)
    (hempty : hasBits (c.memory.readWord c.ep.bufferControl) bufCtrlFull = false) :
    syncEpBuffer role c =
      .ok () { c with ep := c.ep.accounted (bufLen (c.memory.readWord c.ep.bufferControl)) } := by
  have hsent (count : UInt16) : syncSent (c.memory.readWord c.ep.bufferControl) count c =
      .ok () { c with ep := { c.ep with xferredLen := c.ep.xferredLen + count } } :=
    Program.require_bind hempty _ _ _
  unfold syncEpBuffer
  rw [Program.read_bind, if_pos hrx]
  refine (Program.bind_ok (hsent _)).trans ?_
  exact when_short _

/-- The size of a packet is not zero, so that only its length makes a packet short. -/
theorem Ready.isShort_iff {size buffer control base : Nat} {c : Channel}
    (h : Ready size buffer control base c) (count : UInt16) :
    IsShort count c.ep.wMaxPacketSize ↔ count.toNat < size := by
  have hpositive := h.positive
  unfold IsShort
  rw [UInt16.lt_iff_toNat_lt, ← UInt16.toNat_inj, h.wMaxPacketSize]
  show _ < size ∨ size = 0 ↔ _
  omega

/-! ## Towards the host -/

section Sending

variable {size buffer control base : Nat} {content : List UInt8} {c : Channel}

/-- The next packet of `content` is in the buffer, and the user buffer is at the rest. -/
structure Sending (size buffer control base : Nat) (content : List UInt8) (c : Channel) :
    Prop extends Armed size buffer control base content.length c where
  direction : c.ep.rx = false
  loaded : c.memory.data.bytesAt base (min content.length size) = content.take size
  holds : c.ep.userBuf.Holds .master (content.length - size)
  rest : c.ep.userBuf.bytes c.memory (content.length - size) = content.drop size

/-- The buffer is armed with the first packet of what the user buffer holds. -/
theorem Ready.starts_sending (h : Ready size buffer control base c)
    (hwhole : c.ep.isPartial = false) (hrx : c.ep.rx = false)
    (hlength : c.ep.remainingLen.toNat = content.length)
    (hholds : c.ep.userBuf.Holds .master content.length)
    (hbytes : c.ep.userBuf.bytes c.memory content.length = content) :
    ∃ d, startNextBufferMaster c = .ok () d ∧ d.ep = nextEp .master c.ep ∧
      Sending size buffer control base content d := by
  have hnext : c.ep.nextLen.toNat = min content.length size := hlength ▸ h.nextLen
  have hsum : content.length = min content.length size + (content.length - size) := by omega
  have hroom := h.room
  obtain ⟨hfirst, hbehind⟩ := hholds.advance (show min content.length size ≤ content.length by omega)
  have hrest : content.length - min content.length size = content.length - size := by omega
  rw [hrest] at hbehind
  have hcan : CanLoadNext .master c.ep := by
    intro _
    refine ⟨hnext ▸ hfirst, ?_⟩
    rw [h.hwDataBuf]
    show base + c.ep.nextLen.toNat ≤ usbDpramMax
    omega
  obtain ⟨_, d, hrun, -, rfl⟩ := ((startNextBufferMaster_outcome h.deviceMode).mono
    (fun _ _ hd => hd) fun _ hnot => hnot hcan).exists_ok
  -- The bytes of the user buffer are those of the packet and those behind them.
  have hsplit : content = c.ep.userBuf.bytes c.memory (min content.length size) ++
      (c.ep.userBuf.advance (min content.length size)).bytes c.memory (content.length - size) := by
    have hadd := UserBuf.bytes_add (hsum ▸ hholds) c.memory
    rw [← hsum, hbytes] at hadd
    exact hadd
  have hpacket : (c.ep.userBuf.bytes c.memory (min content.length size)).length =
      min content.length size := UserBuf.length_bytes hfirst _
  obtain ⟨htake, hdrop⟩ := take_drop_of_append hsplit hpacket
  have hep : (nextEp .master c.ep).userBuf = c.ep.userBuf.advance (min content.length size) := by
    show (if c.ep.rx then _ else _) = _
    rw [hrx, hnext]
    rfl
  refine ⟨_, hrun, rfl, ?_⟩
  constructor
  case toArmed => exact hlength ▸ h.armed hwhole
  case direction => exact hrx
  case loaded =>
    have hdata : (nextMemory .master c).data = c.memory.data.writeAt base
        (c.ep.userBuf.bytes c.memory c.ep.nextLen.toNat) := by
      refine (armedMemory_sameData _ _ _).data.trans ?_
      unfold nextLoaded
      rw [hrx, h.hwDataBuf]
      rfl
    show (nextMemory .master c).data.bytesAt base _ = _
    rw [hdata, hnext, htake]
    generalize c.ep.userBuf.bytes c.memory (min content.length size) = packet at hpacket ⊢
    rw [← hpacket]
    exact Buffer.bytesAt_writeAt_same _ _ _
  case holds =>
    show (nextEp .master c.ep).userBuf.Holds _ _
    rw [hep]
    exact hbehind
  case rest =>
    show (nextEp .master c.ep).userBuf.bytes _ _ = _
    rw [hep, (nextMemory_sameUser c).bytes, hdrop]

/-- What the exchange of one packet of `content` comes to. -/
structure PacketSent (size buffer control base : Nat) (content : List UInt8) (c : Channel)
    (wire : WirePacket) (d : Channel) : Prop where
  only : ∀ other done e, round c other = some (done, e) ↔
    other = wire ∧ done = decide (content.length ≤ size) ∧ e = d
  bytes : wire.bytes = content.take size
  last : wire.last = decide (content.length ≤ size)
  data1 : wire.data1 = !decide (c.ep.nextPid ≠ 0)
  xferredLen : d.ep.xferredLen = c.ep.xferredLen + UInt16.ofNat (min content.length size)
  done : content.length ≤ size → Ready size buffer control base d ∧ d.ep.nextPid = c.ep.nextPid
  more : size < content.length → Sending size buffer control base (content.drop size) d ∧
    d.ep.nextPid = c.ep.nextPid ^^^ 1

/-- The controller has sent the packet. -/
def sentPacket (buffer : Nat) (c : Channel) : Channel where
  ep := c.ep
  memory := c.memory.writeWord (some buffer)
    (c.memory.word buffer &&& ~~~(bufCtrlAvail ||| bufCtrlFull))

theorem Sending.exchange_eq (h : Sending size buffer control base content c)
    {wire : WirePacket} {taken : Channel} :
    exchange c wire = some taken ↔
      (wire.data1 = !decide (c.ep.nextPid ≠ 0) ∧ wire.last = decide (content.length ≤ size) ∧
        wire.bytes = content.take size) ∧ taken = sentPacket buffer c := by
  have hfull : hasBits (c.memory.word buffer) bufCtrlFull = true := by
    rw [h.full, h.direction]
    rfl
  unfold exchange
  rw [h.bufferControl, h.hwDataBuf]
  dsimp only
  rw [h.avail, h.data1, h.last, h.direction, hfull, h.length, h.loaded]
  constructor
  · intro heq
    split at heq
    · rename_i hbits
      split at heq
      · cases ‹false = true›
      · split at heq
        · rename_i hbytes
          cases heq
          exact ⟨⟨hbits.2.1.symm, hbits.2.2.symm, hbytes.2.symm⟩, rfl⟩
        · cases heq
    · cases heq
  · rintro ⟨⟨hdata1, hlast, hbytes⟩, rfl⟩
    rw [if_pos ⟨rfl, hdata1.symm, hlast.symm⟩, if_neg (by decide), if_pos ⟨rfl, hbytes.symm⟩]
    rfl

/-- The engine accounts for a packet that was sent. -/
theorem Sending.sync (h : Sending size buffer control base content c) :
    syncEpBuffer .master (sentPacket buffer c) = .ok () { sentPacket buffer c with
      ep := c.ep.accounted (UInt16.ofNat (min content.length size)) } := by
  have hword : (sentPacket buffer c).memory.readWord (sentPacket buffer c).ep.bufferControl =
      c.memory.word buffer &&& ~~~(bufCtrlAvail ||| bufCtrlFull) := by
    show (sentPacket buffer c).memory.readWord c.ep.bufferControl = _
    rw [h.bufferControl]
    exact Memory.writeWord_same _ _ _
  have hcount : bufLen (c.memory.word buffer) = UInt16.ofNat (min content.length size) := by
    rw [← h.length, UInt16.ofNat_toNat]
  have hsync := syncEpBuffer_sent .master (c := sentPacket buffer c) h.direction
    (by rw [hword]; exact hasBits_cleared (by decide))
  rw [hword, bufLen_taken, hcount] at hsync
  exact hsync

/-- One packet, and what it leaves. -/
theorem Sending.packet_sent (h : Sending size buffer control base content c) :
    ∃ wire d, PacketSent size buffer control base content c wire d := by
  have hbounded := h.bounded
  have hpositive := h.positive
  have hcount : (UInt16.ofNat (min content.length size)).toNat = min content.length size := by
    rw [UInt16.toNat_ofNat']
    omega
  let synced : Channel := { sentPacket buffer c with
    ep := c.ep.accounted (UInt16.ofNat (min content.length size)) }
  have hshort : IsShort (UInt16.ofNat (min content.length size)) c.ep.wMaxPacketSize ↔
      content.length < size := by
    rw [h.isShort_iff, hcount]
    omega
  have hsingle : hasBits (synced.memory.readWord synced.ep.endpointControl)
      epCtrlDoubleBuffered = false := by
    show hasBits ((sentPacket buffer c).memory.readWord c.ep.endpointControl) _ = false
    rw [h.endpointControl]
    exact (congrArg (hasBits · _) (Memory.writeWord_other _ _ (Ne.symm h.apart))).trans h.single
  have hready : Ready size buffer control base synced := h.toReady.of_fixed rfl h.deviceMode h.pid
  have hwire : (content.take size).length ≤ 1023 := by
    rw [List.length_take]
    omega
  let wire : WirePacket := ⟨⟨content.take size, hwire⟩, !decide (c.ep.nextPid ≠ 0),
    decide (content.length ≤ size)⟩
  have hfrom {done : Bool} {d : Channel}
      (hrun : hwEndpointXferContinue .master (sentPacket buffer c) = .ok done d)
      (other : WirePacket) (value : Bool) (e : Channel) :
      round c other = some (value, e) ↔ other = wire ∧ value = done ∧ e = d := by
    unfold round
    rw [Option.bind_eq_some_iff]
    constructor
    · rintro ⟨taken, hexchange, heq⟩
      obtain ⟨⟨hdata1, hlast, hbytes⟩, rfl⟩ := h.exchange_eq.mp hexchange
      rw [hrun] at heq
      cases heq
      obtain ⟨⟨bytes, hle⟩, data1, last⟩ := other
      cases hdata1
      cases hlast
      cases hbytes
      exact ⟨rfl, rfl, rfl⟩
    · rintro ⟨rfl, rfl, rfl⟩
      refine ⟨_, h.exchange_eq.mpr ⟨⟨rfl, rfl, rfl⟩, rfl⟩, ?_⟩
      rw [hrun]
  by_cases hlast : content.length ≤ size
  · have hdone : synced.ep.remainingLen = 0 := by
      show (if IsShort _ _ then 0 else c.ep.remainingLen) = 0
      rw [← UInt16.toNat_inj]
      split
      · rfl
      · rw [h.remainingLen]
        show _ = 0
        omega
    have hrun : hwEndpointXferContinue .master (sentPacket buffer c) = .ok true synced :=
      hwEndpointXferContinue_completes (c := sentPacket buffer c) h.whole h.sync hsingle hdone
    refine ⟨wire, synced, ?_, rfl, rfl, rfl, rfl, fun _ => ⟨hready, rfl⟩, fun hmore => ?_⟩
    · rw [decide_eq_true hlast]
      exact hfrom hrun
    · exact absurd hlast (Nat.not_le.mpr hmore)
  · have hremaining : synced.ep.remainingLen = c.ep.remainingLen :=
      if_neg fun hnow => hlast (Nat.le_of_lt (hshort.mp hnow))
    have hlength : synced.ep.remainingLen.toNat = (content.drop size).length := by
      rw [hremaining, h.remainingLen, List.length_drop]
    have hmore : synced.ep.remainingLen ≠ 0 := by
      rw [Ne, ← UInt16.toNat_inj, hlength, List.length_drop]
      show ¬ _ = 0
      omega
    obtain ⟨d, hstart, hep, hsending⟩ := hready.starts_sending h.whole h.direction hlength
      (by rw [List.length_drop]; exact h.holds)
      (by
        rw [List.length_drop]
        exact ((writeWord_sameUser _ _ _).bytes _ _).trans h.rest)
    have hrun : hwEndpointXferContinue .master (sentPacket buffer c) = .ok false d :=
      hwEndpointXferContinue_continues (c := sentPacket buffer c) h.whole h.sync hsingle hmore
        hstart
    refine ⟨wire, d, ?_, rfl, rfl, rfl, ?_, fun hnow => absurd hnow hlast, fun _ => ⟨hsending, ?_⟩⟩
    · rw [decide_eq_false hlast]
      exact hfrom hrun
    · rw [hep]
      rfl
    · rw [hep]
      rfl

end Sending

/-! ## All packets -/

/-- The packets begin with the PID `pid`, each has the PID opposite to that of the one before it,
and the next one is to have the PID `next`. -/
inductive Alternating : Bool → List WirePacket → Bool → Prop
  | nil (pid : Bool) : Alternating pid [] pid
  | cons {wire : WirePacket} {rest : List WirePacket} {next : Bool}
      (h : Alternating (!wire.data1) rest next) : Alternating wire.data1 (wire :: rest) next

theorem Alternating.append {pid middle next : Bool} {first second : List WirePacket}
    (h : Alternating pid first middle) (k : Alternating middle second next) :
    Alternating pid (first ++ second) next := by
  induction h with
  | nil pid => exact k
  | cons _ ih => exact .cons (ih k)

/-- What the exchange of all packets of `content` comes to. -/
structure ContentSent (size buffer control base : Nat) (content : List UInt8) (c : Channel)
    (wires : List WirePacket) (d : Channel) : Prop where
  only : ∀ others e, Exchanged c others e ↔ others = wires ∧ e = d
  bytes : wires.map WirePacket.bytes = split size content
  last : ∀ i wire, wires[i]? = some wire → (wire.last = true ↔ i + 1 = wires.length)
  pids : Alternating (!decide (c.ep.nextPid ≠ 0)) wires (decide (d.ep.nextPid ≠ 0))
  xferredLen : d.ep.xferredLen = c.ep.xferredLen + UInt16.ofNat content.length
  ready : Ready size buffer control base d

theorem PacketSent.last_content {size buffer control base : Nat} {content : List UInt8}
    {c d : Channel} {wire : WirePacket}
    (h : PacketSent size buffer control base content c wire d) (hlast : content.length ≤ size) :
    ContentSent size buffer control base content c [wire] d := by
  obtain ⟨hready, hpid⟩ := h.done hlast
  have hdone := decide_eq_true hlast
  constructor
  case only =>
    intro others e
    constructor
    · intro hrun
      cases hrun with
      | last hround =>
          obtain ⟨rfl, -, rfl⟩ := (h.only _ _ _).mp hround
          exact ⟨rfl, rfl⟩
      | more hround _ =>
          have hfalse := ((h.only _ _ _).mp hround).2.1
          rw [hdone] at hfalse
          cases hfalse
    · rintro ⟨rfl, rfl⟩
      exact .last ((h.only _ _ _).mpr ⟨rfl, hdone.symm, rfl⟩)
  case bytes =>
    rw [split_last hlast, List.map_singleton, h.bytes, List.take_of_length_le hlast]
  case last =>
    intro i other hother
    cases i with
    | zero =>
        cases hother
        rw [h.last, hdone]
        simp
    | succ i => cases hother
  case pids =>
    rw [hpid, ← h.data1]
    refine .cons ?_
    rw [h.data1, Bool.not_not]
    exact .nil _
  case xferredLen =>
    rw [h.xferredLen, Nat.min_eq_left hlast]
  case ready => exact hready

theorem PacketSent.more_content {size buffer control base : Nat} {content : List UInt8}
    {c d e : Channel} {wire : WirePacket} {rest : List WirePacket}
    (h : PacketSent size buffer control base content c wire d) (hsending : Sending size buffer
      control base content c) (hmore : size < content.length)
    (hrest : ContentSent size buffer control base (content.drop size) d rest e) :
    ContentSent size buffer control base content c (wire :: rest) e := by
  obtain ⟨-, hpid⟩ := h.more hmore
  have hdone := decide_eq_false (Nat.not_le.mpr hmore)
  constructor
  case only =>
    intro others last
    constructor
    · intro hrun
      cases hrun with
      | last hround =>
          have htrue := ((h.only _ _ _).mp hround).2.1
          rw [hdone] at htrue
          cases htrue
      | more hround later =>
          obtain ⟨rfl, -, rfl⟩ := (h.only _ _ _).mp hround
          obtain ⟨rfl, rfl⟩ := (hrest.only _ _).mp later
          exact ⟨rfl, rfl⟩
    · rintro ⟨rfl, rfl⟩
      exact .more ((h.only _ _ _).mpr ⟨rfl, hdone.symm, rfl⟩) ((hrest.only _ _).mpr ⟨rfl, rfl⟩)
  case bytes =>
    rw [split_more hsending.positive hmore, List.map_cons, h.bytes, hrest.bytes]
  case last =>
    intro i other hother
    cases i with
    | zero =>
        cases hother
        have hsome : rest ≠ [] := by
          rintro rfl
          have hbytes := hrest.bytes
          rw [List.map_nil, split] at hbytes
          split at hbytes <;> cases hbytes
        have hlength := List.length_pos_of_ne_nil hsome
        rw [h.last, hdone, List.length_cons]
        constructor
        · intro hfalse
          cases hfalse
        · omega
    | succ i =>
        rw [hrest.last i other hother, List.length_cons]
        omega
  case pids =>
    rw [← h.data1]
    refine .cons ?_
    have hnext := hrest.pids
    rw [hpid, hsending.pid.data1_toggle, ← h.data1] at hnext
    exact hnext
  case xferredLen =>
    rw [hrest.xferredLen, h.xferredLen, UInt16.add_assoc, ← UInt16.ofNat_add, List.length_drop,
      Nat.min_eq_right (Nat.le_of_lt hmore), Nat.add_sub_cancel' (Nat.le_of_lt hmore)]
  case ready => exact hrest.ready

/-- The whole content is sent, packet by packet. -/
theorem Sending.content_sent {size buffer control base : Nat} {content : List UInt8} {c : Channel}
    (h : Sending size buffer control base content c) :
    ∃ wires d, ContentSent size buffer control base content c wires d := by
  induction content using split_induction h.positive generalizing c with
  | hlast content hlast =>
      obtain ⟨wire, d, hpacket⟩ := h.packet_sent
      exact ⟨[wire], d, hpacket.last_content hlast⟩
  | hmore content hmore ih =>
      obtain ⟨wire, d, hpacket⟩ := h.packet_sent
      obtain ⟨rest, e, hrest⟩ := ih (hpacket.more hmore).1
      exact ⟨wire :: rest, e, hpacket.more_content h hmore hrest⟩

/-! ## From the host -/

/-- Bytes written behind others at a buffer can be read back together with them. -/
theorem writeUser_behind {origin : UserBuf} {bytes : List UInt8} {before : Nat} {c : Channel}
    (hholds : origin.Holds .master (before + bytes.length)) (hwritable : ¬ origin.IsPayload) :
    ∃ memory, writeUser .master (origin.advance before) bytes c =
        .ok () { c with memory := memory } ∧
      memory.word = c.memory.word ∧ memory.mainCtrl = c.memory.mainCtrl ∧
      origin.bytes memory (before + bytes.length) = origin.bytes c.memory before ++ bytes := by
  have hread (content : Buffer) (offset : Nat) :
      (content.writeAt (offset + before) bytes).bytesAt offset (before + bytes.length) =
        content.bytesAt offset before ++ bytes := by
    rw [Buffer.bytesAt_add, Buffer.bytesAt_writeAt_before _ _ (Nat.le_refl _),
      Buffer.bytesAt_writeAt_same]
  cases origin with
  | null =>
      have hzero : before + bytes.length = 0 := hholds
      have hempty : bytes = [] := List.eq_nil_of_length_eq_zero (by omega)
      refine ⟨c.memory, ?_, rfl, rfl, hempty.symm⟩
      rw [show (UserBuf.null.advance before) = .null from rfl, hempty]
      rfl
  | bugger offset =>
      have hbound : offset + before + bytes.length ≤ buggerSize .master := by
        rw [Nat.add_assoc]
        exact hholds
      exact ⟨_, Program.require_bind hbound _ _ _, rfl, rfl, hread _ _⟩
  | reserveBugger offset =>
      have hbound : offset + before + bytes.length ≤ 64 := by
        rw [Nat.add_assoc]
        exact hholds
      exact ⟨_, Program.require_bind hbound _ _ _, rfl, rfl, hread _ _⟩
  | object offset =>
      have hbound : offset + before + bytes.length ≤ objectSize := by
        rw [Nat.add_assoc]
        exact hholds
      exact ⟨_, Program.require_bind hbound _ _ _, rfl, rfl, hread _ _⟩
  | payload bytes offset => exact absurd trivial hwritable

section Receiving

variable {size buffer control base left : Nat} {origin : UserBuf} {got : List UInt8} {c : Channel}

/-- The bytes `got` have arrived, and at most `left` are to follow. -/
structure Receiving (size buffer control base : Nat) (origin : UserBuf) (got : List UInt8)
    (left : Nat) (c : Channel) : Prop extends Armed size buffer control base left c where
  direction : c.ep.rx = true
  userBuf : c.ep.userBuf = origin.advance got.length
  written : origin.bytes c.memory got.length = got
  holds : origin.Holds .master (got.length + left)
  writable : ¬ origin.IsPayload

/-- The buffer is armed for a packet from the host. -/
theorem Ready.starts_receiving (h : Ready size buffer control base c)
    (hwhole : c.ep.isPartial = false) (hrx : c.ep.rx = true)
    (hlength : c.ep.remainingLen.toNat = left) (huser : c.ep.userBuf = origin.advance got.length)
    (hwritten : origin.bytes c.memory got.length = got)
    (hholds : origin.Holds .master (got.length + left)) (hwritable : ¬ origin.IsPayload) :
    ∃ d, startNextBufferMaster c = .ok () d ∧ d.ep = nextEp .master c.ep ∧
      Receiving size buffer control base origin got left d := by
  have hrun : hwEndpointStartNextBuffer .master c =
      .ok () { ep := nextEp .master c.ep, memory := nextMemory .master c } :=
    startNextBuffer_receives (fun _ => h.deviceMode) hrx
  refine ⟨_, hrun, rfl, ?_⟩
  constructor
  case toArmed => exact hlength ▸ h.armed hwhole
  case direction => exact hrx
  case userBuf =>
    show (if c.ep.rx then c.ep.userBuf else _) = _
    rw [hrx]
    exact huser
  case written => exact ((nextMemory_sameUser c).bytes _ _).trans hwritten
  case holds => exact hholds
  case writable => exact hwritable

/-- The controller has received a packet. -/
def receivedPacket (buffer base : Nat) (packet : Packet) (c : Channel) : Channel where
  ep := c.ep
  memory :=
    { c.memory.writeWord (some buffer) (filledWord (c.memory.word buffer) packet) with
      data := c.memory.data.writeAt base packet.bytes }

theorem Receiving.exchange_eq (h : Receiving size buffer control base origin got left c)
    {wire : WirePacket} {taken : Channel} :
    exchange c wire = some taken ↔
      (wire.data1 = !decide (c.ep.nextPid ≠ 0) ∧ wire.last = decide (left ≤ size) ∧
        wire.bytes.length ≤ min left size) ∧ taken = receivedPacket buffer base wire.packet c := by
  have hfull : hasBits (c.memory.word buffer) bufCtrlFull = false := by
    rw [h.full, h.direction]
    rfl
  unfold exchange
  rw [h.bufferControl, h.hwDataBuf]
  dsimp only
  rw [h.avail, h.data1, h.last, h.direction, hfull, h.length]
  constructor
  · intro heq
    split at heq
    · rename_i hbits
      split at heq
      · split at heq
        · rename_i hle
          cases heq
          exact ⟨⟨hbits.2.1.symm, hbits.2.2.symm, hle.2⟩, rfl⟩
        · cases heq
      · rename_i hnot
        exact absurd rfl hnot
    · cases heq
  · rintro ⟨⟨hdata1, hlast, hle⟩, rfl⟩
    rw [if_pos ⟨rfl, hdata1.symm, hlast.symm⟩, if_pos rfl, if_pos ⟨rfl, hle⟩]
    rfl

/-- The engine copies a packet that was received behind the others. -/
theorem Receiving.sync (h : Receiving size buffer control base origin got left c)
    {packet : Packet} (hle : packet.bytes.length ≤ min left size) :
    ∃ d, syncEpBuffer .master (receivedPacket buffer base packet c) = .ok () d ∧
      d.ep = { c.ep.accounted (UInt16.ofNat packet.bytes.length) with
        userBuf := origin.advance (got.length + packet.bytes.length) } ∧
      d.memory.word control = c.memory.word control ∧ d.memory.mainCtrl = c.memory.mainCtrl ∧
      origin.bytes d.memory (got ++ packet.bytes).length = got ++ packet.bytes := by
  have hroom := h.room
  have hbounded := h.bounded
  have hcount : (UInt16.ofNat packet.bytes.length).toNat = packet.bytes.length := by
    rw [UInt16.toNat_ofNat']
    omega
  let taken := receivedPacket buffer base packet c
  let word := filledWord (c.memory.word buffer) packet
  have hword : taken.memory.readWord taken.ep.bufferControl = word := by
    show taken.memory.readWord c.ep.bufferControl = _
    rw [h.bufferControl]
    exact Memory.writeWord_same _ _ _
  have hlength : bufLen word = UInt16.ofNat packet.bytes.length := bufLen_filled _ _
  have hfull : ¬ hasBits word bufCtrlFull = false := by
    intro hempty
    have hset : hasBits word bufCtrlFull = true := (filled_bits (c.memory.word buffer) packet).1
    rw [hset] at hempty
    cases hempty
  have huser : taken.ep.userBuf = origin.advance got.length := h.userBuf
  -- A buffer that is missing is given for no bytes only.
  have hkept : ¬ (taken.ep.userBuf = .null ∧ 0 < UInt16.ofNat packet.bytes.length) := by
    rintro ⟨hnull, hsome⟩
    have hholds := h.holds
    rw [huser] at hnull
    cases origin with
    | null =>
        have hzero : got.length + left = 0 := hholds
        have hnat : 0 < (UInt16.ofNat packet.bytes.length).toNat := hsome
        omega
    | _ => cases hnull
  have hread : readData taken.ep.hwDataBuf packet.bytes.length taken = .ok packet.bytes taken := by
    have hbytes : taken.memory.data.bytesAt base packet.bytes.length = packet.bytes :=
      Buffer.bytesAt_writeAt_same _ _ _
    rw [show taken.ep.hwDataBuf = some base from h.hwDataBuf]
    refine (Program.require_bind (by omega) _ _ _).trans ?_
    rw [Program.pure_apply, hbytes]
  have hfits : origin.Holds .master (got.length + packet.bytes.length) :=
    (h.holds.advance (show got.length + packet.bytes.length ≤ got.length + left by omega)).1
  obtain ⟨memory, hwrite, hsame, hmain, hall⟩ :=
    writeUser_behind (c := taken) hfits h.writable
  rw [← huser] at hwrite
  have hadvance : taken.ep.userBuf.advance packet.bytes.length =
      origin.advance (got.length + packet.bytes.length) := by
    rw [huser, UserBuf.advance_advance]
  have hreceived : syncReceived .master word (UInt16.ofNat packet.bytes.length) taken =
      .ok () { ep := { c.ep with
                 xferredLen := c.ep.xferredLen + UInt16.ofNat packet.bytes.length
                 userBuf := origin.advance (got.length + packet.bytes.length) }
               memory := memory } := by
    unfold syncReceived
    rw [Program.when_false hfull, Program.pure_bind, Program.read_bind, Program.when_false hkept,
      Program.pure_bind, Program.read_bind, hcount]
    refine (Program.bind_ok hread).trans ((Program.bind_ok hwrite).trans ?_)
    rw [← hadvance]
    rfl
  have hrx : ¬ taken.ep.rx = false := by
    rw [show taken.ep.rx = true from h.direction]
    decide
  have hsync : syncEpBuffer .master taken = .ok ()
      { ep := { c.ep.accounted (UInt16.ofNat packet.bytes.length) with
          userBuf := origin.advance (got.length + packet.bytes.length) }
        memory := memory } := by
    unfold syncEpBuffer
    rw [Program.read_bind, hword, hlength, if_neg hrx]
    refine (Program.bind_ok hreceived).trans ?_
    exact when_short _
  refine ⟨_, hsync, rfl, ?_, hmain, ?_⟩
  · show memory.word control = _
    rw [hsame]
    exact Memory.writeWord_other _ _ (Ne.symm h.apart)
  · rw [List.length_append]
    exact hall.trans (congrArg (· ++ packet.bytes) h.written)

/-- What taking in a packet comes to, behind `got` and with `left` bytes wanted. -/
structure PacketReceived (size buffer control base : Nat) (origin : UserBuf) (got : List UInt8)
    (left : Nat) (c : Channel) (packet : Packet) (done : Bool) (d : Channel) : Prop where
  ended : done = decide (packet.bytes.length < size ∨ packet.bytes.length = left)
  xferredLen : d.ep.xferredLen = c.ep.xferredLen + UInt16.ofNat packet.bytes.length
  bytes : origin.bytes d.memory (got ++ packet.bytes).length = got ++ packet.bytes
  last : done = true → Ready size buffer control base d ∧ d.ep.nextPid = c.ep.nextPid
  more : done = false → Receiving size buffer control base origin (got ++ packet.bytes)
    (left - packet.bytes.length) d ∧ d.ep.nextPid = c.ep.nextPid ^^^ 1

theorem Receiving.packet_received (h : Receiving size buffer control base origin got left c)
    {packet : Packet} (hle : packet.bytes.length ≤ min left size) :
    ∃ done d, hwEndpointXferContinue .master (receivedPacket buffer base packet c) = .ok done d ∧
      PacketReceived size buffer control base origin got left c packet done d := by
  have hbounded := h.bounded
  have hpositive := h.positive
  have hcount : (UInt16.ofNat packet.bytes.length).toNat = packet.bytes.length := by
    rw [UInt16.toNat_ofNat']
    omega
  obtain ⟨d, hsync, hep, hcontrol, hmain, hbytes⟩ := h.sync hle
  have hshort : IsShort (UInt16.ofNat packet.bytes.length) c.ep.wMaxPacketSize ↔
      packet.bytes.length < size := by
    rw [h.isShort_iff, hcount]
  have hsingle : hasBits (d.memory.readWord d.ep.endpointControl) epCtrlDoubleBuffered = false := by
    rw [hep]
    show hasBits (d.memory.readWord c.ep.endpointControl) _ = false
    rw [h.endpointControl]
    exact (congrArg (hasBits · _) hcontrol).trans h.single
  have hready : Ready size buffer control base d := by
    refine h.toReady.of_fixed ?_ ?_ ?_
    · rw [hep]
      rfl
    · unfold DeviceMode
      rw [hmain]
      exact h.deviceMode
    · rw [hep]
      exact h.pid
  have hremaining : d.ep.remainingLen.toNat =
      if packet.bytes.length < size then 0 else left - size := by
    rw [hep]
    show (if IsShort _ _ then 0 else c.ep.remainingLen).toNat = _
    by_cases hnow : packet.bytes.length < size
    · rw [if_pos (hshort.mpr hnow), if_pos hnow]
      rfl
    · rw [if_neg fun hsome => hnow (hshort.mp hsome), if_neg hnow]
      exact h.remainingLen
  have hxferred : d.ep.xferredLen = c.ep.xferredLen + UInt16.ofNat packet.bytes.length := by
    rw [hep]
    rfl
  have hpid : d.ep.nextPid = c.ep.nextPid := by
    rw [hep]
    rfl
  by_cases hlast : packet.bytes.length < size ∨ packet.bytes.length = left
  · have hdone : d.ep.remainingLen = 0 := by
      rw [← UInt16.toNat_inj]
      show d.ep.remainingLen.toNat = 0
      split at hremaining
      · exact hremaining
      · omega
    refine ⟨true, d, hwEndpointXferContinue_completes h.whole hsync hsingle hdone, ?_⟩
    exact ⟨(decide_eq_true hlast).symm, hxferred, hbytes, fun _ => ⟨hready, hpid⟩, nofun⟩
  · have hleft : d.ep.remainingLen.toNat = left - packet.bytes.length := by
      rw [hremaining, if_neg fun hnow => hlast (.inl hnow)]
      omega
    have hmore : d.ep.remainingLen ≠ 0 := by
      rw [Ne, ← UInt16.toNat_inj, hleft]
      show ¬ _ = 0
      omega
    have huser : d.ep.userBuf = origin.advance (got ++ packet.bytes).length := by
      rw [hep, List.length_append]
    have hholds : origin.Holds .master
        ((got ++ packet.bytes).length + (left - packet.bytes.length)) := by
      rw [List.length_append, show got.length + packet.bytes.length +
        (left - packet.bytes.length) = got.length + left by omega]
      exact h.holds
    obtain ⟨e, hstart, hnext, hreceiving⟩ := hready.starts_receiving (by rw [hep]; exact h.whole)
      (by rw [hep]; exact h.direction) hleft huser hbytes hholds h.writable
    refine ⟨false, e, hwEndpointXferContinue_continues h.whole hsync hsingle hmore hstart, ?_⟩
    refine ⟨(decide_eq_false hlast).symm, ?_, hreceiving.written, nofun, fun _ => ⟨hreceiving, ?_⟩⟩
    · rw [hnext]
      exact hxferred
    · rw [hnext]
      exact congrArg (· ^^^ 1) hpid

theorem Receiving.round_iff (h : Receiving size buffer control base origin got left c)
    {wire : WirePacket} {done : Bool} {d : Channel} : round c wire = some (done, d) ↔
      (wire.data1 = !decide (c.ep.nextPid ≠ 0) ∧ wire.last = decide (left ≤ size) ∧
        wire.bytes.length ≤ min left size) ∧
      hwEndpointXferContinue .master (receivedPacket buffer base wire.packet c) = .ok done d := by
  unfold round
  rw [Option.bind_eq_some_iff]
  constructor
  · rintro ⟨taken, hexchange, heq⟩
    obtain ⟨hwire, rfl⟩ := h.exchange_eq.mp hexchange
    refine ⟨hwire, ?_⟩
    split at heq
    · rename_i hrun
      cases heq
      exact hrun
    · cases heq
  · rintro ⟨hwire, hrun⟩
    refine ⟨_, h.exchange_eq.mpr ⟨hwire, rfl⟩, ?_⟩
    rw [hrun]

/-- What receiving all packets comes to. -/
structure ContentReceived (size buffer control base : Nat) (origin : UserBuf) (got : List UInt8)
    (left : Nat) (c : Channel) (wires : List WirePacket) (d : Channel) : Prop where
  fills : Fills size left (wires.map WirePacket.bytes)
  bytes : origin.bytes d.memory (got ++ (wires.map WirePacket.bytes).flatten).length =
    got ++ (wires.map WirePacket.bytes).flatten
  pids : Alternating (!decide (c.ep.nextPid ≠ 0)) wires (decide (d.ep.nextPid ≠ 0))
  xferredLen : d.ep.xferredLen = c.ep.xferredLen +
    UInt16.ofNat (wires.map WirePacket.bytes).flatten.length
  ready : Ready size buffer control base d

/-- What arrives is stored, up to the first short packet or the last byte. -/
theorem Receiving.content_received {wires : List WirePacket} {d : Channel}
    (hrun : Exchanged c wires d) (h : Receiving size buffer control base origin got left c) :
    ContentReceived size buffer control base origin got left c wires d := by
  induction hrun generalizing got left with
  | @last c d wire hround =>
      obtain ⟨⟨hdata1, -, hle⟩, hcontinue⟩ := h.round_iff.mp hround
      obtain ⟨done, e, hagain, hpacket⟩ := h.packet_received hle
      cases hcontinue.symm.trans hagain
      obtain ⟨hready, hpid⟩ := hpacket.last rfl
      have hend := of_decide_eq_true hpacket.ended.symm
      have hall : ([wire].map WirePacket.bytes).flatten = wire.bytes := List.append_nil _
      constructor
      case fills => exact ⟨hle, (if_pos hend).mpr rfl⟩
      case bytes =>
        rw [hall]
        exact hpacket.bytes
      case pids =>
        rw [hpid, ← hdata1]
        refine .cons ?_
        rw [hdata1, Bool.not_not]
        exact .nil _
      case xferredLen =>
        rw [hall]
        exact hpacket.xferredLen
      case ready => exact hready
  | @more c d e wire rest hround later ih =>
      obtain ⟨⟨hdata1, -, hle⟩, hcontinue⟩ := h.round_iff.mp hround
      obtain ⟨done, e, hagain, hpacket⟩ := h.packet_received hle
      cases hcontinue.symm.trans hagain
      obtain ⟨hreceiving, hpid⟩ := hpacket.more rfl
      have hend := of_decide_eq_false hpacket.ended.symm
      have hrest := ih hreceiving
      have hall : ((wire :: rest).map WirePacket.bytes).flatten =
          wire.bytes ++ (rest.map WirePacket.bytes).flatten := List.flatten_cons
      constructor
      case fills => exact ⟨hle, (if_neg hend).mpr hrest.fills⟩
      case bytes =>
        rw [hall, ← List.append_assoc]
        exact hrest.bytes
      case pids =>
        rw [← hdata1]
        refine .cons ?_
        have hnext := hrest.pids
        rw [hpid, h.pid.data1_toggle, ← hdata1] at hnext
        exact hnext
      case xferredLen =>
        rw [hrest.xferredLen, hpacket.xferredLen, hall, UInt16.add_assoc, ← UInt16.ofNat_add,
          List.length_append]
        rfl
      case ready => exact hrest.ready

/-- All packets that fill the buffer are taken. -/
theorem Receiving.takes {packets : List Packet}
    (h : Receiving size buffer control base origin got left c)
    (hfills : Fills size left (packets.map Packet.bytes)) :
    ∃ wires d, Exchanged c wires d ∧ wires.map WirePacket.packet = packets := by
  induction packets generalizing got left c with
  | nil => exact hfills.elim
  | cons packet rest ih =>
      obtain ⟨hle, hrest⟩ := hfills
      obtain ⟨done, d, hcontinue, hpacket⟩ := h.packet_received hle
      let wire : WirePacket := ⟨packet, !decide (c.ep.nextPid ≠ 0), decide (left ≤ size)⟩
      have hround : round c wire = some (done, d) :=
        h.round_iff.mpr ⟨⟨rfl, rfl, hle⟩, hcontinue⟩
      cases done with
      | true =>
          rw [if_pos (of_decide_eq_true hpacket.ended.symm)] at hrest
          refine ⟨[wire], d, .last hround, ?_⟩
          rw [List.map_eq_nil_iff.mp hrest]
          rfl
      | false =>
          rw [if_neg (of_decide_eq_false hpacket.ended.symm)] at hrest
          obtain ⟨wires, e, hlater, hwires⟩ := ih (hpacket.more rfl).1 hrest
          refine ⟨wire :: wires, e, .more hround hlater, ?_⟩
          rw [List.map_cons, hwires]

end Receiving

end UsbSec.Rp2040
