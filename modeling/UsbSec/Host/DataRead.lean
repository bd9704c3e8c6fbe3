import UsbSec.Host.ControlRead
import UsbSec.Host.Pool

/-!
# A bulk or interrupt read on the slave

A USB_DATA message starts a read of `n` bytes on an endpoint with packets of `m` bytes. Each
packet is copied to the start of the static buffer, while `xferred_len` counts the bytes of the
whole transfer, and `send_event_to_master` forwards that many bytes. The first message is the
first packet; every later one is longer than its packet, and what follows the packet in it is
left over from earlier packets.
-/

namespace UsbSec.Host

open Library Usb Rp2040

/-! ## What is to happen -/

/-- The message asks for a transfer on an endpoint, with these data. -/
structure AsksFor (message : SpiMessage) (epAddr : UInt8) (data : List UInt8) : Prop where
  kind : messageKind message = MsgType.usbData
  payload : message.payload = data ++ [epAddr]

/-- The packets that a read takes until it is complete, when `remaining` bytes are left behind
the buffer that is armed: a short packet ends it, and so does the last of the predicted ones. -/
def Accepts (size : UInt16) : UInt16 → List Packet → Prop
  | _, [] => False
  | remaining, packet :: rest =>
      if IsShort (UInt16.ofNat packet.bytes.length) size ∨ remaining = 0 then rest = []
      else Accepts size (remaining - tuMin16 remaining size) rest

instance decidableAccepts (size : UInt16) :
    ∀ (remaining : UInt16) (packets : List Packet), Decidable (Accepts size remaining packets)
  | _, [] => isFalse id
  | remaining, packet :: rest =>
      have := decidableAccepts size (remaining - tuMin16 remaining size) rest
      inferInstanceAs (Decidable (if IsShort (UInt16.ofNat packet.bytes.length) size ∨
        remaining = 0 then rest = [] else Accepts size (remaining - tuMin16 remaining size) rest))

/-- The packets that a read of `count` bytes takes until it is complete. -/
def AcceptedBy (size count : UInt16) (packets : List Packet) : Prop :=
  Accepts size (count - tuMin16 count size) packets

instance (size count : UInt16) (packets : List Packet) : Decidable (AcceptedBy size count packets) :=
  decidableAccepts _ _ _

/-- The controller receives a packet for the endpoint in a slot. -/
def arrival (h : Hcd) (slot : Nat) (packet : Packet) : Event :=
  if (h.epPool slot).bufferControl = some epxBufCtrl then .packetIn packet
  else .interruptIn slot packet

/-- A read: the message is dequeued, and each packet is taken in as it arrives. -/
def dataRead (h : Hcd) (slot : Nat) (packets : List Packet) : List Event :=
  .slavework :: packets.flatMap fun packet => [arrival h slot packet, .hcdIrq]

/-- The controller serves the endpoint in a slot: it is on EPX, or it is polled. -/
def Served (h : Hcd) (slot : Nat) : Prop :=
  (h.epPool slot).bufferControl = some epxBufCtrl ∨ hasBits h.intEpCtrl (1#32 <<< slot) = true

/-- Core 0 runs and no completion is waiting to be handled. -/
structure AtRest (c : Core0) : Prop where
  running : c.halted = none
  causes : NoErrors c.causes
  bufStatus : c.slave.hcd.bufStatus = 0

/-- Each packet is forwarded in a message of its own: the packet and the endpoint address. Only
the last message is marked. -/
def Forwards (c : Core0) (slot : Nat) (epAddr : UInt8) (packets : List Packet) : Prop :=
  ∃ last messages, Machine.run step c (dataRead c.slave.hcd slot packets) = some last ∧
    last.halted = none ∧ last.slave.outbox = c.slave.outbox ++ messages ∧
    messages.map SpiMessage.payload = packets.map (fun packet => packet.bytes ++ [epAddr]) ∧
    LastIsMarked messages

/-! ## The handler of one buffer -/

/-- A slot and the memory. -/
def slotChannel (slot : Nat) (h : Hcd) : Channel := ⟨h.epPool slot, h.memory⟩

/-- Put a slot and the memory back. -/
def storeSlot (slot : Nat) (h : Hcd) (c : Channel) : Hcd :=
  { withSlot h slot c.ep with memory := c.memory }

@[simp] theorem storeSlot_same (slot : Nat) (h : Hcd) (c : Channel) :
    (storeSlot slot h c).epPool slot = c.ep := withSlot_same h slot c.ep

theorem onSlot_ok {α : Type} {engine : Engine α} {slot : Nat} {h : Hcd} {value : α} {c : Channel}
    (hrun : engine (slotChannel slot h) = .ok value c) :
    onSlot slot engine h = .ok value (storeSlot slot h c) := Program.onPart_ok hrun

/-- How the handler gets at the buffer of a slot: the status bit, the buffer control register,
the endpoint control register and the data. -/
inductive Path (h : Hcd) (slot : Nat) : BitVec 32 → Nat → Nat → Nat → Prop
  | shared (registers : OnEpx (h.epPool slot)) (active : h.activeEp = some slot) :
      Path h slot (slotBit epx) epxBufCtrl epxCtrl epxDataOffset
  | own (mem : slot ∈ interruptSlots) (registers : OnInterrupt (slot - 1) (h.epPool slot)) :
      Path h slot (slotBit slot) (intEpBufferCtrl (slot - 1)) (intEpCtrl (slot - 1))
        (epxDataOffset + 64 * (slot - 1 + 2))

section Path

variable {h : Hcd} {slot buffer control data : Nat} {bit : BitVec 32}

theorem Path.bufferControl (hpath : Path h slot bit buffer control data) :
    (h.epPool slot).bufferControl = some buffer := by
  cases hpath with
  | shared registers _ => exact registers.bufferControl
  | own _ registers => exact registers.bufferControl

theorem Path.endpointControl (hpath : Path h slot bit buffer control data) :
    (h.epPool slot).endpointControl = some control := by
  cases hpath with
  | shared registers _ => exact registers.endpointControl
  | own _ registers => exact registers.endpointControl

theorem Path.hwDataBuf (hpath : Path h slot bit buffer control data) :
    (h.epPool slot).hwDataBuf = some data := by
  cases hpath with
  | shared registers _ => exact registers.hwDataBuf
  | own _ registers => exact registers.hwDataBuf

/-- The two registers are different, and a packet at the data stays in the DPRAM. -/
theorem Path.apart (hpath : Path h slot bit buffer control data) :
    control ≠ buffer ∧ data + 1023 ≤ usbDpramMax := by
  cases hpath with
  | shared _ _ => decide
  | own mem _ =>
      have hnum : slot - 1 < 15 := interruptSlots_num mem
      refine ⟨?_, ?_⟩
      · show 0x08 + 8 * (slot - 1) ≠ 0x88 + 8 * (slot - 1)
        omega
      · show 0x180 + 64 * (slot - 1 + 2) + 1023 ≤ 4096
        omega

/-- The path depends on the registers of the slot and on the active endpoint only. -/
theorem Path.congr {k : Hcd} (hpath : Path h slot bit buffer control data)
    (hshape : (k.epPool slot).shape = (h.epPool slot).shape)
    (hactive : k.activeEp = h.activeEp) : Path k slot bit buffer control data := by
  have hbuffer := congrArg Shape.bufferControl hshape
  have hcontrol := congrArg Shape.endpointControl hshape
  have hdata := congrArg Shape.hwDataBuf hshape
  cases hpath with
  | shared registers active =>
      exact .shared ⟨hbuffer.trans registers.bufferControl, hcontrol.trans registers.endpointControl,
        hdata.trans registers.hwDataBuf⟩ (hactive.trans active)
  | own mem registers =>
      exact .own mem ⟨hbuffer.trans registers.bufferControl,
        hcontrol.trans registers.endpointControl, hdata.trans registers.hwDataBuf⟩

/-- Only the bit of one slot is set, so its buffer is handled, and nothing else. -/
theorem handleInterruptBuffers_one {slots : List Nat} (hmem : slot ∈ slots)
    (hslots : ∀ other ∈ slots, other ∈ interruptSlots) (s : Slave) :
    handleInterruptBuffers slots (slotBit slot) s =
      (handleBuffStatusBit (slotBit slot) slot >>= fun _ => pure 0) s := by
  have hcleared : slotBit slot &&& ~~~slotBit slot = 0 := BitVec.and_not_self _
  have hpresent : ∀ other ∈ interruptSlots, slotBit other ≠ 0 := by decide
  induction slots with
  | nil => cases hmem
  | cons other rest ih =>
      have hother := hslots other List.mem_cons_self
      have hbit := slotBits_distinct slot (hslots slot hmem) other hother
      unfold handleInterruptBuffers
      rw [if_neg (hpresent slot (hslots slot hmem)), hbit]
      by_cases hsame : other = slot
      · subst hsame
        rw [if_pos (by simp), hcleared, Program.bind_apply, Program.bind_apply]
        cases handleBuffStatusBit (slotBit other) other s with
        | ok _ t => exact handleInterruptBuffers_none rest t
        | error reason t => rfl
      · rw [if_neg (by simp [hsame])]
        have hrest : slot ∈ rest := (List.mem_cons.mp hmem).resolve_left (Ne.symm hsame)
        exact ih hrest fun next hnext => hslots next (List.mem_cons_of_mem _ hnext)

/-- Only the buffer of the slot is waiting to be handled. -/
theorem Path.hwHandleBuffStatus {s : Slave} (hpath : Path s.hcd slot bit buffer control data)
    (hbits : s.hcd.bufStatus = bit) :
    hwHandleBuffStatus s = handleBuffStatusBit bit slot s := by
  unfold Host.hwHandleBuffStatus
  rw [Program.read_bind, hbits]
  cases hpath with
  | shared registers active =>
      have hcleared : slotBit epx &&& ~~~slotBit epx = 0 := by decide
      have hhandle : handleEpxBuffer s = handleBuffStatusBit (slotBit epx) slot s := by
        unfold handleEpxBuffer
        rw [Program.read_bind, active]
      rw [Program.when_true (by decide), hcleared, Program.bind_apply, hhandle]
      cases handleBuffStatusBit (slotBit epx) slot s with
      | ok _ t => exact (Program.bind_ok (handleInterruptBuffers_none _ t)).trans rfl
      | error reason t => rfl
  | own mem registers =>
      have hother : hasBits (slotBit slot) (slotBit epx) = false ∧
          slotBit slot &&& ~~~slotBit epx = slotBit slot := by
        have hall : ∀ slot ∈ interruptSlots, hasBits (slotBit slot) (slotBit epx) = false ∧
            slotBit slot &&& ~~~slotBit epx = slotBit slot := by decide
        exact hall slot mem
      rw [hother.1, Program.when_false (by decide), hother.2, Program.pure_bind,
        Program.bind_apply, handleInterruptBuffers_one mem fun _ h => h, Program.bind_apply]
      cases handleBuffStatusBit (slotBit slot) slot s with
      | ok _ t => rfl
      | error reason t => rfl

theorem Path.bit_ne_zero (hpath : Path h slot bit buffer control data) : (bit != 0) = true := by
  have hbits : bit ≠ 0 := by
    cases hpath with
    | shared _ _ => decide
    | own mem _ =>
        have hall : ∀ slot ∈ interruptSlots, slotBit slot ≠ 0 := by decide
        exact hall slot mem
  simpa using hbits

/-- When the handling of the buffer ends, so does the interrupt handler. -/
theorem Path.hcdIrq_ok {c : Core0} (hpath : Path c.slave.hcd slot bit buffer control data)
    (hrunning : c.halted = none) (hcauses : NoErrors c.causes)
    (hbits : c.slave.hcd.bufStatus = bit) {t : Slave}
    (hrun : handleBuffStatusBit bit slot c.slave = .ok () t)
    (hsetup : hasBits t.hcd.sieCtrl sieCtrlSendSetup = false) :
    step c .hcdIrq = some { c with slave := acknowledged c.slave.hcd.transComplete t } := by
  have hbuffers : Host.hwHandleBuffStatus c.slave = .ok () t :=
    (hpath.hwHandleBuffStatus hbits).trans hrun
  have hirq := hcdRp2040Irq_buffers hcauses hbuffers hsetup c.slave.hcd.transComplete
  have hpending : (c.slave.hcd.bufStatus != 0) = true := by
    rw [hbits]
    exact hpath.bit_ne_zero
  rw [step_running hrunning]
  unfold stepRunning
  rw [hpending, runHandler_ok hirq]

/-- When the handling of the buffer stops, the core stops. -/
theorem Path.hcdIrq_stops {c : Core0} (hpath : Path c.slave.hcd slot bit buffer control data)
    (hrunning : c.halted = none) (hbits : c.slave.hcd.bufStatus = bit) {reason : Halt} {t : Slave}
    (hstop : handleBuffStatusBit bit slot c.slave = .error reason t) :
    ∃ next, step c .hcdIrq = some next ∧ next.halted ≠ none := by
  have hbuffers : Host.hwHandleBuffStatus c.slave = .error reason t :=
    (hpath.hwHandleBuffStatus hbits).trans hstop
  have hirq : hcdRp2040Irq c.causes true c.slave.hcd.transComplete c.slave = .error reason t := by
    unfold hcdRp2040Irq
    exact Program.bind_error hbuffers
  have hpending : (c.slave.hcd.bufStatus != 0) = true := by
    rw [hbits]
    exact hpath.bit_ne_zero
  refine ⟨{ c with slave := t, halted := some reason }, ?_, nofun⟩
  rw [step_running hrunning]
  unfold stepRunning
  rw [hpending, runHandler_error hirq]

end Path

/-- A transfer on the endpoint in a slot: `sum` bytes have been counted, and `remaining` bytes are
left behind the buffer that is armed. -/
structure Transfer (slot : Nat) (epAddr : UInt8) (size : UInt16) (sum : Nat) (remaining : UInt16)
    (ep : HwEndpoint) : Prop where
  epAddr : ep.epAddr = epAddr
  rx : ep.rx = true
  userBuf : ep.userBuf = .bugger 0
  whole : ep.isPartial = false
  size : ep.wMaxPacketSize = size
  sum : ep.xferredLen.toNat = sum
  small : remaining.toNat ≤ 1000
  remaining : ep.remainingLen = remaining

/-- A packet is in the buffer of the slot. -/
structure Held (data : Nat) (control : Nat) (packet : Packet) (slot : Nat) (h : Hcd) : Prop where
  control : PointsTo (h.memory.word control) data
  full : hasBits (h.memory.readWord (h.epPool slot).bufferControl) bufCtrlFull = true
  length : bufLen (h.memory.readWord (h.epPool slot).bufferControl) =
    UInt16.ofNat packet.bytes.length
  bytes : h.memory.data.bytesAt data packet.bytes.length = packet.bytes

theorem packet_toNat (packet : Packet) :
    (UInt16.ofNat packet.bytes.length).toNat = packet.bytes.length := by
  have hbounded := packet.bounded
  rw [UInt16.toNat_ofNat']
  omega

/-- A packet that is longer than the static buffer is not copied into it. -/
theorem hwEndpointXferContinue_long {c : Channel} {data : Nat} {count : UInt16}
    (hrx : c.ep.rx = true) (hwhole : c.ep.isPartial = false) (huser : c.ep.userBuf = .bugger 0)
    (hdata : c.ep.hwDataBuf = some data)
    (hfull : hasBits (c.memory.readWord c.ep.bufferControl) bufCtrlFull = true)
    (hlength : bufLen (c.memory.readWord c.ep.bufferControl) = count)
    (hinside : data + count.toNat ≤ usbDpramMax) (hlong : buggerSize .slave < count.toNat) :
    hwEndpointXferContinue .slave c = .error .undefined c := by
  have hread : readData c.ep.hwDataBuf count.toNat c =
      .ok (c.memory.data.bytesAt data count.toNat) c := by
    rw [hdata]
    exact Program.require_bind hinside _ _ _
  have hwrite : writeUser .slave c.ep.userBuf (c.memory.data.bytesAt data count.toNat) c =
      .error .undefined c := by
    have hover : ¬ 0 + (c.memory.data.bytesAt data count.toNat).length ≤ buggerSize .slave := by
      rw [Buffer.length_bytesAt]
      omega
    rw [huser]
    exact Program.require_stops hover _ _ _
  have hreceive : syncReceived .slave (c.memory.readWord c.ep.bufferControl) count c =
      .error .undefined c := by
    unfold syncReceived
    rw [hfull, Program.when_false (by decide), Program.pure_bind, Program.read_bind,
      Program.when_false (by simp [huser]), Program.pure_bind, Program.read_bind]
    exact (Program.bind_ok hread).trans (Program.bind_error hwrite)
  have hsync : syncEpBuffer .slave c = .error .undefined c := by
    unfold syncEpBuffer
    rw [Program.read_bind, hlength, if_neg (by simp [hrx])]
    exact Program.bind_error hreceive
  unfold hwEndpointXferContinue
  rw [Program.read_bind, hwhole]
  exact Program.bind_error hsync

section Handler

variable {s : Slave} {slot buffer control data sum : Nat} {bit : BitVec 32} {epAddr : UInt8}
  {size remaining : UInt16} {packet : Packet}

/-- The endpoint and the memory after the packet is taken in. -/
def takenIn (data slot : Nat) (packet : Packet) (h : Hcd) : Channel :=
  takenChannel data (UInt16.ofNat packet.bytes.length) (slotChannel slot h)

/-- The slave after the buffer of a slot is acknowledged and the engine has run on it. -/
def slotHandled (bit : BitVec 32) (slot : Nat) (c : Channel) (s : Slave) : Slave :=
  withHcd s (storeSlot slot { s.hcd with bufStatus := s.hcd.bufStatus &&& ~~~bit } c)

theorem Transfer.holds (htransfer : Transfer slot epAddr size sum remaining (s.hcd.epPool slot))
    (hpath : Path s.hcd slot bit buffer control data) (hheld : Held data control packet slot s.hcd)
    (hfits : packet.bytes.length ≤ 1000) :
    Holds data (slotChannel slot s.hcd) (UInt16.ofNat packet.bytes.length) := by
  have hlimit := hpath.apart.2
  refine ⟨htransfer.rx, htransfer.userBuf, hpath.hwDataBuf, hheld.full, hheld.length, ?_, ?_⟩
  · rw [packet_toNat]
    exact hfits
  · rw [packet_toNat]
    omega

theorem Held.single (hheld : Held data control packet slot s.hcd)
    (hpath : Path s.hcd slot bit buffer control data) :
    hasBits ((slotChannel slot s.hcd).memory.readWord
      (slotChannel slot s.hcd).ep.endpointControl) epCtrlDoubleBuffered = false := by
  have hpointer : (slotChannel slot s.hcd).ep.endpointControl = some control :=
    hpath.endpointControl
  rw [hpointer]
  exact hheld.control.single

/-- The engine on the buffer that holds a packet: the transfer is complete, or the buffer is armed
again. -/
theorem Transfer.continue_ok
    (htransfer : Transfer slot epAddr size sum remaining (s.hcd.epPool slot))
    (hpath : Path s.hcd slot bit buffer control data) (hheld : Held data control packet slot s.hcd)
    (hfits : packet.bytes.length ≤ 1000) (done : Bool)
    (hdone : done = true ↔ (takenIn data slot packet s.hcd).ep.remainingLen = 0) :
    handleBuffStatusBit bit slot s =
      hwXferComplete slot (if done then .success else .more)
        (slotHandled bit slot
          (if done then takenIn data slot packet s.hcd
            else armedChannel (takenIn data slot packet s.hcd)) s) := by
  have hholds := htransfer.holds hpath hheld hfits
  have hcontinue : hwEndpointXferContinue .slave (slotChannel slot s.hcd) =
      .ok done (if done then takenIn data slot packet s.hcd
        else armedChannel (takenIn data slot packet s.hcd)) := by
    cases done with
    | true => exact hholds.continue_last htransfer.whole (hheld.single hpath) (hdone.mp rfl)
    | false =>
        refine hholds.continue_more htransfer.whole (hheld.single hpath) fun hzero => ?_
        exact Bool.noConfusion (hdone.mpr hzero)
  unfold handleBuffStatusBit
  rw [Program.update_bind]
  have hslot : onSlot slot (hwEndpointXferContinue .slave)
      { s.hcd with bufStatus := s.hcd.bufStatus &&& ~~~bit } = .ok done _ := onSlot_ok hcontinue
  exact Program.bind_ok (onHcd_ok hslot)

/-- A packet that is longer than the static buffer stops the core. -/
theorem Transfer.long_stops
    (htransfer : Transfer slot epAddr size sum remaining (s.hcd.epPool slot))
    (hpath : Path s.hcd slot bit buffer control data) (hheld : Held data control packet slot s.hcd)
    (hlong : 1000 < packet.bytes.length) :
    ∃ reason t, handleBuffStatusBit bit slot s = .error reason t := by
  have hlimit := hpath.apart.2
  have hbounded := packet.bounded
  have hcontinue : hwEndpointXferContinue .slave (slotChannel slot s.hcd) =
      .error .undefined (slotChannel slot s.hcd) := by
    refine hwEndpointXferContinue_long htransfer.rx htransfer.whole htransfer.userBuf
      hpath.hwDataBuf hheld.full hheld.length ?_ ?_
    · rw [packet_toNat]
      omega
    · rw [packet_toNat]
      exact hlong
  have hslot : onSlot slot (hwEndpointXferContinue .slave)
      { s.hcd with bufStatus := s.hcd.bufStatus &&& ~~~bit } = .error .undefined _ :=
    Program.onPart_error hcontinue
  unfold handleBuffStatusBit
  rw [Program.update_bind]
  exact ⟨_, _, Program.bind_error (Program.onPart_error hslot)⟩

end Handler

/-! ## What is passed on -/

/-- Outside the control endpoint a completed transfer is passed on. -/
theorem hcdEventXferComplete_data {epAddr : UInt8} (hother : ¬ IsControl epAddr)
    {result : XferResult} (hresult : result = .success ∨ result = .more) (devAddr : UInt8)
    (len : UInt16) (s : Slave) :
    hcdEventXferComplete devAddr epAddr len result s =
      sendEventToMaster len epAddr (transferFlag result)
        { withCall s (.xferComplete epAddr s.level len result) with debugLock := false } := by
  unfold hcdEventXferComplete
  refine (Program.require_bind hresult _ _ _).trans ?_
  rw [Program.read_bind, if_neg hother]
  rfl

/-- The slave after a completion: the progress of the endpoint is reset, unless more is to come,
and the call is recorded. -/
def completed (slot : Nat) (result : XferResult) (s : Slave) : Slave :=
  let ep := s.hcd.epPool slot
  let released := if result = .more then s else
    withHcd s (storeSlot slot s.hcd { slotChannel slot s.hcd with ep := ep.resetTransfer })
  { withCall released (.xferComplete ep.epAddr s.level ep.xferredLen result) with
    debugLock := false }

theorem hwXferComplete_data {slot : Nat} {s : Slave}
    (hother : ¬ IsControl (s.hcd.epPool slot).epAddr) {result : XferResult}
    (hresult : result = .success ∨ result = .more) :
    hwXferComplete slot result s =
      sendEventToMaster (s.hcd.epPool slot).xferredLen (s.hcd.epPool slot).epAddr
        (transferFlag result) (completed slot result s) := by
  unfold hwXferComplete
  rw [Program.read_bind]
  rcases hresult with rfl | rfl
  · have hreset : onHcd (onSlot slot hwEndpointResetTransferNew) s = .ok () (withHcd s
        (storeSlot slot s.hcd
          { slotChannel slot s.hcd with ep := (s.hcd.epPool slot).resetTransfer })) :=
      onHcd_ok (onSlot_ok rfl)
    rw [Program.when_true (by decide)]
    refine (Program.bind_ok hreset).trans ?_
    exact hcdEventXferComplete_data hother (.inl rfl) _ _ _
  · rw [Program.when_false (by decide), Program.pure_bind]
    exact hcdEventXferComplete_data hother (.inr rfl) _ _ _

/-- Bytes for which the static buffer has no room behind them stop the core. -/
theorem sendEventToMaster_long {len : UInt16} (hlen : 1000 ≤ len.toNat) (epAddr : UInt8)
    (eFlag : UInt16) (s : Slave) :
    sendEventToMaster len epAddr eFlag s = .error .undefined s := by
  have hnonzero : len ≠ 0 := by
    rintro rfl
    exact absurd hlen (by decide)
  have hover : ¬ len.toNat + [epAddr].length ≤ buggerSize .slave := by
    show ¬ len.toNat + 1 ≤ 1000
    omega
  have hfill : fillBugger len.toNat [epAddr] s = .error .undefined s :=
    Program.require_stops hover _ _ _
  unfold sendEventToMaster
  rw [Program.when_true hnonzero]
  exact Program.bind_error hfill

/-- The message holds the packet, `sum` bytes left over from before, and the endpoint address. -/
structure PassesOn (message : SpiMessage) (flag : UInt16) (epAddr : UInt8) (sum : Nat)
    (packet : Packet) : Prop where
  flag : message.eFlag = MsgType.isPacket ||| flag
  payload : ∃ leftover : List UInt8, leftover.length = sum ∧
    message.payload = packet.bytes ++ leftover ++ [epAddr]

/-- The static buffer starts with the packet that is taken in. -/
theorem takenIn_bytes {data slot control : Nat} {packet : Packet} {h : Hcd}
    (hheld : Held data control packet slot h) (sum : Nat) :
    ∃ leftover : List UInt8, leftover.length = sum ∧
      (takenIn data slot packet h).memory.bugger.bytesAt 0 (packet.bytes.length + sum) =
        packet.bytes ++ leftover := by
  let bugger := (takenIn data slot packet h).memory.bugger
  refine ⟨bugger.bytesAt (0 + packet.bytes.length) sum, Buffer.length_bytesAt _ _ _, ?_⟩
  rw [Buffer.bytesAt_add]
  congr 1
  have hcopy : (takenIn data slot packet h).memory.bugger =
      h.memory.bugger.writeAt 0 (h.memory.data.bytesAt data packet.bytes.length) := by
    show h.memory.bugger.writeAt 0 (h.memory.data.bytesAt data
      (UInt16.ofNat packet.bytes.length).toNat) = _
    rw [packet_toNat]
  rw [hcopy, hheld.bytes, Buffer.bytesAt_writeAt_same]

/-! ## A run of packets -/

section Run

variable {c : Core0} {slot buffer control data sum : Nat} {bit : BitVec 32} {epAddr : UInt8}
  {size remaining : UInt16}

/-- The controller waits for a packet of a transfer. -/
structure Receiving (slot : Nat) (bit : BitVec 32) (buffer control data : Nat) (epAddr : UInt8)
    (size : UInt16) (sum : Nat) (remaining : UInt16) (c : Core0) : Prop where
  rest : AtRest c
  path : Path c.slave.hcd slot bit buffer control data
  transfer : Transfer slot epAddr size sum remaining (c.slave.hcd.epPool slot)
  control : PointsTo (c.slave.hcd.memory.word control) data
  armed : hasBits (c.slave.hcd.memory.word buffer) bufCtrlAvail = true
  last : hasBits (c.slave.hcd.memory.word buffer) bufCtrlLast = true → remaining = 0
  started : buffer = epxBufCtrl → hasBits c.slave.hcd.sieCtrl sieCtrlStartTrans = true ∧
    hasBits c.slave.hcd.sieCtrl sieCtrlReceiveData = true
  polled : buffer ≠ epxBufCtrl → hasBits c.slave.hcd.intEpCtrl (1#32 <<< slot) = true
  noSetup : hasBits c.slave.hcd.sieCtrl sieCtrlSendSetup = false

/-- The controller holds a packet of a transfer, and goes on by itself unless it was the last. -/
structure Arrived (slot : Nat) (bit : BitVec 32) (buffer control data : Nat) (epAddr : UInt8)
    (size : UInt16) (sum : Nat) (remaining : UInt16) (packet : Packet) (c : Core0) : Prop where
  running : c.halted = none
  causes : NoErrors c.causes
  bufStatus : c.slave.hcd.bufStatus = bit
  path : Path c.slave.hcd slot bit buffer control data
  transfer : Transfer slot epAddr size sum remaining (c.slave.hcd.epPool slot)
  held : Held data control packet slot c.slave.hcd
  started : remaining ≠ 0 → packet.bytes ≠ [] → buffer = epxBufCtrl →
    hasBits c.slave.hcd.sieCtrl sieCtrlStartTrans = true ∧
    hasBits c.slave.hcd.sieCtrl sieCtrlReceiveData = true
  polled : buffer ≠ epxBufCtrl → hasBits c.slave.hcd.intEpCtrl (1#32 <<< slot) = true
  noSetup : hasBits c.slave.hcd.sieCtrl sieCtrlSendSetup = false

/-- The registers and the data after a packet is stored. -/
theorem stored_held {h : Hcd} (hpath : Path h slot bit buffer control data)
    (hcontrol : PointsTo (h.memory.word control) data) (packet : Packet) {k : Hcd}
    (hpool : k.epPool slot = h.epPool slot)
    (hmemory : k.memory = storePacket h.memory control buffer packet) :
    Held data control packet slot k := by
  have hword : k.memory.word buffer = receivedWord (h.memory.word buffer) packet := by
    rw [hmemory]
    exact storePacket_same _ _ _ _
  have hread : k.memory.readWord (k.epPool slot).bufferControl =
      receivedWord (h.memory.word buffer) packet := by
    rw [hpool, hpath.bufferControl]
    exact hword
  constructor
  · rw [hmemory, storePacket_other _ _ _ hpath.apart.1]
    exact hcontrol
  · rw [hread]
    exact (receivedWord_bits _ packet).1
  · rw [hread]
    exact bufLen_receivedWord _ packet
  · rw [hmemory]
    show Buffer.bytesAt (h.memory.data.writeAt _ packet.bytes) data _ = _
    rw [hcontrol.offset]
    exact Buffer.bytesAt_writeAt_same _ _ _

theorem Receiving.arrive
    (hc : Receiving slot bit buffer control data epAddr size sum remaining c) (packet : Packet)
    {h : Hcd} (hsame : (h.epPool slot).bufferControl = some buffer) :
    ∃ next, step c (arrival h slot packet) = some next ∧
      Arrived slot bit buffer control data epAddr size sum remaining packet next ∧
      next.slave.outbox = c.slave.outbox := by
  obtain ⟨⟨hrunning, hcauses, hstatus⟩, hpath, htransfer, hcontrol, harmed, hlast, hstarted, hpolled,
    hnoSetup⟩ := hc
  cases hpath with
  | shared registers active =>
      have hdata : DataStarted c.slave.hcd sieCtrlReceiveData :=
        ⟨(hstarted rfl).1, hnoSetup, (hstarted rfl).2, harmed⟩
      have hevent : arrival h slot packet = .packetIn packet := if_pos hsame
      have hheld {k : Hcd} (hpool : k.epPool slot = c.slave.hcd.epPool slot)
          (hmemory : k.memory = storePacket c.slave.hcd.memory epxCtrl epxBufCtrl packet) :=
        stored_held (.shared registers active) hcontrol packet hpool hmemory
      have hbit : c.slave.hcd.bufStatus ||| slotBit epx = slotBit epx := by
        rw [hstatus]
        exact BitVec.zero_or
      rw [hevent]
      by_cases hover : hasBits (c.slave.hcd.memory.word epxBufCtrl) bufCtrlLast ∨ packet.bytes = []
      · have hreceive : receiveIn c.slave.hcd packet =
            some (finishTransaction (fillEpx c.slave.hcd packet)) := by
          unfold receiveIn
          rw [if_pos hdata, if_pos hover]
        have hkept : hasBits (c.slave.hcd.sieCtrl &&& ~~~sieCtrlStartTrans) sieCtrlSendSetup =
            false := (hasBits_kept (by decide)).trans hnoSetup
        refine ⟨_, (step_running hrunning _).trans (congrArg (Option.map _) hreceive),
          ⟨hrunning, hcauses, hbit, .shared registers active, htransfer, hheld rfl rfl,
            fun hmore hsome => ?_, fun hne => absurd rfl hne, hkept⟩, rfl⟩
        rcases hover with hmarked | hempty
        · exact absurd (hlast hmarked) hmore
        · exact absurd hempty hsome
      · have hreceive : receiveIn c.slave.hcd packet = some (fillEpx c.slave.hcd packet) := by
          unfold receiveIn
          rw [if_pos hdata, if_neg hover]
        exact ⟨_, (step_running hrunning _).trans (congrArg (Option.map _) hreceive),
          ⟨hrunning, hcauses, hbit, .shared registers active, htransfer, hheld rfl rfl,
            fun _ _ => hstarted, fun hne => absurd rfl hne, hnoSetup⟩, rfl⟩
  | own mem registers =>
      have hnum : slot - 1 < 15 := interruptSlots_num mem
      have hother : intEpBufferCtrl (slot - 1) ≠ epxBufCtrl := by
        show 0x88 + 8 * (slot - 1) ≠ 0x80
        omega
      have hevent : arrival h slot packet = .interruptIn slot packet := by
        refine if_neg fun hepx => hother ?_
        exact Option.some.inj (hsame.symm.trans hepx)
      have hreceive : receiveInterrupt c.slave.hcd slot packet = some
          { c.slave.hcd with
            memory := storePacket c.slave.hcd.memory (intEpCtrl (slot - 1))
              (intEpBufferCtrl (slot - 1)) packet
            bufStatus := c.slave.hcd.bufStatus ||| slotBit slot } :=
        if_pos ⟨mem, hpolled hother, harmed⟩
      have hbit : c.slave.hcd.bufStatus ||| slotBit slot = slotBit slot := by
        rw [hstatus]
        exact BitVec.zero_or
      rw [hevent]
      exact ⟨_, (step_running hrunning _).trans (congrArg (Option.map _) hreceive),
        ⟨hrunning, hcauses, hbit, .own mem registers, htransfer,
          stored_held (.own mem registers) hcontrol packet rfl rfl, fun _ _ _ => hstarted ‹_›,
          hpolled, hnoSetup⟩, rfl⟩

/-- What the interrupt handler does with the packet, when it ends. -/
theorem Arrived.hcdIrq {packet : Packet}
    (hc : Arrived slot bit buffer control data epAddr size sum remaining packet c) {t : Slave}
    (hrun : handleBuffStatusBit bit slot c.slave = .ok () t)
    (hsetup : hasBits t.hcd.sieCtrl sieCtrlSendSetup = false) :
    step c .hcdIrq =
      some { c with slave := acknowledged c.slave.hcd.transComplete t } :=
  hc.path.hcdIrq_ok hc.running hc.causes hc.bufStatus hrun hsetup

/-- The count after a packet. -/
theorem Transfer.counted {packet : Packet} {ep : HwEndpoint}
    (htransfer : Transfer slot epAddr size sum remaining ep)
    (hfits : sum + packet.bytes.length < 2 ^ 16) :
    (ep.xferredLen + UInt16.ofNat packet.bytes.length).toNat = packet.bytes.length + sum := by
  rw [UInt16.toNat_add, htransfer.sum, packet_toNat]
  omega

/-- A word that arms a buffer is marked as the last one only when nothing remains behind it. -/
theorem armedWord_last {ep : HwEndpoint} (hsmall : ep.remainingLen.toNat ≤ 1000)
    (hlast : hasBits (armedWord ep) bufCtrlLast = true) :
    ep.remainingLen - tuMin16 ep.remainingLen ep.wMaxPacketSize = 0 := by
  by_contra hmore
  have hlength : hasBits (lenBits ep.remainingLen) bufCtrlLast = false := by
    have hbit : bufCtrlLast = BitVec.twoPow 32 14 := by decide
    have hclear : ep.remainingLen.toBitVec[14] = false := by
      refine Nat.testBit_lt_two_pow ?_
      show ep.remainingLen.toNat < 2 ^ 14
      omega
    have hnone : lenBits ep.remainingLen &&& bufCtrlLast = 0 := by
      unfold lenBits
      rw [hbit, BitVec.and_twoPow]
      simp [hclear]
    unfold hasBits
    rw [hnone]
    rfl
  have hfull : hasBits (fullBits ep.rx) bufCtrlLast = false := by
    cases ep.rx <;> decide
  have hpid : hasBits (pidBits ep.nextPid) bufCtrlLast = false := by
    unfold pidBits
    split <;> decide
  have havail : hasBits bufCtrlAvail bufCtrlLast = false := by decide
  unfold armedWord lastBits at hlast
  rw [hasBits_or, hasBits_or, hasBits_or, hasBits_or, hlength, hfull, hpid, havail,
    if_neg hmore] at hlast
  exact absurd hlast (by decide)

theorem takenIn_remaining {packet : Packet} {h : Hcd}
    (htransfer : Transfer slot epAddr size sum remaining (h.epPool slot)) :
    (takenIn data slot packet h).ep.remainingLen =
      if IsShort (UInt16.ofNat packet.bytes.length) size then 0 else remaining := by
  rw [← htransfer.size, ← htransfer.remaining]
  rfl

/-- A packet takes no more than what remains. -/
theorem toNat_sub_tuMin16 (left size : UInt16) :
    (left - tuMin16 left size).toNat = left.toNat - min left.toNat size.toNat := by
  have hmin : (tuMin16 left size).toNat = min left.toNat size.toNat := by
    unfold tuMin16
    split
    · rename_i hlt
      rw [UInt16.lt_iff_toNat_lt] at hlt
      omega
    · rename_i hlt
      rw [UInt16.lt_iff_toNat_lt] at hlt
      omega
  have hle : tuMin16 left size ≤ left := by
    rw [UInt16.le_iff_toNat_le, hmin]
    exact Nat.min_le_left _ _
  rw [UInt16.toNat_sub_of_le _ _ hle, hmin]

/-- A packet that does not end the transfer is passed on, and the next one is waited for. -/
theorem Arrived.more {packet : Packet}
    (hc : Arrived slot bit buffer control data epAddr size sum remaining packet c)
    (hother : ¬ IsControl epAddr) (hfits : sum + packet.bytes.length ≤ 999)
    (hshort : ¬ IsShort (UInt16.ofNat packet.bytes.length) size) (hmore : remaining ≠ 0)
    (hsome : packet.bytes ≠ []) :
    ∃ next message, step c .hcdIrq = some next ∧
      Receiving slot bit buffer control data epAddr size (packet.bytes.length + sum)
        (remaining - tuMin16 remaining size) next ∧
      next.slave.outbox = c.slave.outbox ++ [message] ∧
      PassesOn message MsgType.firstPacket epAddr sum packet := by
  have htransfer := hc.transfer
  have hleft : (takenIn data slot packet c.slave.hcd).ep.remainingLen = remaining :=
    (takenIn_remaining htransfer).trans (if_neg hshort)
  -- The packet is taken in, the buffer is armed again, and the message is put together.
  let taken := takenIn data slot packet c.slave.hcd
  let armed := slotHandled bit slot (armedChannel taken) c.slave
  have hcount : taken.ep.xferredLen.toNat = packet.bytes.length + sum :=
    htransfer.counted (by omega)
  have hep : armed.hcd.epPool slot = (armedChannel taken).ep := storeSlot_same _ _ _
  have haddress : (armed.hcd.epPool slot).epAddr = epAddr := by
    rw [hep]
    exact htransfer.epAddr
  obtain ⟨message, bugger, hflag, hpayload, hsend⟩ :=
    sendEventToMaster_ok (by omega : taken.ep.xferredLen.toNat < 1000) epAddr MsgType.firstPacket
      (completed slot .more armed)
  have hrun : handleBuffStatusBit bit slot c.slave =
      .ok () (withReply (completed slot .more armed) bugger message) := by
    have hnotDone : false = true ↔ taken.ep.remainingLen = 0 := by
      rw [hleft]
      simp [hmore]
    refine (htransfer.continue_ok hc.path hc.held (by omega) false hnotDone).trans ?_
    refine (hwXferComplete_data (s := armed) (haddress ▸ hother) (.inr rfl)).trans ?_
    rw [haddress, hep]
    exact hsend
  obtain ⟨leftover, hleftover, hbytes⟩ := takenIn_bytes hc.held sum
  refine ⟨_, message, hc.hcdIrq hrun hc.noSetup, ?_, rfl, hflag, leftover, hleftover, ?_⟩
  · have hpointer : taken.ep.bufferControl = some buffer := hc.path.bufferControl
    have hword : (armedChannel taken).memory.word buffer = armedWord taken.ep := by
      show (taken.memory.writeWord taken.ep.bufferControl _).word buffer = _
      rw [hpointer, Memory.writeWord_same]
    have hsmaller : (remaining - tuMin16 remaining size).toNat ≤ 1000 := by
      rw [toNat_sub_tuMin16]
      exact Nat.le_trans (Nat.sub_le _ _) htransfer.small
    refine ⟨⟨hc.running, hc.causes, ?_⟩, ?_, ?_, ?_, ?_, ?_, hc.started hmore hsome, hc.polled,
      hc.noSetup⟩
    · show c.slave.hcd.bufStatus &&& ~~~bit = 0
      rw [hc.bufStatus]
      exact BitVec.and_not_self bit
    · refine hc.path.congr ?_ rfl
      show (armed.hcd.epPool slot).shape = _
      rw [hep]
      rfl
    · show Transfer slot epAddr size _ _ (armed.hcd.epPool slot)
      rw [hep]
      refine ⟨htransfer.epAddr, htransfer.rx, htransfer.userBuf, htransfer.whole, htransfer.size,
        hcount, hsmaller, ?_⟩
      show taken.ep.remainingLen - tuMin16 taken.ep.remainingLen taken.ep.wMaxPacketSize = _
      have hsize : taken.ep.wMaxPacketSize = size := htransfer.size
      rw [hleft, hsize]
    · show PointsTo ((taken.memory.writeWord taken.ep.bufferControl _).word control) data
      rw [hpointer, Memory.writeWord_other _ _ hc.path.apart.1]
      exact hc.held.control
    · show hasBits ((armedChannel taken).memory.word buffer) bufCtrlAvail = true
      rw [hword]
      exact armedWord_avail _
    · intro hlast
      have hlast : hasBits ((armedChannel taken).memory.word buffer) bufCtrlLast = true := hlast
      rw [hword] at hlast
      have hsize : taken.ep.wMaxPacketSize = size := htransfer.size
      have hzero := armedWord_last (by rw [hleft]; exact htransfer.small) hlast
      rw [hleft, hsize] at hzero
      exact hzero
  · rw [hpayload, ← hbytes]
    show Buffer.bytesAt (armedChannel taken).memory.bugger 0 _ ++ _ = _
    rw [show (armedChannel taken).memory.bugger = taken.memory.bugger from
      Memory.writeWord_bugger _ _ _, hcount]

/-- The last packet of the transfer is passed on in a marked message. -/
theorem Arrived.last {packet : Packet}
    (hc : Arrived slot bit buffer control data epAddr size sum remaining packet c)
    (hother : ¬ IsControl epAddr) (hfits : sum + packet.bytes.length ≤ 999)
    (hends : IsShort (UInt16.ofNat packet.bytes.length) size ∨ remaining = 0) :
    ∃ next message, step c .hcdIrq = some next ∧ next.halted = none ∧
      next.slave.outbox = c.slave.outbox ++ [message] ∧
      PassesOn message MsgType.lastPacket epAddr sum packet := by
  have htransfer := hc.transfer
  have hleft : (takenIn data slot packet c.slave.hcd).ep.remainingLen = 0 := by
    rw [takenIn_remaining htransfer]
    rcases hends with hshort | hzero
    · exact if_pos hshort
    · rw [hzero]
      exact ite_self _
  let taken := takenIn data slot packet c.slave.hcd
  let handled := slotHandled bit slot taken c.slave
  have hcount : taken.ep.xferredLen.toNat = packet.bytes.length + sum :=
    htransfer.counted (by omega)
  have hep : handled.hcd.epPool slot = taken.ep := storeSlot_same _ _ _
  have haddress : (handled.hcd.epPool slot).epAddr = epAddr := by
    rw [hep]
    exact htransfer.epAddr
  obtain ⟨message, bugger, hflag, hpayload, hsend⟩ :=
    sendEventToMaster_ok (by omega : taken.ep.xferredLen.toNat < 1000) epAddr MsgType.lastPacket
      (completed slot .success handled)
  have hrun : handleBuffStatusBit bit slot c.slave =
      .ok () (withReply (completed slot .success handled) bugger message) := by
    have hdone : true = true ↔ taken.ep.remainingLen = 0 := by simp [taken, hleft]
    refine (htransfer.continue_ok hc.path hc.held (by omega) true hdone).trans ?_
    refine (hwXferComplete_data (s := handled) (haddress ▸ hother) (.inl rfl)).trans ?_
    rw [haddress, hep]
    exact hsend
  obtain ⟨leftover, hleftover, hbytes⟩ := takenIn_bytes hc.held sum
  refine ⟨_, message, hc.hcdIrq hrun hc.noSetup, hc.running, rfl, hflag, leftover, hleftover, ?_⟩
  rw [hpayload, ← hbytes, hcount]
  rfl

/-- A packet that takes the count past the static buffer stops the core. -/
theorem Arrived.stops {packet : Packet}
    (hc : Arrived slot bit buffer control data epAddr size sum remaining packet c)
    (hother : ¬ IsControl epAddr) (hsum : sum ≤ 999) (hover : 999 < sum + packet.bytes.length) :
    ∃ next, step c .hcdIrq = some next ∧ next.halted ≠ none := by
  have htransfer := hc.transfer
  have hbounded := packet.bounded
  have hstop : ∃ reason t, handleBuffStatusBit bit slot c.slave = .error reason t := by
    by_cases hlong : 1000 < packet.bytes.length
    · exact htransfer.long_stops hc.path hc.held hlong
    · let taken := takenIn data slot packet c.slave.hcd
      have hcount : taken.ep.xferredLen.toNat = packet.bytes.length + sum :=
        htransfer.counted (by omega)
      have hevent (handled : Slave) {result : XferResult}
          (hep : (handled.hcd.epPool slot).epAddr = epAddr)
          (hlen : (handled.hcd.epPool slot).xferredLen = taken.ep.xferredLen)
          (hresult : result = .success ∨ result = .more) :
          ∃ reason t, hwXferComplete slot result handled = .error reason t := by
        refine ⟨.undefined, completed slot result handled, ?_⟩
        refine (hwXferComplete_data (hep ▸ hother) hresult).trans ?_
        exact sendEventToMaster_long (by rw [hlen]; omega) _ _ _
      by_cases hdone : taken.ep.remainingLen = 0
      · have hep : (slotHandled bit slot taken c.slave).hcd.epPool slot = taken.ep :=
          storeSlot_same _ _ _
        rw [htransfer.continue_ok hc.path hc.held (by omega) true (by simpa using hdone)]
        refine hevent (slotHandled bit slot taken c.slave) ?_ ?_ (.inl rfl)
        · rw [hep]
          exact htransfer.epAddr
        · rw [hep]
      · have hep : (slotHandled bit slot (armedChannel taken) c.slave).hcd.epPool slot =
            (armedChannel taken).ep := storeSlot_same _ _ _
        rw [htransfer.continue_ok hc.path hc.held (by omega) false (by simpa using hdone)]
        refine hevent (slotHandled bit slot (armedChannel taken) c.slave) ?_ ?_ (.inr rfl)
        · rw [hep]
          exact htransfer.epAddr
        · rw [hep]
          rfl
  obtain ⟨reason, t, hstop⟩ := hstop
  exact hc.path.hcdIrq_stops hc.running hc.bufStatus hstop

/-- A run that ends with a running core started with one. -/
theorem running_before {last : Core0} {events : List Event}
    (hrun : Machine.run step c events = some last) (hlast : last.halted = none) :
    c.halted = none := by
  cases events with
  | nil =>
      cases hrun
      exact hlast
  | cons event rest =>
      obtain ⟨next, hnext, -⟩ := Machine.run_cons_eq_some.mp hrun
      by_contra hhalted
      rw [step, if_neg hhalted] at hnext
      cases hnext

/-- Each message holds one more packet than is counted in the message before it, as far as the
static buffer has room, and only the last message is marked. -/
def Accumulated (epAddr : UInt8) : Nat → List Packet → List SpiMessage → Prop
  | _, [], messages => messages = []
  | sum, packet :: rest, messages =>
      ∃ message more, messages = message :: more ∧ sum + packet.bytes.length ≤ 999 ∧
        PassesOn message (if rest = [] then MsgType.lastPacket else MsgType.firstPacket) epAddr sum
          packet ∧
        Accumulated epAddr (packet.bytes.length + sum) rest more

/-- What the slave passes on while it takes in the packets of a transfer, unless it stops. -/
theorem Receiving.accumulated {packets : List Packet} {last : Core0} {h : Hcd}
    (hc : Receiving slot bit buffer control data epAddr size sum remaining c)
    (hother : ¬ IsControl epAddr) (hsize : size ≠ 0) (hsum : sum ≤ 999)
    (hsame : (h.epPool slot).bufferControl = some buffer) (haccepts : Accepts size remaining packets)
    (hrun : Machine.run step c (packets.flatMap fun packet =>
      [arrival h slot packet, .hcdIrq]) = some last) (hrunning : last.halted = none) :
    ∃ messages, last.slave.outbox = c.slave.outbox ++ messages ∧
      Accumulated epAddr sum packets messages := by
  induction packets generalizing c sum remaining with
  | nil => cases haccepts
  | cons packet rest ih =>
      obtain ⟨middle, harrive, harrived, houtbox⟩ := hc.arrive packet hsame
      rw [List.flatMap_cons, List.cons_append, Machine.run_cons, harrive, Option.bind_some,
        List.cons_append, List.nil_append, Machine.run_cons] at hrun
      by_cases hfits : sum + packet.bytes.length ≤ 999
      · unfold Accepts at haccepts
        split at haccepts
        · rename_i hends
          subst haccepts
          obtain ⟨next, message, hnext, -, hadded, hpasses⟩ := harrived.last hother hfits hends
          rw [hnext] at hrun
          cases hrun
          exact ⟨[message], hadded.trans (by rw [houtbox]), message, [], rfl, hfits, hpasses, rfl⟩
        · rename_i hgoes
          obtain ⟨hshort, hmore⟩ := not_or.mp hgoes
          have hsome : packet.bytes ≠ [] := by
            intro hempty
            rw [hempty] at hshort
            exact hshort (.inl (UInt16.pos_iff_ne_zero.mpr hsize))
          obtain ⟨next, message, hnext, hreceiving, hadded, hpasses⟩ :=
            harrived.more hother hfits hshort hmore hsome
          rw [hnext, Option.bind_some] at hrun
          obtain ⟨messages, hlast, haccumulated⟩ :=
            ih hreceiving (by omega) haccepts hrun
          have hrest : rest ≠ [] := by
            rintro rfl
            exact haccepts
          refine ⟨message :: messages, ?_, message, messages, rfl, hfits, ?_, haccumulated⟩
          · rw [hlast, hadded, houtbox, List.append_assoc]
            rfl
          · rw [if_neg hrest]
            exact hpasses
      · obtain ⟨next, hnext, hhalted⟩ := harrived.stops hother hsum (by omega)
        rw [hnext, Option.bind_some] at hrun
        exact absurd (running_before hrun hrunning) hhalted

end Run

/-! ## Starting the read -/

/-- A transfer is started on an endpoint behind `epx` when its engine starts. -/
theorem hcdEdptXfer_starts {h : Hcd} {epAddr : UInt8} {slot : Nat}
    (hslot : getDevEp h epAddr = some slot) (haddress : (h.epPool slot).epAddr = epAddr)
    {buffer : UserBuf} {buflen : UInt16} {c : Channel}
    (hstart : hwEndpointXferStart .slave buffer buflen (slotChannel slot h) = .ok () c)
    (devAddr : UInt8) :
    hcdEdptXfer devAddr epAddr buffer buflen h =
      .ok () { storeSlot slot h c with
        activeEp := some slot
        devAddrCtrl := devAddr.toBitVec.setWidth 32 |||
          (tuEdptNumber epAddr).toBitVec.setWidth 32 <<< 16
        sieCtrl := startDataFlags h epAddr } := by
  let active : Hcd := { h with activeEp := some slot }
  have hslotStart : onSlot slot (hwEndpointXferStart .slave buffer buflen) active =
      .ok () (storeSlot slot active c) := onSlot_ok hstart
  unfold hcdEdptXfer
  rw [Program.read_bind, hslot]
  show (Program.when _ _ >>= _) active = _
  rw [Program.when_false (not_not.mpr haddress.symm), Program.pure_bind]
  exact (Program.bind_ok hslotStart).trans rfl

/-- A read on an endpoint behind `epx` can always be started. -/
theorem hcdEdptXfer_slot {h : Hcd} {epAddr : UInt8} {slot : Nat}
    (hslot : getDevEp h epAddr = some slot) (haddress : (h.epPool slot).epAddr = epAddr)
    (hrx : (h.epPool slot).rx = true) (devAddr : UInt8) (buffer : UserBuf) (buflen : UInt16) :
    hcdEdptXfer devAddr epAddr buffer buflen h =
      .ok () { storeSlot slot h (startedChannel buffer buflen (slotChannel slot h)) with
        activeEp := some slot
        devAddrCtrl := devAddr.toBitVec.setWidth 32 |||
          (tuEdptNumber epAddr).toBitVec.setWidth 32 <<< 16
        sieCtrl := startDataFlags h epAddr } :=
  hcdEdptXfer_starts hslot haddress (hwEndpointXferStart_receive hrx buffer buflen) devAddr

theorem handleMessage_data {message : SpiMessage}
    (hkind : messageKind message = MsgType.usbData) :
    handleMessage message = handleUsbData message.payload := by
  unfold handleMessage
  rw [hkind, if_neg (by decide), if_neg (by decide), if_neg (by decide), if_pos rfl]

/-- The slave with the data of a message in the static buffer. -/
def filled (data : List UInt8) (s : Slave) : Slave :=
  withHcd { s with level := 3 } (withBugger s.hcd (s.hcd.memory.bugger.writeAt 0 data))

/-- The data of a message are copied to the static buffer, when they fit, and the transfer is
started. -/
theorem handleUsbData_apply {message : SpiMessage} {epAddr : UInt8} {data : List UInt8}
    (hmessage : AsksFor message epAddr data) (s : Slave) :
    handleUsbData message.payload s =
      if data.length ≤ 1000 then
        startXfer s.devAddr epAddr (.bugger 0) (UInt16.ofNat data.length) (filled data s)
      else .error .undefined { s with level := 3 } := by
  have hlast : message.payload.getLast? = some epAddr := by simp [hmessage.payload]
  have hfront : message.payload.dropLast = data := by simp [hmessage.payload]
  have hlength : message.payload.length - 1 = data.length := by simp [hmessage.payload]
  unfold handleUsbData
  rw [hlast, hfront, hlength]
  show (fillBugger 0 data >>= _) { s with level := 3 } = _
  split
  · rename_i hfits
    have hfill : fillBugger 0 data { s with level := 3 } = .ok () (filled data s) :=
      Program.require_bind (by simpa [buggerSize] using hfits) _ _ _
    exact (Program.bind_ok hfill).trans rfl
  · rename_i hlong
    exact Program.bind_error (Program.require_stops (by simpa [buggerSize] using hlong) _ _ _)

section Start

variable {c : Core0} {message : SpiMessage} {rest : List SpiMessage} {epAddr : UInt8}
  {data : List UInt8} {slot : Nat}

/-- The message at the front of `rx` is taken and handled. -/
theorem slavework_message (hrx : c.slave.rx.items = message :: rest)
    (hmessage : AsksFor message epAddr data) :
    ∃ taken : SpiQueue, taken.items = rest ∧ slavework c.slave =
      handleUsbData message.payload { c.slave with rx := taken } := by
  obtain ⟨taken, hitems⟩ : ∃ taken : SpiQueue, taken.items = rest := by
    refine ⟨⟨rest, ?_⟩, rfl⟩
    have hlimit := c.slave.rx.bounded
    rw [hrx, List.length_cons] at hlimit
    omega
  have hremove : c.slave.rx.remove = some (message, taken) :=
    Fifo.remove_eq_some.mpr (by rw [hrx, hitems])
  refine ⟨taken, hitems, ?_⟩
  unfold slavework
  rw [Program.read_bind, hremove]
  show handleMessage message _ = _
  rw [handleMessage_data hmessage.kind]

/-- A message with more data than the static buffer holds stops the core. -/
theorem slavework_long (hrunning : c.halted = none) (hrx : c.slave.rx.items = message :: rest)
    (hmessage : AsksFor message epAddr data) (hlong : ¬ data.length ≤ 1000) :
    ∃ next, step c .slavework = some next ∧ next.halted ≠ none := by
  obtain ⟨taken, -, hwork⟩ := slavework_message hrx hmessage
  rw [handleUsbData_apply hmessage, if_neg hlong] at hwork
  refine ⟨_, (step_running hrunning _).trans (congrArg some (runHandler_error hwork)), nofun⟩

/-- The registers of an open slot lead to its buffer. -/
theorem Registered.path {h : Hcd} {ep : HwEndpoint} (hregistered : Registered slot ep)
    (hshape : (h.epPool slot).shape = ep.shape) (hactive : h.activeEp = some slot) :
    ∃ bit buffer control offset, Path h slot bit buffer control offset := by
  have hbuffer := congrArg Shape.bufferControl hshape
  have hcontrol := congrArg Shape.endpointControl hshape
  have hdata := congrArg Shape.hwDataBuf hshape
  cases hregistered with
  | epx registers _ =>
      exact ⟨_, _, _, _, .shared ⟨hbuffer.trans registers.bufferControl,
        hcontrol.trans registers.endpointControl, hdata.trans registers.hwDataBuf⟩ hactive⟩
  | interrupt mem registers _ =>
      exact ⟨_, _, _, _, .own mem ⟨hbuffer.trans registers.bufferControl,
        hcontrol.trans registers.endpointControl, hdata.trans registers.hwDataBuf⟩⟩

/-- The read is started, and the controller waits for the first packet. -/
theorem slavework_receiving (hrest : AtRest c) (hpool : PoolOk c.slave.hcd)
    (hrx : c.slave.rx.items = message :: rest) (hmessage : AsksFor message epAddr data)
    (hfits : data.length ≤ 1000) (hin : tuEdptDirIn epAddr = true)
    (hnumber : tuEdptNumber epAddr ≠ 0) (hslot : getDevEp c.slave.hcd epAddr = some slot)
    (hserved : Served c.slave.hcd slot) :
    ∃ next bit buffer control offset, step c .slavework = some next ∧
      (c.slave.hcd.epPool slot).bufferControl = some buffer ∧
      next.slave.outbox = c.slave.outbox ∧
      Receiving slot bit buffer control offset epAddr (c.slave.hcd.epPool slot).wMaxPacketSize 0
        (UInt16.ofNat data.length -
          tuMin16 (UInt16.ofNat data.length) (c.slave.hcd.epPool slot).wMaxPacketSize) next := by
  obtain ⟨taken, -, hwork⟩ := slavework_message hrx hmessage
  rw [handleUsbData_apply hmessage, if_pos hfits] at hwork
  let ready := filled data { c.slave with rx := taken }
  have hready : ready.hcd.epPool = c.slave.hcd.epPool := rfl
  have hfound : slot ∈ interruptSlots ∧ (c.slave.hcd.epPool slot).configured = true ∧
      (c.slave.hcd.epPool slot).epAddr = epAddr := by
    refine (getDevEp_some hslot).resolve_left ?_
    rintro rfl
    unfold getDevEp at hslot
    rw [if_neg hnumber] at hslot
    exact absurd (interruptSlots_bounds (List.mem_of_find?_eq_some hslot)).1 (by decide)
  obtain ⟨-, hconfigured, haddress⟩ := hfound
  have hopened := (hpool slot).opened ((hpool slot).registers hconfigured)
  have hrx : (ready.hcd.epPool slot).rx = true := by
    rw [hready, hopened.direction, haddress, hin]
  have hxfer := hcdEdptXfer_slot (h := ready.hcd) hslot haddress hrx ready.devAddr (.bugger 0)
    (UInt16.ofNat data.length)
  let started := startedChannel (.bugger 0) (UInt16.ofNat data.length)
    (slotChannel slot ready.hcd)
  obtain ⟨hstart, hsetup, hreceive, -⟩ := startDataFlags_bits ready.hcd epAddr
  have hrun : slavework c.slave = .ok () (withHcd (withCall ready (.edptXfer epAddr)) _) :=
    hwork.trans (startXfer_ok (s := ready) hxfer)
  have hlength : (UInt16.ofNat data.length).toNat = data.length := by
    rw [UInt16.toNat_ofNat']
    omega
  have hshape : (storeSlot slot ready.hcd started).epPool slot = started.ep := storeSlot_same _ _ _
  obtain ⟨bit, buffer, control, offset, hpath⟩ := hopened.registered.path
    (h := { storeSlot slot ready.hcd started with activeEp := some slot })
    (by rw [show _ = started.ep from hshape]; rfl) rfl
  have hbuffer : (c.slave.hcd.epPool slot).bufferControl = some buffer := by
    have hkept := hpath.bufferControl
    rw [show _ = started.ep from hshape] at hkept
    exact hkept
  have hcontrol : (c.slave.hcd.epPool slot).endpointControl = some control := by
    have hkept := hpath.endpointControl
    rw [show _ = started.ep from hshape] at hkept
    exact hkept
  have hdata : (c.slave.hcd.epPool slot).hwDataBuf = some offset := by
    have hkept := hpath.hwDataBuf
    rw [show _ = started.ep from hshape] at hkept
    exact hkept
  have hbuffered : started.ep.bufferControl = some buffer := hbuffer
  have hword : started.memory.word buffer =
      armedWord (freshTransfer (.bugger 0) (UInt16.ofNat data.length)
        (c.slave.hcd.epPool slot)) := by
    show (Memory.writeWord _ started.ep.bufferControl _).word buffer = _
    rw [hbuffered, Memory.writeWord_same]
    rfl
  refine ⟨_, bit, buffer, control, offset,
    (step_running hrest.running _).trans (congrArg some (runHandler_ok hrun)), hbuffer, rfl,
    ⟨hrest.running, hrest.causes, hrest.bufStatus⟩, hpath.congr (by rfl) rfl, ?_, ?_, ?_, ?_,
    fun _ => ⟨hstart, hreceive.trans hin⟩, fun hother => ?_, hsetup⟩
  · show Transfer slot epAddr _ 0 _ ((storeSlot slot ready.hcd started).epPool slot)
    rw [hshape]
    refine ⟨haddress, hrx, rfl, rfl, rfl, rfl, ?_, rfl⟩
    rw [toNat_sub_tuMin16]
    omega
  · show PointsTo ((Memory.writeWord _ started.ep.bufferControl _).word control) offset
    rw [hbuffered, Memory.writeWord_other _ _ hpath.apart.1]
    exact hopened.control control offset hcontrol hdata
  · show hasBits (started.memory.word buffer) bufCtrlAvail = true
    rw [hword]
    exact armedWord_avail _
  · intro hlast
    have hlast : hasBits (started.memory.word buffer) bufCtrlLast = true := hlast
    rw [hword] at hlast
    have hzero := armedWord_last (Nat.le_trans (Nat.le_of_eq hlength) hfits) hlast
    exact hzero
  · refine hserved.resolve_left fun hepx => hother ?_
    exact Option.some.inj (hbuffer.symm.trans hepx)

end Start

/-- A read that takes one packet takes it as the last one. -/
theorem accepts_single {size remaining : UInt16} {packet : Packet}
    (haccepts : Accepts size remaining [packet]) :
    IsShort (UInt16.ofNat packet.bytes.length) size ∨ remaining = 0 := by
  unfold Accepts at haccepts
  split at haccepts
  · assumption
  · exact haccepts.elim

/-- Only the first message has the length of its packet, so there is no other. -/
theorem single_of_accumulated {size remaining : UInt16} (hsize : size ≠ 0) {epAddr : UInt8}
    {packets : List Packet} {messages : List SpiMessage} (haccepts : Accepts size remaining packets)
    (haccumulated : Accumulated epAddr 0 packets messages)
    (hpayloads : messages.map SpiMessage.payload =
      packets.map (fun packet => packet.bytes ++ [epAddr])) :
    ∃ packet, packets = [packet] ∧ packet.bytes.length ≤ 999 := by
  match packets, messages, haccepts, haccumulated, hpayloads with
  | [packet], _, _, ⟨_, _, _, hfits, _⟩, _ =>
      exact ⟨packet, rfl, by omega⟩
  | first :: second :: rest, _, haccepts, ⟨_, _, rfl, _, _, _, _, rfl, _, hpasses, _⟩, hpayloads =>
      exfalso
      obtain ⟨leftover, hleftover, hpayload⟩ := hpasses.payload
      have hsecond : second.bytes ++ leftover ++ [epAddr] = second.bytes ++ [epAddr] := by
        rw [← hpayload]
        exact (List.cons.inj (List.cons.inj hpayloads).2).1
      have hempty : first.bytes.length = 0 := by
        have hlengths := congrArg List.length hsecond
        simp only [List.length_append, hleftover] at hlengths
        omega
      have hshort : IsShort (UInt16.ofNat first.bytes.length) size := by
        rw [hempty]
        exact .inl (UInt16.pos_iff_ne_zero.mpr hsize)
      unfold Accepts at haccepts
      rw [if_pos (.inl hshort)] at haccepts
      cases haccepts

section Forwards

variable {romWord : BitVec 32} {events : List Event} {c : Core0} {message : SpiMessage}
  {rest : List SpiMessage} {epAddr : UInt8} {data : List UInt8} {slot : Nat} {size : UInt16}
  {packets : List Packet}

/-- A read that is forwarded packet by packet fits the static buffer and takes one packet. -/
theorem Forwards.single (hforwards : Forwards c slot epAddr packets) (hrest : AtRest c)
    (hpool : PoolOk c.slave.hcd) (hrx : c.slave.rx.items = message :: rest)
    (hmessage : AsksFor message epAddr data) (hin : tuEdptDirIn epAddr = true)
    (hnumber : tuEdptNumber epAddr ≠ 0) (hslot : getDevEp c.slave.hcd epAddr = some slot)
    (hserved : Served c.slave.hcd slot) (hsize : (c.slave.hcd.epPool slot).wMaxPacketSize = size)
    (hpositive : size ≠ 0) (haccepted : AcceptedBy size (UInt16.ofNat data.length) packets) :
    data.length ≤ 1000 ∧ ∃ packet, packets = [packet] ∧ packet.bytes.length ≤ 999 := by
  subst hsize
  obtain ⟨last, messages, hrun, hrunning, houtbox, hpayloads, -⟩ := hforwards
  unfold dataRead at hrun
  by_cases hfits : data.length ≤ 1000
  · refine ⟨hfits, ?_⟩
    obtain ⟨next, bit, buffer, control, offset, hstart, hsame, hsent, hreceiving⟩ :=
      slavework_receiving hrest hpool hrx hmessage hfits hin hnumber hslot hserved
    rw [Machine.run_cons, hstart, Option.bind_some] at hrun
    obtain ⟨others, hothers, haccumulated⟩ := hreceiving.accumulated hnumber hpositive
      (by decide) hsame haccepted hrun hrunning
    have hmessages : others = messages := by
      rw [hsent, houtbox] at hothers
      exact (List.append_cancel_left hothers).symm
    subst hmessages
    exact single_of_accumulated hpositive haccepted haccumulated hpayloads
  · obtain ⟨next, hstart, hhalted⟩ := slavework_long hrest.running hrx hmessage hfits
    rw [Machine.run_cons, hstart, Option.bind_some] at hrun
    exact absurd (running_before hrun hrunning) hhalted

/-- A read that fits the static buffer and takes one packet is forwarded. -/
theorem forwards_of_single {packet : Packet} (hrest : AtRest c) (hpool : PoolOk c.slave.hcd)
    (hrx : c.slave.rx.items = message :: rest) (hmessage : AsksFor message epAddr data)
    (hin : tuEdptDirIn epAddr = true) (hnumber : tuEdptNumber epAddr ≠ 0)
    (hslot : getDevEp c.slave.hcd epAddr = some slot) (hserved : Served c.slave.hcd slot)
    (hsize : (c.slave.hcd.epPool slot).wMaxPacketSize = size)
    (haccepted : AcceptedBy size (UInt16.ofNat data.length) [packet])
    (hfits : data.length ≤ 1000) (hlength : packet.bytes.length ≤ 999) :
    Forwards c slot epAddr [packet] := by
  subst hsize
  obtain ⟨next, bit, buffer, control, offset, hstart, hsame, hsent, hreceiving⟩ :=
    slavework_receiving hrest hpool hrx hmessage hfits hin hnumber hslot hserved
  obtain ⟨middle, harrive, harrived, houtbox⟩ := hreceiving.arrive packet hsame
  obtain ⟨last, sent, hlast, hrunning, hadded, hpasses⟩ :=
    harrived.last hnumber (by omega) (accepts_single haccepted)
  obtain ⟨leftover, hnone, hpayload⟩ := hpasses.payload
  refine ⟨last, [sent], ?_, hrunning, ?_, ?_, [], sent, rfl, ?_, nofun⟩
  · unfold dataRead
    rw [Machine.run_cons, hstart, Option.bind_some]
    show Machine.run step next [arrival c.slave.hcd slot packet, .hcdIrq] = some last
    rw [Machine.run_cons, harrive, Option.bind_some, Machine.run_cons, hlast]
    rfl
  · rw [hadded, houtbox, hsent]
  · rw [List.eq_nil_of_length_eq_zero hnone, List.append_nil] at hpayload
    simp [hpayload]
  · rw [hpasses.flag]
    decide

/-- A read is forwarded packet by packet exactly when it fits the static buffer and its first
packet is its last. -/
theorem forwards_iff (hreach : Machine.run step (.init romWord) events = some c)
    (hrest : AtRest c) (hrx : c.slave.rx.items = message :: rest)
    (hmessage : AsksFor message epAddr data) (hin : tuEdptDirIn epAddr = true)
    (hnumber : tuEdptNumber epAddr ≠ 0) (hslot : getDevEp c.slave.hcd epAddr = some slot)
    (hserved : Served c.slave.hcd slot) (hsize : (c.slave.hcd.epPool slot).wMaxPacketSize = size)
    (hpositive : size ≠ 0) (haccepted : AcceptedBy size (UInt16.ofNat data.length) packets) :
    Forwards c slot epAddr packets ↔
      data.length ≤ 1000 ∧ ∃ packet, packets = [packet] ∧ packet.bytes.length ≤ 999 := by
  have hpool := poolOk_of_run hreach hrest.running
  constructor
  · intro hforwards
    exact hforwards.single hrest hpool hrx hmessage hin hnumber hslot hserved hsize hpositive
      haccepted
  · rintro ⟨hfits, packet, rfl, hlength⟩
    exact forwards_of_single hrest hpool hrx hmessage hin hnumber hslot hserved hsize haccepted
      hfits hlength

end Forwards

/-! ## A read of sixteen bytes in packets of eight -/

/-- The master opens a bulk endpoint and asks for sixteen bytes. -/
def bulkRead : List Event :=
  [.receive ⟨MsgType.edptOpen, [7, 5, 0x81, 2, 8, 0, 0], by decide⟩, .slavework,
    .receive ⟨MsgType.usbData, List.replicate 16 0 ++ [0x81], by decide⟩]

theorem bulkRead_ready : ∃ c, Machine.run step (.init 0) bulkRead = some c ∧ AtRest c ∧
    c.slave.rx.items = [⟨MsgType.usbData, List.replicate 16 0 ++ [0x81], by decide⟩] ∧
    getDevEp c.slave.hcd 0x81 = some 1 ∧ Served c.slave.hcd 1 ∧
    (c.slave.hcd.epPool 1).wMaxPacketSize = 8 := by
  have hends : ∃ c, Machine.run step (.init 0) bulkRead = some c ∧ c.halted = none ∧
      c.causes = [] ∧ c.slave.hcd.bufStatus = 0 ∧
      c.slave.rx.items = [⟨MsgType.usbData, List.replicate 16 0 ++ [0x81], by decide⟩] ∧
      getDevEp c.slave.hcd 0x81 = some 1 ∧
      (c.slave.hcd.epPool 1).bufferControl = some epxBufCtrl ∧
      (c.slave.hcd.epPool 1).wMaxPacketSize = 8 := Machine.exists_run_of_any (by decide +kernel)
  obtain ⟨c, hrun, hrunning, hcauses, hstatus, hrx, hslot, hepx, hsize⟩ := hends
  refine ⟨c, hrun, ⟨hrunning, ?_, hstatus⟩, hrx, hslot, .inl hepx, hsize⟩
  rw [hcauses]
  exact nofun

theorem shortPacket_forwarded : ∃ c, Machine.run step (.init 0) bulkRead = some c ∧
    Forwards c 1 0x81 [packetOf [85, 83, 66] (by decide)] := by
  obtain ⟨c, hrun, hrest, hrx, hslot, hserved, hsize⟩ := bulkRead_ready
  have hmessage : AsksFor ⟨MsgType.usbData, List.replicate 16 0 ++ [0x81], by decide⟩ 0x81
      (List.replicate 16 0) := ⟨by decide, rfl⟩
  refine ⟨c, hrun, (forwards_iff hrun hrest hrx hmessage (by decide) (by decide) hslot hserved
    hsize (by decide) (by decide)).mpr ⟨by decide, ?_⟩⟩
  exact ⟨_, rfl, by decide⟩

/-- Two packets of eight bytes are passed on as eight and as sixteen bytes. -/
theorem twoPackets_not_forwarded :
    ¬ ∀ (romWord : BitVec 32) (events : List Event) (c : Core0) (message : SpiMessage)
      (rest : List SpiMessage) (epAddr : UInt8) (data : List UInt8) (slot : Nat) (size : UInt16)
      (packets : List Packet), Machine.run step (.init romWord) events = some c → AtRest c →
      c.slave.rx.items = message :: rest → AsksFor message epAddr data → data ≠ [] →
      tuEdptDirIn epAddr = true → tuEdptNumber epAddr ≠ 0 →
      getDevEp c.slave.hcd epAddr = some slot → Served c.slave.hcd slot →
      (c.slave.hcd.epPool slot).wMaxPacketSize = size → size ≠ 0 →
      (∀ packet ∈ packets, packet.bytes.length ≤ size.toNat) →
      AcceptedBy size (UInt16.ofNat data.length) packets → Forwards c slot epAddr packets := by
  intro hclaim
  let packets : List Packet := [packetOf (List.replicate 8 1) (by decide),
    packetOf (List.replicate 8 2) (by decide)]
  obtain ⟨c, hrun, hrest, hrx, hslot, hserved, hsize⟩ := bulkRead_ready
  have hmessage : AsksFor ⟨MsgType.usbData, List.replicate 16 0 ++ [0x81], by decide⟩ 0x81
      (List.replicate 16 0) := ⟨by decide, rfl⟩
  have haccepted : AcceptedBy 8 16 packets := by decide
  have hforwards := hclaim 0 bulkRead c _ [] 0x81 _ 1 8 packets hrun hrest hrx hmessage
    (by decide) (by decide) (by decide) hslot hserved hsize (by decide) (by decide) haccepted
  obtain ⟨-, packet, hsingle, -⟩ := hforwards.single hrest (poolOk_of_run hrun hrest.running) hrx
    hmessage (by decide) (by decide) hslot hserved hsize (by decide) haccepted
  cases (congrArg List.length hsingle : 2 = 1)

end UsbSec.Host
