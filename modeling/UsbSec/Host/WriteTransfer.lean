import UsbSec.Host.CompletionLength
import UsbSec.Host.TransferToggle
import UsbSec.Rp2040.Exchange

/-!
# What a write sends

The first buffer of a write holds as many bytes of the message as fit a packet, but the length in
its buffer control word is that of the whole message. A message of at most one packet is sent
exactly; of a longer one the controller sends all at once, with bytes behind the packet that were
never copied. A message of 1000 bytes leaves no room for the endpoint address of the reply.
-/

namespace UsbSec.Host

open Library Usb Rp2040

/-! ## The bytes that are sent -/

/-- The bytes that the controller sends from the buffer of the endpoint in a slot: as many as the
buffer control word says, from where the endpoint control register points. -/
def packetBytes (h : Hcd) (slot : Nat) : List UInt8 :=
  h.memory.data.bytesAt
    (h.memory.readWord (h.epPool slot).endpointControl &&& 0xffc0#32).toNat
    (bufLen (h.memory.readWord (h.epPool slot).bufferControl)).toNat

/-- The controller sends a packet and the handler runs. -/
def sendStep (slot : Nat) (m : Core0) (packet : List UInt8) : Option Core0 :=
  if packetBytes m.slave.hcd slot = packet then packetStep slot m .sent else none

theorem sendStep_eq_some {slot : Nat} {m next : Core0} {packet : List UInt8} :
    sendStep slot m packet = some next ↔
      packetBytes m.slave.hcd slot = packet ∧ packetStep slot m .sent = some next :=
  Option.ite_none_right_eq_some

/-- The message is sent byte for byte in packets that fit the packet size, and the completion
reports its length. -/
def SendsExactly (slot : Nat) (epAddr : UInt8) (message : SpiMessage) (bytes : List UInt8)
    (c : Core0) : Prop :=
  ∃ started packets last, Machine.run step c [.receive message, .slavework] = some started ∧
    Machine.run (sendStep slot) started packets = some last ∧ last.halted = none ∧
    (last.slave.hcd.epPool slot).active = false ∧ packets.flatten = bytes ∧
    (∀ packet ∈ packets, packet.length ≤ (c.slave.hcd.epPool slot).wMaxPacketSize.toNat) ∧
    ∃ calls level reply, last.slave.calls = calls ++
      [.xferComplete epAddr level (UInt16.ofNat bytes.length) .success, .sendEvent reply]

section Write

variable {slot buffer control data : Nat} {bit : BitVec 32} {epAddr : UInt8}
  {bytes : List UInt8} {c next : Core0} {h : Hcd}

theorem Path.packetBytes (hpath : Path h slot bit buffer control data)
    (hcontrol : PointsTo (h.memory.word control) data) :
    packetBytes h slot = h.memory.data.bytesAt data (bufLen (h.memory.word buffer)).toNat := by
  unfold Host.packetBytes
  rw [hpath.bufferControl, hpath.endpointControl]
  exact congrArg (h.memory.data.bytesAt · _) hcontrol.offset

/-! ## A message of at most one packet -/

/-- The buffer holds the whole message. -/
structure Writing (slot : Nat) (bit : BitVec 32) (buffer control data : Nat) (epAddr : UInt8)
    (bytes : List UInt8) (c : Core0) : Prop where
  rest : AtRest c
  path : Path c.slave.hcd slot bit buffer control data
  control : PointsTo (c.slave.hcd.memory.word control) data
  noSetup : hasBits c.slave.hcd.sieCtrl sieCtrlSendSetup = false
  started : hasBits c.slave.hcd.sieCtrl sieCtrlStartTrans = true ∧
    hasBits c.slave.hcd.sieCtrl sieCtrlSendData = true
  epAddr : (c.slave.hcd.epPool slot).epAddr = epAddr
  direction : (c.slave.hcd.epPool slot).rx = false
  whole : (c.slave.hcd.epPool slot).isPartial = false
  xferredLen : (c.slave.hcd.epPool slot).xferredLen = 0
  remainingLen : (c.slave.hcd.epPool slot).remainingLen = 0
  available : hasBits (c.slave.hcd.memory.word buffer) bufCtrlAvail = true
  full : hasBits (c.slave.hcd.memory.word buffer) bufCtrlFull = true
  length : bufLen (c.slave.hcd.memory.word buffer) = UInt16.ofNat bytes.length
  small : bytes.length ≤ 1000
  loaded : c.slave.hcd.memory.data.bytesAt data bytes.length = bytes

theorem Writing.bytes_sent (hc : Writing slot bit buffer control data epAddr bytes c) :
    packetBytes c.slave.hcd slot = bytes := by
  have hsmall := hc.small
  have hlength : (UInt16.ofNat bytes.length).toNat = bytes.length := by
    rw [UInt16.toNat_ofNat']
    omega
  rw [hc.path.packetBytes hc.control, hc.length, hlength]
  exact hc.loaded

/-- The controller sends the packet. -/
theorem Writing.exchanged (hc : Writing slot bit buffer control data epAddr bytes c) :
    ∃ hcd, exchanged c.slave.hcd slot .sent = some hcd ∧
      hcd.memory.word buffer = sentWord (c.slave.hcd.memory.word buffer) := by
  have hbuffer := hc.path.bufferControl
  have hstarted := hc.started
  cases hc.path with
  | shared registers active =>
      have hsends : DataStarted c.slave.hcd sieCtrlSendData ∧
          hasBits (c.slave.hcd.memory.word epxBufCtrl) bufCtrlFull = true :=
        ⟨⟨hstarted.1, hc.noSetup, hstarted.2, hc.available⟩, hc.full⟩
      have hword : (emptyEpx c.slave.hcd).memory.word epxBufCtrl =
          sentWord (c.slave.hcd.memory.word epxBufCtrl) := Memory.writeWord_same _ _ _
      refine ⟨_, (if_pos hbuffer).trans (if_pos hsends), ?_⟩
      split
      · exact hword
      · exact hword
  | own mem registers =>
      have hother : (c.slave.hcd.epPool slot).bufferControl ≠ some epxBufCtrl := by
        rw [hbuffer]
        intro hsame
        have hvalue : 0x88 + 8 * (slot - 1) = 0x80 := Option.some.inj hsame
        omega
      exact ⟨_, (if_neg hother).trans (if_pos ⟨mem, hc.available, hc.full⟩),
        Memory.writeWord_same _ _ _⟩

/-- The transfer is complete with the packet, and its length is reported. -/
theorem Writing.handled {hcd : Hcd} (hc : Writing slot bit buffer control data epAddr bytes c)
    (hother : ¬ IsControl epAddr) (hpacket : PacketDone bit buffer c.slave.hcd hcd)
    (hword : hcd.memory.word buffer = sentWord (c.slave.hcd.memory.word buffer)) :
    ∃ e : Channel, e.ep.xferredLen = UInt16.ofNat bytes.length ∧ e.ep.epAddr = epAddr ∧
      handleBuffStatusBit bit slot (c.withController hcd).slave =
        sendEventToMaster (UInt16.ofNat bytes.length) epAddr MsgType.lastPacket
          (completed slot .success (slotHandled bit slot e (c.withController hcd).slave)) := by
  let length := UInt16.ofNat bytes.length
  have hep : hcd.epPool slot = c.slave.hcd.epPool slot := congrFun hpacket.epPool slot
  let taken : Channel := slotChannel slot hcd
  let e : Channel := { taken with ep := { taken.ep with xferredLen := taken.ep.xferredLen + length } }
  have hbuffer : taken.memory.readWord taken.ep.bufferControl = hcd.memory.word buffer := by
    rw [show taken.ep = c.slave.hcd.epPool slot from hep, hc.path.bufferControl]
    rfl
  have hcontrol : taken.memory.readWord taken.ep.endpointControl = hcd.memory.word control := by
    rw [show taken.ep = c.slave.hcd.epPool slot from hep, hc.path.endpointControl]
    rfl
  have hempty : hasBits (hcd.memory.word buffer) bufCtrlFull = false := by
    rw [hword]
    exact hasBits_cleared (by decide)
  have hlength : bufLen (hcd.memory.word buffer) = length := by
    rw [hword]
    exact (bufLen_taken _).trans hc.length
  have hsingle : hasBits (hcd.memory.word control) epCtrlDoubleBuffered = false := by
    rw [hpacket.word _ hc.path.apart.1]
    exact hc.control.single
  have hcontinue : hwEndpointXferContinue .slave taken = .ok true e := by
    refine hwEndpointXferContinue_sent ?_ ?_ ?_ ?_ ?_ ?_
    · exact (congrArg HwEndpoint.rx hep).trans hc.direction
    · exact (congrArg HwEndpoint.isPartial hep).trans hc.whole
    · exact (congrArg HwEndpoint.remainingLen hep).trans hc.remainingLen
    · rw [hbuffer]
      exact hempty
    · rw [hbuffer]
      exact hlength
    · rw [hcontrol]
      exact hsingle
  have hxferred : e.ep.xferredLen = length := by
    show (hcd.epPool slot).xferredLen + length = length
    rw [hep, hc.xferredLen, UInt16.zero_add]
  have haddress : e.ep.epAddr = epAddr := (congrArg HwEndpoint.epAddr hep).trans hc.epAddr
  let s := (c.withController hcd).slave
  have hslot : (slotHandled bit slot e s).hcd.epPool slot = e.ep := storeSlot_same _ _ _
  have hengine : onSlot slot (hwEndpointXferContinue .slave)
      { s.hcd with bufStatus := s.hcd.bufStatus &&& ~~~bit } = .ok true _ := onSlot_ok hcontinue
  refine ⟨e, hxferred, haddress, ?_⟩
  unfold handleBuffStatusBit
  rw [Program.update_bind]
  refine (Program.bind_ok (onHcd_ok hengine)).trans ?_
  refine (hwXferComplete_data (s := slotHandled bit slot e s) ?_ (.inl rfl)).trans ?_
  · rw [hslot, haddress]
    exact hother
  · rw [hslot, haddress, hxferred]
    rfl

/-- A message of at most 999 bytes is reported. -/
theorem Writing.reported (hc : Writing slot bit buffer control data epAddr bytes c)
    (hother : ¬ IsControl epAddr) (hshort : bytes.length ≤ 999) :
    ∃ last, packetStep slot c .sent = some last ∧ last.halted = none ∧
      (last.slave.hcd.epPool slot).active = false ∧
      ∃ reply, last.slave.calls = c.slave.calls ++
        [.xferComplete epAddr c.slave.level (UInt16.ofNat bytes.length) .success,
          .sendEvent reply] := by
  obtain ⟨hcd, hexchange, hword⟩ := hc.exchanged
  have hpacket := exchanged_done hc.path hexchange
  obtain ⟨e, hxferred, haddress, hrun⟩ := hc.handled hother hpacket hword
  have hlength : (UInt16.ofNat bytes.length).toNat < 1000 := by
    rw [UInt16.toNat_ofNat']
    omega
  let s := (c.withController hcd).slave
  obtain ⟨reply, bugger, -, -, hsend⟩ := sendEventToMaster_ok hlength epAddr MsgType.lastPacket
    (completed slot .success (slotHandled bit slot e s))
  have hslot : (slotHandled bit slot e s).hcd.epPool slot = e.ep := storeSlot_same _ _ _
  have hbits : hcd.bufStatus = bit := by
    rw [hpacket.bufStatus, hc.rest.bufStatus]
    exact BitVec.zero_or
  have hpath : Path s.hcd slot bit buffer control data :=
    hc.path.congr (by rw [show s.hcd.epPool = c.slave.hcd.epPool from hpacket.epPool])
      hpacket.activeEp
  have hirq := hpath.hcdIrq_ok (c := c.withController hcd) hc.rest.running hc.rest.causes hbits
    (hrun.trans hsend) (hpacket.noSetup hc.noSetup)
  refine ⟨_, packetStep_eq_some.mpr ⟨hcd, hexchange, hirq⟩, hc.rest.running, ?_, reply, ?_⟩
  · show ((completed slot .success (slotHandled bit slot e s)).hcd.epPool slot).active = false
    exact congrArg HwEndpoint.active (storeSlot_same _ _ _)
  · show c.slave.calls ++ [.xferComplete ((slotHandled bit slot e s).hcd.epPool slot).epAddr
      c.slave.level ((slotHandled bit slot e s).hcd.epPool slot).xferredLen .success] ++
        [.sendEvent reply] = _
    rw [hslot, haddress, hxferred, List.append_assoc]
    rfl

/-- A message of 1000 bytes leaves no room for the endpoint address of the reply. -/
theorem Writing.stops (hc : Writing slot bit buffer control data epAddr bytes c)
    (hother : ¬ IsControl epAddr) (hlong : 1000 ≤ bytes.length) :
    ∃ last, packetStep slot c .sent = some last ∧ last.halted ≠ none := by
  obtain ⟨hcd, hexchange, hword⟩ := hc.exchanged
  have hpacket := exchanged_done hc.path hexchange
  obtain ⟨e, -, -, hrun⟩ := hc.handled hother hpacket hword
  have hsmall := hc.small
  have hlength : 1000 ≤ (UInt16.ofNat bytes.length).toNat := by
    rw [UInt16.toNat_ofNat']
    omega
  have hbits : hcd.bufStatus = bit := by
    rw [hpacket.bufStatus, hc.rest.bufStatus]
    exact BitVec.zero_or
  have hpath : Path hcd slot bit buffer control data :=
    hc.path.congr (by rw [hpacket.epPool]) hpacket.activeEp
  obtain ⟨last, hirq, hhalted⟩ := hpath.hcdIrq_stops (c := c.withController hcd) hc.rest.running
    hbits (hrun.trans (sendEventToMaster_long hlength _ _ _))
  exact ⟨last, packetStep_eq_some.mpr ⟨hcd, hexchange, hirq⟩, hhalted⟩

/-! ## The start -/

/-- The word of the first buffer names the length of the whole message. -/
theorem freshChannel_word {slot : Nat} {length : UInt16} {h : Hcd} (hsmall : length.toNat < 1024) :
    let word := Rp2040.bufferWord .slave (freshChannel slot length h).ep
    bufLen word = length ∧ hasBits word bufCtrlAvail = true ∧
      hasBits word bufCtrlFull = !(h.epPool slot).rx := by
  intro word
  obtain ⟨havail, -, -, hfull, -, hmask⟩ := wordFlags_bits .slave (freshChannel slot length h).ep
  have hlen : (wordLen .slave (freshChannel slot length h).ep).toNat < 1024 := hsmall
  refine ⟨bufLen_lenBits_or hlen hmask, ?_, ?_⟩
  · show hasBits (lenBits _ ||| wordFlags _ _) bufCtrlAvail = true
    rw [hasBits_or, havail, Bool.or_true]
  · show hasBits (lenBits _ ||| wordFlags _ _) bufCtrlFull = _
    rw [hasBits_or, hasBits_lenBits hlen (by decide), hfull]
    rfl

/-- A message of at most one packet is copied to the buffer. -/
theorem transferStarted_loaded {h : Hcd} {devAddr : UInt8}
    (harmed : FirstArmed devAddr epAddr slot (UInt16.ofNat bytes.length) h bit buffer control data)
    (hrx : (h.epPool slot).rx = false) (hbugger : h.memory.bugger.bytesAt 0 bytes.length = bytes)
    (hsmall : bytes.length ≤ 1000)
    (hfits : bytes.length ≤ (h.epPool slot).wMaxPacketSize.toNat) :
    CanLoadNext .slave (freshChannel slot (UInt16.ofNat bytes.length) h).ep ∧
      (transferStarted devAddr epAddr slot (UInt16.ofNat bytes.length) h).memory.data.bytesAt data
        bytes.length = bytes := by
  let length := UInt16.ofNat bytes.length
  let fresh := freshChannel slot length h
  have hlength : length.toNat = bytes.length := by
    rw [UInt16.toNat_ofNat']
    omega
  have hnext : fresh.ep.nextLen.toNat = bytes.length := by
    have hle : length ≤ (h.epPool slot).wMaxPacketSize := by
      rw [UInt16.le_iff_toNat_le, hlength]
      exact hfits
    show (tuMin16 length (h.epPool slot).wMaxPacketSize).toNat = _
    rw [tuMin16_of_le hle, hlength]
  have hdata : fresh.ep.hwDataBuf = some data := by
    have hpath := harmed.path.hwDataBuf
    rw [harmed.ep] at hpath
    exact hpath
  have hlimit := harmed.path.apart.2
  refine ⟨fun _ => ⟨?_, ?_⟩, ?_⟩
  · rw [hnext]
    show 0 + 0 + bytes.length ≤ 1000
    omega
  · rw [hnext]
    show Rp2040.HasRoom fresh.ep.hwDataBuf bytes.length
    rw [hdata]
    show data + bytes.length ≤ usbDpramMax
    omega
  · show ((nextLoaded .slave fresh).writeWord fresh.ep.bufferControl _).data.bytesAt data _ = bytes
    have hrxFresh : fresh.ep.rx = false := hrx
    have hsource : (nextSource .slave fresh.ep).bytes fresh.memory fresh.ep.nextLen.toNat = bytes := by
      rw [hnext]
      exact hbugger
    rw [Memory.writeWord_data, nextLoaded, if_neg (by simp [hrxFresh]), hsource, hdata]
    exact Buffer.bytesAt_writeAt_same _ _ _

/-- The slave after the message of a transfer on an OUT endpoint was handled. -/
def asked (epAddr : UInt8) (slot : Nat) (bytes : List UInt8) (queue : SpiQueue) (c : Core0) :
    Core0 :=
  { c with slave := dataStarted epAddr slot bytes { c.slave with rx := queue } }

theorem BetweenTransfers.armed {size : UInt16} (hc : BetweenTransfers slot epAddr size c)
    (hother : ¬ IsControl epAddr) (bytes : List UInt8) (queue : SpiQueue) :
    ∃ bit buffer control data, FirstArmed c.slave.devAddr epAddr slot (UInt16.ofNat bytes.length)
      (filled bytes { c.slave with rx := queue }).hcd bit buffer control data := by
  let ready := (filled bytes { c.slave with rx := queue }).hcd
  have hpool : PoolOk ready := hc.pool.of_samePool (.of_eq rfl rfl)
  have hfound : getDevEp ready epAddr = some slot := hc.found
  exact transferStarted_armed hpool hfound hother c.slave.devAddr (UInt16.ofNat bytes.length)

theorem BetweenTransfers.direction {size : UInt16} (hc : BetweenTransfers slot epAddr size c)
    (hother : ¬ IsControl epAddr) : (c.slave.hcd.epPool slot).rx = tuEdptDirIn epAddr := by
  obtain ⟨-, hconfigured, haddress⟩ := getDevEp_other hc.found hother
  have hopened := (hc.pool slot).opened ((hc.pool slot).registers hconfigured)
  rw [hopened.direction, haddress]

/-- A message of at most one packet is in the buffer when it was handled. -/
theorem BetweenTransfers.writing {size : UInt16} (hc : BetweenTransfers slot epAddr size c)
    (hother : ¬ IsControl epAddr) (hout : tuEdptDirIn epAddr = false)
    (hsmall : bytes.length ≤ 1000) (hfits : bytes.length ≤ size.toNat) (queue : SpiQueue) :
    CanLoadNext .slave (freshChannel slot (UInt16.ofNat bytes.length)
        (filled bytes { c.slave with rx := queue }).hcd).ep ∧
      ∃ bit buffer control data,
        Writing slot bit buffer control data epAddr bytes (asked epAddr slot bytes queue c) := by
  obtain ⟨bit, buffer, control, data, harmed⟩ := hc.armed hother bytes queue
  let ready := (filled bytes { c.slave with rx := queue }).hcd
  have hrx : (ready.epPool slot).rx = false := (hc.direction hother).trans hout
  have hlength : (UInt16.ofNat bytes.length).toNat = bytes.length := by
    rw [UInt16.toNat_ofNat']
    omega
  have hle : UInt16.ofNat bytes.length ≤ (ready.epPool slot).wMaxPacketSize := by
    rw [show (ready.epPool slot).wMaxPacketSize = size from hc.size, UInt16.le_iff_toNat_le, hlength]
    exact hfits
  have hbugger : ready.memory.bugger.bytesAt 0 bytes.length = bytes :=
    Buffer.bytesAt_writeAt_same c.slave.hcd.memory.bugger 0 bytes
  obtain ⟨hcan, hloaded⟩ := transferStarted_loaded harmed hrx hbugger hsmall
    (by rw [show (ready.epPool slot).wMaxPacketSize = size from hc.size]; exact hfits)
  obtain ⟨hlen, havail, hfull⟩ := freshChannel_word (h := ready)
    (show (UInt16.ofNat bytes.length).toNat < 1024 by omega)
  obtain ⟨hstart, hsetup, -, hsend⟩ := startDataFlags_bits ready epAddr
  have hep := harmed.ep
  have hremaining : ((asked epAddr slot bytes queue c).slave.hcd.epPool slot).remainingLen = 0 := by
    refine (congrArg HwEndpoint.remainingLen hep).trans ?_
    show UInt16.ofNat bytes.length -
      tuMin16 (UInt16.ofNat bytes.length) (ready.epPool slot).wMaxPacketSize = 0
    rw [tuMin16_of_le hle, UInt16.sub_self]
  refine ⟨hcan, bit, buffer, control, data, ⟨hc.rest.running, hc.rest.causes, hc.rest.bufStatus⟩,
    harmed.path, harmed.control, hsetup, ⟨hstart, hsend.trans (by rw [hout]; rfl)⟩, ?_, ?_,
    congrArg HwEndpoint.isPartial hep, congrArg HwEndpoint.xferredLen hep, hremaining, ?_, ?_, ?_,
    hsmall, hloaded⟩
  · exact (congrArg HwEndpoint.epAddr hep).trans (getDevEp_other hc.found hother).2.2
  · exact (congrArg HwEndpoint.rx hep).trans hrx
  · exact (congrArg (hasBits · bufCtrlAvail) harmed.word).trans havail
  · refine (congrArg (hasBits · bufCtrlFull) harmed.word).trans (hfull.trans ?_)
    rw [hrx]
    rfl
  · exact (congrArg bufLen harmed.word).trans hlen

/-! ## When a message is sent exactly -/

/-- What the controller sends are packets of the transfer. -/
theorem sends_run {packets : List (List UInt8)}
    (hrun : Machine.run (sendStep slot) c packets = some next) :
    Machine.run (packetStep slot) c (packets.map fun _ => .sent) = some next := by
  induction packets generalizing c with
  | nil => exact hrun
  | cons packet rest ih =>
      obtain ⟨middle, hstep, hrest⟩ := Machine.run_cons_eq_some.mp hrun
      exact Machine.run_cons_eq_some.mpr ⟨middle, (sendStep_eq_some.mp hstep).2, ih hrest⟩

/-- A message of at most one packet and at most 999 bytes is sent exactly. -/
theorem BetweenTransfers.sends {size : UInt16} {message : SpiMessage}
    (hc : BetweenTransfers slot epAddr size c) (hother : ¬ IsControl epAddr)
    (hout : tuEdptDirIn epAddr = false) (hmessage : AsksFor message epAddr bytes)
    (hsmall : bytes.length ≤ 999) (hfits : bytes.length ≤ size.toNat) :
    SendsExactly slot epAddr message bytes c := by
  let waiting : SpiQueue := ⟨[message], Nat.succ_le_of_lt (by decide)⟩
  have hadd : c.slave.rx.add message = some waiting := by
    rw [Fifo.add_eq_some, hc.rx]
    exact ⟨by decide, rfl⟩
  let received : Core0 := { c with slave := { c.slave with rx := waiting } }
  have hreceive : step c (.receive message) = some received := by
    rw [step_running hc.rest.running]
    show (c.slave.rx.add message).map _ = _
    rw [hadd]
    rfl
  obtain ⟨queue, -, hwork⟩ := slavework_message (show received.slave.rx.items = message :: [] from rfl) hmessage
  obtain ⟨hcan, bit, buffer, control, data, hwriting⟩ :=
    hc.writing hother hout (by omega) hfits queue
  have hslot : getDevEp c.slave.hcd epAddr = some slot := hc.found
  have hdata := handleUsbData_outcome (s := { c.slave with rx := queue }) hmessage hslot
    (getDevEp_other hslot hother).2.2
  have hhandled := hdata.mono (E := fun _ => False) (fun _ _ h => h)
    fun _ hnot => hnot ⟨by omega, hcan⟩
  obtain ⟨_, t, hrun, -, -, rfl⟩ := hhandled.exists_ok
  have hreceivedRuns : received.halted = none := hc.rest.running
  have hstep : step received .slavework = some (asked epAddr slot bytes queue c) :=
    (step_running hreceivedRuns _).trans (congrArg some (runHandler_ok (hwork.trans hrun)))
  obtain ⟨last, hpacket, hrunning, hinactive, reply, hcalls⟩ := hwriting.reported hother hsmall
  have hbytes := hwriting.bytes_sent
  have hsend : Machine.run (sendStep slot) (asked epAddr slot bytes queue c) [bytes] = some last :=
    Machine.run_cons_eq_some.mpr ⟨last, sendStep_eq_some.mpr ⟨hbytes, hpacket⟩, rfl⟩
  refine ⟨_, [bytes], last, ?_, hsend, hrunning, hinactive, List.append_nil _, ?_, _, _, reply,
    hcalls⟩
  · exact Machine.run_cons_eq_some.mpr ⟨received, hreceive,
      Machine.run_cons_eq_some.mpr ⟨_, hstep, rfl⟩⟩
  · intro packet hmem
    rw [List.mem_singleton.mp hmem, hc.size]
    exact hfits

/-- The first packet has the length of the whole message. -/
theorem BetweenTransfers.sends_length {size : UInt16} {message : SpiMessage}
    (hc : BetweenTransfers slot epAddr size c) (hother : ¬ IsControl epAddr)
    (hout : tuEdptDirIn epAddr = false) (hmessage : AsksFor message epAddr bytes)
    (hsends : SendsExactly slot epAddr message bytes c) :
    bytes.length ≤ size.toNat ∧ bytes.length ≤ 999 := by
  obtain ⟨started, packets, last, hstart, hrun, hrunning, hinactive, -, hshort, -⟩ := hsends
  obtain ⟨received, hreceive, hwork⟩ := Machine.run_cons_eq_some.mp hstart
  obtain ⟨_, hstep, hend⟩ := Machine.run_cons_eq_some.mp hwork
  cases hend
  rw [step_running hc.rest.running] at hreceive
  obtain ⟨rx, hadd, rfl⟩ := Option.map_eq_some_iff.mp hreceive
  have hitems : rx.items = message :: [] := by
    rw [(Fifo.add_eq_some.mp hadd).2, hc.rx]
    rfl
  have hstarted : started.halted = none :=
    (packets_moves fixedSlots_rule (sends_run hrun) hrunning).1
  let received : Core0 := { c with slave := { c.slave with rx := rx } }
  have hreceivedRuns : received.halted = none := hc.rest.running
  obtain ⟨queue, -, hsmall, hasked⟩ :=
    slavework_started hreceivedRuns hitems hmessage hother hc.found hstep hstarted
  obtain rfl : started = asked epAddr slot bytes queue c := hasked
  obtain ⟨bit, buffer, control, data, harmed⟩ := hc.armed hother bytes queue
  have hlength : (UInt16.ofNat bytes.length).toNat = bytes.length := by
    rw [UInt16.toNat_ofNat']
    omega
  cases packets with
  | nil =>
      cases hrun
      have hactive := congrArg HwEndpoint.active harmed.ep
      exact absurd (hinactive.symm.trans hactive) Bool.false_ne_true
  | cons packet rest =>
      obtain ⟨next, hsend, hrest⟩ := Machine.run_cons_eq_some.mp hrun
      obtain ⟨hbytes, hpacket⟩ := sendStep_eq_some.mp hsend
      have hnext : next.halted = none :=
        (packets_moves fixedSlots_rule (sends_run hrest) hrunning).1
      have hcount : packet.length = bytes.length := by
        have hsame : packetBytes (asked epAddr slot bytes queue c).slave.hcd slot = _ :=
          harmed.path.packetBytes harmed.control
        rw [← hbytes, hsame, Buffer.length_bytesAt, harmed.word, (freshChannel_word (by omega)).1,
          hlength]
      have hfits : bytes.length ≤ size.toNat := by
        have hpacketShort := hshort packet (List.mem_cons_self ..)
        rw [hcount, hc.size] at hpacketShort
        exact hpacketShort
      refine ⟨hfits, ?_⟩
      by_contra hlong
      obtain ⟨-, bit, buffer, control, data, hwriting⟩ :=
        hc.writing hother hout hsmall hfits queue
      obtain ⟨stopped, hstops, hhalted⟩ := hwriting.stops hother (by omega)
      cases hstops.symm.trans hpacket
      exact hhalted hnext

/-- A write sends exactly the bytes of its message when they fit a packet and are at most 999. -/
theorem sendsExactly_iff {romWord : BitVec 32} {events : List Event} {message : SpiMessage}
    (hrun : Machine.run step (.init romWord) events = some c) (hrest : AtRest c)
    (hrx : c.slave.rx.items = []) (hmessage : AsksFor message epAddr bytes)
    (hother : tuEdptNumber epAddr ≠ 0) (hout : tuEdptDirIn epAddr = false)
    (hfound : getDevEp c.slave.hcd epAddr = some slot) :
    SendsExactly slot epAddr message bytes c ↔
      bytes.length ≤ (c.slave.hcd.epPool slot).wMaxPacketSize.toNat ∧ bytes.length ≤ 999 := by
  have hc : BetweenTransfers slot epAddr (c.slave.hcd.epPool slot).wMaxPacketSize c :=
    ⟨hrest, hrx, poolOk_of_run hrun hrest.running, pidsOk_of_run hrun hrest.running, hfound, rfl⟩
  constructor
  · intro hsends
    exact hc.sends_length hother hout hmessage hsends
  · rintro ⟨hfits, hsmall⟩
    exact hc.sends hother hout hmessage hsmall hfits

end Write

/-! ## A write of one packet, and one of two -/

/-- The master opens a bulk endpoint with packets of eight bytes. -/
def writeOpened : List Event :=
  [.receive ⟨MsgType.edptOpen, [7, 5, 0x02, 2, 8, 0, 0], by decide⟩, .slavework]

theorem writeOpened_rest : ∃ c, Machine.run step (.init 0) writeOpened = some c ∧ AtRest c ∧
    c.slave.rx.items = [] ∧ getDevEp c.slave.hcd 0x02 = some 1 ∧
    (c.slave.hcd.epPool 1).wMaxPacketSize = 8 := by
  have hends : ∃ c, Machine.run step (.init 0) writeOpened = some c ∧ c.halted = none ∧
      c.causes = [] ∧ c.slave.hcd.bufStatus = 0 ∧ c.slave.rx.items = [] ∧
      getDevEp c.slave.hcd 0x02 = some 1 ∧ (c.slave.hcd.epPool 1).wMaxPacketSize = 8 :=
    Machine.exists_run_of_any (by decide +kernel)
  obtain ⟨c, hrun, hrunning, hcauses, hstatus, hrx, hslot, hsize⟩ := hends
  refine ⟨c, hrun, ⟨hrunning, ?_, hstatus⟩, hrx, hslot, hsize⟩
  rw [hcauses]
  exact nofun

theorem onePacket_sent : ∃ c, Machine.run step (.init 0) writeOpened = some c ∧
    SendsExactly 1 0x02 ⟨MsgType.usbData, [1, 2, 3, 4, 5, 6, 7, 8, 0x02], by decide⟩
      [1, 2, 3, 4, 5, 6, 7, 8] c := by
  obtain ⟨c, hrun, hrest, hrx, hslot, hsize⟩ := writeOpened_rest
  refine ⟨c, hrun, (sendsExactly_iff hrun hrest hrx ⟨by decide, rfl⟩ (by decide) (by decide)
    hslot).mpr ?_⟩
  rw [hsize]
  decide

/-- Nine bytes are sent in one packet where a packet has eight. -/
theorem twoPackets_not_sent :
    ¬ ∀ (romWord : BitVec 32) (events : List Event) (c : Core0) (slot : Nat) (epAddr : UInt8)
      (message : SpiMessage) (bytes : List UInt8),
      Machine.run step (.init romWord) events = some c → AtRest c → c.slave.rx.items = [] →
      AsksFor message epAddr bytes → tuEdptNumber epAddr ≠ 0 → tuEdptDirIn epAddr = false →
      getDevEp c.slave.hcd epAddr = some slot → (c.slave.hcd.epPool slot).wMaxPacketSize ≠ 0 →
      SendsExactly slot epAddr message bytes c := by
  intro hclaim
  obtain ⟨c, hrun, hrest, hrx, hslot, hsize⟩ := writeOpened_rest
  have hmessage : AsksFor ⟨MsgType.usbData, [1, 2, 3, 4, 5, 6, 7, 8, 9, 0x02], by decide⟩ 0x02
      [1, 2, 3, 4, 5, 6, 7, 8, 9] := ⟨by decide, rfl⟩
  have hpositive : (c.slave.hcd.epPool 1).wMaxPacketSize ≠ 0 := by
    rw [hsize]
    decide
  have hsends := hclaim 0 writeOpened c 1 0x02 _ _ hrun hrest hrx hmessage (by decide) (by decide)
    hslot hpositive
  have hbetween : BetweenTransfers 1 0x02 8 c :=
    ⟨hrest, hrx, poolOk_of_run hrun hrest.running, pidsOk_of_run hrun hrest.running, hslot, hsize⟩
  have hfits := (hbetween.sends_length (by decide) (by decide) hmessage hsends).1
  exact absurd hfits (by decide)

end UsbSec.Host
