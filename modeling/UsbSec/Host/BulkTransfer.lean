import UsbSec.Host.Charge
import UsbSec.Host.DataRead
import UsbSec.Host.Packets
import UsbSec.Rp2040.Exchange

/-!
# A transfer of one packet on a bulk endpoint

The bulk endpoints of a device share the EPX registers. A USB_DATA message for one of them starts a
transfer, the controller exchanges one packet, and the interrupt handler reports it to the master.
Each step is described by the state of the registers before and after it.
-/

namespace UsbSec.Host

open Library Usb Rp2040

/-! ## Endpoints on the EPX registers -/

/-- A bulk endpoint of a device: its slot in the pool, its address and its packet size. -/
structure BulkEndpoint where
  slot : Nat
  epAddr : UInt8
  size : UInt16

/-- The endpoint is open and has the EPX registers. -/
structure BulkOpen (e : BulkEndpoint) (h : Hcd) : Prop where
  found : getDevEp h e.epAddr = some e.slot
  data : ¬ IsControl e.epAddr
  epAddr : (h.epPool e.slot).epAddr = e.epAddr
  direction : (h.epPool e.slot).rx = tuEdptDirIn e.epAddr
  registers : OnEpx (h.epPool e.slot)
  size : (h.epPool e.slot).wMaxPacketSize = e.size
  control : PointsTo (h.memory.word epxCtrl) epxDataOffset

/-- Only transfers on EPX lead from one state to the other: no endpoint is moved. -/
structure SamePlaces (h k : Hcd) : Prop where
  fixed : ∀ slot, (k.epPool slot).fixed = (h.epPool slot).fixed
  control : k.memory.word epxCtrl = h.memory.word epxCtrl
  polling : k.intEpCtrl = h.intEpCtrl

instance : IsPreorder Hcd SamePlaces where
  refl _ := ⟨fun _ => rfl, rfl, rfl⟩
  trans _ _ _ h k := ⟨fun slot => (k.fixed slot).trans (h.fixed slot), k.control.trans h.control,
    k.polling.trans h.polling⟩

theorem getDevEp_congr {h k : Hcd} (hfixed : ∀ slot, (k.epPool slot).fixed = (h.epPool slot).fixed)
    (epAddr : UInt8) : getDevEp k epAddr = getDevEp h epAddr := by
  have hconfigured (slot : Nat) : (k.epPool slot).configured = (h.epPool slot).configured :=
    eq_of_fixed (fun _ => rfl) (hfixed slot)
  have haddress (slot : Nat) : (k.epPool slot).epAddr = (h.epPool slot).epAddr :=
    eq_of_fixed (fun _ => rfl) (hfixed slot)
  unfold getDevEp
  simp only [hconfigured, haddress]

theorem OnEpx.of_fixed {first second : HwEndpoint} (h : OnEpx first)
    (hfixed : second.fixed = first.fixed) : OnEpx second where
  bufferControl := (eq_of_fixed (fun _ => rfl) hfixed).trans h.bufferControl
  endpointControl := (eq_of_fixed (fun _ => rfl) hfixed).trans h.endpointControl
  hwDataBuf := (eq_of_fixed (fun _ => rfl) hfixed).trans h.hwDataBuf

theorem BulkOpen.of_same {e : BulkEndpoint} {h k : Hcd} (hopen : BulkOpen e h)
    (hsame : SamePlaces h k) : BulkOpen e k where
  found := (getDevEp_congr hsame.fixed _).trans hopen.found
  data := hopen.data
  epAddr := (eq_of_fixed (fun _ => rfl) (hsame.fixed _)).trans hopen.epAddr
  direction := (eq_of_fixed (fun _ => rfl) (hsame.fixed _)).trans hopen.direction
  registers := hopen.registers.of_fixed (hsame.fixed _)
  size := (eq_of_fixed (fun _ => rfl) (hsame.fixed _)).trans hopen.size
  control := by
    rw [hsame.control]
    exact hopen.control

/-- Nothing is under way on the EPX registers. -/
structure EpxFree (h : Hcd) : Prop where
  inactive : ∀ slot ∈ epx :: interruptSlots, (h.epPool slot).bufferControl = some epxBufCtrl →
    (h.epPool slot).active = false
  handled : hasBits h.bufStatus (slotBit epx) = false

instance (h : Hcd) : Decidable (EpxFree h) :=
  decidable_of_iff ((∀ slot ∈ epx :: interruptSlots,
      (h.epPool slot).bufferControl = some epxBufCtrl → (h.epPool slot).active = false) ∧
      hasBits h.bufStatus (slotBit epx) = false)
    ⟨fun free => ⟨free.1, free.2⟩, fun free => ⟨free.inactive, free.handled⟩⟩

/-- The EPX registers wait for the next transfer. -/
structure EpxIdle (h : Hcd) : Prop where
  inactive : ∀ slot ∈ epx :: interruptSlots, (h.epPool slot).bufferControl = some epxBufCtrl →
    (h.epPool slot).active = false
  bufStatus : h.bufStatus = 0
  disarmed : hasBits (h.memory.word epxBufCtrl) bufCtrlAvail = false
  noSetup : hasBits h.sieCtrl sieCtrlSendSetup = false

theorem EpxIdle.free {h : Hcd} (hidle : EpxIdle h) : EpxFree h where
  inactive := hidle.inactive
  handled := by
    rw [hidle.bufStatus]
    decide

/-- The address of the endpoint that the EPX registers name: its number is in `dev_addr_ctrl`, and
its direction is that of the transaction. -/
def addressedEndpoint (h : Hcd) : UInt8 :=
  ⟨(h.devAddrCtrl >>> 16).setWidth 8⟩ |||
    if hasBits h.sieCtrl sieCtrlReceiveData then 0x80 else 0

/-- The bytes in the EPX buffer. -/
def epxBytes (h : Hcd) : List UInt8 :=
  h.memory.data.bytesAt (h.memory.word epxCtrl &&& 0xffc0#32).toNat
    (bufLen (h.memory.word epxBufCtrl)).toNat

/-- The transfer on the endpoint is the only one that is under way. -/
structure BulkActive (e : BulkEndpoint) (remaining : UInt16) (h : Hcd) : Prop where
  active : h.activeEp = some e.slot
  alone : ∀ slot ∈ epx :: interruptSlots, slot ≠ e.slot →
    (h.epPool slot).bufferControl = some epxBufCtrl → (h.epPool slot).active = false
  counted : (h.epPool e.slot).xferredLen = 0
  userBuf : (h.epPool e.slot).userBuf = .bugger 0
  whole : (h.epPool e.slot).isPartial = false
  remaining : (h.epPool e.slot).remainingLen = remaining
  addressed : addressedEndpoint h = e.epAddr
  noSetup : hasBits h.sieCtrl sieCtrlSendSetup = false
  receives : hasBits h.sieCtrl sieCtrlReceiveData = tuEdptDirIn e.epAddr
  sends : hasBits h.sieCtrl sieCtrlSendData = !tuEdptDirIn e.epAddr

/-- The controller waits for the packet of a read. -/
structure BulkReading (e : BulkEndpoint) (remaining : UInt16) (h : Hcd) : Prop where
  transfer : BulkActive e remaining h
  bufStatus : h.bufStatus = 0
  started : hasBits h.sieCtrl sieCtrlStartTrans = true
  armed : hasBits (h.memory.word epxBufCtrl) bufCtrlAvail = true

/-- The packet of a read is in the EPX buffer. -/
structure BulkReceived (e : BulkEndpoint) (remaining : UInt16) (packet : Packet) (h : Hcd) :
    Prop where
  transfer : BulkActive e remaining h
  bufStatus : h.bufStatus = slotBit epx
  held : Held epxDataOffset epxCtrl packet e.slot h
  disarmed : hasBits (h.memory.word epxBufCtrl) bufCtrlAvail = false

/-- The word of the EPX buffer and the static buffer are those of a packet that is written. -/
structure BulkLoaded (data : List UInt8) (h : Hcd) : Prop where
  length : (bufLen (h.memory.word epxBufCtrl)).toNat = data.length
  bugger : h.memory.bugger.bytesAt 0 data.length = data

/-- The controller is to send the packet of a write. -/
structure BulkWriting (e : BulkEndpoint) (data : List UInt8) (h : Hcd) : Prop where
  transfer : BulkActive e 0 h
  bufStatus : h.bufStatus = 0
  started : hasBits h.sieCtrl sieCtrlStartTrans = true
  armed : hasBits (h.memory.word epxBufCtrl) bufCtrlAvail = true
  full : hasBits (h.memory.word epxBufCtrl) bufCtrlFull = true
  loaded : BulkLoaded data h
  bytes : h.memory.data.bytesAt epxDataOffset data.length = data

/-- The packet of a write was sent. -/
structure BulkWritten (e : BulkEndpoint) (data : List UInt8) (h : Hcd) : Prop where
  transfer : BulkActive e 0 h
  bufStatus : h.bufStatus = slotBit epx
  loaded : BulkLoaded data h
  emptied : hasBits (h.memory.word epxBufCtrl) bufCtrlFull = false
  disarmed : hasBits (h.memory.word epxBufCtrl) bufCtrlAvail = false

/-! ## Starting a transfer -/

section Start

variable {c : Channel} {data : List UInt8}

/-- The endpoint and the memory after a write of one packet is started. -/
def loadedChannel (data : List UInt8) (c : Channel) : Channel :=
  let loaded := { c.memory with data := c.memory.data.writeAt epxDataOffset data }
  startedChannel (.bugger 0) (UInt16.ofNat data.length) { c with memory := loaded }

theorem ofNat_length (hshort : data.length ≤ 64) : (UInt16.ofNat data.length).toNat = data.length := by
  rw [UInt16.toNat_ofNat']
  omega

/-- A write of one packet copies the packet to the EPX buffer. -/
theorem hwEndpointXferStart_write (hrx : c.ep.rx = false) (hbuf : c.ep.hwDataBuf = some epxDataOffset)
    (hshort : data.length ≤ 64) (hfits : UInt16.ofNat data.length ≤ c.ep.wMaxPacketSize)
    (hbugger : c.memory.bugger.bytesAt 0 data.length = data) :
    hwEndpointXferStart .slave (.bugger 0) (UInt16.ofNat data.length) c =
      .ok () (loadedChannel data c) := by
  obtain ⟨ep, memory⟩ := c
  cases ep
  cases hrx
  cases hbuf
  have hmin := tuMin16_of_le hfits
  have hcount := ofNat_length hshort
  rw [hwEndpointXferStart_apply]
  unfold startNextBufferSlave loadedChannel startedChannel armedChannel armedWord freshTransfer
  simp only [Program.read_bind, when_divides] at hmin ⊢
  simp only [hmin]
  refine (Program.bind_ok rfl).trans ?_
  have hload (ep : HwEndpoint) (hdata : ep.hwDataBuf = some epxDataOffset) :
      loadBuffer .slave (.bugger 0) 0 (UInt16.ofNat data.length).toNat ⟨ep, memory⟩ =
        .ok () ⟨ep, { memory with data := memory.data.writeAt epxDataOffset data }⟩ := by
    have hread : readUser .slave (.bugger 0) (UInt16.ofNat data.length).toNat ⟨ep, memory⟩ =
        .ok data ⟨ep, memory⟩ := by
      refine (Program.require_bind (by rw [hcount]; simp [buggerSize]; omega) _ _ _).trans ?_
      show EStateM.Result.ok (memory.bugger.bytesAt 0 _) _ = _
      rw [hcount, hbugger]
    have hinside : epxDataOffset + 0 + data.length ≤ usbDpramMax := by
      show 0x180 + 0 + data.length ≤ 4096
      omega
    unfold loadBuffer
    rw [Program.read_bind]
    refine (Program.bind_ok hread).trans ?_
    rw [show (Channel.mk ep memory).ep.hwDataBuf = some epxDataOffset from hdata]
    exact Program.require_bind hinside _ _ _
  refine (Program.bind_ok (hload _ rfl)).trans ?_
  refine (Program.bind_ok rfl).trans ?_
  exact hwEndpointBufferControlSetValue32_apply _ _

end Start

theorem addressed_number (devAddr number : BitVec 8) :
    ((devAddr.setWidth 32 ||| number.setWidth 32 <<< 16) >>> 16).setWidth 8 = number := by
  ext i hi
  simp
  grind

/-- Number and direction make up the address. -/
theorem number_or_direction (epAddr : UInt8) :
    (tuEdptNumber epAddr ||| if tuEdptDirIn epAddr then 0x80 else 0) = epAddr := by
  have hall : ∀ bits : BitVec 8, (tuEdptNumber ⟨bits⟩ ||| if tuEdptDirIn ⟨bits⟩ then 0x80 else 0) =
      ⟨bits⟩ := by decide +kernel
  exact hall epAddr.toBitVec

/-- The registers after a transfer is started on the endpoint in a slot. -/
def bulkStarted (devAddr epAddr : UInt8) (slot : Nat) (c : Channel) (h : Hcd) : Hcd :=
  { storeSlot slot h c with
    activeEp := some slot
    devAddrCtrl := devAddr.toBitVec.setWidth 32 |||
      (tuEdptNumber epAddr).toBitVec.setWidth 32 <<< 16
    sieCtrl := startDataFlags h epAddr }

section Started

variable {e : BulkEndpoint} {h : Hcd} {c : Channel}

/-- A transfer that starts while nothing is under way is the only one. -/
theorem bulkStarted_active (hidle : EpxIdle h) (hcounted : c.ep.xferredLen = 0)
    (huser : c.ep.userBuf = .bugger 0) (hwhole : c.ep.isPartial = false) (devAddr : UInt8) :
    BulkActive e c.ep.remainingLen (bulkStarted devAddr e.epAddr e.slot c h) := by
  have hpool : (bulkStarted devAddr e.epAddr e.slot c h).epPool e.slot = c.ep := storeSlot_same _ _ _
  obtain ⟨-, hsetup, hreceive, hsend⟩ := startDataFlags_bits h e.epAddr
  refine ⟨rfl, ?_, ?_, ?_, ?_, ?_, ?_, hsetup, hreceive, hsend⟩
  · intro slot hmem hother hepx
    have hkept : (bulkStarted devAddr e.epAddr e.slot c h).epPool slot = h.epPool slot :=
      withSlot_other _ _ hother
    rw [hkept] at hepx ⊢
    exact hidle.inactive slot hmem hepx
  · rw [hpool]
    exact hcounted
  · rw [hpool]
    exact huser
  · rw [hpool]
    exact hwhole
  · rw [hpool]
  · unfold addressedEndpoint
    rw [show hasBits (bulkStarted devAddr e.epAddr e.slot c h).sieCtrl sieCtrlReceiveData =
      tuEdptDirIn e.epAddr from hreceive]
    show (⟨((devAddr.toBitVec.setWidth 32 |||
      (tuEdptNumber e.epAddr).toBitVec.setWidth 32 <<< 16) >>> 16).setWidth 8⟩ ||| _) = e.epAddr
    rw [addressed_number]
    exact number_or_direction e.epAddr

/-- Starting a transfer moves no endpoint. -/
theorem bulkStarted_samePlaces (hfixed : c.ep.fixed = (h.epPool e.slot).fixed)
    (hcontrol : c.memory.word epxCtrl = h.memory.word epxCtrl) (devAddr epAddr : UInt8) :
    SamePlaces h (bulkStarted devAddr epAddr e.slot c h) where
  fixed slot := by
    by_cases hsame : slot = e.slot
    · subst hsame
      show ((storeSlot e.slot h c).epPool e.slot).fixed = _
      rw [storeSlot_same, hfixed]
    · exact congrArg HwEndpoint.fixed (withSlot_other h c.ep hsame)
  control := hcontrol
  polling := rfl

end Started

section Slavework

variable {s : Slave} {e : BulkEndpoint} {message : SpiMessage} {rest : List SpiMessage}
  {data : List UInt8}

/-- A message for a bulk endpoint starts its transfer. -/
theorem slavework_starts (hopen : BulkOpen e s.hcd) (hrx : s.rx.items = message :: rest)
    (hasks : AsksFor message e.epAddr data) (hfits : data.length ≤ 1000) {c : Channel}
    (hstart : hwEndpointXferStart .slave (.bugger 0) (UInt16.ofNat data.length)
      (slotChannel e.slot (filled data s).hcd) = .ok () c) :
    ∃ t, slavework s = .ok () t ∧ t.rx.items = rest ∧ t.outbox = s.outbox ∧
      t.hcd = bulkStarted s.devAddr e.epAddr e.slot c (filled data s).hcd := by
  obtain ⟨taken, hitems, hwork⟩ := slavework_message (c := ⟨s, [], none⟩) hrx hasks
  rw [handleUsbData_apply hasks, if_pos hfits] at hwork
  have hfound : getDevEp (filled data { s with rx := taken }).hcd e.epAddr = some e.slot :=
    hopen.found
  have hxfer := hcdEdptXfer_starts (h := (filled data { s with rx := taken }).hcd) hfound
    hopen.epAddr hstart s.devAddr
  have hrun := hwork.trans (startXfer_ok (s := filled data { s with rx := taken }) hxfer)
  exact ⟨_, hrun, hitems, rfl, rfl⟩

/-- A message for the IN endpoint starts a read. -/
theorem slavework_reads (hopen : BulkOpen e s.hcd) (hidle : EpxIdle s.hcd)
    (hin : tuEdptDirIn e.epAddr = true) (hrx : s.rx.items = message :: rest)
    (hasks : AsksFor message e.epAddr data) (hfits : data.length ≤ 1000) :
    ∃ t, slavework s = .ok () t ∧ t.rx.items = rest ∧ t.outbox = s.outbox ∧
      SamePlaces s.hcd t.hcd ∧ BulkReading e (UInt16.ofNat data.length -
        tuMin16 (UInt16.ofNat data.length) e.size) t.hcd := by
  let ready := filled data s
  let c := slotChannel e.slot ready.hcd
  have hrxSlot : c.ep.rx = true := hopen.direction.trans hin
  obtain ⟨t, hrun, hitems, houtbox, hhcd⟩ := slavework_starts hopen hrx hasks hfits
    (hwEndpointXferStart_receive hrxSlot (.bugger 0) (UInt16.ofNat data.length))
  have hsame : SamePlaces s.hcd ready.hcd := ⟨fun _ => rfl, rfl, rfl⟩
  have hpointer : c.ep.bufferControl = some epxBufCtrl := hopen.registers.bufferControl
  have hword (offset : Nat) (hother : offset ≠ epxBufCtrl) :
      (startedChannel (.bugger 0) (UInt16.ofNat data.length) c).memory.word offset =
        s.hcd.memory.word offset := by
    show (Memory.writeWord _ c.ep.bufferControl _).word offset = _
    rw [hpointer, Memory.writeWord_other _ _ hother]
    rfl
  refine ⟨t, hrun, hitems, houtbox, ?_, ?_⟩
  · rw [hhcd]
    exact trans_of SamePlaces hsame
      (bulkStarted_samePlaces (h := ready.hcd) rfl (hword epxCtrl (by decide)) _ _)
  · rw [hhcd]
    have hactive := bulkStarted_active (e := e) (c := startedChannel (.bugger 0) (UInt16.ofNat data.length) c)
      (h := ready.hcd) ⟨hidle.inactive, hidle.bufStatus, hidle.disarmed, hidle.noSetup⟩ rfl rfl
      rfl s.devAddr
    refine ⟨?_, hidle.bufStatus, (startDataFlags_bits ready.hcd e.epAddr).1, ?_⟩
    · have hsize : c.ep.wMaxPacketSize = e.size := hopen.size
      rw [← hsize]
      exact hactive
    · show hasBits ((Memory.writeWord _ c.ep.bufferControl _).word epxBufCtrl) bufCtrlAvail = true
      rw [hpointer, Memory.writeWord_same]
      exact armedWord_avail _

/-- A message for the OUT endpoint starts a write of one packet. -/
theorem slavework_writes (hopen : BulkOpen e s.hcd) (hidle : EpxIdle s.hcd)
    (hout : tuEdptDirIn e.epAddr = false) (hrx : s.rx.items = message :: rest)
    (hasks : AsksFor message e.epAddr data) (hshort : data.length ≤ 64)
    (hfits : data.length ≤ e.size.toNat) :
    ∃ t, slavework s = .ok () t ∧ t.rx.items = rest ∧ t.outbox = s.outbox ∧
      SamePlaces s.hcd t.hcd ∧ BulkWriting e data t.hcd := by
  let ready := filled data s
  let c := slotChannel e.slot ready.hcd
  have hrxSlot : c.ep.rx = false := hopen.direction.trans hout
  have hsize : c.ep.wMaxPacketSize = e.size := hopen.size
  have hle : UInt16.ofNat data.length ≤ c.ep.wMaxPacketSize := by
    rw [hsize, UInt16.le_iff_toNat_le, ofNat_length hshort]
    exact hfits
  have hbugger : c.memory.bugger.bytesAt 0 data.length = data :=
    Buffer.bytesAt_writeAt_same s.hcd.memory.bugger 0 data
  obtain ⟨t, hrun, hitems, houtbox, hhcd⟩ := slavework_starts hopen hrx hasks (by omega)
    (hwEndpointXferStart_write hrxSlot hopen.registers.hwDataBuf hshort hle hbugger)
  have hsame : SamePlaces s.hcd ready.hcd := ⟨fun _ => rfl, rfl, rfl⟩
  have hpointer : c.ep.bufferControl = some epxBufCtrl := hopen.registers.bufferControl
  have hsmall : (UInt16.ofNat data.length).toNat ≤ 1000 := by
    rw [ofNat_length hshort]
    omega
  have hremaining : (loadedChannel data c).ep.remainingLen = 0 := by
    show UInt16.ofNat data.length - tuMin16 (UInt16.ofNat data.length) c.ep.wMaxPacketSize = 0
    rw [tuMin16_of_le hle, UInt16.sub_self]
  have hword (offset : Nat) (hother : offset ≠ epxBufCtrl) :
      (loadedChannel data c).memory.word offset = s.hcd.memory.word offset := by
    show (Memory.writeWord _ c.ep.bufferControl _).word offset = _
    rw [hpointer, Memory.writeWord_other _ _ hother]
    rfl
  have hactive := bulkStarted_active (e := e) (c := loadedChannel data c)
    (h := ready.hcd) ⟨hidle.inactive, hidle.bufStatus, hidle.disarmed, hidle.noSetup⟩ rfl rfl rfl
    s.devAddr
  rw [hremaining] at hactive
  refine ⟨t, hrun, hitems, houtbox, ?_, ?_⟩
  · rw [hhcd]
    exact trans_of SamePlaces hsame
      (bulkStarted_samePlaces (h := ready.hcd) rfl (hword epxCtrl (by decide)) _ _)
  · rw [hhcd]
    refine ⟨hactive, hidle.bufStatus, (startDataFlags_bits ready.hcd e.epAddr).1, ?_, ?_, ⟨?_, ?_⟩, ?_⟩
    · show hasBits ((Memory.writeWord _ c.ep.bufferControl _).word epxBufCtrl) bufCtrlAvail = true
      rw [hpointer, Memory.writeWord_same]
      exact armedWord_avail _
    · show hasBits ((Memory.writeWord _ c.ep.bufferControl _).word epxBufCtrl) bufCtrlFull = true
      rw [hpointer, Memory.writeWord_same, armedWord_full hsmall]
      show (!c.ep.rx) = true
      rw [hrxSlot]
      rfl
    · show (bufLen ((Memory.writeWord _ c.ep.bufferControl _).word epxBufCtrl)).toNat = _
      rw [hpointer, Memory.writeWord_same, bufLen_armedWord_eq]
      show (UInt16.ofNat data.length).toNat % 1024 = _
      rw [ofNat_length hshort]
      omega
    · show Buffer.bytesAt (Memory.writeWord _ c.ep.bufferControl _).bugger 0 _ = _
      rw [Memory.writeWord_bugger]
      exact hbugger
    · show Buffer.bytesAt (Memory.writeWord _ c.ep.bufferControl _).data epxDataOffset _ = _
      rw [Memory.writeWord_data]
      exact Buffer.bytesAt_writeAt_same _ _ _

end Slavework

/-! ## The controller exchanges the packet -/

section Exchange

variable {h k : Hcd} {e : BulkEndpoint} {remaining : UInt16} {data : List UInt8} {packet : Packet}

/-- The transfer depends on the pool, the active endpoint and the registers of the transaction. -/
theorem BulkActive.of_eq (hactive : BulkActive e remaining h) (hpool : k.epPool = h.epPool)
    (hsame : k.activeEp = h.activeEp) (haddress : addressedEndpoint k = addressedEndpoint h)
    (hflags : ∀ flag ∈ [sieCtrlSendSetup, sieCtrlReceiveData, sieCtrlSendData],
      hasBits k.sieCtrl flag = hasBits h.sieCtrl flag) : BulkActive e remaining k := by
  have hsetup := hflags sieCtrlSendSetup (by simp)
  have hreceive := hflags sieCtrlReceiveData (by simp)
  have hsend := hflags sieCtrlSendData (by simp)
  obtain ⟨hslot, halone, hcounted, huser, hwhole, hleft, haddressed, hnone, hin, hout⟩ := hactive
  rw [← hpool] at halone hcounted huser hwhole hleft
  exact ⟨hsame.trans hslot, halone, hcounted, huser, hwhole, hleft, haddress.trans haddressed,
    hsetup.trans hnone, hreceive.trans hin, hsend.trans hout⟩

/-- The end of a transaction clears no flag but that of its start. -/
theorem finishTransaction_flag {flag : BitVec 32} (hflag : flag &&& ~~~sieCtrlStartTrans = flag)
    (h : Hcd) : hasBits (finishTransaction h).sieCtrl flag = hasBits h.sieCtrl flag :=
  hasBits_kept hflag

theorem finishTransaction_addressed (h : Hcd) :
    addressedEndpoint (finishTransaction h) = addressedEndpoint h := by
  unfold addressedEndpoint
  rw [finishTransaction_flag (by decide)]
  rfl

theorem BulkActive.finish (hactive : BulkActive e remaining h) :
    BulkActive e remaining (finishTransaction h) := by
  refine hactive.of_eq rfl rfl (finishTransaction_addressed h) ?_
  intro flag hmem
  simp only [List.mem_cons, List.not_mem_nil, or_false] at hmem
  obtain rfl | rfl | rfl := hmem
  · exact finishTransaction_flag (by decide) h
  · exact finishTransaction_flag (by decide) h
  · exact finishTransaction_flag (by decide) h

theorem finishTransaction_samePlaces (h : Hcd) : SamePlaces h (finishTransaction h) :=
  ⟨fun _ => rfl, rfl, rfl⟩

/-- A read does not depend on the transaction flag. -/
theorem BulkReading.acknowledge (hreading : BulkReading e remaining h) (transComplete : Bool) :
    BulkReading e remaining { h with transComplete := transComplete } :=
  ⟨hreading.transfer.of_eq rfl rfl rfl fun _ _ => rfl, hreading.bufStatus, hreading.started,
    hreading.armed⟩

/-- A write does not depend on the transaction flag. -/
theorem BulkWriting.acknowledge (hwriting : BulkWriting e data h) (transComplete : Bool) :
    BulkWriting e data { h with transComplete := transComplete } :=
  ⟨hwriting.transfer.of_eq rfl rfl rfl fun _ _ => rfl, hwriting.bufStatus, hwriting.started,
    hwriting.armed, hwriting.full, ⟨hwriting.loaded.length, hwriting.loaded.bugger⟩,
    hwriting.bytes⟩

/-- The buffer of a read takes a packet. -/
theorem BulkReading.receives (hreading : BulkReading e remaining h) (hopen : BulkOpen e h)
    (hreceive : receiveIn h packet = some k) :
    SamePlaces h k ∧ BulkReceived e remaining packet k := by
  have hfilled : BulkReceived e remaining packet (fillEpx h packet) := by
    have hpath : Path h e.slot (slotBit epx) epxBufCtrl epxCtrl epxDataOffset :=
      .shared hopen.registers hreading.transfer.active
    refine ⟨hreading.transfer.of_eq rfl rfl rfl fun _ _ => rfl, ?_,
      stored_held hpath hopen.control packet rfl rfl, ?_⟩
    · show h.bufStatus ||| slotBit epx = slotBit epx
      rw [hreading.bufStatus]
      exact BitVec.zero_or
    · show hasBits ((storePacket h.memory epxCtrl epxBufCtrl packet).word epxBufCtrl) _ = false
      rw [storePacket_same]
      exact (filled_bits _ packet).2
  have hsame : SamePlaces h (fillEpx h packet) :=
    ⟨fun _ => rfl, storePacket_other _ _ _ (by decide), rfl⟩
  unfold receiveIn at hreceive
  obtain ⟨-, hnext⟩ := Option.ite_none_right_eq_some.mp hreceive
  split at hnext
  · cases hnext
    exact ⟨trans_of SamePlaces hsame (finishTransaction_samePlaces _), hfilled.transfer.finish,
      hfilled.bufStatus, ⟨hfilled.held.control, hfilled.held.full, hfilled.held.length,
        hfilled.held.bytes⟩, hfilled.disarmed⟩
  · cases hnext
    exact ⟨hsame, hfilled⟩

/-- The packet of a write is sent. -/
theorem BulkWriting.sends (hwriting : BulkWriting e data h) (hopen : BulkOpen e h)
    (hsend : sendOut h = some k) :
    SamePlaces h k ∧ BulkWritten e data k ∧ epxBytes h = data := by
  have hemptied : BulkWritten e data (emptyEpx h) := by
    have hword : (emptyEpx h).memory.word epxBufCtrl =
        h.memory.word epxBufCtrl &&& ~~~(bufCtrlAvail ||| bufCtrlFull) := Memory.writeWord_same _ _ _
    refine ⟨hwriting.transfer.of_eq rfl rfl rfl fun _ _ => rfl, ?_,
      ⟨?_, hwriting.loaded.bugger⟩, ?_, ?_⟩
    · show h.bufStatus ||| slotBit epx = slotBit epx
      rw [hwriting.bufStatus]
      exact BitVec.zero_or
    · rw [hword, bufLen_taken]
      exact hwriting.loaded.length
    · rw [hword]
      exact hasBits_cleared (by decide)
    · rw [hword]
      exact hasBits_cleared (by decide)
  have hsame : SamePlaces h (emptyEpx h) :=
    ⟨fun _ => rfl, Memory.writeWord_other _ _ (by decide), rfl⟩
  have hbytes : epxBytes h = data := by
    unfold epxBytes
    rw [hopen.control.offset, hwriting.loaded.length]
    exact hwriting.bytes
  unfold sendOut at hsend
  obtain ⟨-, hnext⟩ := Option.ite_none_right_eq_some.mp hsend
  split at hnext
  · cases hnext
    exact ⟨trans_of SamePlaces hsame (finishTransaction_samePlaces _),
      ⟨hemptied.transfer.finish, hemptied.bufStatus,
        ⟨hemptied.loaded.length, hemptied.loaded.bugger⟩, hemptied.emptied, hemptied.disarmed⟩,
      hbytes⟩
  · cases hnext
    exact ⟨hsame, hemptied, hbytes⟩

/-- The controller is ready for the packet of a read. -/
theorem BulkReading.dataStarted (hreading : BulkReading e remaining h)
    (hin : tuEdptDirIn e.epAddr = true) : DataStarted h sieCtrlReceiveData :=
  ⟨hreading.started, hreading.transfer.noSetup, hreading.transfer.receives.trans hin,
    hreading.armed⟩

/-- The controller is ready to send the packet of a write. -/
theorem BulkWriting.dataStarted (hwriting : BulkWriting e data h)
    (hout : tuEdptDirIn e.epAddr = false) : DataStarted h sieCtrlSendData := by
  refine ⟨hwriting.started, hwriting.transfer.noSetup, ?_, hwriting.armed⟩
  rw [hwriting.transfer.sends, hout]
  rfl

/-- The controller takes no packet in and sends none while the buffer is not armed. -/
theorem no_exchange (hdisarmed : hasBits (h.memory.word epxBufCtrl) bufCtrlAvail = false)
    (direction : BitVec 32) : ¬ DataStarted h direction := by
  intro hstarted
  rw [hstarted.2.2.2] at hdisarmed
  cases hdisarmed

/-- The controller does not take a packet in while it is to send one, and the other way round. -/
theorem BulkActive.one_direction (hactive : BulkActive e remaining h) :
    (tuEdptDirIn e.epAddr = false → ¬ DataStarted h sieCtrlReceiveData) ∧
      (tuEdptDirIn e.epAddr = true → ¬ DataStarted h sieCtrlSendData) := by
  constructor
  · intro hout hstarted
    have hreceives := hactive.receives
    rw [hstarted.2.2.1, hout] at hreceives
    cases hreceives
  · intro hin hstarted
    have hsends := hactive.sends
    rw [hstarted.2.2.1, hin] at hsends
    cases hsends

end Exchange

/-! ## The interrupt handler reports the packet -/

/-- The message reports a completed transfer of the data on the endpoint. -/
structure ReportsTransfer (message : SpiMessage) (epAddr : UInt8) (data : List UInt8) : Prop where
  flag : message.eFlag = MsgType.isPacket ||| MsgType.lastPacket
  payload : message.payload = data ++ [epAddr]

/-- The transfer is over: it is reported, and the EPX registers wait for the next one. -/
structure BulkReported (e : BulkEndpoint) (data : List UInt8) (s t : Slave) : Prop where
  outbox : ∃ message, t.outbox = s.outbox ++ [message] ∧ ReportsTransfer message e.epAddr data
  rx : t.rx = s.rx
  places : SamePlaces s.hcd t.hcd
  idle : EpxIdle t.hcd

section Complete

variable {s : Slave} {e : BulkEndpoint} {remaining : UInt16} {data : List UInt8} {packet : Packet}

/-- A transfer that the engine finds complete is reported and reset. -/
theorem hwHandleBuffStatus_reports {c : Channel} (hopen : BulkOpen e s.hcd)
    (hactive : BulkActive e remaining s.hcd) (hbits : s.hcd.bufStatus = slotBit epx)
    (hdisarmed : hasBits (s.hcd.memory.word epxBufCtrl) bufCtrlAvail = false)
    (hcontinue : hwEndpointXferContinue .slave (slotChannel e.slot s.hcd) = .ok true c)
    (hfixed : c.ep.fixed = (s.hcd.epPool e.slot).fixed) (hword : c.memory.word = s.hcd.memory.word)
    (hcount : c.ep.xferredLen.toNat = data.length) (hshort : data.length ≤ 999)
    (hdata : c.memory.bugger.bytesAt 0 data.length = data) :
    ∃ t, hwHandleBuffStatus s = .ok () t ∧ BulkReported e data s t := by
  let handled := slotHandled (slotBit epx) e.slot c s
  have hpath : Path s.hcd e.slot (slotBit epx) epxBufCtrl epxCtrl epxDataOffset :=
    .shared hopen.registers hactive.active
  have hep : handled.hcd.epPool e.slot = c.ep := storeSlot_same _ _ _
  have haddress : (handled.hcd.epPool e.slot).epAddr = e.epAddr := by
    rw [hep]
    exact (eq_of_fixed (fun _ => rfl) hfixed).trans hopen.epAddr
  obtain ⟨message, bugger, hflag, hpayload, hsend⟩ :=
    sendEventToMaster_ok (by omega : c.ep.xferredLen.toNat < 1000) e.epAddr MsgType.lastPacket
      (completed e.slot .success handled)
  have hrun : handleBuffStatusBit (slotBit epx) e.slot s =
      .ok () (withReply (completed e.slot .success handled) bugger message) := by
    have hslot : onSlot e.slot (hwEndpointXferContinue .slave)
        { s.hcd with bufStatus := s.hcd.bufStatus &&& ~~~slotBit epx } = .ok true _ :=
      onSlot_ok hcontinue
    unfold handleBuffStatusBit
    rw [Program.update_bind]
    refine (Program.bind_ok (onHcd_ok hslot)).trans ?_
    refine (hwXferComplete_data (s := handled) (haddress ▸ hopen.data) (.inl rfl)).trans ?_
    rw [haddress, hep]
    exact hsend
  -- The slot is reset, and the other slots are as they were.
  let last := withReply (completed e.slot .success handled) bugger message
  have hslot : last.hcd.epPool e.slot = c.ep.resetTransfer := by
    show (storeSlot e.slot handled.hcd _).epPool e.slot = _
    rw [storeSlot_same]
    show (handled.hcd.epPool e.slot).resetTransfer = _
    rw [hep]
  have hothers (slot : Nat) (hother : slot ≠ e.slot) :
      last.hcd.epPool slot = s.hcd.epPool slot := by
    refine (withSlot_other _ _ hother).trans ?_
    exact withSlot_other _ _ hother
  refine ⟨last, (hpath.hwHandleBuffStatus hbits).trans hrun, ⟨message, rfl, hflag, ?_⟩, rfl,
    ⟨?_, ?_, rfl⟩, ⟨?_, ?_, ?_, hactive.noSetup⟩⟩
  · rw [hpayload, hcount]
    show c.memory.bugger.bytesAt 0 data.length ++ [e.epAddr] = _
    rw [hdata]
  · intro slot
    by_cases hsame : slot = e.slot
    · subst hsame
      rw [hslot]
      exact hfixed
    · rw [hothers slot hsame]
  · show c.memory.word epxCtrl = _
    rw [hword]
  · intro slot hmem hepx
    by_cases hsame : slot = e.slot
    · subst hsame
      rw [hslot]
      rfl
    · rw [hothers slot hsame] at hepx ⊢
      exact hactive.alone slot hmem hsame hepx
  · show s.hcd.bufStatus &&& ~~~slotBit epx = 0
    rw [hbits]
    exact BitVec.and_not_self _
  · show hasBits (c.memory.word epxBufCtrl) _ = false
    rw [hword]
    exact hdisarmed

/-- The packet of a read that is complete with it is reported. -/
theorem BulkReceived.reported (hreceived : BulkReceived e remaining packet s.hcd)
    (hopen : BulkOpen e s.hcd) (hin : tuEdptDirIn e.epAddr = true) (hshort : packet.bytes.length ≤ 64)
    (hends : IsShort (UInt16.ofNat packet.bytes.length) e.size ∨ remaining = 0) :
    ∃ t, hwHandleBuffStatus s = .ok () t ∧ BulkReported e packet.bytes s t := by
  have hactive := hreceived.transfer
  have hpath : Path s.hcd e.slot (slotBit epx) epxBufCtrl epxCtrl epxDataOffset :=
    .shared hopen.registers hactive.active
  have hholds : Holds epxDataOffset (slotChannel e.slot s.hcd)
      (UInt16.ofNat packet.bytes.length) := by
    refine ⟨hopen.direction.trans hin, hactive.userBuf, hopen.registers.hwDataBuf,
      hreceived.held.full, hreceived.held.length, ?_, ?_⟩
    · rw [packet_toNat]
      show packet.bytes.length ≤ 1000
      omega
    · rw [packet_toNat]
      show 0x180 + packet.bytes.length ≤ 4096
      omega
  have hleft : (takenIn epxDataOffset e.slot packet s.hcd).ep.remainingLen = 0 := by
    show (if IsShort _ (s.hcd.epPool e.slot).wMaxPacketSize then 0 else
      (s.hcd.epPool e.slot).remainingLen) = 0
    rw [hopen.size, hactive.remaining]
    rcases hends with hshort | hzero
    · exact if_pos hshort
    · rw [hzero]
      exact ite_self _
  have hcontinue := hholds.continue_last hactive.whole (hreceived.held.single hpath) hleft
  refine hwHandleBuffStatus_reports hopen hactive hreceived.bufStatus hreceived.disarmed hcontinue
    rfl rfl ?_ (by omega) ?_
  · show ((s.hcd.epPool e.slot).xferredLen + UInt16.ofNat packet.bytes.length).toNat = _
    rw [hactive.counted, UInt16.zero_add, packet_toNat]
  · show (s.hcd.memory.bugger.writeAt 0 (s.hcd.memory.data.bytesAt epxDataOffset
      (UInt16.ofNat packet.bytes.length).toNat)).bytesAt 0 _ = _
    rw [packet_toNat, hreceived.held.bytes]
    exact Buffer.bytesAt_writeAt_same _ _ _

/-- The packet of a write is reported. -/
theorem BulkWritten.reported (hwritten : BulkWritten e data s.hcd) (hopen : BulkOpen e s.hcd)
    (hout : tuEdptDirIn e.epAddr = false) (hshort : data.length ≤ 64) :
    ∃ t, hwHandleBuffStatus s = .ok () t ∧ BulkReported e data s t := by
  have hactive := hwritten.transfer
  let c := slotChannel e.slot s.hcd
  have hbuffer : c.memory.readWord c.ep.bufferControl = s.hcd.memory.word epxBufCtrl := by
    rw [show c.ep.bufferControl = some epxBufCtrl from hopen.registers.bufferControl]
    rfl
  have hpointer : c.memory.readWord c.ep.endpointControl = s.hcd.memory.word epxCtrl := by
    rw [show c.ep.endpointControl = some epxCtrl from hopen.registers.endpointControl]
    rfl
  have hcontinue := hwEndpointXferContinue_sent (c := c) (hopen.direction.trans hout) hactive.whole
    hactive.remaining (by rw [hbuffer]; exact hwritten.emptied) rfl
    (by rw [hpointer]; exact hopen.control.single)
  refine hwHandleBuffStatus_reports hopen hactive hwritten.bufStatus hwritten.disarmed hcontinue
    rfl rfl ?_ (by omega) hwritten.loaded.bugger
  show ((s.hcd.epPool e.slot).xferredLen + bufLen (c.memory.readWord c.ep.bufferControl)).toNat = _
  rw [hactive.counted, UInt16.zero_add, hbuffer]
  exact hwritten.loaded.length

end Complete

/-! ## The whole interrupt handler -/

/-- The causes behind the buffers stop core 0 or do nothing. -/
theorem handleCauses_final (causes : List Cause) (s : Slave) :
    Program.final (handleCauses causes s) = s := by
  have hstops (cause : Cause) (text : String) :
      Program.Moves (fun s t : Slave => s = t) (Program.when (cause ∈ causes) (error text)) :=
    .when (.stop _)
  exact (Program.Moves.bind (hstops _ _) fun _ => .bind (hstops _ _) fun _ =>
    .bind (hstops _ _) fun _ => hstops _ _) s |>.symm

/-- Only the state in which core 0 stops tells the causes apart. -/
theorem hcdRp2040Irq_final (causes : List Cause) {buffStatus : Bool} {s t : Slave}
    (hrun : Program.when buffStatus hwHandleBuffStatus s = .ok () t)
    (hsetup : hasBits t.hcd.sieCtrl sieCtrlSendSetup = false) (transComplete : Bool) :
    Program.final (hcdRp2040Irq causes buffStatus transComplete s) =
      acknowledged transComplete t := by
  have hnone : hcdRp2040Irq [] buffStatus transComplete s = .ok () (acknowledged transComplete t) :=
    hcdRp2040Irq_after (List.forall_mem_nil _) buffStatus hrun hsetup transComplete
  unfold hcdRp2040Irq at hnone ⊢
  rw [Program.bind_ok hrun, Program.bind_apply] at hnone ⊢
  split at hnone
  · cases hnone
    exact handleCauses_final causes _
  · cases hnone

end UsbSec.Host
