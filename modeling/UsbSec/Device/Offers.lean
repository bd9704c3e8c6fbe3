import UsbSec.Device.Housing
import UsbSec.Device.Silence

/-!
# The packets that the host is offered

The controller offers the packet in the buffer of an IN endpoint while the buffer control word says
so. The packet was copied there when it was handed to the driver, and what is done for another
endpoint does not touch it: the buffers lie apart. Nothing that is left of a transfer is offered by
itself, as long as what is handed over fits into one packet.
-/

namespace UsbSec.Device

open Library Usb Rp2040

/-! ## Offers -/

/-- The word of a buffer that the host may take a packet from. -/
def IsOffered (word : BitVec 32) : Prop :=
  (hasBits word bufCtrlAvail && hasBits word bufCtrlFull) = true

instance (word : BitVec 32) : Decidable (IsOffered word) := inferInstanceAs (Decidable (_ = _))

/-- The packet that the host gets when it asks the IN endpoint for one. -/
def offer (d : Dcd) (num : Nat) : Option (List UInt8) :=
  (sendIn d num).map fun _ => offeredBytes d num

theorem sendIn_of_offered {d : Dcd} {num base : Nat}
    (hbuffer : controllerBuffer d num true = some base)
    (hword : IsOffered (d.memory.word (epBufCtrl num true))) :
    sendIn d num = some { d with
      memory := d.memory.writeWord (some (epBufCtrl num true))
        (d.memory.word (epBufCtrl num true) &&& ~~~(bufCtrlAvail ||| bufCtrlFull))
      bufStatus := d.bufStatus ||| bufStatusBit (2 * num) } := by
  unfold sendIn
  rw [hbuffer]
  simp only [Option.bind_eq_bind, Option.bind_some]
  rw [show (guard ((hasBits (d.memory.word (epBufCtrl num true)) bufCtrlAvail &&
    hasBits (d.memory.word (epBufCtrl num true)) bufCtrlFull) = true) : Option Unit) =
      some () from if_pos hword]
  rfl

theorem sendIn_eq_some {d e : Dcd} {num : Nat} (h : sendIn d num = some e) :
    ∃ base, controllerBuffer d num true = some base ∧
      IsOffered (d.memory.word (epBufCtrl num true)) := by
  simp only [sendIn, Option.bind_eq_bind, Option.bind_eq_some_iff] at h
  obtain ⟨base, hbuffer, _, hguard, -⟩ := h
  refine ⟨base, hbuffer, ?_⟩
  unfold IsOffered
  by_contra hnot
  rw [show (guard _ : Option Unit) = none from if_neg hnot] at hguard
  cases hguard

theorem offer_eq_some {d : Dcd} {num : Nat} {bytes : List UInt8} :
    offer d num = some bytes ↔ ∃ base, controllerBuffer d num true = some base ∧
      IsOffered (d.memory.word (epBufCtrl num true)) ∧
      d.memory.data.bytesAt base (bufLen (d.memory.word (epBufCtrl num true))).toNat = bytes := by
  have hbytes {base : Nat} (hbuffer : controllerBuffer d num true = some base) :
      offeredBytes d num =
        d.memory.data.bytesAt base (bufLen (d.memory.word (epBufCtrl num true))).toNat := by
    unfold offeredBytes
    rw [hbuffer]
  unfold offer
  constructor
  · intro h
    obtain ⟨e, hsend, hoffered⟩ := Option.map_eq_some_iff.mp h
    obtain ⟨base, hbuffer, hword⟩ := sendIn_eq_some hsend
    exact ⟨base, hbuffer, hword, (hbytes hbuffer).symm.trans hoffered⟩
  · rintro ⟨base, hbuffer, hword, hoffered⟩
    rw [sendIn_of_offered hbuffer hword, Option.map_some, hbytes hbuffer, hoffered]

/-- The engine starts no further packet on this channel: nothing remains of the transfer, or its
last packet was short. -/
def Finished (c : Rp2040.Channel) : Prop :=
  c.ep.remainingLen = 0 ∨
    IsShort (bufLen (c.memory.readWord c.ep.bufferControl)) c.ep.wMaxPacketSize

/-- No packet of a cleared endpoint is long. -/
theorem finished_clear {c : Rp2040.Channel} (h : c.ep.shape = HwEndpoint.zero.shape) : Finished c :=
  .inr (.inr (congrArg Shape.wMaxPacketSize h))

/-- Every packet that the host is offered fits its buffer and is allowed, and the engine offers no
other by itself. -/
structure OffersOnly (allowed : Nat → List UInt8 → Prop) (d : Dcd) : Prop extends Housed d where
  finished : ∀ num < usbMaxEndpoints, Finished (d.channel num true)
  offered : ∀ num < usbMaxEndpoints, ∀ bytes, offer d num = some bytes →
    bytes.length ≤ homeSize d num true ∧ allowed num bytes

/-- What is written into the buffer of endpoint 0 for the OUT direction does not meet a packet for
the IN direction, which uses the same buffer. -/
def SparesControl (num : Nat) (dirIn : Bool) (d : Dcd) : Prop :=
  num = 0 → dirIn = false → (offer d 0).getD [] = []

instance (num : Nat) (dirIn : Bool) (d : Dcd) : Decidable (SparesControl num dirIn d) :=
  inferInstanceAs (Decidable (_ → _ → _))

/-- Data are written in the part of the buffer that the endpoint uses. -/
def WritesAtHome (num : Nat) (dirIn : Bool) (d e : Dcd) : Prop :=
  ∀ i, e.memory.data i ≠ d.memory.data i → SparesControl num dirIn d ∧
    ∃ base, (d.hwEndpoints num dirIn).hwDataBuf = some base ∧ base ≤ i ∧
      i < base + homeSize d num dirIn

theorem writesAtHome_same {num : Nat} {dirIn : Bool} {d e : Dcd}
    (h : e.memory.data = d.memory.data) : WritesAtHome num dirIn d e :=
  fun i hne => absurd (congrFun h i) hne

section Offers

variable {allowed : Nat → List UInt8 → Prop} {d e : Dcd} {num : Nat} {dirIn : Bool}

/-- An endpoint stays finished while its word is the same, unless a transfer is started on it. -/
theorem OffersOnly.finished_kept (h : OffersOnly allowed d) (hnum : num < usbMaxEndpoints)
    (hfixed : (e.hwEndpoints num true).fixed = (d.hwEndpoints num true).fixed)
    (hremaining : (d.hwEndpoints num true).remainingLen = 0 →
      (e.hwEndpoints num true).remainingLen = 0)
    (hword : e.memory.word (epBufCtrl num true) = d.memory.word (epBufCtrl num true)) :
    Finished (e.channel num true) := by
  have hshape := shape_of_fixed hfixed
  cases hbase : (d.hwEndpoints num true).hwDataBuf with
  | none => exact finished_clear (hshape.trans ((h.opened num hnum true).clear hbase))
  | some base =>
      obtain ⟨-, hbuffer⟩ := (h.opened num hnum true).registers hbase
      have hbuffer' : (e.hwEndpoints num true).bufferControl = some (epBufCtrl num true) :=
        (congrArg Shape.bufferControl hshape).trans hbuffer
      have hsize : (e.hwEndpoints num true).wMaxPacketSize =
          (d.hwEndpoints num true).wMaxPacketSize := congrArg Shape.wMaxPacketSize hshape
      rcases h.finished num hnum with hzero | hshort
      · exact .inl (hremaining hzero)
      · refine .inr ?_
        unfold Dcd.channel at hshort ⊢
        dsimp only at hshort ⊢
        rw [hbuffer] at hshort
        rw [hbuffer', hsize]
        show IsShort (bufLen (e.memory.word (epBufCtrl num true))) _
        rw [hword]
        exact hshort

/-- What the host is offered depends on the registers and the data of the controller only. -/
theorem offer_congr (hbuffer : controllerBuffer e num true = controllerBuffer d num true)
    (hword : e.memory.word (epBufCtrl num true) = d.memory.word (epBufCtrl num true))
    (hdata : e.memory.data = d.memory.data) : offer e num = offer d num := by
  apply Option.ext
  intro bytes
  rw [offer_eq_some, offer_eq_some, hbuffer, hword, hdata]

/-- The offers stay as they are while the registers and the data of the controller do. -/
theorem OffersOnly.of_progress (h : OffersOnly allowed d) (hprogress : OnlyProgress d e)
    (hremaining : ∀ num, (d.hwEndpoints num true).remainingLen = 0 →
      (e.hwEndpoints num true).remainingLen = 0)
    (hnext : e.nextBufferPtr = d.nextBufferPtr) (hword : e.memory.word = d.memory.word)
    (hdata : SameData d.memory e.memory) : OffersOnly allowed e := by
  have hbuffer (num : Nat) (dirIn : Bool) :
      controllerBuffer e num dirIn = controllerBuffer d num dirIn :=
    controllerBuffer_congr fun _ _ => .inl (congrFun hword _)
  have hmode : DeviceMode e.memory := by
    have hbefore := h.arranged.deviceMode
    unfold DeviceMode at hbefore ⊢
    rwa [hdata.mainCtrl]
  constructor
  case toHoused =>
    refine ⟨h.wired.of_progress hprogress, h.arranged.of_same hnext hprogress hmode,
      fun num hnum dirIn => ?_, fun num hnum dirIn => (h.opened num hnum dirIn).of_fixed
        (hprogress num dirIn)⟩
    rw [hbuffer, h.located num hnum dirIn]
    exact (congrArg Shape.hwDataBuf (shape_of_fixed (hprogress num dirIn))).symm
  case finished =>
    exact fun num hnum => h.finished_kept hnum (hprogress num true) (hremaining num)
      (congrFun hword _)
  case offered =>
    intro num hnum bytes hoffer
    have hsize : homeSize e num true = homeSize d num true := by
      unfold homeSize
      rw [show (e.hwEndpoints num true).wMaxPacketSize = (d.hwEndpoints num true).wMaxPacketSize from
        congrArg Shape.wMaxPacketSize (shape_of_fixed (hprogress num true))]
    rw [hsize]
    rw [offer_congr (hbuffer num true) (congrFun hword _) hdata.data] at hoffer
    exact h.offered num hnum bytes hoffer

/-- Work on one endpoint leaves the offers on the others as they are. -/
theorem OffersOnly.onEndpoint (h : OffersOnly allowed d) (hnum : num < usbMaxEndpoints)
    (hwork : OnEndpoint num dirIn d e) (hdata : WritesAtHome num dirIn d e)
    (hown : dirIn = true → Finished (e.channel num true) ∧ ∀ bytes, offer e num = some bytes →
      bytes.length ≤ homeSize d num true ∧ allowed num bytes) : OffersOnly allowed e := by
  refine ⟨hwork.housed h.toHoused, fun other hother => ?_, fun other hother bytes hoffer => ?_⟩
  · by_cases hsame : other = num ∧ true = dirIn
    · obtain ⟨rfl, rfl⟩ := hsame
      exact (hown rfl).1
    · refine h.finished_kept hother (hwork.progress other true) ?_
        (hwork.others _ (notOwn_epBufCtrl hnum hsame))
      rw [hwork.elsewhere other true hsame]
      exact id
  rw [hwork.homeSize]
  by_cases hsame : other = num ∧ true = dirIn
  · obtain ⟨rfl, rfl⟩ := hsame
    exact (hown rfl).2 bytes hoffer
  obtain ⟨base, hbuffer, hword, rfl⟩ := offer_eq_some.mp hoffer
  rw [hwork.controllerBuffer] at hbuffer
  rw [hwork.others _ (notOwn_epBufCtrl hnum hsame)] at hword ⊢
  have hbefore := h.offered other hother _ (offer_eq_some.mpr ⟨base, hbuffer, hword, rfl⟩)
  have hlength := hbefore.1
  rw [Buffer.length_bytesAt] at hlength
  have hhome : (d.hwEndpoints other true).hwDataBuf = some base :=
    (h.located other hother true).symm.trans hbuffer
  have hkept : ∀ i, base ≤ i → i < base + (bufLen (d.memory.word (epBufCtrl other true))).toNat →
      e.memory.data i = d.memory.data i := by
    intro i hlow hhigh
    by_contra hchanged
    obtain ⟨hspares, ownBase, hownBase, hownLow, hownHigh⟩ := hdata i hchanged
    by_cases hzero : num = 0 ∧ other = 0
    · obtain ⟨rfl, rfl⟩ := hzero
      have hout : dirIn = false := by
        cases dirIn
        · rfl
        · exact absurd ⟨rfl, rfl⟩ hsame
      have hnone := hspares rfl hout
      rw [offer_eq_some.mpr ⟨base, hbuffer, hword, rfl⟩, Option.getD_some] at hnone
      have hempty := congrArg List.length hnone
      rw [Buffer.length_bytesAt, List.length_nil] at hempty
      omega
    · rcases h.apart hnum hother hsame hzero hownBase hhome with hbefore | hbehind
      · omega
      · omega
  rw [Buffer.bytesAt_congr hkept]
  exact hbefore

/-! ## Starting a transfer -/

/-- The memory with the bytes in the buffer of an endpoint that sends. -/
def loadedAt (d : Dcd) (num : Nat) (dirIn : Bool) (bytes : List UInt8) : Memory :=
  if (d.hwEndpoints num dirIn).rx then d.memory
  else d.memory.load (d.hwEndpoints num dirIn).hwDataBuf bytes

theorem loadedAt_word (bytes : List UInt8) : (loadedAt d num dirIn bytes).word = d.memory.word := by
  unfold loadedAt
  split
  · rfl
  · exact Memory.load_word _ _ _

theorem loadedAt_deviceMode {bytes : List UInt8} (h : DeviceMode d.memory) :
    DeviceMode (loadedAt d num dirIn bytes) := by
  unfold loadedAt
  split
  · exact h
  · unfold DeviceMode at h ⊢
    rwa [Memory.load_mainCtrl]

/-- The registers after a buffer is armed depend on the registers before only. -/
theorem armedMemory_word (word : BitVec 32) {c s : Rp2040.Channel} {first second : Memory}
    (hshape : s.ep.shape = c.ep.shape) (hregisters : s.memory.word = c.memory.word)
    (h : first.word = second.word) :
    (armedMemory word s first).word = (armedMemory word c second).word := by
  have hbuffer : s.ep.bufferControl = c.ep.bufferControl := congrArg Shape.bufferControl hshape
  have hcontrol : s.ep.endpointControl = c.ep.endpointControl :=
    congrArg Shape.endpointControl hshape
  have hwrite (offset : Nat) (value : BitVec 32) {first second : Memory}
      (h : first.word = second.word) :
      (first.writeWord (some offset) value).word = (second.writeWord (some offset) value).word := by
    show Function.update first.word offset value = Function.update second.word offset value
    rw [h]
  unfold armedMemory
  rw [hbuffer, hcontrol]
  have hfirst : (first.writeWord c.ep.endpointControl (singleBuffered
        (s.memory.readWord c.ep.endpointControl))).word =
      (second.writeWord c.ep.endpointControl (singleBuffered
        (c.memory.readWord c.ep.endpointControl))).word := by
    cases c.ep.endpointControl with
    | none => exact h
    | some offset =>
        show (first.writeWord (some offset) (singleBuffered (s.memory.word offset))).word = _
        rw [hregisters]
        exact hwrite offset _ h
  cases c.ep.bufferControl with
  | none => exact hfirst
  | some offset => exact hwrite offset word hfirst

/-- Arming the buffer of an endpoint is work on that endpoint. -/
theorem onEndpoint_of_armed (word : BitVec 32) (hd : Housed d) (hnum : num < usbMaxEndpoints)
    {c : Rp2040.Channel} (hfixed : c.ep.fixed = (d.hwEndpoints num dirIn).fixed)
    (hmode : DeviceMode d.memory → DeviceMode c.memory)
    (hword : c.memory.word = (armedMemory word (d.channel num dirIn) d.memory).word) :
    OnEndpoint num dirIn d (d.withChannel num dirIn c) := by
  have hown := hd.wired.own num hnum dirIn
  refine onEndpoint_of_channel hd.wired hnum hfixed hmode (fun offset hbuffer hcontrol => ?_)
    fun offset hcontrol => .inr ?_
  · have hpointer : (d.channel num dirIn).ep.bufferControl ≠ some offset := hbuffer
    have hregister : (d.channel num dirIn).ep.endpointControl ≠ some offset := hcontrol
    rw [hword]
    unfold armedMemory
    rw [writeWord_of_ne hpointer, writeWord_of_ne hregister]
  · have hpointer : (d.channel num dirIn).ep.bufferControl ≠ some offset := by
      intro hsame
      obtain ⟨-, hregister⟩ := hown.endpointControl offset hcontrol
      exact epBufCtrl_ne_epCtrl hnum ((hown.bufferControl offset hsame).symm.trans hregister)
    rw [hword]
    unfold armedMemory
    rw [writeWord_of_ne hpointer, show (d.channel num dirIn).ep.endpointControl = some offset from
      hcontrol, Memory.writeWord_same]
    rfl

theorem armed_onEndpoint (hd : Housed d) (hnum : num < usbMaxEndpoints) {c : Rp2040.Channel}
    {word : BitVec 32} {bytes : List UInt8}
    (hfixed : c.ep.fixed = (d.hwEndpoints num dirIn).fixed)
    (hmemory : c.memory = armedMemory word (d.channel num dirIn) (loadedAt d num dirIn bytes)) :
    OnEndpoint num dirIn d (d.withChannel num dirIn c) := by
  refine onEndpoint_of_armed word hd hnum hfixed (fun hmode => ?_) ?_
  · have hsame : c.memory.mainCtrl = (loadedAt d num dirIn bytes).mainCtrl := by
      rw [hmemory]
      exact (armedMemory_sameData _ _ _).mainCtrl
    unfold DeviceMode
    rw [hsame]
    exact loadedAt_deviceMode hmode
  · rw [hmemory]
    exact armedMemory_word _ rfl rfl (loadedAt_word bytes)

theorem armed_data (hd : Housed d) (hnum : num < usbMaxEndpoints) {c : Rp2040.Channel}
    {word : BitVec 32} {bytes : List UInt8}
    (hmemory : c.memory = armedMemory word (d.channel num dirIn) (loadedAt d num dirIn bytes))
    (hsize : dirIn = true → (d.hwEndpoints num dirIn).hwDataBuf ≠ none →
      bytes.length ≤ homeSize d num dirIn) :
    WritesAtHome num dirIn d (d.withChannel num dirIn c) := by
  have hdata : (d.withChannel num dirIn c).memory.data = (loadedAt d num dirIn bytes).data := by
    show c.memory.data = _
    rw [hmemory]
    exact (armedMemory_sameData _ _ _).data
  intro i hchanged
  rw [hdata] at hchanged
  unfold loadedAt at hchanged
  split at hchanged
  · exact absurd rfl hchanged
  rename_i hrx
  cases hbase : (d.hwEndpoints num dirIn).hwDataBuf with
  | none =>
      rw [hbase] at hchanged
      exact absurd rfl hchanged
  | some base =>
      rw [hbase] at hchanged
      obtain ⟨hdirection, -⟩ := (hd.opened num hnum dirIn).registers hbase
      have hin : dirIn = true := by
        cases dirIn
        · exact absurd hdirection hrx
        · rfl
      have hlength := hsize hin (by rw [hbase]; exact Option.some_ne_none _)
      refine ⟨fun _ hout => absurd (hin.symm.trans hout) (by decide), base, rfl, ?_, ?_⟩
      · by_contra hlow
        exact hchanged (Buffer.writeAt_of_lt _ _ (Nat.not_le.mp hlow))
      · by_contra hhigh
        exact hchanged (Buffer.writeAt_of_le _ _ (by omega))

/-- Arming the buffer of an endpoint offers what is loaded into it. -/
theorem OffersOnly.armed (h : OffersOnly allowed d) (hnum : num < usbMaxEndpoints) {c : Rp2040.Channel}
    {word : BitVec 32} {bytes : List UInt8}
    (hfixed : c.ep.fixed = (d.hwEndpoints num dirIn).fixed)
    (hmemory : c.memory = armedMemory word (d.channel num dirIn) (loadedAt d num dirIn bytes))
    (hsends : dirIn = true → (d.hwEndpoints num dirIn).hwDataBuf ≠ none →
      c.ep.remainingLen = 0 ∧ (bufLen word).toNat = bytes.length ∧
        bytes.length ≤ homeSize d num dirIn ∧ allowed num bytes) :
    OffersOnly allowed (d.withChannel num dirIn c) := by
  have hwork := armed_onEndpoint h.toHoused hnum hfixed hmemory
  have hdata := armed_data h.toHoused hnum hmemory fun hin hopen => (hsends hin hopen).2.2.1
  refine h.onEndpoint hnum hwork hdata fun hin => ?_
  subst hin
  have hchannel : (d.withChannel num true c).channel num true = c := by
    unfold Dcd.channel
    rw [show (d.withChannel num true c).hwEndpoints num true = c.ep from
      Dcd.setEndpoint_same _ _ _ _]
    rfl
  rw [hchannel]
  cases hbase : (d.hwEndpoints num true).hwDataBuf with
  | none =>
      refine ⟨finished_clear ?_, fun other hoffer => ?_⟩
      · exact (shape_of_fixed hfixed).trans ((h.opened num hnum true).clear hbase)
      · obtain ⟨base, hbuffer, -⟩ := offer_eq_some.mp hoffer
        rw [hwork.controllerBuffer, h.located num hnum true, hbase] at hbuffer
        cases hbuffer
  | some base =>
      obtain ⟨hremaining, hlength, hsize, hallowed⟩ :=
        hsends rfl (by rw [hbase]; exact Option.some_ne_none _)
      refine ⟨.inl hremaining, fun other hoffer => ?_⟩
      obtain ⟨found, hbuffer, -, rfl⟩ := offer_eq_some.mp hoffer
      rw [hwork.controllerBuffer, h.located num hnum true, hbase] at hbuffer
      cases hbuffer
      obtain ⟨hrx, hcontrol⟩ := (h.opened num hnum true).registers hbase
      have hword : (d.withChannel num true c).memory.word (epBufCtrl num true) = word := by
        show c.memory.word _ = word
        rw [hmemory]
        unfold armedMemory
        rw [show (d.channel num true).ep.bufferControl = some (epBufCtrl num true) from hcontrol,
          Memory.writeWord_same]
      have hloaded : (d.withChannel num true c).memory.data = d.memory.data.writeAt base bytes := by
        show c.memory.data = _
        rw [hmemory, (armedMemory_sameData _ _ _).data]
        unfold loadedAt
        rw [if_neg (by rw [hrx]; decide), hbase]
        rfl
      have hbytes : (d.withChannel num true c).memory.data.bytesAt base (bufLen
          ((d.withChannel num true c).memory.word (epBufCtrl num true))).toNat = bytes := by
        rw [hword, hlength, hloaded]
        exact Buffer.bytesAt_writeAt_same _ _ _
      rw [hbytes]
      exact ⟨hsize, hallowed⟩

/-- The packet fits the endpoint, which is open, or nothing is open there. -/
def FitsEndpoint (length : UInt16) (ep : HwEndpoint) : Prop :=
  ep.hwDataBuf = none ∨ length ≤ 64 ∧ length ≤ ep.wMaxPacketSize

instance (length : UInt16) (ep : HwEndpoint) : Decidable (FitsEndpoint length ep) :=
  inferInstanceAs (Decidable (_ ∨ _))

/-- A packet that fits its endpoint fits the part of the buffer that the endpoint uses. -/
theorem le_homeSize {length : UInt16} (h : length ≤ 64)
    (hsize : length ≤ (d.hwEndpoints num dirIn).wMaxPacketSize) :
    length.toNat ≤ homeSize d num dirIn := by
  have hnat : length.toNat ≤ 64 := h
  have hmax : length.toNat ≤ (d.hwEndpoints num dirIn).wMaxPacketSize.toNat := hsize
  unfold homeSize
  split
  · exact hnat
  · exact hmax

/-- Starting a transfer of one packet offers the bytes of the packet, if the endpoint sends. -/
theorem hwEndpointXferStart_offers {buffer : UserBuf} {total : UInt16} (hnum : num < usbMaxEndpoints)
    (hsends : dirIn = true → FitsEndpoint total (d.hwEndpoints num true) ∧
      allowed num (buffer.bytes d.memory total.toNat))
    (hd : OffersOnly allowed d) {e : Dcd}
    (h : withEndpoint num dirIn (hwEndpointXferStart .master buffer total) d = .ok () e) :
    OffersOnly allowed e := by
  obtain ⟨c, hrun, rfl⟩ := Program.onPart_eq_ok h
  have hfixed : c.ep.fixed = (d.hwEndpoints num dirIn).fixed :=
    (hwEndpointXferStart_same_fixed .master buffer total).ok hrun
  by_cases hwhole : dirIn = true ∧ (d.hwEndpoints num dirIn).hwDataBuf ≠ none
  · obtain ⟨rfl, hopen⟩ := hwhole
    obtain ⟨hfits, hallowed⟩ := hsends rfl
    obtain ⟨hle, hsize⟩ := hfits.resolve_left hopen
    have hnat : total.toNat ≤ 64 := hle
    obtain ⟨hcan, rfl⟩ :=
      (hwEndpointXferStart_whole (c := d.channel num true) hsize).ok hrun
    have hrx : (d.hwEndpoints num true).rx = false := (hd.wired.own num hnum true).direction rfl
    have hlength := UserBuf.length_bytes (hcan hrx).1 (d.channel num true).memory
    refine hd.armed hnum hfixed rfl fun _ _ => ?_
    refine ⟨rfl, ?_, ?_, hallowed⟩
    · rw [hlength]
      exact (wholeWord_arms _ (by omega)).length
    · rw [hlength]
      exact le_homeSize hle hsize
  · have hmode : DeviceMode (freshChannel buffer total (d.channel num dirIn)).memory :=
      hd.arranged.deviceMode
    have hstart := (hwEndpointXferStart_eq buffer total (d.channel num dirIn)).symm.trans hrun
    obtain ⟨-, rfl⟩ := (startNextBufferMaster_outcome hmode).ok hstart
    exact hd.armed hnum hfixed rfl fun hin hopen => absurd ⟨hin, hopen⟩ hwhole

/-- A part of a transfer arms the buffer, whatever is loaded into it. -/
theorem hwEndpointXferPartial_arms {buffer : UserBuf} {total : UInt16} {c e : Rp2040.Channel}
    (h : hwEndpointXferPartial .master buffer total c = .ok () e) :
    ∃ word bytes, e.memory = armedMemory word c
      (if c.ep.rx then c.memory else c.memory.load c.ep.hwDataBuf bytes) := by
  let fresh : Rp2040.Channel := { c with ep := { c.ep with
    remainingLen := total, xferredLen := 0, active := true, userBuf := buffer
    isPartial := true } }
  have houtcome : Program.Outcome (hwEndpointXferPartial .master buffer total) c
      (fun _ d => ∃ word, d.memory = armedMemory word c (nextLoaded .master fresh))
      fun _ => True := by
    refine .of_eq (Program.update_bind _ _ _) (.read_bind ?_)
    refine .bind ((prepareEpBuffer_outcome fresh).mono (fun _ _ hd => hd) fun _ _ => trivial) ?_
    intro word d hd
    obtain ⟨-, -, rfl⟩ := hd
    refine .read_bind (.ite (fun _ => .stop trivial) fun _ => ?_)
    refine .of_eq (Program.update_bind _ _ _) (.of_eq (Program.update_bind _ _ _) ?_)
    exact .of_ok (hwEndpointBufferControlSetValue32_apply _ _) ⟨_, rfl⟩
  obtain ⟨word, hmemory⟩ := houtcome.ok h
  exact ⟨word, _, hmemory⟩

/-- A part of a transfer offers the bytes of the part. -/
theorem hwEndpointXferPartial_offers {buffer : UserBuf} {total : UInt16}
    (hnum : num < usbMaxEndpoints) (hfits : FitsEndpoint total (d.hwEndpoints num true))
    (hallowed : allowed num (buffer.bytes d.memory total.toNat)) (hd : OffersOnly allowed d)
    (h : withEndpoint num true (hwEndpointXferPartial .master buffer total) d = .ok () e) :
    OffersOnly allowed e := by
  obtain ⟨c, hrun, rfl⟩ := Program.onPart_eq_ok h
  have hfixed : c.ep.fixed = (d.hwEndpoints num true).fixed :=
    (hwEndpointXferPartial_same_fixed .master buffer total).ok hrun
  by_cases hopen : (d.hwEndpoints num true).hwDataBuf = none
  · obtain ⟨word, bytes, hmemory⟩ := hwEndpointXferPartial_arms hrun
    exact hd.armed hnum hfixed hmemory fun _ hbuffer => absurd hopen hbuffer
  · obtain ⟨hle, hsize⟩ := hfits.resolve_left hopen
    have hnat : total.toNat ≤ 64 := hle
    obtain ⟨-, hcan, rfl⟩ :=
      (hwEndpointXferPartial_whole (c := d.channel num true) fun _ => hsize).ok hrun
    have hrx : (d.hwEndpoints num true).rx = false := (hd.wired.own num hnum true).direction rfl
    have hlength := UserBuf.length_bytes (hcan hrx).1 (d.channel num true).memory
    refine hd.armed hnum hfixed rfl fun _ _ => ⟨rfl, ?_, ?_, hallowed⟩
    · rw [hlength]
      exact (partWord_arms _ (by omega)).length
    · rw [hlength]
      exact le_homeSize hle hsize

/-! ## Completed buffers -/

/-- Taking note of a completed buffer writes no registers and no data of the controller. -/
structure Synced (c d : Rp2040.Channel) : Prop where
  fixed : d.ep.fixed = c.ep.fixed
  word : d.memory.word = c.memory.word
  data : SameData c.memory d.memory

instance : IsPreorder Rp2040.Channel Synced where
  refl _ := ⟨rfl, rfl, ⟨rfl, rfl⟩⟩
  trans _ _ _ h k := ⟨k.fixed.trans h.fixed, k.word.trans h.word, h.data.trans k.data⟩

theorem syncEpBuffer_synced : Program.Moves Synced (syncEpBuffer .master) := by
  have hset {change : HwEndpoint → HwEndpoint} (h : ∀ ep, (change ep).fixed = ep.fixed) :
      Program.Moves Synced (setEp change) := .update fun c => ⟨h c.ep, rfl, ⟨rfl, rfl⟩⟩
  refine .bind .read fun c => .bind (.ite ?_ ?_) fun _ => .bind .read fun d => .when (hset fun _ => rfl)
  · exact .bind (.require _ _) fun _ => hset fun _ => rfl
  · refine .bind (.when (.stop _)) fun _ => .bind .read fun d => ?_
    refine .bind (.when (hset fun _ => rfl)) fun _ => .bind .read fun e => ?_
    refine .bind (readData_moves _ _) fun bytes => .bind ?_ fun _ => ?_
    · cases e.ep.userBuf with
      | null => exact .require _ _
      | payload _ _ => exact .require _ _
      | bugger offset | reserveBugger offset | object offset =>
          exact .bind (.require _ _) fun _ => .update fun _ => ⟨rfl, rfl, ⟨rfl, rfl⟩⟩
    · exact .bind (hset fun _ => rfl) fun _ => .when (hset fun _ => rfl)

/-- After a completed buffer of an endpoint that sends and is finished, nothing remains. -/
theorem syncEpBuffer_finished {c d : Rp2040.Channel} (hrx : c.ep.rx = false) (hc : Finished c)
    (h : syncEpBuffer .master c = .ok () d) : d.memory = c.memory ∧ d.ep.remainingLen = 0 := by
  have houtcome : Program.Outcome (syncEpBuffer .master) c
      (fun _ d => d.memory = c.memory ∧ d.ep.remainingLen = 0) fun _ => True := by
    refine .read_bind ?_
    dsimp only
    rw [if_pos hrx]
    refine .bind (P := fun _ d => d.memory = c.memory ∧
      d.ep.remainingLen = c.ep.remainingLen ∧ d.ep.wMaxPacketSize = c.ep.wMaxPacketSize)
      (.require_bind (fun _ => .of_ok rfl ⟨rfl, rfl, rfl⟩) fun _ => trivial) fun _ d hd => ?_
    obtain ⟨hmemory, hremaining, hsize⟩ := hd
    refine .read_bind (.when (fun _ => .of_ok rfl ⟨hmemory, rfl⟩) fun hlong => ⟨hmemory, ?_⟩)
    rw [hsize] at hlong
    exact hremaining.trans (hc.resolve_right hlong)
  exact houtcome.ok h

/-- A transfer to the host that is finished is not continued. -/
theorem hwEndpointXferContinue_finished {c d : Rp2040.Channel} {done : Bool}
    (hrx : c.ep.rx = false) (hc : Finished c)
    (h : hwEndpointXferContinue .master c = .ok done d) :
    d.memory = c.memory ∧ (c.ep.remainingLen = 0 → d.ep.remainingLen = 0) := by
  have houtcome : Program.Outcome (hwEndpointXferContinue .master) c
      (fun _ d => d.memory = c.memory ∧ (c.ep.remainingLen = 0 → d.ep.remainingLen = 0))
      fun _ => True := by
    refine .read_bind (.ite (fun _ => .of_ok rfl ⟨rfl, id⟩) fun _ => ?_)
    refine .bind (P := fun _ d => d.memory = c.memory ∧ d.ep.remainingLen = 0) ?_ fun _ d hd => ?_
    · cases hrun : syncEpBuffer .master c with
      | ok value d => exact .of_ok hrun (syncEpBuffer_finished hrx hc hrun)
      | error reason d => exact .of_error hrun trivial
    refine .read_bind (.ite (fun _ => .stop trivial) fun _ => ?_)
    exact .ite (fun _ => .of_ok rfl ⟨hd.1, fun _ => hd.2⟩) fun hmore => absurd hd.2 hmore
  exact houtcome.ok h

/-- A transfer from the host is continued with the same registers, or its buffer is armed again. -/
theorem hwEndpointXferContinue_continued {c e : Rp2040.Channel} {done : Bool}
    (hrx : c.ep.rx = true) (hmode : DeviceMode c.memory)
    (h : hwEndpointXferContinue .master c = .ok done e) :
    SameData c.memory e.memory ∧ (e.memory.word = c.memory.word ∨
      ∃ word, e.memory.word = (armedMemory word c c.memory).word) := by
  have houtcome : Program.Outcome (hwEndpointXferContinue .master) c
      (fun _ e => SameData c.memory e.memory ∧ (e.memory.word = c.memory.word ∨
        ∃ word, e.memory.word = (armedMemory word c c.memory).word)) fun _ => True := by
    refine .read_bind (.ite (fun _ => .of_ok rfl ⟨⟨rfl, rfl⟩, .inl rfl⟩) fun _ => ?_)
    refine .bind (.of_moves syncEpBuffer_synced (fun _ _ h => h) fun _ _ => trivial) fun _ s hs => ?_
    refine .read_bind (.ite (fun _ => .stop trivial) fun _ => .ite (fun _ => ?_) fun _ => ?_)
    · exact .of_ok rfl ⟨hs.data, .inl hs.word⟩
    have hmode' : DeviceMode s.memory := by
      unfold DeviceMode at hmode ⊢
      rwa [hs.data.mainCtrl]
    have hreceives : s.ep.rx = true := (eq_of_fixed (fun _ => rfl) hs.fixed).trans hrx
    refine .bind ((startNextBufferMaster_outcome hmode').mono (fun _ _ h => h.2) fun _ _ => trivial) ?_
    rintro _ _ rfl
    have hloaded : nextLoaded .master s = s.memory := if_pos hreceives
    refine .of_ok rfl ⟨?_, .inr ⟨bufferWord .master s.ep, ?_⟩⟩
    · refine hs.data.trans ?_
      unfold nextMemory
      rw [hloaded]
      exact armedMemory_sameData _ _ _
    · unfold nextMemory
      rw [hloaded]
      exact armedMemory_word _ (shape_of_fixed hs.fixed) hs.word hs.word
  exact houtcome.ok h

theorem onlyProgress_withChannel {c : Rp2040.Channel}
    (hfixed : c.ep.fixed = (d.hwEndpoints num dirIn).fixed) :
    OnlyProgress d (d.withChannel num dirIn c) := by
  intro other dir
  show ((d.setEndpoint num dirIn c.ep).hwEndpoints other dir).fixed = _
  by_cases hsame : other = num ∧ dir = dirIn
  · obtain ⟨rfl, rfl⟩ := hsame
    rw [Dcd.setEndpoint_same]
    exact hfixed
  · rw [Dcd.setEndpoint_other _ _ hsame]

/-- Handling a completed buffer offers nothing to the host. -/
theorem hwEndpointXferContinue_offers {done : Bool} (hnum : num < usbMaxEndpoints)
    (hd : OffersOnly allowed d)
    (h : withEndpoint num dirIn (hwEndpointXferContinue .master) d = .ok done e) :
    OffersOnly allowed e := by
  obtain ⟨c, hrun, rfl⟩ := Program.onPart_eq_ok h
  have hfixed : c.ep.fixed = (d.hwEndpoints num dirIn).fixed :=
    (hwEndpointXferContinue_same_fixed .master).ok hrun
  have hprogress := onlyProgress_withChannel hfixed
  cases hrx : (d.hwEndpoints num dirIn).rx with
  | false =>
      have hfinished : Finished (d.channel num dirIn) := by
        rcases hd.opened num hnum dirIn with ⟨-, hdirection, -⟩ | hclear
        · have hin : dirIn = true := by
            cases dirIn
            · exact absurd (hdirection.symm.trans hrx) (by decide)
            · rfl
          subst hin
          exact hd.finished num hnum
        · exact finished_clear (shape_of_fixed hclear)
      obtain ⟨hmemory, hremaining⟩ := hwEndpointXferContinue_finished hrx hfinished hrun
      refine hd.of_progress hprogress (fun other hzero => ?_) rfl (congrArg Memory.word hmemory) ?_
      · show ((d.setEndpoint num dirIn c.ep).hwEndpoints other true).remainingLen = 0
        by_cases hsame : other = num ∧ true = dirIn
        · obtain ⟨rfl, rfl⟩ := hsame
          rw [Dcd.setEndpoint_same]
          exact hremaining hzero
        · rw [Dcd.setEndpoint_other _ _ hsame]
          exact hzero
      · exact ⟨congrArg Memory.data hmemory, congrArg Memory.mainCtrl hmemory⟩
  | true =>
      have hout : dirIn = false := by
        cases dirIn
        · rfl
        · exact absurd (hrx.symm.trans ((hd.wired.own num hnum true).direction rfl)) (by decide)
      subst hout
      obtain ⟨hdata, hword⟩ :=
        hwEndpointXferContinue_continued (c := d.channel num false) hrx hd.arranged.deviceMode hrun
      rcases hword with hsame | ⟨word, hword⟩
      · refine hd.of_progress hprogress (fun other hzero => ?_) rfl hsame hdata
        show ((d.setEndpoint num false c.ep).hwEndpoints other true).remainingLen = 0
        rw [Dcd.setEndpoint_other _ _ fun hplace => absurd hplace.2 (by decide)]
        exact hzero
      · have hmode : DeviceMode d.memory → DeviceMode c.memory := by
          intro hbefore
          unfold DeviceMode at hbefore ⊢
          rwa [hdata.mainCtrl]
        have hwork := onEndpoint_of_armed word hd.toHoused hnum hfixed hmode hword
        exact hd.onEndpoint hnum hwork (writesAtHome_same hdata.data)
          fun hin => absurd hin (by decide)

/-! ## The table -/

/-- Fields of an endpoint are set that say how far its transfer is. -/
theorem setEp_offers {change : HwEndpoint → HwEndpoint}
    (hfixed : ∀ ep, (change ep).fixed = ep.fixed)
    (hremaining : ∀ ep, ep.remainingLen = 0 → (change ep).remainingLen = 0) :
    Program.Moves (Program.Keeps (OffersOnly allowed)) (withEndpoint num dirIn (setEp change)) := by
  intro d hd
  have hother (other : Nat) (dir : Bool) (hsame : ¬ (other = num ∧ dir = dirIn)) :
      (d.setEndpoint num dirIn (change (d.hwEndpoints num dirIn))).hwEndpoints other dir =
        d.hwEndpoints other dir := Dcd.setEndpoint_other _ _ hsame
  refine hd.of_progress (onlyProgress_withChannel (c := ⟨change (d.hwEndpoints num dirIn), d.memory⟩)
    (hfixed _)) (fun other hzero => ?_) rfl rfl ⟨rfl, rfl⟩
  show ((d.setEndpoint num dirIn (change (d.hwEndpoints num dirIn))).hwEndpoints other
    true).remainingLen = 0
  by_cases hsame : other = num ∧ true = dirIn
  · obtain ⟨rfl, rfl⟩ := hsame
    rw [Dcd.setEndpoint_same]
    exact hremaining _ hzero
  · rw [hother other true hsame]
    exact hzero

theorem resetEp0Pid_offers :
    Program.Moves (Program.Keeps (OffersOnly allowed)) resetEp0Pid :=
  .bind (setEp_offers (fun _ => rfl) fun _ => id) fun _ => setEp_offers (fun _ => rfl) fun _ => id

/-- An empty word offers nothing, and leaves nothing to be continued. -/
theorem finished_unarmed (hd : Housed d) (hnum : num < usbMaxEndpoints)
    (hword : d.memory.word (epBufCtrl num true) = 0) : Finished (d.channel num true) := by
  cases hbase : (d.hwEndpoints num true).hwDataBuf with
  | none => exact finished_clear ((hd.opened num hnum true).clear hbase)
  | some base =>
      obtain ⟨-, hbuffer⟩ := (hd.opened num hnum true).registers hbase
      refine .inr ?_
      unfold Dcd.channel
      dsimp only
      rw [hbuffer]
      show IsShort (bufLen (d.memory.word (epBufCtrl num true))) _
      rw [hword]
      by_cases hzero : (d.hwEndpoints num true).wMaxPacketSize = 0
      · exact .inr hzero
      · exact .inl (UInt16.pos_iff_ne_zero.mpr hzero)

theorem offer_unarmed {bytes : List UInt8} (hword : d.memory.word (epBufCtrl num true) = 0) :
    offer d num ≠ some bytes := by
  intro hoffer
  obtain ⟨_, -, hoffered, -⟩ := offer_eq_some.mp hoffer
  rw [hword] at hoffered
  exact absurd hoffered (by decide)

/-- An endpoint that is opened offers nothing at first. -/
theorem dcdEdptOpenNew_offers (desc : EndpointPointer) :
    Program.Ends (Program.Keeps (OffersOnly allowed)) (dcdEdptOpenNew desc) := by
  intro d _ e hrun hd
  obtain ⟨hnum, hsetUp⟩ := hwEndpointInit_setUp hrun
  have hhoused := dcdEdptOpenNew_housed desc d _ e hrun hd.toHoused
  have hother {other : Nat} (hlt : other < usbMaxEndpoints)
      (hne : ¬ (other = (tuEdptNumber desc.bEndpointAddress).toNat ∧
        true = tuEdptDirIn desc.bEndpointAddress)) :
      e.hwEndpoints other true = d.hwEndpoints other true ∧
        e.memory.word (epBufCtrl other true) = d.memory.word (epBufCtrl other true) ∧
        controllerBuffer e other true = controllerBuffer d other true := by
    refine ⟨hsetUp.other _ _ hne, hsetUp.others _ (notOwn_epBufCtrl hnum hne), ?_⟩
    exact controllerBuffer_congr fun hpos _ => .inl (hsetUp.others _ (notOwn_epCtrl hpos hlt hne))
  refine ⟨hhoused, fun other hlt => ?_, fun other hlt bytes hoffer => ?_⟩
  · by_cases hsame : other = (tuEdptNumber desc.bEndpointAddress).toNat ∧
        true = tuEdptDirIn desc.bEndpointAddress
    · refine finished_unarmed hhoused hlt ?_
      have hcleared := hsetUp.cleared
      rwa [← hsame.1, ← hsame.2] at hcleared
    · obtain ⟨hep, hword, -⟩ := hother hlt hsame
      refine hd.finished_kept hlt (congrArg HwEndpoint.fixed hep) ?_ hword
      rw [hep]
      exact id
  · by_cases hsame : other = (tuEdptNumber desc.bEndpointAddress).toNat ∧
        true = tuEdptDirIn desc.bEndpointAddress
    · refine absurd hoffer (offer_unarmed ?_)
      have hcleared := hsetUp.cleared
      rwa [← hsame.1, ← hsame.2] at hcleared
    · obtain ⟨hep, hword, hbuffer⟩ := hother hlt hsame
      rw [offer_congr hbuffer hword hsetUp.memory.data] at hoffer
      have hbefore := hd.offered other hlt bytes hoffer
      unfold homeSize at hbefore ⊢
      rw [hep]
      exact hbefore

/-- After a bus reset only endpoint 0 still offers something. -/
theorem resetNonControlEndpoints_offers :
    Program.Moves (Program.Keeps (OffersOnly allowed)) resetNonControlEndpoints := by
  intro d hd
  have hhoused := resetNonControlEndpoints_housed d hd.toHoused
  let e := Program.final (resetNonControlEndpoints d)
  have hword : e.memory.word (epBufCtrl 0 true) = d.memory.word (epBufCtrl 0 true) := rfl
  refine ⟨hhoused, fun num hlt => ?_, fun num hlt bytes hoffer => ?_⟩
  · by_cases hzero : num = 0
    · subst hzero
      exact hd.finished_kept hlt rfl id hword
    · refine finished_clear ?_
      show (if 1 ≤ num ∧ num < usbMaxEndpoints then HwEndpoint.zero
        else d.hwEndpoints num true).shape = _
      rw [if_pos ⟨Nat.pos_of_ne_zero hzero, hlt⟩]
  · by_cases hzero : num = 0
    · subst hzero
      have hsame : offer e 0 = offer d 0 :=
        offer_congr ((if_pos rfl).trans (if_pos rfl).symm) hword rfl
      exact hd.offered 0 hlt bytes (hsame.symm.trans hoffer)
    · obtain ⟨_, hbuffer, -⟩ := offer_eq_some.mp hoffer
      rw [controllerBuffer_cleared hzero hlt fun _ hlow hhigh => if_pos ⟨hlow, hhigh⟩] at hbuffer
      cases hbuffer

/-- Nothing is offered at first. -/
theorem dcdAfterInit_offers (romWord : BitVec 32) : OffersOnly allowed (dcdAfterInit romWord) := by
  have hhoused := dcdAfterInit_housed romWord
  have hword {num : Nat} (hlt : num < usbMaxEndpoints)
      (hbuffer : controllerBuffer (dcdAfterInit romWord) num true ≠ none) :
      (dcdAfterInit romWord).memory.word (epBufCtrl num true) = 0 := by
    by_cases hzero : num = 0
    · rw [hzero]
      rfl
    · exact absurd (controllerBuffer_cleared hzero hlt fun _ hlow hhigh => if_pos ⟨hlow, hhigh⟩)
        hbuffer
  refine ⟨hhoused, fun num hlt => ?_, fun num hlt bytes hoffer => ?_⟩
  · cases hbase : ((dcdAfterInit romWord).hwEndpoints num true).hwDataBuf with
    | none => exact finished_clear ((hhoused.opened num hlt true).clear hbase)
    | some base =>
        refine finished_unarmed hhoused hlt (hword hlt ?_)
        rw [hhoused.located num hlt true, hbase]
        exact Option.some_ne_none _
  · obtain ⟨_, hbuffer, -⟩ := offer_eq_some.mp hoffer
    refine absurd hoffer (offer_unarmed (hword hlt ?_))
    rw [hbuffer]
    exact Option.some_ne_none _

/-! ## The host -/

/-- What the host has taken is not offered any more, and the other offers stay. -/
theorem sendIn_offers (hd : OffersOnly allowed d) (h : sendIn d num = some e) :
    OffersOnly allowed e ∧ offer e num = none := by
  obtain ⟨base, hbuffer, hword⟩ := sendIn_eq_some h
  have hnum : num < usbMaxEndpoints := controllerBuffer_bounded hbuffer
  rw [sendIn_of_offered hbuffer hword] at h
  cases h
  have hnone : offer { d with
      memory := d.memory.writeWord (some (epBufCtrl num true))
        (d.memory.word (epBufCtrl num true) &&& ~~~(bufCtrlAvail ||| bufCtrlFull))
      bufStatus := d.bufStatus ||| bufStatusBit (2 * num) } num = none := by
    apply Option.eq_none_iff_forall_ne_some.mpr
    intro bytes hoffer
    obtain ⟨_, -, hoffered, -⟩ := offer_eq_some.mp hoffer
    dsimp only at hoffered
    rw [Memory.writeWord_same, IsOffered, hasBits_cleared (by decide)] at hoffered
    cases hoffered
  have hother {offset : Nat} (hne : offset ≠ epBufCtrl num true) :
      (d.memory.writeWord (some (epBufCtrl num true)) (d.memory.word (epBufCtrl num true) &&&
        ~~~(bufCtrlAvail ||| bufCtrlFull))).word offset = d.memory.word offset :=
    Memory.writeWord_other _ _ hne
  have hwork : OnEndpoint num true d { d with
      memory := d.memory.writeWord (some (epBufCtrl num true))
        (d.memory.word (epBufCtrl num true) &&& ~~~(bufCtrlAvail ||| bufCtrlFull))
      bufStatus := d.bufStatus ||| bufStatusBit (2 * num) } := by
    refine ⟨fun _ _ => rfl, fun _ _ _ => rfl, rfl, id, fun offset hnot => hother hnot.1,
      fun _ => .inl (hother ?_)⟩
    exact (epBufCtrl_ne_epCtrl hnum).symm
  refine ⟨hd.onEndpoint hnum hwork (writesAtHome_same rfl) fun _ => ⟨?_, ?_⟩, hnone⟩
  · cases hbase : (d.hwEndpoints num true).hwDataBuf with
    | none => exact finished_clear ((hd.opened num hnum true).clear hbase)
    | some base =>
        obtain ⟨-, hcontrol⟩ := (hd.opened num hnum true).registers hbase
        have hbefore := hd.finished num hnum
        unfold Finished Dcd.channel at hbefore ⊢
        dsimp only at hbefore ⊢
        rw [hcontrol] at hbefore ⊢
        refine hbefore.imp id fun hshort => ?_
        show IsShort (bufLen ((d.memory.writeWord _ _).word (epBufCtrl num true))) _
        rw [Memory.writeWord_same, bufLen_taken]
        exact hshort
  · intro bytes hoffer
    rw [hnone] at hoffer
    cases hoffer

/-- A packet from the host lies apart from what the host is offered. -/
theorem receiveOut_offers {packet : Packet} (hd : OffersOnly allowed d)
    (hspares : packet.bytes ≠ [] → SparesControl num false d)
    (hsize : packet.bytes.length ≤ homeSize d num false) (h : receiveOut d num packet = some e) :
    OffersOnly allowed e := by
  simp only [receiveOut, Option.bind_eq_bind, Option.bind_eq_some_iff] at h
  obtain ⟨base, hbuffer, _, -, h⟩ := h
  have hnum : num < usbMaxEndpoints := controllerBuffer_bounded hbuffer
  cases h
  have hother {offset : Nat} {value : BitVec 32} (hne : offset ≠ epBufCtrl num false) :
      (d.memory.writeWord (some (epBufCtrl num false)) value).word offset = d.memory.word offset :=
    Memory.writeWord_other _ _ hne
  refine hd.onEndpoint hnum ?_ ?_ fun hin : false = true => absurd hin (by decide)
  · refine ⟨fun _ _ => rfl, fun _ _ _ => rfl, rfl, id, fun offset hnot => hother hnot.1,
      fun _ => .inl (hother ?_)⟩
    exact (epBufCtrl_ne_epCtrl hnum).symm
  · intro i hchanged
    have hchanged' : d.memory.data.writeAt base packet.bytes i ≠ d.memory.data i := hchanged
    refine ⟨hspares fun hempty => hchanged' ?_, base, ?_, ?_, ?_⟩
    · rw [hempty, Buffer.writeAt_nil]
    · exact (hd.located num hnum false).symm.trans hbuffer
    · by_contra hlow
      exact hchanged' (Buffer.writeAt_of_lt _ _ (Nat.not_le.mp hlow))
    · by_contra hhigh
      exact hchanged' (Buffer.writeAt_of_le _ _ (by omega))

end Offers

end UsbSec.Device
