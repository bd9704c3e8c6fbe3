import UsbSec.Host.Charge
import UsbSec.Host.FreeSlot

/-!
# Endpoints whose transfers are accounted for

An endpoint can complete when it is the active one or when the controller polls it. `Accounted` says
that whatever such an endpoint still receives fits the static buffer, and how its buffer is told from
the buffers of the others. Packets, new transfers and opening endpoints keep it, and also what holds
while the response to a setup packet is read.
-/

namespace UsbSec.Host

open Library Usb Rp2040

/-! ## Endpoints that can complete -/

/-- The controller polls the endpoint by itself. -/
def PollsSlot (h : Hcd) (slot : Nat) : Prop := hasBits h.intEpCtrl (1#32 <<< slot) = true

instance (h : Hcd) (slot : Nat) : Decidable (PollsSlot h slot) := inferInstanceAs (Decidable (_ = _))

/-- The endpoint can complete a transfer. -/
def CanComplete (h : Hcd) (slot : Nat) : Prop := h.activeEp = some slot ∨ PollsSlot h slot

instance (h : Hcd) (slot : Nat) : Decidable (CanComplete h slot) :=
  inferInstanceAs (Decidable (_ ∨ _))

/-- Nothing was ever transferred through the slot or its own buffer. -/
structure Blank (h : Hcd) (slot : Nat) : Prop where
  counted : (h.epPool slot).xferredLen = 0
  remaining : (h.epPool slot).remainingLen = 0
  word : h.memory.word (intEpBufferCtrl (slot - 1)) = 0

instance (h : Hcd) (slot : Nat) : Decidable (Blank h slot) :=
  decidable_of_iff ((h.epPool slot).xferredLen = 0 ∧ (h.epPool slot).remainingLen = 0 ∧
      h.memory.word (intEpBufferCtrl (slot - 1)) = 0)
    ⟨fun ⟨counted, remaining, word⟩ => ⟨counted, remaining, word⟩,
      fun blank => ⟨blank.counted, blank.remaining, blank.word⟩⟩

/-- `epx` is the control endpoint, and has its registers once it is turned. -/
structure ControlReady (ep : HwEndpoint) : Prop where
  control : IsControl ep.epAddr
  shared : ∀ offset, ep.bufferControl = some offset → offset = epxBufCtrl
  wired : ep.epAddr = 0 ∨ ep.bufferControl ≠ none

/-- What holds of the endpoints between two steps. -/
structure Accounted (h : Hcd) : Prop where
  pool : PoolOk h
  control : ControlReady (h.epPool epx)
  active : ∀ slot, h.activeEp = some slot → slot = epx ∨ slot ∈ interruptSlots
  polled : ∀ slot ∈ interruptSlots, PollsSlot h slot → OnInterrupt (slot - 1) (h.epPool slot)
  bits : ∀ slot ∈ interruptSlots, hasBits h.bufStatus (slotBit slot) = true → PollsSlot h slot
  within : ∀ slot ∈ interruptSlots, CanComplete h slot →
    (h.epPool slot).configured = true ∧ Within (slotChannel slot h)
  blank : ∀ slot ∈ interruptSlots, (h.epPool slot).configured = false → Blank h slot

/-- What holds while the response to a setup packet is read. -/
structure AwaitsData (h : Hcd) : Prop where
  active : h.activeEp = some epx
  wired : (h.epPool epx).bufferControl = some epxBufCtrl
  counted : (h.epPool epx).xferredLen = 0
  receives : hasBits h.sieCtrl sieCtrlSendData = false
  waiting : hasBits h.bufStatus (slotBit epx) = true →
    (bufLen (h.memory.word epxBufCtrl)).toNat ≤ 64

/-- The same endpoint with the same word in its buffer. -/
theorem Within.congr {c d : Channel} (h : Within c) (hep : d.ep = c.ep)
    (hword : bufferWord d = bufferWord c) : Within d := by
  obtain ⟨hwired, hcounted, hremaining, hreceived, hcharge⟩ := h
  unfold Stuck at hcharge
  rw [← hep] at hwired hcounted hremaining hreceived hcharge
  rw [← hword] at hreceived hcharge
  exact ⟨hwired, hcounted, hremaining, hreceived, hcharge⟩

/-- An endpoint through which nothing was transferred. -/
theorem Blank.within {h : Hcd} {slot : Nat} (hblank : Blank h slot)
    (hregisters : OnInterrupt (slot - 1) (h.epPool slot)) : Within (slotChannel slot h) := by
  have hword : bufferWord (slotChannel slot h) = 0 := by
    unfold bufferWord
    rw [show (slotChannel slot h).ep.bufferControl = _ from hregisters.bufferControl]
    exact hblank.word
  have hcounted : (slotChannel slot h).ep.xferredLen.toNat = 0 := by
    rw [show (slotChannel slot h).ep.xferredLen = 0 from hblank.counted]
    rfl
  have hremaining : (slotChannel slot h).ep.remainingLen.toNat = 0 := by
    rw [show (slotChannel slot h).ep.remainingLen = 0 from hblank.remaining]
    rfl
  refine ⟨?_, by omega, by omega, fun _ hfull => ?_, .inr ?_⟩
  · rw [show (slotChannel slot h).ep.bufferControl = _ from hregisters.bufferControl]
    exact Option.some_ne_none _
  · rw [hword] at hfull
    cases hfull
  · unfold chargeAt
    rw [hword, hcounted, hremaining, pendingMost_zero]
    unfold packetMost
    split <;> decide

section Accounted

variable {h k : Hcd} {slot : Nat} (hok : Accounted h)
include hok

/-- An endpoint that can complete has its own buffer, or that of EPX while it is the active one. -/
theorem Accounted.place (hmem : slot ∈ interruptSlots) (hcan : CanComplete h slot) :
    (h.epPool slot).bufferControl = some (intEpBufferCtrl (slot - 1)) ∨
      (h.epPool slot).bufferControl = some epxBufCtrl ∧ h.activeEp = some slot := by
  rcases hcan with hactive | hpolled
  · have hconfigured := (hok.within slot hmem (.inl hactive)).1
    have hopened := (hok.pool slot).opened ((hok.pool slot).registers hconfigured)
    cases hopened.registered with
    | epx registers _ => exact .inr ⟨registers.bufferControl, hactive⟩
    | interrupt _ registers _ => exact .inl registers.bufferControl
  · exact .inl (hok.polled slot hmem hpolled).bufferControl

/-- The slots behind `epx` and their own buffers are as before. -/
theorem Accounted.frame (hpool : PoolOk k) (hcontrol : ControlReady (k.epPool epx))
    (hactive : k.activeEp = h.activeEp ∨ k.activeEp = some epx)
    (hpolls : k.intEpCtrl = h.intEpCtrl)
    (hbits : ∀ slot ∈ interruptSlots, hasBits k.bufStatus (slotBit slot) = true →
      hasBits h.bufStatus (slotBit slot) = true)
    (hslots : ∀ slot ∈ interruptSlots, k.epPool slot = h.epPool slot)
    (hown : ∀ slot ∈ interruptSlots, k.memory.word (intEpBufferCtrl (slot - 1)) =
      h.memory.word (intEpBufferCtrl (slot - 1)))
    (hshared : ∀ slot ∈ interruptSlots, k.activeEp = some slot →
      (k.epPool slot).bufferControl = some epxBufCtrl → Within (slotChannel slot h) →
        Within (slotChannel slot k)) : Accounted k := by
  have hpolled (slot : Nat) : PollsSlot k slot ↔ PollsSlot h slot := by
    unfold PollsSlot
    rw [hpolls]
  have hkept {slot : Nat} (hmem : slot ∈ interruptSlots) (hslot : k.activeEp = some slot) :
      h.activeEp = some slot := by
    rcases hactive with hsame | hepx
    · exact hsame.symm.trans hslot
    · exact absurd (Option.some.inj (hepx.symm.trans hslot)).symm (interruptSlots_ne hmem)
  refine ⟨hpool, hcontrol, fun slot hslot => ?_, fun slot hmem hslot => ?_,
    fun slot hmem hset => ?_, fun slot hmem hcan => ?_, fun slot hmem hfree => ?_⟩
  · rcases hactive with hsame | hepx
    · exact hok.active slot (hsame.symm.trans hslot)
    · exact .inl (Option.some.inj (hepx.symm.trans hslot)).symm
  · rw [hslots slot hmem]
    exact hok.polled slot hmem ((hpolled slot).mp hslot)
  · exact (hpolled slot).mpr (hok.bits slot hmem (hbits slot hmem hset))
  · have hbefore : CanComplete h slot := hcan.imp (hkept hmem) (hpolled slot).mp
    obtain ⟨hconfigured, hwithin⟩ := hok.within slot hmem hbefore
    refine ⟨by rw [hslots slot hmem]; exact hconfigured, ?_⟩
    have hep : (slotChannel slot k).ep = (slotChannel slot h).ep := hslots slot hmem
    rcases hok.place hmem hbefore with hplace | ⟨hplace, hslot⟩
    · refine hwithin.congr hep ?_
      unfold bufferWord
      rw [hep, show (slotChannel slot h).ep.bufferControl = _ from hplace]
      exact hown slot hmem
    · rcases hcan with hnow | hnow
      · exact hshared slot hmem hnow (by rw [hslots slot hmem]; exact hplace) hwithin
      · have hregisters := hok.polled slot hmem ((hpolled slot).mp hnow)
        have hsame := Option.some.inj (hregisters.bufferControl.symm.trans hplace)
        have hsame : 0x88 + 8 * (slot - 1) = 0x80 := hsame
        omega
  · rw [hslots slot hmem] at hfree
    obtain ⟨hcounted, hremaining, hword⟩ := hok.blank slot hmem hfree
    exact ⟨by rw [hslots slot hmem]; exact hcounted, by rw [hslots slot hmem]; exact hremaining,
      (hown slot hmem).trans hword⟩

/-- One open slot is changed, with the word in its buffer. -/
theorem Accounted.at_slot (hmem : slot ∈ interruptSlots)
    (hopen : (h.epPool slot).configured = true) (hpool : PoolOk k)
    (hactive : k.activeEp = h.activeEp ∨ k.activeEp = some slot)
    (hpolls : k.intEpCtrl = h.intEpCtrl)
    (hbits : ∀ other ∈ interruptSlots, hasBits k.bufStatus (slotBit other) = true →
      PollsSlot h other)
    (hothers : ∀ other, other ≠ slot → k.epPool other = h.epPool other)
    (hwiring : wiring (k.epPool slot) = wiring (h.epPool slot))
    (hwords : ∀ offset, IsBufferControl offset → (h.epPool slot).bufferControl ≠ some offset →
      k.memory.word offset = h.memory.word offset)
    (hshared : (h.epPool slot).bufferControl = some epxBufCtrl → k.activeEp = some slot)
    (hwithin : CanComplete k slot → Within (slotChannel slot k)) : Accounted k := by
  have hpolled (other : Nat) : PollsSlot k other ↔ PollsSlot h other := by
    unfold PollsSlot
    rw [hpolls]
  have hregistered := ((hok.pool slot).opened ((hok.pool slot).registers hopen)).registered
  -- The own buffer of another slot is not the one that is written.
  have hown {other : Nat} (hother : other ∈ interruptSlots) (hne : other ≠ slot) :
      k.memory.word (intEpBufferCtrl (other - 1)) =
        h.memory.word (intEpBufferCtrl (other - 1)) := by
    refine hwords _ (intEpBufferCtrl_isBufferControl (interruptSlots_num hother)) fun hsame => ?_
    have hlow := (interruptSlots_bounds hmem).1
    have hlow' := (interruptSlots_bounds hother).1
    cases hregistered with
    | epx registers _ =>
        have hplace : 0x80 = 0x88 + 8 * (other - 1) :=
          Option.some.inj (registers.bufferControl.symm.trans hsame)
        omega
    | interrupt _ registers _ =>
        have hplace : 0x88 + 8 * (slot - 1) = 0x88 + 8 * (other - 1) :=
          Option.some.inj (registers.bufferControl.symm.trans hsame)
        omega
  have hepx := hothers epx (interruptSlots_ne hmem).symm
  refine ⟨hpool, by rw [hepx]; exact hok.control, fun other hslot => ?_,
    fun other hother hslot => ?_,
    fun other hother hset => (hpolled other).mpr (hbits other hother hset),
    fun other hother hcan => ?_, fun other hother hfree => ?_⟩
  · rcases hactive with hsame | hnow
    · exact hok.active other (hsame.symm.trans hslot)
    · cases hnow.symm.trans hslot
      exact .inr hmem
  · have hregisters := hok.polled other hother ((hpolled other).mp hslot)
    by_cases hne : other = slot
    · subst hne
      exact hregisters.congr hwiring
    · rw [hothers other hne]
      exact hregisters
  · by_cases hne : other = slot
    · subst hne
      exact ⟨(congrArg Wiring.configured hwiring).trans hopen, hwithin hcan⟩
    have hkept : CanComplete h other := by
      refine hcan.imp (fun hslot => ?_) (hpolled other).mp
      rcases hactive with hsame | hnow
      · exact hsame.symm.trans hslot
      · exact absurd (Option.some.inj (hnow.symm.trans hslot)).symm hne
    obtain ⟨hconfigured, hbefore⟩ := hok.within other hother hkept
    have hep : (slotChannel other k).ep = (slotChannel other h).ep := hothers other hne
    refine ⟨by rw [hothers other hne]; exact hconfigured, hbefore.congr hep ?_⟩
    unfold bufferWord
    rw [hep]
    rcases hok.place hother hkept with hplace | ⟨hplace, hslot⟩
    · rw [show (slotChannel other h).ep.bufferControl = _ from hplace]
      exact hown hother hne
    · rw [show (slotChannel other h).ep.bufferControl = _ from hplace]
      refine hwords _ (by decide) fun hepx => ?_
      rcases hcan with hnow | hnow
      · exact hne (Option.some.inj (hnow.symm.trans (hshared hepx)))
      · have hregisters := hok.polled other hother ((hpolled other).mp hnow)
        have hsame : 0x88 + 8 * (other - 1) = 0x80 :=
          Option.some.inj (hregisters.bufferControl.symm.trans hplace)
        omega
  · by_cases hne : other = slot
    · subst hne
      have hconfigured : (k.epPool other).configured = true :=
        (congrArg Wiring.configured hwiring).trans hopen
      rw [hconfigured] at hfree
      cases hfree
    · rw [hothers other hne] at hfree
      obtain ⟨hcounted, hremaining, hword⟩ := hok.blank other hother hfree
      exact ⟨by rw [hothers other hne]; exact hcounted, by rw [hothers other hne]; exact hremaining,
        (hown hother hne).trans hword⟩

end Accounted

/-! ## The controller -/

theorem slotBits_apart : ∀ slot ∈ interruptSlots, hasBits (slotBit epx) (slotBit slot) = false ∧
    hasBits (slotBit slot) (slotBit epx) = false := by decide

/-- A set status bit is one that was set before, or the one that is added. -/
theorem hasBits_added {word added bit : BitVec 32} (hother : hasBits added bit = false) :
    hasBits (word ||| added) bit = hasBits word bit := by
  rw [hasBits_or, hother, Bool.or_false]

/-- A transaction that is over leaves the endpoints as they are. -/
theorem Accounted.finish {h : Hcd} (hok : Accounted h) : Accounted (finishTransaction h) :=
  hok.frame (hok.pool.of_samePool (.of_eq rfl rfl)) hok.control (.inl rfl) rfl
    (fun _ _ hset => hset) (fun _ _ => rfl) (fun _ _ => rfl) fun _ _ _ _ hwithin =>
      hwithin.congr rfl rfl

theorem AwaitsData.finish {h : Hcd} (hawaits : AwaitsData h) : AwaitsData (finishTransaction h) where
  active := hawaits.active
  wired := hawaits.wired
  counted := hawaits.counted
  receives := by
    have hbefore := hawaits.receives
    by_contra hset
    have hset := hasBits_of_and (Bool.not_eq_false _ ▸ hset)
    rw [hbefore] at hset
    cases hset
  waiting := hawaits.waiting

section Packets

variable {h k : Hcd} (hok : Accounted h)
include hok

/-- Another word in the EPX buffer does no harm if it is that of a packet. -/
theorem Accounted.epxBuffer {H : BitVec 32 → BitVec 32} (hpool : PoolOk k)
    (hslots : k.epPool = h.epPool) (hactive : k.activeEp = h.activeEp)
    (hpolls : k.intEpCtrl = h.intEpCtrl) (hbits : k.bufStatus = h.bufStatus ||| slotBit epx)
    (hword : k.memory.word epxBufCtrl = H (h.memory.word epxBufCtrl))
    (hothers : ∀ offset, offset ≠ epxBufCtrl → k.memory.word offset = h.memory.word offset)
    (hshorter : (bufLen (H (h.memory.word epxBufCtrl))).toNat ≤
      (bufLen (h.memory.word epxBufCtrl)).toNat)
    (hreceived : hasBits (H (h.memory.word epxBufCtrl)) bufCtrlFull = true →
      (bufLen (H (h.memory.word epxBufCtrl))).toNat ≤ 64) : Accounted k := by
  refine hok.frame hpool (by rw [hslots]; exact hok.control) (.inl hactive) hpolls (fun slot hmem hset => ?_) (fun _ _ => by rw [hslots])
    (fun slot hmem => hothers _ ?_) fun slot hmem _ hplace hwithin => ?_
  · rw [hbits, hasBits_added (slotBits_apart slot hmem).1] at hset
    exact hset
  · show 0x88 + 8 * (slot - 1) ≠ 0x80
    omega
  · have hep : (slotChannel slot k).ep = (slotChannel slot h).ep := congrFun hslots slot
    have hafter : bufferWord (slotChannel slot k) = H (h.memory.word epxBufCtrl) := by
      unfold bufferWord
      rw [show (slotChannel slot k).ep.bufferControl = _ from hplace]
      exact hword
    have hbefore : bufferWord (slotChannel slot h) = h.memory.word epxBufCtrl := by
      unfold bufferWord
      rw [← hep, show (slotChannel slot k).ep.bufferControl = _ from hplace]
      rfl
    refine hwithin.of_word hep ?_ (fun _ hfull => ?_) fun hother => absurd ?_ hother
    · rw [hafter, hbefore]
      exact hshorter
    · rw [hafter] at hfull ⊢
      exact hreceived hfull
    · rw [← hep]
      exact hplace

/-- A packet is received in the EPX buffer. -/
theorem Accounted.fill {packet : Packet} (hsmall : packet.bytes.length ≤ 64)
    (hfits : packet.bytes.length ≤ (bufLen (h.memory.word epxBufCtrl)).toNat) :
    Accounted (fillEpx h packet) := by
  have hlength : (bufLen (receivedWord (h.memory.word epxBufCtrl) packet)).toNat =
      packet.bytes.length := by
    rw [bufLen_receivedWord, UInt16.toNat_ofNat']
    omega
  have hbuffer : IsBufferControl epxBufCtrl := by decide
  have hpool : PoolOk (fillEpx h packet) := hok.pool.of_samePool
    ⟨rfl, fun _ hoffset => storePacket_buffer _ _ hbuffer hoffset _⟩
  refine hok.epxBuffer (H := fun word => receivedWord word packet) hpool rfl rfl rfl rfl
    (storePacket_same _ _ _ _) (fun _ => storePacket_other _ _ _) ?_ fun _ => ?_
  · rw [hlength]
    exact hfits
  · rw [hlength]
    exact hsmall

/-- The packet in the EPX buffer is sent. -/
theorem Accounted.empty : Accounted (emptyEpx h) := by
  have hlength (word : BitVec 32) :
      bufLen (word &&& ~~~(bufCtrlAvail ||| bufCtrlFull)) = bufLen word := by
    have hmask : ~~~(bufCtrlAvail ||| bufCtrlFull) &&& bufCtrlLenMask = bufCtrlLenMask := by
      decide
    unfold bufLen
    rw [BitVec.and_assoc, hmask]
  have hbuffer : IsBufferControl epxBufCtrl := by decide
  have hpool : PoolOk (emptyEpx h) := hok.pool.of_samePool
    ⟨rfl, fun _ hoffset => writeWord_buffer _ hbuffer hoffset _⟩
  refine hok.epxBuffer (H := fun word => word &&& ~~~(bufCtrlAvail ||| bufCtrlFull)) hpool rfl rfl
    rfl rfl (Memory.writeWord_same _ _ _) (fun _ => Memory.writeWord_other _ _) ?_ fun hfull => ?_
  · exact Nat.le_of_eq (congrArg UInt16.toNat (hlength _))
  · rw [hasBits_cleared (by decide)] at hfull
    cases hfull

/-- A packet is received in the buffer of an endpoint that is polled. -/
theorem Accounted.interrupt {slot : Nat} {packet : Packet}
    (hreceived : receiveInterrupt h slot packet = some k) (hsmall : packet.bytes.length ≤ 64)
    (hfits : packet.bytes.length ≤
      (bufLen (h.memory.word (intEpBufferCtrl (slot - 1)))).toNat) : Accounted k := by
  have hpool : PoolOk k := hok.pool.of_samePool (receiveInterrupt_samePool hreceived)
  unfold receiveInterrupt at hreceived
  dsimp only at hreceived
  split at hreceived
  · rename_i hready
    obtain ⟨hmem, hpolled, -⟩ := hready
    cases hreceived
    have hregisters := hok.polled slot hmem hpolled
    have hplace := hregisters.bufferControl
    obtain ⟨hopen, hwithin⟩ := hok.within slot hmem (.inr hpolled)
    have hlength : (bufLen (receivedWord (h.memory.word (intEpBufferCtrl (slot - 1)))
        packet)).toNat = packet.bytes.length := by
      rw [bufLen_receivedWord, UInt16.toNat_ofNat']
      omega
    refine hok.at_slot hmem hopen hpool (.inl rfl) rfl (fun other hother hset => ?_)
      (fun _ _ => rfl) rfl (fun offset _ hne => storePacket_other _ _ _ fun hsame => hne ?_)
      (fun hepx => absurd (hplace.symm.trans hepx) ?_) fun _ => ?_
    · by_cases hsame : other = slot
      · rw [hsame]
        exact hpolled
      · have hdistinct : hasBits (slotBit slot) (slotBit other) = false := by
          rw [slotBits_distinct slot hmem other hother]
          exact decide_eq_false hsame
        rw [hasBits_added hdistinct] at hset
        exact hok.bits other hother hset
    · rw [hplace, hsame]
    · intro hsame
      have hsame : 0x88 + 8 * (slot - 1) = 0x80 := Option.some.inj hsame
      omega
    · have hafter : bufferWord (slotChannel slot
          { h with
            memory := storePacket h.memory (intEpCtrl (slot - 1)) (intEpBufferCtrl (slot - 1)) packet
            bufStatus := h.bufStatus ||| slotBit slot }) =
          receivedWord (h.memory.word (intEpBufferCtrl (slot - 1))) packet := by
        show Memory.readWord _ (h.epPool slot).bufferControl = _
        rw [hplace]
        exact storePacket_same _ _ _ _
      have hbefore : bufferWord (slotChannel slot h) =
          h.memory.word (intEpBufferCtrl (slot - 1)) := by
        show Memory.readWord _ (h.epPool slot).bufferControl = _
        rw [hplace]
        rfl
      refine hwithin.of_word rfl ?_ (fun _ _ => ?_) fun _ => ?_
      · rw [hafter, hbefore, hlength]
        exact hfits
      · rw [hafter, hlength]
        exact hsmall
      · rw [hafter]
        exact (receivedWord_bits _ _).1
  · cases hreceived

end Packets

/-- While a response is read the controller only adds what a packet can have. -/
theorem AwaitsData.fill {h : Hcd} (hawaits : AwaitsData h) {packet : Packet}
    (hsmall : packet.bytes.length ≤ 64) : AwaitsData (fillEpx h packet) where
  active := hawaits.active
  wired := hawaits.wired
  counted := hawaits.counted
  receives := hawaits.receives
  waiting _ := by
    show (bufLen ((storePacket h.memory epxCtrl epxBufCtrl packet).word epxBufCtrl)).toNat ≤ 64
    rw [storePacket_same, bufLen_receivedWord, UInt16.toNat_ofNat']
    omega

theorem AwaitsData.interrupt {h k : Hcd} (hawaits : AwaitsData h) {slot : Nat} {packet : Packet}
    (hreceived : receiveInterrupt h slot packet = some k) : AwaitsData k := by
  unfold receiveInterrupt at hreceived
  dsimp only at hreceived
  split at hreceived
  · rename_i hready
    cases hreceived
    refine ⟨hawaits.active, hawaits.wired, hawaits.counted, hawaits.receives, fun hset => ?_⟩
    have hset : hasBits (h.bufStatus ||| slotBit slot) (slotBit epx) = true := hset
    rw [hasBits_added (slotBits_apart slot hready.1).2] at hset
    have hother : (storePacket h.memory (intEpCtrl (slot - 1)) (intEpBufferCtrl (slot - 1))
        packet).word epxBufCtrl = h.memory.word epxBufCtrl := by
      refine storePacket_other _ _ _ fun hsame => ?_
      have hsame : 0x80 = 0x88 + 8 * (slot - 1) := hsame
      omega
    show (bufLen ((storePacket h.memory _ _ packet).word epxBufCtrl)).toNat ≤ 64
    rw [hother]
    exact hawaits.waiting hset
  · cases hreceived

/-! ## Transfers -/

theorem getDevEp_control (h : Hcd) {epAddr : UInt8} (hcontrol : IsControl epAddr) :
    getDevEp h epAddr = some epx := if_pos hcontrol

/-- An endpoint behind `epx` is found in a slot with its address. -/
theorem getDevEp_other {h : Hcd} {epAddr : UInt8} {slot : Nat}
    (hslot : getDevEp h epAddr = some slot) (hother : ¬ IsControl epAddr) :
    slot ∈ interruptSlots ∧ (h.epPool slot).configured = true ∧
      (h.epPool slot).epAddr = epAddr := by
  have hsearch : interruptSlots.find? (fun i => (h.epPool i).configured &&
      (h.epPool i).epAddr == epAddr) = some slot := (if_neg hother).symm.trans hslot
  have hfound := List.find?_some hsearch
  simp only [Bool.and_eq_true, beq_iff_eq] at hfound
  exact ⟨List.mem_of_find?_eq_some hsearch, hfound⟩

/-- A slot, turned into the given direction when it has another. -/
def turnedSlot (slot : Nat) (devAddr epAddr : UInt8) (h : Hcd) : Hcd :=
  if epAddr ≠ (h.epPool slot).epAddr then
    slotInitialised slot devAddr epAddr (h.epPool slot).wMaxPacketSize
      (h.epPool slot).transferType 0 h
  else h

/-- What `hcd_edpt_xfer` has done when it ends. -/
theorem hcdEdptXfer_eq_ok {devAddr epAddr : UInt8} {buffer : UserBuf} {buflen : UInt16} {h k : Hcd}
    (hrun : hcdEdptXfer devAddr epAddr buffer buflen h = .ok () k) :
    ∃ slot c, getDevEp h epAddr = some slot ∧
      (epAddr ≠ (h.epPool slot).epAddr → (h.epPool slot).endpointControl ≠ none) ∧
      hwEndpointXferStart .slave buffer buflen
        (slotChannel slot (turnedSlot slot devAddr epAddr h)) = .ok () c ∧
      k = { storeSlot slot (turnedSlot slot devAddr epAddr h) c with
        activeEp := some slot
        devAddrCtrl := devAddr.toBitVec.setWidth 32 |||
          (tuEdptNumber epAddr).toBitVec.setWidth 32 <<< 16
        sieCtrl := startDataFlags h epAddr } := by
  unfold hcdEdptXfer at hrun
  rw [Program.read_bind] at hrun
  cases hslot : getDevEp h epAddr with
  | none =>
      rw [hslot] at hrun
      cases hrun
  | some slot =>
      rw [hslot] at hrun
      let active : Hcd := { h with activeEp := some slot }
      obtain ⟨_, _, hactive, hrun⟩ := Program.bind_eq_ok hrun
      cases hactive
      obtain ⟨_, turned, hturn, hrest⟩ := Program.bind_eq_ok hrun
      obtain ⟨_, started, hstart, hflags⟩ := Program.bind_eq_ok hrest
      obtain ⟨c, hengine, rfl⟩ := Program.onPart_eq_ok hstart
      have hturned : (epAddr ≠ (h.epPool slot).epAddr →
            (h.epPool slot).endpointControl ≠ none) ∧
          turned = { turnedSlot slot devAddr epAddr h with activeEp := some slot } := by
        unfold turnedSlot
        by_cases hsame : epAddr = (h.epPool slot).epAddr
        · rw [Program.when_false (not_not.mpr hsame)] at hturn
          cases hturn
          rw [if_neg (not_not.mpr hsame)]
          exact ⟨fun hne => absurd hsame hne, rfl⟩
        · rw [Program.when_true hsame] at hturn
          obtain ⟨⟨pointer, hpointer⟩, hinit⟩ := hostEndpointInit_split hturn
          rw [Program.when_false (not_not.mpr rfl)] at hinit
          cases hinit
          rw [if_pos hsame]
          exact ⟨fun _ hnone => Option.some_ne_none _ (hpointer.symm.trans hnone), rfl⟩
      obtain ⟨hwired, rfl⟩ := hturned
      refine ⟨slot, c, rfl, hwired, hengine, ?_⟩
      cases hflags
      unfold turnedSlot
      split <;> rfl

section Transfers

variable {h k : Hcd} (hok : Accounted h)
include hok

/-- A read or write that is started on the control endpoint. -/
structure StartedOnEpx (h k : Hcd) (epAddr : UInt8) : Prop where
  accounted : Accounted k
  active : k.activeEp = some epx
  address : (k.epPool epx).epAddr = epAddr
  counted : (k.epPool epx).xferredLen = 0
  direction : hasBits k.sieCtrl sieCtrlSendData = !tuEdptDirIn epAddr
  bufStatus : k.bufStatus = h.bufStatus
  intEpCtrl : k.intEpCtrl = h.intEpCtrl

/-- `epx` and the words that its transfers write may have changed. -/
theorem Accounted.epx_changed (hpool : PoolOk k) (hcontrol : ControlReady (k.epPool epx))
    (hactive : k.activeEp = some epx) (hpolls : k.intEpCtrl = h.intEpCtrl)
    (hbits : ∀ slot ∈ interruptSlots, hasBits k.bufStatus (slotBit slot) = true →
      hasBits h.bufStatus (slotBit slot) = true)
    (hslots : ∀ slot ∈ interruptSlots, k.epPool slot = h.epPool slot)
    (hwords : ∀ offset, IsBufferControl offset → offset ≠ epxBufCtrl →
      k.memory.word offset = h.memory.word offset) : Accounted k := by
  refine hok.frame hpool hcontrol (.inr hactive) hpolls hbits hslots (fun slot hmem => hwords _ ?_ ?_) fun slot hmem hslot => absurd ?_ (interruptSlots_ne hmem)
  · exact intEpBufferCtrl_isBufferControl (interruptSlots_num hmem)
  · show 0x88 + 8 * (slot - 1) ≠ 0x80
    omega
  · exact (Option.some.inj (hactive.symm.trans hslot)).symm

/-- Turning `epx` writes its control register only. -/
theorem Accounted.turned_words (devAddr epAddr : UInt8) {offset : Nat}
    (hbuffer : IsBufferControl offset) :
    (turnedSlot epx devAddr epAddr h).memory.word offset = h.memory.word offset := by
  unfold turnedSlot
  split
  · show (h.memory.writeWord (h.epPool epx).endpointControl _).word offset = _
    cases hpointer : (h.epPool epx).endpointControl with
    | none => rfl
    | some pointer =>
        have hopened := (hok.pool epx).opened (by rw [hpointer]; exact Option.some_ne_none _)
        refine Memory.writeWord_other _ _ fun hsame => ?_
        exact hopened.registered.control_notBuffer hpointer (hsame ▸ hbuffer)
  · rfl

theorem hcdEdptXfer_epx {devAddr epAddr : UInt8} {buffer : UserBuf} {buflen : UInt16}
    (hrun : hcdEdptXfer devAddr epAddr buffer buflen h = .ok () k) (hepAddr : IsControl epAddr) :
    StartedOnEpx h k epAddr := by
  have hpool : PoolOk k := (hcdEdptXfer_ends poolOk_rule.toTransferRule _ _ _ _) _ _ _ hrun hok.pool
  obtain ⟨slot, c, hslot, hready, hengine, rfl⟩ := hcdEdptXfer_eq_ok hrun
  cases (getDevEp_control h hepAddr).symm.trans hslot
  let turned := turnedSlot epx devAddr epAddr h
  have haddress : (turned.epPool epx).epAddr = epAddr := by
    show ((turnedSlot epx devAddr epAddr h).epPool epx).epAddr = epAddr
    unfold turnedSlot
    split
    · rw [slotInitialised_same]
      rfl
    · rename_i hsame
      exact (not_not.mp hsame).symm
  have hplace : (turned.epPool epx).bufferControl = (h.epPool epx).bufferControl := by
    show ((turnedSlot epx devAddr epAddr h).epPool epx).bufferControl = _
    unfold turnedSlot
    split
    · rw [slotInitialised_same]
      rfl
    · rfl
  have hothers (other : Nat) (hother : other ≠ epx) :
      turned.epPool other = h.epPool other := by
    show (turnedSlot epx devAddr epAddr h).epPool other = _
    unfold turnedSlot
    split
    · exact slotInitialised_other hother _ _ _ _ _ _
    · rfl
  have hstatic : turned.bufStatus = h.bufStatus ∧ turned.intEpCtrl = h.intEpCtrl := by
    show (turnedSlot epx devAddr epAddr h).bufStatus = _ ∧
      (turnedSlot epx devAddr epAddr h).intEpCtrl = _
    unfold turnedSlot
    split <;> exact ⟨rfl, rfl⟩
  have helsewhere : Elsewhere (slotChannel epx turned) c :=
    (hwEndpointXferStart_elsewhere buffer buflen).ok hengine
  have hcounted : c.ep.xferredLen = 0 := by
    rw [hwEndpointXferStart_apply] at hengine
    exact ((startNextBufferSlave_armed _).ok hengine).xferredLen
  have hep : (storeSlot epx turned c).epPool epx = c.ep := storeSlot_same _ _ _
  have haddressAfter : c.ep.epAddr = epAddr :=
    (eq_of_fixed (fun _ => rfl) helsewhere.fixed : c.ep.epAddr = _).trans haddress
  have hplaceAfter : c.ep.bufferControl = (h.epPool epx).bufferControl :=
    (eq_of_fixed (fun _ => rfl) helsewhere.fixed : c.ep.bufferControl = _).trans hplace
  have hcontrol : ControlReady c.ep := by
    refine ⟨by rw [haddressAfter]; exact hepAddr, by rw [hplaceAfter]; exact hok.control.shared, ?_⟩
    rw [haddressAfter, hplaceAfter]
    by_cases hsame : epAddr = (h.epPool epx).epAddr
    · rw [hsame]
      exact hok.control.wired
    · cases ((hok.pool epx).opened (hready hsame)).registered with
      | epx registers _ =>
          rw [registers.bufferControl]
          exact .inr (Option.some_ne_none _)
      | interrupt hmem _ _ => exact absurd rfl (interruptSlots_ne hmem)
  refine ⟨hok.epx_changed hpool ?_ rfl hstatic.2 (fun _ _ hset => ?_) (fun other hmem => ?_)
    fun offset hbuffer hother => ?_, rfl, ?_, ?_, ?_, hstatic.1, hstatic.2⟩
  · show ControlReady ((storeSlot epx turned c).epPool epx)
    rw [hep]
    exact hcontrol
  · rwa [← hstatic.1]
  · exact (withSlot_other _ _ (interruptSlots_ne hmem)).trans (hothers _ (interruptSlots_ne hmem))
  · refine (helsewhere.word offset fun hsame => ?_).trans (hok.turned_words _ _ hbuffer)
    exact hother (hok.control.shared offset (hplace.symm.trans hsame))
  · show ((storeSlot epx turned c).epPool epx).epAddr = epAddr
    rw [hep]
    exact haddressAfter
  · show ((storeSlot epx turned c).epPool epx).xferredLen = 0
    rw [hep]
    exact hcounted
  · exact (startDataFlags_bits h epAddr).2.2.2

/-- A transfer that is started on another endpoint, when what it may count fits. -/
theorem hcdEdptXfer_other {devAddr epAddr : UInt8} {buffer : UserBuf} {buflen : UInt16}
    (hrun : hcdEdptXfer devAddr epAddr buffer buflen h = .ok () k) (hepAddr : ¬ IsControl epAddr)
    (hsmall : buflen.toNat ≤ 1000)
    (hfits : ∀ slot, getDevEp h epAddr = some slot →
      Fits (freshTransfer buffer buflen (h.epPool slot))) : Accounted k := by
  have hpool : PoolOk k := (hcdEdptXfer_ends poolOk_rule.toTransferRule _ _ _ _) _ _ _ hrun hok.pool
  obtain ⟨slot, c, hslot, -, hengine, rfl⟩ := hcdEdptXfer_eq_ok hrun
  obtain ⟨hmem, hopen, haddress⟩ := getDevEp_other hslot hepAddr
  have hturned : turnedSlot slot devAddr epAddr h = h := if_neg (not_not.mpr haddress.symm)
  rw [hturned] at hengine hpool ⊢
  have hregistered := ((hok.pool slot).opened ((hok.pool slot).registers hopen)).registered
  have hwired : (h.epPool slot).bufferControl ≠ none := by
    cases hregistered with
    | epx registers _ => rw [registers.bufferControl]; exact Option.some_ne_none _
    | interrupt _ registers _ => rw [registers.bufferControl]; exact Option.some_ne_none _
  have helsewhere : Elsewhere (slotChannel slot h) c :=
    (hwEndpointXferStart_elsewhere buffer buflen).ok hengine
  have hwithin : Within c :=
    (hwEndpointXferStart_within (c := slotChannel slot h) buffer hwired hsmall
      (hfits slot hslot)).ok hengine
  have hep : (storeSlot slot h c).epPool slot = c.ep := storeSlot_same _ _ _
  refine hok.at_slot hmem hopen hpool (.inr rfl) rfl hok.bits
    (fun other hother => withSlot_other h _ hother) ?_
    (fun offset _ hother => helsewhere.word offset hother) (fun _ => rfl) fun _ => ?_
  · show wiring ((storeSlot slot h c).epPool slot) = _
    rw [hep]
    exact eq_of_fixed wiring_fixed helsewhere.fixed
  · refine hwithin.congr hep ?_
    show Memory.readWord c.memory ((storeSlot slot h c).epPool slot).bufferControl = _
    rw [hep]
    rfl

end Transfers

/-! ## Opening endpoints -/

/-- What opening an endpoint leaves as it is. -/
structure KeepsCounts (h k : Hcd) : Prop where
  activeEp : k.activeEp = h.activeEp
  intEpCtrl : k.intEpCtrl = h.intEpCtrl
  bufStatus : k.bufStatus = h.bufStatus
  sieCtrl : k.sieCtrl = h.sieCtrl
  counted : ∀ slot, (k.epPool slot).xferredLen = (h.epPool slot).xferredLen
  remaining : ∀ slot, (k.epPool slot).remainingLen = (h.epPool slot).remainingLen

instance : IsPreorder Hcd KeepsCounts where
  refl _ := ⟨rfl, rfl, rfl, rfl, fun _ => rfl, fun _ => rfl⟩
  trans _ _ _ first second :=
    ⟨second.activeEp.trans first.activeEp, second.intEpCtrl.trans first.intEpCtrl,
      second.bufStatus.trans first.bufStatus, second.sieCtrl.trans first.sieCtrl,
      fun slot => (second.counted slot).trans (first.counted slot),
      fun slot => (second.remaining slot).trans (first.remaining slot)⟩

theorem withSlot_keepsCounts (h : Hcd) {slot : Nat} {ep : HwEndpoint}
    (hcounted : ep.xferredLen = (h.epPool slot).xferredLen)
    (hremaining : ep.remainingLen = (h.epPool slot).remainingLen) :
    KeepsCounts h (withSlot h slot ep) := by
  refine ⟨rfl, rfl, rfl, rfl, fun other => ?_, fun other => ?_⟩
  · by_cases hother : other = slot
    · rw [hother, withSlot_same, hcounted]
    · rw [withSlot_other _ _ hother]
  · by_cases hother : other = slot
    · rw [hother, withSlot_same, hremaining]
    · rw [withSlot_other _ _ hother]

theorem onSlot_keepsCounts (slot : Nat) {change : HwEndpoint → HwEndpoint}
    (hcounted : ∀ ep, (change ep).xferredLen = ep.xferredLen)
    (hremaining : ∀ ep, (change ep).remainingLen = ep.remainingLen) :
    Program.Moves KeepsCounts (onSlot slot (setEp change)) := by
  intro h
  rw [onSlot_change]
  exact withSlot_keepsCounts h (hcounted _) (hremaining _)

theorem hwEndpointAllocate_keepsCounts (transferType epAddr : UInt8) :
    Program.Moves KeepsCounts (hwEndpointAllocate transferType epAddr) := by
  have hsearch : Program.Moves KeepsCounts nextFreeInterruptEp := by
    refine .bind .read fun h => ?_
    cases interruptSlots.find? fun i => !(h.epPool i).configured with
    | none => exact .pure _
    | some free =>
        exact .bind (onSlot_keepsCounts free (fun _ => rfl) fun _ => rfl) fun _ => .pure _
  have hgive (slot : Nat) (change : HwEndpoint → HwEndpoint)
      (hcounted : ∀ ep, (change ep).xferredLen = ep.xferredLen)
      (hremaining : ∀ ep, (change ep).remainingLen = ep.remainingLen) :
      Program.Moves KeepsCounts (onSlot slot (setEp change) >>= fun _ => pure slot) :=
    .bind (onSlot_keepsCounts slot hcounted hremaining) fun _ => .pure _
  unfold hwEndpointAllocate
  refine .ite (.bind hsearch fun slot => ?_) ?_
  · exact .bind .read fun h => .bind (.require _ _) fun _ =>
      hgive slot _ (fun _ => rfl) fun _ => rfl
  · dsimp only
    refine .ite ?_ ?_
    · exact hgive epx _ (fun _ => rfl) fun _ => rfl
    · exact .bind hsearch fun slot => hgive slot _ (fun _ => rfl) fun _ => rfl

theorem pollBits_distinct : ∀ slot ∈ interruptSlots, ∀ other ∈ interruptSlots, other ≠ slot →
    hasBits (1#32 <<< slot) (1#32 <<< other) = false := by decide

/-- An endpoint is opened in a slot that was not in use. -/
theorem Accounted.opened_slot {h k : Hcd} (hok : Accounted h) {slot : Nat}
    (hmem : slot ∈ interruptSlots) (hidle : ¬ CanComplete h slot) (hpool : PoolOk k)
    (hactive : k.activeEp = h.activeEp) (hbits : k.bufStatus = h.bufStatus)
    (hpolls : k.intEpCtrl = h.intEpCtrl ∨
      k.intEpCtrl = h.intEpCtrl ||| 1#32 <<< slot ∧ OnInterrupt (slot - 1) (k.epPool slot))
    (hothers : ∀ other, other ≠ slot → k.epPool other = h.epPool other)
    (hopen : (k.epPool slot).configured = true) (hblank : Blank k slot)
    (hwords : ∀ offset, IsBufferControl offset → k.memory.word offset = h.memory.word offset) :
    Accounted k := by
  have hpolled {other : Nat} (hother : other ∈ interruptSlots) (hne : other ≠ slot) :
      PollsSlot k other ↔ PollsSlot h other := by
    unfold PollsSlot
    rcases hpolls with hsame | ⟨hadded, -⟩
    · rw [hsame]
    · rw [hadded, hasBits_added (pollBits_distinct slot hmem other hother hne)]
  have hregisters (hslot : PollsSlot k slot) : OnInterrupt (slot - 1) (k.epPool slot) := by
    rcases hpolls with hsame | ⟨-, hregisters⟩
    · unfold PollsSlot at hslot
      rw [hsame] at hslot
      exact absurd (.inr hslot) hidle
    · exact hregisters
  have hepx := hothers epx (interruptSlots_ne hmem).symm
  refine ⟨hpool, by rw [hepx]; exact hok.control, fun other hother => hok.active other (hactive.symm.trans hother),
    fun other hother hslot => ?_, fun other hother hset => ?_, fun other hother hcan => ?_,
    fun other hother hfree => ?_⟩
  · by_cases hne : other = slot
    · subst hne
      exact hregisters hslot
    · rw [hothers other hne]
      exact hok.polled other hother ((hpolled hother hne).mp hslot)
  · rw [hbits] at hset
    have hbefore := hok.bits other hother hset
    by_cases hne : other = slot
    · subst hne
      exact absurd (.inr hbefore) hidle
    · exact (hpolled hother hne).mpr hbefore
  · by_cases hne : other = slot
    · subst hne
      rcases hcan with hnow | hnow
      · exact absurd (.inl (hactive.symm.trans hnow)) hidle
      · exact ⟨hopen, hblank.within (hregisters hnow)⟩
    · have hkept : CanComplete h other :=
        hcan.imp hactive.symm.trans (hpolled hother hne).mp
      obtain ⟨hconfigured, hwithin⟩ := hok.within other hother hkept
      have hep : (slotChannel other k).ep = (slotChannel other h).ep := hothers other hne
      refine ⟨by rw [hothers other hne]; exact hconfigured, hwithin.congr hep ?_⟩
      unfold bufferWord
      rw [hep]
      rcases hok.place hother hkept with hplace | ⟨hplace, -⟩
      · rw [show (slotChannel other h).ep.bufferControl = _ from hplace]
        exact hwords _ (intEpBufferCtrl_isBufferControl (interruptSlots_num hother))
      · rw [show (slotChannel other h).ep.bufferControl = _ from hplace]
        exact hwords _ (by decide)
  · by_cases hne : other = slot
    · subst hne
      exact hblank
    · rw [hothers other hne] at hfree
      obtain ⟨hcounted, hremaining, hword⟩ := hok.blank other hother hfree
      refine ⟨by rw [hothers other hne]; exact hcounted, by rw [hothers other hne]; exact hremaining,
        (hwords _ (intEpBufferCtrl_isBufferControl (interruptSlots_num hother))).trans hword⟩

/-- Nothing that a response is read with has changed. -/
theorem AwaitsData.congr {h k : Hcd} (hawaits : AwaitsData h) (hactive : k.activeEp = h.activeEp)
    (hwired : (k.epPool epx).bufferControl = some epxBufCtrl)
    (hcounted : (k.epPool epx).xferredLen = (h.epPool epx).xferredLen)
    (hsie : k.sieCtrl = h.sieCtrl) (hbits : k.bufStatus = h.bufStatus)
    (hword : k.memory.word epxBufCtrl = h.memory.word epxBufCtrl) : AwaitsData k := by
  refine ⟨hactive.trans hawaits.active, hwired, hcounted.trans hawaits.counted, ?_, fun hset => ?_⟩
  · rw [hsie]
    exact hawaits.receives
  · rw [hword]
    exact hawaits.waiting (by rwa [hbits] at hset)

/-- There is room for the endpoint in the pool, or the endpoint in the last slot was never used. -/
def HasRoom (h : Hcd) : Prop :=
  ¬ Exhausted h ∨ Blank h hostInterruptEndpoints ∧ ¬ CanComplete h hostInterruptEndpoints

instance (h : Hcd) : Decidable (HasRoom h) := inferInstanceAs (Decidable (_ ∨ _))

/-- What has happened to the endpoints and their buffers once an endpoint is opened. -/
theorem hcdEdptOpen_accounted {desc : EndpointPointer} {devAddr : UInt8} {h k : Hcd}
    (hok : Accounted h) (hrun : hcdEdptOpen desc devAddr h = .ok () k)
    (hroom : OpensEpx desc.xfer desc.bEndpointAddress ∨ HasRoom h) :
    Accounted k ∧ (AwaitsData h → AwaitsData k) := by
  have hpool : PoolOk k := hcdEdptOpen_poolOk desc devAddr h () k hrun hok.pool
  obtain ⟨slot, middle, halloc, hinit⟩ := Program.bind_eq_ok hrun
  obtain ⟨hregistered, hmemory, hothers⟩ := hwEndpointAllocate_ok hok.pool halloc
  have hkept := (hwEndpointAllocate_keepsCounts _ _).ok halloc
  obtain ⟨⟨pointer, hpointer⟩, hpolling⟩ := hostEndpointInit_split hinit
  let opened := slotInitialised slot devAddr desc.bEndpointAddress desc.maxPacketSize desc.xfer
    desc.bInterval middle
  have hopened : opened.epPool slot = { HwEndpoint.initialised devAddr desc.bEndpointAddress
      desc.maxPacketSize desc.xfer (middle.epPool slot) with configured := true } :=
    slotInitialised_same _ _ _ _ _ _ _
  have hwords (offset : Nat) (hbuffer : IsBufferControl offset) :
      opened.memory.word offset = h.memory.word offset := by
    show (middle.memory.writeWord (middle.epPool slot).endpointControl _).word offset = _
    rw [hpointer, hmemory]
    exact Memory.writeWord_other _ _ fun hsame =>
      hregistered.control_notBuffer hpointer (hsame ▸ hbuffer)
  have hslots (other : Nat) (hother : other ≠ slot) : opened.epPool other = h.epPool other :=
    (slotInitialised_other hother _ _ _ _ _ _).trans (hothers other hother)
  have hcounted : (opened.epPool epx).xferredLen = (h.epPool epx).xferredLen := by
    by_cases hepx : slot = epx
    · rw [← hepx, hopened]
      exact hkept.counted slot
    · rw [hslots epx (Ne.symm hepx)]
  have hshared := hwords epxBufCtrl (by decide)
  rcases (hwEndpointAllocate_slot halloc).1 with ⟨⟨-, hzero⟩, hepx⟩ | ⟨hother, hmem, hwhere⟩
  · -- The control endpoint itself; a polling interval stops the core.
    have hnone : desc.bInterval = 0 := by
      by_contra hinterval
      rw [Program.when_true hinterval, hzero, enablePolling_out (by decide)] at hpolling
      cases hpolling
    rw [Program.when_false (not_not.mpr hnone)] at hpolling
    cases hpolling
    subst hepx
    have hplace : (opened.epPool epx).bufferControl = some epxBufCtrl := by
      rw [hopened]
      cases hregistered with
      | epx registers _ => exact registers.bufferControl
      | interrupt hmem _ _ => exact absurd rfl (interruptSlots_ne hmem)
    refine ⟨hok.frame hpool ⟨?_, fun offset hoffset => ?_, .inr ?_⟩ (.inl hkept.activeEp)
      hkept.intEpCtrl (fun _ _ hset => ?_) (fun other hmem => hslots other (interruptSlots_ne hmem))
      (fun other hmem => hwords _ (intEpBufferCtrl_isBufferControl (interruptSlots_num hmem)))
      fun other hmem _ hplace hwithin => ?_, fun hawaits => ?_⟩
    · show IsControl (opened.epPool epx).epAddr
      rw [hopened]
      show IsControl desc.bEndpointAddress
      rw [hzero]
      decide
    · exact Option.some.inj (hoffset.symm.trans hplace)
    · show (opened.epPool epx).bufferControl ≠ none
      rw [hplace]
      exact Option.some_ne_none _
    · rwa [← hkept.bufStatus]
    · have hep : opened.epPool other = h.epPool other := hslots other (interruptSlots_ne hmem)
      refine hwithin.congr hep ?_
      show Memory.readWord opened.memory (opened.epPool other).bufferControl =
        Memory.readWord h.memory (h.epPool other).bufferControl
      rw [← hep, show (opened.epPool other).bufferControl = _ from hplace]
      exact hshared
    · exact hawaits.congr hkept.activeEp hplace hcounted hkept.sieCtrl hkept.bufStatus hshared
  · -- A slot behind `epx` that was not in use.
    have hunused : Blank h slot ∧ ¬ CanComplete h slot := by
      rcases hwhere with hfree | ⟨hfull, hlast⟩
      · refine ⟨hok.blank slot hmem hfree, fun hcan => ?_⟩
        rw [(hok.within slot hmem hcan).1] at hfree
        cases hfree
      · rw [hlast]
        exact (hroom.resolve_left hother).resolve_left (not_not.mpr hfull)
    have hblank : Blank opened slot := by
      refine ⟨?_, ?_, ?_⟩
      · rw [hopened]
        exact (hkept.counted slot).trans hunused.1.counted
      · rw [hopened]
        exact (hkept.remaining slot).trans hunused.1.remaining
      · exact (hwords _ (intEpBufferCtrl_isBufferControl (interruptSlots_num hmem))).trans
          hunused.1.word
    have hconfigured : (opened.epPool slot).configured = true := by rw [hopened]
    have hplace (hawaits : AwaitsData h) :
        (opened.epPool epx).bufferControl = some epxBufCtrl := by
      rw [hslots epx (interruptSlots_ne hmem).symm]
      exact hawaits.wired
    by_cases hinterval : desc.bInterval = 0
    · rw [Program.when_false (not_not.mpr hinterval)] at hpolling
      cases hpolling
      exact ⟨hok.opened_slot hmem hunused.2 hpool hkept.activeEp hkept.bufStatus
        (.inl hkept.intEpCtrl) hslots hconfigured hblank hwords, fun hawaits =>
          hawaits.congr hkept.activeEp (hplace hawaits) hcounted hkept.sieCtrl hkept.bufStatus hshared⟩
    rw [Program.when_true hinterval] at hpolling
    by_cases hin : tuEdptDirIn desc.bEndpointAddress = true
    · by_cases hnum : (opened.epPool slot).interruptNum.toNat < hostInterruptEndpoints
      · rw [enablePolling_polls hin hnum] at hpolling
        cases hpolling
        have hready : Registered slot (opened.epPool slot) := by
          rw [hopened]
          exact hregistered.initialised _ _ _ _
        have hnumber := registered_number hready hnum
        have hown : OnInterrupt (slot - 1) (opened.epPool slot) := by
          cases hready with
          | epx _ num =>
              rw [num] at hnum
              exact absurd hnum (by decide)
          | interrupt _ registers _ => exact registers
        refine ⟨hok.opened_slot hmem hunused.2 hpool hkept.activeEp hkept.bufStatus
          (.inr ⟨?_, hown⟩) hslots hconfigured ⟨hblank.counted, hblank.remaining, hblank.word⟩
          hwords, fun hawaits =>
            hawaits.congr hkept.activeEp (hplace hawaits) hcounted hkept.sieCtrl hkept.bufStatus hshared⟩
        show middle.intEpCtrl ||| 1#32 <<< ((opened.epPool slot).interruptNum.toNat + 1) = _
        rw [hnumber, hkept.intEpCtrl, Nat.sub_add_cancel (interruptSlots_bounds hmem).1]
      · rw [enablePolling_outside hin hnum] at hpolling
        cases hpolling
    · rw [enablePolling_out hin] at hpolling
      cases hpolling

end UsbSec.Host
