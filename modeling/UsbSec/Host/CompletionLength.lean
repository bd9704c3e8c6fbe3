import UsbSec.Host.Accounting

/-!
# The lengths that are reported to the master

`send_event_to_master` puts the endpoint address behind the data in the static buffer of 1000 bytes,
so the length of a completion must not exceed 999. On a control read each packet is reported by
itself, but on the other endpoints the lengths of the packets of a transfer are added up.
-/

namespace UsbSec.Host

open Library Usb Rp2040

/-! ## What is reported -/

/-- The completion is reported to the master with its length. -/
def Reports (epAddr level : UInt8) : Prop := ¬ IsControl epAddr ∨ level = 1

/-- Every length that is reported stays inside the static buffer, and every message to the master is
one byte longer than a length that was reported. -/
structure LengthsFit (s : Slave) : Prop where
  reported : ∀ epAddr level bytes result, .xferComplete epAddr level bytes result ∈ s.calls →
    Reports epAddr level → bytes.toNat ≤ 999
  sent : ∀ message ∈ s.outbox, ∃ epAddr level bytes result,
    .xferComplete epAddr level bytes result ∈ s.calls ∧ Reports epAddr level ∧
      message.payload.length = bytes.toNat + 1

/-- A message that is sent fits the buffer in which the master receives it. -/
theorem LengthsFit.payload {s : Slave} (h : LengthsFit s) {message : SpiMessage}
    (hsent : message ∈ s.outbox) : message.payload.length ≤ 1000 := by
  obtain ⟨epAddr, level, bytes, result, hcall, hreports, hlength⟩ := h.sent message hsent
  have hbytes := h.reported epAddr level bytes result hcall hreports
  omega

/-- The controller reports no more bytes than a packet can have and the buffer was armed for. -/
def ReportsWithin (m : Core0) : Event → Prop
  | .packetIn packet => packet.bytes.length ≤ 64 ∧
      packet.bytes.length ≤ (bufLen (m.slave.hcd.memory.word epxBufCtrl)).toNat
  | .interruptIn slot packet => packet.bytes.length ≤ 64 ∧
      packet.bytes.length ≤ (bufLen (m.slave.hcd.memory.word (intEpBufferCtrl (slot - 1)))).toNat
  | _ => True

instance (m : Core0) : ∀ event, Decidable (ReportsWithin m event)
  | .packetIn _ | .interruptIn _ _ => inferInstanceAs (Decidable (_ ∧ _))
  | .receive _ | .slavework | .hcdIrq | .setupSent | .packetOut | .raise _ => .isTrue trivial

section LengthsFit

variable {s t : Slave} (h : LengthsFit s)
include h

theorem LengthsFit.congr (hcalls : t.calls = s.calls) (houtbox : t.outbox = s.outbox) :
    LengthsFit t := by
  obtain ⟨hreported, hsent⟩ := h
  rw [← hcalls] at hreported hsent
  rw [← houtbox] at hsent
  exact ⟨hreported, hsent⟩

/-- A call is made, which reports no length or one that fits. -/
theorem LengthsFit.call {call : Call} (hcalls : t.calls = s.calls ++ [call])
    (houtbox : t.outbox = s.outbox) (hcall : ∀ epAddr level bytes result,
      call = .xferComplete epAddr level bytes result → Reports epAddr level →
        bytes.toNat ≤ 999) : LengthsFit t := by
  constructor
  · intro epAddr level bytes result hmem hreports
    rw [hcalls] at hmem
    rcases List.mem_append.mp hmem with hbefore | hnow
    · exact h.reported epAddr level bytes result hbefore hreports
    · exact hcall epAddr level bytes result (List.mem_singleton.mp hnow).symm hreports
  · intro message hmem
    rw [houtbox] at hmem
    obtain ⟨epAddr, level, bytes, result, hbefore, hreports⟩ := h.sent message hmem
    refine ⟨epAddr, level, bytes, result, ?_, hreports⟩
    rw [hcalls]
    exact List.mem_append_left _ hbefore

end LengthsFit

/-! ## What the handlers keep -/

/-- What holds after a handler, or the part of one, while the EPX buffer waits for nothing. -/
structure Handled (polls : BitVec 32) (s : Slave) : Prop where
  fits : LengthsFit s
  accounted : Accounted s.hcd
  awaits : s.level = 1 → AwaitsData s.hcd
  idle : hasBits s.hcd.bufStatus (slotBit epx) = false
  polls : s.hcd.intEpCtrl = polls

/-- A transfer on the control endpoint is started, or cannot be. -/
theorem startXfer_epx {s : Slave} (hfits : LengthsFit s) (hok : Accounted s.hcd)
    {epAddr : UInt8} (hepAddr : IsControl epAddr) (devAddr : UInt8) (buffer : UserBuf)
    (buflen : UInt16) :
    Program.Outcome (startXfer devAddr epAddr buffer buflen) s
      (fun _ t => ∃ k, t = withHcd (withCall s (.edptXfer epAddr)) k ∧
        StartedOnEpx s.hcd k epAddr) LengthsFit := by
  let called := withCall s (.edptXfer epAddr)
  have hcalled (k : Hcd) : LengthsFit (withHcd called k) := hfits.call rfl rfl nofun
  refine .of_eq (Program.update_bind _ _ _) ?_
  cases hrun : hcdEdptXfer devAddr epAddr buffer buflen s.hcd with
  | ok value k =>
      exact .of_ok (Program.onPart_ok hrun) ⟨k, rfl, hcdEdptXfer_epx hok hrun hepAddr⟩
  | error reason k => exact .of_error (Program.onPart_error hrun) (hcalled k)

/-- While the first packet of a response is awaited nothing is counted. -/
theorem StartedOnEpx.awaits {h k : Hcd} (hstarted : StartedOnEpx h k 0x80)
    (hidle : hasBits h.bufStatus (slotBit epx) = false) : AwaitsData k where
  active := hstarted.active
  wired := by
    rcases hstarted.accounted.control.wired with hzero | hwired
    · rw [hstarted.address] at hzero
      exact absurd hzero (by decide)
    · obtain ⟨offset, hoffset⟩ := Option.ne_none_iff_exists'.mp hwired
      rw [hoffset, hstarted.accounted.control.shared offset hoffset]
  counted := hstarted.counted
  receives := hstarted.direction
  waiting hset := by
    rw [hstarted.bufStatus, hidle] at hset
    cases hset

/-- The read of a response is started. -/
theorem readResponse_handled {polls : BitVec 32} {s : Slave} (hfits : LengthsFit s)
    (hok : Accounted s.hcd) (hidle : hasBits s.hcd.bufStatus (slotBit epx) = false)
    (hpolls : s.hcd.intEpCtrl = polls) (devAddr : UInt8) :
    Program.Outcome (readResponse devAddr) s
      (fun _ t => Handled polls t ∧ t.level = s.level ∧ ∀ call ∈ s.calls, call ∈ t.calls)
      LengthsFit := by
  refine .read_bind ((startXfer_epx hfits hok (by decide) _ _ _).mono ?_ fun _ => id)
  rintro _ _ ⟨k, rfl, hstarted⟩
  refine ⟨⟨hfits.call rfl rfl nofun, hstarted.accounted, fun _ => hstarted.awaits hidle, ?_, ?_⟩,
    rfl, fun call hmem => List.mem_append_left _ hmem⟩
  · show hasBits k.bufStatus (slotBit epx) = false
    rw [hstarted.bufStatus]
    exact hidle
  · exact hstarted.intEpCtrl.trans hpolls

/-- What a message is sent from does not matter for the endpoints. -/
theorem Accounted.bugger {h : Hcd} (hok : Accounted h) (bugger : Buffer) :
    Accounted (withBugger h bugger) :=
  hok.frame (hok.pool.of_samePool (.of_eq rfl rfl)) hok.control (.inl rfl) rfl
    (fun _ _ hset => hset) (fun _ _ => rfl) (fun _ _ => rfl) fun _ _ _ _ hwithin =>
      hwithin.congr rfl rfl

theorem AwaitsData.bugger {h : Hcd} (hawaits : AwaitsData h) (bugger : Buffer) :
    AwaitsData (withBugger h bugger) := hawaits.congr rfl hawaits.wired rfl rfl rfl rfl

/-- A length that was reported is sent to the master with its data. -/
theorem sendEventToMaster_handled {polls : BitVec 32} {s : Slave} (hs : Handled polls s)
    {epAddr level : UInt8} {bytes : UInt16} {result : XferResult}
    (hcall : .xferComplete epAddr level bytes result ∈ s.calls) (hreports : Reports epAddr level)
    (eFlag : UInt16) :
    Program.Outcome (sendEventToMaster bytes epAddr eFlag) s (fun _ t => Handled polls t)
      LengthsFit := by
  have hbytes := hs.fits.reported epAddr level bytes result hcall hreports
  obtain ⟨message, bugger, -, hpayload, hrun⟩ :=
    sendEventToMaster_ok (Nat.lt_succ_of_le hbytes) epAddr eFlag s
  refine .of_ok hrun ⟨⟨?_, ?_⟩, hs.accounted.bugger bugger, fun hlevel =>
    (hs.awaits hlevel).bugger bugger, hs.idle, hs.polls⟩
  · intro other otherLevel otherBytes otherResult hmem hother
    rcases List.mem_append.mp hmem with hbefore | hnow
    · exact hs.fits.reported other otherLevel otherBytes otherResult hbefore hother
    · cases List.mem_singleton.mp hnow
  · intro other hmem
    have hmem : other ∈ s.outbox ++ [message] := hmem
    rcases List.mem_append.mp hmem with hbefore | hnow
    · obtain ⟨address, otherLevel, otherBytes, otherResult, hmem, hother⟩ :=
        hs.fits.sent other hbefore
      exact ⟨address, otherLevel, otherBytes, otherResult, List.mem_append_left _ hmem, hother⟩
    · cases List.mem_singleton.mp hnow
      refine ⟨epAddr, level, bytes, result, List.mem_append_left _ hcall, hreports, ?_⟩
      rw [hpayload, List.length_append, Buffer.length_bytesAt]
      rfl

/-- A handler of a completion may assume this of the slave. -/
structure Completes (polls : BitVec 32) (epAddr : UInt8) (bytes : UInt16) (s : Slave) : Prop where
  fits : LengthsFit s
  accounted : Accounted s.hcd
  awaits : ¬ IsControl epAddr → s.level = 1 → AwaitsData s.hcd
  idle : hasBits s.hcd.bufStatus (slotBit epx) = false
  polls : s.hcd.intEpCtrl = polls
  bounded : Reports epAddr s.level → bytes.toNat ≤ 999

/-- A response that was received is reported, and the transfer goes on. -/
theorem completeResponse_handled {polls : BitVec 32} {s : Slave} (hfits : LengthsFit s)
    (hok : Accounted s.hcd) (hidle : hasBits s.hcd.bufStatus (slotBit epx) = false)
    (hpolls : s.hcd.intEpCtrl = polls) {epAddr : UInt8} {bytes : UInt16} {result : XferResult}
    (hcall : .xferComplete epAddr 1 bytes result ∈ s.calls) (devAddr : UInt8)
    (ended : XferResult) :
    Program.Outcome (completeResponse devAddr epAddr bytes ended) s (fun _ t => Handled polls t)
      LengthsFit := by
  have hreports : Reports epAddr 1 := .inr rfl
  have hlast : (2 : UInt8) ≠ 1 := by decide
  refine .ite (fun _ => ?_) fun _ => ?_
  · let done : Slave := { s with level := 2, debugLock := false }
    have hdone : Handled polls done :=
      ⟨hfits.congr rfl rfl, hok, fun hlevel => absurd hlevel hlast, hidle, hpolls⟩
    refine .of_eq (Program.update_bind _ _ _) (.of_eq (Program.update_bind _ _ _)
      (.read_bind ?_))
    refine .bind (P := fun _ t => Handled polls t ∧ ∀ call ∈ s.calls, call ∈ t.calls)
      (.when (fun _ => ?_) fun _ => ⟨hdone, fun _ hmem => hmem⟩) fun _ t ht =>
        sendEventToMaster_handled ht.1 (ht.2 _ hcall) hreports _
    refine (startXfer_epx hdone.fits hok (by decide) _ _ _).mono ?_ fun _ => id
    rintro _ _ ⟨k, rfl, hstarted⟩
    refine ⟨⟨hdone.fits.call rfl rfl nofun, hstarted.accounted,
      fun hlevel => absurd hlevel hlast, ?_, hstarted.intEpCtrl.trans hpolls⟩,
      fun _ hmem => List.mem_append_left _ hmem⟩
    show hasBits k.bufStatus (slotBit epx) = false
    rw [hstarted.bufStatus]
    exact hidle
  · refine .bind (readResponse_handled hfits hok hidle hpolls _) fun _ t ht => ?_
    exact sendEventToMaster_handled ht.1 (ht.2.2 _ hcall) hreports _

/-- A completion is recorded, and handled according to the stage of the transfer. -/
theorem hcdEventXferComplete_handled {polls : BitVec 32} {s : Slave} {epAddr : UInt8}
    {bytes : UInt16} (hs : Completes polls epAddr bytes s) (devAddr : UInt8)
    (result : XferResult) :
    Program.Outcome (hcdEventXferComplete devAddr epAddr bytes result) s
      (fun _ t => Handled polls t) LengthsFit := by
  let called := withCall s (.xferComplete epAddr s.level bytes result)
  have hcall : .xferComplete epAddr s.level bytes result ∈ called.calls :=
    List.mem_append_right _ (List.mem_singleton.mpr rfl)
  have hfits : LengthsFit called := by
    refine hs.fits.call rfl rfl fun _ _ _ _ hsame hreports => ?_
    cases hsame
    exact hs.bounded hreports
  refine .require_bind (fun _ => ?_) fun _ => hs.fits
  refine .read_bind (.of_eq (Program.update_bind _ _ _) ?_)
  refine .ite (fun hcontrol => ?_) fun hother => ?_
  · refine .ite (fun _ => ?_) fun _ => .ite (fun hlevel => ?_) fun hlevel => ?_
    · refine .require_bind (fun _ => .require_bind (fun _ => ?_) fun _ => hfits) fun _ => hfits
      refine .of_eq (Program.update_bind _ _ _) ?_
      exact (readResponse_handled (s := { called with level := 1 }) (hfits.congr rfl rfl)
        hs.accounted hs.idle hs.polls _).mono (fun _ _ ht => ht.1) fun _ => id
    · have hcall : .xferComplete epAddr 1 bytes result ∈ called.calls := hlevel ▸ hcall
      exact completeResponse_handled hfits hs.accounted hs.idle hs.polls hcall _ _
    · exact .pure ⟨hfits, hs.accounted, fun hone => absurd hone hlevel, hs.idle, hs.polls⟩
  · refine .of_eq (Program.update_bind _ _ _) ?_
    have hready : Handled polls { called with debugLock := false } :=
      ⟨hfits.congr rfl rfl, hs.accounted, hs.awaits hother, hs.idle, hs.polls⟩
    exact sendEventToMaster_handled hready hcall (.inl hother) _

/-! ## One buffer -/

/-- The result that a completed or a continued transfer is reported with. -/
def bufferResult (done : Bool) : XferResult := if done then .success else .more

/-- `hw_xfer_complete` resets the transfer if it is complete. -/
theorem hwXferComplete_bufferResult (slot : Nat) (done : Bool) (h : Hcd) (c : Channel) (s : Slave) :
    hwXferComplete slot (bufferResult done) (withHcd s (storeSlot slot h c)) =
      hcdEventXferComplete c.ep.devAddr c.ep.epAddr c.ep.xferredLen (bufferResult done)
        (withHcd s (storeSlot slot h (afterTransfer done c))) := by
  have hep : (storeSlot slot h c).epPool slot = c.ep := storeSlot_same _ _ _
  unfold hwXferComplete
  rw [Program.read_bind, withHcd_hcd, hep]
  cases done with
  | true =>
      rw [Program.when_true (by decide)]
      have hreset : onHcd (onSlot slot hwEndpointResetTransferNew)
          (withHcd s (storeSlot slot h c)) =
            .ok () (withHcd s (storeSlot slot h (afterTransfer true c))) := by
        refine (onHcd_ok (onSlot_change slot HwEndpoint.resetTransfer _)).trans ?_
        rw [withHcd_hcd, hep]
        unfold storeSlot withSlot afterTransfer
        simp [withHcd]
      exact Program.bind_ok hreset
  | false =>
      rw [Program.when_false (by decide)]
      rfl

/-- What the engine does on a slot, seen from the slave. -/
theorem onHcd_slot {α : Type} {slot : Nat} {engine : Engine α} {s : Slave}
    {P : α → Channel → Prop} {F : Channel → Prop}
    (hengine : Program.Outcome engine (slotChannel slot s.hcd) P F) :
    Program.Outcome (onHcd (onSlot slot engine)) s
      (fun value t => ∃ c, t = withHcd s (storeSlot slot s.hcd c) ∧ P value c)
      fun t => ∃ k, t = withHcd s k := by
  have hslot : Program.Outcome (onSlot slot engine) s.hcd
      (fun value k => ∃ c, k = storeSlot slot s.hcd c ∧ P value c) fun _ => True :=
    hengine.onPart (fun _ c hc => ⟨c, rfl, hc⟩) fun _ _ => trivial
  refine hslot.onPart (fun value k hk => ?_) fun k _ => ⟨k, rfl⟩
  obtain ⟨c, rfl, hc⟩ := hk
  exact ⟨c, rfl, hc⟩

theorem afterTransfer_elsewhere {c d : Channel} (done : Bool) (h : Elsewhere c d) :
    Elsewhere c (afterTransfer done d) := by
  cases done with
  | true => exact ⟨h.fixed, h.word⟩
  | false => exact h

theorem PoolOk.stored {h : Hcd} (hok : PoolOk h) {slot : Nat} {c : Channel}
    (helsewhere : Elsewhere (slotChannel slot h) c) : PoolOk (storeSlot slot h c) := by
  intro other
  refine (hok other).of_words ?_ fun offset hoffset =>
    helsewhere.word offset fun hsame => hoffset ((hok slot).buffer offset hsame)
  by_cases hother : other = slot
  · rw [hother, storeSlot_same]
    exact eq_of_fixed wiring_fixed helsewhere.fixed
  · rw [show (storeSlot slot h c).epPool other = _ from withSlot_other _ _ hother]

section Buffer

variable {polls : BitVec 32} {s : Slave} {bit : BitVec 32}

/-- The controller with a status bit cleared. -/
def bitCleared (bit : BitVec 32) (h : Hcd) : Hcd :=
  { h with bufStatus := h.bufStatus &&& ~~~bit }

theorem Accounted.acknowledge {h : Hcd} (hok : Accounted h) (bit : BitVec 32) :
    Accounted (bitCleared bit h) :=
  hok.frame (hok.pool.of_samePool (.of_eq rfl rfl)) hok.control (.inl rfl) rfl
    (fun _ _ hset => hasBits_of_and hset) (fun _ _ => rfl) (fun _ _ => rfl) fun _ _ _ _ hwithin =>
      hwithin.congr rfl rfl

/-- A buffer of an endpoint behind `epx` is taken in. -/
theorem handleBuffStatusBit_other {slot : Nat} (hmem : slot ∈ interruptSlots)
    (hcan : CanComplete s.hcd slot) (hfits : LengthsFit s) (hok : Accounted s.hcd)
    (hawaits : s.level = 1 → AwaitsData s.hcd)
    (hidle : hasBits (s.hcd.bufStatus &&& ~~~bit) (slotBit epx) = false)
    (hpolls : s.hcd.intEpCtrl = polls) :
    Program.Outcome (handleBuffStatusBit bit slot) s (fun _ t => Handled polls t) LengthsFit := by
  let cleared := bitCleared bit s.hcd
  have hcleared : Accounted cleared := hok.acknowledge bit
  have hcan : CanComplete cleared slot := hcan
  obtain ⟨hopen, hwithin⟩ := hcleared.within slot hmem hcan
  have hne := interruptSlots_ne hmem
  refine .of_eq (Program.update_bind _ _ _) ?_
  refine .bind (P := fun done t => ∃ c, t = withHcd s (storeSlot slot cleared c) ∧
    (c.ep.xferredLen.toNat ≤ 999 ∧ Within (afterTransfer done c)) ∧
      Elsewhere (slotChannel slot cleared) c) ?_ ?_
  · have hengine := (hwEndpointXferContinue_within hwithin).and_moves
      (E := fun _ => True) hwEndpointXferContinue_slave_elsewhere fun _ _ _ => trivial
    exact (onHcd_slot (s := withHcd s cleared) hengine).mono (fun _ _ hc => hc)
      fun _ ⟨_, hk⟩ => hk ▸ hfits.congr rfl rfl
  · rintro done _ ⟨c, rfl, ⟨hbytes, hafter⟩, helsewhere⟩
    refine .of_eq (hwXferComplete_bufferResult slot done cleared c s) ?_
    have hstored := afterTransfer_elsewhere done helsewhere
    have hep : (storeSlot slot cleared (afterTransfer done c)).epPool slot =
        (afterTransfer done c).ep := storeSlot_same _ _ _
    have hchannel : Within (slotChannel slot (storeSlot slot cleared (afterTransfer done c))) := by
      refine hafter.congr hep ?_
      show Memory.readWord (afterTransfer done c).memory
        ((storeSlot slot cleared (afterTransfer done c)).epPool slot).bufferControl = _
      rw [hep]
      rfl
    have hshared : (cleared.epPool slot).bufferControl = some epxBufCtrl →
        cleared.activeEp = some slot := by
      intro hepx
      rcases hcleared.place hmem hcan with hown | ⟨-, hactive⟩
      · have hsame : 0x88 + 8 * (slot - 1) = 0x80 := Option.some.inj (hown.symm.trans hepx)
        omega
      · exact hactive
    have haccounted : Accounted (storeSlot slot cleared (afterTransfer done c)) := by
      refine hcleared.at_slot hmem hopen (hcleared.pool.stored hstored) (.inl rfl) rfl hcleared.bits
        (fun other hother => withSlot_other _ _ hother) ?_
        (fun offset _ hother => hstored.word offset hother) hshared fun _ => hchannel
      rw [hep]
      exact eq_of_fixed wiring_fixed hstored.fixed
    refine hcdEventXferComplete_handled
      (s := withHcd s (storeSlot slot cleared (afterTransfer done c)))
      ⟨hfits.congr rfl rfl, haccounted, fun _ hlevel => ?_, hidle, hpolls, fun _ => hbytes⟩ _ _
    have hbefore := hawaits hlevel
    have hepx : (storeSlot slot cleared (afterTransfer done c)).epPool epx = s.hcd.epPool epx :=
      withSlot_other _ _ hne.symm
    refine ⟨hbefore.active, by rw [withHcd_hcd, hepx]; exact hbefore.wired,
      by rw [withHcd_hcd, hepx]; exact hbefore.counted, hbefore.receives, fun hset => ?_⟩
    cases hidle.symm.trans hset

/-- The EPX buffer is taken in for the control endpoint. -/
theorem handleBuffStatusBit_epx (hactive : s.hcd.activeEp = some epx) (hfits : LengthsFit s)
    (hok : Accounted s.hcd) (hawaits : s.level = 1 → AwaitsData s.hcd)
    (hset : hasBits s.hcd.bufStatus (slotBit epx) = true) (hpolls : s.hcd.intEpCtrl = polls) :
    Program.Outcome (handleBuffStatusBit (slotBit epx) epx) s (fun _ t => Handled polls t)
      LengthsFit := by
  let cleared := bitCleared (slotBit epx) s.hcd
  have hcleared : Accounted cleared := hok.acknowledge _
  have hidle : hasBits cleared.bufStatus (slotBit epx) = false := hasBits_cleared (by decide)
  refine .of_eq (Program.update_bind _ _ _) ?_
  refine .bind (P := fun _ t => ∃ c, t = withHcd s (storeSlot epx cleared c) ∧
    (s.level = 1 → c.ep.xferredLen.toNat ≤ 999) ∧ Elsewhere (slotChannel epx cleared) c) ?_ ?_
  · have hcount : Program.Outcome (hwEndpointXferContinue .slave) (slotChannel epx cleared)
        (fun _ c => s.level = 1 → c.ep.xferredLen.toNat ≤ 999) fun _ => True := by
      by_cases hlevel : s.level = 1
      · have hbefore := hawaits hlevel
        have hword : bufferWord (slotChannel epx cleared) = s.hcd.memory.word epxBufCtrl := by
          show Memory.readWord _ (s.hcd.epPool epx).bufferControl = _
          rw [hbefore.wired]
          rfl
        refine (hwEndpointXferContinue_single (c := slotChannel epx cleared) hbefore.counted ?_).mono
          (fun _ _ hc _ => hc) fun _ => id
        rw [hword]
        exact hbefore.waiting hset
      · exact .of_moves hwEndpointXferContinue_slave_elsewhere
          (fun _ _ _ hone => absurd hone hlevel) fun _ _ => trivial
    have hengine := hcount.and_moves
      (E := fun _ => True) hwEndpointXferContinue_slave_elsewhere fun _ _ _ => trivial
    exact (onHcd_slot (s := withHcd s cleared) hengine).mono (fun _ _ hc => hc)
      fun _ ⟨_, hk⟩ => hk ▸ hfits.congr rfl rfl
  · rintro done _ ⟨c, rfl, hbytes, helsewhere⟩
    refine .of_eq (hwXferComplete_bufferResult epx done cleared c s) ?_
    have hstored := afterTransfer_elsewhere done helsewhere
    have hep : (storeSlot epx cleared (afterTransfer done c)).epPool epx =
        (afterTransfer done c).ep := storeSlot_same _ _ _
    have hplace : (afterTransfer done c).ep.bufferControl = (s.hcd.epPool epx).bufferControl :=
      eq_of_fixed (fun _ => rfl) hstored.fixed
    have haddress : c.ep.epAddr = (s.hcd.epPool epx).epAddr :=
      eq_of_fixed (fun _ => rfl) helsewhere.fixed
    have hkept : (afterTransfer done c).ep.epAddr = (s.hcd.epPool epx).epAddr :=
      eq_of_fixed (fun _ => rfl) hstored.fixed
    have hcontrol : ControlReady (afterTransfer done c).ep := by
      obtain ⟨hcontrol, hshared, hwired⟩ := hok.control
      exact ⟨by rw [hkept]; exact hcontrol, by rw [hplace]; exact hshared,
        by rw [hkept, hplace]; exact hwired⟩
    have haccounted : Accounted (storeSlot epx cleared (afterTransfer done c)) := by
      refine hcleared.epx_changed (hcleared.pool.stored hstored) (by rw [hep]; exact hcontrol)
        hactive rfl (fun _ _ hset => hset)
        (fun other hmem => withSlot_other _ _ (interruptSlots_ne hmem)) fun offset _ hother => ?_
      exact hstored.word offset fun hsame => hother (hok.control.shared offset hsame)
    have hepAddr : IsControl c.ep.epAddr := by
      rw [haddress]
      exact hok.control.control
    refine hcdEventXferComplete_handled
      (s := withHcd s (storeSlot epx cleared (afterTransfer done c)))
      ⟨hfits.congr rfl rfl, haccounted, fun hother => absurd hepAddr hother, hidle, hpolls,
        fun hreports => hbytes (hreports.resolve_left (not_not.mpr hepAddr))⟩ _ _

/-- The buffer of the active endpoint is taken in. -/
theorem handleEpxBuffer_handled (hfits : LengthsFit s) (hok : Accounted s.hcd)
    (hawaits : s.level = 1 → AwaitsData s.hcd)
    (hset : hasBits s.hcd.bufStatus (slotBit epx) = true) (hpolls : s.hcd.intEpCtrl = polls) :
    Program.Outcome handleEpxBuffer s (fun _ t => Handled polls t) LengthsFit := by
  refine .read_bind ?_
  cases hactive : s.hcd.activeEp with
  | none => exact .stop hfits
  | some slot =>
      rcases hok.active slot hactive with rfl | hmem
      · exact handleBuffStatusBit_epx hactive hfits hok hawaits hset hpolls
      · exact handleBuffStatusBit_other hmem (.inl hactive) hfits hok hawaits
          (hasBits_cleared (by decide)) hpolls

end Buffer

/-! ## The interrupt handler -/

section Interrupt

variable {polls : BitVec 32}

/-- The buffers of the endpoints that are polled are taken in one after the other. -/
theorem handleInterruptBuffers_handled {slots : List Nat} (hslots : slots ⊆ interruptSlots)
    {s : Slave} (hs : Handled polls s) {remaining : BitVec 32}
    (hpolled : ∀ slot ∈ interruptSlots, hasBits remaining (slotBit slot) = true →
      hasBits polls (1#32 <<< slot) = true) :
    Program.Outcome (handleInterruptBuffers slots remaining) s (fun _ t => Handled polls t)
      LengthsFit := by
  induction slots generalizing s remaining with
  | nil => exact .pure hs
  | cons slot rest ih =>
      have hmem : slot ∈ interruptSlots := hslots List.mem_cons_self
      have hrest : rest ⊆ interruptSlots := fun _ hother => hslots (List.mem_cons_of_mem _ hother)
      refine .ite (fun _ => .pure hs) fun _ => .ite (fun hset => ?_) fun _ => ih hrest hs hpolled
      have hcan : CanComplete s.hcd slot := by
        right
        unfold PollsSlot
        rw [hs.polls]
        exact hpolled slot hmem hset
      have hidle : hasBits (s.hcd.bufStatus &&& ~~~slotBit slot) (slotBit epx) = false := by
        by_contra hother
        have hother := hasBits_of_and (Bool.not_eq_false _ ▸ hother)
        cases hs.idle.symm.trans hother
      refine .bind (handleBuffStatusBit_other hmem hcan hs.fits hs.accounted hs.awaits hidle
        hs.polls) fun _ t ht => ih hrest ht fun other hother hbit => ?_
      exact hpolled other hother (hasBits_of_and hbit)

/-- All buffers with a status bit are taken in. -/
theorem hwHandleBuffStatus_handled {s : Slave} (hfits : LengthsFit s) (hok : Accounted s.hcd)
    (hawaits : s.level = 1 → AwaitsData s.hcd) :
    Program.Outcome hwHandleBuffStatus s (fun _ t => Handled s.hcd.intEpCtrl t) LengthsFit := by
  refine .read_bind (.bind (P := fun _ t => Handled s.hcd.intEpCtrl t) ?_ fun _ t ht => ?_)
  · refine .when (fun hset => handleEpxBuffer_handled hfits hok hawaits hset rfl) fun hclear => ?_
    exact ⟨hfits, hok, hawaits, Bool.not_eq_true _ ▸ hclear, rfl⟩
  · refine .bind (handleInterruptBuffers_handled (List.Subset.refl _) ht
      fun slot hmem hset => ?_) fun _ u hu => ?_
    · exact hok.bits slot hmem (hasBits_of_and hset)
    · exact .when (fun _ => .stop hu.fits) fun _ => hu

/-- The setup packet is sent. -/
theorem hwTransComplete_handled {s : Slave} (hs : Handled polls s) :
    Program.Outcome hwTransComplete s (fun _ t => Handled polls t) LengthsFit := by
  refine .read_bind (.when (fun _ => ?_) fun _ => hs)
  have hsame : withHcd s (storeSlot epx s.hcd (slotChannel epx s.hcd)) = s := by
    unfold storeSlot withSlot slotChannel withHcd
    simp
  have hrun := hwXferComplete_bufferResult epx true s.hcd (slotChannel epx s.hcd) s
  rw [hsame] at hrun
  let reset := storeSlot epx s.hcd (afterTransfer true (slotChannel epx s.hcd))
  have hep : reset.epPool epx = (s.hcd.epPool epx).resetTransfer := storeSlot_same _ _ _
  have hstored : Elsewhere (slotChannel epx s.hcd)
      (afterTransfer true (slotChannel epx s.hcd)) := ⟨rfl, fun _ _ => rfl⟩
  have hcontrol : ControlReady (reset.epPool epx) := by
    rw [hep]
    exact ⟨hs.accounted.control.control, hs.accounted.control.shared, hs.accounted.control.wired⟩
  have haccounted : Accounted reset := by
    refine hs.accounted.frame (hs.accounted.pool.stored hstored) hcontrol (.inl rfl) rfl
      (fun _ _ hset => hset) (fun other hmem => withSlot_other _ _ (interruptSlots_ne hmem))
      (fun _ _ => rfl) fun other hmem _ _ hwithin => ?_
    have hother : reset.epPool other = s.hcd.epPool other :=
      withSlot_other _ _ (interruptSlots_ne hmem)
    refine hwithin.congr hother ?_
    show Memory.readWord _ (reset.epPool other).bufferControl = _
    rw [hother]
    rfl
  refine .of_eq hrun (hcdEventXferComplete_handled (s := withHcd s reset) ⟨hs.fits.congr rfl rfl,
    haccounted, fun hother => absurd hs.accounted.control.control hother, hs.idle, hs.polls,
    fun hreports => ?_⟩ _ _)
  have hlevel := hreports.resolve_left (not_not.mpr hs.accounted.control.control)
  show (s.hcd.epPool epx).xferredLen.toNat ≤ 999
  rw [(hs.awaits hlevel).counted]
  exact Nat.zero_le _

/-- The interrupt handler runs on what the controller shows. -/
theorem hcdRp2040Irq_handled {s : Slave} (hfits : LengthsFit s) (hok : Accounted s.hcd)
    (hawaits : s.level = 1 → AwaitsData s.hcd) (causes : List Cause) (transComplete : Bool) :
    Program.Outcome (hcdRp2040Irq causes (s.hcd.bufStatus != 0) transComplete) s
      (fun _ t => Handled s.hcd.intEpCtrl t) LengthsFit := by
  refine .bind (P := fun _ t => Handled s.hcd.intEpCtrl t)
    (.when (fun _ => hwHandleBuffStatus_handled hfits hok hawaits) fun hnone => ?_) fun _ t ht => ?_
  · have hzero : s.hcd.bufStatus = 0 := by simpa using hnone
    refine ⟨hfits, hok, hawaits, ?_, rfl⟩
    rw [hzero]
    decide
  refine .bind (P := fun _ u => Handled s.hcd.intEpCtrl u) (.when (fun _ => ?_) fun _ => ht)
    fun _ u hu => ?_
  · refine .of_eq (Program.update_bind _ _ _) ?_
    let shown : Hcd := { t.hcd with transComplete := false }
    have hshown : Accounted shown := ht.accounted.frame
      (ht.accounted.pool.of_samePool (.of_eq rfl rfl)) ht.accounted.control (.inl rfl) rfl
      (fun _ _ hset => hset) (fun _ _ => rfl) (fun _ _ => rfl) fun _ _ _ _ hwithin =>
        hwithin.congr rfl rfl
    exact hwTransComplete_handled (s := withHcd t shown) ⟨ht.fits.congr rfl rfl, hshown,
      fun hlevel => (ht.awaits hlevel).congr rfl (ht.awaits hlevel).wired rfl rfl rfl rfl, ht.idle,
      ht.polls⟩
  · have hskip (condition : Prop) [Decidable condition] (message : String) {u : Slave}
        (hu : Handled s.hcd.intEpCtrl u) :
        Program.Outcome (Program.when condition (error message)) u
          (fun _ v => Handled s.hcd.intEpCtrl v) LengthsFit :=
      .when (fun _ => .stop hu.fits) fun _ => hu
    refine .bind (hskip _ _ hu) fun _ _ hu => .bind (hskip _ _ hu) fun _ _ hu =>
      .bind (hskip _ _ hu) fun _ _ hu => hskip _ _ hu

end Interrupt

/-! ## Messages from the master -/

/-- What holds of the slave between two steps. -/
structure Sound (s : Slave) : Prop where
  fits : LengthsFit s
  accounted : Accounted s.hcd
  awaits : s.level = 1 → AwaitsData s.hcd

theorem Handled.sound {polls : BitVec 32} {s : Slave} (h : Handled polls s) : Sound s :=
  ⟨h.fits, h.accounted, h.awaits⟩

instance (ep : HwEndpoint) : Decidable (Fits ep) := inferInstanceAs (Decidable (_ ∨ _))

/-- A transfer that is asked for counts at most 999 bytes, whatever the device sends, and an
endpoint that is to be opened does not displace one that was used. -/
def MessageFits (h : Hcd) (message : SpiMessage) : Prop :=
  (messageKind message = MsgType.usbData → ∀ epAddr ∈ message.payload.getLast?,
    ∀ slot ∈ getDevEp h epAddr, ¬ IsControl epAddr →
      Fits (freshTransfer (.bugger 0) (UInt16.ofNat (message.payload.length - 1))
        (h.epPool slot))) ∧
  (messageKind message = MsgType.edptOpen →
    OpensEpx (descriptorOf message.payload).xfer
      (descriptorOf message.payload).bEndpointAddress ∨ HasRoom h)

instance (h : Hcd) (message : SpiMessage) : Decidable (MessageFits h message) :=
  inferInstanceAs (Decidable ((_ → ∀ _ ∈ _, ∀ _ ∈ _, _ → _) ∧ (_ → _)))

section Messages

variable {s : Slave} (hs : Sound s)
include hs

theorem handleResetUsb_sound :
    Program.Outcome handleResetUsb s (fun _ t => Sound t) LengthsFit := by
  refine .of_ok rfl ⟨hs.fits.congr rfl rfl, ?_, fun hlevel => ?_⟩
  · exact hs.accounted.frame (hs.accounted.pool.of_samePool (.of_eq rfl rfl)) hs.accounted.control
      (.inl rfl) rfl (fun _ _ hset => hset) (fun _ _ => rfl) (fun _ _ => rfl)
      fun _ _ _ _ hwithin => hwithin.congr rfl rfl
  · have hbefore := hs.awaits hlevel
    refine ⟨hbefore.active, hbefore.wired, hbefore.counted, ?_, hbefore.waiting⟩
    show hasBits (s.hcd.sieCtrl ||| sieCtrlResetBus) sieCtrlSendData = false
    rw [hasBits_added (by decide)]
    exact hbefore.receives

theorem handleEdptOpen_sound {payload : List UInt8}
    (hroom : OpensEpx (descriptorOf payload).xfer (descriptorOf payload).bEndpointAddress ∨
      HasRoom s.hcd) :
    Program.Outcome (handleEdptOpen payload) s (fun _ t => Sound t) LengthsFit := by
  refine .require_bind (fun _ => .read_bind ?_) fun _ => hs.fits
  cases hrun : hcdEdptOpen (descriptorOf payload) s.devAddr s.hcd with
  | ok value k =>
      obtain ⟨haccounted, hawaits⟩ := hcdEdptOpen_accounted hs.accounted hrun hroom
      exact .of_ok (Program.onPart_ok hrun) ⟨hs.fits.congr rfl rfl, haccounted,
        fun hlevel => hawaits (hs.awaits hlevel)⟩
  | error reason k => exact .of_error (Program.onPart_error hrun) (hs.fits.congr rfl rfl)

theorem sendSetup_sound (setup : ControlRequest) :
    Program.Outcome (sendSetup setup) s (fun _ t => Sound t ∧ t.level = 0) LengthsFit := by
  have hrun := hcdSetupSend_apply s.devAddr setup.toBytes s.hcd
  have hpool : PoolOk (setupStarted s.devAddr setup.toBytes s.hcd) :=
    hcdSetupSend_poolOk _ _ _ _ _ hrun hs.accounted.pool
  have hcontrol : ControlReady ((setupStarted s.devAddr setup.toBytes s.hcd).epPool epx) := by
    rw [setupStarted_epx]
    exact ⟨by show IsControl 0x00; decide, fun _ hoffset => (Option.some.inj hoffset).symm, .inl rfl⟩
  have haccounted : Accounted (setupStarted s.devAddr setup.toBytes s.hcd) := by
    refine hs.accounted.epx_changed hpool hcontrol rfl rfl (fun _ _ hset => hset)
      (fun other hmem => Function.update_of_ne (interruptSlots_ne hmem) _ _)
      fun offset hbuffer _ => Memory.writeWord_other _ _ fun hsame => ?_
    rw [hsame] at hbuffer
    exact absurd hbuffer (by decide)
  let defined : Slave := { s with debugLock := true, setup := setup, level := 0 }
  refine .of_ok (onHcd_ok (s := withCall defined (.setupSend setup)) hrun)
    ⟨⟨hs.fits.call rfl rfl nofun, haccounted, fun hlevel => ?_⟩, rfl⟩
  exact absurd hlevel (by show ¬ (0 : UInt8) = 1; decide)

theorem handleUsbData_sound {payload : List UInt8}
    (hfits : ∀ epAddr ∈ payload.getLast?, ∀ slot ∈ getDevEp s.hcd epAddr, ¬ IsControl epAddr →
      Fits (freshTransfer (.bugger 0) (UInt16.ofNat (payload.length - 1)) (s.hcd.epPool slot))) :
    Program.Outcome (handleUsbData payload) s (fun _ t => Sound t) LengthsFit := by
  have hlevel : (3 : UInt8) ≠ 1 := by decide
  have hxfer (target : UInt8) : ∀ epAddr level bytes result,
      Call.edptXfer target = .xferComplete epAddr level bytes result →
        Reports epAddr level → bytes.toNat ≤ 999 := by
    intro _ _ _ _ hcall
    cases hcall
  refine .of_eq (Program.update_bind _ _ _) ?_
  cases hlast : payload.getLast? with
  | none => exact .stop (hs.fits.congr rfl rfl)
  | some epAddr =>
      refine .bind (P := fun _ t => payload.dropLast.length ≤ 1000 ∧ ∃ bugger,
        t = withHcd { s with level := 3 } (withBugger s.hcd bugger)) ?_ ?_
      · refine .require_bind (fun hsmall => .of_ok rfl ⟨?_, _, rfl⟩) fun _ =>
          hs.fits.congr rfl rfl
        simpa [buggerSize] using hsmall
      · rintro _ _ ⟨hsmall, bugger, rfl⟩
        have hready := hs.accounted.bugger bugger
        refine .read_bind (.of_eq (Program.update_bind _ _ _) ?_)
        cases hrun : hcdEdptXfer s.devAddr epAddr (.bugger 0) (UInt16.ofNat (payload.length - 1))
            (withBugger s.hcd bugger) with
        | ok value k =>
            refine .of_ok (Program.onPart_ok hrun) ⟨hs.fits.call rfl rfl (hxfer _), ?_,
              fun hone => absurd hone hlevel⟩
            show Accounted k
            by_cases hcontrol : IsControl epAddr
            · exact (hcdEdptXfer_epx hready hrun hcontrol).accounted
            · refine hcdEdptXfer_other hready hrun hcontrol ?_ fun slot hslot =>
                hfits epAddr hlast slot hslot hcontrol
              rw [List.length_dropLast] at hsmall
              rw [UInt16.toNat_ofNat']
              omega
        | error reason k =>
            exact .of_error (Program.onPart_error hrun) (hs.fits.call rfl rfl (hxfer _))

theorem handleChgEpxPacketsize_sound (payload : List UInt8) :
    Program.Outcome (handleChgEpxPacketsize payload) s (fun _ t => Sound t) LengthsFit := by
  unfold handleChgEpxPacketsize
  split
  · rename_i size
    let k := withSlot s.hcd epx
      { s.hcd.epPool epx with wMaxPacketSize := size.toUInt16 }
    have hrun : changeEpxPacketsize size s.hcd = .ok () k := onSlot_change _ _ _
    have hpool : PoolOk k := poolOk_rule.size size s.hcd () k hrun hs.accounted.pool
    have hep : k.epPool epx = { s.hcd.epPool epx with wMaxPacketSize := size.toUInt16 } :=
      withSlot_same _ _ _
    have hcontrol : ControlReady (k.epPool epx) := by
      rw [hep]
      exact ⟨hs.accounted.control.control, hs.accounted.control.shared, hs.accounted.control.wired⟩
    have haccounted : Accounted k := by
      refine hs.accounted.frame hpool hcontrol (.inl rfl) rfl (fun _ _ hset => hset)
        (fun other hmem => withSlot_other _ _ (interruptSlots_ne hmem)) (fun _ _ => rfl)
        fun other hmem _ _ hwithin => ?_
      have hother : k.epPool other = s.hcd.epPool other :=
        withSlot_other _ _ (interruptSlots_ne hmem)
      refine hwithin.congr hother ?_
      show Memory.readWord _ (k.epPool other).bufferControl = _
      rw [hother]
      rfl
    refine .of_ok (onHcd_ok hrun) ⟨hs.fits.congr rfl rfl, haccounted, fun hlevel => ?_⟩
    have hbefore := hs.awaits hlevel
    exact hbefore.congr rfl (by rw [withHcd_hcd, hep]; exact hbefore.wired)
      (by rw [withHcd_hcd, hep]) rfl rfl rfl
  · exact .stop hs.fits

/-- One message is handled. -/
theorem handleMessage_sound {message : SpiMessage} (hfits : MessageFits s.hcd message) :
    Program.Outcome (handleMessage message) s (fun _ t => Sound t) LengthsFit := by
  unfold handleMessage
  refine .ite (fun _ => handleResetUsb_sound hs) fun _ => ?_
  refine .ite (fun hkind => handleEdptOpen_sound hs (hfits.2 hkind)) fun _ => ?_
  refine .ite (fun _ => ?_) fun _ => ?_
  · exact .require_bind (fun _ => (sendSetup_sound hs _).mono (fun _ _ ht => ht.1) fun _ => id)
      fun _ => hs.fits
  refine .ite (fun hkind => handleUsbData_sound hs (hfits.1 hkind)) fun _ => ?_
  refine .ite (fun _ => ?_) fun _ => ?_
  · refine .bind (sendSetup_sound hs _) fun _ t ht => .of_ok rfl ⟨ht.1.fits.congr rfl rfl,
      ht.1.accounted, ht.1.awaits⟩
  refine .ite (fun _ => handleChgEpxPacketsize_sound hs _) fun _ => ?_
  exact .ite (fun _ => .pure hs) fun _ => .stop hs.fits

end Messages

/-! ## Runs -/

/-- The message that `slavework` is about to handle asks for nothing that does not fit. -/
def NextFits (m : Core0) : Event → Prop
  | .slavework => ∀ message ∈ m.slave.rx.items.head?, MessageFits m.slave.hcd message
  | _ => True

instance (m : Core0) : ∀ event, Decidable (NextFits m event)
  | .slavework => inferInstanceAs (Decidable (∀ _ ∈ _, _))
  | .receive _ | .hcdIrq | .setupSent | .packetIn _ | .packetOut | .interruptIn _ _ | .raise _ =>
      .isTrue trivial

/-- The lengths that were reported fit, and while core 0 runs so does what is still to come. -/
structure LengthsKept (m : Core0) : Prop where
  fits : LengthsFit m.slave
  sound : m.halted = none → Sound m.slave

theorem lengthsKept_runHandler {m : Core0} {handler : SlaveM Unit}
    (h : Program.Outcome handler m.slave (fun _ t => Sound t) LengthsFit) :
    LengthsKept (runHandler handler m) := by
  cases hrun : handler m.slave with
  | ok value slave =>
      rw [runHandler_ok hrun]
      exact ⟨(h.ok hrun).fits, fun _ => h.ok hrun⟩
  | error reason slave =>
      rw [runHandler_error hrun]
      exact ⟨h.error hrun, nofun⟩

theorem slavework_sound {s : Slave} (hs : Sound s)
    (hfits : ∀ message ∈ s.rx.items.head?, MessageFits s.hcd message) :
    Program.Outcome slavework s (fun _ t => Sound t) LengthsFit := by
  refine .read_bind ?_
  cases hremove : s.rx.remove with
  | none => exact .pure hs
  | some taken =>
      obtain ⟨message, rest⟩ := taken
      have hitems := Fifo.remove_eq_some.mp hremove
      refine .of_eq (Program.update_bind _ _ _) ?_
      exact handleMessage_sound (s := { s with rx := rest })
        ⟨hs.fits.congr rfl rfl, hs.accounted, hs.awaits⟩ (hfits message (by simp [hitems]))

/-- A transaction of the controller leaves the slave sound if it leaves the endpoints so. -/
theorem lengthsKept_transact {m next : Core0} {transaction : Transaction} {after : Option Hcd}
    (hstep : transact transaction after m = some next) (hm : Sound m.slave)
    (hafter : ∀ k, after = some k → Accounted k ∧
      (AwaitsData m.slave.hcd → AwaitsData k)) : LengthsKept next := by
  obtain ⟨k, hk, rfl⟩ := Option.map_eq_some_iff.mp hstep
  obtain ⟨haccounted, hawaits⟩ := hafter k hk
  have hfits : LengthsFit { m.slave with
      hcd := k, calls := m.slave.calls ++ [.transacted transaction] } := hm.fits.call rfl rfl nofun
  exact ⟨hfits, fun _ => ⟨hfits, haccounted, fun hlevel => hawaits (hm.awaits hlevel)⟩⟩

theorem step_lengthsKept {m next : Core0} {event : Event} (hm : LengthsKept m)
    (hok : ReportsWithin m event ∧ NextFits m event) (hstep : step m event = some next) :
    LengthsKept next := by
  obtain ⟨hreports, hfits⟩ := hok
  have hrunning : m.halted = none := by
    by_contra hhalted
    rw [step, if_neg hhalted] at hstep
    cases hstep
  have hsound := hm.sound hrunning
  rw [step_running hrunning] at hstep
  cases event with
  | receive message =>
      obtain ⟨rx, -, rfl⟩ := Option.map_eq_some_iff.mp hstep
      exact ⟨hm.fits.congr rfl rfl, fun _ => ⟨hm.fits.congr rfl rfl, hsound.accounted,
        hsound.awaits⟩⟩
  | slavework =>
      cases hstep
      exact lengthsKept_runHandler (slavework_sound hsound hfits)
  | hcdIrq =>
      cases hstep
      exact lengthsKept_runHandler ((hcdRp2040Irq_handled hsound.fits hsound.accounted
        hsound.awaits _ _).mono (fun _ _ ht => ht.sound) fun _ => id)
  | setupSent =>
      refine lengthsKept_transact hstep hsound fun k hk => ?_
      unfold sendSetupPacket at hk
      split at hk
      · cases hk
        exact ⟨hsound.accounted.finish, AwaitsData.finish⟩
      · cases hk
  | packetIn packet =>
      obtain ⟨hsmall, hlength⟩ := hreports
      refine lengthsKept_transact hstep hsound fun k hk => ?_
      have hfill := hsound.accounted.fill hsmall hlength
      unfold receiveIn at hk
      split at hk
      · cases hk
        split
        · exact ⟨hfill.finish, fun hawaits => (hawaits.fill hsmall).finish⟩
        · exact ⟨hfill, fun hawaits => hawaits.fill hsmall⟩
      · cases hk
  | packetOut =>
      refine lengthsKept_transact hstep hsound fun k hk => ?_
      have hempty := hsound.accounted.empty
      unfold sendOut at hk
      split at hk
      · rename_i hready
        -- While a response is read the controller sends nothing.
        have hnone (hawaits : AwaitsData m.slave.hcd) : False := by
          have hsends := hready.1.2.2.1
          rw [hawaits.receives] at hsends
          cases hsends
        cases hk
        split
        · exact ⟨hempty.finish, fun hawaits => (hnone hawaits).elim⟩
        · exact ⟨hempty, fun hawaits => (hnone hawaits).elim⟩
      · cases hk
  | interruptIn slot packet =>
      obtain ⟨hsmall, hlength⟩ := hreports
      obtain ⟨k, hreceived, rfl⟩ := Option.map_eq_some_iff.mp hstep
      have hcalls : LengthsFit { m.slave with hcd := k } := hm.fits.congr rfl rfl
      exact ⟨hcalls, fun _ => ⟨hcalls, hsound.accounted.interrupt hreceived hsmall hlength,
        fun hlevel => (hsound.awaits hlevel).interrupt hreceived⟩⟩
  | raise cause =>
      cases hstep
      exact ⟨hm.fits, fun _ => hsound⟩

theorem lengthsKept_init (romWord : BitVec 32) : LengthsKept (.init romWord) := by
  have hidle (slot : Nat) : ¬ CanComplete (.init romWord) slot := by
    intro hcan
    rcases hcan with hactive | hpolled
    · cases hactive
    · have hnone : hasBits 0#32 (1#32 <<< slot) = false := by simp [hasBits]
      cases hnone.symm.trans hpolled
  have hfits : LengthsFit (Slave.init romWord) :=
    ⟨fun _ _ _ _ hcall _ => absurd hcall List.not_mem_nil,
      fun _ hsent => absurd hsent List.not_mem_nil⟩
  have hcontrol : IsControl 0 := by decide
  have haccounted : Accounted (.init romWord) := by
    have hshared (offset : Nat) (h : HwEndpoint.zero.bufferControl = some offset) :
        offset = epxBufCtrl := by
      cases h
    have hactive (slot : Nat) (h : (Hcd.init romWord).activeEp = some slot) :
        slot = epx ∨ slot ∈ interruptSlots := by
      cases h
    refine ⟨poolOk_init romWord, ⟨hcontrol, hshared, .inl rfl⟩, hactive, fun slot _ hpolled =>
      absurd (.inr hpolled) (hidle slot), fun slot _ hset => ?_, fun slot _ hcan =>
        absurd hcan (hidle slot), fun _ _ _ => ⟨rfl, rfl, rfl⟩⟩
    have hnone : hasBits 0#32 (slotBit slot) = false := by simp [hasBits]
    cases hnone.symm.trans hset
  have hlevel : ¬ (0 : UInt8) = 1 := by decide
  exact ⟨hfits, fun _ => ⟨hfits, haccounted, fun hone => absurd hone hlevel⟩⟩

/-- Every length that is reported to the master is at most 999, and the message for it is one byte
longer, in every run in which no transfer is started that could count more and no endpoint displaces
one that was used. -/
theorem completionLengths_fit {romWord : BitVec 32} {events : List Event} {m : Core0}
    (hrun : Machine.run step (.init romWord) events = some m)
    (hreports : Machine.Guarded step ReportsWithin (.init romWord) events)
    (hfits : Machine.Guarded step NextFits (.init romWord) events) :
    LengthsFit m.slave ∧ ∀ message ∈ m.slave.outbox, message.payload.length ≤ 1025 := by
  have hkept : LengthsKept m := Machine.guarded_invariant
    (fun _ _ _ hm hok hstep => step_lengthsKept hm hok hstep) (lengthsKept_init romWord)
    (Machine.guarded_and hreports hfits) hrun
  refine ⟨hkept.fits, fun message hsent => ?_⟩
  have hlength := hkept.fits.payload hsent
  omega

theorem openWhole_lt : ([7, 5, 0x81, 2, 64, 0, 0] : List UInt8).length < 2 ^ 16 := by decide

theorem readWhole_lt : (List.replicate 64 0 ++ [0x81] : List UInt8).length < 2 ^ 16 := by decide

theorem wholePacket_le : (List.replicate 64 0 : List UInt8).length ≤ 1023 := by decide

/-- The master opens a bulk endpoint and reads 64 bytes, which come in one packet. -/
def wholeRead : List Event :=
  [.receive ⟨MsgType.edptOpen, [7, 5, 0x81, 2, 64, 0, 0], openWhole_lt⟩, .slavework,
    .receive ⟨MsgType.usbData, List.replicate 64 0 ++ [0x81], readWhole_lt⟩, .slavework,
    .packetIn (packetOf (List.replicate 64 0) wholePacket_le), .hcdIrq]

theorem wholeRead_fits : ∃ m, Machine.run step (.init 0) wholeRead = some m ∧
    m.slave.outbox.length = 1 ∧
    LengthsFit m.slave ∧ ∀ message ∈ m.slave.outbox, message.payload.length ≤ 1025 := by
  have hends : ∃ m, Machine.run step (.init 0) wholeRead = some m ∧ m.slave.outbox.length = 1 :=
    Machine.exists_run_of_any (by decide +kernel)
  obtain ⟨m, hrun, hsent⟩ := hends
  exact ⟨m, hrun, hsent, completionLengths_fit hrun (by decide +kernel) (by decide +kernel)⟩

/-- The packets of a device that sends as much as it may: 64 bytes first, then one byte less each
time. -/
def shrinkingPackets (count : Nat) : List Packet :=
  (List.range count).map fun i =>
    packetOf (List.replicate (64 - i) 0) (by rw [List.length_replicate]; omega)

/-- The endpoint has a packet size of one byte, but the device sends longer packets. -/
def smallPacketSize : List Event :=
  [.receive ⟨MsgType.edptOpen, [7, 5, 0x81, 2, 1, 0, 0], by decide⟩, .slavework,
    .receive ⟨MsgType.usbData, List.replicate 64 0 ++ [0x81], readWhole_lt⟩, .slavework] ++
    (shrinkingPackets 19).flatMap fun packet => [.packetIn packet, .hcdIrq]

/-- The read of 64 bytes has counted 1045 after its 19th packet. -/
theorem smallPacketSize_overflows :
    ¬ ∀ (romWord : BitVec 32) (events : List Event) (m : Core0),
      Machine.run step (.init romWord) events = some m →
      Machine.Guarded step ReportsWithin (.init romWord) events →
        LengthsFit m.slave ∧ ∀ message ∈ m.slave.outbox, message.payload.length ≤ 1025 := by
  intro hclaim
  have hends : ∃ m, Machine.run step (.init 0) smallPacketSize = some m ∧
      .xferComplete 0x81 3 1045 .more ∈ m.slave.calls :=
    Machine.exists_run_of_any (by decide +kernel)
  obtain ⟨m, hrun, hcall⟩ := hends
  have hfits := (hclaim 0 smallPacketSize m hrun (by decide +kernel)).1
  have hbytes := hfits.reported 0x81 3 1045 .more hcall (.inl (by decide))
  exact absurd hbytes (by decide)

end UsbSec.Host
