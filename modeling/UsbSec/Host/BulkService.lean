import UsbSec.Host.BulkTransfer

/-!
# The EPX registers in the service of a bulk device

Both bulk endpoints of a device are served by the EPX registers. The registers are idle, or one of
the two endpoints has them until its packet is exchanged and reported. For each thing that can
happen on the slave there is one lemma that says where the registers are afterwards.
-/

namespace UsbSec.Host

open Library Usb Rp2040

/-- The bulk endpoints of a device, in the slots of the pool where the slave has them. -/
structure BulkDevice where
  out : BulkEndpoint
  into : BulkEndpoint
  out_dir : tuEdptDirIn out.epAddr = false
  in_dir : tuEdptDirIn into.epAddr = true
  in_size : into.size.toNat ≤ 64

/-- Both endpoints are open. -/
structure BulkReady (dev : BulkDevice) (h : Hcd) : Prop where
  out : BulkOpen dev.out h
  into : BulkOpen dev.into h

theorem BulkReady.of_same {dev : BulkDevice} {h k : Hcd} (hready : BulkReady dev h)
    (hsame : SamePlaces h k) : BulkReady dev k :=
  ⟨hready.out.of_same hsame, hready.into.of_same hsame⟩

/-- A packet that the controller has exchanged with the device: the address of the endpoint, and
the bytes. -/
structure Carried where
  epAddr : UInt8
  data : List UInt8

/-- The message reports the packet. -/
def Carried.ReportedBy (carried : Carried) (message : SpiMessage) : Prop :=
  ReportsTransfer message carried.epAddr carried.data

/-- Where the EPX registers are: the endpoint that has them, and the packet that was exchanged and
is not reported yet. -/
inductive EpxServes (dev : BulkDevice) (h : Hcd) : Option BulkEndpoint → Option Carried → Prop
  | idle (idle : EpxIdle h) : EpxServes dev h none none
  | reading {remaining : UInt16} (reading : BulkReading dev.into remaining h) :
      EpxServes dev h (some dev.into) none
  | received {remaining : UInt16} {packet : Packet}
      (received : BulkReceived dev.into remaining packet h)
      (fits : packet.bytes.length ≤ dev.into.size.toNat)
      (ends : IsShort (UInt16.ofNat packet.bytes.length) dev.into.size ∨ remaining = 0) :
      EpxServes dev h (some dev.into) (some ⟨dev.into.epAddr, packet.bytes⟩)
  | writing {data : List UInt8} (writing : BulkWriting dev.out data h) (size : data.length ≤ 64) :
      EpxServes dev h (some dev.out) none
  | written {data : List UInt8} (written : BulkWritten dev.out data h) (size : data.length ≤ 64) :
      EpxServes dev h (some dev.out) (some ⟨dev.out.epAddr, data⟩)

/-- The device ends the read that is under way with this packet: the packet is short, or no more
bytes are asked for. -/
def EndsRead (h : Hcd) (packet : Packet) : Prop :=
  ∀ slot ∈ h.activeEp,
    IsShort (UInt16.ofNat packet.bytes.length) (h.epPool slot).wMaxPacketSize ∨
      (h.epPool slot).remainingLen = 0

instance (h : Hcd) (packet : Packet) : Decidable (EndsRead h packet) :=
  inferInstanceAs (Decidable (∀ _ ∈ _, _))

section Serves

variable {dev : BulkDevice} {h k : Hcd} {who : Option BulkEndpoint} {pending : Option Carried}

/-- Nothing is under way while no endpoint has the registers. -/
theorem EpxServes.free (hserves : EpxServes dev h none pending) : EpxFree h := by
  cases hserves with
  | idle hidle => exact hidle.free

theorem EpxServes.nothing_pending (hserves : EpxServes dev h none pending) : pending = none := by
  cases hserves with
  | idle => rfl

/-- The packet that waits is one of the endpoint that has the registers. -/
theorem EpxServes.pending_fits {carried : Carried}
    (hserves : EpxServes dev h who (some carried)) :
    ∃ e, who = some e ∧ carried.epAddr = e.epAddr ∧
      (e = dev.into → carried.data.length ≤ dev.into.size.toNat) := by
  cases hserves with
  | received _ hfits => exact ⟨_, rfl, rfl, fun _ => hfits⟩
  | written =>
      refine ⟨_, rfl, rfl, fun hsame => ?_⟩
      have hdir := dev.out_dir
      rw [hsame, dev.in_dir] at hdir
      cases hdir

/-- The EPX bit is up just when a packet waits to be reported. -/
theorem EpxServes.bufStatus (hserves : EpxServes dev h who pending) :
    h.bufStatus = if pending.isSome then slotBit epx else 0 := by
  cases hserves with
  | idle hidle => exact hidle.bufStatus
  | reading hreading => exact hreading.bufStatus
  | received hreceived => exact hreceived.bufStatus
  | writing hwriting => exact hwriting.bufStatus
  | written hwritten => exact hwritten.bufStatus

/-- The active endpoint is the one that has exchanged the packet. -/
theorem EpxServes.active (hserves : EpxServes dev h who pending) (hready : BulkReady dev h)
    {carried : Carried} (hpending : pending = some carried) :
    ∃ slot, h.activeEp = some slot ∧ (h.epPool slot).epAddr = carried.epAddr := by
  cases hserves with
  | idle => cases hpending
  | reading => cases hpending
  | received hreceived =>
      cases hpending
      exact ⟨_, hreceived.transfer.active, hready.into.epAddr⟩
  | writing => cases hpending
  | written hwritten =>
      cases hpending
      exact ⟨_, hwritten.transfer.active, hready.out.epAddr⟩

/-- No setup packet is under way. -/
theorem EpxServes.noSetup (hserves : EpxServes dev h who pending) :
    hasBits h.sieCtrl sieCtrlSendSetup = false := by
  cases hserves with
  | idle hidle => exact hidle.noSetup
  | reading hreading => exact hreading.transfer.noSetup
  | received hreceived => exact hreceived.transfer.noSetup
  | writing hwriting => exact hwriting.transfer.noSetup
  | written hwritten => exact hwritten.transfer.noSetup

/-- The state of the transaction flag does not matter. -/
theorem EpxServes.acknowledge (hserves : EpxServes dev h who pending) (transComplete : Bool) :
    EpxServes dev { h with transComplete := transComplete } who pending := by
  have hactive {e : BulkEndpoint} {remaining : UInt16} (hactive : BulkActive e remaining h) :
      BulkActive e remaining { h with transComplete := transComplete } :=
    hactive.of_eq rfl rfl rfl fun _ _ => rfl
  cases hserves with
  | idle hidle => exact .idle ⟨hidle.inactive, hidle.bufStatus, hidle.disarmed, hidle.noSetup⟩
  | reading hreading => exact .reading (hreading.acknowledge transComplete)
  | received hreceived hfits hends =>
      refine .received ⟨hactive hreceived.transfer, hreceived.bufStatus, ?_, hreceived.disarmed⟩
        hfits hends
      exact ⟨hreceived.held.control, hreceived.held.full, hreceived.held.length,
        hreceived.held.bytes⟩
  | writing hwriting hsize => exact .writing (hwriting.acknowledge transComplete) hsize
  | written hwritten hsize =>
      refine .written ⟨hactive hwritten.transfer, hwritten.bufStatus, ?_, hwritten.emptied,
        hwritten.disarmed⟩ hsize
      exact ⟨hwritten.loaded.length, hwritten.loaded.bugger⟩

/-! ## The controller -/

/-- The controller sends no setup packet. -/
theorem EpxServes.no_setup (hserves : EpxServes dev h who pending) : sendSetupPacket h = none := by
  have hnot : ¬ SetupStarted h := by
    rintro ⟨-, hsetup⟩
    rw [hserves.noSetup] at hsetup
    cases hsetup
  exact if_neg hnot

/-- The controller exchanges nothing while a packet waits to be reported. -/
theorem EpxServes.exchanged_rests {carried : Carried} (hserves : EpxServes dev h who (some carried))
    (direction : BitVec 32) : ¬ DataStarted h direction := by
  cases hserves with
  | received hreceived => exact no_exchange hreceived.disarmed direction
  | written hwritten => exact no_exchange hwritten.disarmed direction

/-- Only a read takes a packet in, and then the packet waits to be reported. -/
theorem EpxServes.receives (hserves : EpxServes dev h who pending) (hready : BulkReady dev h)
    {packet : Packet} (hfits : packet.bytes.length ≤ dev.into.size.toNat) (hends : EndsRead h packet)
    (hreceive : receiveIn h packet = some k) :
    pending = none ∧ BulkReady dev k ∧
      EpxServes dev k who (some ⟨addressedEndpoint h, packet.bytes⟩) := by
  have hstarted : DataStarted h sieCtrlReceiveData :=
    (Option.ite_none_right_eq_some.mp hreceive).1
  cases hserves with
  | idle hidle => exact absurd hstarted (no_exchange hidle.disarmed _)
  | @reading remaining hreading =>
      obtain ⟨hsame, hreceived⟩ := hreading.receives hready.into hreceive
      have haddress := hreading.transfer.addressed
      have hshort := hends _ hreading.transfer.active
      rw [hready.into.size, hreading.transfer.remaining] at hshort
      refine ⟨rfl, hready.of_same hsame, ?_⟩
      rw [haddress]
      exact .received hreceived hfits hshort
  | received hreceived => exact absurd hstarted (no_exchange hreceived.disarmed _)
  | writing hwriting => exact absurd hstarted (hwriting.transfer.one_direction.1 dev.out_dir)
  | written hwritten => exact absurd hstarted (no_exchange hwritten.disarmed _)

/-- Only a write sends a packet, and then the packet waits to be reported. -/
theorem EpxServes.sends (hserves : EpxServes dev h who pending) (hready : BulkReady dev h)
    (hsend : sendOut h = some k) :
    pending = none ∧ BulkReady dev k ∧
      EpxServes dev k who (some ⟨addressedEndpoint h, epxBytes h⟩) := by
  have hstarted : DataStarted h sieCtrlSendData := (Option.ite_none_right_eq_some.mp hsend).1.1
  cases hserves with
  | idle hidle => exact absurd hstarted (no_exchange hidle.disarmed _)
  | reading hreading => exact absurd hstarted (hreading.transfer.one_direction.2 dev.in_dir)
  | received hreceived => exact absurd hstarted (no_exchange hreceived.disarmed _)
  | writing hwriting hsize =>
      obtain ⟨hsame, hwritten, hbytes⟩ := hwriting.sends hready.out hsend
      have haddress := hwriting.transfer.addressed
      refine ⟨rfl, hready.of_same hsame, ?_⟩
      rw [haddress, hbytes]
      exact .written hwritten hsize
  | written hwritten => exact absurd hstarted (no_exchange hwritten.disarmed _)

end Serves

/-! ## Core 0 of the slave -/

section Core

variable {dev : BulkDevice} {s : Slave} {who : Option BulkEndpoint} {pending : Option Carried}

/-- Without messages `slavework` does nothing. -/
theorem slavework_rests (hrx : s.rx.items = []) : slavework s = .ok () s := by
  unfold slavework
  rw [Program.read_bind, Fifo.remove_eq_none.mpr hrx]
  rfl

/-- What a message for an endpoint may ask for: at most what the static buffer holds, and for the
OUT endpoint at most one packet. -/
structure AsksOnce (dev : BulkDevice) (message : SpiMessage) (e : BulkEndpoint)
    (data : List UInt8) : Prop where
  asks : AsksFor message e.epAddr data
  one : e = dev.into ∧ data.length ≤ 1000 ∨
    e = dev.out ∧ data.length ≤ 64 ∧ data.length ≤ dev.out.size.toNat

/-- A message for an endpoint gives it the idle registers. -/
theorem EpxServes.slavework_serves (hserves : EpxServes dev s.hcd none pending)
    (hready : BulkReady dev s.hcd) {message : SpiMessage} {rest : List SpiMessage}
    {e : BulkEndpoint} {data : List UInt8} (hrx : s.rx.items = message :: rest)
    (hasks : AsksOnce dev message e data) :
    ∃ t, slavework s = .ok () t ∧ t.rx.items = rest ∧ t.outbox = s.outbox ∧
      BulkReady dev t.hcd ∧ EpxServes dev t.hcd (some e) none := by
  cases hserves with
  | idle hidle =>
      obtain ⟨hmessage, ⟨rfl, hfits⟩ | ⟨rfl, hshort, hfits⟩⟩ := hasks
      · obtain ⟨t, hrun, hitems, houtbox, hsame, hreading⟩ :=
          slavework_reads hready.into hidle dev.in_dir hrx hmessage hfits
        exact ⟨t, hrun, hitems, houtbox, hready.of_same hsame, .reading hreading⟩
      · obtain ⟨t, hrun, hitems, houtbox, hsame, hwriting⟩ :=
          slavework_writes hready.out hidle dev.out_dir hrx hmessage hshort hfits
        exact ⟨t, hrun, hitems, houtbox, hready.of_same hsame, .writing hwriting hshort⟩

/-- The buffers are handled: a packet that waits is reported, and the registers are idle again. -/
theorem EpxServes.buffers (hserves : EpxServes dev s.hcd who pending)
    (hready : BulkReady dev s.hcd) {carried : Carried} (hpending : pending = some carried) :
    ∃ t message, hwHandleBuffStatus s = .ok () t ∧ t.rx = s.rx ∧
      t.outbox = s.outbox ++ [message] ∧ carried.ReportedBy message ∧ BulkReady dev t.hcd ∧
      EpxServes dev t.hcd none none := by
  have hreports {e : BulkEndpoint} {data : List UInt8}
      (h : ∃ t, hwHandleBuffStatus s = .ok () t ∧ BulkReported e data s t) :
      ∃ t message, hwHandleBuffStatus s = .ok () t ∧ t.rx = s.rx ∧
        t.outbox = s.outbox ++ [message] ∧ ReportsTransfer message e.epAddr data ∧
        BulkReady dev t.hcd ∧ EpxServes dev t.hcd none none := by
    obtain ⟨t, hrun, ⟨message, houtbox, hmessage⟩, hrx, hplaces, hidle⟩ := h
    exact ⟨t, message, hrun, hrx, houtbox, hmessage, hready.of_same hplaces, .idle hidle⟩
  cases hserves with
  | idle => cases hpending
  | reading => cases hpending
  | received hreceived hfits hends =>
      cases hpending
      have hsize := dev.in_size
      exact hreports (hreceived.reported hready.into dev.in_dir (by omega) hends)
  | writing => cases hpending
  | written hwritten hsize =>
      cases hpending
      exact hreports (hwritten.reported hready.out dev.out_dir hsize)

/-- The interrupt handler reports the packet that waits, if there is one. -/
theorem EpxServes.irq (hserves : EpxServes dev s.hcd who pending) (hready : BulkReady dev s.hcd)
    (causes : List Cause) {t : Slave}
    (ht : t = Program.final
      (hcdRp2040Irq causes (s.hcd.bufStatus != 0) s.hcd.transComplete s)) :
    t.rx = s.rx ∧ BulkReady dev t.hcd ∧
      (pending = none → t.outbox = s.outbox ∧ EpxServes dev t.hcd who none) ∧
      ∀ carried, pending = some carried → EpxServes dev t.hcd none none ∧
        ∃ message, t.outbox = s.outbox ++ [message] ∧ carried.ReportedBy message := by
  have hbits := hserves.bufStatus
  cases hpending : pending with
  | none =>
      subst hpending
      have hzero : s.hcd.bufStatus = 0 := hbits
      have hrun : Program.when (s.hcd.bufStatus != 0) hwHandleBuffStatus s = .ok () s := by
        rw [Program.when_false (by simp [hzero])]
        rfl
      rw [hcdRp2040Irq_final causes hrun hserves.noSetup] at ht
      subst ht
      refine ⟨rfl, hready.of_same ⟨fun _ => rfl, rfl, rfl⟩, fun _ => ⟨rfl, ?_⟩, nofun⟩
      exact hserves.acknowledge _
  | some carried =>
      have hbit : s.hcd.bufStatus = slotBit epx := by
        rw [hbits, hpending]
        rfl
      obtain ⟨u, message, hhandled, hrx, houtbox, hmessage, hnext, hidle⟩ :=
        hserves.buffers hready hpending
      have hrun : Program.when (s.hcd.bufStatus != 0) hwHandleBuffStatus s = .ok () u := by
        rw [Program.when_true (by rw [hbit]; decide)]
        exact hhandled
      rw [hcdRp2040Irq_final causes hrun hidle.noSetup] at ht
      subst ht
      refine ⟨hrx, hnext.of_same ⟨fun _ => rfl, rfl, rfl⟩, nofun, fun other hother => ?_⟩
      cases hother
      exact ⟨hidle.acknowledge _, message, houtbox, hmessage⟩

end Core

end UsbSec.Host
