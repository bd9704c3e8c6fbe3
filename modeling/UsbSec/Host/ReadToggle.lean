import UsbSec.Host.DataRead
import UsbSec.Host.Messages
import UsbSec.Rp2040.NextBuffer

/-!
# The data toggle of a control read

Every packet of a read arms the EPX buffer twice: `hw_endpoint_xfer_continue` arms it for what
remains of the request, and `hcd_edpt_xfer` arms it again for all of it. Each time the PID is
toggled by the parity of the number of packets that the host half predicts. The second number is
one more than the first, so that the two calls together toggle the PID once. `ArmedFrom` names the
`next_pid` with which the buffer was armed last, and there is only one that fits.
-/

namespace UsbSec.Host

open Library Usb Rp2040

/-- One packet less is predicted once a full packet is taken in. -/
theorem predicted_rest {size requested : UInt16} (hsize : size ≠ 0)
    (hmore : size.toNat < requested.toNat) :
    predicted size requested = predicted size (requested - tuMin16 requested size) + 1 := by
  have hpositive : 0 < size.toNat := by
    rcases Nat.eq_zero_or_pos size.toNat with hzero | hpositive
    · exact absurd (UInt16.toNat_inj.mp hzero) hsize
    · exact hpositive
  have hmin : tuMin16 requested size = size :=
    if_neg (UInt16.not_lt.mpr (UInt16.le_iff_toNat_le.mpr (Nat.le_of_lt hmore)))
  have hrest : (requested - size).toNat = requested.toNat - size.toNat :=
    UInt16.toNat_sub_of_le _ _ (UInt16.le_iff_toNat_le.mpr (Nat.le_of_lt hmore))
  have hnext : tuMin16 (requested - size) size ≠ 0 := by
    unfold tuMin16
    split
    · intro hzero
      have hnat := congrArg UInt16.toNat hzero
      rw [hrest, UInt16.toNat_zero] at hnat
      omega
    · exact hsize
  -- The quotients of N - 1 and of N - m - 1 by m differ by one.
  have hquotient : (requested.toNat - 1) / size.toNat =
      (requested.toNat - size.toNat - 1) / size.toNat + 1 := by
    have hsum : requested.toNat - 1 = requested.toNat - size.toNat - 1 + size.toNat := by omega
    rw [hsum, Nat.add_div_right _ hpositive]
  rw [hmin]
  unfold predicted
  rw [hmin, if_neg hsize, if_neg hnext, hrest, hquotient]
  omega

/-- The two calls that arm the buffer for a packet toggle the PID once. -/
theorem armPid_twice {size requested : UInt16} (hsize : size ≠ 0)
    (hmore : size.toNat < requested.toNat) (pid : UInt8) :
    armPid size (requested - tuMin16 requested size) (armPid size requested pid) =
      toggled 1 pid := by
  unfold armPid
  rw [nextPidAfter_predicted, nextPidAfter_predicted, ← toggled_add, predicted_rest hsize hmore]
  apply toggled_congr
  omega

/-! ## Packets that the static buffer has no room for -/

/-- The EPX buffer after a packet is received in it. -/
theorem receiveIn_stored {h next : Hcd} {packet : Packet} (hreceive : receiveIn h packet = some next) :
    next.epPool = h.epPool ∧ next.activeEp = h.activeEp ∧
      next.bufStatus = h.bufStatus ||| slotBit epx ∧
      next.memory.word epxBufCtrl = receivedWord (h.memory.word epxBufCtrl) packet := by
  have hword := storePacket_same h.memory epxCtrl epxBufCtrl packet
  unfold receiveIn at hreceive
  split at hreceive
  · cases hreceive
    split
    · exact ⟨rfl, rfl, rfl, hword⟩
    · exact ⟨rfl, rfl, rfl, hword⟩
  · cases hreceive

/-- The handling of a packet that does not fit with the endpoint address behind it stops. -/
theorem Waiting.stops {size requested : UInt16} {packet : Packet} {s : Slave}
    (hs : Waiting size requested packet s) (hlong : 1000 ≤ packet.bytes.length) :
    ∃ reason t, handleBuffStatusBit (slotBit epx) epx s = .error reason t := by
  have hhandler : handleBuffStatusBit (slotBit epx) epx s = handleEpxBuffer s := by
    unfold handleEpxBuffer
    rw [Program.read_bind, hs.held.activeEp]
  have hcount : 1000 ≤ (UInt16.ofNat packet.bytes.length).toNat := by
    rw [packet_toNat]
    exact hlong
  rw [hhandler]
  by_cases hlast : (syncedChannel (UInt16.ofNat packet.bytes.length)
      (epxChannel s.hcd)).ep.remainingLen = 0
  · obtain ⟨t, hpassed, -⟩ := handleEpxBuffer_ends hs hlast
    exact ⟨_, _, hpassed.run.trans (sendEventToMaster_long hcount _ _ _)⟩
  · obtain ⟨t, hpassed, -⟩ := handleEpxBuffer_restarts hs hlast
    exact ⟨_, _, hpassed.run.trans (sendEventToMaster_long hcount _ _ _)⟩

/-- The core does not survive a packet of 1000 bytes or more. -/
theorem Reading.deliver_long {size requested : UInt16} {c last : Core0} {packet : Packet}
    (hc : Reading size requested c) (hlong : 1000 ≤ packet.bytes.length)
    (hrun : Machine.run step c (deliver packet) = some last) : last.halted ≠ none := by
  obtain ⟨hcd, hreceive⟩ : ∃ hcd, receiveIn c.slave.hcd packet = some hcd := by
    unfold receiveIn
    rw [if_pos hc.armed.started]
    exact ⟨_, rfl⟩
  obtain ⟨hpool, hactive, hstatus, hword⟩ := receiveIn_stored hreceive
  let middle : Core0 := { c with slave := { c.slave with
    hcd := hcd, calls := c.slave.calls ++ [.transacted .packetIn] } }
  have hfirst : step c (.packetIn packet) = some middle := by
    rw [step_running hc.running]
    simp only [stepRunning, transact, hreceive, Option.map_some]
    rfl
  have hbits : middle.slave.hcd.bufStatus = slotBit epx := by
    show hcd.bufStatus = _
    rw [hstatus, hc.bufStatus]
    exact BitVec.zero_or
  have hpath : Path middle.slave.hcd epx (slotBit epx) epxBufCtrl epxCtrl epxDataOffset := by
    refine .shared ?_ (hactive.trans hc.armed.activeEp)
    rw [show middle.slave.hcd.epPool = c.slave.hcd.epPool from hpool]
    exact hc.armed.onEpx
  have hstop : ∃ reason t, handleBuffStatusBit (slotBit epx) epx middle.slave = .error reason t := by
    rcases Nat.lt_or_eq_of_le hlong with hover | hexact
    · -- The packet itself does not fit into the static buffer.
      have hpointer : (slotChannel epx hcd).ep.bufferControl = some epxBufCtrl := hpath.bufferControl
      have hep : (slotChannel epx hcd).ep = c.slave.hcd.epPool epx := congrFun hpool epx
      have hread : (slotChannel epx hcd).memory.readWord (slotChannel epx hcd).ep.bufferControl =
          receivedWord (c.slave.hcd.memory.word epxBufCtrl) packet := by
        rw [hpointer]
        exact hword
      have hrx := hc.armed.rx
      have hwhole := hc.armed.whole
      have huser := hc.armed.userBuf
      have hdata := hc.armed.onEpx.hwDataBuf
      have hfull := (receivedWord_bits (c.slave.hcd.memory.word epxBufCtrl) packet).1
      have hlength := bufLen_receivedWord (c.slave.hcd.memory.word epxBufCtrl) packet
      rw [← hread] at hfull hlength
      have hcontinue : hwEndpointXferContinue .slave (slotChannel epx hcd) =
          .error .undefined (slotChannel epx hcd) := by
        rw [← hep] at hrx hwhole huser hdata
        refine hwEndpointXferContinue_long hrx hwhole huser hdata hfull hlength ?_ ?_
        · have hbounded := packet.bounded
          rw [packet_toNat]
          show 0x180 + packet.bytes.length ≤ 4096
          omega
        · rw [packet_toNat]
          exact hover
      have hslot : onSlot epx (hwEndpointXferContinue .slave)
          { hcd with bufStatus := hcd.bufStatus &&& ~~~slotBit epx } = .error .undefined _ :=
        Program.onPart_error hcontinue
      unfold handleBuffStatusBit
      rw [Program.update_bind]
      exact ⟨_, _, Program.bind_error (Program.onPart_error hslot)⟩
    · -- The packet fits, but the endpoint address behind it does not.
      obtain ⟨next, hnext, -, -, -, -, hwaiting⟩ := hc.packetIn (Nat.le_of_eq hexact.symm)
      cases hfirst.symm.trans hnext
      exact hwaiting.stops hlong
  obtain ⟨reason, t, hstop⟩ := hstop
  obtain ⟨next, hnext, hhalted⟩ := hpath.hcdIrq_stops hc.running hbits hstop
  rw [run_deliver hfirst hnext] at hrun
  cases hrun
  exact hhalted

/-! ## The PID that a word is built from -/

theorem toggled_injective (count : Nat) {first second : UInt8}
    (h : toggled count first = toggled count second) : first = second := by
  unfold toggled at h
  split at h
  · exact h
  · have hback := congrArg (· ^^^ (1 : UInt8)) h
    simpa only [UInt8.xor_assoc, UInt8.xor_self, UInt8.xor_zero] using hback

/-- The PID that `epx` has left tells the one that its word was built from. -/
theorem ArmedFrom.unique {size remaining : UInt16} {first second : UInt8} {h : Hcd}
    (hfirst : ArmedFrom size remaining first h) (hsecond : ArmedFrom size remaining second h) :
    first = second := by
  have hpid {pid : UInt8} (harmed : ArmedFrom size remaining pid h) :
      (h.epPool epx).nextPid = toggled (predicted size remaining) pid := by
    obtain ⟨c, d, hrun, rfl, rfl, rfl, hep, -⟩ := harmed
    obtain ⟨-, rfl⟩ := (startNextBufferSlave_outcome c).ok hrun
    rw [hep]
    exact nextPidAfter_predicted _ _ _
  exact toggled_injective _ ((hpid hfirst).symm.trans (hpid hsecond))

theorem ArmedFrom.iff {size remaining : UInt16} {pid : UInt8} {h : Hcd}
    (harmed : ArmedFrom size remaining pid h) (other : UInt8) :
    ArmedFrom size remaining other h ↔ other = pid := by
  constructor
  · exact fun hother => hother.unique harmed
  · rintro rfl
    exact harmed

/-! ## The packets of a read -/

/-- The read goes on with the given PID, or the status stage is started with DATA1. -/
def ToggledRead (size requested : UInt16) (pid : UInt8) (h : Hcd) : Prop :=
  (InArmed h → ArmedFrom size requested pid h) ∧
    (¬ InArmed h → StatusOutStarted h ∧ ArmedFrom size 0 1 h)

/-- No packet is received once the status stage is started. -/
theorem receiveIn_status {h : Hcd} (hnotArmed : ¬ InArmed h) (packet : Packet) :
    receiveIn h packet = none := by
  unfold receiveIn
  refine if_neg fun hstarted => hnotArmed ⟨hstarted.2.2.2, hstarted.2.2.1⟩

theorem Reading.inArmed {size requested : UInt16} {c : Core0} (hc : Reading size requested c) :
    InArmed c.slave.hcd :=
  ⟨hc.armed.armed, hc.armed.started.2.2.1⟩

/-- Each packet that keeps the data stage going toggles the PID once. -/
theorem Reading.toggles {size requested : UInt16} {pid : UInt8} {packets : List Packet}
    {c last : Core0} (hc : Reading size requested c)
    (hword : ReadWord size requested pid c.slave.hcd) (hsize : size ≠ 0)
    (hbounded : ∀ packet ∈ packets, packet.bytes.length ≤ size.toNat)
    (hrun : Machine.run step c (packets.flatMap deliver) = some last)
    (hrunning : last.halted = none) :
    ToggledRead size requested (toggled packets.length pid) last.slave.hcd := by
  -- Induction on the packets; only the last one can end the data stage.
  induction packets generalizing c pid with
  | nil =>
      cases hrun
      exact ⟨fun _ => hword.armedFrom, fun hnot => absurd hc.inArmed hnot⟩
  | cons packet rest ih =>
      have hpacket := hbounded packet List.mem_cons_self
      rw [List.flatMap_cons, Machine.run_append] at hrun
      obtain ⟨middle, hfirst, hrest⟩ := Option.bind_eq_some_iff.mp hrun
      have hfits : packet.bytes.length < 1000 := by
        by_contra hlong
        exact hc.deliver_long (Nat.le_of_not_lt hlong) hfirst (running_before hrest hrunning)
      by_cases hmore : packet.bytes.length = size.toNat ∧ size.toNat < requested.toNat
      · obtain ⟨next, hnext, hreading, hpid, -⟩ := hc.deliver_more hmore.1 hsize hmore.2 hfits
        cases hnext.symm.trans hfirst
        rw [hword.nextPid, armPid_twice hsize hmore.2] at hpid
        rw [List.length_cons, Nat.add_comm, toggled_add]
        exact ih hreading hpid (fun other hmem => hbounded other (List.mem_cons_of_mem _ hmem)) hrest
      · have hlast : packet.bytes.length < size.toNat ∨ requested.toNat ≤ size.toNat := by omega
        obtain ⟨next, hnext, hgoes, hnotArmed, hstatus, hpid, -⟩ := hc.deliver_last hlast hfits
        cases hnext.symm.trans hfirst
        cases rest with
        | nil =>
            cases hrest
            exact ⟨fun harmed => absurd harmed hnotArmed, fun _ => ⟨hstatus, hpid⟩⟩
        | cons other rest =>
            -- The device has nothing more to send.
            have hstuck : step middle (.packetIn other) = none := by
              rw [step_running hgoes]
              simp only [stepRunning, transact, receiveIn_status hnotArmed, Option.map_none]
            rw [List.flatMap_cons] at hrest
            unfold deliver at hrest
            rw [List.cons_append, Machine.run_cons, hstuck] at hrest
            cases hrest

/-- The toggle of a control read whose packets have `size` bytes. The word that is in the register
when the k-th packet is received was written after k - 1 packets. -/
structure ReadToggles (size : UInt16) (setup : ControlRequest) (packets : List Packet)
    (last : Core0) : Prop where
  data : InArmed last.slave.hcd → ∀ pid, ArmedFrom size setup.wLength pid last.slave.hcd ↔
    pid = if packets.length % 2 = 0 then 1 else 0
  status : ¬ InArmed last.slave.hcd →
    StatusOutStarted last.slave.hcd ∧ ∀ pid, ArmedFrom size 0 pid last.slave.hcd ↔ pid = 1

/-- The packets of a control read alternate between DATA1 and DATA0, the first being DATA1, and the
status stage is DATA1. Whatever the packet size is, zero included, no run comes to a division by
zero. -/
theorem controlRead_toggles {c : Core0} (hidle : Idle c) :
    (∀ (setup : ControlRequest) (packets : List Packet) (last : Core0),
        (c.slave.hcd.epPool epx).wMaxPacketSize ≠ 0 → setup.direction = 1 →
        (∀ packet ∈ packets,
          packet.bytes.length ≤ (c.slave.hcd.epPool epx).wMaxPacketSize.toNat) →
        Machine.run step c (controlRead setup packets) = some last → last.halted = none →
        ReadToggles (c.slave.hcd.epPool epx).wMaxPacketSize setup packets last) ∧
      ∀ (events : List Event) (last : Core0), Machine.run step c events = some last →
        last.halted ≠ some .divisionByZero := by
  refine ⟨?_, fun events last hrun => never_divides_by_zero hidle.running hrun⟩
  intro setup packets last hsize hdirection hbounded hrun hrunning
  obtain ⟨start, hstart, hreading, hword, -⟩ := hidle.start rfl hdirection
  unfold controlRead at hrun
  rw [Machine.run_append, hstart, Option.bind_some] at hrun
  have htoggled := hreading.toggles hword hsize hbounded hrun hrunning
  refine ⟨fun harmed => (htoggled.1 harmed).iff, fun hnot => ?_⟩
  obtain ⟨hstatus, hpid⟩ := htoggled.2 hnot
  exact ⟨hstatus, hpid.iff⟩

/-- The device descriptor in packets of eight bytes: the third packet is DATA1. -/
theorem deviceDescriptor_toggles :
    ∃ c last, Machine.run step (.init 0) packetSizeEight = some c ∧
      Machine.run step c (controlRead ⟨0x80, 6, 0x0100, 0, 18⟩ (deviceDescriptorPackets.take 2)) =
        some last ∧ InArmed last.slave.hcd ∧ ArmedFrom 8 18 1 last.slave.hcd := by
  obtain ⟨c, hrun, hready, hread⟩ := packetSizeEight_ready (P := fun c =>
    (Machine.run step c (controlRead ⟨0x80, 6, 0x0100, 0, 18⟩
      (deviceDescriptorPackets.take 2))).any (fun last =>
        decide (last.halted = none ∧ hasBits (last.slave.hcd.memory.word epxBufCtrl) bufCtrlAvail =
          true ∧ hasBits last.slave.hcd.sieCtrl sieCtrlReceiveData = true)) = true)
    (by decide +kernel)
  obtain ⟨last, hlast, hrunning, harmed⟩ := Machine.exists_run_of_any hread
  have hsize : (c.slave.hcd.epPool epx).wMaxPacketSize = 8 := hready.size
  have hbounded : ∀ packet ∈ deviceDescriptorPackets.take 2,
      packet.bytes.length ≤ (c.slave.hcd.epPool epx).wMaxPacketSize.toNat := by
    rw [hsize]
    decide
  have htoggles := (controlRead_toggles hready.idle).1 _ _ _ (by rw [hsize]; decide) (by decide)
    hbounded hlast hrunning
  have hpid := (htoggles.data harmed 1).mpr rfl
  rw [hsize] at hpid
  exact ⟨c, last, hrun, hlast, harmed, hpid⟩

end UsbSec.Host
