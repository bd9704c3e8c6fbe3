import UsbSec.Device.StorageHandlers

/-!
# Completions on a mass-storage interface

What core 0 of the master does between two blocks of the host: its interrupt handler forwards a
block, or asks for the next packet. The completion of the last status wrapper may be dealt with only
when the next block was sent.
-/

namespace UsbSec.Device

open Library Usb Rp2040

/-- The bit of the status wrapper of the command before, whose completion is not dealt with yet. -/
def lateBits (dev : StorageInterface) (late : Bool) : BitVec 32 :=
  if late then bufStatusBit (2 * endpointNum dev.epIn) else 0

/-- The packet of the IN endpoint was taken, and its completion leads to no read. -/
structure LateDone (dev : StorageInterface) (s : Master) : Prop where
  taken : ∃ count, PacketTaken count (s.inLane dev)
  permit : s.drivers.permit0x81 = false

section Master

variable {dev : StorageInterface} {s : Master}

/-- A completion that leads to no read requests nothing. -/
theorem nextReads_late {drivers : Drivers} (h : drivers.permit0x81 = false) (count : UInt16) :
    nextReads dev drivers count = [] := by
  unfold nextReads
  rw [h, if_neg (by simp)]

/-- Without messages from the slave `handle_spi_slave_event` does nothing. -/
theorem handleSpiSlaveEvent_rests (hm : Mounted dev s) (hrx : s.rx.items = []) :
    handleSpiSlaveEvent s = .ok () s := by
  have hsame : s.rx.dropWhile isString = s.rx := by
    refine Fifo.ext ?_
    rw [Fifo.dropWhile_items, hrx]
    rfl
  have hwriting : ¬ s.events.setupResponseDir = .writingResponse := by
    rw [hm.reading]
    decide
  unfold handleSpiSlaveEvent
  rw [Program.read_bind, if_neg hwriting]
  rw [hsame, Fifo.remove_eq_none.mpr hrx]
  rfl

/-- The controller sends nothing from a buffer that is not its own. -/
theorem sendIn_rests (h : (s.inLane dev).Idle) : sendIn s.dcd (endpointNum dev.epIn) = none := by
  have hguard : ¬ (hasBits (s.dcd.memory.word (epBufCtrl (endpointNum dev.epIn) true))
      bufCtrlAvail && hasBits (s.dcd.memory.word (epBufCtrl (endpointNum dev.epIn) true))
        bufCtrlFull) = true := by
    rw [show hasBits (s.dcd.memory.word (epBufCtrl (endpointNum dev.epIn) true)) bufCtrlAvail =
      false from h]
    simp
  unfold sendIn
  cases controllerBuffer s.dcd (endpointNum dev.epIn) true with
  | none => rfl
  | some buffer => simp [guard, hguard]

/-- The interrupt handler while only buffers have completed. -/
theorem dcdRp2040Irq_buffers (hbits : s.dcd.bufStatus ≠ 0) :
    dcdRp2040Irq ⟨false, false, s.dcd.bufStatus != 0⟩ s = hwHandleBuffStatus s := by
  rw [bne_iff_ne.mpr hbits]
  rfl

/-- What the interrupt handler leaves behind the buffer of the IN endpoint: it has requested some
reads, and no buffer is left to handle. -/
structure Finishes (dev : StorageInterface) (requests : List SpiMessage) (s t : Master) : Prop where
  mounted : Mounted dev t
  bufStatus : t.dcd.bufStatus = 0
  rx : t.rx = s.rx
  outbox : t.outbox = s.outbox ++ requests
  outLane : t.outLane dev = s.outLane dev
  idle : (t.inLane dev).Idle

/-- The interrupt handler deals with the completion of a packet to the host. -/
theorem dcdRp2040Irq_completes {count : UInt16} (hm : Mounted dev s)
    (hbits : s.dcd.bufStatus = bufStatusBit (2 * endpointNum dev.epIn))
    (htaken : PacketTaken count (s.inLane dev)) (hidle : (s.inLane dev).Idle) :
    ∃ t, dcdRp2040Irq ⟨false, false, s.dcd.bufStatus != 0⟩ s = .ok () t ∧
      Finishes dev (nextReads dev s.drivers ((s.inLane dev).ep.xferredLen + count)) s t := by
  have hlt : endpointNum dev.epIn < 16 := dev.in_lt
  obtain ⟨t, hbuffer, hdone⟩ := inBuffer_completes hm htaken hidle
  have hsome : s.dcd.bufStatus ≠ 0 := by
    rw [hbits]
    exact bufStatusBit_ne_zero _ (by omega)
  refine ⟨t, ?_, hdone.mounted, ?_, hdone.rx, hdone.outbox, hdone.outLane, hdone.idle⟩
  · rw [dcdRp2040Irq_buffers hsome]
    exact (hwHandleBuffStatus_in dev.in_lt dev.in_pos hbits).trans hbuffer
  · rw [hdone.bufStatus, hbits]
    exact BitVec.and_not_self _

/-- The interrupt handler deals with a late completion that leads to no read, if there is one. -/
theorem dcdRp2040Irq_late {late : Bool} (hm : Mounted dev s)
    (hbits : s.dcd.bufStatus = lateBits dev late) (hidle : (s.inLane dev).Idle)
    (hlate : late = true → ∃ count, PacketTaken count (s.inLane dev) ∧
      nextReads dev s.drivers ((s.inLane dev).ep.xferredLen + count) = []) :
    ∃ t, dcdRp2040Irq ⟨false, false, s.dcd.bufStatus != 0⟩ s = .ok () t ∧
      Finishes dev [] s t := by
  cases late with
  | false =>
      have hzero : s.dcd.bufStatus = 0 := hbits
      refine ⟨s, ?_, hm, hzero, rfl, (List.append_nil _).symm, rfl, hidle⟩
      rw [hzero]
      rfl
  | true =>
      obtain ⟨count, htaken, hnone⟩ := hlate rfl
      have hdone := dcdRp2040Irq_completes hm hbits htaken hidle
      rw [hnone] at hdone
      exact hdone

/-- What the interrupt handler leaves when it has forwarded a block. -/
structure Forwards (dev : StorageInterface) (block : List UInt8) (stays : Bool) (s t : Master) :
    Prop where
  mounted : Mounted dev t
  bufStatus : t.dcd.bufStatus = lateBits dev stays
  rx : t.rx = s.rx
  outbox : ∃ message, t.outbox = s.outbox ++ [message] ∧ AsksWrite dev message ∧
    message.payload = block ++ [dev.epOut]
  idle : (t.inLane dev).Idle
  late : stays = true → LateDone dev t

/-- The block of a command is forwarded, and the completion of the last status wrapper is dealt with
after that: here, or in the next round when it is that of IN endpoint 1. -/
theorem dcdRp2040Irq_forwards {block : List UInt8} {late : Bool} (hm : Mounted dev s)
    (hbits : s.dcd.bufStatus = bufStatusBit (2 * endpointNum dev.epOut + 1) ||| lateBits dev late)
    (hheld : BlockHeld dev block s) (hidle : (s.inLane dev).Idle)
    (hlate : late = true → ∃ count, PacketTaken count (s.inLane dev)) :
    ∃ t stays, dcdRp2040Irq ⟨false, false, s.dcd.bufStatus != 0⟩ s = .ok () t ∧
      Forwards dev block stays s t := by
  have hout : endpointNum dev.epOut < 16 := dev.out_lt
  have hin : endpointNum dev.epIn < 16 := dev.in_lt
  have hset : hasBits (bufStatusBit (2 * endpointNum dev.epOut + 1) ||| lateBits dev late)
      (bufStatusBit (2 * endpointNum dev.epOut + 1)) = true := by
    rw [hasBits_or, hasBits_bufStatusBit _ (by omega) _ (by omega), decide_eq_true rfl, Bool.true_or]
  rw [dcdRp2040Irq_buffers (by rw [hbits]; exact ne_zero_of_hasBits hset)]
  obtain ⟨t, hbuffer, hforward⟩ := outBuffer_forwards hm hheld
  obtain ⟨message, houtbox, hasks, hpayload⟩ := hforward.outbox
  have hidle' : (t.inLane dev).Idle := by
    rw [hforward.inLane]
    exact hidle
  cases late with
  | false =>
      have hone : s.dcd.bufStatus = bufStatusBit (2 * endpointNum dev.epOut + 1) :=
        hbits.trans (BitVec.or_zero)
      refine ⟨t, false, (hwHandleBuffStatus_out dev.out_lt dev.out_pos hone).trans hbuffer,
        hforward.mounted, ?_, hforward.rx, ⟨message, houtbox, hasks, hpayload⟩, hidle', nofun⟩
      rw [hforward.bufStatus, hone]
      exact BitVec.and_not_self _
  | true =>
      obtain ⟨count, htaken⟩ := hlate rfl
      have htaken' : PacketTaken count (t.inLane dev) := by
        rw [hforward.inLane]
        exact htaken
      have hleft : t.dcd.bufStatus = bufStatusBit (2 * endpointNum dev.epIn) := by
        rw [hforward.bufStatus, hbits]
        exact bufStatusBit_or_masked _ (by omega) _ (by omega) (by omega)
      have hboth := (hwHandleBuffStatus_both dev.out_lt dev.out_pos dev.in_lt dev.in_pos
        hbits).trans (Program.bind_ok hbuffer)
      -- Behind an OUT endpoint the pass skips IN endpoint 1, and leaves its bit for the next one.
      by_cases hone : endpointNum dev.epIn = 1
      · rw [Program.when_false (not_not.mpr hone)] at hboth
        exact ⟨t, true, hboth, hforward.mounted, hleft, hforward.rx,
          ⟨message, houtbox, hasks, hpayload⟩, hidle',
          fun _ => ⟨⟨count, htaken'⟩, hforward.permit⟩⟩
      · rw [Program.when_true hone] at hboth
        obtain ⟨u, hrun, hcompletes⟩ := inBuffer_completes hforward.mounted htaken' hidle'
        rw [nextReads_late hforward.permit] at hcompletes
        refine ⟨u, false, hboth.trans hrun, hcompletes.mounted, ?_,
          hcompletes.rx.trans hforward.rx, ⟨message, ?_, hasks, hpayload⟩, hcompletes.idle, nofun⟩
        · rw [hcompletes.bufStatus, hleft]
          exact BitVec.and_not_self _
        · rw [hcompletes.outbox, houtbox, List.append_nil]

/-- The number of bytes that the host has taken is the length of the packet. -/
theorem PacketGone.length_iff {packet : Packet} (hgone : PacketGone dev packet s) :
    (s.inLane dev).ep.xferredLen + UInt16.ofNat packet.bytes.length = 13 ↔
      packet.bytes.length = 13 := by
  have hbound := packet.bounded
  rw [hgone.xferredLen, UInt16.zero_add, ← UInt16.toNat_inj, UInt16.toNat_ofNat',
    Nat.mod_eq_of_lt (by omega)]
  exact Iff.rfl

/-- After a status wrapper no read is requested, and after any other packet the next one is. -/
theorem PacketGone.nextReads {packet : Packet} (hgone : PacketGone dev packet s) :
    nextReads dev s.drivers ((s.inLane dev).ep.xferredLen + UInt16.ofNat packet.bytes.length) =
      if packet.bytes.length = 13 then [] else [mscRead dev.epIn] := by
  unfold Device.nextReads
  by_cases hlength : packet.bytes.length = 13
  · rw [if_pos hlength]
    exact if_neg fun hask => hask.2 ⟨hgone.length_iff.mpr hlength, hgone.count⟩
  · rw [if_neg hlength]
    exact if_pos ⟨hgone.permit, fun hbail => hlength (hgone.length_iff.mp hbail.1)⟩

/-- The driver asks for the next packet of the IN endpoint. -/
theorem mscRead_asks (dev : StorageInterface) : AsksRead dev (mscRead dev.epIn) := by
  refine ⟨show hasFlag MsgType.usbData MsgType.usbData by decide, ?_⟩
  show (List.replicate 64 0 ++ [dev.epIn]).getLast? = _
  simp

end Master

end UsbSec.Device
