import UsbSec.Host.BulkService

/-!
# One message for a bulk device

What a message of the master asks the slave to do, and the state of the EPX registers in which the
controller can exchange the packet: the bytes that are sent, and the packets that end a read.
-/

namespace UsbSec.Host

open Library Usb Rp2040

/-! ## Tasks -/

/-- What the slave has to do: nothing, write a block, read so many bytes, or report a packet. -/
inductive Task where
  | rest
  | write (block : List UInt8)
  | read (length : Nat)
  | report (carried : Carried)

/-- The message is the one that gives the slave the task. -/
inductive Requests (dev : BulkDevice) (message : SpiMessage) : Task → Prop
  | write {block : List UInt8} (asks : AsksOnce dev message dev.out block) :
      Requests dev message (.write block)
  | read {length : Nat} (asks : AsksOnce dev message dev.into (List.replicate length 0)) :
      Requests dev message (.read length)

/-- The bytes that a read asks for behind its first packet. -/
def restOfRead (size : UInt16) (length : Nat) : UInt16 :=
  UInt16.ofNat length - tuMin16 (UInt16.ofNat length) size

/-- The controller is to exchange the packet. -/
inductive Exchanging (dev : BulkDevice) (h : Hcd) : Task → Prop
  | writing {block : List UInt8} (writing : BulkWriting dev.out block h)
      (size : block.length ≤ 64) : Exchanging dev h (.write block)
  | reading {length : Nat} (reading : BulkReading dev.into (restOfRead dev.into.size length) h)
      (size : length ≤ 1000) : Exchanging dev h (.read length)

/-! ## Starting a task -/

section Exchanging

variable {dev : BulkDevice} {h : Hcd} {task : Task}

/-- The endpoint of the task has the registers, and nothing waits to be reported. -/
theorem Exchanging.serves (hexchanging : Exchanging dev h task) :
    ∃ e, EpxServes dev h (some e) none := by
  cases hexchanging with
  | writing hwriting hsize => exact ⟨_, .writing hwriting hsize⟩
  | reading hreading => exact ⟨_, .reading hreading⟩

/-- The state of the transaction flag does not matter. -/
theorem Exchanging.acknowledge (hexchanging : Exchanging dev h task) (transComplete : Bool) :
    Exchanging dev { h with transComplete := transComplete } task := by
  cases hexchanging with
  | writing hwriting hsize => exact .writing (hwriting.acknowledge transComplete) hsize
  | reading hreading hsize => exact .reading (hreading.acknowledge transComplete) hsize

/-- A message gives its task to the idle registers. -/
theorem EpxServes.slavework_starts {s : Slave} {message : SpiMessage} {rest : List SpiMessage}
    (hserves : EpxServes dev s.hcd none none) (hready : BulkReady dev s.hcd)
    (hrx : s.rx.items = message :: rest) (hrequests : Requests dev message task) :
    ∃ t, slavework s = .ok () t ∧ t.rx.items = rest ∧ t.outbox = s.outbox ∧
      BulkReady dev t.hcd ∧ Exchanging dev t.hcd task := by
  cases hserves with
  | idle hidle =>
      cases hrequests with
      | @write block hasks =>
          obtain ⟨hsize, hfits⟩ : block.length ≤ 64 ∧ block.length ≤ dev.out.size.toNat := by
            rcases hasks.one with ⟨hsame, -⟩ | ⟨-, hshort, hfits⟩
            · have hdir := dev.out_dir
              rw [hsame, dev.in_dir] at hdir
              cases hdir
            · exact ⟨hshort, hfits⟩
          obtain ⟨t, hrun, hitems, houtbox, hsame, hwriting⟩ :=
            slavework_writes hready.out hidle dev.out_dir hrx hasks.asks hsize hfits
          exact ⟨t, hrun, hitems, houtbox, hready.of_same hsame, .writing hwriting hsize⟩
      | @read length hasks =>
          have hsize : length ≤ 1000 := by
            rcases hasks.one with ⟨-, hshort⟩ | ⟨-, hshort, -⟩
            · simpa using hshort
            · rw [List.length_replicate] at hshort
              omega
          obtain ⟨t, hrun, hitems, houtbox, hsame, hreading⟩ :=
            slavework_reads hready.into hidle dev.in_dir hrx hasks.asks (by simpa using hsize)
          rw [List.length_replicate] at hreading
          exact ⟨t, hrun, hitems, houtbox, hready.of_same hsame, .reading hreading hsize⟩

/-- A packet that suffices for a read ends it. -/
theorem BulkReading.endsRead {e : BulkEndpoint} {length : Nat} {packet : Packet}
    (hreading : BulkReading e (restOfRead e.size length) h) (hopen : BulkOpen e h)
    (hlength : length ≤ 1000)
    (hends : packet.bytes.length < e.size.toNat ∨ length ≤ e.size.toNat) : EndsRead h packet := by
  intro slot hslot
  have hsame : slot = e.slot := Option.some.inj (hslot.symm.trans hreading.transfer.active)
  rw [hsame, hopen.size, hreading.transfer.remaining]
  rcases hends with hshort | hwhole
  · refine .inl (.inl ?_)
    rw [UInt16.lt_iff_toNat_lt, packet_toNat]
    exact hshort
  · refine .inr ?_
    have hle : UInt16.ofNat length ≤ e.size := by
      rw [UInt16.le_iff_toNat_le, UInt16.toNat_ofNat']
      omega
    unfold restOfRead
    rw [tuMin16_of_le hle, UInt16.sub_self]

end Exchanging

/-! ## The interrupt handler -/

section Irq

variable {dev : BulkDevice} {s : Slave} {who : Option BulkEndpoint} {causes : List Cause}

/-- While no packet waits, the interrupt handler only acknowledges a transaction. -/
theorem irq_quiet (hserves : EpxServes dev s.hcd who none) (hcauses : NoErrors causes) :
    hcdRp2040Irq causes (s.hcd.bufStatus != 0) s.hcd.transComplete s =
      .ok () (acknowledged s.hcd.transComplete s) := by
  have hzero : s.hcd.bufStatus = 0 := hserves.bufStatus
  refine hcdRp2040Irq_after hcauses _ ?_ hserves.noSetup _
  rw [Program.when_false (by simp [hzero])]
  rfl

/-- A packet that waits is reported, and the registers are idle again. -/
theorem irq_reports {carried : Carried} (hserves : EpxServes dev s.hcd who (some carried))
    (hready : BulkReady dev s.hcd) (hcauses : NoErrors causes) :
    ∃ t message, hcdRp2040Irq causes (s.hcd.bufStatus != 0) s.hcd.transComplete s = .ok () t ∧
      t.rx = s.rx ∧ t.outbox = s.outbox ++ [message] ∧ carried.ReportedBy message ∧
      BulkReady dev t.hcd ∧ EpxServes dev t.hcd none none := by
  obtain ⟨t, message, hhandled, hrx, houtbox, hmessage, hnext, hidle⟩ :=
    hserves.buffers hready rfl
  have hbit : s.hcd.bufStatus = slotBit epx := hserves.bufStatus
  have hrun : Program.when (s.hcd.bufStatus != 0) hwHandleBuffStatus s = .ok () t := by
    rw [Program.when_true (by rw [hbit]; decide)]
    exact hhandled
  exact ⟨_, message, hcdRp2040Irq_after hcauses _ hrun hidle.noSetup _, hrx, houtbox, hmessage,
    hnext.of_same ⟨fun _ => rfl, rfl, rfl⟩, hidle.acknowledge _⟩

end Irq

end UsbSec.Host
