import UsbSec.Device.KeyboardBan
import UsbSec.Device.Silence
import UsbSec.System.OpenedEndpoints

/-!
# The host gets nothing from a keyboard

The ban on keyboards stops core 0 of the master, and the controller goes on. In every run, before
and after the ban has stopped core 0, the host can move no packet through an endpoint whose
interface copy is that of a keyboard. Nothing is said of a core 0 that came to an access outside of
a table, such as that of an endpoint numbered above 15: there the firmware does not stop, and what
it writes next is not known.
-/

namespace UsbSec.System

open Library Usb Rp2040

/-- The host moves a packet through an endpoint of the master: it takes the one that is armed on an
IN endpoint, or fills the buffer that is armed on an OUT endpoint. -/
def HostMoves (b : Board) (epAddr : UInt8) (n : Board) : Prop :=
  if tuEdptDirIn epAddr then step b (.device (.hostIn (tuEdptNumber epAddr).toNat)) = some n
  else ∃ packet, step b (.device (.hostOut (tuEdptNumber epAddr).toNat packet)) = some n

theorem ByHost.silent {s : Device.Master} {dcd : Dcd} (hs : Device.Silent s) (h : ByHost s.dcd dcd) :
    Device.Silent { s with dcd := dcd } := by
  refine hs.of_keeps ⟨rfl, ?_⟩
  cases h with
  | nothing => exact refl_of KeepsUnarmed s.dcd
  | setup bytes => exact keepsUnarmed_of_same rfl rfl
  | taken num e hsend => exact Device.sendIn_keepsUnarmed hsend
  | filled num packet e hreceive => exact Device.receiveOut_keepsUnarmed hreceive

/-- Taking messages from `rx` and stopping a core arm nothing. -/
theorem runMaster_silent {handler : Device.MasterM Unit} {b : Board}
    (h : Program.Moves (Program.Keeps Device.Silent) handler) (hb : Device.Silent b.master.master) :
    Device.Silent (runMaster handler b).master.master :=
  h { b.master.master with rx := b.chips.master.rx } ⟨hb.wired, hb.unarmed⟩

theorem step_silent {b n : Board} (h : Device.Silent b.master.master) (hstep : MasterStep b n) :
    Device.Silent n.master.master := by
  cases hstep with
  | handleSpiSlaveEvent hidle hnext =>
      subst hnext
      exact runMaster_silent Device.handleSpiSlaveEvent_silent h
  | dcdIrq hidle ints master hmaster hnext =>
      subst hnext
      exact runMaster_silent (b := { b with master := master })
        (Device.silent_of_keeps (Device.dcdRp2040Irq_keeps_silence ints)) (hmaster ▸ h)
  | other dcd hdcd hmaster hhalted hdequeued =>
      rw [hmaster]
      exact hdcd.silent h

theorem Reaches.silent {masterRom slaveRom : BitVec 32} {actions : List Action} {b : Board}
    (h : Reaches masterRom slaveRom actions b) : Device.Silent b.master.master :=
  (h.invariant (I := fun b => Device.Silent b.master.master) (Device.Master.init_silent masterRom)
    fun _ _ _ hb hmaster _ => step_silent hb hmaster).2

/-- In every run, the host moves no packet through an endpoint while the interface copy of the
endpoint is that of a keyboard, be core 0 of the master running or stopped by one of the tests that
the firmware makes. -/
theorem keyboard_cut_off {masterRom slaveRom : BitVec 32} {actions : List Action} {b : Board}
    {epAddr : UInt8} (h : Reaches masterRom slaveRom actions b)
    (_ : b.masterHalted ≠ some .undefined) (hnumbered : Device.Numbered epAddr)
    (hkeyboard : Device.IsKeyboard (b.master.master.drivers.itfCopy (Device.slotOf epAddr)))
    (n : Board) : ¬ HostMoves b epAddr n := by
  have hunarmed := h.silent.unarmed epAddr hnumbered hkeyboard
  intro hmoves
  unfold HostMoves at hmoves
  cases hdir : tuEdptDirIn epAddr with
  | true =>
      rw [hdir] at hunarmed hmoves
      obtain ⟨master, hmaster, -⟩ := Option.map_eq_some_iff.mp hmoves
      obtain ⟨dcd, hsend, -⟩ := Option.map_eq_some_iff.mp hmaster
      rw [Device.sendIn_unarmed hunarmed] at hsend
      cases hsend
  | false =>
      rw [hdir] at hunarmed hmoves
      obtain ⟨packet, hmoves⟩ := hmoves
      obtain ⟨master, hmaster, -⟩ := Option.map_eq_some_iff.mp hmoves
      obtain ⟨dcd, hreceive, -⟩ := Option.map_eq_some_iff.mp hmaster
      rw [Device.receiveOut_unarmed hunarmed] at hreceive
      cases hreceive

/-- The host reads the configuration of a keyboard and its report descriptor, and a key is
pressed. -/
def pressKey : List Action :=
  readConfiguration [⟨[9, 2, 25, 0, 1, 1, 0, 0x80], by decide⟩,
    ⟨[50, 9, 4, 0, 0, 1, 3, 1], by decide⟩, ⟨[1, 0, 7, 5, 0x81, 3, 8, 0], by decide⟩,
    ⟨[10], by decide⟩] ++ [.device .handleSpiSlaveEvent] ++ readReport ++ [.host .slavework,
    .host (.interruptIn 1 ⟨[0, 0, 4, 0, 0, 0, 0, 0], by decide⟩), .host .hcdIrq, .enqueue .slave] ++
    toMaster 1 ++ [.device .handleSpiSlaveEvent, .device .handleSpiSlaveEvent]

theorem pressKey_cut_off :
    ∃ b, Reaches 0 0 pressKey b ∧ b.masterHalted = some Device.keyboardBanned ∧
      ∀ n, ¬ HostMoves b 0x81 n := by
  have hends : ∃ b, Machine.run step (init 0 0) pressKey = some b ∧
      (b.masterHalted = some Device.keyboardBanned ∧
        Device.IsKeyboard (b.master.master.drivers.itfCopy (Device.slotOf 0x81))) :=
    Machine.exists_run_of_any (by decide +kernel)
  obtain ⟨b, hrun, hbanned, hkeyboard⟩ := hends
  have hdefined : b.masterHalted ≠ some .undefined := by
    rw [hbanned]
    decide
  exact ⟨b, hrun, hbanned, keyboard_cut_off hrun hdefined (by decide) hkeyboard⟩

end UsbSec.System
