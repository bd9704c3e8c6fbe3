import UsbSec.Device.Tables

/-!
# Coherence of the two endpoint tables

The driver table outlives a bus reset and the hardware endpoints do not. An endpoint that the
driver table knows is set up exactly when it was registered again since the last bus reset.
-/

namespace UsbSec.Device

open Library Usb Rp2040

/-- The hardware endpoint of `epAddr` is set up with the packet size of the last descriptor
registered for it. -/
def Initialised (s : Master) (epAddr : UInt8) : Prop :=
  ∃ entry, lastIn (slotOf epAddr) (registrations s.calls) = some entry ∧
    entry.epAddr = epAddr ∧ (s.hwEndpoint epAddr).bufferControl ≠ none ∧
    (s.hwEndpoint epAddr).endpointControl ≠ none ∧ (s.hwEndpoint epAddr).hwDataBuf ≠ none ∧
    (s.hwEndpoint epAddr).wMaxPacketSize = entry.maxPacketSize

/-- An endpoint with a driver has an initialised hardware endpoint. -/
def Coherent (s : Master) (epAddr : UInt8) : Prop :=
  s.drivers.edptDriver (slotOf epAddr) ≠ .illegal → Initialised s epAddr

/-- An endpoint that was ever registered was registered since the last bus reset. -/
def RegistrationFresh (calls : List Call) (epAddr : UInt8) : Prop :=
  lastIn (slotOf epAddr) (registrations calls) ≠ none →
    lastIn (slotOf epAddr) (registrations (sinceBusReset calls)) ≠ none

instance (calls : List Call) (epAddr : UInt8) : Decidable (RegistrationFresh calls epAddr) :=
  inferInstanceAs (Decidable (_ → _))

theorem initialised_of_fresh {s : Master} (hs : TablesLogged s) {epAddr : UInt8}
    (hnumbered : Numbered epAddr) {entry : Registration}
    (h : lastIn (slotOf epAddr) (registrations (sinceBusReset s.calls)) = some entry) :
    Initialised s epAddr := by
  have hall := lastIn_sinceBusReset h
  obtain ⟨hmem, hslot⟩ := lastIn_slot hall
  have haddr : entry.epAddr = epAddr :=
    eq_of_slotOf_eq hnumbered.2 (hs.inTable entry hmem).2 hslot
  have hshape := hs.shape epAddr hnumbered
  rw [h] at hshape
  obtain ⟨buffer, hshape⟩ := hshape
  have hfield {β : Type} (field : Shape → β) : field (s.hwEndpoint epAddr).shape =
      field (openedShape _ _ buffer entry.maxPacketSize) := congrArg field hshape
  have hbuffer : (s.hwEndpoint epAddr).bufferControl = some _ := hfield Shape.bufferControl
  have hcontrol : (s.hwEndpoint epAddr).endpointControl = some _ := hfield Shape.endpointControl
  have hdata : (s.hwEndpoint epAddr).hwDataBuf = some buffer := hfield Shape.hwDataBuf
  have hsize : (s.hwEndpoint epAddr).wMaxPacketSize = entry.maxPacketSize :=
    hfield Shape.wMaxPacketSize
  refine ⟨entry, hall, haddr, ?_, ?_, ?_, hsize⟩
  · rw [hbuffer]
    exact Option.some_ne_none _
  · rw [hcontrol]
    exact Option.some_ne_none _
  · rw [hdata]
    exact Option.some_ne_none _

/-- An endpoint not registered since the last bus reset is cleared. -/
theorem not_initialised_of_stale {s : Master} (hs : TablesLogged s) {epAddr : UInt8}
    (hnumbered : Numbered epAddr)
    (h : lastIn (slotOf epAddr) (registrations (sinceBusReset s.calls)) = none) :
    ¬ Initialised s epAddr := by
  rintro ⟨entry, -, -, hbuffer, -⟩
  have hshape := hs.shape epAddr hnumbered
  rw [h] at hshape
  exact hbuffer (congrArg Shape.bufferControl hshape)

/-- In a reachable state a numbered endpoint is coherent exactly when its registration, if it has
one, is not older than the last bus reset. -/
theorem coherent_iff_registrationFresh {romWord : BitVec 32} {events : List Event} {m : Core0}
    {epAddr : UInt8} (hreach : Reaches romWord events m) (hnumbered : Numbered epAddr) :
    Coherent m.master epAddr ↔ RegistrationFresh m.master.calls epAddr := by
  have htables := hreach.tablesLogged
  constructor
  · intro hcoherent hregistered hstale
    have hdriver : m.master.drivers.edptDriver (slotOf epAddr) ≠ .illegal :=
      fun hillegal => hregistered ((htables.edptDriver _).mp hillegal)
    exact not_initialised_of_stale htables hnumbered hstale (hcoherent hdriver)
  · intro hfresh hdriver
    have hregistered : lastIn (slotOf epAddr) (registrations m.master.calls) ≠ none :=
      fun hnone => hdriver ((htables.edptDriver _).mpr hnone)
    obtain ⟨entry, hentry⟩ := Option.ne_none_iff_exists'.mp (hfresh hregistered)
    exact initialised_of_fresh htables hnumbered hentry

/-- A configuration of one storage interface with endpoint 0x81. -/
def storageConfiguration : List UInt8 :=
  [9, 2, 25, 0, 1, 1, 0, 0x80, 50, 9, 4, 0, 0, 1, 8, 6, 0x50, 0, 7, 5, 0x81, 2, 64, 0, 0]

theorem storageConfiguration_short : storageConfiguration.length < 2 ^ 15 := by decide

/-- The host reads the configuration, resets the bus, and reads the configuration again. -/
def readAgain : List Event :=
  fetchConfiguration storageConfiguration storageConfiguration_short ++ [.hostReset, .dcdIrq] ++
    fetchConfiguration storageConfiguration storageConfiguration_short

/-- The endpoint has its driver and is registered again since the bus reset, so it is set up. -/
theorem readAgain_coherent :
    ∃ m, Reaches 0 readAgain m ∧ m.master.drivers.edptDriver (slotOf 0x81) = .massStorage ∧
      (registrations m.master.calls).length = 2 ∧
      (registrations (sinceBusReset m.master.calls)).length = 1 ∧ Coherent m.master 0x81 := by
  have hrun : ∃ m, Reaches 0 readAgain m ∧
      m.master.drivers.edptDriver (slotOf 0x81) = .massStorage ∧
      (registrations m.master.calls).length = 2 ∧
      (registrations (sinceBusReset m.master.calls)).length = 1 ∧
      RegistrationFresh m.master.calls 0x81 := exists_reaches_of_any (by decide +kernel)
  obtain ⟨m, hreach, hdriver, hall, hsince, hfresh⟩ := hrun
  exact ⟨m, hreach, hdriver, hall, hsince,
    (coherent_iff_registrationFresh hreach (by decide)).mpr hfresh⟩

/-- A bus reset after the configuration clears the endpoint and leaves its driver. -/
theorem busReset_not_coherent :
    ¬ ∀ romWord events m epAddr, Reaches romWord events m → Numbered epAddr →
      Coherent m.master epAddr := by
  intro hclaim
  have hrun : ∃ m, Reaches 0
      (fetchConfiguration storageConfiguration storageConfiguration_short ++ [.hostReset, .dcdIrq]) m ∧
      m.master.drivers.edptDriver (slotOf 0x81) ≠ .illegal ∧
      (m.master.hwEndpoint 0x81).bufferControl = none := exists_reaches_of_any (by decide +kernel)
  obtain ⟨m, hreach, hdriver, hcleared⟩ := hrun
  obtain ⟨entry, -, -, hbuffer, -⟩ := hclaim 0 _ m 0x81 hreach (by decide) hdriver
  exact hbuffer hcleared

end UsbSec.Device
