import UsbSec.Device.Branches

/-!
# What the two sides take for SET_ADDRESS

`dcd_event_setup_received_new` tells the slave to give the device its address on the request number
alone. The address of the master itself is set when the status stage completes, by a function that
looks at recipient, type and number of the request that lies in the DPRAM by then. The two sides
agree exactly on the packets that use the request number 5 for the standard request only, as long
as no other packet has replaced the one in the DPRAM.
-/

namespace UsbSec.Device

open Library Usb Rp2040

/-- The standard device request SET_ADDRESS. -/
def IsStandardSetAddress (setup : ControlRequest) : Prop :=
  setup.bmRequestType = 0x00 ∧ setup.bRequest = 0x5

instance (setup : ControlRequest) : Decidable (IsStandardSetAddress setup) :=
  inferInstanceAs (Decidable (_ ∧ _))

/-- Handling the setup packet tells the slave to re-address the device. -/
def ToldToReaddress (s : Master) : Prop :=
  (Program.final (handleSetupReq s)).outbox = s.outbox ++ [.bare MsgType.chgAddr]

/-- The master with another value in its address register. -/
def Master.withAddress (value : BitVec 32) (s : Master) : Master :=
  { s with dcd := { s.dcd with devAddrCtrl := value } }

/-- When the IN stage of endpoint 0 completes in `t`, the address register is set from `packet`,
whatever it held before. -/
def AddressSetFrom (packet : ControlRequest) (t : Master) (xferredBytes : UInt16) : Prop :=
  t.livePacket = packet ∧ ∀ value,
    (Program.final (dcdEventXferCompleteNew 0x80 xferredBytes (t.withAddress value))).dcd.devAddrCtrl =
      packet.wValue.toUInt8.toBitVec.setWidth 32

/-- Handling the setup packet passes its eight bytes on to the slave. -/
def PassedOn (s : Master) : Prop :=
  ∃ message, (Program.final (handleSetupReq s)).outbox = s.outbox ++ [message] ∧
    message.eFlag = MsgType.setupData ||| MsgType.debugPrintAsHex ∧
    message.payload = s.dcd.setupPacket.bytesAt 0 8

/-- Handling the setup packet answers it without the slave. -/
def AnsweredLocally (s : Master) : Prop :=
  (IsDeviceQualifier s.livePacket ∨ IsSetReport s.livePacket) ∧
    (Program.final (handleSetupReq s)).outbox = s.outbox

/-- The setup packet that is handled in `s`, and the completion of its IN stage that is handled
later, in `t`: the slave is told to re-address the device if and only if the master sets its own address
from the same packet, and both happen for the standard request only. Every other packet is
answered locally or passed on. -/
structure AddressAgreed (s t : Master) (xferredBytes : UInt16) : Prop where
  told_iff_set : ToldToReaddress s ↔ AddressSetFrom s.livePacket t xferredBytes
  set_iff_standard : AddressSetFrom s.livePacket t xferredBytes ↔ IsStandardSetAddress s.livePacket
  others : ¬ IsStandardSetAddress s.livePacket → AnsweredLocally s ∨ PassedOn s

/-! ## The setup packet -/

/-- The bytes of a word. -/
theorem le16_bytes (low high : UInt8) :
    (le16 low high).toUInt8 = low ∧ (le16 low high >>> 8).toUInt8 = high := by
  have hlow := low.toNat_lt
  have hhigh := high.toNat_lt
  have hword : (le16 low high).toNat = low.toNat + 256 * high.toNat := by
    unfold le16
    rw [UInt16.toNat_or, UInt16.toNat_shiftLeft]
    show low.toNat ||| (high.toNat <<< 8) % 65536 = _
    rw [Nat.mod_eq_of_lt (by rw [Nat.shiftLeft_eq]; omega), Nat.or_comm,
      ← Nat.shiftLeft_add_eq_or_of_lt (show low.toNat < 2 ^ 8 from hlow), Nat.shiftLeft_eq]
    omega
  constructor
  · apply UInt8.toNat_inj.mp
    rw [UInt16.toNat_toUInt8, hword]
    omega
  · apply UInt8.toNat_inj.mp
    have hshift : (le16 low high >>> 8).toNat = (le16 low high).toNat / 256 := by
      simp [Nat.shiftRight_eq_div_pow]
    rw [UInt16.toNat_toUInt8, hshift, hword]
    omega

/-- The bytes of a request are those it was read from. -/
theorem toBytes_ofBuffer (bytes : Buffer) :
    (ControlRequest.ofBuffer bytes).toBytes = bytes.bytesAt 0 8 := by
  unfold ControlRequest.toBytes ControlRequest.ofBuffer
  simp only [le16_bytes]
  rfl

/-! ## What each side does -/

theorem onDcd_same_outbox {α : Type} (program : DcdM α) (s : Master) :
    (Program.final (onDcd program s)).outbox = s.outbox := by
  unfold onDcd
  rw [Program.final_onPart]

/-- What handling a setup packet hands over to the slave. -/
theorem handleSetupReq_outbox (s : Master) :
    (Program.final (handleSetupReq s)).outbox =
      if IsSetAddress s.livePacket then s.outbox ++ [.bare MsgType.chgAddr]
      else if IsDeviceQualifier s.livePacket ∨ IsSetReport s.livePacket then s.outbox
      else s.outbox ++ [forwardMessage s.livePacket] := by
  rw [handleSetupReq_apply, answerSetup]
  by_cases haddress : IsSetAddress s.livePacket
  · rw [if_pos haddress, if_pos haddress]
    rfl
  · rw [if_neg haddress, if_neg haddress]
    by_cases hqualifier : IsDeviceQualifier s.livePacket
    · rw [if_pos hqualifier, if_pos (.inl hqualifier), onDcd_same_outbox]
      rfl
    · rw [if_neg hqualifier]
      by_cases hreport : IsSetReport s.livePacket
      · rw [if_pos hreport, if_pos (.inr hreport), onDcd_same_outbox]
        rfl
      · rw [if_neg hreport, if_neg fun h => h.elim hqualifier hreport]
        rfl

theorem toldToReaddress_iff (s : Master) : ToldToReaddress s ↔ IsSetAddress s.livePacket := by
  unfold ToldToReaddress
  rw [handleSetupReq_outbox]
  by_cases haddress : IsSetAddress s.livePacket
  · rw [if_pos haddress]
    exact iff_of_true rfl haddress
  · rw [if_neg haddress]
    refine iff_of_false (fun h => ?_) haddress
    split at h
    · have hlength := congrArg List.length h
      simp at hlength
    · have hlast := List.append_cancel_left h
      have hflag : MsgType.setupData ||| MsgType.debugPrintAsHex = MsgType.chgAddr :=
        congrArg SpiMessage.eFlag (List.singleton_inj.mp hlast)
      exact absurd hflag (by decide)

/-- The address register after the IN stage of endpoint 0 completes. -/
theorem address_after_completion (t : Master) (xferredBytes : UInt16) (value : BitVec 32) :
    (Program.final (dcdEventXferCompleteNew 0x80 xferredBytes
      (t.withAddress value))).dcd.devAddrCtrl =
      if IsSetAddress t.events.setup ∧ t.livePacket.recipient = 0 ∧ t.livePacket.type = 0 ∧
          t.livePacket.bRequest = 5 then
        t.livePacket.wValue.toUInt8.toBitVec.setWidth 32
      else value := by
  unfold dcdEventXferCompleteNew
  rw [Program.read_bind]
  show (Program.final ((if IsSetAddress t.events.setup ∧ (0x80 : UInt8) = 0x80 then
    onDcd (dcdEdpt0StatusComplete t.livePacket)
    else if (0x80 : UInt8) = 0 ∨ (0x80 : UInt8) = 0x80 then pure ()
    else handleDeviceXferCompleteWithDriver 0x80 xferredBytes)
      (t.withAddress value))).dcd.devAddrCtrl = _
  by_cases haddress : IsSetAddress t.events.setup
  · rw [if_pos ⟨haddress, rfl⟩]
    unfold dcdEdpt0StatusComplete
    by_cases hlive : t.livePacket.recipient = 0 ∧ t.livePacket.type = 0 ∧ t.livePacket.bRequest = 5
    · rw [if_pos hlive, if_pos ⟨haddress, hlive⟩]
      rfl
    · rw [if_neg hlive, if_neg fun h => hlive h.2]
      rfl
  · rw [if_neg fun h => haddress h.1, if_pos (.inr rfl), if_neg fun h => haddress h.1]
    rfl

theorem addressSetFrom_iff (packet : ControlRequest) (t : Master) (xferredBytes : UInt16) :
    AddressSetFrom packet t xferredBytes ↔ t.livePacket = packet ∧ IsSetAddress t.events.setup ∧
      packet.recipient = 0 ∧ packet.type = 0 ∧ packet.bRequest = 5 := by
  unfold AddressSetFrom
  simp only [address_after_completion]
  constructor
  · rintro ⟨hlive, hset⟩
    rw [hlive] at hset
    by_cases h : IsSetAddress t.events.setup ∧ packet.recipient = 0 ∧ packet.type = 0 ∧
        packet.bRequest = 5
    · exact ⟨hlive, h⟩
    · -- A register that is left alone cannot hold the address whatever it held before.
      have hzero := hset 0
      have hone := hset 1
      rw [if_neg h] at hzero hone
      exact absurd (hone.trans hzero.symm) (by decide)
  · rintro ⟨hlive, h⟩
    refine ⟨hlive, fun value => ?_⟩
    rw [hlive, if_pos h]

theorem IsStandardSetAddress.fields {setup : ControlRequest} (h : IsStandardSetAddress setup) :
    setup.recipient = 0 ∧ setup.type = 0 ∧ setup.bRequest = 5 := by
  unfold ControlRequest.recipient ControlRequest.type
  rw [h.1]
  exact ⟨rfl, rfl, h.2⟩

/-- The two sides agree exactly when a packet with the request number 5 is the standard request, and
is the packet in the DPRAM when its IN stage completes, with one of this number saved. -/
theorem addressAgreed_iff_packets (s t : Master) (xferredBytes : UInt16) :
    AddressAgreed s t xferredBytes ↔ (IsSetAddress s.livePacket →
      IsStandardSetAddress s.livePacket ∧ t.packets.live = s.livePacket ∧
        IsSetAddress t.packets.saved) := by
  constructor
  · intro h haddress
    have hset := h.told_iff_set.mp ((toldToReaddress_iff s).mpr haddress)
    have hstandard := h.set_iff_standard.mp hset
    obtain ⟨hlive, hkept, -⟩ := (addressSetFrom_iff _ _ _).mp hset
    exact ⟨hstandard, hlive, hkept⟩
  · intro h
    have hset : AddressSetFrom s.livePacket t xferredBytes ↔ IsSetAddress s.livePacket := by
      rw [addressSetFrom_iff]
      constructor
      · exact fun hset => hset.2.2.2.2
      · intro haddress
        obtain ⟨hstandard, hlive, hkept⟩ := h haddress
        exact ⟨hlive, hkept, hstandard.fields⟩
    have hstandard : IsSetAddress s.livePacket ↔ IsStandardSetAddress s.livePacket :=
      ⟨fun haddress => (h haddress).1, fun hstandard => hstandard.2⟩
    refine ⟨(toldToReaddress_iff s).trans hset.symm, hset.trans hstandard, fun hother => ?_⟩
    have haddress : ¬ IsSetAddress s.livePacket := fun haddress => hother (h haddress).1
    have houtbox := handleSetupReq_outbox s
    rw [if_neg haddress] at houtbox
    by_cases hlocal : IsDeviceQualifier s.livePacket ∨ IsSetReport s.livePacket
    · rw [if_pos hlocal] at houtbox
      exact .inl ⟨hlocal, houtbox⟩
    · rw [if_neg hlocal] at houtbox
      exact .inr ⟨forwardMessage s.livePacket, houtbox, rfl, toBytes_ofBuffer _⟩

/-! ## From the SETUP packet to the completion of its IN stage -/

/-- The packet, handled first, has not been overtaken later: it is the last one that the
host has sent, and the last one that the setup branch has saved has the number 5. -/
def NotOvertaken (packet : ControlRequest) (later : List Branch) : Prop :=
  (later.foldl SetupPackets.after ⟨packet, packet⟩).live = packet ∧
    IsSetAddress (later.foldl SetupPackets.after ⟨packet, packet⟩).saved

/-- From the setup branch that handles a packet to the completion of its IN stage,
whatever happens between, the two sides agree exactly when a packet with the request number 5 has the
request type of the standard request and has not been overtaken by another SETUP packet. -/
theorem addressAgreed_iff {m t : Core0} {later : List Branch}
    (hrun : Machine.run takeBranch m (.setupReq :: later) = some t) (xferredBytes : UInt16) :
    AddressAgreed m.master t.master xferredBytes ↔ (IsSetAddress m.master.livePacket →
      m.master.livePacket.bmRequestType = 0x00 ∧ NotOvertaken m.master.livePacket later) := by
  have hpackets : t.master.packets = later.foldl SetupPackets.after
      ⟨m.master.livePacket, m.master.livePacket⟩ := run_packets hrun
  rw [addressAgreed_iff_packets, hpackets]
  refine imp_congr_right fun haddress => ⟨?_, ?_⟩
  · rintro ⟨hstandard, hlive, hkept⟩
    exact ⟨hstandard.1, hlive, hkept⟩
  · rintro ⟨htype, hlive, hkept⟩
    exact ⟨⟨htype, haddress⟩, hlive, hkept⟩

/-- The slave's empty reply is passed on, and the host takes it. -/
def emptyReply : List Branch :=
  [.outside (.receive
      ⟨MsgType.isPacket ||| MsgType.setupData ||| MsgType.lastPacket, [0x80], by decide⟩),
    .outside .handleSpiSlaveEvent, .outside (.hostIn 0)]

/-- SET_ADDRESS with the address 7. -/
def setAddressSeven : ControlRequest := ⟨0x00, 5, 7, 0, 0⟩

/-- The two sides agree on SET_ADDRESS with the address 7, and no longer when a request for the
device descriptor comes before its IN stage completes. -/
theorem setAddressSeven_agreed :
    (∃ m t, Reaches 0 [.hostSetup setAddressSeven] m ∧
      Machine.run takeBranch m (.setupReq :: emptyReply) = some t ∧
      t.master.dcd.bufStatus.getLsbD 0 = true ∧ AddressAgreed m.master t.master 0) ∧
    (∃ m t, Reaches 0 [.hostSetup setAddressSeven] m ∧
      Machine.run takeBranch m (.setupReq :: (emptyReply ++
        [.outside (.hostSetup ⟨0x80, 6, 0x0100, 0, 18⟩)])) = some t ∧
      t.master.dcd.bufStatus.getLsbD 0 = true ∧ ¬ AddressAgreed m.master t.master 0) := by
  have hends (later : List Branch)
      (hany : (Machine.run step (.init 0) [.hostSetup setAddressSeven]).any (fun m =>
        decide (m.master.livePacket = setAddressSeven ∧
          (Machine.run takeBranch m (.setupReq :: later)).any
            (fun t => t.master.dcd.bufStatus.getLsbD 0) = true)) = true) :
      ∃ m t, Reaches 0 [.hostSetup setAddressSeven] m ∧ m.master.livePacket = setAddressSeven ∧
        Machine.run takeBranch m (.setupReq :: later) = some t ∧
        t.master.dcd.bufStatus.getLsbD 0 = true := by
    obtain ⟨m, hreach, hlive, hrest⟩ := exists_reaches_of_any hany
    obtain ⟨t, hrun, hdone⟩ := (Option.any_eq_true _ _).mp hrest
    exact ⟨m, t, hreach, hlive, hrun, hdone⟩
  refine ⟨?_, ?_⟩
  · obtain ⟨m, t, hreach, hlive, hrun, hdone⟩ := hends emptyReply (by decide +kernel)
    refine ⟨m, t, hreach, hrun, hdone, (addressAgreed_iff hrun 0).mpr fun _ => ?_⟩
    rw [hlive]
    exact ⟨rfl, by unfold NotOvertaken; decide⟩
  · obtain ⟨m, t, hreach, hlive, hrun, hdone⟩ := hends (emptyReply ++
      [.outside (.hostSetup ⟨0x80, 6, 0x0100, 0, 18⟩)]) (by decide +kernel)
    refine ⟨m, t, hreach, hrun, hdone, fun hagreed => ?_⟩
    have hovertaken := ((addressAgreed_iff hrun 0).mp hagreed (by rw [hlive]; decide)).2
    rw [hlive] at hovertaken
    revert hovertaken
    unfold NotOvertaken
    decide

/-! ## A class request with the number 5 -/

/-- The host sends a class request with the number 5 to an interface, and takes the empty reply of
the slave. -/
def classRequestFive : ControlRequest := ⟨0x21, 5, 0, 0, 0⟩

/-- The master tells the slave to re-address the device, and leaves its own address alone. -/
theorem classRequestFive_not_agreed : ¬ ∀ romWord events later m t xferredBytes,
    Reaches romWord events m → Machine.run takeBranch m (.setupReq :: later) = some t →
      t.master.dcd.bufStatus.getLsbD 0 = true → AddressAgreed m.master t.master xferredBytes := by
  intro h
  have hends : ∃ m, Reaches 0 [.hostSetup classRequestFive] m ∧
      (m.master.livePacket = classRequestFive ∧
        (Machine.run takeBranch m (.setupReq :: emptyReply)).any
          (fun t => t.master.dcd.bufStatus.getLsbD 0) = true) :=
    exists_reaches_of_any (by decide +kernel)
  obtain ⟨m, hreach, hlive, hrest⟩ := hends
  obtain ⟨t, hrun, hdone⟩ := (Option.any_eq_true _ _).mp hrest
  have hagreed := h 0 _ emptyReply m t 0 hreach hrun hdone
  have htold : ToldToReaddress m.master := by
    rw [toldToReaddress_iff, hlive]
    decide
  have hstandard := hagreed.set_iff_standard.mp (hagreed.told_iff_set.mp htold)
  rw [hlive] at hstandard
  revert hstandard
  decide

end UsbSec.Device
