import UsbSec.Device.EndpointPolicy
import UsbSec.Device.Offers
import UsbSec.Device.StorageInterfaces

/-!
# What is handed over to the host

A message from the slave has a packet for one endpoint: for endpoint 0 if it replies to a setup
packet, and otherwise for the endpoint whose address follows the packet. Handling the message offers
this packet to the host, and no other function of the loop offers anything but empty packets on
endpoint 0, with which requests end.
-/

namespace UsbSec.Device

open Library Usb Rp2040

/-- The endpoint and the packet that a message has for the host, if it has one. -/
def carried (msg : SpiMessage) : Option (Nat × List UInt8) :=
  msg.payload.getLast?.bind fun epAddr =>
    if isString msg then none
    else if hasFlag msg.eFlag MsgType.setupData then some (0, msg.payload.dropLast)
    else if tuEdptDirIn epAddr then some ((tuEdptNumber epAddr).toNat, msg.payload.dropLast)
    else none

/-- The packet of the message that is about to be dequeued fits its endpoint. -/
def NextPacketFits (s : Master) : Prop :=
  ∀ msg ∈ s.nextMessage, ∀ packet ∈ carried msg,
    FitsEndpoint (UInt16.ofNat packet.2.length) (s.dcd.hwEndpoints packet.1 true)

instance (s : Master) : Decidable (NextPacketFits s) :=
  inferInstanceAs (Decidable (∀ _ ∈ _, ∀ _ ∈ _, _))

section Handover

variable {allowed : Nat → List UInt8 → Prop}

/-- Every packet that the host is offered is allowed. -/
def Allows (allowed : Nat → List UInt8 → Prop) (s : Master) : Prop := OffersOnly allowed s.dcd

/-! ## The table of the driver -/

theorem update_allows {change : Master → Master} (h : ∀ s, (change s).dcd = s.dcd) :
    Program.Ends (Program.Keeps (Allows allowed)) (Program.update change : MasterM Unit) := by
  refine Program.Moves.ends (.update fun s hs => ?_)
  unfold Allows
  rw [h s]
  exact hs

theorem record_allows (call : Call) :
    Program.Ends (Program.Keeps (Allows allowed)) (record call) := update_allows fun _ => rfl

theorem enqueueSpiMessage_allows (message : SpiMessage) :
    Program.Ends (Program.Keeps (Allows allowed)) (enqueueSpiMessage message) :=
  update_allows fun _ => rfl

theorem onDcd_allows {α : Type} {program : DcdM α}
    (h : Program.Ends (Program.Keeps (OffersOnly allowed)) program) :
    Program.Ends (Program.Keeps (Allows allowed)) (onDcd program) := by
  intro s value t hrun hs
  obtain ⟨d, hdcd, rfl⟩ := Program.onPart_eq_ok hrun
  exact h _ _ _ hdcd hs

/-- Starting a transfer offers its bytes, if the endpoint is an IN endpoint. -/
theorem dcdEdptXferNew_offers {epAddr : UInt8} {buffer : UserBuf} {total : UInt16} {d e : Dcd}
    (hsends : tuEdptDirIn epAddr = true →
      FitsEndpoint total (d.hwEndpoints (tuEdptNumber epAddr).toNat true) ∧
        allowed (tuEdptNumber epAddr).toNat (buffer.bytes d.memory total.toNat))
    (hd : OffersOnly allowed d) (h : dcdEdptXferNew epAddr buffer total d = .ok () e) :
    OffersOnly allowed e := by
  obtain ⟨⟨num, dirIn⟩, _, haddr, hstart⟩ := Program.bind_eq_ok h
  obtain ⟨hnum, hplace, rfl⟩ := hwEndpointGetByAddr_ok haddr
  cases hplace
  exact hwEndpointXferStart_offers hnum hsends hd hstart

theorem dcdEdptXferPartial_offers {epAddr : UInt8} {buffer : UserBuf} {total : UInt16} {d e : Dcd}
    (hin : tuEdptDirIn epAddr = true)
    (hfits : FitsEndpoint total (d.hwEndpoints (tuEdptNumber epAddr).toNat true))
    (hallowed : allowed (tuEdptNumber epAddr).toNat (buffer.bytes d.memory total.toNat))
    (hd : OffersOnly allowed d) (h : dcdEdptXferPartial epAddr buffer total d = .ok () e) :
    OffersOnly allowed e := by
  obtain ⟨⟨num, dirIn⟩, _, haddr, hstart⟩ := Program.bind_eq_ok h
  obtain ⟨hnum, hplace, rfl⟩ := hwEndpointGetByAddr_ok haddr
  cases hplace
  dsimp only at hstart
  rw [hin] at hstart
  exact hwEndpointXferPartial_offers hnum hfits hallowed hd hstart

/-- A transfer from the host offers nothing. -/
theorem xferOut_allows {epAddr : UInt8} (hout : tuEdptDirIn epAddr = false) (buffer : UserBuf)
    (total : UInt16) :
    Program.Ends (Program.Keeps (Allows allowed)) (onDcd (dcdEdptXferNew epAddr buffer total)) := by
  refine onDcd_allows fun d _ e hrun hd => dcdEdptXferNew_offers (fun hin => ?_) hd hrun
  rw [hout] at hin
  cases hin

/-- An empty packet on endpoint 0. -/
theorem xferEmpty_allows (hempty : allowed 0 []) :
    Program.Ends (Program.Keeps (Allows allowed)) (onDcd (dcdEdptXferNew 0x80 .null 0)) := by
  refine onDcd_allows fun d _ e hrun hd => dcdEdptXferNew_offers (fun _ => ⟨?_, ?_⟩) hd hrun
  · exact .inr ⟨by decide, UInt16.le_iff_toNat_le.mpr (Nat.zero_le _)⟩
  · exact hempty

/-! ## Replies -/

/-- The mass-storage driver begins to listen on its OUT endpoint. -/
theorem registerDriverForEdpt_allows (edpt : EndpointPointer) (itf : Option InterfaceDescriptor)
    (newMps : UInt8) :
    Program.Ends (Program.Keeps (Allows allowed)) (registerDriverForEdpt edpt itf newMps) := by
  refine .bind (update_allows fun _ => rfl) fun _ => ?_
  cases itf with
  | none => exact .stop _
  | some itf =>
      refine .bind (record_allows _) fun _ => .bind (Program.Moves.require _ _).ends fun _ => ?_
      refine .bind (update_allows fun _ => rfl) fun _ => .ite ?_ (.ite ?_ (.stop _))
      · exact update_allows fun _ => rfl
      refine .bind (update_allows fun _ => rfl) fun _ => ?_
      by_cases hout : edpt.bEndpointAddress &&& 0x80 = 0
      · rw [if_pos hout]
        refine xferOut_allows ?_ _ _
        unfold tuEdptDirIn
        rw [hout]
        rfl
      · rw [if_neg hout]
        exact update_allows fun _ => rfl

theorem openEndpoint_allows (arr : Buffer) (pos : Nat) (itf : Option Nat) :
    Program.Ends (Program.Keeps (Allows allowed)) (openEndpoint arr pos itf) := by
  refine .bind (record_allows _) fun _ => .bind (onDcd_allows (dcdEdptOpenNew_offers _))
    fun _ => .read_bind fun s => .bind (registerDriverForEdpt_allows _ _ _) fun _ => ?_
  exact enqueueSpiMessage_allows _

theorem walk_allows (arr : Buffer) (len fuel pos : Nat) (itf : Option Nat) :
    Program.Ends (Program.Keeps (Allows allowed)) (walk arr len fuel pos itf) := by
  induction fuel generalizing pos itf with
  | zero => exact .ite (.stop _) (Program.Moves.pure _).ends
  | succ fuel ih =>
      refine .ite (.bind (.when (openEndpoint_allows _ _ _)) fun _ => ih _ _) ?_
      exact (Program.Moves.pure _).ends

theorem handleSetupResponse_allows :
    Program.Ends (Program.Keeps (Allows allowed)) handleSetupResponse := by
  refine .read_bind fun s => .bind (record_allows _) fun _ => .bind (.when ?_) fun _ => ?_
  · refine .bind (enqueueSpiMessage_allows _) fun _ => ?_
    exact .bind (update_allows fun _ => rfl) fun _ => update_allows fun _ => rfl
  refine .ite (Program.Moves.pure _).ends (.bind (.when (walk_allows _ _ _ _ _)) fun _ => .when ?_)
  exact .read_bind fun _ => enqueueSpiMessage_allows _

/-- The bytes of a message at its start are its data. -/
theorem bytes_payload (message : SlavePacket) (memory : Memory) :
    (UserBuf.payload message.payload 0).bytes memory message.payloadLength.toNat = message.data :=
  rfl

theorem registerResponse_allows {message : SlavePacket} {s t : Master}
    (hfits : FitsEndpoint message.payloadLength (s.dcd.hwEndpoints 0 true))
    (hallowed : allowed 0 message.data) (hs : Allows allowed s)
    (h : registerResponse message s = .ok () t) : Allows allowed t := by
  obtain ⟨_, _, hread, hbody⟩ := Program.bind_eq_ok h
  cases hread
  obtain ⟨_, _, hdefined, hcopies⟩ := Program.bind_eq_ok hbody
  obtain ⟨-, rfl⟩ := Program.require_eq_ok hdefined
  obtain ⟨_, _, hcopy, hsend⟩ := Program.bind_eq_ok hcopies
  cases hcopy
  obtain ⟨_, _, hxfer, hlen⟩ := Program.bind_eq_ok hsend
  obtain ⟨d, hdcd, rfl⟩ := Program.onPart_eq_ok hxfer
  cases hlen
  refine dcdEdptXferNew_offers (fun _ => ⟨hfits, ?_⟩) hs hdcd
  rw [bytes_payload]
  exact hallowed

theorem handleSetupData_allows {message : SlavePacket} {s t : Master}
    (hfits : FitsEndpoint message.payloadLength (s.dcd.hwEndpoints 0 true))
    (hallowed : allowed 0 message.data) (hs : Allows allowed s)
    (h : handleSetupData message s = .ok () t) : Allows allowed t := by
  obtain ⟨_, first, hregister, hrest⟩ := Program.bind_eq_ok h
  have hfirst := registerResponse_allows hfits hallowed hs hregister
  have hends : Program.Ends (Program.Keeps (Allows allowed)) (do
      handleSetupResponse
      Program.update fun s =>
        { s with events := { s.events with setupResponseDir := .writingResponse } }
      let s ← Program.read
      Program.when (s.events.setup.direction = 1) (onDcd (dcdEdptXferNew 0x00 .null 0))) := by
    refine .bind handleSetupResponse_allows fun _ => .bind (update_allows fun _ => rfl) fun _ => ?_
    exact .read_bind fun _ => .when (xferOut_allows rfl _ _)
  exact Program.Ends.when hends _ _ _ hrest hfirst

/-! ## Packets for the drivers -/

theorem hidSpi_allows {message : SlavePacket} {edpt : UInt8} {s t : Master}
    (hfits : tuEdptDirIn edpt = true →
      FitsEndpoint message.payloadLength (s.dcd.hwEndpoints (tuEdptNumber edpt).toNat true) ∧
        allowed (tuEdptNumber edpt).toNat message.data) (hs : Allows allowed s)
    (h : hidSpi message edpt s = .ok () t) : Allows allowed t := by
  obtain ⟨_, _, hrecord, hxfer⟩ := Program.bind_eq_ok h
  cases hrecord
  obtain ⟨d, hdcd, rfl⟩ := Program.onPart_eq_ok hxfer
  exact dcdEdptXferNew_offers hfits hs hdcd

theorem mscSpi_allows {message : SlavePacket} {edpt : UInt8} {s t : Master}
    (hfits : tuEdptDirIn edpt = true →
      FitsEndpoint message.payloadLength (s.dcd.hwEndpoints (tuEdptNumber edpt).toNat true) ∧
        allowed (tuEdptNumber edpt).toNat message.data) (hs : Allows allowed s)
    (h : mscSpi message edpt s = .ok () t) : Allows allowed t := by
  obtain ⟨_, _, hrecord, hbody⟩ := Program.bind_eq_ok h
  cases hrecord
  cases hdir : tuEdptDirIn edpt with
  | false =>
      rw [if_pos (out_bits hdir)] at hbody
      have hends : Program.Ends (Program.Keeps (Allows allowed)) (do
          let s ← Program.read
          knockOnSlaveEdpt s.drivers.otherEdpt s.drivers.bMaxPacketSize
          onDcd (dcdEdptXferNew edpt (.bugger 0) s.drivers.bMaxPacketSize.toUInt16)) :=
        .read_bind fun _ => .bind (enqueueSpiMessage_allows _) fun _ => xferOut_allows hdir _ _
      exact hends _ _ _ hbody hs
  | true =>
      rw [if_neg (in_bits hdir)] at hbody
      obtain ⟨hpacket, hallowed⟩ := hfits hdir
      obtain ⟨_, _, hpermit, hxfer⟩ := Program.bind_eq_ok hbody
      cases hpermit
      obtain ⟨d, hdcd, rfl⟩ := Program.onPart_eq_ok hxfer
      refine dcdEdptXferPartial_offers hdir hpacket ?_ hs hdcd
      rw [bytes_payload]
      exact hallowed

theorem handleSpiSlaveEventWithDriver_allows {message : SlavePacket} {edpt : UInt8} {s t : Master}
    (hfits : tuEdptDirIn edpt = true →
      FitsEndpoint message.payloadLength (s.dcd.hwEndpoints (tuEdptNumber edpt).toNat true) ∧
        allowed (tuEdptNumber edpt).toNat message.data) (hs : Allows allowed s)
    (h : handleSpiSlaveEventWithDriver message edpt s = .ok () t) : Allows allowed t := by
  obtain ⟨_, _, hread, hbody⟩ := Program.bind_eq_ok h
  cases hread
  obtain ⟨_, first, hdefined, hcheck⟩ := Program.bind_eq_ok hbody
  obtain ⟨-, hfirst⟩ := Program.require_eq_ok hdefined
  rw [hfirst] at hcheck
  obtain ⟨_, middle, hcomm, hdriver⟩ := Program.bind_eq_ok hcheck
  have hsame : middle = s := by
    unfold checkComm Program.when at hcomm
    split at hcomm
    · cases hcomm
    · cases hcomm
      rfl
  subst hsame
  cases hkind : middle.drivers.edptDriver (idx edpt).toNat with
  | illegal =>
      rw [hkind] at hdriver
      cases hdriver
  | massStorage =>
      rw [hkind] at hdriver
      exact mscSpi_allows hfits hs hdriver
  | hid =>
      rw [hkind] at hdriver
      exact hidSpi_allows hfits hs hdriver

/-! ## The functions of the loop -/

theorem handleMessage_allows {msg : SpiMessage} {s t : Master} (hstring : isString msg = false)
    (hfits : ∀ packet ∈ carried msg,
      FitsEndpoint (UInt16.ofNat packet.2.length) (s.dcd.hwEndpoints packet.1 true) ∧
        allowed packet.1 packet.2) (hs : Allows allowed s)
    (h : handleMessage msg s = .ok () t) : Allows allowed t := by
  unfold handleMessage at h
  unfold carried at hfits
  cases hlast : msg.payload.getLast? with
  | none =>
      rw [hlast] at h
      cases h
  | some epAddr =>
      rw [hlast] at h hfits
      rw [Option.bind_some, if_neg (by rw [hstring]; decide)] at hfits
      obtain ⟨_, _, hassert, hrest⟩ := Program.bind_eq_ok h
      obtain ⟨-, rfl⟩ := Program.require_eq_ok hassert
      have hdata : (handlerPacket msg).data = msg.payload.dropLast := (handlerPacket_data msg).1
      have hlength : UInt16.ofNat msg.payload.dropLast.length = (handlerPacket msg).payloadLength := by
        rw [List.length_dropLast]
        rfl
      by_cases hsetup : hasFlag msg.eFlag MsgType.setupData
      · rw [if_pos hsetup] at hrest hfits
        obtain ⟨hpacket, hallowed⟩ := hfits _ rfl
        rw [hlength] at hpacket
        rw [← hdata] at hallowed
        exact handleSetupData_allows hpacket hallowed hs hrest
      · rw [if_neg hsetup] at hrest hfits
        refine handleSpiSlaveEventWithDriver_allows (fun hin => ?_) hs hrest
        rw [if_pos hin] at hfits
        obtain ⟨hpacket, hallowed⟩ := hfits _ rfl
        rw [hlength] at hpacket
        rw [← hdata] at hallowed
        exact ⟨hpacket, hallowed⟩

/-- The first message that is not a text is not a text. -/
theorem nextMessage_not_string {s : Master} {msg : SpiMessage} (h : s.nextMessage = some msg) :
    isString msg = false := by
  unfold Master.nextMessage at h
  split at h
  · cases h
  · exact Bool.eq_false_iff.mpr fun hstring => by
      have hhead := List.head?_dropWhile_not isString s.rx.items
      rw [h] at hhead
      simp [hstring] at hhead

/-- Handling a message offers its packet to the host, and nothing else. -/
theorem handleSpiSlaveEvent_allows {s t : Master} (hfits : NextPacketFits s)
    (hallowed : ∀ msg ∈ s.nextMessage, ∀ packet ∈ carried msg, allowed packet.1 packet.2)
    (hs : Allows allowed s) (h : handleSpiSlaveEvent s = .ok () t) : Allows allowed t := by
  rcases handleSpiSlaveEvent_cases s with ⟨-, hpassed | hidle⟩ | ⟨msg, rest, hnext, -, hhandles⟩
  · cases hpassed.symm.trans h
    exact hs
  · cases hidle.symm.trans h
    exact hs
  · refine handleMessage_allows (s := { s with rx := rest }) (nextMessage_not_string hnext)
      (fun packet hpacket => ?_) hs (hhandles.symm.trans h)
    exact ⟨hfits msg hnext packet hpacket, hallowed msg hnext packet hpacket⟩

/-! ## The interrupt handler -/

/-- A change of the registers of the controller that are no buffer registers. -/
theorem updateDcd_allows {change : Dcd → Dcd}
    (hendpoints : ∀ d, (change d).hwEndpoints = d.hwEndpoints)
    (hnext : ∀ d, (change d).nextBufferPtr = d.nextBufferPtr)
    (hword : ∀ d, (change d).memory.word = d.memory.word)
    (hdata : ∀ d, SameData d.memory (change d).memory) :
    Program.Ends (Program.Keeps (OffersOnly allowed)) (Program.update change : DcdM Unit) := by
  refine Program.Moves.ends (.update fun d hd => ?_)
  refine hd.of_progress (fun num dirIn => ?_) (fun num hzero => ?_) (hnext d) (hword d) (hdata d)
  · rw [hendpoints]
  · rw [hendpoints]
    exact hzero

/-- The mass-storage driver forwards what the host has sent, and asks for more. -/
theorem mscXfer_allows (edpt : UInt8) (xferredBytes : UInt16) :
    Program.Ends (Program.Keeps (Allows allowed)) (mscXfer edpt xferredBytes) := by
  refine .read_bind fun _ => .ite ?_ (.when (enqueueSpiMessage_allows _))
  refine .bind (update_allows fun _ => rfl) fun _ => .bind (Program.Moves.require _ _).ends fun _ => ?_
  refine .bind (Program.Moves.ends (.update fun s hs => ?_)) fun _ => .read_bind fun _ => ?_
  · exact OffersOnly.of_progress hs (fun _ _ => rfl) (fun _ => id) rfl rfl ⟨rfl, rfl⟩
  · exact enqueueSpiMessage_allows _

theorem dcdEventXferCompleteNew_allows (epAddr : UInt8) (xferredBytes : UInt16) :
    Program.Ends (Program.Keeps (Allows allowed)) (dcdEventXferCompleteNew epAddr xferredBytes) := by
  refine .read_bind fun s => .ite (onDcd_allows (.ite ?_ (Program.Moves.pure _).ends))
    (.ite (Program.Moves.pure _).ends ?_)
  · exact updateDcd_allows (fun _ => rfl) (fun _ => rfl) (fun _ => rfl) fun _ => ⟨rfl, rfl⟩
  · refine .read_bind fun t => .bind (Program.Moves.require _ _).ends fun _ => ?_
    cases t.drivers.edptDriver (idx epAddr).toNat with
    | illegal => exact .stop _
    | hid => exact .read_bind fun _ => enqueueSpiMessage_allows _
    | massStorage => exact mscXfer_allows _ _

theorem hwHandleBuffStatusBit_allows {i : Nat} (hi : i / 2 < usbMaxEndpoints) :
    Program.Ends (Program.Keeps (Allows allowed)) (hwHandleBuffStatusBit i) := by
  refine .bind (Program.Moves.ends (.update fun s hs => ?_)) fun _ => ?_
  · exact OffersOnly.of_progress hs (fun _ _ => rfl) (fun _ => id) rfl rfl ⟨rfl, rfl⟩
  refine .bind (.bind (record_allows _) fun _ => onDcd_allows fun d _ e hrun hd =>
    hwEndpointXferContinue_offers hi hd hrun) fun done => .when (.read_bind fun s => ?_)
  have hreset : Program.Moves (Program.Keeps (OffersOnly allowed))
      (withEndpoint (i / 2) (i % 2 == 0) (setEp HwEndpoint.resetTransfer)) :=
    setEp_offers (fun _ => rfl) fun _ _ => rfl
  exact .bind (dcdEventXferCompleteNew_allows _ _) fun _ => onDcd_allows hreset.ends

theorem handleOutEndpoints_allows {bits : List Nat} (h : ∀ i ∈ bits, i / 2 < usbMaxEndpoints)
    (remaining : BitVec 32) :
    Program.Ends (Program.Keeps (Allows allowed)) (handleOutEndpoints bits remaining) := by
  induction bits generalizing remaining with
  | nil => exact (Program.Moves.pure _).ends
  | cons i rest ih =>
      have hrest := ih fun j hj => h j (List.mem_cons_of_mem i hj)
      refine .ite (Program.Moves.pure _).ends (.ite (.bind ?_ fun _ => hrest _) (hrest _))
      exact hwHandleBuffStatusBit_allows (h i List.mem_cons_self)

theorem handleInEndpoints_allows {bits : List Nat} (h : ∀ i ∈ bits, i / 2 < usbMaxEndpoints)
    (remaining : BitVec 32) :
    Program.Ends (Program.Keeps (Allows allowed)) (handleInEndpoints bits remaining) := by
  induction bits with
  | nil => exact (Program.Moves.pure _).ends
  | cons i rest ih =>
      have hrest := ih fun j hj => h j (List.mem_cons_of_mem i hj)
      refine .ite (Program.Moves.pure _).ends (.bind (.when ?_) fun _ => hrest)
      exact hwHandleBuffStatusBit_allows (h i List.mem_cons_self)

theorem hwHandleBuffStatus_allows :
    Program.Ends (Program.Keeps (Allows allowed)) hwHandleBuffStatus := by
  refine .read_bind fun s => .bind (.when ?_) fun _ => .bind (.when ?_) fun _ => ?_
  · exact hwHandleBuffStatusBit_allows (by decide)
  · exact hwHandleBuffStatusBit_allows (by decide)
  · refine .bind (handleOutEndpoints_allows (by decide) _) fun _ => ?_
    exact handleInEndpoints_allows (by decide) _

/-- The interrupt handler offers nothing but the empty answer to a request for the device
qualifier. -/
theorem dcdRp2040Irq_allows (hempty : allowed 0 []) (ints : DcdInts) :
    Program.Ends (Program.Keeps (Allows allowed)) (dcdRp2040Irq ints) := by
  refine .bind (.when ?_) fun _ => .bind (.when ?_) fun _ => .when hwHandleBuffStatus_allows
  · refine .bind (Program.Moves.ends (.update fun s hs => ?_)) fun _ => ?_
    · exact OffersOnly.of_progress hs (fun _ _ => rfl) (fun _ => id) rfl rfl ⟨rfl, rfl⟩
    refine .bind (onDcd_allows resetNonControlEndpoints_offers.ends) fun _ => ?_
    exact .bind (record_allows _) fun _ => enqueueSpiMessage_allows _
  · refine .bind (onDcd_allows resetEp0Pid_offers.ends) fun _ => .read_bind fun s => ?_
    refine .bind (record_allows _) fun _ => .bind (update_allows fun _ => rfl) fun _ => ?_
    refine .ite (enqueueSpiMessage_allows _) (.ite (xferEmpty_allows hempty) (.ite ?_ ?_))
    · exact xferOut_allows rfl _ _
    · exact enqueueSpiMessage_allows _

/-! ## The machine of the master -/

/-- What is handed over in a step fits the endpoint it is for: the packet of the next message, and
the packet of the host, which sends nothing on endpoint 0 while it is offered data there. -/
def PacketsFit (m : Core0) : Event → Prop
  | .handleSpiSlaveEvent => NextPacketFits m.master
  | .hostOut num packet =>
      packet.bytes.length ≤ homeSize m.master.dcd num false ∧
        (packet.bytes ≠ [] → SparesControl num false m.master.dcd)
  | _ => True

instance (m : Core0) : ∀ event, Decidable (PacketsFit m event)
  | .handleSpiSlaveEvent => inferInstanceAs (Decidable (NextPacketFits _))
  | .hostOut _ _ => inferInstanceAs (Decidable (_ ∧ (_ → _)))
  | .dcdIrq => isTrue trivial
  | .hostSetup _ => isTrue trivial
  | .hostReset => isTrue trivial
  | .hostIn _ => isTrue trivial
  | .receive _ => isTrue trivial

/-- The packet of the message that is handled in a step. -/
def handedOver (m : Core0) : Event → Option (Nat × List UInt8)
  | .handleSpiSlaveEvent => m.master.nextMessage.bind carried
  | _ => none

/-- A step offers the packet of the message that it handles, and empty packets on endpoint 0. Every
other offer was there before. -/
theorem step_allows {m n : Core0} {event : Event} (hfits : PacketsFit m event)
    (hhanded : ∀ packet ∈ handedOver m event, allowed packet.1 packet.2) (hempty : allowed 0 [])
    (hm : Allows allowed m.master) (hstep : step m event = some n) : Allows allowed n.master := by
  cases event with
  | hostSetup packet =>
      cases hstep
      exact OffersOnly.of_progress hm (fun _ _ => rfl) (fun _ => id) rfl rfl ⟨rfl, rfl⟩
  | hostReset =>
      cases hstep
      exact hm
  | hostIn num =>
      obtain ⟨d, hsend, rfl⟩ := Option.map_eq_some_iff.mp hstep
      exact (sendIn_offers hm hsend).1
  | hostOut num packet =>
      obtain ⟨d, hreceive, rfl⟩ := Option.map_eq_some_iff.mp hstep
      exact receiveOut_offers hm hfits.2 hfits.1 hreceive
  | receive message =>
      obtain ⟨rx, -, rfl⟩ := Option.map_eq_some_iff.mp hstep
      exact hm
  | handleSpiSlaveEvent =>
      obtain ⟨t, hrun, rfl⟩ := runHandler_eq_some hstep
      refine handleSpiSlaveEvent_allows hfits (fun msg hmsg packet hpacket => ?_) hm hrun
      exact hhanded packet (Option.mem_bind_iff.mpr ⟨msg, hmsg, hpacket⟩)
  | dcdIrq =>
      obtain ⟨t, hrun, rfl⟩ := runHandler_eq_some hstep
      exact dcdRp2040Irq_allows hempty _ _ _ _ hrun hm

end Handover

end UsbSec.Device
