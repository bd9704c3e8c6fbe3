import UsbSec.Device.Announced

/-!
# What changes the endpoint policy

The endpoints of the master, the driver and the interface copy of each, and the endpoints that the
slave is asked to open are its endpoint policy. A response is walked as a configuration when its
request has the value 0x0200 and a length above 9, whatever the request is. In every run in which
such a walk over another response than a configuration comes to no endpoint descriptor, the policy
changes only while a configuration is handled.
-/

namespace UsbSec.Device

open Library Usb Rp2040

/-- The standard request GET_DESCRIPTOR for a configuration. -/
def IsConfigurationRequest (setup : ControlRequest) : Prop :=
  setup.bmRequestType = 0x80 ∧ setup.bRequest = 0x6 ∧ setup.wValue >>> 8 = 0x2

instance (setup : ControlRequest) : Decidable (IsConfigurationRequest setup) :=
  inferInstanceAs (Decidable (_ ∧ _ ∧ _))

/-- The message asks the slave to open an endpoint. -/
def AsksToOpen (message : SpiMessage) : Prop := hasFlag message.eFlag MsgType.edptOpen

/-- The endpoint policy is the same: the driver tables and, but for the progress of transfers, the
endpoints. The slave is not asked to open an endpoint. -/
structure SamePolicy (s t : Master) : Prop where
  itfCopy : t.drivers.itfCopy = s.drivers.itfCopy
  edptDriver : t.drivers.edptDriver = s.drivers.edptDriver
  otherEdpt : t.drivers.otherEdpt = s.drivers.otherEdpt
  endpoints : OnlyProgress s.dcd t.dcd
  outbox : ∃ more, t.outbox = s.outbox ++ more ∧ ∀ message ∈ more, ¬ AsksToOpen message

instance : IsPreorder Master SamePolicy where
  refl s := ⟨rfl, rfl, rfl, refl_of OnlyProgress s.dcd, [], by simp⟩
  trans s t u h k := by
    obtain ⟨first, hfirst, hquiet⟩ := h.outbox
    obtain ⟨second, hsecond, hquiet'⟩ := k.outbox
    refine ⟨k.itfCopy.trans h.itfCopy, k.edptDriver.trans h.edptDriver,
      k.otherEdpt.trans h.otherEdpt, trans_of OnlyProgress h.endpoints k.endpoints,
      first ++ second, ?_, fun message hmem => ?_⟩
    · rw [hsecond, hfirst, List.append_assoc]
    · rcases List.mem_append.mp hmem with hin | hin
      · exact hquiet message hin
      · exact hquiet' message hin

/-! ## Programs that leave the tables and the endpoints alone -/

/-- Everything but the policy and the messages may change. -/
theorem SamePolicy.of_eq {s t : Master} (hitf : t.drivers.itfCopy = s.drivers.itfCopy)
    (hdriver : t.drivers.edptDriver = s.drivers.edptDriver)
    (hother : t.drivers.otherEdpt = s.drivers.otherEdpt)
    (hendpoints : OnlyProgress s.dcd t.dcd) (houtbox : t.outbox = s.outbox) : SamePolicy s t :=
  ⟨hitf, hdriver, hother, hendpoints, [], by rw [houtbox, List.append_nil], by simp⟩

theorem update_same_policy {change : Master → Master}
    (hdrivers : ∀ s, (change s).drivers.itfCopy = s.drivers.itfCopy ∧
      (change s).drivers.edptDriver = s.drivers.edptDriver ∧
      (change s).drivers.otherEdpt = s.drivers.otherEdpt)
    (hendpoints : ∀ s, (change s).dcd.hwEndpoints = s.dcd.hwEndpoints)
    (houtbox : ∀ s, (change s).outbox = s.outbox) :
    Program.Moves SamePolicy (Program.update change : MasterM Unit) := by
  refine Program.Moves.update fun s => ?_
  obtain ⟨hitf, hdriver, hother⟩ := hdrivers s
  exact .of_eq hitf hdriver hother (fun num dirIn => by rw [hendpoints s]) (houtbox s)

theorem onDcd_same_policy {α : Type} {program : DcdM α}
    (h : Program.Moves OnlyProgress program) : Program.Moves SamePolicy (onDcd program) :=
  Program.Moves.onPart_of h fun _ _ hprogress => .of_eq rfl rfl rfl hprogress rfl

theorem record_same_policy (call : Call) : Program.Moves SamePolicy (record call) :=
  update_same_policy (fun _ => ⟨rfl, rfl, rfl⟩) (fun _ => rfl) fun _ => rfl

theorem enqueueSpiMessage_same_policy (flag : UInt16) {message : SpiMessage}
    (hflag : message.eFlag = flag) (h : ¬ hasFlag flag MsgType.edptOpen) :
    Program.Moves SamePolicy (enqueueSpiMessage message) := by
  refine Program.Moves.update fun s => ?_
  refine ⟨rfl, rfl, rfl, refl_of OnlyProgress s.dcd, [message], rfl, fun other hmem => ?_⟩
  rw [List.mem_singleton.mp hmem, AsksToOpen, hflag]
  exact h

theorem knockOnSlaveEdpt_same_policy (edpt len : UInt8) :
    Program.Moves SamePolicy (knockOnSlaveEdpt edpt len) :=
  enqueueSpiMessage_same_policy (MsgType.usbData ||| MsgType.debugPrintAsHex) rfl (by decide)

theorem dcdEdptXferNew_same_policy (epAddr : UInt8) (buffer : UserBuf) (totalBytes : UInt16) :
    Program.Moves SamePolicy (onDcd (dcdEdptXferNew epAddr buffer totalBytes)) :=
  onDcd_same_policy (dcdEdptXferNew_only_progress _ _ _)

theorem mscSpi_same_policy (message : SlavePacket) (edpt : UInt8) :
    Program.Moves SamePolicy (mscSpi message edpt) := by
  refine .bind (record_same_policy _) fun _ => .ite (.bind .read fun s => ?_) (.bind ?_ fun _ => ?_)
  · exact .bind (knockOnSlaveEdpt_same_policy _ _) fun _ => dcdEdptXferNew_same_policy _ _ _
  · exact update_same_policy (fun _ => ⟨rfl, rfl, rfl⟩) (fun _ => rfl) fun _ => rfl
  · exact onDcd_same_policy (dcdEdptXferPartial_only_progress _ _ _)

theorem mscXfer_same_policy (edpt : UInt8) (xferredBytes : UInt16) :
    Program.Moves SamePolicy (mscXfer edpt xferredBytes) := by
  refine .bind .read fun s => .ite ?_ (.when (enqueueSpiMessage_same_policy MsgType.usbData rfl
    (by decide)))
  refine .bind (update_same_policy (fun _ => ⟨rfl, rfl, rfl⟩) (fun _ => rfl) fun _ => rfl)
    fun _ => ?_
  refine .bind (.require _ _) fun _ => ?_
  refine .bind (update_same_policy (fun _ => ⟨rfl, rfl, rfl⟩) (fun _ => rfl) fun _ => rfl)
    fun _ => ?_
  exact .bind .read fun _ => enqueueSpiMessage_same_policy
    (MsgType.usbData ||| MsgType.debugPrintAsHex) rfl (by decide)

theorem handleSpiSlaveEventWithDriver_same_policy (message : SlavePacket) (edpt : UInt8) :
    Program.Moves SamePolicy (handleSpiSlaveEventWithDriver message edpt) := by
  refine .bind .read fun s => .bind (.require _ _) fun _ => .bind (.when (.stop _)) fun _ => ?_
  cases s.drivers.edptDriver (idx edpt).toNat with
  | illegal => exact .stop _
  | massStorage => exact mscSpi_same_policy message edpt
  | hid => exact .bind (record_same_policy _) fun _ => dcdEdptXferNew_same_policy _ _ _

theorem handleDeviceXferCompleteWithDriver_same_policy (edpt : UInt8) (xferredBytes : UInt16) :
    Program.Moves SamePolicy (handleDeviceXferCompleteWithDriver edpt xferredBytes) := by
  refine .bind .read fun s => .bind (.require _ _) fun _ => ?_
  cases s.drivers.edptDriver (idx edpt).toNat with
  | illegal => exact .stop _
  | massStorage => exact mscXfer_same_policy edpt xferredBytes
  | hid => exact .bind .read fun _ => knockOnSlaveEdpt_same_policy _ _

theorem hwHandleBuffStatusBit_same_policy (i : Nat) :
    Program.Moves SamePolicy (hwHandleBuffStatusBit i) := by
  refine .bind (update_same_policy (fun _ => ⟨rfl, rfl, rfl⟩) (fun _ => rfl) fun _ => rfl)
    fun _ => ?_
  refine .bind (.bind (record_same_policy _) fun _ => onDcd_same_policy (withEndpoint_only_progress _ _
    (hwEndpointXferContinue_same_fixed _))) fun done => .when (.bind .read fun s => ?_)
  refine .bind (.bind .read fun s => .ite ?_ (.ite (.pure _) ?_)) fun _ => ?_
  · exact onDcd_same_policy (dcdEdpt0StatusComplete_only_progress _)
  · exact handleDeviceXferCompleteWithDriver_same_policy _ _
  · exact onDcd_same_policy (withEndpoint_only_progress _ _
      (hwEndpointResetTransferNew_moves sameFixed_rule))

theorem handleSetupReq_same_policy : Program.Moves SamePolicy handleSetupReq := by
  refine .bind (onDcd_same_policy resetEp0Pid_only_progress) fun _ => .bind .read fun s => ?_
  refine .bind (record_same_policy _) fun _ => ?_
  refine .bind (update_same_policy (fun _ => ⟨rfl, rfl, rfl⟩) (fun _ => rfl) fun _ => rfl)
    fun _ => ?_
  refine .ite (enqueueSpiMessage_same_policy MsgType.chgAddr rfl (by decide)) ?_
  refine .ite (dcdEdptXferNew_same_policy _ _ _) (.ite (dcdEdptXferNew_same_policy _ _ _) ?_)
  exact enqueueSpiMessage_same_policy (MsgType.setupData ||| MsgType.debugPrintAsHex) rfl
    (by decide)


/-! ## Programs that handle a response -/

/-- The policy is the same, and but for endpoint 0 the endpoints are the same in all fields. -/
structure Untouched (s t : Master) : Prop where
  policy : SamePolicy s t
  others : ∀ num dirIn, num ≠ 0 → t.dcd.hwEndpoints num dirIn = s.dcd.hwEndpoints num dirIn

instance : IsPreorder Master Untouched where
  refl s := ⟨refl_of SamePolicy s, fun _ _ _ => rfl⟩
  trans _ _ _ h k := ⟨trans_of SamePolicy h.policy k.policy,
    fun num dirIn hnum => (k.others num dirIn hnum).trans (h.others num dirIn hnum)⟩

/-- A program that leaves the controller alone does not touch the endpoints. -/
theorem untouched_of_same_dcd {program : MasterM Unit} (h : Program.Moves SamePolicy program)
    (hdcd : Program.Moves (Program.Same Master.dcd) program) :
    Program.Moves Untouched program := by
  intro s
  refine ⟨h s, fun num dirIn _ => ?_⟩
  have hsame : (Program.final (program s)).dcd = s.dcd := hdcd s
  rw [hsame]

theorem update_untouched {change : Master → Master}
    (hdrivers : ∀ s, (change s).drivers = s.drivers) (hdcd : ∀ s, (change s).dcd = s.dcd)
    (houtbox : ∀ s, (change s).outbox = s.outbox) :
    Program.Moves Untouched (Program.update change : MasterM Unit) := by
  refine untouched_of_same_dcd (update_same_policy (fun s => ?_) (fun s => ?_) houtbox)
    (Program.Moves.update hdcd)
  · rw [hdrivers s]
    exact ⟨rfl, rfl, rfl⟩
  · rw [hdcd s]

theorem enqueueSpiMessage_untouched (flag : UInt16) {message : SpiMessage}
    (hflag : message.eFlag = flag) (h : ¬ hasFlag flag MsgType.edptOpen) :
    Program.Moves Untouched (enqueueSpiMessage message) :=
  untouched_of_same_dcd (enqueueSpiMessage_same_policy flag hflag h) (.update fun _ => rfl)

/-- A transfer on endpoint 0 touches no other endpoint. -/
theorem dcdEdptXferNew_untouched {epAddr : UInt8} (hzero : (tuEdptNumber epAddr).toNat = 0)
    (buffer : UserBuf) (totalBytes : UInt16) :
    Program.Moves Untouched (onDcd (dcdEdptXferNew epAddr buffer totalBytes)) := by
  intro s
  refine ⟨dcdEdptXferNew_same_policy epAddr buffer totalBytes s, fun num dirIn hnum => ?_⟩
  have hbounded : (tuEdptNumber epAddr).toNat < usbMaxEndpoints := by
    rw [hzero]
    decide
  unfold onDcd
  rw [Program.final_onPart]
  show (Program.final (dcdEdptXferNew epAddr buffer totalBytes s.dcd)).hwEndpoints num dirIn = _
  rw [dcdEdptXferNew_apply hbounded, withEndpoint, Program.final_onPart]
  exact Dcd.setEndpoint_other _ _ fun h => hnum (h.1.trans hzero)

theorem registerResponse_untouched (message : SlavePacket) :
    Program.Moves Untouched (registerResponse message) := by
  refine .bind .read fun s => .bind (.require _ _) fun _ => ?_
  refine .bind (update_untouched (fun _ => rfl) (fun _ => rfl) fun _ => rfl) fun _ => ?_
  refine .bind (dcdEdptXferNew_untouched rfl _ _) fun _ => ?_
  exact update_untouched (fun _ => rfl) (fun _ => rfl) fun _ => rfl

theorem handleDeviceDescriptor_untouched (arr : Buffer) :
    Program.Moves Untouched (handleDeviceDescriptor arr) := by
  refine .bind (enqueueSpiMessage_untouched
    (MsgType.chgEpxPacketsize ||| MsgType.debugPrintAsHex) rfl (by decide)) fun _ => ?_
  refine .bind (update_untouched (fun _ => rfl) (fun _ => rfl) fun _ => rfl) fun _ => ?_
  exact update_untouched (fun _ => rfl) (fun _ => rfl) fun _ => rfl

theorem handleHidReport_untouched (setup : ControlRequest) :
    Program.Moves Untouched (handleHidReport setup) :=
  .when (.bind .read fun _ => enqueueSpiMessage_untouched
    (MsgType.usbData ||| MsgType.debugPrintAsHex) rfl (by decide))

/-- A walk that comes to no endpoint descriptor does nothing. -/
theorem walk_untouched {arr : Buffer} {len fuel pos : Nat}
    (h : OpensOnly (fun _ => False) arr len fuel pos) (itf : Option Nat) :
    Program.Moves Untouched (walk arr len fuel pos itf) := by
  induction fuel generalizing pos itf with
  | zero => exact .ite (.stop _) (.pure _)
  | succ fuel ih =>
      unfold walk
      by_cases hpos : pos < len
      · obtain ⟨hnone, hrest⟩ := h hpos
        rw [if_pos hpos]
        dsimp only
        rw [Program.when_false hnone]
        exact .bind (.pure _) fun _ => ih hrest _
      · rw [if_neg hpos]
        exact .pure _

/-- The response is not walked, or the walk comes to no endpoint descriptor. -/
def ResponseOpensNothing (s : Master) : Prop :=
  (ControlRequest.ofBuffer s.dcd.setupPacket).bRequest ≠ 0x5 → ResponseOpensOnly (fun _ => False) s

instance (s : Master) : Decidable (ResponseOpensNothing s) := inferInstanceAs (Decidable (_ → _))

theorem handleSetupResponse_untouched {s : Master} (h : ResponseOpensNothing s) :
    Untouched s (Program.final (handleSetupResponse s)) := by
  unfold handleSetupResponse
  rw [Program.read_bind]
  refine (Program.Moves.bind ?_ fun _ => .bind (.when (handleDeviceDescriptor_untouched _))
    fun _ => ?_) s
  · exact update_untouched (fun _ => rfl) (fun _ => rfl) fun _ => rfl
  · by_cases haddress : (ControlRequest.ofBuffer s.dcd.setupPacket).bRequest = 0x5
    · rw [if_pos haddress]
      exact .pure _
    · rw [if_neg haddress]
      refine .bind ?_ fun _ => handleHidReport_untouched _
      by_cases hconfig : IsConfigRequest s.events.setup
      · rw [Program.when_true hconfig]
        exact walk_untouched (h haddress hconfig) none
      · rw [Program.when_false hconfig]
        exact .pure _

/-- If the message is the last reply to a setup packet, the response it completes opens nothing. -/
def ReplyOpensNothing (s : Master) (message : SlavePacket) : Prop :=
  hasFlag message.eFlag MsgType.lastPacket → ResponseOpensNothing (s.withResponse message)

instance (s : Master) (message : SlavePacket) : Decidable (ReplyOpensNothing s message) :=
  inferInstanceAs (Decidable (_ → _))

theorem handleSetupData_untouched {message : SlavePacket} {s : Master}
    (h : ReplyOpensNothing s message) :
    Untouched s (Program.final (handleSetupData message s)) := by
  have hregister := registerResponse_untouched message s
  unfold handleSetupData
  rw [Program.bind_apply]
  cases hrun : registerResponse message s with
  | error reason t =>
      rw [hrun] at hregister
      exact hregister
  | ok value t =>
      rw [hrun] at hregister
      refine trans_of Untouched hregister ?_
      by_cases hlast : hasFlag message.eFlag MsgType.lastPacket
      · have hsame : t.setupPackets = s.setupPackets :=
          (registerResponse_same_setupPackets _).ok hrun
        obtain ⟨d, rfl⟩ := registerResponse_eq_ok hrun
        have hpacket : d.setupPacket = s.dcd.setupPacket := congrArg Prod.snd hsame
        have hopens : ResponseOpensNothing { s.withResponse message with dcd := d } := by
          intro haddress
          exact h hlast (hpacket ▸ haddress)
        rw [Program.when_true hlast]
        refine trans_of Untouched (handleSetupResponse_untouched hopens)
          (Program.Moves.after (R := Untouched) _ (fun _ => ?_) _)
        refine .bind (update_untouched (fun _ => rfl) (fun _ => rfl) fun _ => rfl) fun _ => ?_
        exact .bind .read fun _ => .when (dcdEdptXferNew_untouched rfl _ _)
      · rw [Program.when_false hlast]
        exact refl_of Untouched t

/-! ## The functions of the loop -/

/-- The next message is a reply to a setup packet. -/
def HandlesReply (s : Master) : Prop :=
  ∃ msg ∈ s.nextMessage, hasFlag msg.eFlag MsgType.setupData

/-- The next message completes the response to a request for a configuration descriptor. -/
def HandlesConfiguration (s : Master) : Prop :=
  IsConfigurationRequest s.events.setup ∧ ∃ msg ∈ s.nextMessage,
    hasFlag msg.eFlag MsgType.setupData ∧ hasFlag msg.eFlag MsgType.lastPacket

/-- If the next message completes a response, the walk over it comes to no endpoint descriptor. -/
def NextOpensNothing (s : Master) : Prop :=
  ∀ msg ∈ s.nextMessage, hasFlag msg.eFlag MsgType.setupData →
    ReplyOpensNothing s (handlerPacket msg)

instance (s : Master) : Decidable (NextOpensNothing s) :=
  inferInstanceAs (Decidable (∀ _ ∈ _, _ → _))

instance (s : Master) : Decidable (HandlesConfiguration s) :=
  inferInstanceAs (Decidable (_ ∧ ∃ _ ∈ _, _))

/-- Handling a message keeps the policy, and handling a reply touches no endpoint but endpoint
0. -/
structure MessageKeeps (isReply : Prop) (s t : Master) : Prop where
  policy : SamePolicy s t
  reply : isReply → Untouched s t

theorem MessageKeeps.of_untouched {isReply : Prop} {s t : Master} (h : Untouched s t) :
    MessageKeeps isReply s t := ⟨h.policy, fun _ => h⟩

theorem handleMessage_keeps {msg : SpiMessage} {s : Master}
    (h : hasFlag msg.eFlag MsgType.setupData → ReplyOpensNothing s (handlerPacket msg)) :
    MessageKeeps (hasFlag msg.eFlag MsgType.setupData) s (Program.final (handleMessage msg s)) := by
  unfold handleMessage
  cases msg.payload.getLast? with
  | none => exact .of_untouched (refl_of Untouched s)
  | some epAddr =>
      show MessageKeeps _ s (Program.final ((Program.require _ _ >>= _) s))
      by_cases hpacket : hasFlag msg.eFlag MsgType.isPacket
      · rw [Program.require_bind hpacket]
        by_cases hsetup : hasFlag msg.eFlag MsgType.setupData
        · rw [if_pos hsetup]
          exact .of_untouched (handleSetupData_untouched (h hsetup))
        · rw [if_neg hsetup]
          exact ⟨handleSpiSlaveEventWithDriver_same_policy _ _ s, fun hreply => absurd hreply hsetup⟩
      · rw [Program.require_false hpacket]
        exact .of_untouched (refl_of Untouched s)

theorem handleSpiSlaveEvent_keeps {s : Master} (h : NextOpensNothing s) :
    MessageKeeps (HandlesReply s) s (Program.final (handleSpiSlaveEvent s)) := by
  rcases handleSpiSlaveEvent_cases s with ⟨-, hpassed | hidle⟩ | ⟨msg, rest, hnext, -, hhandles⟩
  · rw [hpassed]
    exact .of_untouched ⟨.of_eq rfl rfl rfl (refl_of OnlyProgress s.dcd) rfl, fun _ _ _ => rfl⟩
  · rw [hidle]
    exact .of_untouched ⟨.of_eq rfl rfl rfl (refl_of OnlyProgress s.dcd) rfl, fun _ _ _ => rfl⟩
  · have htaken : Untouched s { s with rx := rest } :=
      ⟨.of_eq rfl rfl rfl (refl_of OnlyProgress s.dcd) rfl, fun _ _ _ => rfl⟩
    have hhandled := handleMessage_keeps (s := { s with rx := rest }) (h msg hnext)
    rw [hhandles]
    refine ⟨trans_of SamePolicy htaken.policy hhandled.policy, fun hreply => ?_⟩
    obtain ⟨other, hother, hsetup⟩ := hreply
    cases hnext.symm.trans hother
    exact trans_of Untouched htaken (hhandled.reply hsetup)

/-- The endpoints after a bus reset: each is as it was, but for its transfer, or is closed. The
driver tables are the same and the slave is not asked to open an endpoint. -/
structure Closed (s t : Master) : Prop where
  itfCopy : t.drivers.itfCopy = s.drivers.itfCopy
  edptDriver : t.drivers.edptDriver = s.drivers.edptDriver
  otherEdpt : t.drivers.otherEdpt = s.drivers.otherEdpt
  endpoints : ∀ num dirIn,
    (t.dcd.hwEndpoints num dirIn).fixed = (s.dcd.hwEndpoints num dirIn).fixed ∨
      (t.dcd.hwEndpoints num dirIn).fixed = HwEndpoint.zero
  outbox : ∃ more, t.outbox = s.outbox ++ more ∧ ∀ message ∈ more, ¬ AsksToOpen message

theorem SamePolicy.closed {s t : Master} (h : SamePolicy s t) : Closed s t :=
  ⟨h.itfCopy, h.edptDriver, h.otherEdpt, fun num dirIn => .inl (h.endpoints num dirIn), h.outbox⟩

instance : IsPreorder Master Closed where
  refl s := (refl_of SamePolicy s).closed
  trans s t u h k := by
    obtain ⟨first, hfirst, hquiet⟩ := h.outbox
    obtain ⟨second, hsecond, hquiet'⟩ := k.outbox
    refine ⟨k.itfCopy.trans h.itfCopy, k.edptDriver.trans h.edptDriver,
      k.otherEdpt.trans h.otherEdpt, fun num dirIn => ?_, first ++ second, ?_, fun message hmem => ?_⟩
    · rcases k.endpoints num dirIn with hsame | hzero
      · rw [hsame]
        exact h.endpoints num dirIn
      · exact .inr hzero
    · rw [hsecond, hfirst, List.append_assoc]
    · rcases List.mem_append.mp hmem with hin | hin
      · exact hquiet message hin
      · exact hquiet' message hin

theorem closed_of_same_policy {α : Type} {program : MasterM α}
    (h : Program.Moves SamePolicy program) : Program.Moves Closed program := fun s => (h s).closed

theorem handleBusReset_closed : Program.Moves Closed handleBusReset := by
  refine .bind (closed_of_same_policy
    (update_same_policy (fun _ => ⟨rfl, rfl, rfl⟩) (fun _ => rfl) fun _ => rfl)) fun _ => ?_
  refine .bind ?_ fun _ => closed_of_same_policy (.bind (record_same_policy _) fun _ =>
    enqueueSpiMessage_same_policy MsgType.resetUsb rfl (by decide))
  intro s
  refine ⟨rfl, rfl, rfl, fun num dirIn => ?_, [], (List.append_nil _).symm, nofun⟩
  show (if 1 ≤ num ∧ num < usbMaxEndpoints then HwEndpoint.zero
    else s.dcd.hwEndpoints num dirIn).fixed = (s.dcd.hwEndpoints num dirIn).fixed ∨
    (if 1 ≤ num ∧ num < usbMaxEndpoints then HwEndpoint.zero
      else s.dcd.hwEndpoints num dirIn).fixed = HwEndpoint.zero
  split
  · exact .inr rfl
  · exact .inl rfl

theorem dcdRp2040Irq_same_policy {ints : DcdInts} (h : ints.busReset = false) :
    Program.Moves SamePolicy (dcdRp2040Irq ints) := by
  unfold dcdRp2040Irq
  rw [h]
  refine .bind (.pure _) fun _ => .bind (.when handleSetupReq_same_policy) fun _ => .when ?_
  exact hwHandleBuffStatus_moves hwHandleBuffStatusBit_same_policy

theorem dcdRp2040Irq_closed (ints : DcdInts) : Program.Moves Closed (dcdRp2040Irq ints) := by
  refine .bind (.when handleBusReset_closed) fun _ => closed_of_same_policy ?_
  exact .bind (.when handleSetupReq_same_policy) fun _ =>
    .when (hwHandleBuffStatus_moves hwHandleBuffStatusBit_same_policy)

/-! ## Runs -/

/-- The master after an event, also where core 0 has stopped over it. -/
def Core0.after (m : Core0) : Event → Master
  | .handleSpiSlaveEvent => Program.final (handleSpiSlaveEvent m.master)
  | .dcdIrq => Program.final (dcdRp2040Irq m.ints m.master)
  | event => ((step m event).getD m).master

/-- The event changes the endpoint policy only as the handling of a configuration: any other reply
touches no endpoint but endpoint 0 and no table, a bus reset closes endpoints, and every other
event leaves the policy as it is. -/
def KeepsPolicy (m : Core0) : Event → Prop
  | .handleSpiSlaveEvent => ¬ HandlesConfiguration m.master →
      MessageKeeps (HandlesReply m.master) m.master (m.after .handleSpiSlaveEvent)
  | .dcdIrq => if m.busReset then Closed m.master (m.after .dcdIrq)
      else SamePolicy m.master (m.after .dcdIrq)
  | event => SamePolicy m.master (m.after event)

/-- A reply that completes the response to another request than one for a configuration has no
endpoint descriptor on the way of the walk that its request selects. -/
def NoOtherOpens (m : Core0) : Event → Prop
  | .handleSpiSlaveEvent => HandlesConfiguration m.master ∨ NextOpensNothing m.master
  | _ => True

instance (m : Core0) : ∀ event, Decidable (NoOtherOpens m event)
  | .handleSpiSlaveEvent => inferInstanceAs (Decidable (_ ∨ _))
  | .dcdIrq => isTrue trivial
  | .hostSetup _ => isTrue trivial
  | .hostReset => isTrue trivial
  | .hostIn _ => isTrue trivial
  | .hostOut _ _ => isTrue trivial
  | .receive _ => isTrue trivial

/-- What the surroundings do leaves the policy alone. -/
theorem samePolicy_of_same_endpoints {s t : Master} (hdrivers : t.drivers = s.drivers)
    (hendpoints : t.dcd.hwEndpoints = s.dcd.hwEndpoints) (houtbox : t.outbox = s.outbox) :
    SamePolicy s t :=
  .of_eq (by rw [hdrivers]) (by rw [hdrivers]) (by rw [hdrivers])
    (fun num dirIn => by rw [hendpoints]) houtbox

/-- An event that meets the guard keeps the policy. -/
theorem keepsPolicy_of_noOtherOpens {m : Core0} {event : Event} (h : NoOtherOpens m event) :
    KeepsPolicy m event := by
  cases event with
  | hostSetup packet => exact samePolicy_of_same_endpoints rfl rfl rfl
  | hostReset => exact samePolicy_of_same_endpoints rfl rfl rfl
  | hostIn num =>
      show SamePolicy m.master (((sendIn m.master.dcd num).map _).getD m).master
      cases hsend : sendIn m.master.dcd num with
      | none => exact refl_of SamePolicy m.master
      | some dcd => exact samePolicy_of_same_endpoints rfl (sendIn_hwEndpoints hsend) rfl
  | hostOut num packet =>
      show SamePolicy m.master (((receiveOut m.master.dcd num packet).map _).getD m).master
      cases hreceive : receiveOut m.master.dcd num packet with
      | none => exact refl_of SamePolicy m.master
      | some dcd => exact samePolicy_of_same_endpoints rfl (receiveOut_hwEndpoints hreceive) rfl
  | receive message =>
      show SamePolicy m.master (((m.master.rx.add message).map _).getD m).master
      cases m.master.rx.add message with
      | none => exact refl_of SamePolicy m.master
      | some rx => exact samePolicy_of_same_endpoints rfl rfl rfl
  | handleSpiSlaveEvent =>
      intro hother
      exact handleSpiSlaveEvent_keeps (h.resolve_left hother)
  | dcdIrq =>
      show if m.busReset then _ else _
      by_cases hreset : m.busReset = true
      · rw [if_pos hreset]
        exact dcdRp2040Irq_closed m.ints m.master
      · rw [if_neg hreset]
        exact dcdRp2040Irq_same_policy (eq_false_of_ne_true hreset) m.master

/-- In every run in which no other reply than a configuration has an endpoint descriptor on the way
of the walk that is made over it, the policy changes only as configurations are handled. -/
theorem policy_kept_of_noOtherOpens {romWord : BitVec 32} {events : List Event}
    (h : Machine.Guarded step NoOtherOpens (.init romWord) events) :
    Machine.Guarded step KeepsPolicy (.init romWord) events :=
  Machine.guarded_mono (fun _ _ => keepsPolicy_of_noOtherOpens) h

/-- An interface and an endpoint descriptor, as any device can put them into a report. -/
def vendorReport : List UInt8 := [9, 4, 0, 0, 1, 3, 0, 0, 0, 7, 5, 0x81, 3, 8, 0, 10]

/-- The host sends a vendor request of length 255, which the slave answers with the bytes. -/
def fetchReport (wValue : UInt16) (bytes : List UInt8) (h : bytes.length < 2 ^ 15) : List Event :=
  [.hostSetup ⟨0xc0, 1, wValue, 0, 0xff⟩, .dcdIrq, .receive (lastReply bytes h)]

theorem policy_kept_after_report :
    Machine.Guarded step KeepsPolicy (.init 0) (fetchConfiguration vendorReport (by decide) ++
      fetchReport 0x0100 vendorReport (by decide) ++ [.handleSpiSlaveEvent]) :=
  policy_kept_of_noOtherOpens (by decide +kernel)

/-- The answer to a vendor request with the value 0x0200 registers a driver. -/
theorem vendorReport_changes_policy :
    ¬ ∀ romWord events, Machine.Guarded step KeepsPolicy (.init romWord) events := by
  intro h
  let events : List Event := fetchReport 0x0200 vendorReport (by decide)
  have hends : ∃ m, Reaches 0 events m ∧ m.master.events.setup.bmRequestType = 0xc0 ∧
      m.master.drivers.edptDriver (idx 0x81).toNat = .illegal ∧
      (m.after .handleSpiSlaveEvent).drivers.edptDriver (idx 0x81).toNat = .hid :=
    exists_reaches_of_any (by decide +kernel)
  obtain ⟨m, hreach, hvendor, hbefore, hafter⟩ := hends
  have hguard := (Machine.guarded_append (h 0 (events ++ [.handleSpiSlaveEvent])) hreach).2.1
  have hother : ¬ HandlesConfiguration m.master := by
    intro hconfig
    have htype := hconfig.1.1
    rw [hvendor] at htype
    exact absurd htype (by decide)
  have hkept := (hguard hother).policy.edptDriver
  rw [hkept, hbefore] at hafter
  cases hafter

end UsbSec.Device
