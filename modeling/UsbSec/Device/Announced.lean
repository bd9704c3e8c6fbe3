import UsbSec.Device.Outbox
import UsbSec.Device.Tables
import UsbSec.Host.Events

/-!
# Endpoints are announced before they are used

A USB_DATA message names an endpoint that the slave has to know. Most of them are sent because a
driver is registered for the endpoint, and the registration goes hand in hand with a request to
open it. Two knocks are different: the one that follows a request for a report descriptor always
names endpoint 0x81, and the one that follows mass-storage data for an OUT endpoint names
`other_edpt`, whatever that is. Where these two name announced endpoints, every use comes after
a request to open the endpoint.
-/

namespace UsbSec.Device

open Library Usb Rp2040

/-! ## Requests and uses -/

/-- The message asks the slave to open the endpoint. Its third byte is the endpoint address, if
it has that many. -/
def Opens (epAddr : UInt8) (message : SpiMessage) : Prop :=
  Host.messageKind message = MsgType.edptOpen ∧ ∀ byte ∈ message.payload[2]?, byte = epAddr

instance (epAddr : UInt8) (message : SpiMessage) : Decidable (Opens epAddr message) :=
  inferInstanceAs (Decidable (_ ∧ ∀ _ ∈ _, _))

/-- The message asks the slave for a transfer on the endpoint. -/
def Uses (epAddr : UInt8) (message : SpiMessage) : Prop :=
  Host.messageKind message = MsgType.usbData ∧ message.payload.getLast? = some epAddr

instance (epAddr : UInt8) (message : SpiMessage) : Decidable (Uses epAddr message) :=
  inferInstanceAs (Decidable (_ ∧ _))

/-- In front of every use of an endpoint there is a request to open it. -/
def OpenedBeforeUse (messages : List SpiMessage) : Prop :=
  ∀ front message, front ++ [message] <+: messages →
    ∀ epAddr, Uses epAddr message → ∃ request ∈ front, Opens epAddr request

theorem openedBeforeUse_nil : OpenedBeforeUse [] := by
  intro front message hgrows
  have hempty := List.prefix_nil.mp hgrows
  simp at hempty

theorem OpenedBeforeUse.concat {messages : List SpiMessage} {message : SpiMessage}
    (h : OpenedBeforeUse messages)
    (hlast : ∀ epAddr, Uses epAddr message → ∃ request ∈ messages, Opens epAddr request) :
    OpenedBeforeUse (messages ++ [message]) := by
  intro front other hgrows epAddr huses
  rcases List.prefix_concat_iff.mp hgrows with hall | hbefore
  · obtain ⟨rfl, rfl⟩ := List.append_singleton_inj.mp hall
    exact hlast epAddr huses
  · exact h front other hbefore epAddr huses

/-- A request to open the endpoint has been handed over. -/
def Master.Asked (s : Master) (epAddr : UInt8) : Prop :=
  ∃ request ∈ s.outbox, Opens epAddr request

instance (s : Master) (epAddr : UInt8) : Decidable (s.Asked epAddr) :=
  inferInstanceAs (Decidable (∃ _ ∈ _, _))

/-! ## What is announced -/

/-- The endpoint has a place in the hardware table. -/
def InTable (epAddr : UInt8) : Prop := (tuEdptNumber epAddr).toNat < usbMaxEndpoints

/-- Every endpoint of the hardware table has an address that has a place there. -/
def Addressed (d : Dcd) : Prop := ∀ num dirIn, InTable (d.hwEndpoints num dirIn).epAddr

/-- The uses handed over come after their requests, and every endpoint with a driver has been
announced. -/
structure Announced (s : Master) : Prop where
  inOrder : OpenedBeforeUse s.outbox
  drivers : ∀ epAddr, InTable epAddr → s.drivers.edptDriver (slotOf epAddr) ≠ .illegal →
    s.Asked epAddr
  addressed : Addressed s.dcd

/-- What is announced stays announced, and messages are only added. -/
def Announces (s t : Master) : Prop := Announced s → Announced t ∧ s.outbox <+: t.outbox

instance : IsPreorder Master Announces where
  refl s hs := ⟨hs, List.prefix_rfl⟩
  trans s t u h k hs := by
    obtain ⟨ht, hfirst⟩ := h hs
    obtain ⟨hu, hsecond⟩ := k ht
    exact ⟨hu, hfirst.trans hsecond⟩

theorem Master.Asked.later {s t : Master} {epAddr : UInt8} (h : s.Asked epAddr)
    (hgrows : s.outbox <+: t.outbox) : t.Asked epAddr := by
  obtain ⟨request, hmem, hopens⟩ := h
  exact ⟨request, hgrows.subset hmem, hopens⟩

/-- A step that hands nothing over and registers nothing. -/
theorem announces_of_quiet {s t : Master} (houtbox : t.outbox = s.outbox)
    (hdriver : t.drivers.edptDriver = s.drivers.edptDriver)
    (haddressed : Addressed s.dcd → Addressed t.dcd) : Announces s t := by
  intro hs
  refine ⟨⟨?_, fun epAddr htable hregistered => ?_, haddressed hs.addressed⟩, ?_⟩
  · rw [houtbox]
    exact hs.inOrder
  · rw [hdriver] at hregistered
    have hgrows : s.outbox <+: t.outbox := houtbox ▸ List.prefix_rfl
    exact (hs.drivers epAddr htable hregistered).later hgrows
  · exact houtbox ▸ List.prefix_rfl

/-- Messages that are handed over keep what is announced when each use of an endpoint has a
request in front of it. -/
theorem announces_enqueue {s : Master} {message : SpiMessage}
    (h : Announced s → ∀ epAddr, Uses epAddr message → s.Asked epAddr) :
    Announces s { s with outbox := s.outbox ++ [message] } := by
  intro hs
  have hgrows : s.outbox <+: s.outbox ++ [message] := List.prefix_append _ _
  refine ⟨⟨hs.inOrder.concat fun epAddr huses => h hs epAddr huses, ?_, hs.addressed⟩, hgrows⟩
  exact fun epAddr htable hregistered => (hs.drivers epAddr htable hregistered).later hgrows

theorem enqueue_other {message : SpiMessage} (h : Host.messageKind message ≠ MsgType.usbData) :
    Program.Moves Announces (enqueueSpiMessage message) :=
  fun _ => announces_enqueue fun _ _ huses => absurd huses.1 h

/-- The same for steps that may use an endpoint which is announced. -/
def AnnouncesUsing (epAddr : UInt8) (s t : Master) : Prop :=
  s.Asked epAddr → Announces s t

instance (epAddr : UInt8) : IsPreorder Master (AnnouncesUsing epAddr) where
  refl s _ := refl_of Announces s
  trans s t u h k hasked hs := by
    obtain ⟨ht, hfirst⟩ := h hasked hs
    obtain ⟨hu, hsecond⟩ := k (hasked.later hfirst) ht
    exact ⟨hu, hfirst.trans hsecond⟩

theorem announces_using {α : Type} {program : MasterM α} (h : Program.Moves Announces program)
    (epAddr : UInt8) : Program.Moves (AnnouncesUsing epAddr) program :=
  h.mono fun _ _ hmove _ => hmove

theorem enqueue_use {message : SpiMessage} {epAddr : UInt8}
    (hlast : message.payload.getLast? = some epAddr) :
    Program.Moves (AnnouncesUsing epAddr) (enqueueSpiMessage message) := by
  intro s hasked
  refine announces_enqueue fun _ other huses => ?_
  obtain rfl : epAddr = other := Option.some.inj (hlast.symm.trans huses.2)
  exact hasked

theorem knockOnSlaveEdpt_announces (edpt len : UInt8) :
    Program.Moves (AnnouncesUsing edpt) (knockOnSlaveEdpt edpt len) := enqueue_use (by simp)

theorem OnlyProgress.addressed {d e : Dcd} (h : OnlyProgress d e) (hd : Addressed d) :
    Addressed e := by
  intro num dirIn
  have hsame : (e.hwEndpoints num dirIn).epAddr = (d.hwEndpoints num dirIn).epAddr :=
    eq_of_fixed (fun _ => rfl) (h num dirIn)
  rw [hsame]
  exact hd num dirIn

theorem onDcd_announces {α : Type} {program : DcdM α} (h : Program.Moves OnlyProgress program) :
    Program.Moves Announces (onDcd program) :=
  Program.Moves.onPart_of h fun _ _ hprogress =>
    announces_of_quiet rfl rfl (OnlyProgress.addressed hprogress)

theorem update_announces {change : Master → Master} (houtbox : ∀ s, (change s).outbox = s.outbox)
    (hdriver : ∀ s, (change s).drivers.edptDriver = s.drivers.edptDriver)
    (hendpoints : ∀ s, (change s).dcd.hwEndpoints = s.dcd.hwEndpoints) :
    Program.Moves Announces (Program.update change : MasterM Unit) := by
  intro s
  refine announces_of_quiet (houtbox s) (hdriver s) fun hs num dirIn => ?_
  show InTable ((change s).dcd.hwEndpoints num dirIn).epAddr
  rw [hendpoints]
  exact hs num dirIn

theorem record_announces (call : Call) : Program.Moves Announces (record call) :=
  update_announces (fun _ => rfl) (fun _ => rfl) fun _ => rfl

/-! ## Completed transfers -/

theorem mscXferOut_announces (edpt : UInt8) (xferredBytes : UInt16) :
    Program.Moves (AnnouncesUsing edpt) (mscXferOut edpt xferredBytes) := by
  refine .bind (announces_using ?_ edpt) fun _ => .require_bind fun hsmall s => ?_
  · exact update_announces (fun _ => rfl) (fun _ => rfl) fun _ => rfl
  have hsmall : xferredBytes.toNat < 1024 := hsmall
  have hcount : (xferredBytes + 1).toNat = xferredBytes.toNat + 1 := by
    rw [UInt16.toNat_add]
    exact Nat.mod_eq_of_lt (by simp; omega)
  -- The byte behind the data has just been overwritten with the endpoint address.
  let bugger := s.dcd.memory.bugger.writeAt xferredBytes.toNat [edpt]
  let t : Master := { s with dcd := { s.dcd with memory := { s.dcd.memory with bugger := bugger } } }
  have hquiet : Announces s t := announces_of_quiet rfl rfl id
  have hbyte : bugger xferredBytes.toNat = edpt :=
    Buffer.writeAt_inside s.dcd.memory.bugger xferredBytes.toNat [edpt] (i := 0) (by simp)
  have hlast : (SpiMessage.copyOf (MsgType.usbData ||| MsgType.debugPrintAsHex) bugger 0
      (xferredBytes + 1)).payload.getLast? = some edpt := by
    rw [SpiMessage.copyOf_payload, hcount, Buffer.bytesAt_succ, List.getLast?_concat, Nat.zero_add,
      hbyte]
  exact trans_of (AnnouncesUsing edpt) (fun _ => hquiet) (enqueue_use hlast t)

theorem mscXfer_announces (edpt : UInt8) (xferredBytes : UInt16) :
    Program.Moves (AnnouncesUsing edpt) (mscXfer edpt xferredBytes) :=
  .bind .read fun _ => .ite (mscXferOut_announces _ _) (.when (enqueue_use (by simp [mscRead])))

theorem hidXfer_announces (edpt : UInt8) :
    Program.Moves (AnnouncesUsing edpt) (hidXfer edpt) :=
  .bind .read fun _ => knockOnSlaveEdpt_announces _ _

/-- A driver is called for endpoints that are announced. -/
theorem handleDeviceXferCompleteWithDriver_announces {edpt : UInt8} (htable : InTable edpt)
    (xferredBytes : UInt16) :
    Program.Moves Announces (handleDeviceXferCompleteWithDriver edpt xferredBytes) := by
  refine .read_bind fun s => ?_
  have hasked (hdriver : s.drivers.edptDriver (slotOf edpt) ≠ .illegal) (hs : Announced s) :
      s.Asked edpt := hs.drivers edpt htable hdriver
  show Announces s (Program.final ((Program.require _ _ >>= _) s))
  by_cases hslot : (idx edpt).toNat < driverSlots
  · rw [Program.require_bind hslot]
    cases hdriver : s.drivers.edptDriver (idx edpt).toNat with
    | illegal => exact refl_of Announces s
    | massStorage =>
        exact fun hs => mscXfer_announces edpt xferredBytes s
          (hasked (by rw [slotOf, hdriver]; exact nofun) hs) hs
    | hid =>
        exact fun hs => hidXfer_announces edpt s
          (hasked (by rw [slotOf, hdriver]; exact nofun) hs) hs
  · rw [Program.require_stops hslot]
    exact refl_of Announces s

theorem dcdEventXferCompleteNew_announces {epAddr : UInt8} (htable : InTable epAddr)
    (xferredBytes : UInt16) :
    Program.Moves Announces (dcdEventXferCompleteNew epAddr xferredBytes) := by
  refine .bind .read fun s => .ite ?_ (.ite (.pure _) ?_)
  · exact onDcd_announces (dcdEdpt0StatusComplete_only_progress _)
  · exact handleDeviceXferCompleteWithDriver_announces htable _

theorem hwHandleBuffStatusBit_announces (i : Nat) :
    Program.Moves Announces (hwHandleBuffStatusBit i) := by
  refine .bind (update_announces (fun _ => rfl) (fun _ => rfl) fun _ => rfl) fun _ => ?_
  refine .bind (.bind (record_announces _) fun _ => onDcd_announces (withEndpoint_only_progress _ _
    (hwEndpointXferContinue_same_fixed _))) fun done => .when (.read_bind fun s hs => ?_)
  have hcomplete := dcdEventXferCompleteNew_announces (hs.addressed (i / 2) (i % 2 == 0))
    (s.dcd.hwEndpoints (i / 2) (i % 2 == 0)).xferredLen
  exact Program.Moves.bind hcomplete (fun _ => onDcd_announces (withEndpoint_only_progress _ _
    (hwEndpointResetTransferNew_moves sameFixed_rule))) s hs

/-! ## Setup packets and bus resets -/

theorem dcdEventSetupReceivedNew_announces (pSetup : Buffer) :
    Program.Moves Announces (dcdEventSetupReceivedNew pSetup) := by
  refine .bind (record_announces _) fun _ => ?_
  refine .bind (update_announces (fun _ => rfl) (fun _ => rfl) fun _ => rfl) fun _ => ?_
  refine .ite (enqueue_other (by decide)) (.ite ?_ (.ite ?_ (enqueue_other ?_)))
  · exact onDcd_announces (dcdEdptXferNew_only_progress _ _ _)
  · exact onDcd_announces (dcdEdptXferNew_only_progress _ _ _)
  · show (MsgType.setupData ||| MsgType.debugPrintAsHex) &&& ~~~MsgType.debugPrintAsHex ≠ _
    decide

theorem inTable_zero : InTable 0 := by
  unfold InTable
  decide

theorem resetNonControlEndpoints_addressed :
    Program.Moves (Program.Keeps Addressed) resetNonControlEndpoints := by
  intro d hd num dirIn
  show InTable (HwEndpoint.epAddr (if _ then HwEndpoint.zero else d.hwEndpoints num dirIn))
  split
  · exact inTable_zero
  · exact hd num dirIn

theorem resetNonControlEndpoints_announces :
    Program.Moves Announces (onDcd resetNonControlEndpoints) :=
  Program.Moves.onPart_of resetNonControlEndpoints_addressed fun _ _ h =>
    announces_of_quiet rfl rfl h

theorem handleBusReset_announces : Program.Moves Announces handleBusReset := by
  refine .bind (update_announces (fun _ => rfl) (fun _ => rfl) fun _ => rfl) fun _ => ?_
  refine .bind resetNonControlEndpoints_announces fun _ => ?_
  exact .bind (record_announces _) fun _ => enqueue_other (by decide)

theorem dcdRp2040Irq_announces (ints : DcdInts) :
    Program.Moves Announces (dcdRp2040Irq ints) := by
  refine .bind (.when handleBusReset_announces) fun _ => .bind (.when ?_) fun _ => .when ?_
  · refine .bind (onDcd_announces resetEp0Pid_only_progress) fun _ => ?_
    exact .bind .read fun _ => dcdEventSetupReceivedNew_announces _
  · exact hwHandleBuffStatus_moves hwHandleBuffStatusBit_announces

/-! ## Opening endpoints -/

theorem withEndpoint_addressed (num : Nat) (dirIn : Bool) {change : HwEndpoint → HwEndpoint}
    (h : ∀ ep, InTable ep.epAddr → InTable (change ep).epAddr) :
    Program.Moves (Program.Keeps Addressed) (withEndpoint num dirIn (setEp change)) := by
  intro d hd other dir
  show InTable ((d.setEndpoint num dirIn (change (d.hwEndpoints num dirIn))).hwEndpoints other
    dir).epAddr
  by_cases hsame : other = num ∧ dir = dirIn
  · obtain ⟨rfl, rfl⟩ := hsame
    rw [Dcd.setEndpoint_same]
    exact h _ (hd other dir)
  · rw [Dcd.setEndpoint_other _ _ hsame]
    exact hd other dir

theorem hwEndpointAlloc_addressed (num : Nat) (dirIn : Bool) (transferType : UInt8) :
    Program.Moves (Program.Keeps Addressed) (hwEndpointAlloc num dirIn transferType) := by
  refine .bind .read fun d => .bind (withEndpoint_addressed _ _ fun _ => id) fun _ => ?_
  refine .bind (.update fun _ => id) fun _ => .bind (.require _ _) fun _ => ?_
  exact .bind (.require _ _) fun _ => .update fun _ => id

theorem hwEndpointInit_addressed (epAddr : UInt8) (wMaxPacketSize : UInt16)
    (transferType : UInt8) :
    Program.Moves (Program.Keeps Addressed) (hwEndpointInit epAddr wMaxPacketSize transferType) := by
  intro d
  unfold hwEndpointInit hwEndpointGetByAddr
  rw [bind_assoc]
  refine Program.Moves.require_bind (R := Program.Keeps Addressed) (fun htable => ?_) d
  refine .bind (.pure _) fun place => .bind (withEndpoint_addressed _ _ fun _ _ => htable) fun _ => ?_
  refine .bind (.update fun _ => id) fun _ => .ite (withEndpoint_addressed _ _ fun _ => id) ?_
  exact .bind (withEndpoint_addressed _ _ fun _ => id) fun _ => hwEndpointAlloc_addressed _ _ _

theorem registerDriverForEdpt_addressed (edpt : EndpointPointer)
    (itf : Option InterfaceDescriptor) (newMps : UInt8) :
    Program.Moves (Program.Keeps fun s => Addressed s.dcd)
      (registerDriverForEdpt edpt itf newMps) := by
  refine .bind (.update fun _ => id) fun _ => ?_
  cases itf with
  | none => exact .stop _
  | some descriptor =>
      refine .bind (.update fun _ => id) fun _ => .bind (.require _ _) fun _ => ?_
      refine .bind (.update fun _ => id) fun _ => .ite (.update fun _ => id) (.ite ?_ (.stop _))
      refine .bind (.update fun _ => id) fun _ => .ite ?_ (.update fun _ => id)
      exact Program.Moves.onPart_of (dcdEdptXferNew_only_progress _ _ _) fun _ _ h =>
        OnlyProgress.addressed h

/-- Every program that hands over messages with a property that none has hands over nothing. -/
theorem Sends.outbox_eq {s t : Master} (h : Sends (fun _ => False) s t) : t.outbox = s.outbox := by
  obtain ⟨more, hmore, hnone⟩ := h.outbox
  rw [hmore, List.eq_nil_iff_forall_not_mem.mpr hnone, List.append_nil]

theorem opens_openMessage (arr : Buffer) (pos : Nat) :
    Opens (EndpointPointer.bEndpointAddress ⟨arr, pos⟩) (openMessage arr pos) := by
  refine ⟨?_, fun byte hbyte => ?_⟩
  · show (MsgType.edptOpen ||| MsgType.debugPrintAsHex) &&& ~~~MsgType.debugPrintAsHex = _
    decide
  · obtain ⟨hlength, hvalue⟩ := List.getElem?_eq_some_iff.mp (Option.mem_def.mp hbyte)
    rw [← hvalue]
    simp [openMessage, Buffer.bytesAt]
    rfl

/-- The endpoint that gets a driver is announced before the handler ends. -/
theorem openEndpoint_announces (arr : Buffer) (pos : Nat) (itf : Option Nat) :
    Program.Ends Announces (openEndpoint arr pos itf) := by
  intro s _ t h hs
  obtain ⟨_, first, hrecord, h⟩ := Program.bind_eq_ok h
  cases hrecord
  obtain ⟨_, second, hopen, h⟩ := Program.bind_eq_ok h
  obtain ⟨d, hinit, rfl⟩ := Program.onPart_eq_ok hopen
  obtain ⟨_, _, hread, h⟩ := Program.bind_eq_ok h
  cases hread
  obtain ⟨_, third, hregister, h⟩ := Program.bind_eq_ok h
  cases h
  obtain ⟨descriptor, driver, -, -, -, -, hdriver, -⟩ := registerDriverForEdpt_ok hregister
  have houtbox : third.outbox = s.outbox :=
    ((registerDriverForEdpt_sends (P := fun _ => False) _ _ _).ok hregister).outbox_eq
  have haddressed : Addressed third.dcd :=
    (registerDriverForEdpt_addressed _ _ _).ok hregister
      ((hwEndpointInit_addressed _ _ _).ok hinit hs.addressed)
  obtain ⟨htable, -⟩ := hwEndpointInit_ok hinit
  have hgrows : s.outbox <+: third.outbox ++ [openMessage arr pos] := by
    rw [houtbox]
    exact List.prefix_append _ _
  refine ⟨⟨?_, fun epAddr hin hregistered => ?_, haddressed⟩, hgrows⟩
  · have hother : Host.messageKind (openMessage arr pos) ≠ MsgType.usbData := by
      rw [(opens_openMessage arr pos).1]
      decide
    show OpenedBeforeUse (third.outbox ++ [openMessage arr pos])
    rw [houtbox]
    exact hs.inOrder.concat fun _ huses => absurd huses.1 hother
  · by_cases hsame : epAddr = EndpointPointer.bEndpointAddress ⟨arr, pos⟩
    · subst hsame
      exact ⟨_, List.mem_append_right _ (List.mem_singleton_self _), opens_openMessage arr pos⟩
    · have hslot : slotOf epAddr ≠ slotOf (EndpointPointer.bEndpointAddress ⟨arr, pos⟩) :=
        fun heq => hsame (eq_of_slotOf_eq htable hin heq)
      have hregistered : third.drivers.edptDriver (slotOf epAddr) ≠ .illegal := hregistered
      rw [hdriver, Function.update_of_ne hslot] at hregistered
      exact (hs.drivers epAddr hin hregistered).later hgrows

/-- A request that is not handed over leaves the messages as they were. -/
theorem openEndpoint_stops {arr : Buffer} {pos : Nat} {itf : Option Nat} {s t : Master}
    {reason : Halt} (h : openEndpoint arr pos itf s = .error reason t) : t.outbox = s.outbox := by
  have hquiet (program : MasterM Unit) (hsame : Program.Moves (Sends fun _ => False) program)
      (middle : Master) : Program.Outcome program middle (fun _ t => t.outbox = middle.outbox)
        (fun t => t.outbox = middle.outbox) :=
    .of_moves hsame (fun _ _ hsends => hsends.outbox_eq) fun _ hsends => hsends.outbox_eq
  have houtcome : Program.Outcome (openEndpoint arr pos itf) s (fun _ _ => True)
      (fun t => t.outbox = s.outbox) := by
    refine .bind (hquiet _ (record_sends _) s) fun _ first hfirst => ?_
    refine .bind ((hquiet _ (onDcd_sends _) first).mono (fun _ _ h => h.trans hfirst)
      fun _ h => h.trans hfirst) fun _ second hsecond => .read_bind ?_
    refine .bind ((hquiet _ (registerDriverForEdpt_sends _ _ _) second).mono
      (fun _ _ h => h.trans hsecond) fun _ h => h.trans hsecond) fun _ third _ => ?_
    exact .of_ok rfl trivial
  unfold Program.Outcome at houtcome
  rw [h] at houtcome
  exact houtcome

/-- From a state in which everything is announced the program ends in such a state, with messages
added at most; where it stops, the uses handed over still come after their requests. -/
def Orderly (program : MasterM Unit) (s : Master) : Prop :=
  Announced s → Program.Outcome program s (fun _ t => Announced t ∧ s.outbox <+: t.outbox)
    (fun t => OpenedBeforeUse t.outbox)

theorem orderly_of_final {program : MasterM Unit} {s : Master}
    (h : Announces s (Program.final (program s))) : Orderly program s := by
  intro hs
  have hfinal := h hs
  unfold Program.Outcome
  cases hrun : program s with
  | ok value t =>
      rw [hrun] at hfinal
      exact hfinal
  | error reason t =>
      rw [hrun] at hfinal
      exact hfinal.1.inOrder

theorem Orderly.bind {program : MasterM Unit} {next : Unit → MasterM Unit} {s : Master}
    (h : Orderly program s)
    (hnext : ∀ t, s.outbox <+: t.outbox → program s = .ok () t → Orderly (next ()) t) :
    Orderly (program >>= next) s := by
  intro hs
  have hfirst := h hs
  unfold Program.Outcome at hfirst ⊢
  rw [Program.bind_apply]
  cases hrun : program s with
  | error reason t =>
      rw [hrun] at hfirst
      exact hfirst
  | ok value t =>
      rw [hrun] at hfirst
      have hrest := hnext t hfirst.2 hrun hfirst.1
      exact hrest.mono (fun _ _ hlast => ⟨hlast.1, hfirst.2.trans hlast.2⟩) fun _ => id

theorem openEndpoint_orderly (arr : Buffer) (pos : Nat) (itf : Option Nat) (s : Master) :
    Orderly (openEndpoint arr pos itf) s := by
  intro hs
  unfold Program.Outcome
  cases hrun : openEndpoint arr pos itf s with
  | ok value t => exact openEndpoint_announces arr pos itf s value t hrun hs
  | error reason t =>
      dsimp only
      rw [openEndpoint_stops hrun]
      exact hs.inOrder

theorem walk_orderly (arr : Buffer) (len fuel pos : Nat) (itf : Option Nat) (s : Master) :
    Orderly (walk arr len fuel pos itf) s := by
  induction fuel generalizing pos itf s with
  | zero =>
      have hquiet : Program.Moves Announces (walk arr len 0 pos itf) := .ite (.stop _) (.pure _)
      exact orderly_of_final (hquiet s)
  | succ fuel ih =>
      unfold walk
      by_cases hlt : pos < len
      · rw [if_pos hlt]
        refine .bind ?_ fun t _ _ => ih _ _ t
        by_cases hendpoint : arr (pos + 1) = 0x05
        · rw [Program.when_true hendpoint]
          exact openEndpoint_orderly _ _ _ s
        · rw [Program.when_false hendpoint]
          exact orderly_of_final (refl_of Announces s)
      · rw [if_neg hlt]
        exact orderly_of_final (refl_of Announces s)

/-! ## Responses and messages -/

/-- A response under this setup packet makes `handle_setup_response` knock on endpoint 0x81. -/
def KnocksForReport (s : Master) : Prop :=
  (ControlRequest.ofBuffer s.dcd.setupPacket).bRequest ≠ 0x5 ∧
    s.events.setup.wValue = 0x2200 ∧ s.events.setup.wIndex = 0x01

instance (s : Master) : Decidable (KnocksForReport s) :=
  inferInstanceAs (Decidable (_ ∧ _ ∧ _))

/-- Data for this endpoint makes `msc_spi` knock on `other_edpt`. -/
def KnocksForData (s : Master) (edpt : UInt8) : Prop :=
  edpt &&& 0x80 = 0 ∧ s.drivers.edptDriver (idx edpt).toNat = .massStorage

instance (s : Master) (edpt : UInt8) : Decidable (KnocksForData s edpt) :=
  inferInstanceAs (Decidable (_ ∧ _))

/-- If handling the message means to knock on endpoint 0x81 or on `other_edpt`, that endpoint is
announced. -/
structure KnockAnnounced (s : Master) (message : SpiMessage) : Prop where
  report : hasFlag message.eFlag MsgType.setupData → hasFlag message.eFlag MsgType.lastPacket →
    KnocksForReport s → s.Asked 0x81
  data : ¬ hasFlag message.eFlag MsgType.setupData → ∀ edpt ∈ message.payload.getLast?,
    KnocksForData s edpt → s.Asked s.drivers.otherEdpt

instance (s : Master) (message : SpiMessage) : Decidable (KnockAnnounced s message) :=
  letI : Decidable (∀ edpt ∈ message.payload.getLast?,
      KnocksForData s edpt → s.Asked s.drivers.otherEdpt) := Option.decidableForallMem _
  decidable_of_iff
    ((hasFlag message.eFlag MsgType.setupData → hasFlag message.eFlag MsgType.lastPacket →
      KnocksForReport s → s.Asked 0x81) ∧
      (¬ hasFlag message.eFlag MsgType.setupData → ∀ edpt ∈ message.payload.getLast?,
        KnocksForData s edpt → s.Asked s.drivers.otherEdpt))
    ⟨fun h => ⟨h.1, h.2⟩, fun h => ⟨h.report, h.data⟩⟩

/-- The message that `handle_spi_slave_event` is about to dequeue knocks only on announced
endpoints. -/
def NextKnockAnnounced (s : Master) : Prop :=
  s.events.setupResponseDir = .readingResponse →
    ∀ message ∈ (s.rx.items.dropWhile isString).head?, KnockAnnounced s message

instance (s : Master) : Decidable (NextKnockAnnounced s) :=
  inferInstanceAs (Decidable (_ → ∀ _ ∈ _, _))

theorem registerResponse_announces (message : SlavePacket) :
    Program.Moves Announces (registerResponse message) := by
  refine .bind .read fun s => .bind (.require _ _) fun _ => ?_
  refine .bind (update_announces (fun _ => rfl) (fun _ => rfl) fun _ => rfl) fun _ => ?_
  refine .bind (onDcd_announces (dcdEdptXferNew_only_progress _ _ _)) fun _ => ?_
  exact update_announces (fun _ => rfl) (fun _ => rfl) fun _ => rfl

/-- The setup packet received last and the one in the DPRAM. -/
def Master.setupPackets (s : Master) : ControlRequest × Buffer := (s.events.setup, s.dcd.setupPacket)

theorem dcdEdptXferNew_same_setupPacket (epAddr : UInt8) (buffer : UserBuf) (totalBytes : UInt16) :
    Program.Moves (Program.Same Dcd.setupPacket) (dcdEdptXferNew epAddr buffer totalBytes) := by
  refine .bind (.bind (.require _ _) fun _ => .pure _) fun place => ?_
  exact Program.Moves.onPart fun _ _ => rfl

theorem registerResponse_same_setupPackets (message : SlavePacket) :
    Program.Moves (Program.Same Master.setupPackets) (registerResponse message) := by
  refine .bind .read fun s => .bind (.require _ _) fun _ => .bind (.update fun _ => rfl) fun _ => ?_
  refine .bind ?_ fun _ => .update fun _ => rfl
  exact Program.Moves.onPart_of (dcdEdptXferNew_same_setupPacket _ _ _)
    fun s d h => congrArg (Prod.mk s.events.setup) h

theorem handleDeviceDescriptor_announces (arr : Buffer) :
    Program.Moves Announces (handleDeviceDescriptor arr) := by
  refine .bind (enqueue_other ?_) fun _ => ?_
  · show (MsgType.chgEpxPacketsize ||| MsgType.debugPrintAsHex) &&& ~~~MsgType.debugPrintAsHex ≠ _
    decide
  · refine .bind (update_announces (fun _ => rfl) (fun _ => rfl) fun _ => rfl) fun _ => ?_
    exact update_announces (fun _ => rfl) (fun _ => rfl) fun _ => rfl

/-- The knock for a report names endpoint 0x81. -/
theorem handleHidReport_announces (setup : ControlRequest) {s : Master}
    (h : setup.wValue = 0x2200 ∧ setup.wIndex = 0x01 → s.Asked 0x81) :
    Announces s (Program.final (handleHidReport setup s)) := by
  unfold handleHidReport
  by_cases hknock : setup.wValue = 0x2200 ∧ setup.wIndex = 0x01
  · rw [Program.when_true hknock, Program.read_bind, hknock.2]
    exact knockOnSlaveEdpt_announces _ _ s (h hknock)
  · rw [Program.when_false hknock]
    exact refl_of Announces s

theorem handleSetupResponse_orderly {s : Master} (hreport : KnocksForReport s → s.Asked 0x81) :
    Orderly handleSetupResponse s := by
  intro hs
  refine Program.Outcome.read_bind ?_
  refine (Orderly.bind (orderly_of_final (record_announces _ s)) fun first hfirst _ => ?_) hs
  refine .bind (orderly_of_final (Program.Moves.when (handleDeviceDescriptor_announces _) first))
    fun second hsecond _ => ?_
  by_cases haddress : (ControlRequest.ofBuffer s.dcd.setupPacket).bRequest = 0x5
  · rw [if_pos haddress]
    exact orderly_of_final (refl_of Announces second)
  · rw [if_neg haddress]
    refine .bind ?_ fun third hthird _ => orderly_of_final (handleHidReport_announces _ ?_)
    · by_cases hconfig : IsConfigRequest s.events.setup
      · rw [Program.when_true hconfig]
        exact walk_orderly _ _ _ _ _ second
      · rw [Program.when_false hconfig]
        exact orderly_of_final (refl_of Announces second)
    · intro hknock
      exact (hreport ⟨haddress, hknock⟩).later (hfirst.trans (hsecond.trans hthird))

theorem handleSetupData_orderly {message : SlavePacket} {s : Master}
    (hreport : hasFlag message.eFlag MsgType.lastPacket → KnocksForReport s → s.Asked 0x81) :
    Orderly (handleSetupData message) s := by
  refine .bind (orderly_of_final (registerResponse_announces message s)) fun first hgrows hrun => ?_
  have hsame : first.setupPackets = s.setupPackets :=
    (registerResponse_same_setupPackets _).ok hrun
  by_cases hlast : hasFlag message.eFlag MsgType.lastPacket
  · rw [Program.when_true hlast]
    refine .bind (handleSetupResponse_orderly fun hknocks => ?_) fun second _ _ => ?_
    · have hsetup : first.events.setup = s.events.setup := congrArg Prod.fst hsame
      have hpacket : first.dcd.setupPacket = s.dcd.setupPacket := congrArg Prod.snd hsame
      unfold KnocksForReport at hknocks
      rw [hsetup, hpacket] at hknocks
      exact (hreport hlast hknocks).later hgrows
    · refine orderly_of_final (Program.Moves.bind ?_ (fun _ => .bind .read fun _ => .when ?_) second)
      · exact update_announces (fun _ => rfl) (fun _ => rfl) fun _ => rfl
      · exact onDcd_announces (dcdEdptXferNew_only_progress _ _ _)
  · rw [Program.when_false hlast]
    exact orderly_of_final (refl_of Announces first)

theorem mscSpi_announces (message : SlavePacket) (edpt : UInt8) {s : Master}
    (h : edpt &&& 0x80 = 0 → s.Asked s.drivers.otherEdpt) :
    Announces s (Program.final (mscSpi message edpt s)) := by
  have hrecord : Announces s { s with calls := s.calls ++ [.mscSpi edpt] } :=
    record_announces (.mscSpi edpt) s
  unfold mscSpi record
  rw [Program.update_bind]
  by_cases hout : edpt &&& 0x80 = 0
  · rw [if_pos hout, Program.read_bind]
    refine trans_of (AnnouncesUsing s.drivers.otherEdpt) (fun _ => hrecord) ?_ (h hout)
    refine Program.Moves.bind (knockOnSlaveEdpt_announces _ _) (fun _ => announces_using ?_ _) _
    exact onDcd_announces (dcdEdptXferNew_only_progress _ _ _)
  · rw [if_neg hout]
    refine trans_of Announces hrecord (Program.Moves.bind ?_ (fun _ => ?_) _)
    · exact update_announces (fun _ => rfl) (fun _ => rfl) fun _ => rfl
    · exact onDcd_announces (dcdEdptXferPartial_only_progress _ _ _)

theorem hidSpi_announces (message : SlavePacket) (edpt : UInt8) :
    Program.Moves Announces (hidSpi message edpt) :=
  .bind (record_announces _) fun _ => onDcd_announces (dcdEdptXferNew_only_progress _ _ _)

theorem handleSpiSlaveEventWithDriver_announces (message : SlavePacket) {edpt : UInt8}
    {s : Master} (hdata : KnocksForData s edpt → s.Asked s.drivers.otherEdpt) :
    Announces s (Program.final (handleSpiSlaveEventWithDriver message edpt s)) := by
  unfold handleSpiSlaveEventWithDriver checkComm defined
  rw [Program.read_bind]
  by_cases hslot : (idx edpt).toNat < driverSlots
  · rw [Program.require_bind hslot]
    by_cases hkeyboard : IsKeyboard (s.drivers.itfCopy (idx edpt).toNat)
    · rw [Program.when_true hkeyboard, Program.stop_bind]
      exact refl_of Announces s
    · rw [Program.when_false hkeyboard, Program.pure_bind]
      cases hdriver : s.drivers.edptDriver (idx edpt).toNat with
      | illegal => exact refl_of Announces s
      | massStorage => exact mscSpi_announces message edpt fun hout => hdata ⟨hout, hdriver⟩
      | hid => exact hidSpi_announces message edpt s
  · rw [Program.require_stops hslot]
    exact refl_of Announces s

theorem handleMessage_orderly {message : SpiMessage} {s : Master}
    (hknock : KnockAnnounced s message) : Orderly (handleMessage message) s := by
  unfold handleMessage
  cases hlast : message.payload.getLast? with
  | none => exact orderly_of_final (refl_of Announces s)
  | some epAddr =>
      refine .bind (orderly_of_final (Program.Moves.require _ _ s)) fun t _ hassert => ?_
      obtain ⟨-, rfl⟩ := Program.require_eq_ok hassert
      by_cases hsetup : hasFlag message.eFlag MsgType.setupData
      · rw [if_pos hsetup]
        exact handleSetupData_orderly (hknock.report hsetup)
      · rw [if_neg hsetup]
        exact orderly_of_final
          (handleSpiSlaveEventWithDriver_announces _ (hknock.data hsetup epAddr hlast))

theorem handleSpiSlaveEvent_orderly {s : Master} (hknock : NextKnockAnnounced s) :
    Orderly handleSpiSlaveEvent s := by
  unfold handleSpiSlaveEvent
  by_cases hdir : s.events.setupResponseDir = .writingResponse
  · have hquiet : Announces s (Program.final (handleSpiSlaveEvent s)) := by
      unfold handleSpiSlaveEvent
      rw [Program.read_bind, if_pos hdir]
      exact announces_of_quiet rfl rfl id
    exact orderly_of_final hquiet
  · have hreading : s.events.setupResponseDir = .readingResponse := by
      cases hkind : s.events.setupResponseDir with
      | readingResponse => rfl
      | writingResponse => exact absurd hkind hdir
    intro hs
    refine .read_bind ?_
    rw [if_neg hdir]
    dsimp only
    cases hremove : (s.rx.dropWhile isString).remove with
    | none =>
        let t : Master := { s with rx := s.rx.dropWhile isString }
        have hquiet : Announces s t := announces_of_quiet rfl rfl id
        exact hquiet hs
    | some taken =>
        obtain ⟨message, rest⟩ := taken
        have hitems : s.rx.items.dropWhile isString = message :: rest.items :=
          Fifo.remove_eq_some.mp hremove
        have hnext := hknock hreading message (by simp [hitems])
        let t : Master := { s with rx := rest }
        have hquiet : Announces s t := announces_of_quiet rfl rfl id
        have horderly := handleMessage_orderly (s := t) ⟨hnext.report, hnext.data⟩ (hquiet hs).1
        exact .of_eq (Program.update_bind _ _ s) horderly

/-- Whether the handler ends or stops, uses come after their requests. -/
theorem handleSpiSlaveEvent_ordered {s : Master} (hs : Announced s) (hknock : NextKnockAnnounced s) :
    OpenedBeforeUse (Program.final (handleSpiSlaveEvent s)).outbox := by
  have houtcome := handleSpiSlaveEvent_orderly hknock hs
  unfold Program.Outcome at houtcome
  cases hrun : handleSpiSlaveEvent s with
  | ok value t =>
      rw [hrun] at houtcome
      exact houtcome.1.inOrder
  | error reason t =>
      rw [hrun] at houtcome
      exact houtcome

/-! ## Steps of the master -/

/-- The condition under which a step of the master uses only announced endpoints. -/
def KnocksAnnounced (m : Core0) : Event → Prop
  | .handleSpiSlaveEvent => NextKnockAnnounced m.master
  | _ => True

theorem step_announced {m n : Core0} {event : Event} (hm : Announced m.master)
    (hknock : KnocksAnnounced m event) (hstep : step m event = some n) : Announced n.master := by
  cases event with
  | hostSetup packet | hostReset =>
      cases hstep
      exact ⟨hm.inOrder, hm.drivers, hm.addressed⟩
  | hostIn num =>
      obtain ⟨dcd, hdcd, rfl⟩ := Option.map_eq_some_iff.mp hstep
      refine ⟨hm.inOrder, hm.drivers, fun num dirIn => ?_⟩
      rw [sendIn_hwEndpoints hdcd]
      exact hm.addressed num dirIn
  | hostOut num packet =>
      obtain ⟨dcd, hdcd, rfl⟩ := Option.map_eq_some_iff.mp hstep
      refine ⟨hm.inOrder, hm.drivers, fun num dirIn => ?_⟩
      rw [receiveOut_hwEndpoints hdcd]
      exact hm.addressed num dirIn
  | receive message =>
      obtain ⟨rx, -, rfl⟩ := Option.map_eq_some_iff.mp hstep
      exact ⟨hm.inOrder, hm.drivers, hm.addressed⟩
  | handleSpiSlaveEvent =>
      obtain ⟨master, hrun, rfl⟩ := runHandler_eq_some hstep
      have houtcome := handleSpiSlaveEvent_orderly hknock hm
      unfold Program.Outcome at houtcome
      rw [hrun] at houtcome
      exact houtcome.1
  | dcdIrq =>
      obtain ⟨master, hrun, rfl⟩ := runHandler_eq_some hstep
      exact ((dcdRp2040Irq_announces _).ok hrun hm).1

theorem init_announced (romWord : BitVec 32) : Announced (Core0.init romWord).master := by
  have hinit : Program.Moves (Program.Keeps Addressed) dcdInitNew :=
    .bind (hwEndpointInit_addressed _ _ _) fun _ => .bind (hwEndpointInit_addressed _ _ _) fun _ =>
      resetNonControlEndpoints_addressed
  have hkeeps : Announces (Master.zero romWord) (Core0.init romWord).master := by
    have hmove : Program.Moves Announces (onDcd dcdInitNew) :=
      Program.Moves.onPart_of hinit fun _ _ h => announces_of_quiet rfl rfl h
    exact hmove (Master.zero romWord)
  have hzero : Announced (Master.zero romWord) :=
    ⟨openedBeforeUse_nil, fun epAddr _ hregistered => absurd rfl hregistered,
      fun _ _ => inTable_zero⟩
  exact (hkeeps hzero).1

end UsbSec.Device
