import UsbSec.Host.TransferAddress
import UsbSec.Host.Reread

/-!
# The address of the attached device

The device answers to address 0, from the status stage of the transfer that the slave makes of
CHG_ADDR on to address 7, and from a bus reset on to address 0 again. The slave changes `dev_addr`
as soon as the transfer is started. When the messages that use the bus come between control
transfers, every transaction is sent to the address that the device has.
-/

namespace UsbSec.Host

open Library Usb Rp2040

/-! ## The device and the transactions -/

/-- A control transfer whose status stage is to come. -/
inductive Control where
  | changeAddress
  | request (dirIn : Bool)
  deriving DecidableEq

/-- The device, with the control transfer in progress and the address that its setup packet was
sent to. -/
structure Attached where
  address : UInt8
  awaiting : Option Control
  setupAddress : UInt8

/-- An empty packet from the device is the status stage of a transfer towards it. -/
def Attached.sendsEmpty (d : Attached) : Attached :=
  match d.awaiting with
  | some .changeAddress => { d with address := chgAddrSetup.wValue.toUInt8, awaiting := none }
  | some (.request false) => { d with awaiting := none }
  | some (.request true) | none => d

/-- A packet to the device is the status stage of a transfer towards the host. -/
def Attached.receives (d : Attached) : Attached :=
  if d.awaiting = some (.request true) then { d with awaiting := none } else d

/-- The device when the slave has handled a message. -/
def Attached.message (d : Attached) (message : SpiMessage) (next : Slave) : Attached :=
  let kind := messageKind message
  let setupAddress := programmedAddress next.hcd.devAddrCtrl
  if kind = MsgType.resetUsb then { d with address := 0 }
  else if kind = MsgType.setupData then
    ⟨d.address, some (.request (next.setup.direction == 1)), setupAddress⟩
  else if kind = MsgType.chgAddr then ⟨d.address, some .changeAddress, setupAddress⟩
  else d

/-- The device after a step of the slave. -/
def Attached.after (d : Attached) (m : Core0) (event : Event) (next : Core0) : Attached :=
  match event with
  | .slavework => (m.slave.rx.items.head?).elim d fun message => d.message message next.slave
  | .packetIn packet => if packet.bytes = [] then d.sendsEmpty else d
  | .packetOut => d.receives
  | _ => d

/-- The slave with the device. -/
structure Watched where
  core : Core0
  device : Attached

/-- The slave when its loop starts, with a device at address 0. -/
def Watched.init (romWord : BitVec 32) : Watched := ⟨.init romWord, ⟨0, none, 0⟩⟩

/-- One step of the slave with the device. -/
def Watched.step (w : Watched) (event : Event) : Option Watched :=
  (Host.step w.core event).map fun next => ⟨next, w.device.after w.core event next⟩

/-- The last control transfer is over: LAST_PACKET was handed over and its status stage is
complete. -/
def TransferOver (w : Watched) : Prop :=
  answered w.core.slave = true ∧ w.device.awaiting = none

instance (w : Watched) : Decidable (TransferOver w) := inferInstanceAs (Decidable (_ ∧ _))

/-- The message resets the bus or starts a transaction. -/
def UsesBus (message : SpiMessage) : Prop :=
  messageKind message = MsgType.resetUsb ∨ messageKind message = MsgType.setupData ∨
    messageKind message = MsgType.usbData ∨ messageKind message = MsgType.chgAddr

instance (message : SpiMessage) : Decidable (UsesBus message) :=
  inferInstanceAs (Decidable (_ ∨ _))

/-- A message is handled that uses the bus between control transfers only, and opens no control
endpoint. -/
structure PatientMessage (w : Watched) (message : SpiMessage) : Prop where
  idle : UsesBus message → TransferOver w
  opened : messageKind message = MsgType.edptOpen →
    ¬ IsControl (descriptorOf message.payload).bEndpointAddress

instance (w : Watched) (message : SpiMessage) : Decidable (PatientMessage w message) :=
  decidable_of_iff
    ((UsesBus message → TransferOver w) ∧ (messageKind message = MsgType.edptOpen →
      ¬ IsControl (descriptorOf message.payload).bEndpointAddress))
    ⟨fun h => ⟨h.1, h.2⟩, fun h => ⟨h.1, h.2⟩⟩

/-- The step handles such a message, or none. -/
def Patient (w : Watched) : Event → Prop
  | .slavework => ∀ message ∈ w.core.slave.rx.items.head?, PatientMessage w message
  | _ => True

instance (w : Watched) : ∀ event, Decidable (Patient w event)
  | .slavework => inferInstanceAs (Decidable (∀ _ ∈ _, _))
  | .receive _ | .hcdIrq | .setupSent | .packetIn _ | .packetOut | .interruptIn _ _ | .raise _ =>
      .isTrue trivial

/-- The step stopped before it started a transaction, or it started one at the given address. -/
def StopsAt (address : UInt8) (s t : Slave) : Prop :=
  StartsAt address s t ∨ starts t = starts s + 1 ∧ t.hcd.devAddrCtrl = s.hcd.devAddrCtrl

/-- What the step starts goes to the given address. -/
def SendsTo (address : UInt8) (m n : Core0) : Prop :=
  StopsAt address m.slave n.slave ∧ (n.halted = none → StartsAt address m.slave n.slave)

/-- The transactions of the step go to the address of the device, which they do not change. What
the interrupt handler starts is a later stage of a control transfer, and goes to the address that
the setup packet was sent to. -/
structure Addressed (w : Watched) (event : Event) (n : Watched) : Prop where
  address : SendsTo w.device.address w.core n.core
  device : starts n.core.slave ≠ starts w.core.slave → n.device.address = w.device.address
  stages : event = .hcdIrq → SendsTo w.device.setupAddress w.core n.core

/-! ## Messages beside a control transfer -/

/-- The slots whose buffer is full or that are polled hold data endpoints. -/
def QuietSlots (h : Hcd) : Prop :=
  ∀ slot ∈ interruptSlots, hasBits h.bufStatus (slotBit slot) = true ∨
    hasBits h.intEpCtrl (1#32 <<< slot) = true → ¬ IsControl (h.epPool slot).epAddr

theorem QuietSlots.dataSlots {s : Slave} (h : QuietSlots s.hcd) : DataSlots s.hcd.bufStatus s :=
  fun slot hslot hbit => h slot hslot (.inl hbit)

theorem QuietSlots.framed {s t : Slave} (hs : QuietSlots s.hcd) (h : Framed s t) :
    QuietSlots t.hcd := by
  intro slot hslot hbit
  have hsame : (t.hcd.epPool slot).epAddr = (s.hcd.epPool slot).epAddr :=
    eq_of_fixed (fun _ => rfl) (h.fixed slot (interruptSlots_ne hslot))
  rw [hsame]
  refine hs slot hslot (hbit.imp (h.bufStatus _) fun hpolled => ?_)
  rwa [h.intEpCtrl] at hpolled

/-- The step has nothing to do with the control endpoint. -/
structure Outside (s t : Slave) : Prop where
  calls : t.calls = s.calls
  level : t.level = s.level
  setup : t.setup = s.setup
  devAddr : t.devAddr = s.devAddr
  devAddrCtrl : t.hcd.devAddrCtrl = s.hcd.devAddrCtrl
  view : epxView t.hcd = epxView s.hcd
  word : t.hcd.memory.word epxBufCtrl = s.hcd.memory.word epxBufCtrl

theorem Outside.startsNone {s t : Slave} (h : Outside s t) : StartsNone s t :=
  ⟨congrArg (List.countP _) h.calls, h.devAddrCtrl⟩

theorem Outside.answered {s t : Slave} (h : Outside s t) : answered t = answered s :=
  congrArg (List.foldl answeredBy true) h.calls

/-- A field that does not depend on the packet size. -/
theorem Outside.field {s t : Slave} (h : Outside s t) {α : Type} (field : HwEndpoint → α)
    (hsize : ∀ ep, field (withoutSize ep) = field ep) :
    field (t.hcd.epPool epx) = field (s.hcd.epPool epx) := by
  have hep : withoutSize (t.hcd.epPool epx) = withoutSize (s.hcd.epPool epx) :=
    congrArg EpxView.ep h.view
  rw [← hsize, hep, hsize]

theorem Outside.resting {s t : Slave} (h : Outside s t) (hs : Resting s) : Resting t := by
  rcases hs with hfresh | hlater
  · exact .inl ⟨h.level.trans hfresh.level, (congrArg EpxView.startTrans h.view).trans hfresh.idle,
      (congrArg EpxView.pending h.view).trans hfresh.pending,
      (congrArg EpxView.transComplete h.view).trans hfresh.transComplete⟩
  · right
    unfold Later
    rw [h.level]
    exact hlater

theorem Outside.settingUp {address : UInt8} {s t : Slave} (h : Outside s t)
    (hs : SettingUp address s) : SettingUp address t := by
  refine ⟨h.level.trans hs.level, (congrArg EpxView.activeEp h.view).trans hs.activeEp,
    ⟨?_, ?_, ?_⟩, ?_, ?_, (congrArg EpxView.sendSetup h.view).trans hs.sending,
    h.answered.trans hs.unanswered⟩
  · exact (h.field HwEndpoint.bufferControl fun _ => rfl).trans hs.onEpx.bufferControl
  · exact (h.field HwEndpoint.endpointControl fun _ => rfl).trans hs.onEpx.endpointControl
  · exact (h.field HwEndpoint.hwDataBuf fun _ => rfl).trans hs.onEpx.hwDataBuf
  · exact (h.field HwEndpoint.epAddr fun _ => rfl).trans hs.epAddr
  · exact (h.field HwEndpoint.devAddr fun _ => rfl).trans hs.devAddr

theorem Outside.responding {address : UInt8} {s t : Slave} (h : Outside s t)
    (hs : Responding address s) : Responding address t := by
  have hread : (epxView t.hcd).Read := by
    rw [h.view]
    exact hs.read
  exact ⟨⟨h.level.trans hs.level, hread,
    (h.field HwEndpoint.devAddr fun _ => rfl).trans hs.devAddr, h.answered.trans hs.unanswered⟩,
    (h.field HwEndpoint.isPartial fun _ => rfl).trans hs.whole⟩

theorem Outside.arrived {address : UInt8} {s t : Slave} (h : Outside s t)
    (hs : StatusArrived address s) : StatusArrived address t := by
  refine ⟨h.responding hs.toResponding, ?_, (congrArg EpxView.pending h.view).trans hs.pending, ?_,
    (congrArg EpxView.startTrans h.view).trans hs.idle⟩
  · rw [h.setup]
    exact hs.direction
  · rw [h.word]
    exact hs.empty

/-- What opening an endpoint never changes. -/
abbrev SameRegisters : Hcd → Hcd → Prop := Program.Same fun h =>
  (h.activeEp, h.sieCtrl, h.devAddrCtrl, h.bufStatus, h.transComplete)

/-- What giving registers to a slot never changes. -/
abbrev SamePolled : Hcd → Hcd → Prop := Program.Same fun h =>
  (h.intEpCtrl, h.activeEp, h.sieCtrl, h.devAddrCtrl, h.bufStatus, h.transComplete)

theorem hwEndpointAllocate_samePolled (transferType epAddr : UInt8) :
    Program.Moves SamePolled (hwEndpointAllocate transferType epAddr) := by
  have hslot (slot : Nat) (change : HwEndpoint → HwEndpoint) :
      Program.Moves SamePolled (onSlot slot (setEp change)) := fun _ => rfl
  have hsearch : Program.Moves SamePolled nextFreeInterruptEp := by
    refine .bind .read fun h => ?_
    cases interruptSlots.find? fun i => !(h.epPool i).configured with
    | none => exact .pure _
    | some i => exact .bind (hslot i _) fun _ => .pure _
  have hgiven (slot : Nat) : Program.Moves SamePolled (do
      onSlot slot (setEp HwEndpoint.onEpxRegisters)
      pure slot) := .bind (hslot slot _) fun _ => .pure _
  refine .ite ?_ ?_
  · refine .bind hsearch fun slot => .bind .read fun h => .bind (.require _ _) fun _ => ?_
    exact .bind (hslot slot _) fun _ => .pure _
  · exact .ite (.bind (.pure _) hgiven) (.bind hsearch hgiven)

theorem hcdEdptOpen_sameRegisters (desc : EndpointPointer) (devAddr : UInt8) :
    Program.Moves SameRegisters (hcdEdptOpen desc devAddr) := by
  have hslot (slot : Nat) (change : HwEndpoint → HwEndpoint) :
      Program.Moves SameRegisters (onSlot slot (setEp change)) := fun _ => rfl
  have hallocate := (hwEndpointAllocate_samePolled desc.xfer desc.bEndpointAddress).mono
    (S := SameRegisters) fun _ _ => congrArg Prod.snd
  refine .bind hallocate fun slot => .bind .read fun h => .bind (.require _ _) fun _ => ?_
  refine .bind (.require _ _) fun _ => .bind (.require _ _) fun _ => ?_
  refine .bind (hslot slot _) fun _ => .bind (.require _ _) fun _ => ?_
  refine .bind (.update fun _ => rfl) fun _ => .bind (hslot slot _) fun _ => .when ?_
  exact .bind (.require _ _) fun _ => .bind .read fun _ => .bind (.require _ _) fun _ =>
    .update fun _ => rfl

/-- A polled endpoint is polled with the bit of its slot. -/
theorem enablePolling_intEpCtrl {slot : Nat} {h k : Hcd} (hslot : Registered slot (h.epPool slot))
    {devAddr epAddr : UInt8} (hrun : enablePolling slot devAddr epAddr h = .ok () k) :
    k.intEpCtrl = h.intEpCtrl ||| 1#32 <<< slot := by
  have houtcome : Program.Outcome (enablePolling slot devAddr epAddr) h
      (fun _ k => k.intEpCtrl = h.intEpCtrl ||| 1#32 <<< slot) fun _ => True := by
    refine .require_bind (fun _ => .read_bind (.require_bind (fun hnum => ?_) ?_)) fun _ => trivial
    · refine .of_ok rfl ?_
      show h.intEpCtrl ||| 1#32 <<< ((h.epPool slot).interruptNum.toNat + 1) = _
      cases hslot with
      | epx registers num =>
          rw [num] at hnum
          exact absurd hnum (by decide)
      | interrupt mem registers num =>
          rw [num, Nat.sub_add_cancel (interruptSlots_bounds mem).1]
    · exact fun _ => trivial
  exact houtcome.ok hrun

theorem slotPolls_distinct : ∀ slot ∈ interruptSlots, ∀ other ∈ interruptSlots, other ≠ slot →
    hasBits (1#32 <<< slot) (1#32 <<< other) = false := by decide

/-- What EDPT_OPEN for a data endpoint has done when it ends. -/
structure OpensData (h k : Hcd) : Prop where
  epxSame : k.epPool epx = h.epPool epx
  word : k.memory.word epxBufCtrl = h.memory.word epxBufCtrl
  slots : QuietSlots h → QuietSlots k

theorem hcdEdptOpen_opensData {desc : EndpointPointer} {devAddr : UInt8} {h k : Hcd}
    (hpool : PoolOk h) (hdata : ¬ IsControl desc.bEndpointAddress)
    (hrun : hcdEdptOpen desc devAddr h = .ok () k) : OpensData h k := by
  have hregisters := (hcdEdptOpen_sameRegisters desc devAddr).ok hrun
  have hbufStatus : k.bufStatus = h.bufStatus :=
    congrArg (fun registers => registers.2.2.2.1) hregisters
  obtain ⟨slot, middle, halloc, hinit⟩ := Program.bind_eq_ok hrun
  obtain ⟨hregistered, hmemory, hothers⟩ := hwEndpointAllocate_ok hpool halloc
  have hslot : slot ∈ interruptSlots := by
    rcases (hwEndpointAllocate_slot halloc).1 with ⟨⟨-, hzero⟩, -⟩ | ⟨-, hmem, -⟩
    · refine absurd ?_ hdata
      rw [hzero]
      decide
    · exact hmem
  obtain ⟨⟨pointer, hpointer⟩, hopened, hwords⟩ := hostEndpointInit_ok hinit
  have hother {other : Nat} (hne : other ≠ slot) : k.epPool other = h.epPool other := by
    rw [hopened, Function.update_of_ne hne, hothers other hne]
  have hpolls {other : Nat} (hmem : other ∈ interruptSlots) (hne : other ≠ slot)
      (hbit : hasBits k.intEpCtrl (1#32 <<< other) = true) :
      hasBits h.intEpCtrl (1#32 <<< other) = true := by
    have hallocated : middle.intEpCtrl = h.intEpCtrl :=
      congrArg Prod.fst ((hwEndpointAllocate_samePolled _ _).ok halloc)
    by_cases hpolled : desc.bInterval ≠ 0
    · have hsplit := (hostEndpointInit_split hinit).2
      rw [Program.when_true hpolled] at hsplit
      have hready : Registered slot ((slotInitialised slot devAddr desc.bEndpointAddress
          desc.maxPacketSize desc.xfer desc.bInterval middle).epPool slot) := by
        show Registered slot (Function.update middle.epPool slot _ slot)
        rw [Function.update_self]
        exact hregistered.initialised _ _ _ _
      rw [enablePolling_intEpCtrl hready hsplit, hasBits_or,
        slotPolls_distinct slot hslot other hmem hne, Bool.or_false] at hbit
      rw [← hallocated]
      exact hbit
    · have hsplit := (hostEndpointInit_split hinit).2
      rw [Program.when_false hpolled] at hsplit
      cases hsplit
      rw [← hallocated]
      exact hbit
  refine ⟨hother (interruptSlots_ne hslot).symm, ?_, fun hquiet other hmem hbit => ?_⟩
  · rw [hwords, hpointer, hmemory]
    refine Memory.writeWord_other _ _ fun hsame => ?_
    exact hregistered.control_notBuffer (hsame ▸ hpointer) (by decide)
  · by_cases hsame : other = slot
    · rw [hsame, hopened, Function.update_self]
      exact hdata
    · rw [hother hsame]
      refine hquiet other hmem (hbit.imp (fun hset => ?_) (hpolls hmem hsame))
      rwa [hbufStatus] at hset

/-- A message that does not use the bus leaves the control endpoint alone. -/
structure Bypasses (s t : Slave) : Prop where
  outside : Outside s t
  slots : QuietSlots s.hcd → QuietSlots t.hcd

theorem handleEdptOpen_bypasses {payload : List UInt8} {s : Slave} (hpool : PoolOk s.hcd)
    (hdata : ¬ IsControl (descriptorOf payload).bEndpointAddress) :
    Program.Outcome (handleEdptOpen payload) s (fun _ t => Bypasses s t) (StartsNone s) := by
  have hregisters := hcdEdptOpen_sameRegisters (descriptorOf payload) s.devAddr s.hcd
  refine .require_bind (fun _ => .read_bind ?_) fun _ => ⟨rfl, rfl⟩
  show Program.Outcome (onHcd (hcdEdptOpen (descriptorOf payload) s.devAddr)) s _ _
  refine .onPart (P := fun _ k => OpensData s.hcd k ∧ SameRegisters s.hcd k)
    (F := SameRegisters s.hcd) ?_ ?_ ?_
  · unfold Program.Outcome
    cases hrun : hcdEdptOpen (descriptorOf payload) s.devAddr s.hcd with
    | ok value k =>
        rw [hrun] at hregisters
        exact ⟨hcdEdptOpen_opensData hpool hdata hrun, hregisters⟩
    | error reason k =>
        rw [hrun] at hregisters
        exact hregisters
  · rintro _ k ⟨hopens, hsame⟩
    obtain ⟨hactive, hsie, haddr, hstatus, htrans⟩ : k.activeEp = s.hcd.activeEp ∧
        k.sieCtrl = s.hcd.sieCtrl ∧ k.devAddrCtrl = s.hcd.devAddrCtrl ∧
        k.bufStatus = s.hcd.bufStatus ∧ k.transComplete = s.hcd.transComplete := by
      simpa [SameRegisters, Program.Same] using hsame
    refine ⟨⟨rfl, rfl, rfl, rfl, haddr, ?_, hopens.word⟩, hopens.slots⟩
    exact sameEpx_of hactive (congrArg withoutSize hopens.epxSame) hopens.word hsie
      (congrArg (hasBits · (slotBit epx)) hstatus) htrans
  · intro k hsame
    have haddr : k.devAddrCtrl = s.hcd.devAddrCtrl :=
      congrArg (fun registers => registers.2.2.1) hsame
    exact ⟨rfl, haddr⟩

theorem handleChgEpxPacketsize_bypasses (payload : List UInt8) (s : Slave) :
    Program.Outcome (handleChgEpxPacketsize payload) s (fun _ t => Bypasses s t)
      (StartsNone s) := by
  unfold handleChgEpxPacketsize
  split
  · rename_i size
    refine .of_ok (onHcd_ok (onSlot_change epx _ s.hcd)) ⟨⟨rfl, rfl, rfl, rfl, rfl, ?_, rfl⟩, ?_⟩
    · exact changeEpxPacketsize_sameEpx size s.hcd
    · intro hquiet slot hslot hbit
      show ¬ IsControl ((withSlot s.hcd epx _).epPool slot).epAddr
      rw [withSlot_other _ _ (interruptSlots_ne hslot)]
      exact hquiet slot hslot hbit
  · exact .stop ⟨rfl, rfl⟩

/-- The slave handles a message that does not use the bus. -/
theorem handleMessage_bypasses {message : SpiMessage} {s : Slave} (hpool : PoolOk s.hcd)
    (hunused : ¬ UsesBus message) (hdata : messageKind message = MsgType.edptOpen →
      ¬ IsControl (descriptorOf message.payload).bEndpointAddress) :
    Program.Outcome (handleMessage message) s (fun _ t => Bypasses s t) (StartsNone s) := by
  have hother {kind : UInt16} (hkind : messageKind message = kind)
      (huses : kind = MsgType.resetUsb ∨ kind = MsgType.setupData ∨ kind = MsgType.usbData ∨
        kind = MsgType.chgAddr) : False := by
    unfold UsesBus at hunused
    rw [hkind] at hunused
    exact hunused huses
  refine .ite (fun hkind => (hother hkind (by decide)).elim) fun _ => ?_
  refine .ite (fun hkind => handleEdptOpen_bypasses hpool (hdata hkind)) fun _ => ?_
  refine .ite (fun hkind => (hother hkind (by decide)).elim) fun _ => ?_
  refine .ite (fun hkind => (hother hkind (by decide)).elim) fun _ => ?_
  refine .ite (fun hkind => (hother hkind (by decide)).elim) fun _ => ?_
  refine .ite (fun _ => handleChgEpxPacketsize_bypasses _ s) fun _ => ?_
  refine .ite (fun _ => .pure ⟨⟨rfl, rfl, rfl, rfl, rfl, rfl, rfl⟩, id⟩) fun _ => ?_
  exact .stop ⟨rfl, rfl⟩

/-! ## Messages that use the bus -/

/-- The slots behind `epx` and the polling of them are left alone. -/
structure KeepsSlots (h k : Hcd) : Prop where
  fixed : ∀ slot, slot ≠ epx → (k.epPool slot).fixed = (h.epPool slot).fixed
  intEpCtrl : k.intEpCtrl = h.intEpCtrl
  bufStatus : k.bufStatus = h.bufStatus
  devAddrCtrl : k.devAddrCtrl = h.devAddrCtrl

instance : IsPreorder Hcd KeepsSlots where
  refl _ := ⟨fun _ _ => rfl, rfl, rfl, rfl⟩
  trans _ _ _ h k :=
    ⟨fun slot hslot => (k.fixed slot hslot).trans (h.fixed slot hslot),
      k.intEpCtrl.trans h.intEpCtrl, k.bufStatus.trans h.bufStatus,
      k.devAddrCtrl.trans h.devAddrCtrl⟩

theorem onSlot_keepsSlots {α : Type} (slot : Nat) {engine : Engine α}
    (hengine : Program.Moves Elsewhere engine) :
    Program.Moves KeepsSlots (onSlot slot engine) := by
  refine Program.Moves.onPart_of hengine fun h c helsewhere => ?_
  refine ⟨fun other _ => ?_, rfl, rfl, rfl⟩
  show (Function.update h.epPool slot c.ep other).fixed = _
  by_cases hother : other = slot
  · subst hother
    rw [Function.update_self]
    exact helsewhere.fixed
  · rw [Function.update_of_ne hother]

theorem setEpx_keepsSlots (change : HwEndpoint → HwEndpoint) :
    Program.Moves KeepsSlots (onSlot epx (setEp change)) := by
  intro h
  refine ⟨fun other hother => ?_, rfl, rfl, rfl⟩
  show ((withSlot h epx (change (h.epPool epx))).epPool other).fixed = _
  rw [withSlot_other _ _ hother]

/-- Turning `epx` to another endpoint polls nothing. -/
theorem turnEpx_keepsSlots (devAddr epAddr : UInt8) (wMaxPacketSize : UInt16)
    (transferType : UInt8) : Program.Moves KeepsSlots
      (hostEndpointInit epx devAddr epAddr wMaxPacketSize transferType 0) := by
  refine .bind .read fun h => .bind (.require _ _) fun _ => .bind (.require _ _) fun _ => ?_
  refine .bind (.require _ _) fun _ => .bind (setEpx_keepsSlots _) fun _ => ?_
  refine .bind (.require _ _) fun _ => .bind (.update fun _ => ?_) fun _ => ?_
  · exact ⟨fun _ _ => rfl, rfl, rfl, rfl⟩
  · refine .bind (setEpx_keepsSlots _) fun _ => ?_
    rw [Program.when_false (not_not.mpr rfl)]
    exact .pure _

/-- A transfer is programmed for the address given, unless the driver stops. -/
theorem hcdEdptXfer_programs (devAddr epAddr : UInt8) (buffer : UserBuf) (buflen : UInt16)
    (h : Hcd) :
    Program.Outcome (hcdEdptXfer devAddr epAddr buffer buflen) h
      (fun _ k => (∃ middle, KeepsSlots h middle ∧ k.epPool = middle.epPool ∧
          k.intEpCtrl = middle.intEpCtrl ∧ k.bufStatus = middle.bufStatus) ∧
        programmedAddress k.devAddrCtrl = devAddr &&& 0x7f)
      (fun k => k.devAddrCtrl = h.devAddrCtrl) := by
  refine .read_bind ?_
  cases hslot : getDevEp h epAddr with
  | none => exact .stop rfl
  | some slot =>
      have hturn : Program.Moves KeepsSlots (Program.when (epAddr ≠ (h.epPool slot).epAddr)
          (hostEndpointInit slot devAddr epAddr (h.epPool slot).wMaxPacketSize
            (h.epPool slot).transferType 0)) := by
        rcases getDevEp_some hslot with rfl | ⟨-, -, haddress⟩
        · exact .when (turnEpx_keepsSlots _ _ _ _)
        · rw [Program.when_false (not_not.mpr haddress.symm)]
          exact .pure _
      refine .of_eq (Program.update_bind _ _ _) ?_
      let active : Hcd := { h with activeEp := some slot }
      have hactive : KeepsSlots h active := ⟨fun _ _ => rfl, rfl, rfl, rfl⟩
      have hturned : Program.Outcome (Program.when (epAddr ≠ (h.epPool slot).epAddr)
          (hostEndpointInit slot devAddr epAddr (h.epPool slot).wMaxPacketSize
            (h.epPool slot).transferType 0)) active (fun _ k => KeepsSlots h k)
          (fun k => k.devAddrCtrl = h.devAddrCtrl) :=
        .of_moves hturn (fun _ _ hk => trans_of KeepsSlots hactive hk)
          fun _ hk => (trans_of KeepsSlots hactive hk).devAddrCtrl
      refine .bind hturned fun _ turned hkept => .bind (P := fun _ k => KeepsSlots h k) ?_ ?_
      · exact .of_moves (onSlot_keepsSlots slot (hwEndpointXferStart_elsewhere buffer buflen))
          (fun _ _ hk => trans_of KeepsSlots hkept hk)
          fun _ hk => (trans_of KeepsSlots hkept hk).devAddrCtrl
      · intro _ started hstarted
        exact .of_ok rfl ⟨⟨started, hstarted, rfl, rfl, rfl⟩, programmedAddress_low _ _⟩

/-- USB_DATA starts a transaction for the address the slave goes by. -/
theorem handleUsbData_begins {s : Slave} (hlow : s.devAddr &&& 0x7f = s.devAddr)
    (payload : List UInt8) :
    Program.Outcome (handleUsbData payload) s (fun _ t => Later t ∧ Begun s.devAddr s t)
      (StopsAt s.devAddr s) := by
  let waiting (memory : Memory) : Slave :=
    withHcd { s with level := 3 } { s.hcd with memory := memory }
  have hnone (memory : Memory) : StopsAt s.devAddr s (waiting memory) := .inl (.inl ⟨rfl, rfl⟩)
  refine .of_eq (Program.update_bind _ _ _) ?_
  cases payload.getLast? with
  | none => exact .stop (hnone s.hcd.memory)
  | some epAddr =>
      have hfill : Program.Outcome (fillBugger 0 payload.dropLast) (waiting s.hcd.memory)
          (fun _ t => ∃ memory, t = waiting memory) (StopsAt s.devAddr s) :=
        .require_bind (fun _ => .of_ok rfl ⟨_, rfl⟩) fun _ => hnone s.hcd.memory
      refine .bind hfill ?_
      rintro _ _ ⟨memory, rfl⟩
      let called : Slave := withCall (waiting memory) (.edptXfer epAddr)
      have hcalled : starts called = starts s + 1 := starts_withCall s (.edptXfer epAddr)
      have hprograms := hcdEdptXfer_programs s.devAddr epAddr (.bugger 0)
        (UInt16.ofNat (payload.length - 1)) called.hcd
      refine .read_bind ?_
      show Program.Outcome (onHcd (hcdEdptXfer s.devAddr epAddr (.bugger 0)
        (UInt16.ofNat (payload.length - 1)))) called _ _
      refine .onPart hprograms ?_ fun k hk => .inr ⟨hcalled, hk⟩
      rintro _ k ⟨⟨middle, hkept, hpool, hpolled, hstatus⟩, hprogrammed⟩
      have hlevel : (3 : UInt8) ≠ 0 ∧ (3 : UInt8) ≠ 1 := by decide
      refine ⟨hlevel, hcalled, hprogrammed.trans hlow, rfl, rfl, fun slot hslot => ?_, ?_, ?_⟩
      · show (k.epPool slot).fixed = _
        rw [hpool]
        exact hkept.fixed slot hslot
      · exact hpolled.trans hkept.intEpCtrl
      · intro bits hbits
        have hsame : k.bufStatus = s.hcd.bufStatus := hstatus.trans hkept.bufStatus
        rw [← hsame]
        exact hbits

/-- The slave is ready to set up a control transfer. -/
theorem setupSending_settingUp {s : Slave} (hlow : s.devAddr &&& 0x7f = s.devAddr)
    (setup : ControlRequest) :
    SettingUp s.devAddr (setupSending setup s) ∧
      programmedAddress (setupSending setup s).hcd.devAddrCtrl = s.devAddr ∧
      starts (setupSending setup s) = starts s + 1 ∧
      (QuietSlots s.hcd → QuietSlots (setupSending setup s).hcd) := by
  have hep : (setupSending setup s).hcd.epPool epx =
      (setupChannel s.devAddr (epxChannel s.hcd)).ep := setupStarted_epx _ _ _
  refine ⟨⟨rfl, rfl, ?_, ?_, ?_, (sendSetupFlags_bits s.hcd).2, ?_⟩, ?_, ?_, fun hquiet => ?_⟩
  · rw [hep]
    exact ⟨rfl, rfl, rfl⟩
  · rw [hep]
    rfl
  · rw [hep]
    rfl
  · exact answered_withCall s (.setupSend setup)
  · have hnumber := programmedAddress_low s.devAddr 0
    simp at hnumber
    exact hnumber.trans hlow
  · exact starts_withCall s (.setupSend setup)
  · intro slot hslot hbit
    show ¬ IsControl (Function.update s.hcd.epPool epx _ slot).epAddr
    rw [Function.update_of_ne (interruptSlots_ne hslot)]
    exact hquiet slot hslot hbit

/-! ## The slave and the device agree -/

/-- A stage is to be started only in a transfer that was set up for the address of the device. -/
def InStage (d : Attached) (s : Slave) : Prop :=
  Resting s ∨ Early d.setupAddress s ∧ d.setupAddress = d.address ∨
    StatusArrived d.setupAddress s

/-- What the slave and the device agree about. While the transfer of CHG_ADDR waits for its status
stage the slave is ahead of the device. -/
structure Agreed (d : Attached) (s : Slave) : Prop where
  slots : QuietSlots s.hcd
  low : d.address &&& 0x7f = d.address
  setupLow : d.setupAddress &&& 0x7f = d.setupAddress
  devAddr : s.devAddr =
    if d.awaiting = some .changeAddress then chgAddrSetup.wValue.toUInt8 else d.address
  setup : d.awaiting = some .changeAddress → s.setup = chgAddrSetup
  stage : InStage d s

theorem agreed_init (romWord : BitVec 32) : Agreed ⟨0, none, 0⟩ (.init romWord) where
  slots slot hslot hset := by
    have hnone : ∀ slot ∈ interruptSlots, hasBits 0#32 (slotBit slot) = false ∧
        hasBits 0#32 (1#32 <<< slot) = false := by decide
    obtain ⟨hfull, hpolled⟩ := hnone slot hslot
    rcases hset with hbit | hbit
    · cases hfull.symm.trans hbit
    · cases hpolled.symm.trans hbit
  low := rfl
  setupLow := rfl
  devAddr := rfl
  setup := nofun
  stage := by
    have hidle : hasBits sieCtrlBase sieCtrlStartTrans = false := by decide
    have hpending : hasBits 0#32 (slotBit epx) = false := by decide
    exact .inl (.inl ⟨rfl, hidle, hpending, rfl⟩)

theorem StartsNone.startsAt {s t : Slave} (h : StartsNone s t) (address : UInt8) :
    StartsAt address s t := .inl h

theorem Agreed.bypassed {d : Attached} {s t : Slave} (hs : Agreed d s) (h : Bypasses s t) :
    Agreed d t := by
  refine ⟨h.slots hs.slots, hs.low, hs.setupLow, h.outside.devAddr.trans hs.devAddr,
    fun hchange => h.outside.setup.trans (hs.setup hchange), ?_⟩
  rcases hs.stage with hrest | ⟨hearly, hsame⟩ | harrived
  · exact .inl (h.outside.resting hrest)
  · exact .inr (.inl ⟨hearly.imp h.outside.settingUp h.outside.responding, hsame⟩)
  · exact .inr (.inr (h.outside.arrived harrived))

/-- The queue has no part in it. -/
theorem bypasses_rx (s : Slave) (rx : SpiQueue) : Bypasses s { s with rx := rx } :=
  ⟨⟨rfl, rfl, rfl, rfl, rfl, rfl, rfl⟩, id⟩

/-- The slave and the device agree behind a stage that keeps what they agree about. -/
theorem Agreed.framed {d : Attached} {s t : Slave} (hs : Agreed d s) (h : Framed s t)
    (hstage : InStage d t) : Agreed d t :=
  ⟨hs.slots.framed h, hs.low, hs.setupLow, h.devAddr.trans hs.devAddr,
    fun hchange => h.setup.trans (hs.setup hchange), hstage⟩

/-- What the interrupt handler starts is sent to the address of the device, which is the one that
the setup packet was sent to. -/
theorem Agreed.hcdRp2040Irq {d : Attached} {s : Slave} (hs : Agreed d s) (causes : List Cause) :
    Program.Outcome (hcdRp2040Irq causes (s.hcd.bufStatus != 0) s.hcd.transComplete) s
      (fun _ t => Agreed d t ∧ ∀ address, address = d.address ∨ address = d.setupAddress →
        StartsAt address s t)
      (fun t => ∀ address, address = d.address ∨ address = d.setupAddress →
        StartsAt address s t) := by
  have hdata := hs.slots.dataSlots
  rcases hs.stage with hrest | ⟨hearly, hsame⟩ | harrived
  · refine (hrest.hcdRp2040Irq hdata causes).mono ?_ fun _ ht address _ => ht.startsAt address
    rintro _ t ⟨⟨hresting, hnone⟩, hframed⟩
    exact ⟨hs.framed hframed (.inl hresting), fun address _ => hnone.startsAt address⟩
  · have haddress {t : Slave} (ht : StartsAt d.setupAddress s t) :
        ∀ address, address = d.address ∨ address = d.setupAddress → StartsAt address s t := by
      rintro address (rfl | rfl)
      · rwa [hsame] at ht
      · exact ht
    refine (hearly.hcdRp2040Irq hs.setupLow hdata causes).mono ?_ fun _ ht => haddress ht
    rintro _ t ⟨⟨hstage, hstarts⟩, hframed⟩
    refine ⟨hs.framed hframed ?_, haddress hstarts⟩
    exact hstage.elim (fun hnext => .inr (.inl ⟨hnext, hsame⟩)) .inl
  · refine (harrived.hcdRp2040Irq hs.setupLow hdata causes).mono ?_ ?_
    · rintro _ t ⟨⟨hlater, hnone⟩, hframed⟩
      exact ⟨hs.framed hframed (.inl (.inr hlater)), fun address _ => hnone.startsAt address⟩
    · exact fun _ ht address _ => ht.startsAt address

/-! ### Messages -/

/-- What a message starts is sent to the address of the device, which the message does not
change. -/
structure MessageAddressed (d : Attached) (message : SpiMessage) (s t : Slave) : Prop where
  stops : StopsAt d.address s t
  device : starts t ≠ starts s → (d.message message t).address = d.address

theorem MessageAddressed.of_silent {d : Attached} {message : SpiMessage} {s t : Slave}
    (h : StartsNone s t) : MessageAddressed d message s t :=
  ⟨.inl (h.startsAt _), fun hne => absurd h.1 hne⟩

/-- Only a bus reset changes the address of the device at once. -/
theorem MessageAddressed.of_stops {d : Attached} {message : SpiMessage} {s t : Slave}
    (hkind : messageKind message ≠ MsgType.resetUsb) (h : StopsAt d.address s t) :
    MessageAddressed d message s t := by
  refine ⟨h, fun _ => ?_⟩
  unfold Attached.message
  dsimp only
  rw [if_neg hkind]
  split
  · rfl
  · split <;> rfl

theorem message_unused {message : SpiMessage} (hunused : ¬ UsesBus message) (d : Attached)
    (t : Slave) : d.message message t = d := by
  unfold UsesBus at hunused
  unfold Attached.message
  dsimp only
  rw [if_neg fun h => hunused (.inl h), if_neg fun h => hunused (.inr (.inl h)),
    if_neg fun h => hunused (.inr (.inr (.inr h)))]

/-- Between control transfers the slave knows the address of the device, and waits. -/
theorem Agreed.idle {d : Attached} {s : Slave} (hs : Agreed d s) (hanswered : answered s = true)
    (hawaiting : d.awaiting = none) : s.devAddr = d.address ∧ Resting s := by
  have hunanswered {P : Prop} (h : answered s = false) : P := by
    cases hanswered.symm.trans h
  constructor
  · rw [hs.devAddr, if_neg]
    rw [hawaiting]
    nofun
  · rcases hs.stage with hrest | ⟨hsetup | hresponding, -⟩ | harrived
    · exact hrest
    · exact hunanswered hsetup.unanswered
    · exact hunanswered hresponding.unanswered
    · exact hunanswered harrived.unanswered

/-- The slave sets up a control transfer with the device. -/
structure SetUp (d : Attached) (s t : Slave) : Prop where
  programmed : programmedAddress t.hcd.devAddrCtrl = d.address
  settingUp : SettingUp d.address t
  slots : QuietSlots t.hcd
  starts : starts t = starts s + 1

theorem Agreed.setUp {d : Attached} {s : Slave} (hs : Agreed d s) (hdevAddr : s.devAddr = d.address)
    (setup : ControlRequest) : SetUp d s (setupSending setup s) := by
  have hlow : s.devAddr &&& 0x7f = s.devAddr := by
    rw [hdevAddr]
    exact hs.low
  obtain ⟨hsetting, hprogrammed, hstarts, hslots⟩ := setupSending_settingUp hlow setup
  rw [hdevAddr] at hprogrammed hsetting
  exact ⟨hprogrammed, hsetting, hslots hs.slots, hstarts⟩

theorem SetUp.startsAt {d : Attached} {s t : Slave} (h : SetUp d s t) :
    StartsAt d.address s t := .inr ⟨h.starts, h.programmed⟩

/-- The device takes part in the control transfer that was set up with it. -/
theorem SetUp.agreed {d : Attached} {s t : Slave} (h : SetUp d s t)
    (hlow : d.address &&& 0x7f = d.address) {awaiting : Option Control}
    (hdevAddr : t.devAddr =
      if awaiting = some .changeAddress then chgAddrSetup.wValue.toUInt8 else d.address)
    (hsetup : awaiting = some .changeAddress → t.setup = chgAddrSetup) :
    Agreed ⟨d.address, awaiting, programmedAddress t.hcd.devAddrCtrl⟩ t := by
  rw [h.programmed]
  exact ⟨h.slots, hlow, hlow, hdevAddr, hsetup, .inr (.inl ⟨.inl h.settingUp, rfl⟩)⟩

theorem handleSetupData_agreed {d : Attached} {s : Slave} (hs : Agreed d s)
    (hdevAddr : s.devAddr = d.address) (payload : List UInt8) :
    Program.Outcome (handleSetupData payload) s
      (fun _ t => Agreed ⟨d.address, some (.request (t.setup.direction == 1)),
        programmedAddress t.hcd.devAddrCtrl⟩ t ∧ StartsAt d.address s t)
      (StopsAt d.address s) := by
  refine .require_bind (fun _ => ?_) fun _ => .inl (.inl ⟨rfl, rfl⟩)
  refine .of_ok (sendSetup_apply _ s) ?_
  have hsetUp := hs.setUp hdevAddr (.ofBuffer (payloadBuffer payload))
  refine ⟨hsetUp.agreed hs.low ?_ nofun, hsetUp.startsAt⟩
  rw [if_neg (by nofun)]
  exact hdevAddr

theorem handleChgAddr_agreed {d : Attached} {s : Slave} (hs : Agreed d s)
    (hdevAddr : s.devAddr = d.address) :
    Program.Outcome handleChgAddr s
      (fun _ t => Agreed ⟨d.address, some .changeAddress,
        programmedAddress t.hcd.devAddrCtrl⟩ t ∧ StartsAt d.address s t)
      (StopsAt d.address s) := by
  let sent := setupSending chgAddrSetup s
  have hsetUp : SetUp d s sent := hs.setUp hdevAddr chgAddrSetup
  have hsetting := hsetUp.settingUp
  have hchanged : SetUp d s { sent with devAddr := chgAddrSetup.wValue.toUInt8 } :=
    ⟨hsetUp.programmed, ⟨hsetting.level, hsetting.activeEp, hsetting.onEpx, hsetting.epAddr,
      hsetting.devAddr, hsetting.sending, hsetting.unanswered⟩, hsetUp.slots, hsetUp.starts⟩
  refine .of_eq (Program.bind_ok (sendSetup_apply _ s)) (.of_ok rfl ?_)
  exact ⟨hchanged.agreed hs.low rfl fun _ => rfl, hchanged.startsAt⟩

theorem handleResetUsb_agreed {d : Attached} {s : Slave} (hs : Agreed d s) (hrest : Resting s)
    (hawaiting : d.awaiting = none) :
    Program.Outcome handleResetUsb s (fun _ t => Agreed { d with address := 0 } t ∧ StartsNone s t)
      (StartsNone s) := by
  have hlow : (0 : UInt8) &&& 0x7f = 0 := by decide
  refine .of_ok rfl ⟨⟨hs.slots, hlow, hs.setupLow, ?_, ?_, .inl ?_⟩, rfl, rfl⟩
  · show 0 = if d.awaiting = _ then _ else _
    rw [hawaiting, if_neg (by nofun)]
  · intro hchange
    cases hawaiting.symm.trans hchange
  · rcases hrest with hfresh | hlater
    · refine .inl ⟨hfresh.level, ?_, hfresh.pending, hfresh.transComplete⟩
      show hasBits (s.hcd.sieCtrl ||| sieCtrlResetBus) sieCtrlStartTrans = false
      rw [hasBits_or, hfresh.idle]
      decide
    · exact .inr hlater

theorem handleUsbData_agreed {d : Attached} {s : Slave} (hs : Agreed d s)
    (hdevAddr : s.devAddr = d.address) (payload : List UInt8) :
    Program.Outcome (handleUsbData payload) s (fun _ t => Agreed d t ∧ StartsAt d.address s t)
      (StopsAt d.address s) := by
  have hlow : s.devAddr &&& 0x7f = s.devAddr := by
    rw [hdevAddr]
    exact hs.low
  refine (handleUsbData_begins hlow payload).mono ?_ fun t ht => hdevAddr ▸ ht
  rintro _ t ⟨hlater, hbegun⟩
  refine ⟨hs.framed hbegun.framed (.inl (.inr hlater)), ?_⟩
  rw [← hdevAddr]
  exact hbegun.startsAt

/-- A message is handled in agreement with the device. -/
theorem Agreed.handleMessage {d : Attached} {s : Slave} (hs : Agreed d s) (hpool : PoolOk s.hcd)
    {message : SpiMessage} (hover : UsesBus message → answered s = true ∧ d.awaiting = none)
    (hopened : messageKind message = MsgType.edptOpen →
      ¬ IsControl (descriptorOf message.payload).bEndpointAddress) :
    Program.Outcome (handleMessage message) s
      (fun _ t => Agreed (d.message message t) t ∧ StartsAt d.address s t ∧
        MessageAddressed d message s t)
      (MessageAddressed d message s) := by
  by_cases huses : UsesBus message
  · obtain ⟨hanswered, hawaiting⟩ := hover huses
    obtain ⟨hdevAddr, hrest⟩ := hs.idle hanswered hawaiting
    have hstops (h : messageKind message ≠ MsgType.resetUsb) {t : Slave}
        (ht : StopsAt d.address s t) : MessageAddressed d message s t := .of_stops h ht
    unfold Host.handleMessage Attached.message
    rcases huses with hkind | hkind | hkind | hkind
    · rw [hkind, if_pos rfl]
      refine (handleResetUsb_agreed hs hrest hawaiting).mono ?_ fun _ ht => .of_silent ht
      exact fun _ t ht => ⟨ht.1, ht.2.startsAt _, .of_silent ht.2⟩
    · have hother : messageKind message ≠ MsgType.resetUsb := by
        rw [hkind]
        decide
      rw [hkind, if_neg (by decide), if_neg (by decide), if_pos rfl]
      refine (handleSetupData_agreed hs hdevAddr message.payload).mono ?_ ?_
      · exact fun _ t ht => ⟨ht.1, ht.2, hstops hother (.inl ht.2)⟩
      · exact fun _ ht => hstops hother ht
    · have hother : messageKind message ≠ MsgType.resetUsb := by
        rw [hkind]
        decide
      rw [hkind, if_neg (by decide), if_neg (by decide), if_neg (by decide), if_pos rfl]
      refine (handleUsbData_agreed hs hdevAddr message.payload).mono ?_ fun _ ht => hstops hother ht
      exact fun _ t ht => ⟨ht.1, ht.2, hstops hother (.inl ht.2)⟩
    · have hother : messageKind message ≠ MsgType.resetUsb := by
        rw [hkind]
        decide
      rw [hkind, if_neg (by decide), if_neg (by decide), if_neg (by decide), if_neg (by decide),
        if_pos rfl]
      refine (handleChgAddr_agreed hs hdevAddr).mono ?_ fun _ ht => hstops hother ht
      exact fun _ t ht => ⟨ht.1, ht.2, hstops hother (.inl ht.2)⟩
  · refine (handleMessage_bypasses hpool huses hopened).mono ?_ fun _ ht => .of_silent ht
    intro _ t ht
    rw [message_unused huses]
    have hnone := ht.outside.startsNone
    exact ⟨hs.bypassed ht, hnone.startsAt _, .of_silent hnone⟩

/-- The device after the message at the front of `rx`, if there is one. -/
def Attached.worked (d : Attached) (s t : Slave) : Attached :=
  (s.rx.items.head?).elim d fun message => d.message message t

/-- `slavework` takes the message at the front of `rx`, if there is one. -/
theorem Agreed.slavework {d : Attached} {s : Slave} (hs : Agreed d s) (hpool : PoolOk s.hcd)
    (hpatient : ∀ message ∈ s.rx.items.head?,
      (UsesBus message → answered s = true ∧ d.awaiting = none) ∧
        (messageKind message = MsgType.edptOpen →
          ¬ IsControl (descriptorOf message.payload).bEndpointAddress)) :
    Program.Outcome slavework s
      (fun _ t => Agreed (d.worked s t) t ∧ StartsAt d.address s t ∧
        (starts t ≠ starts s → (d.worked s t).address = d.address))
      (fun t => StopsAt d.address s t ∧
        (starts t ≠ starts s → (d.worked s t).address = d.address)) := by
  unfold Attached.worked
  refine .read_bind ?_
  cases hremove : s.rx.remove with
  | none =>
      have hempty : s.rx.items = [] := Fifo.remove_eq_none.mp hremove
      rw [hempty]
      exact .pure ⟨hs, .inl ⟨rfl, rfl⟩, fun hne => absurd rfl hne⟩
  | some taken =>
      obtain ⟨message, rest⟩ := taken
      have hitems : s.rx.items = message :: rest.items := Fifo.remove_eq_some.mp hremove
      have hhead : s.rx.items.head? = some message := by rw [hitems]; rfl
      obtain ⟨hover, hopened⟩ := hpatient message hhead
      rw [hhead]
      have htaken : Agreed d { s with rx := rest } := hs.bypassed (bypasses_rx s rest)
      refine .of_eq (Program.update_bind _ _ _) ?_
      refine (htaken.handleMessage hpool hover hopened).mono ?_ ?_
      · exact fun _ t ht => ⟨ht.1, ht.2.1, ht.2.2.device⟩
      · exact fun t ht => ⟨ht.stops, ht.device⟩

/-! ### The controller -/

/-- What the controller changes when it carries out a transaction on the EPX registers. -/
structure Transacted (h k : Hcd) : Prop where
  started : hasBits h.sieCtrl sieCtrlStartTrans = true
  epPool : k.epPool = h.epPool
  activeEp : k.activeEp = h.activeEp
  devAddrCtrl : k.devAddrCtrl = h.devAddrCtrl
  intEpCtrl : k.intEpCtrl = h.intEpCtrl
  bufStatus : k.bufStatus = h.bufStatus ∨ k.bufStatus = h.bufStatus ||| slotBit epx
  sieCtrl : k.sieCtrl = h.sieCtrl ∨ k.sieCtrl = h.sieCtrl &&& ~~~sieCtrlStartTrans

theorem sendSetupPacket_transacted {h k : Hcd} (hsent : sendSetupPacket h = some k) :
    Transacted h k := by
  unfold sendSetupPacket at hsent
  split at hsent
  · rename_i hstarted
    cases hsent
    exact ⟨hstarted.1, rfl, rfl, rfl, rfl, .inl rfl, .inr rfl⟩
  · cases hsent

theorem receiveIn_transacted {h k : Hcd} {packet : Packet}
    (hreceived : receiveIn h packet = some k) : Transacted h k := by
  unfold receiveIn at hreceived
  split at hreceived
  · rename_i hstarted
    cases hreceived
    split
    · exact ⟨hstarted.1, rfl, rfl, rfl, rfl, .inr rfl, .inr rfl⟩
    · exact ⟨hstarted.1, rfl, rfl, rfl, rfl, .inr rfl, .inl rfl⟩
  · cases hreceived

theorem sendOut_transacted {h k : Hcd} (hsent : sendOut h = some k) : Transacted h k := by
  unfold sendOut at hsent
  split at hsent
  · rename_i hstarted
    cases hsent
    split
    · exact ⟨hstarted.1.1, rfl, rfl, rfl, rfl, .inr rfl, .inr rfl⟩
    · exact ⟨hstarted.1.1, rfl, rfl, rfl, rfl, .inr rfl, .inl rfl⟩
  · cases hsent

/-- An empty packet fills the EPX buffer and ends the transaction. -/
theorem receiveIn_empty {h k : Hcd} {packet : Packet} (hempty : packet.bytes = [])
    (hreceived : receiveIn h packet = some k) :
    hasBits h.sieCtrl sieCtrlSendSetup = false ∧ hasBits k.bufStatus (slotBit epx) = true ∧
      bufLen (k.memory.word epxBufCtrl) = 0 ∧ hasBits k.sieCtrl sieCtrlStartTrans = false := by
  unfold receiveIn at hreceived
  split at hreceived
  · rename_i hstarted
    rw [if_pos (.inr hempty)] at hreceived
    cases hreceived
    have hbit : hasBits (slotBit epx) (slotBit epx) = true := by decide
    refine ⟨hstarted.2.1, ?_, ?_, hasBits_cleared (by decide)⟩
    · show hasBits (h.bufStatus ||| slotBit epx) (slotBit epx) = true
      rw [hasBits_or, hbit, Bool.or_true]
    · show bufLen ((storePacket h.memory epxCtrl epxBufCtrl packet).word epxBufCtrl) = 0
      rw [storePacket_same, bufLen_receivedWord, hempty]
      rfl
  · cases hreceived

/-- The slave after the controller has carried out a transaction. -/
def afterTransaction (transaction : Transaction) (k : Hcd) (s : Slave) : Slave :=
  withCall (withHcd s k) (.transacted transaction)

section Transacted

variable {transaction : Transaction} {s : Slave} {k : Hcd} (h : Transacted s.hcd k)
include h

theorem Transacted.startsNone : StartsNone s (afterTransaction transaction k s) :=
  ⟨starts_withCall s (.transacted transaction), h.devAddrCtrl⟩

/-- Only START_TRANS may be cleared. -/
theorem Transacted.kept {bits : BitVec 32} (hbits : bits &&& ~~~sieCtrlStartTrans = bits) :
    hasBits k.sieCtrl bits = hasBits s.hcd.sieCtrl bits := by
  rcases h.sieCtrl with hsame | hcleared
  · rw [hsame]
  · rw [hcleared]
    exact hasBits_kept hbits

theorem Transacted.quietSlots (hs : QuietSlots s.hcd) : QuietSlots k := by
  intro slot hslot hbit
  have hother : ∀ slot ∈ interruptSlots, hasBits (slotBit epx) (slotBit slot) = false := by decide
  rw [h.epPool]
  rw [h.intEpCtrl] at hbit
  refine hs slot hslot (hbit.imp_left fun hfull => ?_)
  rcases h.bufStatus with hsame | hset
  · rwa [hsame] at hfull
  · rwa [hset, hasBits_or, hother slot hslot, Bool.or_false] at hfull

theorem Transacted.responding {address : UInt8} (hs : Responding address s) :
    Responding address (afterTransaction transaction k s) := by
  have hpool := h.epPool
  have hep : (afterTransaction transaction k s).hcd.epPool epx = s.hcd.epPool epx :=
    congrFun hpool epx
  have hview : (epxView k).ep = (epxView s.hcd).ep := congrArg withoutSize hep
  have hread : (epxView k).Read := by
    refine ⟨h.activeEp.trans hs.read.activeEp, ?_, ?_, ?_, ?_, ?_⟩
    · rw [hview]
      exact hs.read.onEpx
    · rw [hview]
      exact hs.read.epAddr
    · rw [hview]
      exact hs.read.rx
    · exact (h.kept (by decide)).trans hs.read.sendSetup
    · exact (h.kept (by decide)).trans hs.read.sendData
  refine ⟨⟨hs.level, hread, ?_, ?_⟩, ?_⟩
  · rw [hep]
    exact hs.devAddr
  · exact (answered_withCall s (.transacted transaction)).trans hs.unanswered
  · rw [hep]
    exact hs.whole

theorem Transacted.settingUp {address : UInt8} (hs : SettingUp address s) :
    SettingUp address (afterTransaction transaction k s) := by
  have hpool := h.epPool
  have hep : (afterTransaction transaction k s).hcd.epPool epx = s.hcd.epPool epx :=
    congrFun hpool epx
  refine ⟨hs.level, h.activeEp.trans hs.activeEp, ?_, ?_, ?_, ?_, ?_⟩
  · rw [hep]
    exact hs.onEpx
  · rw [hep]
    exact hs.epAddr
  · rw [hep]
    exact hs.devAddr
  · exact (h.kept (by decide)).trans hs.sending
  · exact (answered_withCall s (.transacted transaction)).trans hs.unanswered

/-- A transaction takes no stage of a control transfer to another. -/
theorem Transacted.agreed {d : Attached} (hs : Agreed d s) :
    Agreed d (afterTransaction transaction k s) := by
  refine ⟨h.quietSlots hs.slots, hs.low, hs.setupLow, hs.devAddr, hs.setup, ?_⟩
  rcases hs.stage with (hfresh | hlater) | ⟨hearly, hsame⟩ | harrived
  · cases hfresh.idle.symm.trans h.started
  · exact .inl (.inr hlater)
  · exact .inr (.inl ⟨hearly.imp h.settingUp h.responding, hsame⟩)
  · cases harrived.idle.symm.trans h.started

end Transacted

/-- The status stage of a transfer towards the host tells the device nothing new. -/
theorem Agreed.receives {d : Attached} {s : Slave} (hs : Agreed d s) : Agreed d.receives s := by
  unfold Attached.receives
  split
  · rename_i hin
    refine ⟨hs.slots, hs.low, hs.setupLow, ?_, nofun, hs.stage⟩
    have hdevAddr := hs.devAddr
    rw [hin, if_neg (by nofun)] at hdevAddr
    rw [if_neg (by nofun)]
    exact hdevAddr
  · exact hs

/-- With its empty packet behind CHG_ADDR the device takes the address that the slave goes by. -/
theorem Agreed.sendsEmpty {d : Attached} {s : Slave} (hs : Agreed d s) {packet : Packet}
    (hempty : packet.bytes = []) {k : Hcd} (hreceived : receiveIn s.hcd packet = some k) :
    Agreed d.sendsEmpty (afterTransaction .packetIn k s) := by
  have htransacted := receiveIn_transacted hreceived
  have hagreed : Agreed d (afterTransaction .packetIn k s) := htransacted.agreed hs
  obtain ⟨hsending, hpending, hlength, hidle⟩ := receiveIn_empty hempty hreceived
  have hdevAddr := hs.devAddr
  unfold Attached.sendsEmpty
  split
  · rename_i hchange
    rw [hchange, if_pos rfl] at hdevAddr
    have hlow : chgAddrSetup.wValue.toUInt8 &&& 0x7f = chgAddrSetup.wValue.toUInt8 := by decide
    refine ⟨hagreed.slots, hlow, hs.setupLow, hdevAddr, nofun, ?_⟩
    rcases hs.stage with (hfresh | hlater) | ⟨hsetup | hresponding, -⟩ | harrived
    · cases hfresh.idle.symm.trans htransacted.started
    · exact .inl (.inr hlater)
    · cases hsending.symm.trans hsetup.sending
    · refine .inr (.inr ⟨htransacted.responding hresponding, ?_, hpending, hlength, hidle⟩)
      show s.setup.direction ≠ 1
      rw [hs.setup hchange]
      decide
    · cases harrived.idle.symm.trans htransacted.started
  · rename_i hout
    rw [hout, if_neg (by nofun)] at hdevAddr
    exact ⟨hagreed.slots, hs.low, hs.setupLow, hdevAddr, nofun, hagreed.stage⟩
  · exact hagreed
  · exact hagreed

/-- A packet for an interrupt endpoint has nothing to do with the control endpoint. -/
theorem receiveInterrupt_bypasses {s : Slave} {slot : Nat} {packet : Packet} {k : Hcd}
    (hreceived : receiveInterrupt s.hcd slot packet = some k) :
    Bypasses s { s with hcd := k } := by
  have haside := receiveInterrupt_aside hreceived
  unfold receiveInterrupt at hreceived
  dsimp only at hreceived
  split at hreceived
  · rename_i hpolled
    obtain ⟨hslot, hpoll, -⟩ := hpolled
    cases hreceived
    have hbuffer : ∀ slot ∈ interruptSlots, epxBufCtrl ≠ intEpBufferCtrl (slot - 1) := by decide
    refine ⟨⟨rfl, rfl, rfl, rfl, rfl, haside.epx, storePacket_other _ _ _ (hbuffer slot hslot)⟩, ?_⟩
    intro hquiet other hother hbit
    refine hquiet other hother ?_
    by_cases hsame : other = slot
    · exact .inr (hsame ▸ hpoll)
    · refine hbit.imp_left fun hfull => ?_
      rwa [hasBits_or, slotBits_distinct slot hslot other hother, decide_eq_false hsame,
        Bool.or_false] at hfull
  · cases hreceived

/-! ## Runs of the slave with the device -/

/-- The pool is in order, and the slave and the device agree. -/
structure InAgreement (w : Watched) : Prop where
  pool : PoolOk w.core.slave.hcd
  agreed : Agreed w.device w.core.slave

/-- A step that starts nothing sends nothing to another address. -/
theorem addressed_of_none {w : Watched} {event : Event} {n : Watched}
    (h : StartsNone w.core.slave n.core.slave) : Addressed w event n := by
  have hsends (address : UInt8) : SendsTo address w.core n.core :=
    ⟨.inl (h.startsAt address), fun _ => h.startsAt address⟩
  exact ⟨hsends _, fun hne => absurd h.1 hne, fun _ => hsends _⟩

/-- What a step does with the slave and the device in agreement. -/
structure Proceeds (w : Watched) (event : Event) (n : Watched) : Prop where
  addressed : Addressed w event n
  agreed : n.core.halted = none → Agreed n.device n.core.slave

theorem Agreed.proceeds {w : Watched} {event : Event} {n : Watched}
    (h : Agreed n.device n.core.slave) (hnone : StartsNone w.core.slave n.core.slave) :
    Proceeds w event n := ⟨addressed_of_none hnone, fun _ => h⟩

theorem InAgreement.hcdIrq {w : Watched} (hw : InAgreement w) :
    Proceeds w .hcdIrq ⟨runHandler (hcdRp2040Irq w.core.causes (w.core.slave.hcd.bufStatus != 0)
      w.core.slave.hcd.transComplete) w.core, w.device⟩ := by
  have houtcome := hw.agreed.hcdRp2040Irq w.core.causes
  cases hrun : hcdRp2040Irq w.core.causes (w.core.slave.hcd.bufStatus != 0)
      w.core.slave.hcd.transComplete w.core.slave with
  | ok value t =>
      obtain ⟨hagreed, hstarts⟩ := houtcome.ok hrun
      rw [runHandler_ok hrun]
      have hsends {address : UInt8}
          (haddress : address = w.device.address ∨ address = w.device.setupAddress) :
          SendsTo address w.core { w.core with slave := t } :=
        ⟨.inl (hstarts address haddress), fun _ => hstarts address haddress⟩
      exact ⟨⟨hsends (.inl rfl), fun _ => rfl, fun _ => hsends (.inr rfl)⟩, fun _ => hagreed⟩
  | error reason t =>
      have hstarts := houtcome.error hrun
      rw [runHandler_error hrun]
      have hsends {address : UInt8}
          (haddress : address = w.device.address ∨ address = w.device.setupAddress) :
          SendsTo address w.core { w.core with slave := t, halted := some reason } :=
        ⟨.inl (hstarts address haddress), fun _ => hstarts address haddress⟩
      exact ⟨⟨hsends (.inl rfl), fun _ => rfl, fun _ => hsends (.inr rfl)⟩, nofun⟩

theorem InAgreement.slavework {w : Watched} (hw : InAgreement w)
    (hpatient : Patient w .slavework) :
    Proceeds w .slavework ⟨runHandler slavework w.core,
      w.device.after w.core .slavework (runHandler slavework w.core)⟩ := by
  have houtcome := hw.agreed.slavework hw.pool fun message hmem =>
    ⟨(hpatient message hmem).idle, (hpatient message hmem).opened⟩
  cases hrun : Host.slavework w.core.slave with
  | ok value t =>
      obtain ⟨hagreed, hstarts, hdevice⟩ := houtcome.ok hrun
      rw [runHandler_ok hrun]
      exact ⟨⟨⟨.inl hstarts, fun _ => hstarts⟩, hdevice, nofun⟩, fun _ => hagreed⟩
  | error reason t =>
      obtain ⟨hstops, hdevice⟩ := houtcome.error hrun
      rw [runHandler_error hrun]
      exact ⟨⟨⟨hstops, nofun⟩, hdevice, nofun⟩, nofun⟩

/-- A patient step keeps the agreement, and what it starts goes to the device. -/
theorem InAgreement.step {w n : Watched} {event : Event} (hw : InAgreement w)
    (hok : Patient w event) (hstep : w.step event = some n) : Proceeds w event n := by
  obtain ⟨next, hnext, rfl⟩ := Option.map_eq_some_iff.mp hstep
  unfold Host.step at hnext
  split at hnext
  · cases event with
    | receive message =>
        obtain ⟨rx, -, rfl⟩ := Option.map_eq_some_iff.mp hnext
        exact (hw.agreed.bypassed (bypasses_rx _ rx)).proceeds ⟨rfl, rfl⟩
    | slavework =>
        cases hnext
        exact hw.slavework hok
    | hcdIrq =>
        cases hnext
        exact hw.hcdIrq
    | setupSent =>
        obtain ⟨k, hsent, rfl⟩ := Option.map_eq_some_iff.mp hnext
        have htransacted := sendSetupPacket_transacted hsent
        exact (htransacted.agreed hw.agreed).proceeds htransacted.startsNone
    | packetIn packet =>
        obtain ⟨k, hreceived, rfl⟩ := Option.map_eq_some_iff.mp hnext
        have htransacted := receiveIn_transacted hreceived
        refine Agreed.proceeds ?_ htransacted.startsNone
        show Agreed (if packet.bytes = [] then w.device.sendsEmpty else w.device) _
        split
        · rename_i hempty
          exact hw.agreed.sendsEmpty hempty hreceived
        · exact htransacted.agreed hw.agreed
    | packetOut =>
        obtain ⟨k, hsent, rfl⟩ := Option.map_eq_some_iff.mp hnext
        have htransacted := sendOut_transacted hsent
        exact (htransacted.agreed hw.agreed).receives.proceeds htransacted.startsNone
    | interruptIn slot packet =>
        obtain ⟨k, hreceived, rfl⟩ := Option.map_eq_some_iff.mp hnext
        have hbypasses := receiveInterrupt_bypasses hreceived
        exact (hw.agreed.bypassed hbypasses).proceeds hbypasses.outside.startsNone
    | raise cause =>
        cases hnext
        refine Agreed.proceeds ?_ ⟨rfl, rfl⟩
        exact hw.agreed
  · cases hnext

/-- The slave and the device agree in every state of a patient run in which core 0 has not
stopped. -/
theorem inAgreement_of_patient {romWord : BitVec 32} {events : List Event} {w : Watched}
    (hpatient : Machine.Guarded Watched.step Patient (.init romWord) events)
    (hrun : Machine.run Watched.step (.init romWord) events = some w)
    (hrunning : w.core.halted = none) : InAgreement w := by
  refine Machine.guarded_invariant (I := fun w => w.core.halted = none → InAgreement w)
    (fun w event n hw hok hstep hnext => ?_) (fun _ => ?_) hpatient hrun hrunning
  · obtain ⟨next, hcore, rfl⟩ := Option.map_eq_some_iff.mp hstep
    obtain ⟨hbefore, hpool⟩ := step_ends poolOk_rule hcore hnext
    have hagreed := hw hbefore
    exact ⟨hpool hagreed.pool, (hagreed.step hok hstep).agreed hnext⟩
  · exact ⟨poolOk_init romWord, agreed_init romWord⟩

/-- In a patient run every transaction that the next patient step starts goes to the address that
the device has, and the stages of a control transfer go to one address. -/
theorem addressed_of_patient {romWord : BitVec 32} {events : List Event} {w n : Watched}
    {event : Event} (hpatient : Machine.Guarded Watched.step Patient (.init romWord) events)
    (hrun : Machine.run Watched.step (.init romWord) events = some w) (hok : Patient w event)
    (hstep : w.step event = some n) : Addressed w event n := by
  have hrunning : w.core.halted = none := by
    by_contra hhalted
    obtain ⟨next, hcore, -⟩ := Option.map_eq_some_iff.mp hstep
    rw [Host.step, if_neg hhalted] at hcore
    cases hcore
  exact ((inAgreement_of_patient hpatient hrun hrunning).step hok hstep).addressed

/-- CHG_ADDR and its status stage, and a request behind them. -/
def addressChange : List Event :=
  [.receive ⟨MsgType.chgAddr, [], SpiMessage.nil_lt⟩, .slavework, .setupSent, .hcdIrq,
    .packetIn (packetOf [] (by decide)), .hcdIrq,
    .receive (setupMessage ⟨0x80, 6, 0x0100, 0, 18⟩), .slavework, .setupSent]

theorem addressChange_addressed :
    ∃ w n, Machine.run Watched.step (.init 0) addressChange = some w ∧
      w.step .hcdIrq = some n ∧ Addressed w .hcdIrq n ∧ w.device.address = 7 ∧
      starts n.core.slave = 4 := by
  have hpatient : Machine.Guarded Watched.step Patient (.init 0) addressChange := by
    decide +kernel
  have hends : ∃ w, Machine.run Watched.step (.init 0) addressChange = some w ∧
      (w.device.address = 7 ∧ (w.step .hcdIrq).any fun n => starts n.core.slave = 4) :=
    Machine.exists_run_of_any (by decide +kernel)
  obtain ⟨w, hrun, haddress, hany⟩ := hends
  obtain ⟨n, hstep, hstarts⟩ := (Option.any_eq_true _ _).mp hany
  exact ⟨w, n, hrun, hstep, addressed_of_patient hpatient hrun trivial hstep, haddress,
    of_decide_eq_true hstarts⟩

end UsbSec.Host
