import UsbSec.Device.Wired
import UsbSec.Rp2040.Arming

/-!
# Transfers and the payloads they read

`handle_spi_slave_event` frees the payload of a message when it returns, and the transfer that it
has started may keep a pointer into it. As long as each payload fits one packet of its endpoint the
whole of it is in the DPRAM by then, and no transfer ever reads a freed payload.
-/

namespace UsbSec.Device

open Library Usb Rp2040

/-- No endpoint has anything left to read from a payload. -/
def AllSettled (d : Dcd) : Prop := ∀ num dirIn, Settled (d.hwEndpoints num dirIn)

/-! ## Programs that use no payload -/

theorem withEndpoint_settled {α : Type} (num : Nat) (dirIn : Bool) {engine : Engine α}
    (h : ∀ c, Settled c.ep → Settled (Program.final (engine c)).ep) :
    Program.Moves (Program.Keeps AllSettled) (withEndpoint num dirIn engine) := by
  intro d hd other dir
  unfold withEndpoint
  rw [Program.final_onPart]
  by_cases hsame : other = num ∧ dir = dirIn
  · obtain ⟨rfl, rfl⟩ := hsame
    show Settled ((Dcd.setEndpoint d other dir _).hwEndpoints other dir)
    rw [Dcd.setEndpoint_same]
    exact h _ (hd other dir)
  · show Settled ((Dcd.setEndpoint d num dirIn _).hwEndpoints other dir)
    rw [Dcd.setEndpoint_other _ _ hsame]
    exact hd other dir

theorem dcdEdptXferNew_settled {buffer : UserBuf} (h : ¬ buffer.IsPayload) (epAddr : UInt8)
    (totalBytes : UInt16) :
    Program.Moves (Program.Keeps AllSettled) (dcdEdptXferNew epAddr buffer totalBytes) := by
  refine .bind (.bind (.require _ _) fun _ => .pure _) fun place => ?_
  refine withEndpoint_settled _ _ fun c _ hpayload => ?_
  exact absurd hpayload (hwEndpointXferStart_noPayload h totalBytes c)

theorem resetEp0Pid_settled : Program.Moves (Program.Keeps AllSettled) resetEp0Pid :=
  .bind (withEndpoint_settled _ _ fun _ => id) fun _ => withEndpoint_settled _ _ fun _ => id

theorem resetNonControlEndpoints_settled :
    Program.Moves (Program.Keeps AllSettled) resetNonControlEndpoints := by
  intro d hd num dirIn
  show Settled (if 1 ≤ num ∧ num < usbMaxEndpoints then HwEndpoint.zero else d.hwEndpoints num dirIn)
  split
  · exact fun _ => rfl
  · exact hd num dirIn

theorem hwEndpointAlloc_settled (num : Nat) (dirIn : Bool) (transferType : UInt8) :
    Program.Moves (Program.Keeps AllSettled) (hwEndpointAlloc num dirIn transferType) := by
  refine .bind .read fun d => .bind (withEndpoint_settled _ _ fun _ => id) fun _ => ?_
  refine .bind (.update fun _ => id) fun _ => .bind (.require _ _) fun _ => ?_
  exact .bind (.require _ _) fun _ => .update fun _ => id

theorem hwEndpointInit_settled (epAddr : UInt8) (wMaxPacketSize : UInt16) (transferType : UInt8) :
    Program.Moves (Program.Keeps AllSettled)
      (hwEndpointInit epAddr wMaxPacketSize transferType) := by
  refine .bind (.bind (.require _ _) fun _ => .pure _) fun place => ?_
  refine .bind (withEndpoint_settled _ _ fun _ => id) fun _ => .bind (.update fun _ => id) fun _ => ?_
  refine .ite (withEndpoint_settled _ _ fun _ => id) ?_
  exact .bind (withEndpoint_settled _ _ fun _ => id) fun _ => hwEndpointAlloc_settled _ _ _

theorem dcdEdptOpenNew_settled (desc : EndpointPointer) :
    Program.Moves (Program.Keeps AllSettled) (dcdEdptOpenNew desc) := hwEndpointInit_settled _ _ _

/-- All endpoints of the master are done with their payloads. -/
def Master.Settled (s : Master) : Prop := AllSettled s.dcd

theorem onDcd_settled {α : Type} {program : DcdM α}
    (h : Program.Moves (Program.Keeps AllSettled) program) :
    Program.Moves (Program.Keeps Master.Settled) (onDcd program) :=
  Program.Moves.onPart_of h fun _ _ hkeeps => hkeeps

/-- What leaves the endpoints alone keeps them settled. -/
theorem update_settled {change : Master → Master}
    (h : ∀ s, (change s).dcd.hwEndpoints = s.dcd.hwEndpoints) :
    Program.Moves (Program.Keeps Master.Settled) (Program.update change : MasterM Unit) := by
  refine Program.Moves.update fun s hs num dirIn => ?_
  rw [h s]
  exact hs num dirIn

theorem enqueueSpiMessage_settled (message : SpiMessage) :
    Program.Moves (Program.Keeps Master.Settled) (enqueueSpiMessage message) :=
  update_settled fun _ => rfl

theorem handleDeviceXferCompleteWithDriver_settled (edpt : UInt8) (xferredBytes : UInt16) :
    Program.Moves (Program.Keeps Master.Settled)
      (handleDeviceXferCompleteWithDriver edpt xferredBytes) := by
  refine .bind .read fun s => .bind (.require _ _) fun _ => ?_
  cases s.drivers.edptDriver (idx edpt).toNat with
  | illegal => exact .stop _
  | hid => exact .bind .read fun _ => enqueueSpiMessage_settled _
  | massStorage =>
      refine .bind .read fun s => .ite ?_ (.when (enqueueSpiMessage_settled _))
      refine .bind (update_settled fun _ => rfl) fun _ => .bind (.require _ _) fun _ => ?_
      exact .bind (update_settled fun _ => rfl) fun _ => .bind .read fun _ =>
        enqueueSpiMessage_settled _

theorem hwHandleBuffStatusBit_settled (i : Nat) :
    Program.Moves (Program.Keeps Master.Settled) (hwHandleBuffStatusBit i) := by
  refine .bind (update_settled fun _ => rfl) fun _ => ?_
  refine .bind (.bind (update_settled fun _ => rfl) fun _ => onDcd_settled
    (withEndpoint_settled _ _ fun c hc => (hwEndpointXferContinue_settled c hc).1))
    fun done => .when (.bind .read fun s => ?_)
  refine .bind (.bind .read fun s => .ite ?_ (.ite (.pure _) ?_)) fun _ => ?_
  · exact onDcd_settled (.ite (.update fun _ => id) (.pure _))
  · exact handleDeviceXferCompleteWithDriver_settled _ _
  · exact onDcd_settled (withEndpoint_settled _ _ fun _ _ _ => rfl)

theorem handleSetupReq_settled : Program.Moves (Program.Keeps Master.Settled) handleSetupReq := by
  refine .bind (onDcd_settled resetEp0Pid_settled) fun _ => .bind .read fun s => ?_
  refine .bind (update_settled fun _ => rfl) fun _ => .bind (update_settled fun _ => rfl) fun _ => ?_
  refine .ite (enqueueSpiMessage_settled _) ?_
  refine .ite (onDcd_settled (dcdEdptXferNew_settled id _ _)) ?_
  exact .ite (onDcd_settled (dcdEdptXferNew_settled id _ _)) (enqueueSpiMessage_settled _)

theorem dcdRp2040Irq_settled (ints : DcdInts) :
    Program.Moves (Program.Keeps Master.Settled) (dcdRp2040Irq ints) := by
  refine .bind (.when ?_) fun _ => .bind (.when handleSetupReq_settled) fun _ =>
    .when (hwHandleBuffStatus_moves hwHandleBuffStatusBit_settled)
  refine .bind (update_settled fun _ => rfl) fun _ => ?_
  refine .bind (onDcd_settled resetNonControlEndpoints_settled) fun _ => ?_
  exact .bind (update_settled fun _ => rfl) fun _ => enqueueSpiMessage_settled _

/-! ## Transfers from a payload -/

/-- The transfer fits one packet of its endpoint, and the length of what is sent fits the length
field. -/
def FitsPacket (ep : HwEndpoint) (length : UInt16) : Prop :=
  length ≤ ep.wMaxPacketSize ∧ (ep.rx = false → length.toNat < 1024)

instance (ep : HwEndpoint) (length : UInt16) : Decidable (FitsPacket ep length) :=
  inferInstanceAs (Decidable (_ ∧ (_ → _)))

/-- The buffer of the endpoint is armed with these bytes, for the host to take. -/
structure Offers (bytes : List UInt8) (ep : HwEndpoint) (memory : Memory) : Prop where
  word : ∀ offset, ep.bufferControl = some offset →
    ArmsBuffer false bytes.length (memory.word offset)
  data : ∀ base, ep.hwDataBuf = some base → memory.data.bytesAt base bytes.length = bytes

/-- The bytes are loaded for the host, if the endpoint sends. -/
def OffersIfSending (bytes : List UInt8) (num : Nat) (dirIn : Bool) (d : Dcd) : Prop :=
  (d.hwEndpoints num dirIn).rx = false → Offers bytes (d.hwEndpoints num dirIn) d.memory

/-- A channel whose buffer is armed with the bytes loaded from a payload. -/
theorem offers_of_armed {payload : List UInt8} {length : UInt16} {c : Channel} {word : BitVec 32}
    (hrx : c.ep.rx = false) (hword : ArmsBuffer c.ep.rx length.toNat word)
    (hcan : CanLoad (.payload payload 0) length c.ep) {ep : HwEndpoint}
    (hfixed : ep.fixed = c.ep.fixed) :
    Offers (payload.take length.toNat) ep
      (armedMemory word c (loadedMemory (.payload payload 0) length c)) := by
  have hshape : ep.shape = c.ep.shape := shape_of_fixed hfixed
  have hbuffer : ep.bufferControl = c.ep.bufferControl := congrArg Shape.bufferControl hshape
  have hdata : ep.hwDataBuf = c.ep.hwDataBuf := congrArg Shape.hwDataBuf hshape
  have hlength : (payload.take length.toNat).length = length.toNat :=
    UserBuf.length_bytes (hcan hrx).1 c.memory
  constructor
  · intro offset hoffset
    rw [hlength, ← hrx, armedMemory, ← hbuffer, hoffset, Memory.writeWord_same]
    exact hword
  · intro base hbase
    have hloaded : (armedMemory word c (loadedMemory (.payload payload 0) length c)).data =
        c.memory.data.writeAt base (payload.take length.toNat) := by
      unfold armedMemory
      rw [(writeWord_sameData _ _ _).data, (writeWord_sameData _ _ _).data, loadedMemory,
        if_neg (by simp [hrx]), ← hdata, hbase]
      rfl
    rw [hloaded, Buffer.bytesAt_writeAt_same]

/-- The engine has armed the buffer with the bytes of a payload and is done with it. -/
def ArmedFrom (payload : List UInt8) (length : UInt16) (c d : Channel) : Prop :=
  CanLoad (.payload payload 0) length c.ep ∧ ∃ word,
    (c.ep.rx = false → ArmsBuffer c.ep.rx length.toNat word) ∧ d.ep.fixed = c.ep.fixed ∧
      d.ep.remainingLen = 0 ∧ d.memory = armedMemory word c (loadedMemory (.payload payload 0) length c)

theorem hwEndpointXferStart_armedFrom {payload : List UInt8} {length : UInt16} {c : Channel}
    (hfits : FitsPacket c.ep length) :
    Program.Outcome (hwEndpointXferStart .master (.payload payload 0) length) c
      (fun _ d => ArmedFrom payload length c d) fun _ => True := by
  refine (hwEndpointXferStart_whole hfits.1).mono (fun _ d hd => ?_) fun _ _ => trivial
  obtain ⟨hcan, rfl⟩ := hd
  exact ⟨hcan, _, fun hrx => wholeWord_arms _ (hfits.2 hrx), rfl, rfl, rfl⟩

theorem hwEndpointXferPartial_armedFrom {payload : List UInt8} {length : UInt16} {c : Channel}
    (hshort : tuEdptDirIn c.ep.epAddr = false → length ≤ c.ep.wMaxPacketSize)
    (hlength : c.ep.rx = false → length.toNat < 1024) :
    Program.Outcome (hwEndpointXferPartial .master (.payload payload 0) length) c
      (fun _ d => ArmedFrom payload length c d) fun _ => True := by
  refine (hwEndpointXferPartial_whole hshort).mono (fun _ d hd => ?_) fun _ _ => trivial
  obtain ⟨-, hcan, rfl⟩ := hd
  exact ⟨hcan, _, fun hrx => partWord_arms _ (hlength hrx), rfl, rfl, rfl⟩

/-- A transfer of one packet is done with its payload at once. -/
theorem withEndpoint_armedFrom {num : Nat} {dirIn : Bool} {engine : Engine Unit}
    {payload : List UInt8} {length : UInt16} {d : Dcd} (hd : AllSettled d)
    (h : Program.Outcome engine ⟨d.hwEndpoints num dirIn, d.memory⟩
      (fun _ c => ArmedFrom payload length ⟨d.hwEndpoints num dirIn, d.memory⟩ c) fun _ => True) :
    Program.Outcome (withEndpoint num dirIn engine) d
      (fun _ e => AllSettled e ∧ OffersIfSending (payload.take length.toNat) num dirIn e)
      fun _ => True := by
  refine .onPart h (fun _ c hc => ?_) fun _ _ => trivial
  obtain ⟨hcan, word, hword, hfixed, hremaining, hmemory⟩ := hc
  constructor
  · intro other dir
    by_cases hsame : other = num ∧ dir = dirIn
    · obtain ⟨rfl, rfl⟩ := hsame
      show Settled ((Dcd.setEndpoint d other dir c.ep).hwEndpoints other dir)
      rw [Dcd.setEndpoint_same]
      exact fun _ => hremaining
    · show Settled ((Dcd.setEndpoint d num dirIn c.ep).hwEndpoints other dir)
      rw [Dcd.setEndpoint_other _ _ hsame]
      exact hd other dir
  · show ((Dcd.setEndpoint d num dirIn c.ep).hwEndpoints num dirIn).rx = false →
      Offers _ ((Dcd.setEndpoint d num dirIn c.ep).hwEndpoints num dirIn) c.memory
    rw [Dcd.setEndpoint_same, hmemory]
    intro hsends
    have hrx : (d.hwEndpoints num dirIn).rx = false :=
      by
      rw [← hsends]
      exact (eq_of_fixed (fun _ => rfl) hfixed).symm
    exact offers_of_armed hrx (hword hrx) hcan hfixed

theorem dcdEdptXferNew_payload {epAddr : UInt8} (payload : List UInt8) {length : UInt16} {d : Dcd}
    (hd : AllSettled d)
    (hfits : FitsPacket (d.hwEndpoints (tuEdptNumber epAddr).toNat (tuEdptDirIn epAddr)) length) :
    Program.Outcome (dcdEdptXferNew epAddr (.payload payload 0) length) d
      (fun _ e => (tuEdptNumber epAddr).toNat < usbMaxEndpoints ∧ AllSettled e ∧
        OffersIfSending (payload.take length.toNat) (tuEdptNumber epAddr).toNat
          (tuEdptDirIn epAddr) e) fun _ => True := by
  by_cases hnum : (tuEdptNumber epAddr).toNat < usbMaxEndpoints
  · refine .of_eq (dcdEdptXferNew_apply hnum _ _ d) ?_
    exact (withEndpoint_armedFrom hd (hwEndpointXferStart_armedFrom hfits)).mono
      (fun _ _ he => ⟨hnum, he⟩) fun _ _ => trivial
  · exact .of_error (Program.bind_error (Program.require_stops hnum _ _ d)) trivial

theorem dcdEdptXferPartial_payload {epAddr : UInt8} (payload : List UInt8) {length : UInt16}
    {d : Dcd} (hd : AllSettled d)
    (hshort : tuEdptDirIn (d.hwEndpoints (tuEdptNumber epAddr).toNat
      (tuEdptDirIn epAddr)).epAddr = false → length ≤ (d.hwEndpoints (tuEdptNumber epAddr).toNat
        (tuEdptDirIn epAddr)).wMaxPacketSize)
    (hlength : (d.hwEndpoints (tuEdptNumber epAddr).toNat (tuEdptDirIn epAddr)).rx = false →
      length.toNat < 1024) :
    Program.Outcome (dcdEdptXferPartial epAddr (.payload payload 0) length) d
      (fun _ e => (tuEdptNumber epAddr).toNat < usbMaxEndpoints ∧ AllSettled e ∧
        OffersIfSending (payload.take length.toNat) (tuEdptNumber epAddr).toNat
          (tuEdptDirIn epAddr) e) fun _ => True := by
  by_cases hnum : (tuEdptNumber epAddr).toNat < usbMaxEndpoints
  · refine .of_eq (Program.bind_ok (hwEndpointGetByAddr_apply hnum d)) ?_
    exact (withEndpoint_armedFrom hd (hwEndpointXferPartial_armedFrom hshort hlength)).mono
      (fun _ _ he => ⟨hnum, he⟩) fun _ _ => trivial
  · exact .of_error (Program.bind_error (Program.require_stops hnum _ _ d)) trivial

/-! ## Replies on endpoint 0 -/

theorem offersIfSending_control {bytes : List UInt8} {d : Dcd} (hd : Wired d) :
    OffersIfSending bytes 0 true d ↔
      ArmsBuffer false bytes.length (d.memory.word (epBufCtrl 0 true)) ∧
        d.memory.data.bytesAt ep0BufA bytes.length = bytes := by
  have hcontrol := hd.control true
  constructor
  · intro h
    have hoffers := h hcontrol.rx
    exact ⟨hoffers.word _ hcontrol.bufferControl, hoffers.data _ hcontrol.hwDataBuf⟩
  · rintro ⟨hword, hdata⟩ -
    constructor
    · intro offset hoffset
      cases hcontrol.bufferControl.symm.trans hoffset
      exact hword
    · intro base hbase
      cases hcontrol.hwDataBuf.symm.trans hbase
      exact hdata

/-- A reply is offered on endpoint 0, unless endpoint 0 was set up anew since. -/
structure ReplyOffered (bytes : List UInt8) (d : Dcd) : Prop where
  wired : Wired d
  settled : AllSettled d
  offered : OffersIfSending bytes 0 true d ∨ d.memory.word (epBufCtrl 0 true) = 0

/-- What leaves the data and the register of the reply alone, or clears the register, keeps it
offered. -/
theorem ReplyOffered.of_same {bytes : List UInt8} {d e : Dcd} (h : ReplyOffered bytes d)
    (hwired : Wired e) (hsettled : AllSettled e) (hdata : e.memory.data = d.memory.data)
    (hword : e.memory.word (epBufCtrl 0 true) = d.memory.word (epBufCtrl 0 true) ∨
      e.memory.word (epBufCtrl 0 true) = 0) : ReplyOffered bytes e := by
  refine ⟨hwired, hsettled, ?_⟩
  rcases hword with hsame | hcleared
  · rcases h.offered with hoffers | hzero
    · obtain ⟨harms, hbytes⟩ := (offersIfSending_control h.wired).mp hoffers
      exact .inl ((offersIfSending_control hwired).mpr ⟨hsame ▸ harms, hdata ▸ hbytes⟩)
    · exact .inr (hsame.trans hzero)
  · exact .inr hcleared

theorem dcdEdptOpenNew_replyOffered {bytes : List UInt8} {desc : EndpointPointer} {d e : Dcd}
    (h : ReplyOffered bytes d) (hrun : dcdEdptOpenNew desc d = .ok () e) :
    ReplyOffered bytes e ∧
      (e.hwEndpoints (tuEdptNumber desc.bEndpointAddress).toNat
        (tuEdptDirIn desc.bEndpointAddress)).rx = !tuEdptDirIn desc.bEndpointAddress := by
  obtain ⟨hnum, hsetUp⟩ := hwEndpointInit_setUp hrun
  have hsettled : AllSettled e := (dcdEdptOpenNew_settled desc).ok hrun h.settled
  refine ⟨h.of_same (hsetUp.wired h.wired) hsettled hsetUp.memory.data ?_, hsetUp.rx⟩
  by_cases hsame : 0 = (tuEdptNumber desc.bEndpointAddress).toNat ∧
      true = tuEdptDirIn desc.bEndpointAddress
  · have hcleared := hsetUp.cleared
    rw [← hsame.1, ← hsame.2] at hcleared
    exact .inr hcleared
  · exact .inl (hsetUp.others _ (notOwn_epBufCtrl hnum hsame))

/-- A transfer from the host leaves the reply alone. -/
theorem dcdEdptXferNew_replyOffered {bytes : List UInt8} {epAddr : UInt8} {buffer : UserBuf}
    (hbuffer : ¬ buffer.IsPayload) (totalBytes : UInt16) {d e : Dcd} (h : ReplyOffered bytes d)
    (hdir : tuEdptDirIn epAddr = false)
    (hrx : (d.hwEndpoints (tuEdptNumber epAddr).toNat false).rx = true)
    (hrun : dcdEdptXferNew epAddr buffer totalBytes d = .ok () e) : ReplyOffered bytes e := by
  have hwired : Wired e := h.wired.of_progress ((dcdEdptXferNew_only_progress _ _ _).ok hrun)
  have hsettled : AllSettled e := (dcdEdptXferNew_settled hbuffer _ _).ok hrun h.settled
  obtain ⟨place, _, haddr, -⟩ := Program.bind_eq_ok hrun
  obtain ⟨hnum, -, -⟩ := hwEndpointGetByAddr_ok haddr
  rw [dcdEdptXferNew_apply hnum, hdir] at hrun
  have hothers := withEndpoint_sameOthers (hwEndpointXferStart_writes_own buffer totalBytes)
    (h.wired.own _ hnum false)
  rw [hrun] at hothers
  obtain ⟨c, hc, rfl⟩ := Program.onPart_eq_ok hrun
  have hdata := ((hwEndpointXferStart_keeps_data buffer totalBytes).ok hc hrx).2
  refine h.of_same hwired hsettled hdata (.inl (hothers _ (notOwn_epBufCtrl hnum ?_)))
  exact fun hsame => absurd hsame.2 (by decide)

/-- The reply is offered by the master. -/
def Master.Offering (bytes : List UInt8) (s : Master) : Prop := ReplyOffered bytes s.dcd

theorem update_offering {bytes : List UInt8} {change : Master → Master}
    (h : ∀ s, (change s).dcd = s.dcd) :
    Program.Moves (Program.Keeps (Master.Offering bytes)) (Program.update change : MasterM Unit) := by
  refine Program.Moves.update fun s hs => ?_
  unfold Master.Offering
  rw [h s]
  exact hs

theorem registerDriverForEdpt_offering {bytes : List UInt8} {edpt : EndpointPointer}
    {itf : Option InterfaceDescriptor} {newMps : UInt8} {s : Master} (hs : s.Offering bytes)
    (hrx : (s.hwEndpoint edpt.bEndpointAddress).rx = !tuEdptDirIn edpt.bEndpointAddress) :
    Program.Outcome (registerDriverForEdpt edpt itf newMps) s (fun _ t => t.Offering bytes)
      fun _ => True := by
  refine .of_eq (Program.update_bind _ _ _) ?_
  cases itf with
  | none => exact .stop trivial
  | some descriptor =>
      refine .of_eq (Program.update_bind _ _ _) (.require_bind (fun _ => ?_) fun _ => trivial)
      refine .of_eq (Program.update_bind _ _ _) (.ite (fun _ => .of_ok rfl hs) fun _ => ?_)
      refine .ite (fun _ => .of_eq (Program.update_bind _ _ _) ?_) fun _ => .stop trivial
      refine .ite (fun hout => ?_) fun _ => .of_ok rfl hs
      have hdir : tuEdptDirIn edpt.bEndpointAddress = false := by simp [tuEdptDirIn, hout]
      unfold Master.hwEndpoint at hrx
      rw [hdir] at hrx
      have hmaster (t : Master) (h : ReplyOffered bytes t.dcd) : t.Offering bytes := h
      refine .onPart (P := fun _ e => ReplyOffered bytes e) (F := fun _ => True) ?_
        (fun _ e he => hmaster _ he) fun _ _ => trivial
      cases hrun : dcdEdptXferNew edpt.bEndpointAddress (.bugger 0) 64 s.dcd with
      | ok value e => exact .of_ok hrun (dcdEdptXferNew_replyOffered id 64 hs hdir hrx hrun)
      | error reason e => exact .of_error hrun trivial

theorem openEndpoint_offering {bytes : List UInt8} (arr : Buffer) (pos : Nat) (itf : Option Nat)
    {s : Master} (hs : s.Offering bytes) :
    Program.Outcome (openEndpoint arr pos itf) s (fun _ t => t.Offering bytes) fun _ => True := by
  refine .of_eq (Program.update_bind _ _ _) ?_
  refine .bind (P := fun _ t => t.Offering bytes ∧
    (t.hwEndpoint (EndpointPointer.bEndpointAddress ⟨arr, pos⟩)).rx =
      !tuEdptDirIn (EndpointPointer.bEndpointAddress ⟨arr, pos⟩)) ?_ fun _ t ht => ?_
  · refine .onPart (P := fun _ e => ReplyOffered bytes e ∧
      (e.hwEndpoints (tuEdptNumber (EndpointPointer.bEndpointAddress ⟨arr, pos⟩)).toNat
        (tuEdptDirIn (EndpointPointer.bEndpointAddress ⟨arr, pos⟩))).rx =
          !tuEdptDirIn (EndpointPointer.bEndpointAddress ⟨arr, pos⟩)) (F := fun _ => True) ?_
      (fun _ e he => he) fun _ _ => trivial
    cases hrun : dcdEdptOpenNew ⟨arr, pos⟩ s.dcd with
    | ok value e => exact .of_ok hrun (dcdEdptOpenNew_replyOffered hs hrun)
    | error reason e => exact .of_error hrun trivial
  · refine .read_bind (.bind (registerDriverForEdpt_offering ht.1 ht.2) fun _ u hu => ?_)
    exact .of_ok rfl hu

theorem walk_offering {bytes : List UInt8} (arr : Buffer) (len fuel pos : Nat) (itf : Option Nat)
    {s : Master} (hs : s.Offering bytes) :
    Program.Outcome (walk arr len fuel pos itf) s (fun _ t => t.Offering bytes) fun _ => True := by
  induction fuel generalizing pos itf s with
  | zero => exact .ite (fun _ => .stop trivial) fun _ => .pure hs
  | succ fuel ih =>
      refine .ite (fun _ => ?_) fun _ => .pure hs
      refine .bind (.when (fun _ => openEndpoint_offering _ _ _ hs) fun _ => hs) fun _ t ht => ?_
      exact ih _ _ ht

theorem handleSetupResponse_offering {bytes : List UInt8} {s : Master} (hs : s.Offering bytes) :
    Program.Outcome handleSetupResponse s (fun _ t => t.Offering bytes) fun _ => True := by
  have hdevice (arr : Buffer) :
      Program.Moves (Program.Keeps (Master.Offering bytes)) (handleDeviceDescriptor arr) :=
    .bind (update_offering fun _ => rfl) fun _ => .bind (update_offering fun _ => rfl) fun _ =>
      update_offering fun _ => rfl
  have hreport (setup : ControlRequest) :
      Program.Moves (Program.Keeps (Master.Offering bytes)) (handleHidReport setup) :=
    .when (.bind .read fun _ => update_offering fun _ => rfl)
  refine .read_bind (.of_eq (Program.update_bind _ _ _) ?_)
  refine .bind (P := fun _ t => t.Offering bytes) ?_ fun _ t ht => .ite (fun _ => .pure ht) fun _ => ?_
  · exact .of_moves (.when (hdevice _)) (fun _ _ h => h hs) fun _ _ => trivial
  · refine .bind (.when (fun _ => walk_offering _ _ _ _ _ ht) fun _ => ht) fun _ u hu => ?_
    exact .of_moves (hreport _) (fun _ _ h => h hu) fun _ _ => trivial

/-! ## Messages that fit -/

/-- The message is handed to a driver that starts a transfer from its payload. -/
def TakesPayload (s : Master) (epAddr : UInt8) : Prop :=
  ¬ IsKeyboard (s.drivers.itfCopy (idx epAddr).toNat) ∧
    (s.drivers.edptDriver (idx epAddr).toNat = .hid ∨
      s.drivers.edptDriver (idx epAddr).toNat = .massStorage ∧ epAddr &&& 0x80 ≠ 0)

instance (s : Master) (epAddr : UInt8) : Decidable (TakesPayload s epAddr) :=
  inferInstanceAs (Decidable (¬ _ ∧ (_ ∨ _ ∧ _)))

/-- The transfer that a driver starts fits one packet. A mass-storage transfer that does not stops
the master before the payload is freed, unless the endpoint is closed. -/
def FitsDriver (s : Master) (epAddr : UInt8) (length : UInt16) : Prop :=
  if s.drivers.edptDriver (idx epAddr).toNat = .massStorage ∧
      tuEdptDirIn (s.hwEndpoint epAddr).epAddr then length.toNat < 1024
  else FitsPacket (s.hwEndpoint epAddr) length

instance (s : Master) (epAddr : UInt8) (length : UInt16) : Decidable (FitsDriver s epAddr length) :=
  inferInstanceAs (Decidable (ite _ _ _))

/-- A message for the endpoint, when all of it is sent in one packet. -/
def MessageFits (s : Master) (msg : SpiMessage) (epAddr : UInt8) : Prop :=
  if hasFlag msg.eFlag MsgType.setupData then
    FitsPacket (s.hwEndpoint 0x80) (handlerPacket msg).payloadLength
  else TakesPayload s epAddr → FitsDriver s epAddr (handlerPacket msg).payloadLength

instance (s : Master) (msg : SpiMessage) (epAddr : UInt8) : Decidable (MessageFits s msg epAddr) :=
  inferInstanceAs (Decidable (ite _ _ (_ → _)))

/-- The message that is about to be dequeued fits one packet of its endpoint. -/
def NextFits (s : Master) : Prop :=
  ∀ msg ∈ s.nextMessage, hasFlag msg.eFlag MsgType.isPacket →
    ∀ epAddr ∈ msg.payload.getLast?, MessageFits s msg epAddr

instance (s : Master) : Decidable (NextFits s) :=
  inferInstanceAs (Decidable (∀ _ ∈ _, _ → ∀ _ ∈ _, _))

/-- After the message is handled, the bytes of it that are to be sent lie in the DPRAM: a reply in
the buffer of endpoint 0, unless endpoint 0 was set up anew while the reply was interpreted, and a
packet in the buffer of its IN endpoint. -/
def SendsWhole (msg : SpiMessage) (epAddr : UInt8) (s t : Master) : Prop :=
  if hasFlag msg.eFlag MsgType.setupData then
    Offers (handlerPacket msg).data (t.hwEndpoint 0x80) t.dcd.memory ∨
      t.dcd.memory.word (epBufCtrl 0 true) = 0
  else TakesPayload s epAddr → tuEdptDirIn epAddr = true →
    Offers (handlerPacket msg).data (t.hwEndpoint epAddr) t.dcd.memory

theorem registerResponse_offering {message : SlavePacket} {s : Master} (hwired : Wired s.dcd)
    (hsettled : s.Settled) (hfits : FitsPacket (s.hwEndpoint 0x80) message.payloadLength) :
    Program.Outcome (registerResponse message) s (fun _ t => t.Offering message.data)
      fun _ => True := by
  refine .read_bind (.require_bind (fun _ => ?_) fun _ => trivial)
  refine .of_eq (Program.update_bind _ _ _) ?_
  have hxfer := dcdEdptXferNew_payload message.payload hsettled hfits
  refine .bind (P := fun _ t => t.Offering message.data) ?_ fun _ t ht => .of_ok rfl ht
  refine .onPart (hxfer.and_moves (dcdEdptXferNew_only_progress _ _ _) fun _ _ _ => trivial)
    (fun _ e he => ?_) fun _ _ => trivial
  obtain ⟨⟨-, hsettled, hoffers⟩, hprogress⟩ := he
  exact ⟨hwired.of_progress hprogress, hsettled, .inl hoffers⟩

theorem handleSetupData_offering {message : SlavePacket} {s : Master} (hwired : Wired s.dcd)
    (hsettled : s.Settled) (hfits : FitsPacket (s.hwEndpoint 0x80) message.payloadLength) :
    Program.Outcome (handleSetupData message) s (fun _ t => t.Offering message.data)
      fun _ => True := by
  refine .bind (registerResponse_offering hwired hsettled hfits) fun _ t ht => ?_
  refine .when (P := fun _ => Master.Offering message.data) (fun _ => ?_) fun _ => ht
  refine .bind (handleSetupResponse_offering ht) fun _ u hu => ?_
  refine .of_eq (Program.update_bind _ _ _) (.read_bind (.when (fun _ => ?_) fun _ => hu))
  have hmaster (t : Master) (h : ReplyOffered message.data t.dcd) : t.Offering message.data := h
  refine .onPart (P := fun _ e => ReplyOffered message.data e) (F := fun _ => True) ?_
    (fun _ e he => hmaster _ he) fun _ _ => trivial
  have hrx : (u.dcd.hwEndpoints (tuEdptNumber 0x00).toNat false).rx = true :=
    (hu.wired.control false).rx
  cases hrun : dcdEdptXferNew 0x00 .null 0 u.dcd with
  | ok value e => exact .of_ok hrun (dcdEdptXferNew_replyOffered id 0 hu rfl hrx hrun)
  | error reason e => exact .of_error hrun trivial

/-- The message is done with: its bytes are offered if they were to be sent. -/
def PayloadTaken (message : SlavePacket) (epAddr : UInt8) (takes : Prop) (t : Master) : Prop :=
  t.Settled ∧ (takes → (tuEdptNumber epAddr).toNat < usbMaxEndpoints ∧
    OffersIfSending message.data (tuEdptNumber epAddr).toNat (tuEdptDirIn epAddr) t.dcd)

theorem hidSpi_fits {message : SlavePacket} {epAddr : UInt8} {s : Master} (hsettled : s.Settled)
    (hfits : FitsPacket (s.hwEndpoint epAddr) message.payloadLength) (takes : Prop) :
    Program.Outcome (hidSpi message epAddr) s
      (fun _ t => PayloadTaken message epAddr takes t) fun _ => True := by
  refine .of_eq (Program.update_bind _ _ _) ?_
  refine .onPart (dcdEdptXferNew_payload message.payload hsettled hfits)
    (fun _ e he => ?_) fun _ _ => trivial
  exact ⟨he.2.1, fun _ => ⟨he.1, he.2.2⟩⟩

theorem mscSpi_fits {message : SlavePacket} {epAddr : UInt8} {s : Master} (hsettled : s.Settled)
    (hfits : epAddr &&& 0x80 ≠ 0 →
      if tuEdptDirIn (s.hwEndpoint epAddr).epAddr then message.payloadLength.toNat < 1024
      else FitsPacket (s.hwEndpoint epAddr) message.payloadLength) :
    Program.Outcome (mscSpi message epAddr) s
      (fun _ t => PayloadTaken message epAddr (epAddr &&& 0x80 ≠ 0) t) fun _ => True := by
  refine .of_eq (Program.update_bind _ _ _) (.ite (fun hout => ?_) fun hin => ?_)
  · -- An OUT endpoint is armed for the next packet of the host.
    have hmoves : Program.Moves (Program.Keeps Master.Settled) (do
        let s ← Program.read
        knockOnSlaveEdpt s.drivers.otherEdpt s.drivers.bMaxPacketSize
        onDcd (dcdEdptXferNew epAddr (.bugger 0) s.drivers.bMaxPacketSize.toUInt16)) :=
      .bind .read fun s => .bind (enqueueSpiMessage_settled _) fun _ =>
        onDcd_settled (dcdEdptXferNew_settled id _ _)
    refine .of_moves hmoves (fun _ t ht => ⟨ht hsettled, fun hne => absurd hout hne⟩)
      fun _ _ => trivial
  · have hpacket := hfits hin
    refine .of_eq (Program.update_bind _ _ _) ?_
    refine .onPart (dcdEdptXferPartial_payload message.payload hsettled
      (fun hdir => ?_) fun hrx => ?_) (fun _ e he => ?_) fun _ _ => trivial
    · have hclosed : tuEdptDirIn (s.hwEndpoint epAddr).epAddr = false := hdir
      rw [hclosed] at hpacket
      exact hpacket.1
    · have hsends : (s.hwEndpoint epAddr).rx = false := hrx
      split at hpacket
      · exact hpacket
      · exact hpacket.2 hsends
    · exact ⟨he.2.1, fun _ => ⟨he.1, he.2.2⟩⟩

theorem handleSpiSlaveEventWithDriver_fits {message : SlavePacket} {epAddr : UInt8} {s : Master}
    (hsettled : s.Settled)
    (hfits : TakesPayload s epAddr → FitsDriver s epAddr message.payloadLength) :
    Program.Outcome (handleSpiSlaveEventWithDriver message epAddr) s
      (fun _ t => PayloadTaken message epAddr (TakesPayload s epAddr) t) fun _ => True := by
  refine .read_bind (.require_bind (fun _ => ?_) fun _ => trivial)
  by_cases hkeyboard : IsKeyboard (s.drivers.itfCopy (idx epAddr).toNat)
  · rw [checkComm, Program.when_true hkeyboard]
    exact .of_error rfl trivial
  · rw [checkComm, Program.when_false hkeyboard]
    refine .of_eq (Program.pure_bind _ _ _) ?_
    cases hdriver : s.drivers.edptDriver (idx epAddr).toNat with
    | illegal => exact .of_error rfl trivial
    | hid =>
        have hpacket := hfits ⟨hkeyboard, .inl hdriver⟩
        unfold FitsDriver at hpacket
        rw [if_neg fun h => by rw [hdriver] at h; cases h.1] at hpacket
        exact hidSpi_fits hsettled hpacket _
    | massStorage =>
        refine (mscSpi_fits hsettled fun hin => ?_).mono (fun _ t ht => ?_) fun _ _ => trivial
        · have hpacket := hfits ⟨hkeyboard, .inr ⟨hdriver, hin⟩⟩
          unfold FitsDriver at hpacket
          simpa only [hdriver, true_and] using hpacket
        · refine ⟨ht.1, fun htakes => ht.2 ?_⟩
          rcases htakes.2 with hhid | hin
          · rw [hdriver] at hhid
            cases hhid
          · exact hin.2

theorem handleMessage_fits {msg : SpiMessage} {s : Master} (hwired : Wired s.dcd)
    (hsettled : s.Settled)
    (hfits : hasFlag msg.eFlag MsgType.isPacket →
      ∀ epAddr ∈ msg.payload.getLast?, MessageFits s msg epAddr) :
    Program.Outcome (handleMessage msg) s (fun _ t => t.Settled ∧ (Wired t.dcd →
      ∀ epAddr ∈ msg.payload.getLast?, SendsWhole msg epAddr s t)) fun _ => True := by
  unfold handleMessage
  cases hlast : msg.payload.getLast? with
  | none => exact .of_error rfl trivial
  | some epAddr =>
      refine .require_bind (fun hpacket => ?_) fun _ => trivial
      have hfit := hfits hpacket epAddr (by rw [hlast]; rfl)
      unfold MessageFits at hfit
      refine .ite (fun hsetup => ?_) fun hdata => ?_
      · rw [if_pos hsetup] at hfit
        refine (handleSetupData_offering hwired hsettled hfit).mono (fun _ t ht => ?_)
          fun _ _ => trivial
        refine ⟨ht.settled, fun ht' other hother => ?_⟩
        unfold SendsWhole
        rw [if_pos hsetup]
        exact ht.offered.imp (fun h => h (ht.wired.control true).rx) id
      · rw [if_neg hdata] at hfit
        refine (handleSpiSlaveEventWithDriver_fits hsettled hfit).mono (fun _ t ht => ?_)
          fun _ _ => trivial
        refine ⟨ht.1, fun ht' other hother => ?_⟩
        cases hother
        unfold SendsWhole
        rw [if_neg hdata]
        intro htakes hdir
        obtain ⟨hnum, hoffers⟩ := ht.2 htakes
        exact hoffers ((ht'.own _ hnum _).direction hdir)

theorem handleSpiSlaveEvent_fits {s t : Master} (hwired : s.Wired) (hsettled : s.Settled)
    (hfits : NextFits s) (hrun : handleSpiSlaveEvent s = .ok () t) :
    t.Settled ∧ ∀ msg ∈ s.nextMessage, ∀ epAddr ∈ msg.payload.getLast?, SendsWhole msg epAddr s t := by
  have htwired : t.Wired := handleSpiSlaveEvent_wired _ _ _ hrun hwired
  rcases handleSpiSlaveEvent_cases s with ⟨hnext, hpassed | hidle⟩ | ⟨msg, rest, hnext, -, hhandles⟩
  · cases hpassed.symm.trans hrun
    refine ⟨hsettled, fun msg hmsg => ?_⟩
    cases hnext.symm.trans hmsg
  · cases hidle.symm.trans hrun
    refine ⟨hsettled, fun msg hmsg => ?_⟩
    cases hnext.symm.trans hmsg
  · have hhandled := (handleMessage_fits (s := { s with rx := rest }) hwired hsettled
      fun hpacket => hfits msg hnext hpacket).ok (hhandles.symm.trans hrun)
    refine ⟨hhandled.1, fun other hother => ?_⟩
    cases hnext.symm.trans hother
    exact hhandled.2 htwired

/-! ## Runs -/

/-- Nothing more is read from the payload of a message: no endpoint that points into one has bytes
left to send, and handling the completed buffer of such an endpoint loads nothing. -/
structure DoneWithPayloads (d : Dcd) : Prop where
  remaining : ∀ num dirIn bytes offset,
    (d.hwEndpoints num dirIn).userBuf = .payload bytes offset →
      (d.hwEndpoints num dirIn).remainingLen = 0
  loads : ∀ num dirIn bytes offset,
    (d.hwEndpoints num dirIn).userBuf = .payload bytes offset →
      (Program.final (withEndpoint num dirIn (hwEndpointXferContinue .master) d)).memory.data =
        d.memory.data

theorem AllSettled.doneWithPayloads {d : Dcd} (h : AllSettled d) : DoneWithPayloads d := by
  constructor
  · intro num dirIn bytes offset hbuffer
    refine h num dirIn ?_
    rw [hbuffer]
    exact trivial
  · intro num dirIn bytes offset hbuffer
    unfold withEndpoint
    rw [Program.final_onPart]
    have hcontinue := hwEndpointXferContinue_settled ⟨d.hwEndpoints num dirIn, d.memory⟩ (h num dirIn)
    refine hcontinue.2 ?_
    show (d.hwEndpoints num dirIn).userBuf.IsPayload
    rw [hbuffer]
    exact trivial

/-- The message that is dequeued, if any, fits one packet of its endpoint. -/
def Fitting (m : Core0) : Event → Prop
  | .handleSpiSlaveEvent => NextFits m.master
  | _ => True

instance (m : Core0) : ∀ event, Decidable (Fitting m event)
  | .handleSpiSlaveEvent => inferInstanceAs (Decidable (NextFits _))
  | .dcdIrq => isTrue trivial
  | .hostSetup _ => isTrue trivial
  | .hostReset => isTrue trivial
  | .hostIn _ => isTrue trivial
  | .hostOut _ _ => isTrue trivial
  | .receive _ => isTrue trivial

/-- After the event nothing more is read from a payload, and when a message was handled, whose
payload is freed by then, its bytes lie in the DPRAM. -/
def OutlivesNothing (m : Core0) (event : Event) : Prop :=
  ∀ n, step m event = some n → DoneWithPayloads n.master.dcd ∧
    match event with
    | .handleSpiSlaveEvent => ∀ msg ∈ m.master.nextMessage, ∀ epAddr ∈ msg.payload.getLast?,
        SendsWhole msg epAddr m.master n.master
    | _ => True

theorem step_settled {m n : Core0} {event : Event} (hwired : m.master.Wired)
    (hsettled : m.master.Settled) (hfits : Fitting m event) (hstep : step m event = some n) :
    n.master.Settled := by
  cases event with
  | hostSetup packet =>
      cases hstep
      exact hsettled
  | hostReset =>
      cases hstep
      exact hsettled
  | hostIn num =>
      obtain ⟨d, hsend, rfl⟩ := Option.map_eq_some_iff.mp hstep
      intro other dirIn
      show Settled (d.hwEndpoints other dirIn)
      rw [sendIn_hwEndpoints hsend]
      exact hsettled other dirIn
  | hostOut num packet =>
      obtain ⟨d, hreceive, rfl⟩ := Option.map_eq_some_iff.mp hstep
      intro other dirIn
      show Settled (d.hwEndpoints other dirIn)
      rw [receiveOut_hwEndpoints hreceive]
      exact hsettled other dirIn
  | receive message =>
      obtain ⟨rx, -, rfl⟩ := Option.map_eq_some_iff.mp hstep
      exact hsettled
  | handleSpiSlaveEvent =>
      obtain ⟨t, hrun, rfl⟩ := runHandler_eq_some hstep
      exact (handleSpiSlaveEvent_fits hwired hsettled hfits hrun).1
  | dcdIrq =>
      obtain ⟨t, hrun, rfl⟩ := runHandler_eq_some hstep
      exact (dcdRp2040Irq_settled _).ok hrun hsettled

theorem init_settled (romWord : BitVec 32) : (Core0.init romWord).master.Settled := by
  have hinit : Program.Moves (Program.Keeps AllSettled) dcdInitNew :=
    .bind (hwEndpointInit_settled _ _ _) fun _ => .bind (hwEndpointInit_settled _ _ _) fun _ =>
      resetNonControlEndpoints_settled
  exact hinit (.cleared romWord) fun _ _ _ => rfl


/-- In every run in which each message fits one packet of its endpoint, no transfer outlives the
payload it reads, and the bytes sent are those of the message. -/
theorem outlivesNothing_of_fitting {romWord : BitVec 32} {events : List Event}
    (h : Machine.Guarded step Fitting (.init romWord) events) :
    Machine.Guarded step OutlivesNothing (.init romWord) events := by
  refine Machine.guarded_of_invariant (I := fun m => m.master.Wired ∧ m.master.Settled) ?_ ?_
    ⟨init_wired romWord, init_settled romWord⟩ h
  · exact fun m event n hm hfits hstep =>
      ⟨step_wired hm.1 hstep, step_settled hm.1 hm.2 hfits hstep⟩
  · intro m event hm hfits n hstep
    have hsettled := step_settled hm.1 hm.2 hfits hstep
    refine ⟨hsettled.doneWithPayloads, ?_⟩
    cases event with
    | handleSpiSlaveEvent =>
        obtain ⟨t, hrun, rfl⟩ := runHandler_eq_some hstep
        exact (handleSpiSlaveEvent_fits hm.1 hm.2 hfits hrun).2
    | _ => exact trivial

/-- A mouse whose endpoint 0x81 has packets of 8 bytes. -/
def mouseConfiguration : List UInt8 := [9, 4, 0, 0, 1, 3, 1, 2, 0, 7, 5, 0x81, 3, 8, 0, 10]

theorem reportWith_lt (bytes : List UInt8) (h : bytes.length < 2 ^ 15) :
    (bytes ++ [0x81]).length < 2 ^ 16 := by
  rw [List.length_append, List.length_singleton]
  omega

/-- Bytes from endpoint 0x81, as the slave passes them on. -/
def mouseReport (bytes : List UInt8) (h : bytes.length < 2 ^ 15) : SpiMessage where
  eFlag := MsgType.isPacket ||| MsgType.usbData
  payload := bytes ++ [0x81]
  payload_lt := reportWith_lt bytes h

theorem mouseReport_outlivesNothing :
    Machine.Guarded step OutlivesNothing (.init 0) (fetchConfiguration mouseConfiguration (by decide) ++
      [.receive (mouseReport [0, 1, 2, 3, 4, 5, 6, 7] (by decide)), .handleSpiSlaveEvent, .hostIn 1,
        .dcdIrq]) :=
  outlivesNothing_of_fitting (by decide +kernel)

/-- A byte of a payload is left to be sent when the payload is freed. -/
def LeftOver (m : Core0) : Bool :=
  match (m.master.hwEndpoint 0x81).userBuf with
  | .payload _ _ => (m.master.hwEndpoint 0x81).remainingLen != 0
  | _ => false

/-- Nine bytes for an endpoint with packets of 8 bytes leave one behind. -/
theorem longReport_outlived :
    ¬ ∀ romWord events, Machine.Guarded step OutlivesNothing (.init romWord) events := by
  intro h
  let events : List Event := fetchConfiguration mouseConfiguration (by decide) ++
    [.receive (mouseReport [0, 1, 2, 3, 4, 5, 6, 7, 8] (by decide))]
  have hends : ∃ m, Reaches 0 events m ∧ (step m .handleSpiSlaveEvent).any LeftOver = true :=
    exists_reaches_of_any (by decide +kernel)
  obtain ⟨m, hreach, hleft⟩ := hends
  obtain ⟨n, hstep, hover⟩ := (Option.any_eq_true _ _).mp hleft
  have hguard := (Machine.guarded_append (h 0 (events ++ [.handleSpiSlaveEvent])) hreach).2.1
  have hdone := (hguard n hstep).1
  unfold LeftOver at hover
  split at hover
  · rename_i bytes offset hbuffer
    have hnone : (n.master.hwEndpoint 0x81).remainingLen = 0 :=
      hdone.remaining _ _ bytes offset hbuffer
    simp [hnone] at hover
  · cases hover

end UsbSec.Device
