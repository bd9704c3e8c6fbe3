import Mathlib.Logic.Function.Iterate
import UsbSec.Device.Reread

/-!
# How a response is interpreted

`handle_setup_response` goes from descriptor to descriptor by the length byte of each, and opens the
endpoints it meets. Where it goes is determined by the bytes of the response and the room that is
left in the DPRAM: `visit` says which descriptor comes when, and `Accepted` which endpoint descriptors
go through. At the others a check of the code stops the master, or, where they are not
`Guarded`, the code goes past the end of a table or copies from `NULL`, and C says nothing of what it
does then.
-/

namespace UsbSec.Device

open Library Usb Rp2040

/-! ## The parts of the handler -/

/-- The body of the loop over the descriptors. -/
def walkBody (arr : Buffer) (pos : Nat) (itf : Option Nat) : MasterM Unit :=
  Program.when (arr (pos + 1) = 0x05) (openEndpoint arr pos (nextInterface arr pos itf))

/-- One iteration of the walk. -/
theorem walk_succ {arr : Buffer} {len pos : Nat} (hpos : pos < len) (fuel : Nat)
    (itf : Option Nat) (s : Master) :
    walk arr len (fuel + 1) pos itf s =
      match walkBody arr pos itf s with
      | .ok _ t => walk arr len fuel (pos + (arr pos).toNat) (nextInterface arr pos itf) t
      | .error reason t => .error reason t := by
  rw [walk, if_pos hpos, Program.bind_apply, ← walkBody]
  cases walkBody arr pos itf s with
  | ok value t => rfl
  | error reason t => rfl

theorem nextInterface_endpoint {arr : Buffer} {pos : Nat} (htype : arr (pos + 1) = 0x05)
    (itf : Option Nat) : nextInterface arr pos itf = itf := by
  unfold nextInterface
  rw [htype]
  rfl

/-- The state in which a response is interpreted. -/
def Master.interpreting (s : Master) : Master :=
  { s with calls := s.calls ++ [.handleSetupResponse s.events.setup s.collected] }

/-- `handle_setup_response` behind its reads of the statics. -/
def interpretResponse (arr : Buffer) (len : Nat) (setup : ControlRequest) (live : UInt8) :
    MasterM Unit := do
  Program.when (IsDeviceRequest setup) (handleDeviceDescriptor arr)
  if live = 0x5 then pure ()
  else do
    Program.when (IsConfigRequest setup) (walk arr len len 0 none)
    handleHidReport setup

theorem handleSetupResponse_apply (s : Master) :
    handleSetupResponse s =
      interpretResponse s.aggregator.bugger s.aggregator.len.toNat s.events.setup
        (ControlRequest.ofBuffer s.dcd.setupPacket).bRequest s.interpreting := rfl

theorem not_isConfigRequest {setup : ControlRequest} (h : IsDeviceRequest setup) :
    ¬ IsConfigRequest setup := by
  intro hconfig
  have hvalue := h.2.symm.trans hconfig.1
  revert hvalue
  decide

/-- The first two effects of an endpoint descriptor: the call of `dcd_edpt_open_new` and what it
does to the controller. -/
def openHardware (arr : Buffer) (pos : Nat) : MasterM Unit := do
  let edpt : EndpointPointer := ⟨arr, pos⟩
  record (.edptOpen edpt.bEndpointAddress edpt.maxPacketSize edpt.xfer)
  onDcd (dcdEdptOpenNew edpt)

/-- The endpoint branch of the walk, stage by stage. -/
theorem openEndpoint_apply (arr : Buffer) (pos : Nat) (itf : Option Nat) (s : Master) :
    openEndpoint arr pos itf s =
      match openHardware arr pos s with
      | .ok _ opened =>
          match registerDriverForEdpt ⟨arr, pos⟩ (itf.map (InterfaceDescriptor.ofBuffer arr))
            opened.events.bMaxPacketSize opened with
          | .ok _ registered =>
              enqueueSpiMessage (.copyOf (MsgType.edptOpen ||| MsgType.debugPrintAsHex) arr pos
                (arr pos).toUInt16) registered
          | .error reason t => .error reason t
      | .error reason t => .error reason t := by
  unfold openEndpoint openHardware record
  simp only [Program.update_bind]
  rw [Program.bind_apply]
  cases onDcd (dcdEdptOpenNew ⟨arr, pos⟩) _ with
  | error reason t => rfl
  | ok value opened =>
      simp only [Program.read_bind]
      rw [Program.bind_apply]
      cases registerDriverForEdpt ⟨arr, pos⟩ (itf.map (InterfaceDescriptor.ofBuffer arr))
        opened.events.bMaxPacketSize opened with
      | ok value registered => rfl
      | error reason t => rfl

/-! ## Endpoint descriptors that are accepted -/

/-- The DPRAM that is allocated for an endpoint. Endpoint 0 has a buffer of its own. -/
def bufferSize (edpt : EndpointPointer) : Nat :=
  if (tuEdptNumber edpt.bEndpointAddress).toNat = 0 then 0
  else (allocSize edpt.maxPacketSize edpt.xfer).toNat

/-- The hardware endpoint of a descriptor is set up. It has a row in the table, which the code takes
for granted, and there is room for its buffer behind `next`, which the assertions of
`_hw_endpoint_alloc` test. -/
def CanOpen (next : Nat) (edpt : EndpointPointer) : Prop :=
  (tuEdptNumber edpt.bEndpointAddress).toNat < usbMaxEndpoints ∧
    ((tuEdptNumber edpt.bEndpointAddress).toNat ≠ 0 → RoomFor next (bufferSize edpt))

instance (next : Nat) (edpt : EndpointPointer) : Decidable (CanOpen next edpt) :=
  inferInstanceAs (Decidable (_ ∧ (_ → _)))

theorem dcdEdptOpenNew_outcome (desc : EndpointPointer) (d : Dcd) :
    Program.Outcome (dcdEdptOpenNew desc) d
      (fun _ e => CanOpen d.nextBufferPtr desc ∧
        e.nextBufferPtr = d.nextBufferPtr + bufferSize desc ∧
        (e.hwEndpoints (tuEdptNumber desc.bEndpointAddress).toNat
          (tuEdptDirIn desc.bEndpointAddress)).rx = !tuEdptDirIn desc.bEndpointAddress)
      (fun _ => ¬ CanOpen d.nextBufferPtr desc) := by
  by_cases hlt : (tuEdptNumber desc.bEndpointAddress).toNat < usbMaxEndpoints
  · by_cases hzero : (tuEdptNumber desc.bEndpointAddress).toNat = 0
    · have hplace : hwEndpointGetByAddr desc.bEndpointAddress d =
          .ok ((tuEdptNumber desc.bEndpointAddress).toNat, tuEdptDirIn desc.bEndpointAddress) d :=
        Program.require_bind hlt _ _ d
      refine .of_eq (Program.bind_ok hplace) ?_
      refine .of_eq (Program.bind_ok (withEndpoint_setEp _ _ _ _)) ?_
      refine .of_eq (Program.update_bind _ _ _) (.ite (fun _ => ?_) fun hne => absurd hzero hne)
      refine .of_ok (withEndpoint_setEp _ _ _ _) ⟨⟨hlt, fun hne => absurd hzero hne⟩, ?_, ?_⟩
      · unfold bufferSize
        rw [if_pos hzero]
        rfl
      · rw [Dcd.setEndpoint_same, Dcd.setEndpoint_same]
    · have hsize : bufferSize desc = (allocSize desc.maxPacketSize desc.xfer).toNat :=
        if_neg hzero
      have hinit := hwEndpointInit_outcome desc.maxPacketSize desc.xfer d hzero hlt
      rw [← hsize] at hinit
      refine hinit.mono (fun _ e he => ⟨⟨hlt, fun _ => he.1⟩, he.2.1.nextBufferPtr, he.2.2.rx⟩) ?_
      exact fun _ hfull hopen => hfull (hopen.2 hzero)
  · have hplace : hwEndpointGetByAddr desc.bEndpointAddress d = .error .undefined d :=
      Program.require_stops hlt _ _ d
    exact .of_error (Program.bind_error hplace) fun hopen => hlt hopen.1

/-! ## The way of the walk -/

/-- Where the walk is: the position, the interface pointer and the allocation pointer. -/
structure Visit where
  pos : Nat
  itf : Option Nat
  next : Nat

namespace Visit

/-- There is an endpoint descriptor here. -/
def IsEndpoint (arr : Buffer) (v : Visit) : Prop := arr (v.pos + 1) = 0x05

instance (arr : Buffer) (v : Visit) : Decidable (v.IsEndpoint arr) :=
  inferInstanceAs (Decidable (_ = _))

/-- The calls of the endpoint branch go through here: the endpoint can be set up, and it lies under
an interface that has a driver. -/
structure Accepted (arr : Buffer) (v : Visit) : Prop where
  canOpen : CanOpen v.next ⟨arr, v.pos⟩
  interface : ∃ interface, v.itf = some interface ∧ HasDriver (.ofBuffer arr interface)

instance (arr : Buffer) (v : Visit) : Decidable (v.Accepted arr) :=
  decidable_of_iff (CanOpen v.next ⟨arr, v.pos⟩ ∧
    ∃ interface ∈ v.itf, HasDriver (.ofBuffer arr interface))
    ⟨fun h => ⟨h.1, h.2⟩, fun h => ⟨h.canOpen, h.interface⟩⟩

/-- The accesses that the calls of the endpoint branch make here are defined: the endpoint has a row
in the table, and there is an interface descriptor to copy once the endpoint is set up. -/
structure Guarded (arr : Buffer) (v : Visit) : Prop where
  row : (tuEdptNumber (EndpointPointer.bEndpointAddress ⟨arr, v.pos⟩)).toNat < usbMaxEndpoints
  interface : CanOpen v.next ⟨arr, v.pos⟩ → v.itf ≠ none

/-- Where the walk goes from here. -/
def step (arr : Buffer) (v : Visit) : Visit where
  pos := v.pos + (arr v.pos).toNat
  itf := nextInterface arr v.pos v.itf
  next := if v.IsEndpoint arr then v.next + bufferSize ⟨arr, v.pos⟩ else v.next

/-- The walk enters its body here and leaves it again. -/
structure Passes (arr : Buffer) (len : Nat) (v : Visit) : Prop where
  inside : v.pos < len
  accepted : v.IsEndpoint arr → v.Accepted arr

instance (arr : Buffer) (len : Nat) (v : Visit) : Decidable (v.Passes arr len) :=
  decidable_of_iff (v.pos < len ∧ (v.IsEndpoint arr → v.Accepted arr))
    ⟨fun h => ⟨h.1, h.2⟩, fun h => ⟨h.inside, h.accepted⟩⟩

end Visit

/-! ## The stages of the endpoint branch -/

/-- What the master is like once the hardware endpoint of a descriptor is set up. -/
structure SetUp (next : Nat) (edpt : EndpointPointer) (t : Master) : Prop where
  canOpen : CanOpen next edpt
  nextBufferPtr : t.dcd.nextBufferPtr = next + bufferSize edpt
  rx : (t.dcd.hwEndpoints (tuEdptNumber edpt.bEndpointAddress).toNat
    (tuEdptDirIn edpt.bEndpointAddress)).rx = !tuEdptDirIn edpt.bEndpointAddress

theorem openHardware_visit (arr : Buffer) {v : Visit} {s : Master}
    (hnext : v.next = s.dcd.nextBufferPtr) :
    Program.Outcome (openHardware arr v.pos) s (fun _ t => SetUp v.next ⟨arr, v.pos⟩ t)
      (fun _ => ¬ CanOpen v.next ⟨arr, v.pos⟩) := by
  have hopen := dcdEdptOpenNew_outcome ⟨arr, v.pos⟩ s.dcd
  rw [← hnext] at hopen
  refine .of_eq (Program.update_bind _ _ _) (.onPart hopen (fun _ e he => ?_) fun _ => id)
  exact ⟨he.1, he.2.1, he.2.2⟩

/-- A row past the table is the only access that opening an endpoint does not guard. -/
theorem dcdEdptOpenNew_reason {desc : EndpointPointer} {d e : Dcd} {reason : Halt}
    (hrun : dcdEdptOpenNew desc d = .error reason e) :
    reason ≠ .hang ∧ (reason = .undefined ↔
      ¬ (tuEdptNumber desc.bEndpointAddress).toNat < usbMaxEndpoints) := by
  by_cases hlt : (tuEdptNumber desc.bEndpointAddress).toNat < usbMaxEndpoints
  · have hplace : hwEndpointGetByAddr desc.bEndpointAddress d =
        .ok ((tuEdptNumber desc.bEndpointAddress).toNat, tuEdptDirIn desc.bEndpointAddress) d :=
      Program.require_bind hlt _ _ d
    have hreason : reason = .assertion := by
      refine (?_ : Program.Stops (· = .assertion) _) _ _ _ ((Program.bind_ok hplace).symm.trans hrun)
      refine .bind (.onPart (.update _)) fun _ => .bind (.update _) fun _ => ?_
      refine .ite (fun _ => .onPart (.update _)) fun _ => .bind (.onPart (.update _)) fun _ => ?_
      refine .bind .read fun _ => .bind (.onPart (.update _)) fun _ => .bind (.update _) fun _ => ?_
      exact .bind (.require rfl) fun _ => .bind (.require rfl) fun _ => .update _
    simp [hreason, hlt]
  · have hplace : hwEndpointGetByAddr desc.bEndpointAddress d = .error .undefined d :=
      Program.require_stops hlt _ _ d
    have hreason : reason = .undefined := by
      have hstops := (Program.bind_error hplace).symm.trans hrun
      cases hstops
      rfl
    simp [hreason, hlt]

theorem openHardware_reason {arr : Buffer} {pos : Nat} {s t : Master} {reason : Halt}
    (hrun : openHardware arr pos s = .error reason t) :
    reason ≠ .hang ∧ (reason = .undefined ↔
      ¬ (tuEdptNumber (EndpointPointer.bEndpointAddress ⟨arr, pos⟩)).toNat < usbMaxEndpoints) := by
  have hdcd : onDcd (dcdEdptOpenNew ⟨arr, pos⟩) _ = .error reason t :=
    (Program.update_bind _ _ s).symm.trans hrun
  unfold onDcd Program.onPart at hdcd
  split at hdcd
  · cases hdcd
  · rename_i hopen
    cases hdcd
    exact dcdEdptOpenNew_reason hopen

/-- An interface of another class stops the master. -/
theorem registerDriverForEdpt_rejects {edpt : EndpointPointer} {itf : InterfaceDescriptor}
    (hnum : (tuEdptNumber edpt.bEndpointAddress).toNat < usbMaxEndpoints) (hitf : ¬ HasDriver itf)
    (newMps : UInt8) (s : Master) : ∃ t, registerDriverForEdpt edpt (some itf) newMps s =
      .error (.error "Invalid interface number 0x%x") t := by
  have hhid : ¬ itf.bInterfaceClass = 0x03 := fun h => hitf (.inl h)
  have hmsc : ¬ itf.bInterfaceClass = 0x08 := fun h => hitf (.inr h)
  have hslot : (idx edpt.bEndpointAddress).toNat < driverSlots := slotOf_lt hnum
  unfold registerDriverForEdpt record defined
  simp only [Program.update_bind, if_neg hhid, if_neg hmsc]
  exact ⟨_, Program.require_bind hslot _ _ _⟩

/-- The endpoint branch goes through exactly where the descriptor is accepted. -/
theorem openEndpoint_visit {arr : Buffer} {v : Visit} {s : Master}
    (hnext : v.next = s.dcd.nextBufferPtr) :
    Program.Outcome (openEndpoint arr v.pos v.itf) s
      (fun _ t => v.Accepted arr ∧ t.dcd.nextBufferPtr = v.next + bufferSize ⟨arr, v.pos⟩)
      (fun _ => ¬ v.Accepted arr) := by
  have hopen := openHardware_visit arr hnext
  unfold Program.Outcome
  rw [openEndpoint_apply]
  cases hrun : openHardware arr v.pos s with
  | error reason t => exact fun haccepted => hopen.error hrun haccepted.canOpen
  | ok value opened =>
      have hsetUp := hopen.ok hrun
      cases hitf : v.itf with
      | none =>
          rintro ⟨-, interface, hsome, -⟩
          rw [hitf] at hsome
          cases hsome
      | some interface =>
          by_cases hdriver : HasDriver (.ofBuffer arr interface)
          · have hregister := registerDriverForEdpt_outcome hsetUp.canOpen.1 hdriver
              opened.events.bMaxPacketSize hsetUp.rx
            obtain ⟨value, registered, hregistered, hhandled⟩ := hregister.exists_ok
            simp only [Option.map_some, hregistered]
            refine ⟨⟨hsetUp.canOpen, interface, hitf, hdriver⟩, ?_⟩
            exact hhandled.dcd.nextBufferPtr.trans hsetUp.nextBufferPtr
          · obtain ⟨t, hrejected⟩ := registerDriverForEdpt_rejects hsetUp.canOpen.1 hdriver
              opened.events.bMaxPacketSize opened
            simp only [Option.map_some, hrejected]
            rintro ⟨-, other, hsome, hother⟩
            rw [hitf] at hsome
            cases hsome
            exact hdriver hother

/-- The endpoint branch does something undefined exactly where the descriptor is not guarded. -/
theorem openEndpoint_reason {arr : Buffer} {v : Visit} {s t : Master} {reason : Halt}
    (hnext : v.next = s.dcd.nextBufferPtr) (hrun : openEndpoint arr v.pos v.itf s = .error reason t) :
    reason ≠ .hang ∧ (reason = .undefined ↔ ¬ v.Guarded arr) := by
  have hopen := openHardware_visit arr hnext
  rw [openEndpoint_apply] at hrun
  cases hhardware : openHardware arr v.pos s with
  | error other u =>
      simp only [hhardware] at hrun
      cases hrun
      obtain ⟨hhang, hundefined⟩ := openHardware_reason hhardware
      refine ⟨hhang, hundefined.trans (not_congr ⟨fun hrow => ⟨hrow, ?_⟩, Visit.Guarded.row⟩)⟩
      exact fun hcan => absurd hcan (hopen.error hhardware)
  | ok value opened =>
      have hsetUp := hopen.ok hhardware
      simp only [hhardware] at hrun
      cases hitf : v.itf with
      | none =>
          rw [hitf] at hrun
          cases hrun
          have hunguarded : ¬ v.Guarded arr := fun h => h.interface hsetUp.canOpen hitf
          simp [hunguarded]
      | some interface =>
          have hguarded : v.Guarded arr := ⟨hsetUp.canOpen.1, fun _ => by simp [hitf]⟩
          have hreason : reason = .error "Invalid interface number 0x%x" := by
            by_cases hdriver : HasDriver (.ofBuffer arr interface)
            · have hregister := registerDriverForEdpt_outcome hsetUp.canOpen.1 hdriver
                opened.events.bMaxPacketSize hsetUp.rx
              obtain ⟨value, registered, hregistered, -⟩ := hregister.exists_ok
              simp only [hitf, Option.map_some, hregistered] at hrun
              cases hrun
            · obtain ⟨u, hrejected⟩ := registerDriverForEdpt_rejects hsetUp.canOpen.1 hdriver
                opened.events.bMaxPacketSize opened
              simp only [hitf, Option.map_some, hrejected] at hrun
              cases hrun
              rfl
          simp [hreason, hguarded]

/-! ## The body of the loop -/

/-- The body of the loop goes through exactly where an endpoint descriptor is accepted. -/
theorem walkBody_visit (arr : Buffer) {v : Visit} {s : Master}
    (hnext : v.next = s.dcd.nextBufferPtr) :
    Program.Outcome (walkBody arr v.pos v.itf) s
      (fun _ t => (v.IsEndpoint arr → v.Accepted arr) ∧
        (v.step arr).next = t.dcd.nextBufferPtr)
      (fun _ => ¬ (v.IsEndpoint arr → v.Accepted arr)) := by
  refine .when (fun htype => ?_) fun htype => ⟨fun h => absurd h htype, ?_⟩
  · rw [nextInterface_endpoint htype]
    refine (openEndpoint_visit hnext).mono (fun _ t ht => ⟨fun _ => ht.1, ?_⟩) ?_
    · exact (if_pos htype).trans ht.2.symm
    · exact fun _ hrefused hall => hrefused (hall htype)
  · exact (if_neg htype).trans hnext

/-- The body of the loop does something undefined exactly where an endpoint descriptor is not
guarded. -/
theorem walkBody_reason {arr : Buffer} {v : Visit} {s t : Master} {reason : Halt}
    (hnext : v.next = s.dcd.nextBufferPtr) (hrun : walkBody arr v.pos v.itf s = .error reason t) :
    reason ≠ .hang ∧ (reason = .undefined ↔ ¬ (v.IsEndpoint arr → v.Guarded arr)) := by
  by_cases htype : v.IsEndpoint arr
  · rw [walkBody, Program.when_true (show arr (v.pos + 1) = 0x05 from htype),
      nextInterface_endpoint htype] at hrun
    rw [forall_prop_of_true htype]
    exact openEndpoint_reason hnext hrun
  · rw [walkBody, Program.when_false (show ¬ arr (v.pos + 1) = 0x05 from htype)] at hrun
    cases hrun

/-- What is accepted is guarded. -/
theorem Visit.Accepted.guarded {arr : Buffer} {v : Visit} (h : v.Accepted arr) : v.Guarded arr := by
  obtain ⟨interface, hsome, -⟩ := h.interface
  exact ⟨h.canOpen.1, fun _ => by simp [hsome]⟩

/-! ## The way of the walk -/

/-- Where the walk is after `count` descriptors, when it begins with the allocation pointer at
`next`. -/
def visit (arr : Buffer) (next count : Nat) : Visit := (Visit.step arr)^[count] ⟨0, none, next⟩

theorem visit_succ (arr : Buffer) (next count : Nat) :
    visit arr next (count + 1) = (visit arr next count).step arr :=
  Function.iterate_succ_apply' _ _ _

/-- The walk does something undefined where it comes to an endpoint descriptor that is not guarded,
and passes all descriptors before. The induction follows the iterations. -/
theorem walk_undefined_iff {arr : Buffer} {len fuel : Nat} {v : Visit} {s : Master}
    (hnext : v.next = s.dcd.nextBufferPtr) :
    (∃ t, walk arr len fuel v.pos v.itf s = .error .undefined t) ↔
      ∃ k < fuel, (∀ j < k, ((Visit.step arr)^[j] v).Passes arr len) ∧
        ((Visit.step arr)^[k] v).pos < len ∧
        ¬ (((Visit.step arr)^[k] v).IsEndpoint arr → ((Visit.step arr)^[k] v).Guarded arr) := by
  induction fuel generalizing v s with
  | zero =>
      rw [walk]
      by_cases hpos : v.pos < len <;> simp [hpos]
  | succ fuel ih =>
      -- Either the first descriptor is not guarded, or it is passed and the rest has such a one.
      have hsplit : (∃ k < fuel + 1, (∀ j < k, ((Visit.step arr)^[j] v).Passes arr len) ∧
          ((Visit.step arr)^[k] v).pos < len ∧ ¬ (((Visit.step arr)^[k] v).IsEndpoint arr →
            ((Visit.step arr)^[k] v).Guarded arr)) ↔
          (v.pos < len ∧ ¬ (v.IsEndpoint arr → v.Guarded arr)) ∨
          (v.Passes arr len ∧ ∃ k < fuel,
            (∀ j < k, ((Visit.step arr)^[j] (v.step arr)).Passes arr len) ∧
            ((Visit.step arr)^[k] (v.step arr)).pos < len ∧
            ¬ (((Visit.step arr)^[k] (v.step arr)).IsEndpoint arr →
              ((Visit.step arr)^[k] (v.step arr)).Guarded arr)) := by
        rw [Nat.exists_lt_succ_left]
        refine or_congr (by simp) ?_
        constructor
        · rintro ⟨k, hk, hpasses, hinside, hunguarded⟩
          rw [Nat.forall_lt_succ_left] at hpasses
          exact ⟨hpasses.1, k, hk, hpasses.2, hinside, hunguarded⟩
        · rintro ⟨hfirst, k, hk, hpasses, hinside, hunguarded⟩
          exact ⟨k, hk, Nat.forall_lt_succ_left.mpr ⟨hfirst, hpasses⟩, hinside, hunguarded⟩
      rw [hsplit]
      by_cases hpos : v.pos < len
      · rw [walk_succ hpos, and_iff_right hpos]
        have hbody := walkBody_visit arr hnext
        cases hrun : walkBody arr v.pos v.itf s with
        | ok value t =>
            obtain ⟨haccepted, hstep⟩ := hbody.ok hrun
            have hguarded : v.IsEndpoint arr → v.Guarded arr := fun h => (haccepted h).guarded
            rw [or_iff_right (not_not_intro hguarded),
              and_iff_right (⟨hpos, haccepted⟩ : v.Passes arr len)]
            exact ih hstep
        | error reason t =>
            have hrefused := hbody.error hrun
            obtain ⟨-, hreason⟩ := walkBody_reason hnext hrun
            have hpasses : ¬ v.Passes arr len := fun h => hrefused h.accepted
            rw [← hreason, or_iff_left fun h => hpasses h.1]
            constructor
            · rintro ⟨u, hundefined⟩
              cases hundefined
              rfl
            · rintro rfl
              exact ⟨t, rfl⟩
      · rw [walk, if_neg hpos]
        constructor
        · rintro ⟨u, hundefined⟩
          cases hundefined
        · rintro (h | h)
          · exact absurd h.1 hpos
          · exact absurd h.1.inside hpos

/-! ## The response -/

/-- The response is walked as a configuration. -/
def Walked (s : Master) : Prop :=
  (ControlRequest.ofBuffer s.dcd.setupPacket).bRequest ≠ 0x5 ∧ IsConfigRequest s.events.setup

instance (s : Master) : Decidable (Walked s) := inferInstanceAs (Decidable (_ ∧ _))

/-- Where the walk over the response is after `count` descriptors. -/
def Master.visit (s : Master) (count : Nat) : Visit :=
  Device.visit s.aggregator.bugger s.dcd.nextBufferPtr count

/-- The number of bytes of the response. -/
def Master.responseLen (s : Master) : Nat := s.aggregator.len.toNat

theorem handleHidReport_never_stops (setup : ControlRequest) :
    Program.Stops (fun _ => False) (handleHidReport setup) :=
  .when (.bind .read fun _ => .update _)

theorem handleDeviceDescriptor_never_stops (arr : Buffer) :
    Program.Stops (fun _ => False) (handleDeviceDescriptor arr) :=
  .bind (.update _) fun _ => .bind (.update _) fun _ => .update _

/-- Handling a response stops where the walk does. -/
theorem handleSetupResponse_stops_iff (reason : Halt) (s : Master) :
    (∃ t, handleSetupResponse s = .error reason t) ↔
      Walked s ∧ ∃ t, walk s.aggregator.bugger s.responseLen s.responseLen 0 none
        s.interpreting = .error reason t := by
  rw [handleSetupResponse_apply, interpretResponse]
  by_cases hwalked : Walked s
  · rw [and_iff_right hwalked, Program.when_false fun h => not_isConfigRequest h hwalked.2,
      Program.pure_bind, if_neg hwalked.1, Program.when_true hwalked.2]
    cases hrun : walk s.aggregator.bugger s.responseLen s.responseLen 0 none s.interpreting with
    | ok value t =>
        have hrest : (walk s.aggregator.bugger s.responseLen s.responseLen 0 none >>= fun _ =>
            handleHidReport s.events.setup) s.interpreting = handleHidReport s.events.setup t :=
          Program.bind_ok hrun
        constructor
        · rintro ⟨u, hstops⟩
          exact (handleHidReport_never_stops _ _ _ _ (hrest.symm.trans hstops)).elim
        · rintro ⟨u, hstops⟩
          cases hstops
    | error other t =>
        have hrest : (walk s.aggregator.bugger s.responseLen s.responseLen 0 none >>= fun _ =>
            handleHidReport s.events.setup) s.interpreting = .error other t :=
          Program.bind_error hrun
        constructor
        · rintro ⟨u, hstops⟩
          exact ⟨u, hrest.symm.trans hstops⟩
        · rintro ⟨u, hstops⟩
          exact ⟨u, hrest.trans hstops⟩
  · have hquiet : Program.Stops (fun _ => False) (do
        Program.when (IsDeviceRequest s.events.setup)
          (handleDeviceDescriptor s.aggregator.bugger)
        if (ControlRequest.ofBuffer s.dcd.setupPacket).bRequest = 0x5 then pure ()
        else do
          Program.when (IsConfigRequest s.events.setup)
            (walk s.aggregator.bugger s.aggregator.len.toNat s.aggregator.len.toNat 0 none)
          handleHidReport s.events.setup) := by
      refine .bind (.when (handleDeviceDescriptor_never_stops _)) fun _ => ?_
      refine .ite (fun _ => .pure _) fun hlive => ?_
      rw [Program.when_false fun hconfig => hwalked ⟨hlive, hconfig⟩]
      exact .bind (.pure _) fun _ => handleHidReport_never_stops _
    constructor
    · rintro ⟨t, hstops⟩
      exact (hquiet _ _ _ hstops).elim
    · exact fun h => absurd h.1 hwalked

end UsbSec.Device
