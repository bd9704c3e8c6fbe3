import UsbSec.Device.Interpretation
import UsbSec.Device.Responses

/-!
# Bytes behind the response

`handle_setup_response` reads descriptors from the response buffer without comparing their ends
with the length of the response. Bytes behind the response, left over from an earlier one, have no
influence exactly when what the handler reads of every descriptor it comes to lies inside the
response.
-/

namespace UsbSec.Device

open Library Usb Rp2040

/-- The master with another response buffer. -/
def Master.withBugger (bugger : Buffer) (s : Master) : Master :=
  { s with aggregator := { s.aggregator with bugger := bugger } }

/-- Whatever the bytes behind the response are, handling the response ends in the same way and
does the same to the rest of the master: its tables, its packet size, the messages for the slave
and the log of calls. It does not go past the end of a table or copy from `NULL` in any case: C says
nothing of what it does then. -/
def StaleBytesHarmless (s : Master) : Prop :=
  ∀ bugger, Buffer.Agree s.aggregator.len.toNat s.aggregator.bugger bugger →
    (∀ t, handleSetupResponse (s.withBugger bugger) ≠ .error .undefined t) ∧
    handleSetupResponse (s.withBugger bugger) =
      Program.mapState (Master.withBugger bugger) (handleSetupResponse s)

/-! ## Descriptors inside the response -/

/-- What is read of an endpoint descriptor and its interface lies inside the response: the first
six bytes, the interface descriptor once the endpoint is set up, and the `bLength` bytes that are
forwarded once the driver is registered. The accesses that depend on these bytes are defined. -/
structure EndpointCovered (arr : Buffer) (len : Nat) (v : Visit) : Prop where
  fields : v.pos + 6 ≤ len
  guarded : v.Guarded arr
  interface : CanOpen v.next ⟨arr, v.pos⟩ → ∀ interface, v.itf = some interface →
    interface + 9 ≤ len
  forwarded : v.Accepted arr → v.pos + (arr v.pos).toNat ≤ len

/-- What the walk reads of a descriptor lies inside the response. -/
structure Visit.Covered (arr : Buffer) (len : Nat) (v : Visit) : Prop where
  type : v.pos + 1 < len
  endpoint : v.IsEndpoint arr → EndpointCovered arr len v

/-- What the walk reads lies inside the response at every descriptor that it comes to within `fuel`
iterations. It comes to a descriptor when it passes all those before. -/
def WalkCovered (arr : Buffer) (len fuel : Nat) (v : Visit) : Prop :=
  ∀ k < fuel, (∀ j < k, ((Visit.step arr)^[j] v).Passes arr len) →
    ((Visit.step arr)^[k] v).pos < len → ((Visit.step arr)^[k] v).Covered arr len

/-- What `handle_setup_response` reads lies inside the response: the packet size of a device
descriptor, and the descriptors of a configuration that is walked. -/
structure ResponseCovered (s : Master) : Prop where
  device : IsDeviceRequest s.events.setup → 8 ≤ s.responseLen
  configuration : Walked s → WalkCovered s.aggregator.bugger s.responseLen s.responseLen
    ⟨0, none, s.dcd.nextBufferPtr⟩

theorem walkCovered_succ {arr : Buffer} {len fuel : Nat} {v : Visit} :
    WalkCovered arr len (fuel + 1) v ↔ (v.pos < len → v.Covered arr len) ∧
      (v.Passes arr len → WalkCovered arr len fuel (v.step arr)) := by
  unfold WalkCovered
  rw [Nat.forall_lt_succ_left]
  refine and_congr (by simp) ⟨fun h hpasses k hk hbefore => ?_, fun h k hk hbefore => ?_⟩
  · exact h k hk (Nat.forall_lt_succ_left.mpr ⟨hpasses, hbefore⟩)
  · rw [Nat.forall_lt_succ_left] at hbefore
    exact h hbefore.1 k hk hbefore.2

/-- A walk that is covered stays defined. -/
theorem WalkCovered.defined {arr : Buffer} {len fuel : Nat} {v : Visit} {s : Master}
    (hnext : v.next = s.dcd.nextBufferPtr) (h : WalkCovered arr len fuel v) :
    ¬ ∃ t, walk arr len fuel v.pos v.itf s = .error .undefined t := by
  rw [walk_undefined_iff hnext]
  rintro ⟨k, hk, hpasses, hinside, hunguarded⟩
  exact hunguarded fun htype => ((h k hk hpasses hinside).endpoint htype).guarded

/-! ## Programs that read only what is covered -/

theorem endpointFields_congr {arr other : Buffer} {pos : Nat}
    (h : ∀ i, pos + 2 ≤ i → i < pos + 6 → arr i = other i) :
    EndpointPointer.bEndpointAddress ⟨arr, pos⟩ = EndpointPointer.bEndpointAddress ⟨other, pos⟩ ∧
      EndpointPointer.maxPacketSize ⟨arr, pos⟩ = EndpointPointer.maxPacketSize ⟨other, pos⟩ ∧
      EndpointPointer.xfer ⟨arr, pos⟩ = EndpointPointer.xfer ⟨other, pos⟩ := by
  have h2 := h (pos + 2) (by omega) (by omega)
  have h3 := h (pos + 3) (by omega) (by omega)
  have h4 := h (pos + 4) (by omega) (by omega)
  have h5 := h (pos + 5) (by omega) (by omega)
  simp only [EndpointPointer.bEndpointAddress, EndpointPointer.maxPacketSize, EndpointPointer.xfer,
    h2, h3, h4, h5, and_self]

theorem openHardware_congr {arr other : Buffer} {pos : Nat}
    (h : ∀ i, pos + 2 ≤ i → i < pos + 6 → arr i = other i) :
    openHardware arr pos = openHardware other pos := by
  obtain ⟨haddr, hsize, hxfer⟩ := endpointFields_congr h
  simp only [openHardware, dcdEdptOpenNew, haddr, hsize, hxfer]

theorem registerDriverForEdpt_congr {arr other : Buffer} {pos : Nat}
    (h : ∀ i, pos + 2 ≤ i → i < pos + 6 → arr i = other i) (itf : Option InterfaceDescriptor)
    (newMps : UInt8) :
    registerDriverForEdpt ⟨arr, pos⟩ itf newMps = registerDriverForEdpt ⟨other, pos⟩ itf newMps := by
  obtain ⟨haddr, hsize, -⟩ := endpointFields_congr h
  unfold registerDriverForEdpt
  rw [haddr, hsize]

theorem interfaceDescriptor_congr {arr other : Buffer} {interface : Nat}
    (h : ∀ i, interface ≤ i → i < interface + 9 → arr i = other i) :
    InterfaceDescriptor.ofBuffer arr interface = InterfaceDescriptor.ofBuffer other interface := by
  unfold InterfaceDescriptor.ofBuffer
  rw [h interface (by omega) (by omega), h (interface + 1) (by omega) (by omega),
    h (interface + 2) (by omega) (by omega), h (interface + 3) (by omega) (by omega),
    h (interface + 4) (by omega) (by omega), h (interface + 5) (by omega) (by omega),
    h (interface + 6) (by omega) (by omega), h (interface + 7) (by omega) (by omega),
    h (interface + 8) (by omega) (by omega)]

/-- A driver is only registered under an interface that has one. -/
theorem hasDriver_of_registered {edpt : EndpointPointer} {itf : InterfaceDescriptor}
    (hnum : (tuEdptNumber edpt.bEndpointAddress).toNat < usbMaxEndpoints) {newMps : UInt8}
    {s t : Master} (hrun : registerDriverForEdpt edpt (some itf) newMps s = .ok () t) :
    HasDriver itf := by
  by_contra hnone
  obtain ⟨u, hrejected⟩ := registerDriverForEdpt_rejects hnum hnone newMps s
  rw [hrejected] at hrun
  cases hrun

/-- Where an endpoint descriptor is covered, the bytes behind the response have no influence. -/
theorem openEndpoint_congr {arr other : Buffer} {len : Nat} {v : Visit} {s : Master}
    (hagree : Buffer.Agree len arr other) (hnext : v.next = s.dcd.nextBufferPtr)
    (hcovered : EndpointCovered arr len v) :
    openEndpoint other v.pos v.itf s = openEndpoint arr v.pos v.itf s := by
  have hend := hcovered.fields
  have hfields : ∀ i, v.pos + 2 ≤ i → i < v.pos + 6 → arr i = other i :=
    fun i _ hi => hagree i (by omega)
  have hlength : arr v.pos = other v.pos := hagree v.pos (by omega)
  rw [openEndpoint_apply, openEndpoint_apply, ← openHardware_congr hfields]
  have hopen := openHardware_visit arr hnext
  cases hrun : openHardware arr v.pos s with
  | error reason t => rfl
  | ok value opened =>
      have hcan := (hopen.ok hrun).canOpen
      cases hitf : v.itf with
      | none => rfl
      | some interface =>
          have hbound := hcovered.interface hcan interface hitf
          have hinterface : ∀ i, interface ≤ i → i < interface + 9 → arr i = other i := by
            intro i _ hi
            exact hagree i (by omega)
          have hdescriptor := interfaceDescriptor_congr hinterface
          simp only [Option.map_some, ← hdescriptor, ← registerDriverForEdpt_congr hfields]
          cases hregister : registerDriverForEdpt ⟨arr, v.pos⟩ (some (.ofBuffer arr interface))
            opened.events.bMaxPacketSize opened with
          | error reason t => rfl
          | ok value registered =>
              have hdriver := hasDriver_of_registered hcan.1 hregister
              have hforward := hcovered.forwarded ⟨hcan, interface, hitf, hdriver⟩
              have hbytes : Buffer.bytesAt other v.pos (arr v.pos).toNat =
                  Buffer.bytesAt arr v.pos (arr v.pos).toNat := (hagree.bytesAt hforward).symm
              have hmessage (flag : UInt16) :
                  SpiMessage.copyOf flag other v.pos (arr v.pos).toUInt16 =
                    .copyOf flag arr v.pos (arr v.pos).toUInt16 :=
                SpiMessage.ext rfl (by simpa using hbytes)
              simp only
              rw [← hlength, hmessage]

/-- Where an iteration is covered, the bytes behind the response have no influence on it. -/
theorem walkBody_congr {arr other : Buffer} {len : Nat} {v : Visit} {s : Master}
    (hagree : Buffer.Agree len arr other) (hnext : v.next = s.dcd.nextBufferPtr)
    (hcovered : v.Covered arr len) :
    walkBody other v.pos v.itf s = walkBody arr v.pos v.itf s ∧
      nextInterface other v.pos v.itf = nextInterface arr v.pos v.itf := by
  have hbyte : other (v.pos + 1) = arr (v.pos + 1) := (hagree _ hcovered.type).symm
  have hitf : nextInterface other v.pos v.itf = nextInterface arr v.pos v.itf := by
    unfold nextInterface
    rw [hbyte]
  refine ⟨?_, hitf⟩
  unfold walkBody
  rw [hitf]
  by_cases hfive : arr (v.pos + 1) = 0x05
  · rw [Program.when_true hfive, Program.when_true (hbyte.trans hfive),
      nextInterface_endpoint hfive]
    exact openEndpoint_congr hagree hnext (hcovered.endpoint hfive)
  · rw [Program.when_false hfive, Program.when_false fun h => hfive (hbyte.symm.trans h)]

/-- Where the walk is covered, the bytes behind the response have no influence. The induction is
on the iterations that are left. -/
theorem walk_congr {arr other : Buffer} {len : Nat} (hagree : Buffer.Agree len arr other)
    {fuel : Nat} {v : Visit} {s : Master} (hnext : v.next = s.dcd.nextBufferPtr)
    (hcovered : WalkCovered arr len fuel v) :
    walk other len fuel v.pos v.itf s = walk arr len fuel v.pos v.itf s := by
  induction fuel generalizing v s with
  | zero => rfl
  | succ fuel ih =>
      by_cases hpos : v.pos < len
      · obtain ⟨hhere, hrest⟩ := walkCovered_succ.mp hcovered
        obtain ⟨hbody, hitf⟩ := walkBody_congr hagree hnext (hhere hpos)
        have hlength : other v.pos = arr v.pos := (hagree _ hpos).symm
        have houtcome := walkBody_visit arr hnext
        rw [walk_succ hpos, walk_succ hpos, hbody, hitf, hlength]
        cases hrun : walkBody arr v.pos v.itf s with
        | error reason t => rfl
        | ok value t =>
            obtain ⟨haccepted, hstep⟩ := houtcome.ok hrun
            exact ih hstep (hrest ⟨hpos, haccepted⟩)
      · rw [walk, walk, if_neg hpos, if_neg hpos]

/-! ## Programs that do not look at the response buffer -/

theorem onDcd_ignores (bugger : Buffer) {α : Type} (program : DcdM α) :
    Program.Ignores (Master.withBugger bugger) (onDcd program) :=
  .onPart (fun _ => rfl) fun _ _ => rfl

theorem enqueueSpiMessage_ignores (bugger : Buffer) (message : SpiMessage) :
    Program.Ignores (Master.withBugger bugger) (enqueueSpiMessage message) :=
  .update fun _ => rfl

theorem registerDriverForEdpt_ignores (bugger : Buffer) (edpt : EndpointPointer)
    (itf : Option InterfaceDescriptor) (newMps : UInt8) :
    Program.Ignores (Master.withBugger bugger) (registerDriverForEdpt edpt itf newMps) := by
  refine .bind (.update fun _ => rfl) fun _ => ?_
  cases itf with
  | none => exact .stop _
  | some descriptor =>
      refine .bind (.update fun _ => rfl) fun _ => .bind (.require _ _) fun _ => ?_
      refine .bind (.update fun _ => rfl) fun _ => .ite (.update fun _ => rfl) (.ite ?_ (.stop _))
      refine .bind (.update fun _ => rfl) fun _ => ?_
      exact .ite (onDcd_ignores bugger _) (.update fun _ => rfl)

theorem openEndpoint_ignores (bugger arr : Buffer) (pos : Nat) (itf : Option Nat) :
    Program.Ignores (Master.withBugger bugger) (openEndpoint arr pos itf) := by
  refine .bind (.update fun _ => rfl) fun _ => .bind (onDcd_ignores bugger _) fun _ => ?_
  refine .read_bind (fun _ => rfl) fun s => ?_
  refine .bind (registerDriverForEdpt_ignores bugger _ _ _) fun _ => ?_
  exact enqueueSpiMessage_ignores bugger _

theorem walk_ignores (bugger arr : Buffer) (len fuel pos : Nat) (itf : Option Nat) :
    Program.Ignores (Master.withBugger bugger) (walk arr len fuel pos itf) := by
  induction fuel generalizing pos itf with
  | zero => exact .ite (.stop _) (.pure _)
  | succ fuel ih =>
      exact .ite (.bind (.when (openEndpoint_ignores bugger _ _ _)) fun _ => ih _ _) (.pure _)

theorem handleDeviceDescriptor_ignores (bugger arr : Buffer) :
    Program.Ignores (Master.withBugger bugger) (handleDeviceDescriptor arr) :=
  .bind (enqueueSpiMessage_ignores bugger _) fun _ =>
    .bind (.update fun _ => rfl) fun _ => .update fun _ => rfl

theorem handleHidReport_ignores (bugger : Buffer) (setup : ControlRequest) :
    Program.Ignores (Master.withBugger bugger) (handleHidReport setup) :=
  .when (.read_bind (fun _ => rfl) fun _ => enqueueSpiMessage_ignores bugger _)

/-! ## A covered response is handled alike -/

theorem interpretResponse_ignores (bugger arr : Buffer) (len : Nat) (setup : ControlRequest)
    (live : UInt8) :
    Program.Ignores (Master.withBugger bugger) (interpretResponse arr len setup live) := by
  refine .bind (.when (handleDeviceDescriptor_ignores bugger _)) fun _ => .ite (.pure _) ?_
  exact .bind (.when (walk_ignores bugger _ _ _ _ _)) fun _ => handleHidReport_ignores bugger _

/-- The response handled with other bytes behind it. -/
theorem handleSetupResponse_withBugger {s : Master} {bugger : Buffer}
    (hagree : Buffer.Agree s.aggregator.len.toNat s.aggregator.bugger bugger) :
    handleSetupResponse (s.withBugger bugger) =
      Program.mapState (Master.withBugger bugger)
        (interpretResponse bugger s.aggregator.len.toNat s.events.setup
          (ControlRequest.ofBuffer s.dcd.setupPacket).bRequest s.interpreting) := by
  have hcollected : (s.withBugger bugger).collected = s.collected :=
    (hagree.bytesAt (Nat.le_of_eq (Nat.zero_add _))).symm
  have hstart : (s.withBugger bugger).interpreting = s.interpreting.withBugger bugger := by
    unfold Master.interpreting
    rw [hcollected]
    rfl
  rw [handleSetupResponse_apply, hstart, ← interpretResponse_ignores bugger]
  rfl

theorem handleDeviceDescriptor_congr {arr other : Buffer} (h : arr 7 = other 7) :
    handleDeviceDescriptor other = handleDeviceDescriptor arr := by
  have hmessage (flag : UInt16) : SpiMessage.copyOf flag other 7 1 = .copyOf flag arr 7 1 :=
    SpiMessage.ext rfl (congrArg (fun byte => [byte]) h.symm)
  unfold handleDeviceDescriptor
  rw [hmessage, h]

theorem interpretResponse_congr {arr other : Buffer} {len : Nat} {setup : ControlRequest}
    {live : UInt8} {s : Master} (hagree : Buffer.Agree len arr other)
    (hdevice : IsDeviceRequest setup → 8 ≤ len)
    (hwalk : live ≠ 0x5 → IsConfigRequest setup →
      WalkCovered arr len len ⟨0, none, s.dcd.nextBufferPtr⟩) :
    interpretResponse other len setup live s = interpretResponse arr len setup live s := by
  unfold interpretResponse
  by_cases hrequest : IsDeviceRequest setup
  · have hseven : arr 7 = other 7 := hagree 7 (hdevice hrequest)
    simp only [Program.when_true hrequest, Program.when_false (not_isConfigRequest hrequest),
      handleDeviceDescriptor_congr hseven]
  · simp only [Program.when_false hrequest, Program.pure_bind]
    by_cases hlive : live = 0x5
    · rw [if_pos hlive, if_pos hlive]
    · rw [if_neg hlive, if_neg hlive]
      by_cases hconfig : IsConfigRequest setup
      · have hsame : walk other len len 0 none s = walk arr len len 0 none s :=
          walk_congr hagree (v := ⟨0, none, s.dcd.nextBufferPtr⟩) rfl (hwalk hlive hconfig)
        simp only [Program.when_true hconfig, Program.bind_apply, hsame]
      · simp only [Program.when_false hconfig]

theorem staleBytesHarmless_of_covered {s : Master} (h : ResponseCovered s) :
    StaleBytesHarmless s := by
  intro bugger hagree
  have hsame : handleSetupResponse (s.withBugger bugger) =
      Program.mapState (Master.withBugger bugger) (handleSetupResponse s) := by
    rw [handleSetupResponse_withBugger hagree, handleSetupResponse_apply]
    refine congrArg _ (interpretResponse_congr hagree h.device fun hlive hconfig => ?_)
    exact h.configuration ⟨hlive, hconfig⟩
  refine ⟨fun t hrun => ?_, hsame⟩
  -- A stop with other bytes behind the response is a stop with these, too.
  have hstops : ∃ t, handleSetupResponse s = .error .undefined t := by
    rw [hsame] at hrun
    cases hresult : handleSetupResponse s with
    | ok value u =>
        rw [hresult] at hrun
        cases hrun
    | error reason u =>
        rw [hresult] at hrun
        cases hrun
        exact ⟨u, rfl⟩
  rw [handleSetupResponse_stops_iff] at hstops
  obtain ⟨hwalked, hundefined⟩ := hstops
  exact (h.configuration hwalked).defined (s := s.interpreting) rfl hundefined

/-! ## A response that is not covered can be handled in two ways -/

/-- The log and the messages for the slave only grow. -/
def Grows (s t : Master) : Prop := s.calls <+: t.calls ∧ s.outbox <+: t.outbox

instance : IsPreorder Master Grows where
  refl _ := ⟨List.prefix_rfl, List.prefix_rfl⟩
  trans _ _ _ h k := ⟨h.1.trans k.1, h.2.trans k.2⟩

theorem record_grows (call : Call) : Program.Moves Grows (record call) :=
  Program.Moves.update fun _ => ⟨List.prefix_append _ _, List.prefix_rfl⟩

theorem enqueueSpiMessage_grows (message : SpiMessage) :
    Program.Moves Grows (enqueueSpiMessage message) :=
  Program.Moves.update fun _ => ⟨List.prefix_rfl, List.prefix_append _ _⟩

theorem onDcd_grows {α : Type} (program : DcdM α) : Program.Moves Grows (onDcd program) :=
  Program.Moves.onPart fun _ _ => ⟨List.prefix_rfl, List.prefix_rfl⟩

theorem onDcd_same_calls {α : Type} (program : DcdM α) (s : Master) :
    (Program.final (onDcd program s)).calls = s.calls := by
  unfold onDcd
  rw [Program.final_onPart]

theorem update_grows {change : Master → Master}
    (h : ∀ s, (change s).calls = s.calls ∧ (change s).outbox = s.outbox) :
    Program.Moves Grows (Program.update change : MasterM Unit) :=
  Program.Moves.update fun s => by
    rw [Grows, (h s).1, (h s).2]
    exact ⟨List.prefix_rfl, List.prefix_rfl⟩

/-- A recorded call stays in the log. -/
theorem record_bind_calls {call : Call} {rest : Unit → MasterM Unit}
    (h : ∀ value, Program.Moves Grows (rest value)) {calls : List Call} {s : Master}
    (hcalls : s.calls = calls) :
    calls ++ [call] <+: (Program.final ((record call >>= rest) s)).calls := by
  subst hcalls
  exact (h () { s with calls := s.calls ++ [call] }).1

theorem registerDriverForEdpt_grows (edpt : EndpointPointer) (itf : Option InterfaceDescriptor)
    (newMps : UInt8) : Program.Moves Grows (registerDriverForEdpt edpt itf newMps) := by
  refine .bind (update_grows fun _ => ⟨rfl, rfl⟩) fun _ => ?_
  cases itf with
  | none => exact .stop _
  | some descriptor =>
      refine .bind (record_grows _) fun _ => .bind (.require _ _) fun _ => ?_
      refine .bind (update_grows fun _ => ⟨rfl, rfl⟩) fun _ => ?_
      refine .ite (update_grows fun _ => ⟨rfl, rfl⟩) (.ite ?_ (.stop _))
      refine .bind (update_grows fun _ => ⟨rfl, rfl⟩) fun _ => ?_
      exact .ite (onDcd_grows _) (update_grows fun _ => ⟨rfl, rfl⟩)

theorem openEndpoint_grows (arr : Buffer) (pos : Nat) (itf : Option Nat) :
    Program.Moves Grows (openEndpoint arr pos itf) := by
  refine .bind (record_grows _) fun _ => .bind (onDcd_grows _) fun _ => .bind .read fun _ => ?_
  exact .bind (registerDriverForEdpt_grows _ _ _) fun _ => enqueueSpiMessage_grows _

theorem walk_grows (arr : Buffer) (len fuel pos : Nat) (itf : Option Nat) :
    Program.Moves Grows (walk arr len fuel pos itf) := by
  induction fuel generalizing pos itf with
  | zero => exact .ite (.stop _) (.pure _)
  | succ fuel ih =>
      exact .ite (.bind (.when (openEndpoint_grows _ _ _)) fun _ => ih _ _) (.pure _)

/-- The two lists have different items at one place. -/
def Clash {α : Type} (first second : List α) : Prop :=
  ∃ (i : Nat) (a b : α), first[i]? = some a ∧ second[i]? = some b ∧ a ≠ b

theorem clash_of_append {α : Type} {list first second : List α} {a b : α}
    (hfirst : list ++ [a] <+: first) (hsecond : list ++ [b] <+: second) (hne : a ≠ b) :
    Clash first second := by
  obtain ⟨restFirst, rfl⟩ := hfirst
  obtain ⟨restSecond, rfl⟩ := hsecond
  exact ⟨list.length, a, b, by simp, by simp, hne⟩

theorem getElem?_of_prefix {α : Type} {shorter longer : List α} (h : shorter <+: longer) {i : Nat}
    {item : α} (hitem : shorter[i]? = some item) : longer[i]? = some item := by
  obtain ⟨rest, rfl⟩ := h
  rw [List.getElem?_append_left (List.getElem?_eq_some_iff.mp hitem).1, hitem]

theorem Clash.mono {α : Type} {first second longer other : List α} (h : Clash first second)
    (hlonger : first <+: longer) (hother : second <+: other) : Clash longer other := by
  obtain ⟨i, a, b, ha, hb, hne⟩ := h
  exact ⟨i, a, b, getElem?_of_prefix hlonger ha, getElem?_of_prefix hother hb, hne⟩

theorem Clash.ne {α : Type} {first second : List α} (h : Clash first second) :
    first ≠ second := by
  rintro rfl
  obtain ⟨i, a, b, ha, hb, hne⟩ := h
  exact hne (Option.some.inj (ha.symm.trans hb))

/-- The effects of two runs so far disagree, whatever follows. -/
def Apart (s t : Master) : Prop := Clash s.calls t.calls ∨ Clash s.outbox t.outbox

theorem Apart.mono {s t u v : Master} (h : Apart s t) (hsu : Grows s u) (htv : Grows t v) :
    Apart u v := by
  rcases h with hcalls | houtbox
  · exact .inl (hcalls.mono hsu.1 htv.1)
  · exact .inr (houtbox.mono hsu.2 htv.2)

/-! ### The end of the response -/

/-- A walk at or behind the end of the response does nothing. -/
theorem walk_of_le {arr : Buffer} {len pos : Nat} (h : len ≤ pos) (fuel : Nat)
    (itf : Option Nat) (s : Master) : walk arr len fuel pos itf s = .ok () s := by
  have hpos : ¬ pos < len := Nat.not_lt.mpr h
  cases fuel with
  | zero => rw [walk, if_neg hpos]; rfl
  | succ fuel => rw [walk, if_neg hpos]; rfl

/-- At the last byte of the response a walk that sees no endpoint adds nothing to the log. -/
theorem walk_last_calls {arr : Buffer} {len pos : Nat} (hpos : pos + 1 = len)
    (htype : arr (pos + 1) ≠ 0x05) (fuel : Nat) (itf : Option Nat) (s : Master) :
    (Program.final (walk arr len fuel pos itf s)).calls = s.calls := by
  induction fuel generalizing itf with
  | zero =>
      rw [walk, if_pos (by omega)]
      rfl
  | succ fuel ih =>
      rw [walk, if_pos (by omega)]
      simp only [Program.when_false htype, Program.pure_bind]
      by_cases hzero : (arr pos).toNat = 0
      · rw [hzero]
        exact ih _
      · rw [walk_of_le (by omega)]
        rfl

/-- The walk goes on from where the endpoint branch arrives. -/
theorem walk_after_endpoint {arr : Buffer} {len pos : Nat} (hpos : pos < len)
    (htype : arr (pos + 1) = 0x05) (fuel : Nat) (itf : Option Nat) (s : Master) :
    Grows (Program.final (openEndpoint arr pos itf s))
      (Program.final (walk arr len (fuel + 1) pos itf s)) := by
  rw [walk, if_pos hpos]
  simp only [Program.when_true htype, nextInterface_endpoint htype]
  exact Program.Moves.after _ (fun _ => walk_grows _ _ _ _ _) s

theorem openHardware_calls (arr : Buffer) (pos : Nat) (s : Master) :
    (Program.final (openHardware arr pos s)).calls =
      s.calls ++ [.edptOpen (EndpointPointer.bEndpointAddress ⟨arr, pos⟩)
        (EndpointPointer.maxPacketSize ⟨arr, pos⟩) (EndpointPointer.xfer ⟨arr, pos⟩)] := by
  unfold openHardware record
  simp only [Program.update_bind]
  exact (onDcd_same_calls _ _)

/-- The endpoint branch goes on from where registering the driver arrives. -/
theorem openEndpoint_after_register {arr : Buffer} {pos : Nat} {s opened : Master}
    (hopen : openHardware arr pos s = .ok () opened) (itf : Option Nat) :
    Grows (Program.final (registerDriverForEdpt ⟨arr, pos⟩
        (itf.map (InterfaceDescriptor.ofBuffer arr)) opened.events.bMaxPacketSize opened))
      (Program.final (openEndpoint arr pos itf s)) := by
  rw [openEndpoint_apply, hopen]
  simp only
  cases registerDriverForEdpt ⟨arr, pos⟩ (itf.map (InterfaceDescriptor.ofBuffer arr))
    opened.events.bMaxPacketSize opened with
  | ok value registered => exact enqueueSpiMessage_grows _ registered
  | error reason t => exact refl_of Grows t

/-- The endpoint branch goes on from where opening the endpoint arrives. -/
theorem openEndpoint_after_hardware (arr : Buffer) (pos : Nat) (itf : Option Nat) (s : Master) :
    Grows (Program.final (openHardware arr pos s))
      (Program.final (openEndpoint arr pos itf s)) := by
  cases hopen : openHardware arr pos s with
  | ok value opened =>
      exact trans_of Grows (registerDriverForEdpt_grows _ _ _ opened)
        (openEndpoint_after_register hopen itf)
  | error reason t =>
      rw [openEndpoint_apply, hopen]
      exact refl_of Grows t

/-- The endpoint branch ends with the message that makes the slave open the endpoint. -/
theorem openEndpoint_outbox {arr : Buffer} {pos interface : Nat} {s opened registered : Master}
    (hopen : openHardware arr pos s = .ok () opened)
    (hregister : registerDriverForEdpt ⟨arr, pos⟩ (some (.ofBuffer arr interface))
      opened.events.bMaxPacketSize opened = .ok () registered) :
    (Program.final (openEndpoint arr pos (some interface) s)).outbox = registered.outbox ++
      [.copyOf (MsgType.edptOpen ||| MsgType.debugPrintAsHex) arr pos (arr pos).toUInt16] := by
  rw [openEndpoint_apply, hopen]
  simp only [Option.map_some, hregister]
  rfl

/-! ### Endpoint descriptors that reach behind the response -/

/-- Another byte behind the response. -/
theorem agree_update {arr : Buffer} {len i : Nat} (h : len ≤ i) (byte : UInt8) :
    Buffer.Agree len arr (Function.update arr i byte) :=
  fun j hj => (Function.update_of_ne (by omega) _ _).symm

theorem byte_add_one_ne (byte : UInt8) : byte + 1 ≠ byte := by
  simp

theorem le16_flip (low high : UInt8) :
    le16 low (high ^^^ 1) &&& 0x7ff ≠ le16 low high &&& 0x7ff := by
  intro h
  have hbit := congrArg (fun word : UInt16 => word.toBitVec.getLsbD 8) h
  simp [le16] at hbit

/-- An endpoint descriptor cut off in its first six bytes can be opened with two packet sizes. -/
theorem openHardware_apart (arr : Buffer) {len pos : Nat} (hcut : len ≤ pos + 5) (s : Master) :
    ∃ other, Buffer.Agree len arr other ∧
      Apart (Program.final (openHardware arr pos s)) (Program.final (openHardware other pos s)) := by
  refine ⟨Function.update arr (pos + 5) (arr (pos + 5) ^^^ 1), agree_update hcut _, .inl ?_⟩
  rw [openHardware_calls, openHardware_calls]
  refine clash_of_append List.prefix_rfl List.prefix_rfl fun hsame => ?_
  have hsize := (Call.edptOpen.inj hsame).2.1
  simp only [EndpointPointer.maxPacketSize, Function.update_self,
    Function.update_of_ne (show pos + 4 ≠ pos + 5 by omega)] at hsize
  exact le16_flip _ _ hsize.symm

theorem registerDriverForEdpt_calls (edpt : EndpointPointer) (itf : InterfaceDescriptor)
    (newMps : UInt8) (s : Master) :
    s.calls ++ [.registerDriver edpt.bEndpointAddress edpt.maxPacketSize itf] <+:
      (Program.final (registerDriverForEdpt edpt (some itf) newMps s)).calls := by
  unfold registerDriverForEdpt
  simp only [Program.update_bind]
  refine record_bind_calls (fun _ => ?_) rfl
  refine .bind (.require _ _) fun _ => ?_
  refine .bind (update_grows fun _ => ⟨rfl, rfl⟩) fun _ => ?_
  refine .ite (update_grows fun _ => ⟨rfl, rfl⟩) (.ite ?_ (.stop _))
  refine .bind (update_grows fun _ => ⟨rfl, rfl⟩) fun _ => ?_
  exact .ite (onDcd_grows _) (update_grows fun _ => ⟨rfl, rfl⟩)

/-- An interface descriptor cut off at the end of the response can be copied with two contents. -/
theorem registerDriverForEdpt_apart (arr : Buffer) {len interface : Nat}
    (hcut : len ≤ interface + 8) :
    ∃ other, Buffer.Agree len arr other ∧ ∀ edpt newMps s,
      Apart
        (Program.final (registerDriverForEdpt edpt (some (.ofBuffer arr interface)) newMps s))
        (Program.final (registerDriverForEdpt edpt (some (.ofBuffer other interface)) newMps s)) := by
  refine ⟨Function.update arr (interface + 8) (arr (interface + 8) + 1), agree_update hcut _,
    fun edpt newMps s => .inl ?_⟩
  refine clash_of_append (registerDriverForEdpt_calls _ _ _ _)
    (registerDriverForEdpt_calls _ _ _ _) fun hsame => ?_
  have hitf := (Call.registerDriver.inj hsame).2.2
  have hlast := (InterfaceDescriptor.mk.inj hitf).2.2.2.2.2.2.2.2
  rw [Function.update_self] at hlast
  exact byte_add_one_ne _ hlast.symm

/-- An endpoint descriptor that ends behind the response can be forwarded with two contents. -/
theorem copyOf_apart {arr : Buffer} {len pos : Nat} {length : UInt8} (hstart : pos < len)
    (hcut : len < pos + length.toNat) (flag : UInt16) :
    ∃ other, Buffer.Agree len arr other ∧
      SpiMessage.copyOf flag arr pos length.toUInt16 ≠
        .copyOf flag other pos length.toUInt16 := by
  have hlength : length.toUInt16.toNat = length.toNat := by simp
  have hlast : pos + (length.toNat - 1) = pos + length.toNat - 1 := by omega
  refine ⟨Function.update arr (pos + length.toNat - 1) (arr (pos + length.toNat - 1) + 1),
    agree_update (by omega) _, fun hsame => ?_⟩
  have hpayload := congrArg SpiMessage.payload hsame
  simp only [SpiMessage.copyOf_payload, hlength] at hpayload
  have hbyte := congrArg (fun bytes : List UInt8 => bytes[length.toNat - 1]?) hpayload
  have hin : length.toNat - 1 < length.toNat := by omega
  simp only [Buffer.getElem?_bytesAt _ _ hin, hlast, Function.update_self, Option.some.injEq]
    at hbyte
  exact byte_add_one_ne _ hbyte.symm

/-- The bytes that opening an endpoint reads, where they lie inside the response. -/
theorem endpointFields_agree {arr other : Buffer} {len pos : Nat} (hend : pos + 6 ≤ len)
    (hagree : Buffer.Agree len arr other) : ∀ i, pos + 2 ≤ i → i < pos + 6 → arr i = other i :=
  fun i _ hi => hagree i (by omega)

/-- The interface descriptor is cut off. -/
theorem openEndpoint_apart_interface {arr : Buffer} {len pos interface : Nat}
    {s opened : Master} (hend : pos + 6 ≤ len)
    (hopen : openHardware arr pos s = .ok () opened) (hcut : ¬ interface + 9 ≤ len) :
    ∃ other, Buffer.Agree len arr other ∧
      Apart (Program.final (openEndpoint arr pos (some interface) s))
        (Program.final (openEndpoint other pos (some interface) s)) := by
  have hbehind : len ≤ interface + 8 := by omega
  obtain ⟨other, hagree, hapart⟩ := registerDriverForEdpt_apart arr hbehind
  have hfields := endpointFields_agree hend hagree
  have hopen' : openHardware other pos s = .ok () opened := by
    rw [← openHardware_congr hfields, hopen]
  have hstart := openEndpoint_after_register hopen (some interface)
  have hstart' := openEndpoint_after_register hopen' (some interface)
  rw [Option.map_some] at hstart hstart'
  rw [← registerDriverForEdpt_congr hfields] at hstart'
  exact ⟨other, hagree, (hapart _ _ opened).mono hstart hstart'⟩

/-- The endpoint descriptor is longer than the rest of the response. -/
theorem openEndpoint_apart_forward {arr : Buffer} {len pos interface : Nat}
    {s opened registered : Master} (hend : pos + 6 ≤ len) (hitf : interface + 9 ≤ len)
    (hopen : openHardware arr pos s = .ok () opened)
    (hregister : registerDriverForEdpt ⟨arr, pos⟩ (some (.ofBuffer arr interface))
      opened.events.bMaxPacketSize opened = .ok () registered)
    (hcut : len < pos + (arr pos).toNat) :
    ∃ other, Buffer.Agree len arr other ∧
      Apart (Program.final (openEndpoint arr pos (some interface) s))
        (Program.final (openEndpoint other pos (some interface) s)) := by
  have hpos : pos < len := by omega
  obtain ⟨other, hagree, hne⟩ :=
    copyOf_apart hpos hcut (MsgType.edptOpen ||| MsgType.debugPrintAsHex)
  have hfields := endpointFields_agree hend hagree
  have hbytes : ∀ i, interface ≤ i → i < interface + 9 → arr i = other i :=
    fun i _ hi => hagree i (by omega)
  have hopen' : openHardware other pos s = .ok () opened := by
    rw [← openHardware_congr hfields, hopen]
  have hregister' : registerDriverForEdpt ⟨other, pos⟩ (some (.ofBuffer other interface))
      opened.events.bMaxPacketSize opened = .ok () registered := by
    rw [← registerDriverForEdpt_congr hfields, ← interfaceDescriptor_congr hbytes, hregister]
  have hsame : arr pos = other pos := hagree pos hpos
  refine ⟨other, hagree, .inr ?_⟩
  rw [openEndpoint_outbox hopen hregister, openEndpoint_outbox hopen' hregister', ← hsame]
  exact clash_of_append List.prefix_rfl List.prefix_rfl hne

/-- An endpoint descriptor that is guarded but not covered can be handled in two ways. The cases
follow the reads in their order, each with the earlier ones inside the response. -/
theorem openEndpoint_apart {arr : Buffer} {len : Nat} {v : Visit} {s : Master}
    (hnext : v.next = s.dcd.nextBufferPtr) (hguarded : v.Guarded arr)
    (h : ¬ EndpointCovered arr len v) :
    ∃ other, Buffer.Agree len arr other ∧
      Apart (Program.final (openEndpoint arr v.pos v.itf s))
        (Program.final (openEndpoint other v.pos v.itf s)) := by
  by_cases hend : v.pos + 6 ≤ len
  · have houtcome := openHardware_visit arr hnext
    cases hopen : openHardware arr v.pos s with
    | error reason t =>
        have hrefused := houtcome.error hopen
        exact absurd ⟨hend, hguarded, fun hcan => absurd hcan hrefused,
          fun haccepted => absurd haccepted.canOpen hrefused⟩ h
    | ok value opened =>
        have hsetUp := houtcome.ok hopen
        obtain ⟨interface, hsome⟩ := Option.ne_none_iff_exists'.mp (hguarded.interface hsetUp.canOpen)
        rw [hsome]
        by_cases hitf : interface + 9 ≤ len
        · have hforward : ¬ (v.Accepted arr → v.pos + (arr v.pos).toNat ≤ len) := by
            intro hforward
            refine h ⟨hend, hguarded, fun _ other hother => ?_, hforward⟩
            cases hsome.symm.trans hother
            exact hitf
          obtain ⟨haccepted, hcut⟩ := Classical.not_imp.mp hforward
          obtain ⟨other, hother, hdriver⟩ := haccepted.interface
          cases hsome.symm.trans hother
          obtain ⟨value, registered, hregister, -⟩ := (registerDriverForEdpt_outcome
            hsetUp.canOpen.1 hdriver opened.events.bMaxPacketSize hsetUp.rx).exists_ok
          exact openEndpoint_apart_forward hend hitf hopen hregister (Nat.not_le.mp hcut)
        · exact openEndpoint_apart_interface hend hopen hitf
  · have hcut : len ≤ v.pos + 5 := by omega
    obtain ⟨other, hagree, hapart⟩ := openHardware_apart arr hcut s
    exact ⟨other, hagree, hapart.mono (openEndpoint_after_hardware _ _ _ _)
      (openEndpoint_after_hardware _ _ _ _)⟩

/-! ### The walk -/

/-- The effects of two runs are different. -/
def Differ (s t : Master) : Prop := s.calls ≠ t.calls ∨ Clash s.outbox t.outbox

theorem Apart.differ {s t : Master} (h : Apart s t) : Differ s t := by
  rcases h with hcalls | houtbox
  · exact .inl hcalls.ne
  · exact .inr houtbox

/-- A descriptor that starts at the last byte of the response can be an endpoint or not. -/
theorem walk_differ_type {arr : Buffer} {len pos : Nat} (hpos : pos + 1 = len) (fuel : Nat)
    (itf : Option Nat) (s : Master) :
    ∃ other, Buffer.Agree len arr other ∧
      Differ (Program.final (walk arr len (fuel + 1) pos itf s))
        (Program.final (walk other len (fuel + 1) pos itf s)) := by
  have hlength {first second : Master} {call : Call} (hsame : first.calls = s.calls)
      (hmore : s.calls ++ [call] <+: second.calls) : first.calls ≠ second.calls := by
    intro hcalls
    have hle := hmore.length_le
    rw [← hcalls, hsame, List.length_append, List.length_singleton] at hle
    omega
  have hendpoint {buffer : Buffer} (htype : buffer (pos + 1) = 0x05) :
      s.calls ++ [.edptOpen (EndpointPointer.bEndpointAddress ⟨buffer, pos⟩)
        (EndpointPointer.maxPacketSize ⟨buffer, pos⟩) (EndpointPointer.xfer ⟨buffer, pos⟩)] <+:
          (Program.final (walk buffer len (fuel + 1) pos itf s)).calls := by
    rw [← openHardware_calls]
    exact ((openEndpoint_after_hardware _ _ _ _).1).trans
      (walk_after_endpoint (by omega) htype fuel itf s).1
  by_cases htype : arr (pos + 1) = 0x05
  · refine ⟨Function.update arr (pos + 1) 0, agree_update (by omega) _, .inl ?_⟩
    have hother : Function.update arr (pos + 1) 0 (pos + 1) ≠ 0x05 := by
      rw [Function.update_self]
      decide
    exact (hlength (walk_last_calls hpos hother _ itf s) (hendpoint htype)).symm
  · refine ⟨Function.update arr (pos + 1) 0x05, agree_update (by omega) _, .inl ?_⟩
    exact hlength (walk_last_calls hpos htype _ itf s) (hendpoint (Function.update_self ..))

/-- A walk that stays defined and is not covered can take two courses. -/
theorem walk_differ {arr : Buffer} {len fuel : Nat} {v : Visit} {s : Master}
    (hnext : v.next = s.dcd.nextBufferPtr)
    (hdefined : ¬ ∃ t, walk arr len fuel v.pos v.itf s = .error .undefined t)
    (h : ¬ WalkCovered arr len fuel v) :
    ∃ other, Buffer.Agree len arr other ∧
      Differ (Program.final (walk arr len fuel v.pos v.itf s))
        (Program.final (walk other len fuel v.pos v.itf s)) := by
  induction fuel generalizing v s with
  | zero => exact absurd (fun k hk => absurd hk (Nat.not_lt_zero k)) h
  | succ fuel ih =>
      have hguarded (hpos : v.pos < len) (htype : v.IsEndpoint arr) : v.Guarded arr := by
        rw [walk_undefined_iff hnext] at hdefined
        by_contra hnot
        exact hdefined ⟨0, Nat.succ_pos _, fun j hj => absurd hj (Nat.not_lt_zero j), hpos,
          fun hall => hnot (hall htype)⟩
      rw [walkCovered_succ] at h
      by_cases hhere : v.pos < len → v.Covered arr len
      · obtain ⟨hpasses, hrest⟩ := Classical.not_imp.mp fun hall => h ⟨hhere, hall⟩
        have hpos := hpasses.inside
        have houtcome := walkBody_visit arr hnext
        cases hrun : walkBody arr v.pos v.itf s with
        | error reason t => exact absurd hpasses.accepted (houtcome.error hrun)
        | ok value t =>
            obtain ⟨-, hstep⟩ := houtcome.ok hrun
            have hgoesOn : walk arr len (fuel + 1) v.pos v.itf s =
                walk arr len fuel (v.step arr).pos (v.step arr).itf t := by
              rw [walk_succ hpos, hrun]
              rfl
            rw [hgoesOn] at hdefined
            obtain ⟨other, hagree, hdiffer⟩ := ih hstep hdefined hrest
            obtain ⟨hbody, hitf⟩ := walkBody_congr hagree hnext (hhere hpos)
            have hlength : other v.pos = arr v.pos := (hagree _ hpos).symm
            refine ⟨other, hagree, ?_⟩
            rw [hgoesOn, walk_succ hpos, hbody, hitf, hlength, hrun]
            exact hdiffer
      · obtain ⟨hpos, hcut⟩ := Classical.not_imp.mp hhere
        by_cases htype : v.pos + 1 < len
        · obtain ⟨hfive, hendpoint⟩ := Classical.not_imp.mp fun hall => hcut ⟨htype, hall⟩
          obtain ⟨other, hagree, hapart⟩ :=
            openEndpoint_apart hnext (hguarded hpos hfive) hendpoint
          have hother : other (v.pos + 1) = 0x05 := (hagree _ htype).symm.trans hfive
          exact ⟨other, hagree, (hapart.mono (walk_after_endpoint hpos hfive fuel v.itf s)
            (walk_after_endpoint hpos hother fuel v.itf s)).differ⟩
        · exact walk_differ_type (by omega) fuel v.itf s

/-! ### The response -/

theorem handleHidReport_adds (setup : ControlRequest) (s : Master) :
    (Program.final (handleHidReport setup s)).calls = s.calls ∧
      s.outbox <+: (Program.final (handleHidReport setup s)).outbox := by
  by_cases hreport : setup.wValue = 0x2200 ∧ setup.wIndex = 0x01
  · rw [handleHidReport, Program.when_true hreport]
    exact ⟨rfl, List.prefix_append _ _⟩
  · rw [handleHidReport, Program.when_false hreport]
    exact ⟨rfl, List.prefix_rfl⟩

/-- What follows the walk only adds a message. -/
theorem walk_then_report (program : MasterM Unit) (setup : ControlRequest) (s : Master) :
    (Program.final ((program >>= fun _ => handleHidReport setup) s)).calls =
        (Program.final (program s)).calls ∧
      (Program.final (program s)).outbox <+:
        (Program.final ((program >>= fun _ => handleHidReport setup) s)).outbox := by
  rw [Program.bind_apply]
  cases program s with
  | ok value t => exact handleHidReport_adds setup t
  | error reason t => exact ⟨rfl, List.prefix_rfl⟩

/-- A device descriptor without its packet size can be handled in two ways. -/
theorem interpretResponse_differ_device (arr : Buffer) {len : Nat} {setup : ControlRequest}
    (hrequest : IsDeviceRequest setup) (hcut : len ≤ 7) (live : UInt8) (s : Master) :
    ∃ other, Buffer.Agree len arr other ∧
      Differ (Program.final (interpretResponse arr len setup live s))
        (Program.final (interpretResponse other len setup live s)) := by
  have hmessage (buffer : Buffer) : s.outbox ++
      [.copyOf (MsgType.chgEpxPacketsize ||| MsgType.debugPrintAsHex) buffer 7 1] <+:
        (Program.final (interpretResponse buffer len setup live s)).outbox := by
    unfold interpretResponse
    rw [Program.when_true hrequest]
    refine (Program.Moves.after (R := Grows) (handleDeviceDescriptor buffer) (fun _ => ?_) s).2
    refine .ite (.pure _) (.bind (.when (walk_grows _ _ _ _ _)) fun _ => .when ?_)
    exact .bind .read fun _ => enqueueSpiMessage_grows _
  refine ⟨Function.update arr 7 (arr 7 + 1), agree_update hcut _, .inr ?_⟩
  refine clash_of_append (hmessage _) (hmessage _) fun hsame => ?_
  have hbyte : [arr 7] = [Function.update arr 7 (arr 7 + 1) 7] :=
    congrArg SpiMessage.payload hsame
  rw [Function.update_self, List.singleton_inj] at hbyte
  exact byte_add_one_ne _ hbyte.symm

/-- A configuration that is not covered can be handled in two ways. -/
theorem interpretResponse_differ_config {arr : Buffer} {len : Nat} {setup : ControlRequest}
    {live : UInt8} {s : Master} (hlive : live ≠ 0x5) (hconfig : IsConfigRequest setup)
    (hdefined : ¬ ∃ t, walk arr len len 0 none s = .error .undefined t)
    (h : ¬ WalkCovered arr len len ⟨0, none, s.dcd.nextBufferPtr⟩) :
    ∃ other, Buffer.Agree len arr other ∧
      Differ (Program.final (interpretResponse arr len setup live s))
        (Program.final (interpretResponse other len setup live s)) := by
  have hrequest : ¬ IsDeviceRequest setup := fun h => not_isConfigRequest h hconfig
  obtain ⟨other, hagree, hdiffer⟩ :=
    walk_differ (v := ⟨0, none, s.dcd.nextBufferPtr⟩) rfl hdefined h
  refine ⟨other, hagree, ?_⟩
  unfold interpretResponse
  simp only [Program.when_false hrequest, Program.pure_bind, if_neg hlive,
    Program.when_true hconfig]
  obtain ⟨hcalls, houtbox⟩ := walk_then_report (walk arr len len 0 none) setup s
  obtain ⟨hcalls', houtbox'⟩ := walk_then_report (walk other len len 0 none) setup s
  rcases hdiffer with hne | hclash
  · exact .inl (by rwa [hcalls, hcalls'])
  · exact .inr (hclash.mono houtbox houtbox')

/-- The bytes behind a response have no influence on its handling exactly when what the handler
reads lies inside the response. -/
theorem staleBytesHarmless_iff_covered (s : Master) : StaleBytesHarmless s ↔ ResponseCovered s := by
  refine ⟨fun hharmless => ?_, staleBytesHarmless_of_covered⟩
  have hsame {other : Buffer}
      (hagree : Buffer.Agree s.aggregator.len.toNat s.aggregator.bugger other) :
      ¬ Differ (Program.final (handleSetupResponse s))
        (Program.final (interpretResponse other s.aggregator.len.toNat s.events.setup
          (ControlRequest.ofBuffer s.dcd.setupPacket).bRequest s.interpreting)) := by
    have hruns := congrArg Program.final
      ((handleSetupResponse_withBugger hagree).symm.trans (hharmless other hagree).2)
    rw [Program.final_mapState, Program.final_mapState] at hruns
    have hcalls := congrArg Master.calls hruns
    have houtbox := congrArg Master.outbox hruns
    rintro (hne | hclash)
    · exact hne hcalls.symm
    · exact hclash.ne houtbox.symm
  constructor
  case device =>
    intro hrequest
    by_contra hcut
    obtain ⟨other, hagree, hdiffer⟩ := interpretResponse_differ_device s.aggregator.bugger
      hrequest (Nat.le_of_lt_succ (Nat.not_le.mp hcut)) _ s.interpreting
    exact hsame hagree hdiffer
  case configuration =>
    intro hwalked
    have hdefined : ¬ ∃ t, walk s.aggregator.bugger s.responseLen s.responseLen 0 none
        s.interpreting = .error .undefined t := by
      intro hundefined
      obtain ⟨t, hstops⟩ := (handleSetupResponse_stops_iff .undefined s).mpr ⟨hwalked, hundefined⟩
      exact (hharmless s.aggregator.bugger fun _ _ => rfl).1 t hstops
    by_contra hcut
    obtain ⟨other, hagree, hdiffer⟩ :=
      interpretResponse_differ_config hwalked.1 hwalked.2 hdefined hcut
    exact hsame hagree hdiffer

/-- The first 21 bytes of a configuration that end in the first three bytes of an endpoint
descriptor, with `stale` behind them. -/
def cutConfiguration (stale : List UInt8) : Buffer := fun i =>
  ([9, 2, 34, 0, 1, 1, 0, 0x80, 50, 9, 4, 0, 0, 1, 3, 1, 2, 0, 7, 5, 0x81] ++ stale).getD i 0

/-- The master after the host asked for these 21 bytes and an earlier response left the rest of
the descriptor behind them. -/
def cutResponse : Master :=
  { Master.init 0 with
    events := ⟨64, ⟨0x80, 6, 0x0200, 0, 21⟩, .readingResponse⟩
    aggregator := ⟨cutConfiguration [3, 8, 0, 10], 64, 21⟩ }

theorem cutResponse_not_harmless : ¬ ∀ s, StaleBytesHarmless s := by
  intro hclaim
  have hagree : Buffer.Agree 21 (cutConfiguration [3, 8, 0, 10])
      (cutConfiguration [3, 64, 0, 10]) := by
    unfold Buffer.Agree
    decide
  have hruns := congrArg Program.final (hclaim cutResponse _ hagree).2
  rw [Program.final_mapState] at hruns
  have hcalls := congrArg Master.calls hruns
  revert hcalls
  decide +kernel

end UsbSec.Device
