import UsbSec.Usb.Types

/-!
# Configurations

The response to a request for a configuration is the configuration descriptor with the
descriptors of the interfaces and endpoints behind it. A configuration is the list of all of
these, each with its type and the bytes behind the type.
-/

namespace UsbSec.Usb

open Library

/-- A descriptor. Its first byte is its length. -/
structure Descriptor where
  bDescriptorType : UInt8
  fields : List UInt8
  bounded : fields.length + 2 < 256
  deriving DecidableEq

namespace Descriptor

/-- The bytes of a descriptor. -/
def bytes (d : Descriptor) : List UInt8 :=
  UInt8.ofNat (d.fields.length + 2) :: d.bDescriptorType :: d.fields

@[simp] theorem length_bytes (d : Descriptor) : d.bytes.length = d.fields.length + 2 := rfl

/-- The descriptor is laid out at index `pos`. -/
def At (d : Descriptor) (arr : Buffer) (pos : Nat) : Prop :=
  arr.bytesAt pos d.bytes.length = d.bytes

/-- The descriptor read as an endpoint descriptor. -/
def endpoint (d : Descriptor) : EndpointPointer := ⟨fun i => d.bytes.getD i 0, 0⟩

/-- The descriptor read as an interface descriptor. -/
def interface (d : Descriptor) : InterfaceDescriptor := .ofBuffer (fun i => d.bytes.getD i 0) 0

def IsInterface (d : Descriptor) : Prop := d.bDescriptorType = 0x04

def IsEndpoint (d : Descriptor) : Prop := d.bDescriptorType = 0x05

instance (d : Descriptor) : Decidable d.IsInterface := inferInstanceAs (Decidable (_ = _))

instance (d : Descriptor) : Decidable d.IsEndpoint := inferInstanceAs (Decidable (_ = _))

/-- An interface descriptor of nine bytes at least, for the HID or the mass-storage class. -/
structure IsSupported (d : Descriptor) : Prop where
  whole : 9 ≤ d.bytes.length
  supported : d.bytes.getD 5 0 = 0x03 ∨ d.bytes.getD 5 0 = 0x08

/-- An endpoint descriptor of seven bytes at least, for an endpoint numbered 1 to 15. -/
structure IsWhole (d : Descriptor) : Prop where
  whole : 7 ≤ d.bytes.length
  positive : 0 < (tuEdptNumber d.endpoint.bEndpointAddress).toNat
  bounded : (tuEdptNumber d.endpoint.bEndpointAddress).toNat ≤ 15

instance (d : Descriptor) : Decidable d.IsSupported :=
  decidable_of_iff (9 ≤ d.bytes.length ∧ (d.bytes.getD 5 0 = 0x03 ∨ d.bytes.getD 5 0 = 0x08))
    ⟨fun h => ⟨h.1, h.2⟩, fun h => ⟨h.1, h.2⟩⟩

instance (d : Descriptor) : Decidable d.IsWhole :=
  decidable_of_iff (7 ≤ d.bytes.length ∧ 0 < (tuEdptNumber d.endpoint.bEndpointAddress).toNat ∧
    (tuEdptNumber d.endpoint.bEndpointAddress).toNat ≤ 15)
    ⟨fun h => ⟨h.1, h.2.1, h.2.2⟩, fun h => ⟨h.1, h.2, h.3⟩⟩

theorem At.byte {d : Descriptor} {arr : Buffer} {pos : Nat} (h : d.At arr pos) {i : Nat}
    (hi : i < d.bytes.length) : arr (pos + i) = d.bytes.getD i 0 := by
  have hread := Buffer.getElem?_bytesAt arr pos hi
  rw [h] at hread
  rw [List.getD_eq_getElem?_getD, hread, Option.getD_some]

theorem At.length {d : Descriptor} {arr : Buffer} {pos : Nat} (h : d.At arr pos) :
    (arr pos).toNat = d.bytes.length := by
  have hbounded := d.bounded
  have hbyte : arr pos = UInt8.ofNat (d.fields.length + 2) := h.byte (i := 0) (by simp)
  rw [hbyte, UInt8.toNat_ofNat', length_bytes]
  omega

theorem At.type {d : Descriptor} {arr : Buffer} {pos : Nat} (h : d.At arr pos) :
    arr (pos + 1) = d.bDescriptorType := h.byte (i := 1) (by simp)

/-- The fields that the firmware reads of an endpoint descriptor in a buffer. -/
structure SameEndpoint (first second : EndpointPointer) : Prop where
  bEndpointAddress : first.bEndpointAddress = second.bEndpointAddress
  xfer : first.xfer = second.xfer
  maxPacketSize : first.maxPacketSize = second.maxPacketSize

theorem At.endpoint {d : Descriptor} {arr : Buffer} {pos : Nat} (h : d.At arr pos)
    (hwhole : 7 ≤ d.bytes.length) : SameEndpoint ⟨arr, pos⟩ d.endpoint := by
  have hbyte {i : Nat} (hi : i < 7) : arr (pos + i) = d.bytes.getD (0 + i) 0 := by
    rw [Nat.zero_add]
    exact h.byte (by omega)
  refine ⟨hbyte (by decide), ?_, ?_⟩
  · show arr (pos + 3) &&& 0x3 = _
    rw [hbyte (by decide)]
    rfl
  · show le16 (arr (pos + 4)) (arr (pos + 5)) &&& 0x7ff = _
    rw [hbyte (by decide), hbyte (by decide)]
    rfl

theorem At.interface {d : Descriptor} {arr : Buffer} {pos : Nat} (h : d.At arr pos)
    (hwhole : 9 ≤ d.bytes.length) : InterfaceDescriptor.ofBuffer arr pos = d.interface := by
  have hbyte {i : Nat} (hi : i < 9) : arr (pos + i) = d.bytes.getD (0 + i) 0 := by
    rw [Nat.zero_add]
    exact h.byte (by omega)
  have hfirst : arr pos = d.bytes.getD 0 0 := hbyte (i := 0) (by decide)
  simp only [InterfaceDescriptor.ofBuffer, Descriptor.interface, hfirst, hbyte (i := 1) (by decide),
    hbyte (i := 2) (by decide), hbyte (i := 3) (by decide), hbyte (i := 4) (by decide),
    hbyte (i := 5) (by decide), hbyte (i := 6) (by decide), hbyte (i := 7) (by decide),
    hbyte (i := 8) (by decide)]

end Descriptor

/-- The bytes of a configuration. -/
def configurationBytes (config : List Descriptor) : List UInt8 := config.flatMap Descriptor.bytes

/-- The endpoint descriptors of a configuration. -/
def endpointsOf (config : List Descriptor) : List Descriptor :=
  config.filter fun d => d.IsEndpoint

/-- The rest of a valid configuration: every interface is of a supported class, and endpoint
descriptors are whole and come behind an interface descriptor. -/
def ValidFrom : Bool → List Descriptor → Prop
  | _, [] => True
  | inInterface, d :: rest =>
      (d.IsInterface → d.IsSupported) ∧ (d.IsEndpoint → inInterface = true ∧ d.IsWhole) ∧
        ValidFrom (inInterface || decide d.IsInterface) rest

instance decidableValidFrom : ∀ inInterface config, Decidable (ValidFrom inInterface config)
  | _, [] => isTrue trivial
  | inInterface, d :: rest =>
      have := decidableValidFrom (inInterface || decide d.IsInterface) rest
      inferInstanceAs (Decidable (_ ∧ _ ∧ _))

/-- The endpoint descriptors of a valid configuration are whole. -/
theorem ValidFrom.whole {inInterface : Bool} {config : List Descriptor}
    (h : ValidFrom inInterface config) : ∀ d ∈ endpointsOf config, d.IsWhole := by
  induction config generalizing inInterface with
  | nil => simp [endpointsOf]
  | cons first rest ih =>
      intro d hmem
      obtain ⟨hin, hendpoint⟩ := List.mem_filter.mp hmem
      have hendpoint : d.IsEndpoint := of_decide_eq_true hendpoint
      rcases List.mem_cons.mp hin with rfl | hrest
      · exact (h.2.1 hendpoint).2
      · exact ih h.2.2 d (List.mem_filter.mpr ⟨hrest, decide_eq_true hendpoint⟩)

/-- A configuration is laid out at index `pos` when each of its descriptors is. -/
theorem bytesAt_configuration {arr : Buffer} {pos : Nat} {d : Descriptor} {rest : List Descriptor}
    (h : arr.bytesAt pos (configurationBytes (d :: rest)).length = configurationBytes (d :: rest)) :
    d.At arr pos ∧ arr.bytesAt (pos + d.bytes.length) (configurationBytes rest).length =
      configurationBytes rest := by
  have hsplit : configurationBytes (d :: rest) = d.bytes ++ configurationBytes rest :=
    List.flatMap_cons
  rw [hsplit, List.length_append, Buffer.bytesAt_add] at h
  exact List.append_inj h (Buffer.length_bytesAt _ _ _)

/-! ## Endpoints and their interfaces -/

/-- The endpoint descriptor `d` is in the configuration, and `itf` is the nearest interface
descriptor before it. -/
def Under (config : List Descriptor) (itf d : Descriptor) : Prop :=
  ∃ before between after, config = before ++ itf :: (between ++ d :: after) ∧ itf.IsInterface ∧
    d.IsEndpoint ∧ ∀ other ∈ between, ¬ other.IsInterface

/-- The endpoint descriptors that follow, each behind the interface descriptor it lies under, when
`itf` is the interface descriptor that was met last. -/
def pairsFrom : Option Descriptor → List Descriptor → List (Descriptor × Descriptor)
  | _, [] => []
  | itf, d :: rest =>
      if d.IsEndpoint then (itf.toList.map fun above => (above, d)) ++ pairsFrom itf rest
      else pairsFrom (if d.IsInterface then some d else itf) rest

theorem not_isInterface_of_isEndpoint {d : Descriptor} (h : d.IsEndpoint) : ¬ d.IsInterface := by
  intro hinterface
  unfold Descriptor.IsEndpoint at h
  unfold Descriptor.IsInterface at hinterface
  exact absurd (h.symm.trans hinterface) (by decide)

theorem Under.cons {config : List Descriptor} {itf d : Descriptor} (h : Under config itf d)
    (first : Descriptor) : Under (first :: config) itf d := by
  obtain ⟨before, between, after, rfl, hrest⟩ := h
  exact ⟨first :: before, between, after, rfl, hrest⟩

/-- An endpoint is listed with the nearest interface descriptor before it, which is the one met
last when there is none in the list. -/
theorem mem_pairsFrom {config : List Descriptor} {above : Option Descriptor} {itf d : Descriptor}
    (h : (itf, d) ∈ pairsFrom above config) :
    Under config itf d ∨ above = some itf ∧ ∃ between after, config = between ++ d :: after ∧
      d.IsEndpoint ∧ ∀ other ∈ between, ¬ other.IsInterface := by
  induction config generalizing above with
  | nil => cases h
  | cons first rest ih =>
      -- A descriptor in front that is no interface leaves what was met last.
      have hskip (hfirst : ¬ first.IsInterface) (hrest : (itf, d) ∈ pairsFrom above rest) :
          Under (first :: rest) itf d ∨ above = some itf ∧ ∃ between after,
            first :: rest = between ++ d :: after ∧ d.IsEndpoint ∧
              ∀ other ∈ between, ¬ other.IsInterface := by
        rcases ih hrest with hunder | ⟨habove, between, after, rfl, hd, hbetween⟩
        · exact .inl (hunder.cons first)
        · refine .inr ⟨habove, first :: between, after, rfl, hd, fun other hmem => ?_⟩
          rcases List.mem_cons.mp hmem with rfl | hin
          · exact hfirst
          · exact hbetween other hin
      rw [pairsFrom] at h
      by_cases hendpoint : first.IsEndpoint
      · rw [if_pos hendpoint] at h
        rcases List.mem_append.mp h with hhere | hlater
        · obtain ⟨other, hother, hsame⟩ := List.mem_map.mp hhere
          cases hsame
          exact .inr ⟨Option.mem_toList.mp hother, [], rest, rfl, hendpoint, by simp⟩
        · exact hskip (not_isInterface_of_isEndpoint hendpoint) hlater
      · rw [if_neg hendpoint] at h
        by_cases hinterface : first.IsInterface
        · rw [if_pos hinterface] at h
          rcases ih h with hunder | ⟨hsome, between, after, rfl, hd, hbetween⟩
          · exact .inl (hunder.cons first)
          · cases hsome
            exact .inl ⟨[], between, after, rfl, hinterface, hd, hbetween⟩
        · rw [if_neg hinterface] at h
          exact hskip hinterface h

/-- The endpoint descriptors of a valid configuration all lie under an interface descriptor. -/
theorem ValidFrom.pairsFrom_endpoints {inInterface : Bool} {config : List Descriptor}
    (h : ValidFrom inInterface config) (above : Option Descriptor)
    (habove : inInterface = true → above.isSome) :
    (pairsFrom above config).map Prod.snd = endpointsOf config := by
  induction config generalizing inInterface above with
  | nil => rfl
  | cons d rest ih =>
      obtain ⟨-, hendpoint, hrest⟩ := h
      rw [pairsFrom]
      by_cases hhere : d.IsEndpoint
      · have hsome := habove (hendpoint hhere).1
        obtain ⟨itf, rfl⟩ := Option.isSome_iff_exists.mp hsome
        have htail := ih hrest (some itf) fun _ => rfl
        simp [endpointsOf, hhere] at htail ⊢
        exact htail
      · have htail := ih hrest (if d.IsInterface then some d else above) ?_
        · simp [endpointsOf, hhere] at htail ⊢
          exact htail
        · intro hin
          by_cases hinterface : d.IsInterface
          · simp [hinterface]
          · rw [if_neg hinterface]
            exact habove (by simpa [hinterface] using hin)

/-! ## Interfaces and their endpoints -/

/-- The endpoint descriptors before the next interface descriptor. -/
def endpointsBelow (config : List Descriptor) : List Descriptor :=
  endpointsOf (config.takeWhile fun d => ¬ d.IsInterface)

/-- The interfaces of a configuration, each with its endpoint descriptors. -/
def interfacesOf : List Descriptor → List (Descriptor × List Descriptor)
  | [] => []
  | d :: rest =>
      if d.IsInterface then (d, endpointsBelow rest) :: interfacesOf rest else interfacesOf rest

/-- The endpoint descriptors of an interface, each behind the interface descriptor. -/
def pairsOf (interface : Descriptor × List Descriptor) : List (Descriptor × Descriptor) :=
  interface.2.map fun d => (interface.1, d)

theorem endpointsBelow_cons {d : Descriptor} (h : ¬ d.IsInterface) (rest : List Descriptor) :
    endpointsBelow (d :: rest) =
      if d.IsEndpoint then d :: endpointsBelow rest else endpointsBelow rest := by
  unfold endpointsBelow endpointsOf
  simp only [List.takeWhile_cons, h, not_false_eq_true, decide_true, if_true, List.filter_cons,
    decide_eq_true_eq]

/-- Listing the endpoints interface by interface gives the same list. -/
theorem pairsFrom_eq (above : Option Descriptor) (config : List Descriptor) :
    pairsFrom above config = (above.toList.flatMap fun itf => pairsOf (itf, endpointsBelow config)) ++
      (interfacesOf config).flatMap pairsOf := by
  induction config generalizing above with
  | nil => cases above <;> rfl
  | cons d rest ih =>
      rw [pairsFrom, interfacesOf]
      by_cases hendpoint : d.IsEndpoint
      · have hnot := not_isInterface_of_isEndpoint hendpoint
        rw [if_pos hendpoint, if_neg hnot, endpointsBelow_cons hnot, if_pos hendpoint, ih above]
        cases above <;> simp [pairsOf]
      · by_cases hinterface : d.IsInterface
        · rw [if_neg hendpoint, if_pos hinterface, if_pos hinterface, ih (some d)]
          have hnone : endpointsBelow (d :: rest) = [] := by
            simp [endpointsBelow, endpointsOf, hinterface]
          cases above <;> simp [pairsOf, hnone]
        · rw [if_neg hendpoint, if_neg hinterface, if_neg hinterface,
            endpointsBelow_cons hinterface, if_neg hendpoint, ih above]

end UsbSec.Usb
