import Mathlib.Data.List.Basic

/-!
# Splitting a list into packets

A list is sent in packets of a fixed size; only the last packet may be shorter, and the empty list
is one empty packet. In the other direction packets are taken until one is short or as many
elements have arrived as were asked for.
-/

namespace UsbSec.Library

variable {α : Type}

/-- The first packet of a list and what is behind it. -/
theorem take_drop_of_append {size : Nat} {content first second : List α}
    (h : content = first ++ second) (hlength : first.length = min content.length size) :
    content.take size = first ∧ content.drop size = second := by
  subst h
  rw [List.length_append] at hlength
  by_cases hshort : first.length + second.length ≤ size
  · have hempty : second = [] := List.eq_nil_of_length_eq_zero (by omega)
    subst hempty
    rw [List.append_nil]
    exact ⟨List.take_of_length_le (by omega), List.drop_of_length_le (by omega)⟩
  · have hsize : first.length = size := by omega
    exact ⟨List.take_left' hsize, List.drop_left' hsize⟩

/-- Cut a list into packets of `size` elements. -/
def split (size : Nat) (content : List α) : List (List α) :=
  if size = 0 ∨ content.length ≤ size then [content]
  else content.take size :: split size (content.drop size)
termination_by content.length
decreasing_by
  rw [List.length_drop]
  omega

theorem split_last {size : Nat} {content : List α} (h : content.length ≤ size) :
    split size content = [content] := by
  rw [split, if_pos (.inr h)]

theorem split_more {size : Nat} {content : List α} (hsize : 0 < size)
    (h : size < content.length) :
    split size content = content.take size :: split size (content.drop size) := by
  rw [split, if_neg (by omega)]

/-- Induction on what is left to be sent. -/
theorem split_induction {size : Nat} (hsize : 0 < size) {P : List α → Prop}
    (hlast : ∀ content, content.length ≤ size → P content)
    (hmore : ∀ content, size < content.length → P (content.drop size) → P content)
    (content : List α) : P content := by
  induction hlength : content.length using Nat.strongRecOn generalizing content with
  | _ length ih =>
      by_cases hshort : content.length ≤ size
      · exact hlast content hshort
      · refine hmore content (by omega) (ih (content.drop size).length ?_ _ rfl)
        rw [List.length_drop]
        omega

/-- No element is lost, added or moved. -/
theorem flatten_split {size : Nat} (hsize : 0 < size) (content : List α) :
    (split size content).flatten = content := by
  induction content using split_induction hsize with
  | hlast content h =>
      rw [split_last h]
      exact List.append_nil content
  | hmore content h ih =>
      rw [split_more hsize h, List.flatten_cons, ih, List.take_append_drop]

/-- There are as many packets as it takes, and at least one. -/
theorem length_split {size : Nat} (hsize : 0 < size) (content : List α) :
    (split size content).length = max 1 ((content.length + size - 1) / size) := by
  induction content using split_induction hsize with
  | hlast content h =>
      have hquotient : (content.length + size - 1) / size ≤ 1 := by
        rw [Nat.div_le_iff_le_mul_add_pred hsize]
        omega
      rw [split_last h, List.length_singleton]
      omega
  | hmore content h ih =>
      have hrest : content.length + size - 1 = content.length - size + size - 1 + size := by omega
      have hpositive : 1 ≤ (content.length - size + size - 1) / size := by
        rw [Nat.le_div_iff_mul_le hsize]
        omega
      rw [split_more hsize h, List.length_cons, ih, List.length_drop, hrest,
        Nat.add_div_right _ hsize]
      omega

/-- Each packet is full, or is what remains. -/
theorem length_packet {size : Nat} (hsize : 0 < size) (content : List α) {i : Nat}
    {packet : List α} (h : (split size content)[i]? = some packet) :
    packet.length = min (content.length - size * i) size := by
  induction content using split_induction hsize generalizing i with
  | hlast content hshort =>
      rw [split_last hshort] at h
      cases i with
      | zero =>
          cases h
          rw [Nat.mul_zero]
          omega
      | succ i => cases h
  | hmore content hlong ih =>
      rw [split_more hsize hlong] at h
      cases i with
      | zero =>
          cases h
          rw [Nat.mul_zero, List.length_take]
          omega
      | succ i =>
          rw [ih h, List.length_drop, Nat.mul_succ]
          omega

/-- The packets are taken until one is shorter than `size` or `remaining` elements have arrived. No
packet is longer than what is asked for. -/
def Fills (size : Nat) : Nat → List (List α) → Prop
  | _, [] => False
  | remaining, packet :: rest => packet.length ≤ min remaining size ∧
      if packet.length < size ∨ packet.length = remaining then rest = []
      else Fills size (remaining - packet.length) rest

instance decidableFills (size : Nat) : ∀ (remaining : Nat) (packets : List (List α)),
    Decidable (Fills size remaining packets)
  | _, [] => inferInstanceAs (Decidable False)
  | remaining, packet :: rest => by
      unfold Fills
      have := decidableFills size (remaining - packet.length) rest
      exact inferInstance

/-- No more arrives than was asked for. -/
theorem Fills.length_le {size remaining : Nat} {packets : List (List α)}
    (h : Fills size remaining packets) : packets.flatten.length ≤ remaining := by
  induction packets generalizing remaining with
  | nil => exact h.elim
  | cons packet rest ih =>
      obtain ⟨hle, hrest⟩ := h
      rw [List.flatten_cons, List.length_append]
      split at hrest
      · rw [hrest]
        show packet.length + 0 ≤ remaining
        omega
      · have htail := ih hrest
        omega

end UsbSec.Library
