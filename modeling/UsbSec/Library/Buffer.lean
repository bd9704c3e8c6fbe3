import Mathlib.Data.List.GetD

/-!
# Byte buffers

A buffer is a function from indices to bytes: the bytes at an address and behind it. `bytesAt`
reads a run of bytes, `writeAt` overwrites one. A write is seen by the reads inside it and by
no read outside it.
-/

namespace UsbSec.Library

/-- The bytes at a base address and behind it. -/
abbrev Buffer := Nat → UInt8

namespace Buffer

/-- The `count` bytes from index `start` on. -/
def bytesAt (buffer : Buffer) (start count : Nat) : List UInt8 :=
  (List.range count).map fun i => buffer (start + i)

/-- The buffer after `bytes` are copied to index `start`. -/
def writeAt (buffer : Buffer) (start : Nat) (bytes : List UInt8) : Buffer := fun i =>
  if start ≤ i then bytes.getD (i - start) (buffer i) else buffer i

/-- The two buffers have the same first `count` bytes. -/
def Agree (count : Nat) (first second : Buffer) : Prop := ∀ i < count, first i = second i

@[simp] theorem length_bytesAt (buffer : Buffer) (start count : Nat) :
    (bytesAt buffer start count).length = count := by
  simp [bytesAt]

@[simp] theorem bytesAt_zero (buffer : Buffer) (start : Nat) : bytesAt buffer start 0 = [] := rfl

theorem getElem?_bytesAt (buffer : Buffer) (start : Nat) {count i : Nat} (h : i < count) :
    (bytesAt buffer start count)[i]? = some (buffer (start + i)) := by
  simp [bytesAt, h]

theorem bytesAt_succ (buffer : Buffer) (start count : Nat) :
    bytesAt buffer start (count + 1) =
      bytesAt buffer start count ++ [buffer (start + count)] := by
  simp [bytesAt, List.range_succ]

theorem bytesAt_add (buffer : Buffer) (start first second : Nat) :
    bytesAt buffer start (first + second) =
      bytesAt buffer start first ++ bytesAt buffer (start + first) second := by
  induction second with
  | zero => simp
  | succ second ih =>
      rw [← Nat.add_assoc, bytesAt_succ, ih, bytesAt_succ, List.append_assoc, Nat.add_assoc]

theorem bytesAt_congr {first second : Buffer} {start count : Nat}
    (h : ∀ i, start ≤ i → i < start + count → first i = second i) :
    bytesAt first start count = bytesAt second start count := by
  unfold bytesAt
  refine List.map_congr_left fun i hi => h (start + i) (Nat.le_add_right _ _) ?_
  rw [List.mem_range] at hi
  omega

theorem Agree.bytesAt {count : Nat} {first second : Buffer} (h : Agree count first second)
    {start size : Nat} (hsize : start + size ≤ count) :
    bytesAt first start size = bytesAt second start size :=
  bytesAt_congr fun i _ hi => h i (by omega)

theorem writeAt_of_lt (buffer : Buffer) {start i : Nat} (bytes : List UInt8) (h : i < start) :
    writeAt buffer start bytes i = buffer i := by
  simp [writeAt, Nat.not_le.mpr h]

theorem writeAt_of_le (buffer : Buffer) {start i : Nat} (bytes : List UInt8)
    (h : start + bytes.length ≤ i) : writeAt buffer start bytes i = buffer i := by
  unfold writeAt
  rw [if_pos (by omega), List.getD_eq_default _ _ (by omega)]

theorem writeAt_inside (buffer : Buffer) (start : Nat) (bytes : List UInt8) {i : Nat}
    (h : i < bytes.length) : writeAt buffer start bytes (start + i) = bytes[i] := by
  unfold writeAt
  rw [if_pos (Nat.le_add_right _ _), Nat.add_sub_cancel_left, List.getD_eq_getElem _ _ h]

@[simp] theorem writeAt_nil (buffer : Buffer) (start : Nat) : writeAt buffer start [] = buffer := by
  funext i
  simp [writeAt]

/-- A write of the bytes that a part of the buffer has anyway leaves that part as it was. -/
theorem writeAt_agree {buffer : Buffer} {start count : Nat} {bytes : List UInt8}
    (h : ∀ i < bytes.length, start + i < count → bytes.getD i 0 = buffer (start + i)) :
    Agree count buffer (writeAt buffer start bytes) := by
  intro i hi
  by_cases hbefore : i < start
  · rw [writeAt_of_lt buffer bytes hbefore]
  · by_cases hbehind : start + bytes.length ≤ i
    · rw [writeAt_of_le buffer bytes hbehind]
    · obtain ⟨offset, rfl⟩ : ∃ offset, i = start + offset := ⟨i - start, by omega⟩
      have hoffset : offset < bytes.length := by omega
      rw [writeAt_inside buffer start bytes hoffset, ← h offset hoffset hi]
      exact List.getD_eq_getElem _ _ hoffset

/-- What was written is read back. -/
theorem bytesAt_writeAt_same (buffer : Buffer) (start : Nat) (bytes : List UInt8) :
    bytesAt (writeAt buffer start bytes) start bytes.length = bytes := by
  refine List.ext_getElem (by simp) fun i hi hbytes => ?_
  simp only [bytesAt, List.getElem_map, List.getElem_range]
  exact writeAt_inside buffer start bytes hbytes

/-- A write at or behind the end of a run leaves the run as it was. -/
theorem bytesAt_writeAt_before (buffer : Buffer) {start count position : Nat}
    (bytes : List UInt8) (h : start + count ≤ position) :
    bytesAt (writeAt buffer position bytes) start count = bytesAt buffer start count :=
  bytesAt_congr fun _ _ hi => writeAt_of_lt buffer bytes (by omega)

end Buffer

end UsbSec.Library
