import BlueprintBridge.Layout.ValueOps

/-!
# Cloning the values of a buffer

Values lie side by side in a buffer, all of one width. Putting one in its place changes that place
and nothing else, so cloning the first values of one buffer over those of another, one by one,
leaves there a clone of each and every byte behind them as it was.
-/

namespace BlueprintBridge

set_option autoImplicit false

/-- Clones of values of this width are as wide, and equal to what they are clones of. -/
structure Clones (width : Nat) (equal : Bytes → Bytes → Prop) (clone : Bytes → Bytes) : Prop where
  length : ∀ value, value.length = width → (clone value).length = width
  equal : ∀ value, value.length = width → equal (clone value) value

variable {width i j : Nat} {value src dest buffer : Bytes}

theorem place_before (width : Nat) (before : i < j) : i * width + width ≤ j * width := by
  have bound := Nat.mul_le_mul_right width (Nat.succ_le_of_lt before)
  rwa [Nat.succ_mul] at bound

theorem length_value_at (inside : i * width + width ≤ buffer.length) :
    (valueAt width i buffer).length = width := by
  rw [valueAt, List.length_take, List.length_drop]
  omega

theorem length_put_value (whole : value.length = width)
    (inside : i * width + width ≤ buffer.length) :
    (putValue width i value buffer).length = buffer.length := by
  simp only [putValue, List.length_append, List.length_take, List.length_drop, whole]
  omega

theorem value_at_put_value (whole : value.length = width)
    (inside : i * width + width ≤ buffer.length) :
    valueAt width i (putValue width i value buffer) = value := by
  have start : (buffer.take (i * width)).length = i * width := by
    rw [List.length_take]
    omega
  rw [valueAt, putValue, List.append_assoc, List.drop_left' start, List.take_left' whole]

theorem value_at_put_value_of_lt (before : j < i) (inside : i * width ≤ buffer.length) :
    valueAt width j (putValue width i value buffer) = valueAt width j buffer := by
  have apart := place_before width before
  have first : (buffer.take (i * width)).length = i * width := by
    rw [List.length_take]
    omega
  have rest : ((buffer.take (i * width)).drop (j * width)).length = i * width - j * width := by
    rw [List.length_drop, first]
  rw [valueAt, valueAt, putValue, List.append_assoc,
    List.drop_append_of_le_length (by omega), List.take_append_of_le_length (by omega),
    List.drop_take, List.take_take, Nat.min_eq_left (by omega)]

theorem getElem?_put_value_of_le (whole : value.length = width)
    (inside : i * width + width ≤ buffer.length) (behind : i * width + width ≤ j) :
    (putValue width i value buffer)[j]? = buffer[j]? := by
  have front : (buffer.take (i * width) ++ value).length = i * width + width := by
    rw [List.length_append, List.length_take, whole]
    omega
  rw [putValue, List.getElem?_append_right (by omega), front, List.getElem?_drop]
  congr 1
  omega

structure Cloned (width count : Nat) (clone : Bytes → Bytes) (src dest after : Bytes) : Prop where
  length : after.length = dest.length
  values : ∀ i < count, valueAt width i after = clone (valueAt width i src)
  behind : ∀ j, count * width ≤ j → after[j]? = dest[j]?

theorem cloned_cloneValues {count : Nat} {clone : Bytes → Bytes}
    (whole : ∀ value, value.length = width → (clone value).length = width)
    (enough : count * width ≤ src.length) (room : count * width ≤ dest.length) :
    Cloned width count clone src dest (cloneValues width clone src count dest) := by
  induction count with
  | zero => exact ⟨rfl, fun _ none => absurd none (Nat.not_lt_zero _), fun _ _ => rfl⟩
  | succ n ih =>
      rw [Nat.succ_mul] at enough room
      have earlier := ih (by omega) (by omega)
      have inside : n * width + width ≤ (cloneValues width clone src n dest).length := by
        rw [earlier.length]
        exact room
      have wide : (clone (valueAt width n src)).length = width :=
        whole _ (length_value_at enough)
      constructor
      · exact (length_put_value wide inside).trans earlier.length
      · intro i bound
        rcases Nat.lt_succ_iff_lt_or_eq.mp bound with before | rfl
        · exact (value_at_put_value_of_lt before (by omega)).trans (earlier.values i before)
        · exact value_at_put_value wide inside
      · intro j behind
        rw [Nat.succ_mul] at behind
        exact (getElem?_put_value_of_le wide inside behind).trans (earlier.behind j (by omega))

example : (CopyRule.cloneEach 2).run 2 [1, 2, 3, 4, 5] [9, 9, 9, 9, 9] =
    (true, [1, 2, 3, 4, 9]) := by decide

end BlueprintBridge
