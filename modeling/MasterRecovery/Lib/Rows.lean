import Mathlib.Data.List.Basic
import Mathlib.Data.List.TakeDrop
import Mathlib.Tactic.Cases
import Mathlib.Tactic.Ring

/-!
# Rows of one length

A long string cut into rows: the element at an offset stands in row `offset / width`
at column `offset % width`. What is written at offsets one after the other
reads as one string when the rows are joined again.
-/

namespace MasterRecovery.Rows

variable {α : Type} {width : ℕ} {rows : List (List α)}

def Uniform (width : ℕ) (rows : List (List α)) : Prop := ∀ row ∈ rows, row.length = width

/-- Write one element at an offset. -/
def write (width : ℕ) (rows : List (List α)) (offset : ℕ) (x : α) : List (List α) :=
  rows.modify (offset / width) (·.set (offset % width) x)

/-- Write elements at offsets one after the other. -/
def fill (width : ℕ) : List (List α) → ℕ → List α → List (List α)
  | rows, _, [] => rows
  | rows, offset, x :: xs => fill width (write width rows offset x) (offset + 1) xs

theorem length_flatten (h : Uniform width rows) : rows.flatten.length = rows.length * width := by
  induction rows with
  | nil => simp
  | cons row rows ih =>
    obtain ⟨hrow, hrows⟩ := List.forall_mem_cons.mp h
    rw [List.flatten_cons, List.length_append, hrow, ih hrows, List.length_cons]
    ring

theorem flatten_take (h : Uniform width rows) (n : ℕ) :
    (rows.take n).flatten = rows.flatten.take (n * width) := by
  induction rows generalizing n with
  | nil => simp
  | cons row rows ih =>
    obtain ⟨hrow, hrows⟩ := List.forall_mem_cons.mp h
    cases n with
    | zero => simp
    | succ n =>
      have hcount : (n + 1) * width = row.length + n * width := by
        rw [hrow]
        ring
      rw [List.take_succ_cons, List.flatten_cons, List.flatten_cons, ih hrows, hcount,
        List.take_length_add_append]

@[simp] theorem write_length (offset : ℕ) (x : α) :
    (write width rows offset x).length = rows.length :=
  List.length_modify ..

theorem Uniform.written (h : Uniform width rows) (offset : ℕ) (x : α) :
    Uniform width (write width rows offset x) := by
  intro row hrow
  obtain ⟨i, hi⟩ := List.mem_iff_getElem?.mp hrow
  rw [Rows.write, List.getElem?_modify] at hi
  obtain ⟨old, hold, rfl⟩ := Option.map_eq_some_iff.mp hi
  have hmem : old ∈ rows := List.mem_iff_getElem?.mpr ⟨i, hold⟩
  split
  · rw [List.length_set, h old hmem]
  · exact h old hmem

/-- A write at an offset is a write there in the joined rows. -/
theorem flatten_write (h : Uniform width rows) (offset : ℕ) (hwidth : 0 < width) (x : α) :
    (write width rows offset x).flatten = rows.flatten.set offset x := by
  induction rows generalizing offset with
  | nil => simp [write]
  | cons row rows ih =>
    obtain ⟨hrow, hrows⟩ := List.forall_mem_cons.mp h
    by_cases hhere : offset < width
    · rw [write, Nat.div_eq_of_lt hhere, Nat.mod_eq_of_lt hhere, List.modify_zero_cons,
        List.flatten_cons, List.flatten_cons, List.set_append_left _ _ (hrow ▸ hhere)]
    · have hlater : offset - width + width = offset := by omega
      have hdiv : offset / width = (offset - width) / width + 1 := by
        rw [← Nat.add_div_right _ hwidth, hlater]
      have hmod : offset % width = (offset - width) % width := by
        rw [← Nat.add_mod_right (offset - width), hlater]
      have hnext := ih hrows (offset - width)
      rw [write] at hnext
      rw [write, hdiv, hmod, List.modify_succ_cons, List.flatten_cons, List.flatten_cons,
        hnext, List.set_append_right _ _ (by omega), hrow]

theorem fill_length (offset : ℕ) (xs : List α) :
    (fill width rows offset xs).length = rows.length := by
  induction xs generalizing rows offset with
  | nil => rfl
  | cons x xs ih => rw [fill, ih, write_length]

theorem Uniform.filled (h : Uniform width rows) (offset : ℕ) (xs : List α) :
    Uniform width (fill width rows offset xs) := by
  induction xs generalizing rows offset with
  | nil => exact h
  | cons x xs ih => exact ih (h.written offset x) (offset + 1)

/-- Replacing the element at an offset, then those after it, replaces them all. -/
theorem replace_cons {long : List α} {offset : ℕ} {x : α} {xs : List α}
    (hfits : offset + (xs.length + 1) ≤ long.length) :
    (long.set offset x).take (offset + 1) ++ (xs ++ (long.set offset x).drop
        (offset + 1 + xs.length)) =
      long.take offset ++ (x :: xs ++ long.drop (offset + (xs.length + 1))) := by
  obtain ⟨front, back, hlong, hfront⟩ : ∃ front back, long = front ++ back ∧ front.length = offset :=
    ⟨long.take offset, long.drop offset, (List.take_append_drop ..).symm,
      List.length_take_of_le (by omega)⟩
  subst hlong hfront
  cases back with
  | nil =>
    rw [List.append_nil] at hfits
    omega
  | cons y back =>
    have hset : (front ++ y :: back).set front.length x = front ++ x :: back := by
      rw [List.set_append_right _ _ (Nat.le_refl _), Nat.sub_self, List.set_cons_zero]
    have hnext : front.length + 1 + xs.length = front.length + (xs.length + 1) := by omega
    rw [hset, hnext, List.drop_length_add_append, List.drop_length_add_append,
      List.take_length_add_append, List.take_left]
    simp

/-- What is filled in replaces as much of the joined rows, from the offset on. -/
theorem flatten_fill (h : Uniform width rows) (hwidth : 0 < width) {offset : ℕ} {xs : List α}
    (hfits : offset + xs.length ≤ rows.flatten.length) :
    (fill width rows offset xs).flatten =
      rows.flatten.take offset ++ (xs ++ rows.flatten.drop (offset + xs.length)) := by
  induction xs generalizing rows offset with
  | nil => simp [fill]
  | cons x xs ih =>
    rw [List.length_cons] at hfits
    rw [fill, ih (h.written offset x), flatten_write h offset hwidth, replace_cons hfits,
      List.length_cons]
    rw [flatten_write h offset hwidth, List.length_set]
    omega

end MasterRecovery.Rows
