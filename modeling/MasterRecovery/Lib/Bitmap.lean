import Mathlib.Data.Finset.Insert
import Mathlib.Data.Nat.Bitwise
import Mathlib.Tactic.Cases

/-!
# Bitmaps of machine words

A list of 64-bit words as a set of small numbers: the number `i` has bit
`i % 64` of word `i / 64`. A test outside the words has no answer. Marking a
number inserts it in the set that the words stand for.
-/

namespace MasterRecovery.Bitmap

def mask (i : ℕ) : UInt64 := 1 <<< UInt64.ofNat (i % 64)

/-- Whether the number is marked, if its word exists. -/
def test (words : List UInt64) (i : ℕ) : Option Bool :=
  words[i / 64]?.map fun word => decide (word &&& mask i ≠ 0)

def mark (words : List UInt64) (i : ℕ) : List UInt64 := words.modify (i / 64) (· ||| mask i)

/-- The words stand for the set, as far as they reach. -/
def Represents (words : List UInt64) (s : Finset ℕ) : Prop :=
  ∀ i < 64 * words.length, test words i = some (decide (i ∈ s))

theorem mask_toNat (i : ℕ) : (mask i).toNat = 2 ^ (i % 64) := by
  have hbit : i % 64 < 64 := Nat.mod_lt i (by decide)
  have hpow : 2 ^ (i % 64) < 2 ^ 64 := Nat.pow_lt_pow_right (by decide) hbit
  simp only [mask, UInt64.toNat_shiftLeft, UInt64.toNat_one, UInt64.toNat_ofNat', Nat.shiftLeft_eq,
    Nat.one_mul]
  have hshift : i % 64 % 2 ^ 64 % 64 = i % 64 := by omega
  rw [hshift, Nat.mod_eq_of_lt hpow]

/-- A mask picks out one bit. -/
theorem and_mask_ne_zero {word : UInt64} {i : ℕ} :
    word &&& mask i ≠ 0 ↔ word.toNat.testBit (i % 64) = true := by
  rw [ne_eq, ← UInt64.toNat_inj, UInt64.toNat_and, mask_toNat, Nat.and_two_pow]
  cases hbit : word.toNat.testBit (i % 64) <;> simp

theorem or_mask {word : UInt64} {i j : ℕ} :
    (word ||| mask i) &&& mask j ≠ 0 ↔ word &&& mask j ≠ 0 ∨ i % 64 = j % 64 := by
  rw [and_mask_ne_zero, and_mask_ne_zero, UInt64.toNat_or, Nat.testBit_or, mask_toNat,
    Nat.testBit_two_pow]
  simp

theorem test_mark {words : List UInt64} {i j : ℕ} (hj : j < 64 * words.length) :
    test (mark words i) j = (test words j).map fun marked => marked || decide (i = j) := by
  have hword : j / 64 < words.length := by omega
  simp only [test, mark, List.getElem?_modify, List.getElem?_eq_getElem hword]
  by_cases hsame : i / 64 = j / 64
  · have hiff : i = j ↔ i % 64 = j % 64 := by omega
    simp only [hsame, ↓reduceIte, Option.map_some, hiff, ← Bool.decide_or]
    exact congrArg some (decide_eq_decide.mpr or_mask)
  · have hne : i ≠ j := fun h => hsame (by rw [h])
    simp [hsame, hne]

theorem represents_replicate (n : ℕ) : Represents (List.replicate n 0) ∅ := by
  intro i hi
  have hword : i / 64 < n := by
    rw [List.length_replicate] at hi
    omega
  simp [test, hword]

theorem mark_length {words : List UInt64} {i : ℕ} : (mark words i).length = words.length :=
  List.length_modify ..

theorem Represents.marked {words : List UInt64} {s : Finset ℕ} (h : Represents words s) (i : ℕ) :
    Represents (mark words i) (insert i s) := by
  intro j hj
  rw [mark_length] at hj
  rw [test_mark hj, h j hj]
  simp [eq_comm, Bool.or_comm]

end MasterRecovery.Bitmap
