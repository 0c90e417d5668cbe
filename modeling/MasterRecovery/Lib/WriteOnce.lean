import MasterRecovery.Lib.Checks
import Std.Data.TreeMap

/-!
# Write-once registers

A table in which an entry, once written, can only be written again with the
same value. A successful write leaves the value there, keeps every other entry
and brings in nothing else. An erased entry may be written afresh.
-/

namespace MasterRecovery
open Checks

variable {ε κ α : Type} [Ord κ]

theorem getElem?_insert_iff [Std.TransOrd κ] [Std.LawfulEqOrd κ] {table : Std.TreeMap κ α}
    {key key' : κ} {value value' : α} :
    (table.insert key value)[key']? = some value' ↔
      key' = key ∧ value' = value ∨ key' ≠ key ∧ table[key']? = some value' := by
  rw [Std.TreeMap.getElem?_insert]
  by_cases h : key = key'
  · subst h
    simp [eq_comm]
  · rw [if_neg (by rwa [Std.compare_eq_iff_eq])]
    simp [Ne.symm h]

theorem getElem?_erase_iff [Std.TransOrd κ] [Std.LawfulEqOrd κ] {table : Std.TreeMap κ α}
    {key key' : κ} {value : α} :
    (table.erase key)[key']? = some value ↔ key' ≠ key ∧ table[key']? = some value := by
  rw [Std.TreeMap.getElem?_erase]
  by_cases h : key = key'
  · subst h
    simp
  · rw [if_neg (by rwa [Std.compare_eq_iff_eq])]
    simp [Ne.symm h]

theorem getElem?_insert_eq_none_iff [Std.TransOrd κ] [Std.LawfulEqOrd κ] {table : Std.TreeMap κ α}
    {key key' : κ} {value : α} :
    (table.insert key value)[key']? = none ↔ key' ≠ key ∧ table[key']? = none := by
  rw [Std.TreeMap.getElem?_insert]
  by_cases h : key = key'
  · subst h
    simp
  · rw [if_neg (by rwa [Std.compare_eq_iff_eq])]
    simp [Ne.symm h]

theorem values_eq_map_snd {table : Std.TreeMap κ α} : table.values = table.toList.map (·.2) := by
  calc table.values = table.foldr (fun _ value values => value :: values) [] := rfl
    _ = table.toList.foldr (fun entry values => entry.2 :: values) [] :=
      Std.TreeMap.foldr_eq_foldr_toList
    _ = table.toList.map (·.2) := by
      induction table.toList with
      | nil => rfl
      | cons entry entries ih => rw [List.foldr_cons, ih, List.map_cons]

theorem mem_values_iff [Std.TransOrd κ] [Std.LawfulEqOrd κ] {table : Std.TreeMap κ α} {value : α} :
    value ∈ table.values ↔ ∃ key : κ, table[key]? = some value := by
  rw [values_eq_map_snd, List.mem_map]
  constructor
  · rintro ⟨⟨key, found⟩, hmem, rfl⟩
    exact ⟨key, Std.TreeMap.mem_toList_iff_getElem?_eq_some.mp hmem⟩
  · intro hfound
    obtain ⟨key, hkey⟩ := hfound
    exact ⟨(key, value), Std.TreeMap.mem_toList_iff_getElem?_eq_some.mpr hkey, rfl⟩

variable [DecidableEq α]

def recordOnce (conflict : ε) (key : κ) (value : α) (table : Std.TreeMap κ α) :
    Except ε (Std.TreeMap κ α) :=
  match table[key]? with
  | some existing => do
    bailIf (existing ≠ value) conflict
    .ok table
  | none => .ok (table.insert key value)

variable {conflict : ε} {key : κ} {value : α} {table table' : Std.TreeMap κ α}

/-- What a write can do. -/
theorem recordOnce_eq_ok (h : recordOnce conflict key value table = .ok table') :
    table[key]? = some value ∧ table' = table ∨
      table[key]? = none ∧ table' = table.insert key value := by
  cases hfound : table[key]? with
  | some existing =>
    simp only [recordOnce, hfound, bind_unit_eq_ok, bailIf_eq_ok, not_not, Except.ok.injEq] at h
    exact Or.inl ⟨congrArg some h.1, h.2.symm⟩
  | none =>
    simp only [recordOnce, hfound, Except.ok.injEq] at h
    exact Or.inr ⟨rfl, h.symm⟩

/-- The same value can always be written again. -/
theorem recordOnce_again (hfound : table[key]? = some value) :
    recordOnce conflict key value table = .ok table := by
  simp [recordOnce, hfound, bailIf, bind, Except.bind]

variable [Std.TransOrd κ] [Std.LawfulEqOrd κ]

theorem recordOnce_get (h : recordOnce conflict key value table = .ok table') :
    table'[key]? = some value := by
  rcases recordOnce_eq_ok h with ⟨hfound, rfl⟩ | ⟨-, rfl⟩
  · exact hfound
  · exact getElem?_insert_iff.mpr (Or.inl ⟨rfl, rfl⟩)

theorem recordOnce_mono (h : recordOnce conflict key value table = .ok table') {key' : κ}
    {value' : α} (hkept : table[key']? = some value') : table'[key']? = some value' := by
  rcases recordOnce_eq_ok h with ⟨-, rfl⟩ | ⟨hnone, rfl⟩
  · exact hkept
  · refine getElem?_insert_iff.mpr (Or.inr ⟨?_, hkept⟩)
    rintro rfl
    exact absurd (hnone.symm.trans hkept) (by simp)

theorem recordOnce_new (h : recordOnce conflict key value table = .ok table') {key' : κ}
    {value' : α} (hfound : table'[key']? = some value') :
    table[key']? = some value' ∨ key' = key ∧ value' = value := by
  rcases recordOnce_eq_ok h with ⟨-, rfl⟩ | ⟨-, rfl⟩
  · exact Or.inl hfound
  · exact (getElem?_insert_iff.mp hfound).symm.imp_left And.right

end MasterRecovery
