import MasterRecovery.Lib.WriteOnce
import Mathlib.Data.Finset.Card
import Mathlib.Data.Finset.Dedup

/-!
# Tables of keyed items

A list whose items have keys of their own, no two alike, as a table. The table holds exactly the
items; a field has no value twice in the table when it has none twice in the list.
-/

namespace MasterRecovery.Keyed

variable {κ α β : Type} [Ord κ] [Std.TransOrd κ] [Std.LawfulEqOrd κ] {keyOf : α → κ} {items : List α}

/-- The table holds what each item contributes under its key. -/
theorem getElem?_of_mem (hdistinct : (items.map keyOf).Nodup) (f : α → β) {item : α}
    (hitem : item ∈ items) :
    (Std.TreeMap.ofList (items.map fun item => (keyOf item, f item)))[keyOf item]? =
      some (f item) := by
  apply Std.TreeMap.getElem?_ofList_of_mem (k := keyOf item) Std.ReflCmp.compare_self
  · rw [List.Nodup, List.pairwise_map] at hdistinct
    rw [List.pairwise_map]
    exact hdistinct.imp fun hne heq => hne (Std.LawfulEqCmp.eq_of_compare heq)
  · exact List.mem_map_of_mem hitem

theorem size_eq (hdistinct : (items.map keyOf).Nodup) :
    (Std.TreeMap.ofList (items.map fun item => (keyOf item, item))).size = items.length := by
  rw [Std.TreeMap.size_ofList, List.length_map]
  rw [List.Nodup, List.pairwise_map] at hdistinct
  rw [List.pairwise_map]
  exact hdistinct.imp fun hne heq => hne (Std.LawfulEqCmp.eq_of_compare heq)

omit [Std.TransOrd κ] in
/-- A list whose keys increase has no entry twice. -/
theorem nodup_of_increasing {entries : List (κ × β)}
    (h : entries.Pairwise fun a b => compare a.1 b.1 = .lt) : entries.Nodup := by
  rw [List.nodup_iff_pairwise_ne]
  refine h.imp fun hlt heq => ?_
  rw [heq] at hlt
  cases hlt.symm.trans Std.ReflCmp.compare_self

/-- What a table of entries holds is one of them. -/
theorem mem_of_getElem?_ofList {entries : List (κ × β)} {key : κ} {value : β}
    (h : (Std.TreeMap.ofList entries)[key]? = some value) : (key, value) ∈ entries := by
  have hfrom : ∀ (entries : List (κ × β)) (table : Std.TreeMap κ β),
      (table.insertMany entries)[key]? = some value →
        (key, value) ∈ entries ∨ table[key]? = some value := by
    intro entries
    induction entries with
    | nil => exact fun _ hget => Or.inr hget
    | cons entry entries ih =>
      intro table hget
      rw [Std.TreeMap.insertMany_cons] at hget
      rcases ih _ hget with hmem | hold
      · exact Or.inl (List.mem_cons_of_mem _ hmem)
      · rcases getElem?_insert_iff.mp hold with ⟨hkey, hvalue⟩ | ⟨-, hold⟩
        · left
          rw [hkey, hvalue]
          exact List.mem_cons_self ..
        · exact Or.inr hold
  rw [Std.TreeMap.ofList_eq_insertMany_empty] at h
  rcases hfrom entries ∅ h with hmem | hempty
  · exact hmem
  · simp at hempty

variable [BEq κ] [LawfulBEq κ]

theorem mem_iff (f : α → β) {key : κ} :
    key ∈ Std.TreeMap.ofList (items.map fun item => (keyOf item, f item)) ↔
      ∃ item ∈ items, keyOf item = key := by
  rw [Std.TreeMap.mem_ofList, List.contains_iff_mem, List.map_map, List.mem_map]
  rfl

/-- Entries whose keys increase are listed by their table as they came. -/
theorem toList_of_increasing {entries : List (κ × β)}
    (h : entries.Pairwise fun a b => compare a.1 b.1 = .lt) :
    (Std.TreeMap.ofList entries).toList = entries := by
  have hkeys : entries.Pairwise fun a b => ¬compare a.1 b.1 = .eq := by
    refine h.imp fun hlt heq => ?_
    rw [hlt] at heq
    cases heq
  have htable : (Std.TreeMap.ofList entries).toList.Pairwise fun a b => compare a.1 b.1 = .lt :=
    Std.TreeMap.ordered_keys_toList
  have hsame : (Std.TreeMap.ofList entries).toList.Perm entries := by
    rw [List.perm_ext_iff_of_nodup (nodup_of_increasing htable) (nodup_of_increasing h)]
    rintro ⟨key, value⟩
    rw [Std.TreeMap.mem_toList_iff_getElem?_eq_some]
    constructor
    · intro hget
      have hmem : key ∈ Std.TreeMap.ofList entries := by
        rw [Std.TreeMap.mem_iff_isSome_getElem?, hget]
        rfl
      rw [Std.TreeMap.mem_ofList, List.contains_iff_mem, List.mem_map] at hmem
      obtain ⟨⟨_, found⟩, hfound, rfl⟩ := hmem
      have hown := Std.TreeMap.getElem?_ofList_of_mem Std.ReflCmp.compare_self hkeys hfound
      rw [hown, Option.some.injEq] at hget
      exact hget ▸ hfound
    · exact fun hmem => Std.TreeMap.getElem?_ofList_of_mem Std.ReflCmp.compare_self hkeys hmem
  refine hsame.eq_of_pairwise (fun a b _ _ hab hba => ?_) htable h
  have hswapped : compare a.1 b.1 = (compare b.1 a.1).swap := Std.OrientedCmp.eq_swap
  rw [hab, hba] at hswapped
  cases hswapped

/-- The table of the items themselves. -/
theorem getElem?_eq_some_iff (hdistinct : (items.map keyOf).Nodup) {key : κ} {item : α} :
    (Std.TreeMap.ofList (items.map fun item => (keyOf item, item)))[key]? = some item ↔
      item ∈ items ∧ keyOf item = key := by
  constructor
  · intro hget
    have hmem : key ∈ Std.TreeMap.ofList (items.map fun item => (keyOf item, item)) := by
      rw [Std.TreeMap.mem_iff_isSome_getElem?, hget]
      rfl
    obtain ⟨found, hfound, rfl⟩ := (mem_iff fun item => item).mp hmem
    cases (getElem?_of_mem hdistinct (fun item => item) hfound).symm.trans hget
    exact ⟨hfound, rfl⟩
  · rintro ⟨hitem, rfl⟩
    exact getElem?_of_mem hdistinct (fun item => item) hitem

theorem mem_values_iff (hdistinct : (items.map keyOf).Nodup) {item : α} :
    item ∈ (Std.TreeMap.ofList (items.map fun item => (keyOf item, item))).values ↔
      item ∈ items := by
  rw [MasterRecovery.mem_values_iff]
  constructor
  · rintro ⟨key, hget⟩
    exact ((getElem?_eq_some_iff hdistinct).mp hget).1
  · intro hitem
    exact ⟨keyOf item, getElem?_of_mem hdistinct (fun item => item) hitem⟩

/-- As many values of a field as items: no value stands twice. -/
theorem card_values_eq_size_iff [DecidableEq β] (hdistinct : (items.map keyOf).Nodup) (f : α → β) :
    ((Std.TreeMap.ofList (items.map fun item => (keyOf item, item))).values.map f).toFinset.card =
        (Std.TreeMap.ofList (items.map fun item => (keyOf item, item))).size ↔
      (items.map f).Nodup := by
  have hvalues :
      ((Std.TreeMap.ofList (items.map fun item => (keyOf item, item))).values.map f).toFinset =
        (items.map f).toFinset := by
    ext value
    simp only [List.mem_toFinset, List.mem_map, mem_values_iff hdistinct]
  rw [hvalues, size_eq hdistinct, ← List.length_map f]
  constructor
  · intro hcard
    rw [List.card_toFinset] at hcard
    rw [← List.dedup_eq_self]
    exact (List.dedup_sublist _).eq_of_length hcard
  · exact List.toFinset_card_of_nodup

end MasterRecovery.Keyed
