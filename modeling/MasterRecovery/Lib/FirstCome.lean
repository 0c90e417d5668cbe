import Mathlib.Data.List.Nodup
import Mathlib.Data.List.Perm.Subperm
import Mathlib.Data.Set.Insert

/-!
# First come, first counted

Items come in one after the other under keys of their own. Only the first answer under a key has a
turn, and it counts when it is authentic. Which items count depends on what comes before them, also
on what is not authentic.
-/

namespace MasterRecovery.FirstCome

variable {α κ : Type}

/-- Who an item comes from, whether it answers at all, and whether it is authentic. -/
structure Intake (α κ : Type) where
  key : α → κ
  answers : α → Prop
  authentic : α → Prop

open Classical in
/-- The items that count, in their order, when the seen keys have had their turn. -/
noncomputable def Intake.counted (intake : Intake α κ) (seen : Set κ) : List α → List α
  | [] => []
  | item :: rest =>
    if intake.answers item ∧ intake.key item ∉ seen then
      if intake.authentic item then
        item :: intake.counted (insert (intake.key item) seen) rest
      else intake.counted (insert (intake.key item) seen) rest
    else intake.counted seen rest

/-- The second list is the first with junk put in. -/
inductive Inserted (junk : α → Prop) : List α → List α → Prop
  | nil : Inserted junk [] []
  | keep (item : α) {items items' : List α} (h : Inserted junk items items') :
    Inserted junk (item :: items) (item :: items')
  | insert {item : α} (hjunk : junk item) {items items' : List α} (h : Inserted junk items items') :
    Inserted junk items (item :: items')

theorem Inserted.refl {junk : α → Prop} (items : List α) : Inserted junk items items := by
  induction items with
  | nil => exact .nil
  | cons item items ih => exact ih.keep item

theorem Inserted.front {junk : α → Prop} {front : List α} (hfront : ∀ item ∈ front, junk item)
    (items : List α) : Inserted junk items (front ++ items) := by
  induction front with
  | nil => exact Inserted.refl items
  | cons item front ih =>
    exact .insert (hfront item List.mem_cons_self)
      (ih fun other hother => hfront other (List.mem_cons_of_mem _ hother))

namespace Intake

variable {intake : Intake α κ} {item : α} {items items' rest : List α} {seen seen' taken : Set κ}

/-! ### One item -/

theorem counted_passed (h : ¬(intake.answers item ∧ intake.key item ∉ seen)) :
    intake.counted seen (item :: rest) = intake.counted seen rest := by
  rw [counted, if_neg h]

theorem counted_silent (h : ¬intake.answers item) :
    intake.counted seen (item :: rest) = intake.counted seen rest :=
  counted_passed fun hturn => h hturn.1

theorem counted_again (h : intake.key item ∈ seen) :
    intake.counted seen (item :: rest) = intake.counted seen rest :=
  counted_passed fun hturn => hturn.2 h

theorem counted_authentic (hanswers : intake.answers item) (hfresh : intake.key item ∉ seen)
    (hauthentic : intake.authentic item) :
    intake.counted seen (item :: rest) =
      item :: intake.counted (insert (intake.key item) seen) rest := by
  rw [counted, if_pos ⟨hanswers, hfresh⟩, if_pos hauthentic]

theorem counted_forged (hanswers : intake.answers item) (hfresh : intake.key item ∉ seen)
    (hforged : ¬intake.authentic item) :
    intake.counted seen (item :: rest) = intake.counted (insert (intake.key item) seen) rest := by
  rw [counted, if_pos ⟨hanswers, hfresh⟩, if_neg hforged]

/-! ### All of them -/

open Classical in
/-- The first answer under a key. -/
noncomputable def first (intake : Intake α κ) (k : κ) (items : List α) : Option α :=
  items.find? fun item => intake.answers item ∧ intake.key item = k

theorem first_eq_none {k : κ} : intake.first k items = none ↔
    ∀ item ∈ items, intake.answers item → intake.key item ≠ k := by
  simp [first, List.find?_eq_none]

theorem of_first {k : κ} (h : intake.first k items = some item) :
    item ∈ items ∧ intake.answers item ∧ intake.key item = k := by
  classical
  exact ⟨List.mem_of_find?_eq_some h, by simpa using List.find?_some h⟩

theorem first_append {k : κ} : intake.first k (items ++ items') =
    (intake.first k items).or (intake.first k items') :=
  List.find?_append

open Classical in
theorem first_cons {k : κ} : intake.first k (item :: rest) =
    if intake.answers item ∧ intake.key item = k then some item else intake.first k rest := by
  rw [first, List.find?_cons]
  by_cases h : intake.answers item ∧ intake.key item = k
  · simp [h]
  · simp [h, first]

theorem first_eq_some {k : κ} : intake.first k items = some item ↔
    (intake.answers item ∧ intake.key item = k) ∧ ∃ before after, items = before ++ item :: after ∧
      ∀ earlier ∈ before, intake.answers earlier → intake.key earlier ≠ k := by
  simp [first, List.find?_eq_some_iff_append]

/-- An item counts when it is the first answer under its key, and authentic. -/
theorem mem_counted : item ∈ intake.counted seen items ↔
    intake.first (intake.key item) items = some item ∧ intake.key item ∉ seen ∧
      intake.authentic item := by
  induction items generalizing seen with
  | nil => simp [counted, first]
  | cons first rest ih =>
    by_cases hturn : intake.answers first ∧ intake.key first ∉ seen
    · obtain ⟨hanswers, hfresh⟩ := hturn
      by_cases hauthentic : intake.authentic first
      · rw [counted_authentic hanswers hfresh hauthentic, List.mem_cons, ih, first_cons]
        grind
      · rw [counted_forged hanswers hfresh hauthentic, ih, first_cons]
        grind
    · rw [counted_passed hturn, ih, first_cons]
      grind

theorem key_notMem_of_counted (h : item ∈ intake.counted seen items) : intake.key item ∉ seen :=
  (mem_counted.mp h).2.1

/-- No two items count under one key. -/
theorem nodup_keys : ((intake.counted seen items).map intake.key).Nodup := by
  induction items generalizing seen with
  | nil => simp [counted]
  | cons first rest ih =>
    by_cases hturn : intake.answers first ∧ intake.key first ∉ seen
    · obtain ⟨hanswers, hfresh⟩ := hturn
      by_cases hauthentic : intake.authentic first
      · rw [counted_authentic hanswers hfresh hauthentic, List.map_cons, List.nodup_cons]
        refine ⟨fun hmem => ?_, ih⟩
        obtain ⟨later, hlater, hkey⟩ := List.mem_map.mp hmem
        exact key_notMem_of_counted hlater (hkey ▸ Set.mem_insert _ _)
      · rw [counted_forged hanswers hfresh hauthentic]
        exact ih
    · rw [counted_passed hturn]
      exact ih

theorem nodup_counted : (intake.counted seen items).Nodup :=
  List.Nodup.of_map _ nodup_keys

/-- Junk adds nothing to what counts, and may take turns away. -/
theorem counted_sublist {junk : α → Prop} (hjunk : ∀ item, junk item → ¬intake.authentic item)
    (h : Inserted junk items items') (hseen : seen ⊆ seen') :
    (intake.counted seen' items').Sublist (intake.counted seen items) := by
  induction h generalizing seen seen' with
  | nil => exact .slnil
  | @keep item items items' _ ih =>
    by_cases hanswers : intake.answers item
    · by_cases hold : intake.key item ∈ seen
      · rw [counted_again hold, counted_again (hseen hold)]
        exact ih hseen
      · by_cases hold' : intake.key item ∈ seen'
        · -- the key has had its turn only where the junk is
          have hlate : (intake.counted seen' items').Sublist
              (intake.counted (insert (intake.key item) seen) items) :=
            ih (Set.insert_subset hold' hseen)
          rw [counted_again hold']
          by_cases hauthentic : intake.authentic item
          · rw [counted_authentic hanswers hold hauthentic]
            exact hlate.cons item
          · rw [counted_forged hanswers hold hauthentic]
            exact hlate
        · have hnext := ih (Set.insert_subset_insert (a := intake.key item) hseen)
          by_cases hauthentic : intake.authentic item
          · rw [counted_authentic hanswers hold hauthentic,
              counted_authentic hanswers hold' hauthentic]
            exact hnext.cons_cons item
          · rw [counted_forged hanswers hold hauthentic,
              counted_forged hanswers hold' hauthentic]
            exact hnext
    · rw [counted_silent hanswers, counted_silent hanswers]
      exact ih hseen
  | @insert item hitem items items' _ ih =>
    by_cases hturn : intake.answers item ∧ intake.key item ∉ seen'
    · rw [counted_forged hturn.1 hturn.2 (hjunk item hitem)]
      exact ih (hseen.trans (Set.subset_insert _ _))
    · rw [counted_passed hturn]
      exact ih hseen

/-- Junk that takes the turn of nothing that counts changes nothing. -/
theorem counted_eq_of_kept {junk : α → Prop} (hjunk : ∀ item, junk item → ¬intake.authentic item)
    (h : Inserted junk items items')
    (hkept : ∀ item ∈ intake.counted seen items, item ∈ intake.counted seen items') :
    intake.counted seen items' = intake.counted seen items := by
  have hsub := counted_sublist hjunk h (Set.Subset.refl seen)
  exact hsub.eq_of_length_le (List.subperm_of_subset nodup_counted hkept).length_le

/-- What comes first and is not authentic takes the turns of its keys. -/
theorem mem_counted_append {front : List α} (hfront : ∀ item ∈ front, ¬intake.authentic item) :
    item ∈ intake.counted seen (front ++ items) ↔
      item ∈ intake.counted seen items ∧
        ∀ other ∈ front, intake.answers other → intake.key other ≠ intake.key item := by
  rw [mem_counted, mem_counted, first_append, ← first_eq_none]
  cases hfirst : intake.first (intake.key item) front with
  | none => simp
  | some taker =>
    obtain ⟨htaker, -, -⟩ := of_first hfirst
    have hforged := hfront taker htaker
    simp only [Option.some_or, Option.some.injEq, reduceCtorEq, and_false, iff_false, not_and]
    rintro rfl - hauthentic
    exact hforged hauthentic

/-- Of what counts without the junk, that counts whose key still has an item that counts. -/
theorem mem_counted_inserted {junk : α → Prop} (hjunk : ∀ item, junk item → ¬intake.authentic item)
    (h : Inserted junk items items') : item ∈ intake.counted seen items' ↔
      item ∈ intake.counted seen items ∧
        ∃ other ∈ intake.counted seen items', intake.key other = intake.key item := by
  have hsub : (intake.counted seen items').Sublist (intake.counted seen items) :=
    counted_sublist hjunk h (Set.Subset.refl seen)
  constructor
  · exact fun hitem => ⟨hsub.subset hitem, item, hitem, rfl⟩
  · rintro ⟨hitem, other, hother, hkey⟩
    rwa [← List.inj_on_of_nodup_map nodup_keys (hsub.subset hother) hitem hkey]

/-- Who can forge an answer under any key silences the keys it likes. -/
theorem exists_inserted_counted {junk : α → Prop} {forge : α → α}
    (hjunk : ∀ item, junk item → ¬intake.authentic item) (hforge : ∀ item, junk (forge item))
    (hanswers : ∀ item, intake.answers item → intake.answers (forge item))
    (hkey : ∀ item, intake.key (forge item) = intake.key item) (items : List α) (chosen : Set κ) :
    ∃ items', Inserted junk items items' ∧ ∀ item, item ∈ intake.counted ∅ items' ↔
      item ∈ intake.counted ∅ items ∧ intake.key item ∈ chosen := by
  classical
  let front := (items.filter fun item => intake.key item ∉ chosen).map forge
  have hfront : ∀ item ∈ front, junk item := by
    intro item hitem
    obtain ⟨own, -, rfl⟩ := List.mem_map.mp hitem
    exact hforge own
  refine ⟨front ++ items, Inserted.front hfront items, fun item => ?_⟩
  rw [mem_counted_append fun other hother => hjunk other (hfront other hother)]
  refine and_congr_right fun hitem => ⟨fun hfree => ?_, fun hchosen other hother _ hsame => ?_⟩
  · by_contra hout
    obtain ⟨hmem, hown, -⟩ := of_first (mem_counted.mp hitem).1
    have hforged : forge item ∈ front :=
      List.mem_map_of_mem (List.mem_filter.mpr ⟨hmem, by simpa using hout⟩)
    exact hfree _ hforged (hanswers item hown) (hkey item)
  · obtain ⟨own, hown, rfl⟩ := List.mem_map.mp hother
    obtain ⟨-, hout⟩ := List.mem_filter.mp hown
    simp only [decide_eq_true_eq] at hout
    exact hout ((hkey own).symm.trans hsame ▸ hchosen)

/-! ### Orders of one list -/

theorem key_counted {k : κ} : (∃ item ∈ intake.counted ∅ items, intake.key item = k) ↔
    ∃ item, intake.first k items = some item ∧ intake.authentic item := by
  constructor
  · rintro ⟨item, hitem, rfl⟩
    obtain ⟨hfirst, -, hauthentic⟩ := mem_counted.mp hitem
    exact ⟨item, hfirst, hauthentic⟩
  · rintro ⟨item, hfirst, hauthentic⟩
    obtain ⟨-, -, rfl⟩ := of_first hfirst
    exact ⟨item, mem_counted.mpr ⟨hfirst, Set.notMem_empty _, hauthentic⟩, rfl⟩

/-- The keys with both authentic and other answers can be made to count or not, as one likes. -/
theorem exists_perm_counted (intake : Intake α κ) (items : List α) (chosen : Set κ) :
    ∃ items', items.Perm items' ∧
      ∀ k, (∃ item ∈ intake.counted ∅ items', intake.key item = k) ↔
        (∃ item ∈ items, intake.answers item ∧ intake.authentic item ∧ intake.key item = k) ∧
          (k ∈ chosen ∨
            ∀ item ∈ items, intake.answers item → intake.key item = k → intake.authentic item) := by
  classical
  -- the answers that make the choice come first
  let decides (item : α) : Bool := decide (intake.authentic item ↔ intake.key item ∈ chosen)
  refine ⟨items.filter decides ++ items.filter (fun item => !decides item),
    (List.filter_append_perm decides items).symm, fun k => ?_⟩
  rw [key_counted, first_append]
  cases hfirst : intake.first k (items.filter decides) with
  | some item =>
    obtain ⟨hmem, hanswers, rfl⟩ := of_first hfirst
    obtain ⟨hmem, hdecides⟩ := List.mem_filter.mp hmem
    have hiff : intake.authentic item ↔ intake.key item ∈ chosen := by simpa [decides] using hdecides
    simp only [Option.some_or, Option.some.injEq, exists_eq_left']
    constructor
    · exact fun hauthentic => ⟨⟨item, hmem, hanswers, hauthentic, rfl⟩, Or.inl (hiff.mp hauthentic)⟩
    · rintro ⟨-, hchosen | hall⟩
      · exact hiff.mpr hchosen
      · exact hall item hmem hanswers rfl
  | none =>
    have hrest : ∀ item ∈ items, intake.answers item → intake.key item = k →
        (intake.authentic item ↔ k ∉ chosen) := by
      intro item hmem hanswers hkey
      have hnot : ¬(intake.authentic item ↔ intake.key item ∈ chosen) := fun hiff =>
        first_eq_none.mp hfirst item (List.mem_filter.mpr ⟨hmem, by simpa [decides] using hiff⟩)
          hanswers hkey
      rw [hkey] at hnot
      tauto
    rw [Option.none_or]
    constructor
    · rintro ⟨item, hlate, hauthentic⟩
      obtain ⟨hmem, hanswers, hkey⟩ := of_first hlate
      have hmem := (List.mem_filter.mp hmem).1
      have hout := (hrest item hmem hanswers hkey).mp hauthentic
      exact ⟨⟨item, hmem, hanswers, hauthentic, hkey⟩,
        Or.inr fun other hother hother' hkey' => (hrest other hother hother' hkey').mpr hout⟩
    · rintro ⟨⟨item, hmem, hanswers, hauthentic, hkey⟩, -⟩
      have hout := (hrest item hmem hanswers hkey).mp hauthentic
      cases hlate : intake.first k (items.filter fun item => !decides item) with
      | some other =>
        obtain ⟨hother, hother', hkey'⟩ := of_first hlate
        exact ⟨other, rfl, (hrest other (List.mem_filter.mp hother).1 hother' hkey').mpr hout⟩
      | none =>
        refine absurd hkey (first_eq_none.mp hlate item (List.mem_filter.mpr ⟨hmem, ?_⟩) hanswers)
        simp [decides, hauthentic, hkey, hout]

end Intake

end MasterRecovery.FirstCome
