import MasterRecovery.Lib.Checks
import Mathlib.Data.List.Nodup

/-!
# Asking until enough

Parties are asked one after another. An answer that is accepted is kept, any other one is put down
as refused; after each answer the asking stops if as many are kept as are wanted.
-/

namespace MasterRecovery.Gather
open Checks

variable {α β ρ : Type} {wanted : ℕ} {kept : List β} {refused : List ρ} {items : List α}

/-- The loop. What is kept so far may count against an answer. -/
def gather (wanted : ℕ) (judge : List β → α → Except ρ β) (kept : List β) (refused : List ρ) :
    List α → List β × List ρ
  | [] => (kept, refused)
  | item :: items =>
    match judge kept item with
    | .ok answer =>
      if wanted ≤ kept.length + 1 then (kept ++ [answer], refused)
      else gather wanted judge (kept ++ [answer]) refused items
    | .error reason =>
      if wanted ≤ kept.length then (kept, refused ++ [reason])
      else gather wanted judge kept (refused ++ [reason]) items

section General

variable {judge : List β → α → Except ρ β}

/-- What each accepted answer preserves holds of what is kept. -/
theorem gather_kept {P : List β → Prop} (hkept : P kept)
    (hstep : ∀ (kept : List β) (item : α) (answer : β), item ∈ items → P kept →
      judge kept item = .ok answer → P (kept ++ [answer])) :
    P (gather wanted judge kept refused items).1 := by
  induction items generalizing kept refused with
  | nil => exact hkept
  | cons item items ih =>
    have hrest : ∀ (kept : List β) (item : α) (answer : β), item ∈ items → P kept →
        judge kept item = .ok answer → P (kept ++ [answer]) := by
      intro kept item answer hmem
      exact hstep kept item answer (List.mem_cons_of_mem _ hmem)
    rw [gather]
    cases hjudge : judge kept item with
    | ok answer =>
      have hnext := hstep kept item answer (List.mem_cons_self ..) hkept hjudge
      simp only
      split
      · exact hnext
      · exact ih hnext hrest
    | error reason =>
      simp only
      split
      · exact hkept
      · exact ih hkept hrest

/-- Every answer that is kept was accepted. -/
theorem mem_gather {answer : β} (h : answer ∈ (gather wanted judge [] refused items).1) :
    ∃ kept, ∃ item ∈ items, judge kept item = .ok answer := by
  have hall : ∀ answer ∈ (gather wanted judge [] refused items).1,
      ∃ kept, ∃ item ∈ items, judge kept item = .ok answer := by
    refine gather_kept (P := fun kept => ∀ answer ∈ kept,
      ∃ kept, ∃ item ∈ items, judge kept item = .ok answer) (by simp) ?_
    intro kept item answer hitem hkept hjudge other hother
    rcases List.mem_append.mp hother with hold | hnew
    · exact hkept other hold
    · rw [List.mem_singleton.mp hnew]
      exact ⟨kept, item, hitem, hjudge⟩
  exact hall answer h

end General

/-- When an answer is judged on its own, what is kept are the first accepted answers. -/
theorem gather_eq_take {judge : α → Except ρ β} (hroom : kept.length < wanted) :
    (gather wanted (fun _ => judge) kept refused items).1 =
      (kept ++ items.filterMap fun item => (judge item).toOption).take wanted := by
  induction items generalizing kept refused with
  | nil =>
    rw [gather, List.filterMap_nil, List.append_nil, List.take_of_length_le hroom.le]
  | cons item items ih =>
    rw [gather]
    cases hjudge : judge item with
    | ok answer =>
      have hlength : (kept ++ [answer]).length = kept.length + 1 := by simp
      rw [List.filterMap_cons_some (by rw [hjudge]; rfl), List.append_cons]
      simp only
      split
      next henough =>
        have hexact : (kept ++ [answer]).length = wanted := by omega
        rw [List.take_append_of_le_length hexact.ge, List.take_of_length_le hexact.le]
      next hfew => exact ih (by omega)
    | error reason =>
      rw [List.filterMap_cons_none (by rw [hjudge]; rfl)]
      simp only
      split
      next hover => omega
      next => exact ih hroom

/-- The results of a partial map come from a sublist, each from its own element. -/
theorem filterMap_places {f : α → Option β} (items : List α) (wanted : ℕ) :
    ∃ places, places.Sublist items ∧
      List.Forall₂ (fun place answer => place ∈ items ∧ f place = some answer) places
        ((items.filterMap f).take wanted) := by
  induction items generalizing wanted with
  | nil => exact ⟨[], List.Sublist.refl _, by simp⟩
  | cons item items ih =>
    cases hitem : f item with
    | none =>
      obtain ⟨places, hsublist, hplaces⟩ := ih wanted
      rw [List.filterMap_cons_none hitem]
      exact ⟨places, hsublist.cons item,
        hplaces.imp fun _ _ hplace => ⟨List.mem_cons_of_mem _ hplace.1, hplace.2⟩⟩
    | some answer =>
      rw [List.filterMap_cons_some hitem]
      cases wanted with
      | zero => exact ⟨[], List.nil_sublist _, by simp⟩
      | succ wanted =>
        obtain ⟨places, hsublist, hplaces⟩ := ih wanted
        rw [List.take_succ_cons]
        exact ⟨item :: places, hsublist.cons_cons item, .cons ⟨List.mem_cons_self .., hitem⟩
          (hplaces.imp fun _ _ hplace => ⟨List.mem_cons_of_mem _ hplace.1, hplace.2⟩)⟩

/-- When each answer is judged on its own and enough are accepted, as many as are wanted are kept,
from different items. -/
theorem gather_enough {judge : α → Except ρ β} (hwanted : 0 < wanted)
    (henough : wanted ≤ items.countP fun item => (judge item).toOption.isSome) :
    let answers := (gather wanted (fun _ => judge) [] [] items).1
    answers.length = wanted ∧ ∃ places, places.Sublist items ∧
      List.Forall₂ (fun place answer => place ∈ items ∧ judge place = .ok answer) places
        answers := by
  intro answers
  have hanswers : answers =
      (items.filterMap fun item => (judge item).toOption).take wanted := by
    rw [← List.nil_append (items.filterMap _)]
    exact gather_eq_take hwanted
  have hcount : (items.filterMap fun item => (judge item).toOption).length =
      items.countP fun item => (judge item).toOption.isSome := List.length_filterMap_eq_countP
  obtain ⟨places, hsublist, hplaces⟩ :=
    filterMap_places (f := fun item => (judge item).toOption) items wanted
  refine ⟨?_, places, hsublist, ?_⟩
  · rw [hanswers, List.length_take, hcount, Nat.min_eq_left henough]
  · rw [hanswers]
    exact hplaces.imp fun _ _ hplace => ⟨hplace.1, toOption_eq_some.mp hplace.2⟩

/-- Different places with elements of one kind: there are at least so many elements of it. -/
theorem length_le_countP {P : α → Bool} {places : List ℕ} (hdistinct : places.Nodup)
    (h : ∀ place ∈ places, ∃ item, items[place]? = some item ∧ P item = true) :
    places.length ≤ items.countP P := by
  have hrange : items.map some = (List.range items.length).map fun place => items[place]? := by
    refine List.ext_getElem (by simp) fun place hplace _ => ?_
    rw [List.length_map] at hplace
    simp [hplace]
  have hcount : items.countP P =
      (List.range items.length).countP fun place => items[place]?.any P :=
    calc items.countP P = (items.map some).countP (·.any P) := by
          rw [List.countP_map]
          rfl
      _ = (List.range items.length).countP fun place => items[place]?.any P := by
          rw [hrange, List.countP_map]
          rfl
  rw [hcount, List.countP_eq_length_filter]
  refine (hdistinct.subperm fun place hmem => ?_).length_le
  obtain ⟨item, hitem, hkind⟩ := h place hmem
  obtain ⟨hlt, -⟩ := List.getElem?_eq_some_iff.mp hitem
  rw [List.mem_filter, List.mem_range, hitem]
  exact ⟨hlt, hkind⟩

end MasterRecovery.Gather
