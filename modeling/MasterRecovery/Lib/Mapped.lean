import MasterRecovery.Lib.Checks
import Mathlib.Data.List.Forall2

/-!
# Fallible maps

A map of a fallible function over a list succeeds when the function does on each element; the
results stand at the places of their elements.
-/

namespace MasterRecovery.Mapped
open Checks

variable {ε α β : Type} {f : α → Except ε β} {items : List α} {out : List β}

theorem mapM_eq_ok : items.mapM f = .ok out ↔ List.Forall₂ (fun a b => f a = .ok b) items out := by
  induction items generalizing out with
  | nil =>
    simp only [List.mapM_nil, pure_eq_ok, List.forall₂_nil_left_iff]
    exact eq_comm
  | cons item items ih =>
    simp only [List.mapM_cons, bind_eq_ok, pure_eq_ok, ih, List.forall₂_cons_left_iff]
    constructor
    · rintro ⟨b, hb, rest, hrest, rfl⟩
      exact ⟨b, rest, hb, hrest, rfl⟩
    · rintro ⟨b, rest, hb, hrest, rfl⟩
      exact ⟨b, hb, rest, hrest, rfl⟩

theorem length_eq (h : items.mapM f = .ok out) : out.length = items.length :=
  (mapM_eq_ok.mp h).length_eq.symm

/-- The result at a place comes from the element there. -/
theorem getElem?_of_result (h : items.mapM f = .ok out) {i : ℕ} {b : β} (hb : out[i]? = some b) :
    ∃ a, items[i]? = some a ∧ f a = .ok b := by
  have hall := mapM_eq_ok.mp h
  obtain ⟨hi, rfl⟩ := List.getElem?_eq_some_iff.mp hb
  have hi' : i < items.length := hall.length_eq ▸ hi
  refine ⟨items[i], List.getElem?_eq_getElem hi', ?_⟩
  have hpair := (List.forall₂_iff_get.mp hall).2 i hi' hi
  simpa using hpair

/-- The element at a place has a result there. -/
theorem getElem?_of_item (h : items.mapM f = .ok out) {i : ℕ} {a : α} (ha : items[i]? = some a) :
    ∃ b, out[i]? = some b ∧ f a = .ok b := by
  obtain ⟨hi, rfl⟩ := List.getElem?_eq_some_iff.mp ha
  have hi' : i < out.length := length_eq h ▸ hi
  obtain ⟨a, ha', hresult⟩ := getElem?_of_result h (List.getElem?_eq_getElem hi')
  rw [List.getElem?_eq_getElem hi, Option.some.injEq] at ha'
  exact ⟨out[i], List.getElem?_eq_getElem hi', ha' ▸ hresult⟩

/-- A function that succeeds on every element has a map. -/
theorem exists_mapM (h : ∀ a ∈ items, ∃ b, f a = .ok b) : ∃ out, items.mapM f = .ok out := by
  induction items with
  | nil => exact ⟨[], rfl⟩
  | cons item items ih =>
    obtain ⟨b, hb⟩ := h item (List.mem_cons_self ..)
    obtain ⟨rest, hrest⟩ := ih fun a ha => h a (List.mem_cons_of_mem _ ha)
    refine ⟨b :: rest, mapM_eq_ok.mpr (.cons hb (mapM_eq_ok.mp hrest))⟩

end MasterRecovery.Mapped
