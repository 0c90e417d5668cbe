import Mathlib.Data.Finset.Card
import Mathlib.Tactic.Cases

/-!
# Quorums of a finite roster

How far two quorums of size `q` of one roster overlap, and what an overlap
larger than the fault bound contains.
-/

namespace MasterRecovery.Quorum

variable {κ : Type} [DecidableEq κ]

/-- Any two subsets of the roster with at least `q` members share `k`. -/
def Intersecting (roster : Finset κ) (q k : ℕ) : Prop :=
  ∀ A B : Finset κ, A ⊆ roster → B ⊆ roster → q ≤ A.card → q ≤ B.card → k ≤ (A ∩ B).card

theorem overlap_of_subsets {roster A B : Finset κ} (hA : A ⊆ roster) (hB : B ⊆ roster) :
    A.card + B.card ≤ roster.card + (A ∩ B).card := by
  have hunion : (A ∪ B).card ≤ roster.card := Finset.card_le_card (Finset.union_subset hA hB)
  have hsum := Finset.card_union_add_card_inter A B
  omega

theorem intersecting_of_card_le {roster : Finset κ} {q k : ℕ} (h : roster.card + k ≤ 2 * q) :
    Intersecting roster q k := by
  intro A B hA hB hqA hqB
  have hover := overlap_of_subsets hA hB
  omega

/-- Two quorums that overlap as little as the roster allows. -/
theorem exists_small_overlap {roster : Finset κ} {q : ℕ} (hq : q ≤ roster.card) :
    ∃ A B : Finset κ, A ⊆ roster ∧ B ⊆ roster ∧ A.card = q ∧ B.card = q ∧
      (A ∩ B).card = 2 * q - roster.card := by
  obtain ⟨A, hA, hcard⟩ := Finset.exists_subset_card_eq hq
  have hrest : (roster \ A).card = roster.card - q := by
    rw [Finset.card_sdiff_of_subset hA, hcard]
  by_cases hsmall : q ≤ (roster \ A).card
  · obtain ⟨B, hB, hBcard⟩ := Finset.exists_subset_card_eq hsmall
    refine ⟨A, B, hA, hB.trans Finset.sdiff_subset, hcard, hBcard, ?_⟩
    have hdisj : A ∩ B = ∅ := by
      ext x
      simp only [Finset.mem_inter, Finset.notMem_empty, iff_false, not_and]
      intro hx hxB
      exact (Finset.mem_sdiff.mp (hB hxB)).2 hx
    rw [hdisj, Finset.card_empty]
    omega
  · -- the rest of the roster is too small, so B borrows what is missing from A
    obtain ⟨C, hC, hCcard⟩ := Finset.exists_subset_card_eq (n := q - (roster \ A).card) (s := A)
      (by omega)
    have hdisj : Disjoint (roster \ A) C := by
      rw [Finset.disjoint_left]
      intro x hx hxC
      exact (Finset.mem_sdiff.mp hx).2 (hC hxC)
    refine ⟨A, (roster \ A) ∪ C, hA,
      Finset.union_subset Finset.sdiff_subset (hC.trans hA), hcard, ?_, ?_⟩
    · rw [Finset.card_union_of_disjoint hdisj]
      omega
    · have hinter : A ∩ ((roster \ A) ∪ C) = C := by
        ext x
        simp only [Finset.mem_inter, Finset.mem_union, Finset.mem_sdiff]
        constructor
        · rintro ⟨hx, ⟨-, hn⟩ | hxC⟩
          · exact absurd hx hn
          · exact hxC
        · intro hxC
          exact ⟨hC hxC, Or.inr hxC⟩
      rw [hinter]
      omega

theorem intersecting_iff {roster : Finset κ} {q k : ℕ} (hq : q ≤ roster.card) (hk : 0 < k) :
    Intersecting roster q k ↔ roster.card + k ≤ 2 * q := by
  constructor
  · intro h
    obtain ⟨A, B, hA, hB, hAq, hBq, hover⟩ := exists_small_overlap hq
    have hle := h A B hA hB hAq.ge hBq.ge
    omega
  · exact intersecting_of_card_le

/-- More common members than faults: one of them is honest. -/
theorem exists_honest {A faulty : Finset κ} {f : ℕ} (hA : f + 1 ≤ A.card)
    (hf : (A ∩ faulty).card ≤ f) : ∃ w ∈ A, w ∉ faulty := by
  by_contra hnone
  push Not at hnone
  have hsub : A ⊆ A ∩ faulty := fun w hw => Finset.mem_inter.mpr ⟨hw, hnone w hw⟩
  have hle := Finset.card_le_card hsub
  omega

end MasterRecovery.Quorum
