import MasterRecovery.Lib.Machine
import Mathlib.Data.List.Nodup
import Mathlib.Data.List.Range

/-!
# Numbered messages

Messages are numbered under keys. A key has a counter; a message is taken when it has the counter's
number, and the counter moves on by one, up to a last number where it stays. While no counter has
been at the last number before, the numbers taken under a key follow each other, so none is taken
twice.
-/

namespace MasterRecovery.InOrder
open Machine

variable {κ : Type} [DecidableEq κ] {last : ℕ} {start next next' : κ → ℕ} {key : κ}
  {log : List (κ × ℕ)}

/-- From the number the counter of a key starts at, what is taken under it follows in order, and
the counter shows what comes next. -/
def Sequenced (last : ℕ) (start next : κ → ℕ) (log : List (κ × ℕ)) : Prop :=
  ∀ key, start key + (inbox key log).length ≤ last + 1 →
    inbox key log = List.range' (start key) (inbox key log).length ∧
      next key = min (start key + (inbox key log).length) last

theorem Sequenced.congr (h : Sequenced last start next log) (hnext : ∀ key, next' key = next key) :
    Sequenced last start next' log := by
  intro key hroom
  rw [hnext]
  exact h key hroom

/-- A message with the counter's number is taken. -/
theorem Sequenced.take (h : Sequenced last start next log) (hkey : next' key = min (next key + 1) last)
    (hother : ∀ other, other ≠ key → next' other = next other) :
    Sequenced last start next' (log ++ [(key, next key)]) := by
  intro other hroom
  rw [inbox_append] at hroom ⊢
  by_cases hsame : other = key
  · subst hsame
    have hown : inbox other [(other, next other)] = [next other] := by simp [inbox]
    rw [hown] at hroom ⊢
    simp only [List.length_append, List.length_singleton] at hroom ⊢
    obtain ⟨htaken, hnext⟩ := h other (by omega)
    have hnumber : next other = start other + (inbox other log).length := by omega
    constructor
    · rw [List.range'_concat, Nat.one_mul, ← htaken, hnumber]
    · rw [hkey]
      omega
  · have hnone : inbox other [(key, next key)] = [] := by simp [inbox, Ne.symm hsame]
    rw [hnone, List.append_nil] at hroom ⊢
    rw [hother other hsame]
    exact h other hroom

/-! ### What follows in order is taken once -/

/-- A list is without repetitions when the values under each key are. -/
theorem nodup_of_inbox {τ : Type} {entries : List (κ × τ)}
    (h : ∀ key, (inbox key entries).Nodup) : entries.Nodup := by
  induction entries with
  | nil => exact List.nodup_nil
  | cons entry entries ih =>
    obtain ⟨key, value⟩ := entry
    have hfirst := h key
    rw [inbox_cons_self, List.nodup_cons, mem_inbox] at hfirst
    refine List.nodup_cons.mpr ⟨hfirst.1, ih fun other => ?_⟩
    by_cases hsame : key = other
    · subst hsame
      exact hfirst.2
    · have hother := h other
      rwa [inbox_cons_ne hsame] at hother

theorem Sequenced.nodup (h : Sequenced last start next log)
    (hroom : ∀ key, start key + (inbox key log).length ≤ last + 1) : log.Nodup := by
  refine nodup_of_inbox fun key => ?_
  rw [(h key (hroom key)).1]
  exact List.nodup_range'

end MasterRecovery.InOrder
