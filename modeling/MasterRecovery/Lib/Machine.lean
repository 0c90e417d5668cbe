import Mathlib.Logic.Function.Basic
import Mathlib.Data.List.Basic
import Mathlib.Data.List.Induction
import Mathlib.Tactic.Cases

/-!
# Machines with outputs

A deterministic machine takes one input at a time and may emit one output. A
run is a list of inputs. Invariants may speak of the outputs emitted so far,
and a run may be restricted input by input to those a condition admits, given
the state they arrive in and the outputs before them. A family of machines run
side by side is again a machine; each component sees exactly the inputs
addressed to it.
-/

namespace MasterRecovery

structure Machine (σ ι ο : Type) where
  step : σ → ι → σ × Option ο

namespace Machine

variable {σ ι ο κ : Type} (m : Machine σ ι ο)

def run : σ → List ι → σ
  | s, [] => s
  | s, i :: is => run (m.step s i).1 is

/-- Outputs of a run, oldest first. -/
def outputs : σ → List ι → List ο
  | _, [] => []
  | s, i :: is => (m.step s i).2.toList ++ outputs (m.step s i).1 is

/-- Every input satisfies the condition, which sees the state the input arrives
in and the outputs emitted before it. -/
def Along (P : σ → List ο → ι → Prop) : σ → List ο → List ι → Prop
  | _, _, [] => True
  | s, out, i :: is =>
    P s out i ∧ Along P (m.step s i).1 (out ++ (m.step s i).2.toList) is

@[simp] theorem run_nil (s : σ) : m.run s [] = s := rfl

@[simp] theorem run_cons (s : σ) (i : ι) (is : List ι) :
    m.run s (i :: is) = m.run (m.step s i).1 is := rfl

@[simp] theorem outputs_nil (s : σ) : m.outputs s [] = [] := rfl

@[simp] theorem outputs_cons (s : σ) (i : ι) (is : List ι) :
    m.outputs s (i :: is) = (m.step s i).2.toList ++ m.outputs (m.step s i).1 is := rfl

theorem run_append (s : σ) (is js : List ι) :
    m.run s (is ++ js) = m.run (m.run s is) js := by
  induction is generalizing s with
  | nil => rfl
  | cons i is ih => exact ih _

theorem outputs_append (s : σ) (is js : List ι) :
    m.outputs s (is ++ js) = m.outputs s is ++ m.outputs (m.run s is) js := by
  induction is generalizing s with
  | nil => rfl
  | cons i is ih => simp [ih]

theorem along_append {P : σ → List ο → ι → Prop} (s : σ) (out : List ο) (is js : List ι) :
    m.Along P s out (is ++ js) ↔
      m.Along P s out is ∧ m.Along P (m.run s is) (out ++ m.outputs s is) js := by
  induction is generalizing s out with
  | nil => simp [Along]
  | cons i is ih => simp [Along, ih, and_assoc]

/-- Input by input: where the condition is asked, and of what. -/
theorem along_iff_split {P : σ → List ο → ι → Prop} (s : σ) (out : List ο) (is : List ι) :
    m.Along P s out is ↔ ∀ before i after, is = before ++ i :: after →
      P (m.run s before) (out ++ m.outputs s before) i := by
  constructor
  · intro h before i after hsplit
    rw [hsplit, along_append] at h
    exact h.2.1
  · intro h
    induction is generalizing s out with
    | nil => trivial
    | cons i is ih =>
      refine ⟨by simpa using h [] i is rfl, ih _ _ fun before j after hsplit => ?_⟩
      simpa using h (i :: before) j after (by rw [hsplit, List.cons_append])

theorem Along.mono {m : Machine σ ι ο} {P Q : σ → List ο → ι → Prop}
    (hPQ : ∀ s out i, P s out i → Q s out i) {s : σ} {out : List ο} {is : List ι}
    (h : m.Along P s out is) : m.Along Q s out is := by
  induction is generalizing s out with
  | nil => trivial
  | cons i is ih => exact ⟨hPQ _ _ _ h.1, ih h.2⟩

theorem Along.and {m : Machine σ ι ο} {P Q : σ → List ο → ι → Prop} {s : σ} {out : List ο}
    {is : List ι} (hP : m.Along P s out is) (hQ : m.Along Q s out is) :
    m.Along (fun s out i => P s out i ∧ Q s out i) s out is := by
  induction is generalizing s out with
  | nil => trivial
  | cons i is ih => exact ⟨⟨hP.1, hQ.1⟩, ih hP.2 hQ.2⟩

/-- A condition on the inputs alone. -/
theorem along_of_forall {P : ι → Prop} {is : List ι} (h : ∀ i ∈ is, P i) (s : σ) (out : List ο) :
    m.Along (fun _ _ i => P i) s out is := by
  induction is generalizing s out with
  | nil => trivial
  | cons i is ih =>
    rw [List.forall_mem_cons] at h
    exact ⟨h.1, ih h.2 _ _⟩

/-- Invariant of the state and of the outputs emitted so far. -/
theorem run_invariant_from {P : σ → List ο → ι → Prop} {I : σ → List ο → Prop}
    (hstep : ∀ s out i, I s out → P s out i →
      I (m.step s i).1 (out ++ (m.step s i).2.toList))
    {s : σ} {out : List ο} {is : List ι} (h : I s out) (hP : m.Along P s out is) :
    I (m.run s is) (out ++ m.outputs s is) := by
  induction is generalizing s out with
  | nil => simpa using h
  | cons i is ih =>
    have hnext := ih (hstep s out i h hP.1) hP.2
    simpa using hnext

theorem run_invariant {P : σ → List ο → ι → Prop} {I : σ → List ο → Prop} {s : σ}
    {is : List ι} (hinit : I s [])
    (hstep : ∀ s out i, I s out → P s out i →
      I (m.step s i).1 (out ++ (m.step s i).2.toList))
    (hP : m.Along P s [] is) : I (m.run s is) (m.outputs s is) :=
  m.run_invariant_from hstep hinit hP

/-- Two machines on the same inputs: a relation that every step keeps holds after every run. -/
theorem run_related {σ' ο' : Type} {m : Machine σ ι ο} {m' : Machine σ' ι ο'} {R : σ → σ' → Prop}
    (hstep : ∀ s s' i, R s s' → R (m.step s i).1 (m'.step s' i).1) {s : σ} {s' : σ'}
    (h : R s s') (is : List ι) : R (m.run s is) (m'.run s' is) := by
  induction is generalizing s s' with
  | nil => exact h
  | cons i is ih => exact ih (hstep s s' i h)

/-- An output of a run is the output of one of its steps. -/
theorem output_split {s : σ} {is : List ι} {o : ο} (h : o ∈ m.outputs s is) :
    ∃ before i after, is = before ++ i :: after ∧ (m.step (m.run s before) i).2 = some o := by
  induction is generalizing s with
  | nil => simp at h
  | cons i is ih =>
    rcases List.mem_append.mp h with hhere | hlater
    · exact ⟨[], i, is, rfl, Option.mem_toList.mp hhere⟩
    · obtain ⟨before, j, after, rfl, ho⟩ := ih hlater
      exact ⟨i :: before, j, after, rfl, ho⟩

/-- A machine that emits an input or nothing emits inputs in the order they came. -/
theorem outputs_sublist {m : Machine σ ι ι}
    (h : ∀ s i, (m.step s i).2 = some i ∨ (m.step s i).2 = none) (s : σ) (is : List ι) :
    (m.outputs s is).Sublist is := by
  induction is generalizing s with
  | nil => exact List.Sublist.refl _
  | cons i is ih =>
    have hrest := ih (m.step s i).1
    rw [outputs_cons]
    rcases h s i with hsome | hnone
    · rw [hsome]
      exact hrest.cons_cons i
    · rw [hnone]
      exact hrest.cons i

/-- Where an element of a list with one more at the end can stand. -/
theorem concat_split {α : Type} {out x y : List α} {e a : α} (h : out ++ [e] = x ++ a :: y) :
    (y = [] ∧ x = out ∧ a = e) ∨ ∃ z, y = z ++ [e] ∧ out = x ++ a :: z := by
  rcases List.eq_nil_or_concat y with rfl | ⟨z, b, rfl⟩
  · obtain ⟨rfl, hlast⟩ := List.append_inj' h rfl
    cases hlast
    exact Or.inl ⟨rfl, rfl, rfl⟩
  · have hassoc : out ++ [e] = (x ++ a :: z) ++ [b] := by simpa using h
    obtain ⟨hinit, hlast⟩ := List.append_inj' hassoc rfl
    cases hlast
    exact Or.inr ⟨z, by simp, hinit⟩

/-- The same when at most one is added. -/
theorem toList_split {α : Type} {out x y : List α} {o : Option α} {a : α}
    (h : out ++ o.toList = x ++ a :: y) :
    (y = [] ∧ x = out ∧ o = some a) ∨ ∃ z, y = z ++ o.toList ∧ out = x ++ a :: z := by
  cases o with
  | none => exact Or.inr ⟨y, by simp, by simpa using h⟩
  | some e =>
    rcases concat_split h with ⟨hy, hx, ha⟩ | hlater
    · exact Or.inl ⟨hy, hx, congrArg some ha.symm⟩
    · exact Or.inr hlater

/-- A relation between each element and those before it is pairwise. -/
theorem pairwise_of_split {α : Type} {R : α → α → Prop} {xs : List α}
    (h : ∀ before x after, xs = before ++ x :: after → ∀ y ∈ before, R y x) : xs.Pairwise R := by
  induction xs using List.reverseRecOn with
  | nil => exact List.Pairwise.nil
  | append_singleton xs x ih =>
    refine List.pairwise_append.mpr ⟨ih fun before y after hsplit => ?_,
      List.pairwise_singleton R x, fun y hy z hz => ?_⟩
    · exact h before y (after ++ [x]) (by simp [hsplit])
    · rw [List.mem_singleton.mp hz]
      exact h xs x [] rfl y hy

/-! ### Machines side by side -/

/-- Machines indexed by `κ`; an input is addressed to one of them. -/
def family [DecidableEq κ] (ms : κ → Machine σ ι ο) : Machine (κ → σ) (κ × ι) (κ × ο) where
  step s i :=
    (Function.update s i.1 ((ms i.1).step (s i.1) i.2).1,
      ((ms i.1).step (s i.1) i.2).2.map fun o => (i.1, o))

variable [DecidableEq κ] (ms : κ → Machine σ ι ο)

/-- What is addressed to `k`, in order. -/
def inbox {τ : Type} (k : κ) (xs : List (κ × τ)) : List τ :=
  xs.filterMap fun x => if x.1 = k then some x.2 else none

theorem inbox_cons_self {τ : Type} (k : κ) (x : τ) (xs : List (κ × τ)) :
    inbox k ((k, x) :: xs) = x :: inbox k xs := by
  simp [inbox]

theorem inbox_cons_ne {τ : Type} {k l : κ} (h : l ≠ k) (x : τ) (xs : List (κ × τ)) :
    inbox k ((l, x) :: xs) = inbox k xs := by
  simp [inbox, h]

theorem inbox_append {τ : Type} (k : κ) (xs ys : List (κ × τ)) :
    inbox k (xs ++ ys) = inbox k xs ++ inbox k ys :=
  List.filterMap_append ..

theorem mem_inbox {τ : Type} {k : κ} {x : τ} {xs : List (κ × τ)} :
    x ∈ inbox k xs ↔ (k, x) ∈ xs := by
  simp only [inbox, List.mem_filterMap, Option.ite_none_right_eq_some, Option.some.injEq]
  constructor
  · rintro ⟨⟨l, y⟩, hmem, rfl, rfl⟩
    exact hmem
  · intro hmem
    exact ⟨(k, x), hmem, rfl, rfl⟩

theorem family_run (s : κ → σ) (is : List (κ × ι)) (k : κ) :
    (family ms).run s is k = (ms k).run (s k) (inbox k is) := by
  induction is generalizing s with
  | nil => rfl
  | cons i is ih =>
    obtain ⟨l, i⟩ := i
    rw [run_cons, ih]
    by_cases h : l = k
    · subst h
      simp [family, inbox_cons_self]
    · simp [family, inbox_cons_ne h, Function.update_of_ne (Ne.symm h)]

theorem family_outputs (s : κ → σ) (is : List (κ × ι)) (k : κ) :
    inbox k ((family ms).outputs s is) = (ms k).outputs (s k) (inbox k is) := by
  induction is generalizing s with
  | nil => rfl
  | cons i is ih =>
    obtain ⟨l, i⟩ := i
    rw [outputs_cons, inbox_append, ih]
    by_cases h : l = k
    · subst h
      cases ho : ((ms l).step (s l) i).2 <;> simp [family, ho, inbox]
    · cases ho : ((ms l).step (s l) i).2 <;>
        simp [family, ho, Function.update_of_ne (Ne.symm h), inbox, h]

end Machine

end MasterRecovery
