import Mathlib.Data.List.Basic
import Mathlib.Tactic.Cases

/-!
# Drawing from a generator

Computations that draw from a generator and may stop without a result. What every result satisfies
does not depend on what is drawn (`Yields`), and a list can be worked on element by element through
a map that the draws do not see (`collect_map`, `retain_map`).
-/

namespace MasterRecovery

abbrev Draw (ρ α : Type) := StateT ρ Option α

namespace Draw

variable {ρ α β γ : Type}

/-- One draw. -/
def next (draw : ρ → α × ρ) : Draw ρ α := fun s => some (draw s)

/-- A value, where there is one. -/
def ofOption (x : Option α) : Draw ρ α := fun s => x.map fun a => (a, s)

/-- One result for each element, in order. -/
def collect (f : α → Draw ρ β) : List α → Draw ρ (List β)
  | [] => pure []
  | x :: xs => do
    let y ← f x
    let ys ← collect f xs
    pure (y :: ys)

/-- The elements that are kept; each is asked about in order. -/
def retain (keep : α → Draw ρ Bool) : List α → Draw ρ (List α)
  | [] => pure []
  | x :: xs => do
    let kept ← keep x
    let rest ← retain keep xs
    pure (if kept then x :: rest else rest)

/-! ### Maps -/

theorem map_apply (x : Draw ρ α) (g : α → β) (s : ρ) :
    (g <$> x) s = (x s).map fun result => (g result.1, result.2) := by
  change StateT.map g x s = _
  cases h : x s <;> simp [StateT.map, h]

theorem collect_map (f : α → Draw ρ β) (g : β → γ) (xs : List α) :
    collect (fun x => g <$> f x) xs = List.map g <$> collect f xs := by
  induction xs with
  | nil => rfl
  | cons x xs ih =>
    simp only [collect, ih, map_bind, bind_map_left, map_pure, List.map_cons]

theorem collect_congr {f f' : α → Draw ρ β} {xs : List α} (h : ∀ x ∈ xs, f x = f' x) :
    collect f xs = collect f' xs := by
  induction xs with
  | nil => rfl
  | cons x xs ih =>
    rw [List.forall_mem_cons] at h
    simp only [collect, h.1, ih h.2]

theorem retain_map (keep : β → Draw ρ Bool) (g : α → β) (xs : List α) :
    List.map g <$> retain (fun x => keep (g x)) xs = retain keep (xs.map g) := by
  induction xs with
  | nil => rfl
  | cons x xs ih =>
    simp only [retain, List.map_cons, ← ih, map_bind, bind_map_left, map_pure]
    refine bind_congr fun kept => bind_congr fun rest => congrArg pure ?_
    cases kept <;> rfl

/-! ### What is yielded -/

/-- Every result satisfies `Q`. -/
def Yields (Q : α → Prop) (x : Draw ρ α) : Prop := ∀ s a t, x s = some (a, t) → Q a

variable {Q : α → Prop} {R : β → Prop} {x : Draw ρ α} {f : α → Draw ρ β}

theorem yields_any (x : Draw ρ α) : Yields (fun _ => True) x := fun _ _ _ _ => trivial

theorem yields_pure {a : α} (h : Q a) : Yields Q (pure a : Draw ρ α) := by
  intro s b t hrun
  have hsame : (a, s) = (b, t) := Option.some.inj hrun
  cases hsame
  exact h

theorem yields_bind (hx : Yields Q x) (hf : ∀ a, Q a → Yields R (f a)) : Yields R (x >>= f) := by
  intro s b t hrun
  simp only [bind, StateT.bind, Option.bind_eq_some_iff] at hrun
  obtain ⟨⟨a, u⟩, ha, hb⟩ := hrun
  exact hf a (hx s a u ha) u b t hb

theorem yields_ofOption {y : Option α} (h : ∀ a, y = some a → Q a) :
    Yields Q (ofOption y : Draw ρ α) := by
  intro s a t hrun
  simp only [ofOption, Option.map_eq_some_iff] at hrun
  obtain ⟨b, hb, heq⟩ := hrun
  cases heq
  exact h a hb

theorem yields_map {g : α → β} (h : Yields (fun a => R (g a)) x) : Yields R (g <$> x) := by
  rw [map_eq_pure_bind]
  exact yields_bind h fun a ha => yields_pure ha

theorem yields_collect {xs : List α} (h : ∀ x ∈ xs, Yields R (f x)) :
    Yields (fun ys => ∀ y ∈ ys, R y) (collect f xs) := by
  induction xs with
  | nil => exact yields_pure (by simp)
  | cons x xs ih =>
    rw [List.forall_mem_cons] at h
    refine yields_bind h.1 fun y hy => yields_bind (ih h.2) fun ys hys => yields_pure ?_
    exact List.forall_mem_cons.mpr ⟨hy, hys⟩

theorem yields_retain (keep : α → Draw ρ Bool) (xs : List α) :
    Yields (fun ys => ys.Sublist xs) (retain keep xs) := by
  induction xs with
  | nil => exact yields_pure (List.Sublist.refl _)
  | cons x xs ih =>
    refine yields_bind (yields_any _) fun kept _ => yields_bind ih fun rest hrest => yields_pure ?_
    cases kept
    · exact hrest.cons x
    · exact hrest.cons_cons x

/-! ### Computations that do not stop -/

/-- There is a result whatever is drawn. -/
def Returns (x : Draw ρ α) : Prop := ∀ s, (x s).isSome

theorem returns_pure (a : α) : Returns (pure a : Draw ρ α) := fun _ => rfl

theorem returns_next (draw : ρ → α × ρ) : Returns (next draw) := fun _ => rfl

theorem returns_ofOption {y : Option α} (h : y.isSome) : Returns (ofOption y : Draw ρ α) := by
  intro s
  rw [ofOption, Option.isSome_map]
  exact h

theorem returns_bind (hx : Returns x) (hf : ∀ a, Returns (f a)) : Returns (x >>= f) := by
  intro s
  obtain ⟨⟨a, t⟩, ha⟩ := Option.isSome_iff_exists.mp (hx s)
  simp only [bind, StateT.bind, ha, Option.bind_some]
  exact hf a t

theorem returns_collect {xs : List α} (h : ∀ x, Returns (f x)) : Returns (collect f xs) := by
  induction xs with
  | nil => exact returns_pure []
  | cons x xs ih => exact returns_bind (h x) fun y => returns_bind ih fun ys => returns_pure _

theorem returns_retain {keep : α → Draw ρ Bool} {xs : List α} (h : ∀ x, Returns (keep x)) :
    Returns (retain keep xs) := by
  induction xs with
  | nil => exact returns_pure []
  | cons x xs ih => exact returns_bind (h x) fun kept => returns_bind ih fun rest => returns_pure _

end Draw

end MasterRecovery
