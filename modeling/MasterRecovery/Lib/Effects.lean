import MasterRecovery.Lib.Checks
import Mathlib.Data.List.Basic

/-!
# Effects that outlive a refusal

Computations over a state that may refuse and keep what they wrote before they did: the
standard `EStateM` without its backtracking. A successful run is inverted step by step. What a
run leaves behind, whether or not it refuses, is followed through each step with `Leaves`.
-/

namespace MasterRecovery

abbrev Act (σ α : Type) := EStateM String σ α

namespace Act

variable {σ τ α β γ : Type}

/-- `x?` -/
def check (x : Except String α) : Act σ α := fun s =>
  match x with
  | .ok a => .ok a s
  | .error e => .error e s

/-- Run on one part of the state, which is put back also on a refusal. -/
def onPart (part : σ → τ) (put : τ → σ → σ) (x : Act τ α) : Act σ α := fun s =>
  match x (part s) with
  | .ok a t => .ok a (put t s)
  | .error e t => .error e (put t s)

/-- One result for each element, in order. -/
def collect (f : α → Act σ β) : List α → Act σ (List β)
  | [] => pure []
  | x :: xs => do
    let y ← f x
    let ys ← collect f xs
    pure (y :: ys)

/-- The state a run ends in. -/
def final (x : Act σ α) (s : σ) : σ :=
  match x s with
  | .ok _ t => t
  | .error _ t => t

/-- What a run returns, where it does. -/
def returned (x : Act σ α) (s : σ) : Option α :=
  match x s with
  | .ok a _ => some a
  | .error _ _ => none

theorem final_of_ok {x : Act σ α} {s t : σ} {a : α} (h : x s = .ok a t) : x.final s = t := by
  simp [final, h]

theorem final_of_error {x : Act σ α} {s t : σ} {e : String} (h : x s = .error e t) :
    x.final s = t := by
  simp [final, h]

theorem returned_eq_some {x : Act σ α} {s : σ} {a : α} :
    x.returned s = some a ↔ ∃ t, x s = .ok a t := by
  cases h : x s <;> simp [returned, h]

theorem returned_eq_none {x : Act σ α} {s : σ} :
    x.returned s = none ↔ ∃ e t, x s = .error e t := by
  cases h : x s <;> simp [returned, h]

/-! ### Successful runs -/

section Run

variable {x : Act σ α} {f : α → Act σ β} {s t : σ} {a : α} {b : β}

theorem bind_eq_ok :
    (x >>= f) s = .ok b t ↔ ∃ a s', x s = .ok a s' ∧ f a s' = .ok b t := by
  simp only [bind, EStateM.bind]
  cases h : x s <;> simp

theorem check_ok_bind : ((check (.ok a) : Act σ α) >>= f) = f a := rfl

theorem check_eq_ok {y : Except String α} : check y s = .ok a t ↔ y = .ok a ∧ s = t := by
  cases y <;> simp [check]

@[simp] theorem check_bind_eq_ok {y : Except String α} :
    (check y >>= f) s = .ok b t ↔ ∃ a, y = .ok a ∧ f a s = .ok b t := by
  simp only [bind_eq_ok, check_eq_ok]
  constructor
  · rintro ⟨a, _, ⟨hy, rfl⟩, hf⟩
    exact ⟨a, hy, hf⟩
  · rintro ⟨a, hy, hf⟩
    exact ⟨a, s, ⟨hy, rfl⟩, hf⟩

@[simp] theorem get_bind {g : σ → Act σ β} : ((get : Act σ σ) >>= g) s = g s s := rfl

@[simp] theorem modify_bind {g : σ → σ} {f : PUnit → Act σ β} :
    ((modify g : Act σ PUnit) >>= f) s = f ⟨⟩ (g s) := rfl

@[simp] theorem pure_eq_ok {a' : α} : (pure a : Act σ α) s = .ok a' t ↔ a = a' ∧ s = t := by
  simp [pure, EStateM.pure]

theorem map_ok {g : α → β} (h : x s = .ok a t) : (g <$> x) s = .ok (g a) t := by
  change EStateM.map g x s = _
  simp only [EStateM.map, h]

theorem map_congr {y : Act σ α} {g : α → β} (h : x s = y s) : (g <$> x) s = (g <$> y) s := by
  change EStateM.map g x s = EStateM.map g y s
  simp only [EStateM.map, h]

theorem onPart_eq_ok {part : σ → τ} {put : τ → σ → σ} {y : Act τ α} :
    onPart part put y s = .ok a t ↔ ∃ u, y (part s) = .ok a u ∧ put u s = t := by
  simp only [onPart]
  cases h : y (part s) <;> simp

/-- Every result is that of an element, run in some state between. -/
theorem mem_collect {g : α → Act σ β} {xs : List α} {ys : List β}
    (h : collect g xs s = .ok ys t) {y : β} (hy : y ∈ ys) :
    ∃ x ∈ xs, ∃ s' t', g x s' = .ok y t' := by
  induction xs generalizing s ys with
  | nil =>
    simp only [collect, pure_eq_ok] at h
    obtain ⟨rfl, -⟩ := h
    cases hy
  | cons x xs ih =>
    simp only [collect, bind_eq_ok, pure_eq_ok] at h
    obtain ⟨z, s₁, hz, zs, s₂, hzs, rfl, rfl⟩ := h
    rcases List.mem_cons.mp hy with rfl | hmem
    · exact ⟨x, List.mem_cons_self, s, s₁, hz⟩
    · obtain ⟨x', hx', hrun⟩ := ih hzs hmem
      exact ⟨x', List.mem_cons_of_mem _ hx', hrun⟩

/-- Every element gave a result. -/
theorem collect_mem {g : α → Act σ β} {xs : List α} {ys : List β}
    (h : collect g xs s = .ok ys t) {x : α} (hx : x ∈ xs) :
    ∃ y ∈ ys, ∃ s' t', g x s' = .ok y t' := by
  induction xs generalizing s ys with
  | nil => cases hx
  | cons z xs ih =>
    simp only [collect, bind_eq_ok, pure_eq_ok] at h
    obtain ⟨y, s₁, hy, zs, s₂, hzs, rfl, rfl⟩ := h
    rcases List.mem_cons.mp hx with rfl | hmem
    · exact ⟨y, List.mem_cons_self, s, s₁, hy⟩
    · obtain ⟨y', hy', hrun⟩ := ih hzs hmem
      exact ⟨y', List.mem_cons_of_mem _ hy', hrun⟩

end Run

/-! ### What a run gives -/

section Gives

variable {Q : β → Prop}

end Gives

/-! ### What a run leaves -/

/-- The state the run ends in satisfies `Q`, whether or not it refuses. -/
def Leaves (Q : σ → Prop) (x : Act σ α) (s : σ) : Prop := Q (x.final s)

variable {Q : σ → Prop} {x : Act σ α} {f : α → Act σ β} {s : σ}

theorem Leaves.mono {Q' : σ → Prop} (h : Leaves Q x s) (hQ : ∀ t, Q t → Q' t) : Leaves Q' x s :=
  hQ _ h

theorem Leaves.ok {t : σ} {a : α} (h : Leaves Q x s) (hrun : x s = .ok a t) : Q t :=
  final_of_ok hrun ▸ h

theorem Leaves.error {t : σ} {e : String} (h : Leaves Q x s) (hrun : x s = .error e t) : Q t :=
  final_of_error hrun ▸ h

@[simp] theorem leaves_pure {a : α} : Leaves Q (pure a : Act σ α) s ↔ Q s := Iff.rfl

@[simp] theorem leaves_modify {g : σ → σ} : Leaves Q (modify g : Act σ PUnit) s ↔ Q (g s) := Iff.rfl

@[simp] theorem leaves_get_bind {g : σ → Act σ β} :
    Leaves Q ((get : Act σ σ) >>= g) s ↔ Leaves Q (g s) s := Iff.rfl

@[simp] theorem leaves_modify_bind {g : σ → σ} {f : PUnit → Act σ β} :
    Leaves Q ((modify g : Act σ PUnit) >>= f) s ↔ Leaves Q (f ⟨⟩) (g s) := Iff.rfl

@[simp] theorem leaves_check {y : Except String α} : Leaves Q (check y : Act σ α) s ↔ Q s := by
  cases y <;> exact Iff.rfl

theorem leaves_map {g : α → β} (h : Leaves Q x s) : Leaves Q (g <$> x) s := by
  simp only [Leaves, final, Functor.map, EStateM.map] at h ⊢
  cases hx : x s <;> simpa [hx] using h

theorem leaves_bind (hx : Leaves Q x s) (hf : ∀ a t, x s = .ok a t → Q t → Leaves Q (f a) t) :
    Leaves Q (x >>= f) s := by
  simp only [Leaves, final, bind, EStateM.bind]
  cases h : x s with
  | ok a t => exact hf a t h (hx.ok h)
  | error e t => exact hx.error h

/-- A check that fails leaves the state as it is. -/
theorem leaves_check_bind {y : Except String α} (hs : Q s)
    (hf : ∀ a, y = .ok a → Leaves Q (f a) s) : Leaves Q (check y >>= f) s :=
  leaves_bind (leaves_check.mpr hs) fun a t h _ => by
    obtain ⟨hy, rfl⟩ := check_eq_ok.mp h
    exact hf a hy

theorem leaves_onPart {part : σ → τ} {put : τ → σ → σ} {y : Act τ α}
    (h : Leaves (fun t => Q (put t s)) y (part s)) : Leaves Q (onPart part put y) s := by
  simp only [Leaves, final, onPart] at h ⊢
  cases hy : y (part s) <;> simpa [hy] using h

theorem leaves_collect {g : α → Act σ β} {xs : List α} (hs : Q s)
    (hg : ∀ x ∈ xs, ∀ t, Q t → Leaves Q (g x) t) : Leaves Q (collect g xs) s := by
  induction xs generalizing s with
  | nil => exact hs
  | cons x xs ih =>
    refine leaves_bind (hg x List.mem_cons_self s hs) fun a t _ ht => ?_
    refine leaves_bind (ih ht fun y hy => hg y (List.mem_cons_of_mem _ hy)) fun _ u _ hu => ?_
    exact hu

/-! ### What a run returns and leaves -/

/-- What the run returns, if it does not refuse, and the state it ends in. -/
def Outcome (R : Option α → σ → Prop) (x : Act σ α) (s : σ) : Prop := R (x.returned s) (x.final s)

variable {R : Option β → σ → Prop}

theorem Leaves.outcome (h : Leaves Q x s) {R : Option α → σ → Prop}
    (hR : ∀ o t, Q t → R o t) : Outcome R x s :=
  hR _ _ h

theorem Outcome.mono {R R' : Option α → σ → Prop} (h : Outcome R x s) (hR : ∀ o t, R o t → R' o t) :
    Outcome R' x s :=
  hR _ _ h

theorem outcome_map {g : α → β} (h : Outcome (fun o t => R (o.map g) t) x s) :
    Outcome R (g <$> x) s := by
  simp only [Outcome, final, returned, Functor.map, EStateM.map] at h ⊢
  cases hx : x s <;> simpa [hx] using h

@[simp] theorem outcome_pure {b : β} : Outcome R (pure b : Act σ β) s ↔ R (some b) s := Iff.rfl

@[simp] theorem outcome_modify {g : σ → σ} {R : Option PUnit → σ → Prop} :
    Outcome R (modify g : Act σ PUnit) s ↔ R (some ⟨⟩) (g s) := Iff.rfl

@[simp] theorem outcome_get_bind {g : σ → Act σ β} :
    Outcome R ((get : Act σ σ) >>= g) s ↔ Outcome R (g s) s := Iff.rfl

@[simp] theorem outcome_modify_bind {g : σ → σ} {f : PUnit → Act σ β} :
    Outcome R ((modify g : Act σ PUnit) >>= f) s ↔ Outcome R (f ⟨⟩) (g s) := Iff.rfl

theorem outcome_bind (herror : ∀ e t, x s = .error e t → R none t)
    (hok : ∀ a t, x s = .ok a t → Outcome R (f a) t) : Outcome R (x >>= f) s := by
  simp only [Outcome, final, returned, bind, EStateM.bind]
  cases h : x s with
  | ok a t => exact hok a t h
  | error e t => exact herror e t h

theorem outcome_check {y : Except String β} (hnone : R none s) (hok : ∀ b, y = .ok b → R (some b) s) :
    Outcome R (check y) s := by
  cases y with
  | ok b => exact hok b rfl
  | error e => exact hnone

theorem outcome_check_bind {y : Except String α} (hnone : R none s)
    (hok : ∀ a, y = .ok a → Outcome R (f a) s) : Outcome R (check y >>= f) s := by
  cases y with
  | ok a => exact hok a rfl
  | error e => exact hnone

theorem Outcome.ok {b : β} {y : Act σ β} {t : σ} (h : Outcome R y s) (hrun : y s = .ok b t) :
    R (some b) t := by
  simpa [Outcome, final, returned, hrun] using h

theorem Outcome.error {e : String} {y : Act σ β} {t : σ} (h : Outcome R y s)
    (hrun : y s = .error e t) : R none t := by
  simpa [Outcome, final, returned, hrun] using h

end Act

end MasterRecovery
