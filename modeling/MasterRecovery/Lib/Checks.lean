import Mathlib.Data.Finset.Card
import Mathlib.Tactic.Cases

/-!
# Fallible checks

Reasoning principles for functions that run a list of refusals in `Except`:
what a successful run says about each refusal, without unfolding the run. The
scan of a vote or acknowledgement list (refuse a repeated actor, then check the
element) occurs in every validator of a quorum, so it is one function here.
-/

namespace MasterRecovery.Checks

variable {ε ε' α β κ : Type}

/-- `if p { return Err(e) }`. -/
def bailIf (p : Prop) [Decidable p] (e : ε) : Except ε Unit :=
  if p then .error e else .ok ()

@[simp] theorem bailIf_eq_ok {p : Prop} [Decidable p] {e : ε} {u : Unit} :
    bailIf p e = .ok u ↔ ¬p := by
  by_cases h : p <;> simp [bailIf, h]

theorem bind_eq_ok {x : Except ε α} {f : α → Except ε β} {b : β} :
    (x >>= f) = .ok b ↔ ∃ a, x = .ok a ∧ f a = .ok b := by
  cases x <;> simp [bind, Except.bind]

theorem bind_unit_eq_ok {x : Except ε Unit} {y : Except ε β} {b : β} :
    (x >>= fun _ => y) = .ok b ↔ x = .ok () ∧ y = .ok b := by
  cases x <;> simp [bind, Except.bind]

@[simp] theorem pure_eq_ok {a b : α} : (pure a : Except ε α) = .ok b ↔ a = b := by
  simp [pure, Except.pure]

@[simp] theorem mapError_eq_ok {f : ε → ε'} {x : Except ε α} {a : α} :
    x.mapError f = .ok a ↔ x = .ok a := by
  cases x <;> simp [Except.mapError]

@[simp] theorem map_eq_ok {f : α → β} {x : Except ε α} {b : β} :
    f <$> x = .ok b ↔ ∃ a, x = .ok a ∧ f a = b := by
  cases x <;> simp [Functor.map, Except.map]

theorem toOption_eq_some {x : Except ε α} {a : α} : x.toOption = some a ↔ x = .ok a := by
  cases x <;> simp [Except.toOption]

theorem isSome_toOption {x : Except ε α} : x.toOption.isSome = true ↔ ∃ a, x = .ok a := by
  simp [Option.isSome_iff_exists, toOption_eq_some]

/-- `option.ok_or(e)`. -/
def okOr (x : Option α) (e : ε) : Except ε α :=
  match x with
  | some a => .ok a
  | none => .error e

@[simp] theorem okOr_eq_ok {x : Option α} {e : ε} {a : α} : okOr x e = .ok a ↔ x = some a := by
  cases x <;> simp [okOr]

/-- `for x in xs { f(x)?; }`. -/
def each (f : α → Except ε Unit) : List α → Except ε Unit
  | [] => .ok ()
  | x :: xs => do f x; each f xs

@[simp] theorem each_eq_ok {f : α → Except ε Unit} {xs : List α} {u : Unit} :
    each f xs = .ok u ↔ ∀ x ∈ xs, f x = .ok () := by
  induction xs with
  | nil => simp [each]
  | cons x xs ih => simp [each, bind_unit_eq_ok, ih]

/-- One pass over a quorum: `before` every element, then refuse a repeated key
(`!ids.insert(key)`), then `after`. The keys seen are returned. -/
def scanDistinct [DecidableEq κ] (key : α → κ) (before : α → Except ε Unit) (repeated : ε)
    (after : α → Except ε Unit) : Finset κ → List α → Except ε (Finset κ)
  | seen, [] => .ok seen
  | seen, x :: xs => do
    before x
    bailIf (key x ∈ seen) repeated
    after x
    scanDistinct key before repeated after (insert (key x) seen) xs

theorem scanDistinct_from [DecidableEq κ] {key : α → κ} {before : α → Except ε Unit}
    {repeated : ε} {after : α → Except ε Unit} {seen ids : Finset κ} {xs : List α} :
    scanDistinct key before repeated after seen xs = .ok ids ↔
      (∀ x ∈ xs, before x = .ok () ∧ after x = .ok ()) ∧ (xs.map key).Nodup ∧
        (∀ x ∈ xs, key x ∉ seen) ∧ ids = seen ∪ (xs.map key).toFinset := by
  induction xs generalizing seen with
  | nil => simp [scanDistinct, eq_comm]
  | cons x xs ih =>
    simp only [scanDistinct, bind_unit_eq_ok, bailIf_eq_ok, ih, List.forall_mem_cons,
      List.map_cons, List.nodup_cons, List.mem_map, List.toFinset_cons, Finset.mem_insert,
      not_or, not_exists, not_and, Finset.insert_union, Finset.union_insert]
    constructor
    · rintro ⟨hb, hx, ha, hall, hnd, hfresh, rfl⟩
      exact ⟨⟨⟨hb, ha⟩, hall⟩, ⟨fun y hy => (hfresh y hy).1, hnd⟩,
        ⟨hx, fun y hy => (hfresh y hy).2⟩, rfl⟩
    · rintro ⟨⟨⟨hb, ha⟩, hall⟩, ⟨hne, hnd⟩, ⟨hx, hfresh⟩, rfl⟩
      exact ⟨hb, hx, ha, hall, hnd, fun y hy => ⟨hne y hy, hfresh y hy⟩, rfl⟩

theorem scanDistinct_eq_ok [DecidableEq κ] {key : α → κ} {before : α → Except ε Unit}
    {repeated : ε} {after : α → Except ε Unit} {ids : Finset κ} {xs : List α} :
    scanDistinct key before repeated after ∅ xs = .ok ids ↔
      (∀ x ∈ xs, before x = .ok () ∧ after x = .ok ()) ∧ (xs.map key).Nodup ∧
        ids = (xs.map key).toFinset := by
  simp [scanDistinct_from]

end MasterRecovery.Checks
