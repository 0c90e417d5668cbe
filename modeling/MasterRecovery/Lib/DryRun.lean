import MasterRecovery.Lib.Effects
import MasterRecovery.Lib.WriteOnce

/-!
# Dry runs

What a run would do up to its first change of the state: refuse, write, or finish. A dry run
only reads. A write that puts back what is there is no change, so that a run which refuses
leaves its state exactly if the dry run that follows it refuses.
-/

namespace MasterRecovery

/-! ### Idle writes -/

section Idle

open Std.DTreeMap.Internal Std.DTreeMap.Internal.Impl

variable {κ ν : Type} [Ord κ]

theorem insert_impl_of_present [Std.LawfulEqOrd κ] {k : κ} {v : ν} {t : Impl κ fun _ => ν} (ht : t.Balanced)
    (h : Impl.Const.get? t k = some v) : (t.insert k v ht).impl = t := by
  induction t with
  | leaf => simp [Impl.Const.get?] at h
  | inner size k' v' l r ihl ihr =>
    rw [Impl.Const.get?] at h
    rw [Impl.insert]
    cases hc : compare k k' with
    | lt =>
      simp only [hc] at h ⊢
      simp only [balanceL_eq_balance, ihl ht.left h, balance_eq_inner ht]
    | gt =>
      simp only [hc] at h ⊢
      simp only [balanceR_eq_balance, ihr ht.right h, balance_eq_inner ht]
    | eq =>
      simp only [hc] at h ⊢
      cases h
      rw [Std.LawfulEqOrd.eq_of_compare hc]

/-- A pair that is there is inserted in its place. -/
theorem insert_of_present [Std.LawfulEqOrd κ] {t : Std.TreeMap κ ν} {k : κ} {v : ν} (h : t[k]? = some v) :
    t.insert k v = t := by
  have himpl := insert_impl_of_present t.inner.wf.balanced h
  obtain ⟨⟨impl, wf⟩⟩ := t
  simp only [Std.TreeMap.insert, Std.DTreeMap.insert]
  congr

theorem erase_impl_of_absent {k : κ} {t : Impl κ fun _ => ν} (ht : t.Balanced)
    (h : Impl.Const.get? t k = none) : (t.erase k ht).impl = t := by
  induction t with
  | leaf => rfl
  | inner size k' v' l r ihl ihr =>
    rw [Impl.Const.get?] at h
    rw [Impl.erase]
    cases hc : compare k k' with
    | lt =>
      simp only [hc] at h ⊢
      simp only [balanceRErase_eq_balance, ihl ht.left h, balance_eq_inner ht]
    | gt =>
      simp only [hc] at h ⊢
      simp only [balanceLErase_eq_balance, ihr ht.right h, balance_eq_inner ht]
    | eq => simp [hc] at h

theorem erase_of_absent {t : Std.TreeMap κ ν} {k : κ} (h : t[k]? = none) : t.erase k = t := by
  have himpl := erase_impl_of_absent t.inner.wf.balanced h
  obtain ⟨⟨impl, wf⟩⟩ := t
  simp only [Std.TreeMap.erase, Std.DTreeMap.erase]
  congr

end Idle

/-! ### Dry runs -/

/-- Refused before any change, stopped at the first change, or finished without one. -/
inductive Dry (α : Type)
  | refused (e : String)
  | wrote
  | done (a : α)

namespace Dry

variable {α β : Type}

protected def bind (d : Dry α) (f : α → Dry β) : Dry β :=
  match d with
  | refused e => refused e
  | wrote => wrote
  | done a => f a

instance : Monad Dry where
  pure := done
  bind := Dry.bind

def check (x : Except String α) : Dry α :=
  match x with
  | .ok a => done a
  | .error e => refused e

/-- A write that finds its value there is none. -/
def write (idle : Prop) [Decidable idle] : Dry Unit :=
  if idle then done ⟨⟩ else wrote

def collect (f : α → Dry β) : List α → Dry (List β)
  | [] => pure []
  | x :: xs => do
    let y ← f x
    let ys ← collect f xs
    pure (y :: ys)

/-- Refused before any change. -/
def Refuses : Dry α → Prop
  | refused _ => True
  | _ => False

instance (d : Dry α) : Decidable d.Refuses := by
  unfold Refuses
  cases d <;> infer_instance

/-- Whatever is not refused is a change. -/
def Unfinished (d : Dry α) : Prop := ∀ a, d ≠ done a

theorem unfinished_wrote : (wrote : Dry α).Unfinished := nofun

theorem unfinished_bind {d : Dry α} {f : α → Dry β} (h : ∀ a, (f a).Unfinished) :
    (d >>= f).Unfinished := by
  cases d with
  | refused e => exact nofun
  | wrote => exact nofun
  | done a => exact h a

end Dry

namespace Act

variable {σ τ α β : Type}

/-- The run does what the dry run says. Where the dry run stops at a change, what the run leaves
satisfies `Q`. -/
def Follows (Q : σ → Prop) (d : Dry α) (x : Act σ α) (s : σ) : Prop :=
  match d with
  | .refused e => x s = .error e s
  | .wrote => Leaves Q x s
  | .done a => x s = .ok a s

variable {Q Q' : σ → Prop} {s t : σ} {d : Dry α} {x : Act σ α} {f : α → Dry β} {g : α → Act σ β}

theorem Follows.mono (h : Follows Q d x s) (hQ : ∀ t, Q t → Q' t) : Follows Q' d x s := by
  cases d with
  | refused e => exact h
  | wrote => exact Leaves.mono h hQ
  | done a => exact h

/-- A refusal leaves what there was exactly if the dry run refuses. -/
theorem Follows.unchanged_iff {e : String} (h : Follows Q d x s) (hs : ¬Q s)
    (hrun : x s = .error e t) : t = s ↔ d.Refuses := by
  cases d with
  | refused e' =>
    simp only [Follows, hrun] at h
    cases h
    simp [Dry.Refuses]
  | wrote =>
    have hmoved : Q t := Leaves.error h hrun
    have hne : t ≠ s := fun hts => hs (hts ▸ hmoved)
    simp [Dry.Refuses, hne]
  | done a => simp [Follows, hrun] at h

theorem follows_pure {a : α} : Follows Q (pure a) (pure a : Act σ α) s := rfl

theorem follows_check {y : Except String α} : Follows Q (Dry.check y) (check y : Act σ α) s := by
  cases y <;> rfl

theorem follows_check_bind {y : Except String α} (h : ∀ a, y = .ok a → Follows Q (f a) (g a) s) :
    Follows Q (Dry.check y >>= f) (check y >>= g) s := by
  cases y with
  | ok a => exact h a rfl
  | error e => rfl

theorem follows_get_bind {d : Dry β} {g : σ → Act σ β} (h : Follows Q d (g s) s) :
    Follows Q d ((get : Act σ σ) >>= g) s := by
  cases d <;> exact h

/-- What comes after a change keeps it. -/
theorem follows_bind (hx : Follows Q' d x s) (hQ : ∀ t, Q' t → Q t)
    (hf : ∀ a, d = .done a → Follows Q (f a) (g a) s) (hkept : ∀ a t, Q' t → Leaves Q (g a) t) :
    Follows Q (d >>= f) (x >>= g) s := by
  cases d with
  | refused e =>
    have hx' : x s = .error e s := hx
    change (x >>= g) s = .error e s
    simp only [bind, EStateM.bind, hx']
  | wrote =>
    have hx' : Leaves Q' x s := hx
    change Leaves Q (x >>= g) s
    simp only [Leaves, final, bind, EStateM.bind]
    cases hxs : x s with
    | ok a u => exact hkept a u (hx'.ok hxs)
    | error e u => exact hQ u (hx'.error hxs)
  | done a =>
    have hx' : x s = .ok a s := hx
    have hrest : Follows Q (f a) (g a) s := hf a rfl
    have hrun : (x >>= g) s = g a s := by simp only [bind, EStateM.bind, hx']
    change Follows Q (f a) (x >>= g) s
    simp only [Follows, Leaves, final, hrun] at hrest ⊢
    exact hrest

theorem follows_modify {idle : Prop} [Decidable idle] {put : σ → σ} (hidle : idle → put s = s)
    (hmoved : ¬idle → Q (put s)) :
    Follows Q (Dry.write idle) (modify put : Act σ PUnit) s := by
  by_cases h : idle
  · simp only [Dry.write, h, if_true, Follows]
    change EStateM.Result.ok _ (put s) = _
    rw [hidle h]
  · simp only [Dry.write, h, if_false]
    exact hmoved h

theorem follows_modify_bind {idle : Prop} [Decidable idle] {put : σ → σ} {f : Unit → Dry β}
    {g : PUnit → Act σ β} (hidle : idle → put s = s) (hf : idle → Follows Q (f ⟨⟩) (g ⟨⟩) s)
    (hmoved : ¬idle → Leaves Q (g ⟨⟩) (put s)) :
    Follows Q (Dry.write idle >>= f) ((modify put : Act σ PUnit) >>= g) s := by
  by_cases h : idle
  · have hput := hidle h
    have hrest := hf h
    simp only [Dry.write, h, if_true]
    change Follows Q (f ⟨⟩) _ s
    simp only [Follows, Leaves, final, modify_bind, hput] at hrest ⊢
    exact hrest
  · simp only [Dry.write, h, if_false]
    exact hmoved h

/-- No element undoes what an earlier one changed. -/
theorem follows_collect {f : α → Dry β} {g : α → Act σ β} {xs : List α}
    (hfollows : ∀ x ∈ xs, Follows Q (f x) (g x) s)
    (hkept : ∀ x ∈ xs, ∀ t, Q t → Leaves Q (g x) t) :
    Follows Q (Dry.collect f xs) (collect g xs) s := by
  induction xs with
  | nil => exact follows_pure
  | cons x xs ih =>
    have hrest := ih (fun y hy => hfollows y (List.mem_cons_of_mem _ hy))
      (fun y hy => hkept y (List.mem_cons_of_mem _ hy))
    have htail : ∀ (b : β) t, Q t → Leaves Q (do let bs ← collect g xs; pure (b :: bs)) t := by
      intro b t ht
      have hcollect := leaves_collect ht fun y hy => hkept y (List.mem_cons_of_mem _ hy)
      exact leaves_bind hcollect fun bs u _ hu => leaves_pure.mpr hu
    refine follows_bind (hfollows x List.mem_cons_self) (fun t => id) (fun b _ => ?_) htail
    exact follows_bind hrest (fun t => id) (fun bs _ => follows_pure) fun bs t ht => ht

/-- On one part of the state, where putting it back as it is changes nothing. -/
theorem follows_onPart {part : σ → τ} {put : τ → σ → σ} {y : Act τ α} {d : Dry α} {R : τ → Prop}
    (h : Follows R d y (part s)) (hput : put (part s) s = s) (hR : ∀ u, R u → Q (put u s)) :
    Follows Q d (onPart part put y) s := by
  cases d with
  | refused e =>
    have hy : y (part s) = .error e (part s) := h
    simp only [Follows, onPart, hy, hput]
  | wrote => exact leaves_onPart (Leaves.mono h hR)
  | done a =>
    have hy : y (part s) = .ok a (part s) := h
    simp only [Follows, onPart, hy, hput]

/-! ### Runs that check before they write -/

/-- Every refusal leaves the state as it was. -/
def Atomic (x : Act σ α) (s : σ) : Prop := ∀ e t, x s = .error e t → t = s

theorem atomic_of_ok {a : α} (h : x s = .ok a t) : Atomic x s := by
  intro e u hrun
  rw [h] at hrun
  cases hrun

theorem atomic_check_bind {y : Except String β} {g : β → Act σ α}
    (h : ∀ b, y = .ok b → Atomic (g b) s) : Atomic (check y >>= g) s := by
  intro e t hrun
  cases y with
  | ok b => exact h b rfl e t hrun
  | error e' =>
    cases hrun
    rfl

theorem atomic_get_bind {g : σ → Act σ α} (h : Atomic (g s) s) :
    Atomic ((get : Act σ σ) >>= g) s := h

theorem atomic_onPart {part : σ → τ} {put : τ → σ → σ} {y : Act τ α} (h : Atomic y (part s))
    (hput : put (part s) s = s) : Atomic (onPart part put y) s := by
  intro e t hrun
  simp only [onPart] at hrun
  cases hy : y (part s) with
  | ok a u => simp [hy] at hrun
  | error e' u =>
    simp only [hy, EStateM.Result.error.injEq] at hrun
    rw [← hrun.2, h e' u hy, hput]

end Act

end MasterRecovery
