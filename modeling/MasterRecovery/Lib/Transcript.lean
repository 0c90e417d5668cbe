import MasterRecovery.Lib.Checks
import Mathlib.Data.List.Basic
import Mathlib.Tactic.Ring
import Mathlib.Tactic.NormNum

/-!
# Length-prefixed transcripts

An encoder is self-delimiting for a view of its argument when its output can
be cut off the front of any byte string in one way only, and the cut fixes the
view. Fixed-width numbers and length-prefixed fields are self-delimiting;
concatenation and counted lists keep the property. A transcript built this
way determines every field its view keeps, and a leading domain string keeps
two kinds of transcript apart.
-/

namespace MasterRecovery.Transcript
open Checks

abbrev Bytes := List UInt8

variable {ε α β γ δ : Type}

/-! ### Big-endian numbers -/

/-- The low `n` base-256 digits of `x`, most significant first. -/
def beBytes : ℕ → ℕ → Bytes
  | 0, _ => []
  | n + 1, x => UInt8.ofNat (x / 256 ^ n) :: beBytes n x

@[simp] theorem beBytes_length (n x : ℕ) : (beBytes n x).length = n := by
  induction n with
  | zero => rfl
  | succ n ih => simp [beBytes, ih]

/-- Equal digits, equal residues. -/
theorem beBytes_mod {n x y : ℕ} (h : beBytes n x = beBytes n y) : x % 256 ^ n = y % 256 ^ n := by
  induction n with
  | zero => simp [Nat.mod_one]
  | succ n ih =>
    obtain ⟨hhead, htail⟩ := List.cons.inj h
    have hdigit : x / 256 ^ n % 256 = y / 256 ^ n % 256 := by
      have hb := congrArg UInt8.toNat hhead
      simpa using hb
    rw [Nat.mod_pow_succ, Nat.mod_pow_succ, ih htail, hdigit]

theorem beBytes_inj {n x y : ℕ} (hx : x < 256 ^ n) (hy : y < 256 ^ n)
    (h : beBytes n x = beBytes n y) : x = y := by
  have hmod := beBytes_mod h
  rwa [Nat.mod_eq_of_lt hx, Nat.mod_eq_of_lt hy] at hmod

/-! ### Encoders -/

/-- Output of an encoder: the bytes appended, or the refusal. -/
abbrev Put (ε : Type) := Except ε Bytes

/-- Append in order; the first refusal wins. -/
def Put.append (p q : Put ε) : Except ε Bytes := do
  let a ← p
  let b ← q
  pure (a ++ b)

instance : Append (Put ε) := ⟨Put.append⟩

theorem append_eq_ok {p q : Put ε} {x : Bytes} :
    p ++ q = .ok x ↔ ∃ a b, p = .ok a ∧ q = .ok b ∧ a ++ b = x := by
  change Put.append p q = .ok x ↔ _
  simp only [Put.append, bind_eq_ok, pure_eq_ok]
  constructor
  · rintro ⟨a, ha, b, hb, h⟩; exact ⟨a, b, ha, hb, h⟩
  · rintro ⟨a, b, ha, hb, h⟩; exact ⟨a, ha, b, hb, h⟩

/-- A concatenation is written when both parts are. -/
theorem append_written {p q : Put ε} :
    (∃ x, p ++ q = .ok x) ↔ (∃ x, p = .ok x) ∧ ∃ x, q = .ok x := by
  simp only [append_eq_ok]
  constructor
  · rintro ⟨_, a, b, ha, hb, -⟩; exact ⟨⟨a, ha⟩, b, hb⟩
  · rintro ⟨⟨a, ha⟩, b, hb⟩; exact ⟨_, a, b, ha, hb, rfl⟩

theorem append_assoc (p q r : Put ε) : p ++ q ++ r = p ++ (q ++ r) := by
  change Put.append (Put.append p q) r = Put.append p (Put.append q r)
  cases p <;> cases q <;> cases r <;> simp [Put.append, bind, Except.bind, pure, Except.pure]

/-- Every element in order. -/
def putAll (enc : α → Put ε) : List α → Put ε
  | [] => .ok []
  | x :: xs => enc x ++ putAll enc xs

/-- Equal outputs, up to what follows them, come from equal views. -/
def SelfDelimiting (enc : α → Put ε) (view : α → β) : Prop :=
  ∀ ⦃a b : α⦄ ⦃x y r s : Bytes⦄, enc a = .ok x → enc b = .ok y → x ++ r = y ++ s →
    view a = view b ∧ r = s

namespace SelfDelimiting

variable {enc : α → Put ε} {enc' : α → Put ε} {view : α → β} {view' : α → γ}

theorem comp (h : SelfDelimiting enc view) (f : δ → α) :
    SelfDelimiting (fun d => enc (f d)) (fun d => view (f d)) :=
  fun _ _ _ _ _ _ ha hb heq => h ha hb heq

theorem weaken (h : SelfDelimiting enc view) (hw : ∀ a b, view a = view b → view' a = view' b) :
    SelfDelimiting enc view' := by
  intro a b x y r s ha hb heq
  obtain ⟨hv, hr⟩ := h ha hb heq
  exact ⟨hw a b hv, hr⟩

theorem seq (h : SelfDelimiting enc view) (h' : SelfDelimiting enc' view') :
    SelfDelimiting (fun a => enc a ++ enc' a) (fun a => (view a, view' a)) := by
  intro a b x y r s ha hb heq
  obtain ⟨x₁, x₂, hx₁, hx₂, rfl⟩ := append_eq_ok.mp ha
  obtain ⟨y₁, y₂, hy₁, hy₂, rfl⟩ := append_eq_ok.mp hb
  rw [List.append_assoc, List.append_assoc] at heq
  obtain ⟨hv, hrest⟩ := h hx₁ hy₁ heq
  obtain ⟨hv', hr⟩ := h' hx₂ hy₂ hrest
  exact ⟨Prod.ext hv hv', hr⟩

/-- A refusal in front of an encoder only narrows its domain. -/
theorem guarded (h : SelfDelimiting enc view) (check : α → Except ε Unit) :
    SelfDelimiting (fun a => (do check a; enc a : Except ε Bytes)) view := by
  intro a b x y r s ha hb heq
  exact h (bind_unit_eq_ok.mp ha).2 (bind_unit_eq_ok.mp hb).2 heq

theorem fixed (width : ℕ) {f : α → ℕ} (hf : ∀ a, f a < 256 ^ width) :
    SelfDelimiting (fun a => (.ok (beBytes width (f a)) : Put ε)) f := by
  intro a b x y r s ha hb heq
  cases ha
  cases hb
  obtain ⟨hnum, hr⟩ := List.append_inj heq (by simp)
  exact ⟨beBytes_inj (hf a) (hf b) hnum, hr⟩

theorem constant (p : Put ε) : SelfDelimiting (fun _ : α => p) (fun _ => ()) := by
  intro a b x y r s ha hb heq
  cases ha.symm.trans hb
  exact ⟨rfl, List.append_cancel_left heq⟩

/-- The elements of two lists of one length can be compared one by one. -/
theorem putAll_of_length (h : SelfDelimiting enc view) {l m : List α} {x y r s : Bytes}
    (hlen : l.length = m.length) (hl : putAll enc l = .ok x) (hm : putAll enc m = .ok y)
    (heq : x ++ r = y ++ s) : l.map view = m.map view ∧ r = s := by
  induction l generalizing m x y with
  | nil =>
    cases m with
    | nil => cases hl; cases hm; exact ⟨rfl, by simpa using heq⟩
    | cons b m => simp at hlen
  | cons a l ih =>
    cases m with
    | nil => simp at hlen
    | cons b m =>
      obtain ⟨x₁, x₂, hx₁, hx₂, rfl⟩ := append_eq_ok.mp hl
      obtain ⟨y₁, y₂, hy₁, hy₂, rfl⟩ := append_eq_ok.mp hm
      rw [List.append_assoc, List.append_assoc] at heq
      obtain ⟨hv, hrest⟩ := h hx₁ hy₁ heq
      obtain ⟨hvs, hr⟩ := ih (by simpa using hlen) hx₂ hy₂ hrest
      exact ⟨by simp [hv, hvs], hr⟩

/-- Elements that are never empty need no count: a complete list determines its elements. -/
theorem putAll_injective (h : SelfDelimiting enc view) (hwritten : ∀ a, enc a ≠ .ok [])
    {l m : List α} {x : Bytes} (hl : putAll enc l = .ok x) (hm : putAll enc m = .ok x) :
    l.map view = m.map view := by
  induction l generalizing m x with
  | nil =>
    cases m with
    | nil => rfl
    | cons b m =>
      cases hl
      obtain ⟨y, t, hy, -, hnil⟩ := append_eq_ok.mp hm
      rw [(List.append_eq_nil_iff.mp hnil).1] at hy
      exact absurd hy (hwritten b)
  | cons a l ih =>
    obtain ⟨y, t, hy, ht, rfl⟩ := append_eq_ok.mp hl
    cases m with
    | nil =>
      have hnil : y ++ t = [] := (Except.ok.inj hm).symm
      rw [(List.append_eq_nil_iff.mp hnil).1] at hy
      exact absurd hy (hwritten a)
    | cons b m =>
      obtain ⟨y', t', hy', ht', heq⟩ := append_eq_ok.mp hm
      obtain ⟨hview, rfl⟩ := h hy hy' heq.symm
      rw [List.map_cons, List.map_cons, hview, ih ht ht']

/-- A count in front makes the list of elements self-delimiting. -/
theorem counted (h : SelfDelimiting enc view) {count : ℕ → Put ε}
    (hc : SelfDelimiting count id) :
    SelfDelimiting (fun l : List α => count l.length ++ putAll enc l) (List.map view) := by
  intro l m x y r s hl hm heq
  obtain ⟨x₁, x₂, hx₁, hx₂, rfl⟩ := append_eq_ok.mp hl
  obtain ⟨y₁, y₂, hy₁, hy₂, rfl⟩ := append_eq_ok.mp hm
  rw [List.append_assoc, List.append_assoc] at heq
  obtain ⟨hlen, hrest⟩ := hc hx₁ hy₁ heq
  exact h.putAll_of_length hlen hx₂ hy₂ hrest

/-- A complete transcript determines its view. -/
theorem injective (h : SelfDelimiting enc view) {a b : α} {x : Bytes} (ha : enc a = .ok x)
    (hb : enc b = .ok x) : view a = view b :=
  (h ha hb (r := []) (s := []) rfl).1

end SelfDelimiting

/-- What the encoder writes for some value, and only for values with the property. -/
def Binds (enc : α → Put ε) (Says : α → Prop) (x : Bytes) : Prop :=
  (∃ a, enc a = .ok x) ∧ ∀ a, enc a = .ok x → Says a

/-- A property of what the view keeps is bound by the transcript of a value that has it. -/
theorem SelfDelimiting.bindsTo {enc : α → Put ε} {view : α → α} {Says : α → Prop} {a : α}
    {x : Bytes} (h : SelfDelimiting enc view) (hview : ∀ b, Says (view b) ↔ Says b)
    (ha : enc a = .ok x) (hstated : Says a) : Binds enc Says x := by
  refine ⟨⟨a, ha⟩, fun b hb => (hview b).mp ?_⟩
  rw [h.injective hb ha]
  exact (hview a).mpr hstated

/-- An encoder whose output starts with a head of its own. -/
structure Framed (head : Put ε) (enc : α → Put ε) (view : α → β) : Prop where
  opens : ∀ {a : α} {x : Bytes}, enc a = .ok x → ∃ rest, head ++ rest = .ok x
  binds : SelfDelimiting enc view

namespace Framed

variable {head : Put ε} {enc enc' : α → Put ε} {view : α → β} {view' : α → γ}

theorem start (head : Put ε) : Framed head (fun _ : α => head) (fun _ => ()) where
  opens {_ x} h := ⟨.ok [], append_eq_ok.mpr ⟨x, [], h, rfl, List.append_nil x⟩⟩
  binds := .constant head

theorem seq (h : Framed head enc view) (h' : SelfDelimiting enc' view') :
    Framed head (fun a => enc a ++ enc' a) (fun a => (view a, view' a)) where
  opens {a x} hx := by
    obtain ⟨first, second, hfirst, -, rfl⟩ := append_eq_ok.mp hx
    obtain ⟨rest, hrest⟩ := h.opens hfirst
    obtain ⟨d, t, hd, ht, rfl⟩ := append_eq_ok.mp hrest
    exact ⟨.ok (t ++ second), append_eq_ok.mpr ⟨d, _, hd, rfl, (List.append_assoc _ _ _).symm⟩⟩
  binds := h.binds.seq h'

theorem guarded (h : Framed head enc view) (check : α → Except ε Unit) :
    Framed head (fun a => (do check a; enc a : Except ε Bytes)) view where
  opens hx := h.opens (bind_unit_eq_ok.mp hx).2
  binds := h.binds.guarded check

theorem comp (h : Framed head enc view) (f : δ → α) :
    Framed head (fun d => enc (f d)) (fun d => view (f d)) where
  opens := h.opens
  binds := h.binds.comp f

theorem weaken (h : Framed head enc view) (hw : ∀ a b, view a = view b → view' a = view' b) :
    Framed head enc view' where
  opens := h.opens
  binds := h.binds.weaken hw

end Framed

end MasterRecovery.Transcript
