import MasterRecovery.Lib.Machine

/-!
# Objects whose calls may be refused

The methods of an object return a result or an error, and an error may come with a changed
object. Calling it again and again is a machine; what is noted of each call depends on the call
and on what it returned. Where the notes carry keys, a table may show the last note of each key.
-/

namespace MasterRecovery

namespace Machine

variable {σ ι ο ε α κ δ τ : Type}

/-- A call whose result is passed on changed. -/
theorem map_eq_ok {β : Type} {f : α → β} {x : EStateM ε σ α} {s t : σ} {b : β}
    (h : (f <$> x) s = .ok b t) : ∃ a, x s = .ok a t ∧ f a = b := by
  simp only [Functor.map, EStateM.map] at h
  cases hx : x s with
  | ok a u =>
    simp only [hx, EStateM.Result.ok.injEq] at h
    obtain ⟨hvalue, rfl⟩ := h
    exact ⟨a, rfl, hvalue⟩
  | error e u => simp [hx] at h

theorem map_ok {β : Type} {f : α → β} {x : EStateM ε σ α} {s t : σ} {a : α} (h : x s = .ok a t) :
    (f <$> x) s = .ok (f a) t := by
  simp only [Functor.map, EStateM.map, h]

theorem map_error {β : Type} {f : α → β} {x : EStateM ε σ α} {s t : σ} {e : ε}
    (h : x s = .error e t) : (f <$> x) s = .error e t := by
  simp only [Functor.map, EStateM.map, h]

theorem map_eq_error {β : Type} {f : α → β} {x : EStateM ε σ α} {s t : σ} {e : ε}
    (h : (f <$> x) s = .error e t) : x s = .error e t := by
  simp only [Functor.map, EStateM.map] at h
  cases hx : x s with
  | ok a u => simp [hx] at h
  | error e u => simpa [hx] using h

/-- Calls one after the other, each noted by what it was and what it returned. -/
def observing (call : ι → EStateM ε σ α) (note : ι → Except ε α → Option ο) : Machine σ ι ο where
  step s i :=
    match call i s with
    | .ok a t => (t, note i (.ok a))
    | .error e t => (t, note i (.error e))

/-- An accepted call is its own note. -/
def accepted (i : ι) : Except ε α → Option ι
  | .ok _ => some i
  | .error _ => none

/-- The accepted calls are logged. -/
def ofCalls (call : ι → EStateM ε σ α) : Machine σ ι ι := observing call accepted

section Observing

variable {call : ι → EStateM ε σ α} {note : ι → Except ε α → Option ο} {s t : σ} {i : ι}

theorem observing_ok {a : α} (h : call i s = .ok a t) :
    (observing call note).step s i = (t, note i (.ok a)) := by
  simp only [observing, h]

theorem observing_error {e : ε} (h : call i s = .error e t) :
    (observing call note).step s i = (t, note i (.error e)) := by
  simp only [observing, h]

/-- The object does not depend on what is noted. -/
theorem observing_step (call : ι → EStateM ε σ α) {ο' : Type} (note : ι → Except ε α → Option ο)
    (note' : ι → Except ε α → Option ο') (s : σ) (i : ι) :
    ((observing call note).step s i).1 = ((observing call note').step s i).1 := by
  simp only [observing]
  cases call i s <;> rfl

theorem observing_run (call : ι → EStateM ε σ α) {ο' : Type} (note : ι → Except ε α → Option ο)
    (note' : ι → Except ε α → Option ο') (s : σ) (is : List ι) :
    (observing call note).run s is = (observing call note').run s is := by
  induction is generalizing s with
  | nil => rfl
  | cons i is ih => rw [run_cons, run_cons, observing_step call note note', ih]

/-- One step, by whether the call is accepted. -/
theorem observing_cases {P : σ × Option ο → Prop}
    (hok : ∀ a t, call i s = .ok a t → P (t, note i (.ok a)))
    (herror : ∀ e t, call i s = .error e t → P (t, note i (.error e))) :
    P ((observing call note).step s i) := by
  cases h : call i s with
  | ok a t =>
    rw [observing_ok h]
    exact hok a t h
  | error e t =>
    rw [observing_error h]
    exact herror e t h

end Observing

section OfCalls

variable {call : ι → EStateM ε σ α} {s t : σ} {i j : ι}

theorem ofCalls_ok {a : α} (h : call i s = .ok a t) : (ofCalls call).step s i = (t, some i) :=
  observing_ok h

theorem ofCalls_error {e : ε} (h : call i s = .error e t) : (ofCalls call).step s i = (t, none) :=
  observing_error h

theorem ofCalls_emits (s : σ) (i : ι) :
    ((ofCalls call).step s i).2 = some i ∨ ((ofCalls call).step s i).2 = none := by
  cases h : call i s with
  | ok a t => exact Or.inl (by rw [ofCalls_ok h])
  | error e t => exact Or.inr (by rw [ofCalls_error h])

/-- What is logged was accepted. -/
theorem ofCalls_logged (h : ((ofCalls call).step s i).2 = some j) :
    i = j ∧ ∃ a, call i s = .ok a ((ofCalls call).step s i).1 := by
  cases hcall : call i s with
  | ok a t =>
    rw [ofCalls_ok hcall] at h
    exact ⟨Option.some.inj h, a, by rw [ofCalls_ok hcall]⟩
  | error e t => simp [ofCalls_error hcall] at h

/-- An invariant of the object and its log: an accepted call is added to the log, a refused one
is not. -/
theorem ofCalls_invariant {I : σ → List ι → Prop} (hinit : I s [])
    (hok : ∀ s log i a t, I s log → call i s = .ok a t → I t (log ++ [i]))
    (herror : ∀ s log i e t, I s log → call i s = .error e t → I t log) (is : List ι) :
    I ((ofCalls call).run s is) ((ofCalls call).outputs s is) := by
  refine run_invariant (ofCalls call) (P := fun _ _ _ => True) hinit ?_
    (along_of_forall (ofCalls call) (P := fun _ => True) (fun _ _ => trivial) s [])
  intro s log i hlog _
  cases h : call i s with
  | ok a t =>
    rw [ofCalls_ok h]
    exact hok s log i a t hlog h
  | error e t =>
    rw [ofCalls_error h]
    simpa using herror s log i e t hlog h

end OfCalls

/-! ### Tables of last notes -/

section Reports

variable [DecidableEq κ] {m : Machine σ ι (κ × δ)} {view : κ → σ → Option τ} {shown : δ → τ}

/-- The table shows the last note of each key. -/
def Reports (m : Machine σ ι (κ × δ)) (view : κ → σ → Option τ) (shown : δ → τ) : Prop :=
  ∀ s i k, view k (m.step s i).1 =
    ((inbox k (m.step s i).2.toList).getLast?.map shown).or (view k s)

theorem Reports.run (h : Reports m view shown) (s : σ) (is : List ι) (k : κ) :
    view k (m.run s is) = ((inbox k (m.outputs s is)).getLast?.map shown).or (view k s) := by
  induction is generalizing s with
  | nil => simp [inbox]
  | cons i is ih =>
    rw [run_cons, ih, h s i k, outputs_cons, inbox_append, List.getLast?_append]
    cases (inbox k (m.outputs (m.step s i).1 is)).getLast? <;> simp

theorem Reports.noted (h : Reports m view shown) {s : σ} {i : ι} {k : κ} {d : δ}
    (hnote : (m.step s i).2 = some (k, d)) : view k (m.step s i).1 = some (shown d) := by
  rw [h s i k, hnote]
  simp [inbox]

theorem Reports.other (h : Reports m view shown) {s : σ} {i : ι} {k : κ}
    (hnote : ∀ d, (m.step s i).2 ≠ some (k, d)) : view k (m.step s i).1 = view k s := by
  have hinbox : inbox k (m.step s i).2.toList = [] := by
    refine List.eq_nil_iff_forall_not_mem.mpr fun d hmem => hnote d ?_
    exact Option.mem_toList.mp (mem_inbox.mp hmem)
  rw [h s i k, hinbox]
  rfl

end Reports

end Machine

end MasterRecovery
