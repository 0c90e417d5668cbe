import MasterRecovery.Lib.Calls
import MasterRecovery.RecoveryTypes

/-!
# What becomes of a recovery request

The machines of a guardian do four things to a request: they begin it, release it, find it expired
and cancel it. A book holds what they know of their requests, and one call is one step of the book.
Whatever a machine reports of a request is the last thing it did to it.
-/

namespace MasterRecovery

/-- What was done to a request. -/
inductive RequestDeed
  | begun
  | released
  | foundExpired
  | cancelled
  deriving DecidableEq

/-- The state it leaves the request in. -/
def RequestDeed.state : RequestDeed → RecoveryState
  | .begun => .delayPending
  | .released => .releasing
  | .foundExpired => .expired
  | .cancelled => .cancelled

/-- The ids seen, the requests begun, each with its digest and state, and the digests that ids are
cancelled under. -/
@[ext] structure RequestBook where
  seen : Id32 → Prop
  pending : Id32 → Option (Id32 × RecoveryState)
  cancelled : Id32 → Option Id32

namespace RequestBook

/-- A book without requests. -/
def blank : RequestBook := ⟨fun _ => False, fun _ => none, fun _ => none⟩

/-- What the book reports of a request. -/
def state (id : Id32) (book : RequestBook) : Option RecoveryState :=
  if (book.cancelled id).isSome then some .cancelled else (book.pending id).map (·.2)

def see (id : Id32) (book : RequestBook) : RequestBook :=
  { book with seen := fun other => other = id ∨ book.seen other }

def put (id digest : Id32) (state : RecoveryState) (book : RequestBook) : RequestBook :=
  { book with pending := Function.update book.pending id (some (digest, state)) }

def bury (id digest : Id32) (book : RequestBook) : RequestBook :=
  { book with cancelled := Function.update book.cancelled id (some digest) }

/-- One call, with what it did to which request. -/
inductive Step (book : RequestBook) : Option (Id32 × RequestDeed) → RequestBook → Prop
  | kept : Step book none book
  | seen (id : Id32) : Step book none (book.see id)
  | begun {id digest : Id32} (hnew : ¬book.seen id) (hlive : book.cancelled id = none) :
    Step book (some (id, .begun)) ((book.see id).put id digest .delayPending)
  | released {id digest : Id32} {state : RecoveryState} (hlive : book.cancelled id = none)
    (hpending : book.pending id = some (digest, state)) :
    Step book (some (id, .released)) (book.put id digest .releasing)
  | foundExpired {id digest : Id32} {state : RecoveryState} (hlive : book.cancelled id = none)
    (hpending : book.pending id = some (digest, state)) :
    Step book (some (id, .foundExpired)) (book.put id digest .expired)
  | cancelledBefore {id digest : Id32} (hcancelled : book.cancelled id = some digest) :
    Step book (some (id, .cancelled)) book
  | cancelledPending {id digest : Id32} {state : RecoveryState}
    (hpending : book.pending id = some (digest, state)) :
    Step book (some (id, .cancelled)) ((book.put id digest .cancelled).bury id digest)
  | cancelled {id digest : Id32} (hpending : book.pending id = none) :
    Step book (some (id, .cancelled)) (book.bury id digest)

variable {book book' : RequestBook} {deed : Option (Id32 × RequestDeed)} {id other digest : Id32}
  {new : RecoveryState}

theorem state_put (hlive : book.cancelled id = none) :
    (book.put id digest new).state other = if other = id then some new else book.state other := by
  by_cases hsame : other = id
  · subst hsame
    simp [state, put, hlive]
  · simp [state, put, hsame]

theorem state_bury :
    (book.bury id digest).state other =
      if other = id then some .cancelled else book.state other := by
  by_cases hsame : other = id
  · subst hsame
    simp [state, bury]
  · simp [state, bury, hsame]

@[simp] theorem state_see : (book.see id).state other = book.state other := rfl

/-- A step changes what is reported of the request it deals with, and of no other. -/
theorem Step.state (h : Step book deed book') :
    book'.state other =
      ((Machine.inbox other deed.toList).getLast?.map RequestDeed.state).or (book.state other) := by
  have hdeed : ∀ {d : RequestDeed} {id : Id32} {shown : Option RecoveryState},
      shown = (if other = id then some d.state else book.state other) →
        shown = ((Machine.inbox other (some (id, d)).toList).getLast?.map RequestDeed.state).or
          (book.state other) := by
    intro d id shown hshown
    rw [hshown]
    by_cases hsame : other = id
    · subst hsame
      simp [Machine.inbox]
    · simp [Machine.inbox, hsame, Ne.symm hsame]
  cases h with
  | kept => rfl
  | seen => rfl
  | begun _ hlive => exact hdeed (state_put hlive)
  | released hlive => exact hdeed (state_put hlive)
  | foundExpired hlive => exact hdeed (state_put hlive)
  | @cancelledBefore id _ hcancelled =>
    refine hdeed ?_
    by_cases hsame : other = id
    · subst hsame
      simp [RequestBook.state, hcancelled, RequestDeed.state]
    · rw [if_neg hsame]
  | @cancelledPending id =>
    refine hdeed (state_bury.trans ?_)
    by_cases hsame : other = id
    · rw [if_pos hsame, if_pos hsame]
      rfl
    · rw [if_neg hsame, if_neg hsame]
      simp [RequestBook.state, put, hsame]
  | cancelled => exact hdeed state_bury

/-- What is pending has been seen, and it is cancelled in the one table exactly when it is in the
other, under its own digest. -/
structure Coherent (book : RequestBook) : Prop where
  seen : ∀ id, book.pending id ≠ none → book.seen id
  buried : ∀ id digest state, book.pending id = some (digest, state) →
    book.cancelled id = if state = .cancelled then some digest else none

theorem coherent_blank : Coherent blank where
  seen _ h := absurd rfl h
  buried _ _ _ h := by cases h

theorem Coherent.put (h : Coherent book) (hseen : book.seen id) (hlive : book.cancelled id = none)
    (hnew : new ≠ .cancelled) : Coherent (book.put id digest new) where
  seen other hother := by
    by_cases hsame : other = id
    · exact hsame ▸ hseen
    · exact h.seen other (by simpa [RequestBook.put, hsame] using hother)
  buried other found state hpending := by
    by_cases hsame : other = id
    · subst hsame
      simp only [RequestBook.put, Function.update_self, Option.some.injEq, Prod.mk.injEq] at hpending
      rw [← hpending.2, if_neg hnew]
      exact hlive
    · exact h.buried other found state (by simpa [RequestBook.put, hsame] using hpending)

theorem Coherent.see (h : Coherent book) : Coherent (book.see id) where
  seen other hother := Or.inr (h.seen other hother)
  buried := h.buried

theorem Coherent.step (h : Coherent book) (hstep : Step book deed book') : Coherent book' := by
  cases hstep with
  | kept => exact h
  | seen => exact h.see
  | begun _ hlive => exact h.see.put (Or.inl rfl) hlive (by simp)
  | released hlive hpending => exact h.put (h.seen _ (by simp [hpending])) hlive (by simp)
  | foundExpired hlive hpending => exact h.put (h.seen _ (by simp [hpending])) hlive (by simp)
  | cancelledBefore => exact h
  | @cancelledPending id digest _ hpending =>
    refine ⟨fun other hother => ?_, fun other found state hfound => ?_⟩
    · by_cases hsame : other = id
      · subst hsame
        exact h.seen other (by simp [hpending])
      · exact h.seen other (by simpa [RequestBook.put, bury, hsame] using hother)
    · by_cases hsame : other = id
      · subst hsame
        simp only [bury, RequestBook.put, Function.update_self, Option.some.injEq,
          Prod.mk.injEq] at hfound
        obtain ⟨rfl, rfl⟩ := hfound
        simp [bury]
      · simpa [RequestBook.put, bury, hsame] using
          h.buried other found state (by simpa [RequestBook.put, bury, hsame] using hfound)
  | @cancelled id _ hnone =>
    refine ⟨h.seen, fun other found state hfound => ?_⟩
    by_cases hsame : other = id
    · subst hsame
      cases hnone.symm.trans hfound
    · simpa [bury, hsame] using h.buried other found state hfound

/-- What is pending is reported as it is. -/
theorem Coherent.state_eq (h : Coherent book) {state : RecoveryState}
    (hpending : book.pending id = some (digest, state)) : book.state id = some state := by
  unfold RequestBook.state
  rw [h.buried id digest state hpending]
  by_cases hcancelled : state = .cancelled
  · simp [hcancelled]
  · simp [hcancelled, hpending]

/-- What a deed needs of the state before it. -/
def After (before : Option RecoveryState) : RequestDeed → Prop
  | .begun => before = none
  | .released => before ≠ none ∧ before ≠ some .cancelled
  | .foundExpired => before ≠ none ∧ before ≠ some .cancelled
  | .cancelled => True

theorem Coherent.pending_live (h : Coherent book) {state : RecoveryState}
    (hlive : book.cancelled id = none) (hpending : book.pending id = some (digest, state)) :
    book.state id ≠ none ∧ book.state id ≠ some .cancelled := by
  rw [h.state_eq hpending]
  refine ⟨by simp, fun hsame => ?_⟩
  have hburied := h.buried id digest state hpending
  rw [if_pos (Option.some.inj hsame), hlive] at hburied
  cases hburied

theorem Step.after {d : RequestDeed} (h : Step book (some (id, d)) book') (hbook : Coherent book) :
    After (book.state id) d := by
  cases h with
  | begun hnew hlive =>
    have hpending : book.pending id = none := by
      by_contra hsome
      exact hnew (hbook.seen id hsome)
    simp [After, RequestBook.state, hlive, hpending]
  | released hlive hpending => exact hbook.pending_live hlive hpending
  | foundExpired hlive hpending => exact hbook.pending_live hlive hpending
  | cancelledBefore => trivial
  | cancelledPending => trivial
  | cancelled => trivial

/-- A request that was begun stays in the book, whatever becomes of it. -/
theorem Step.pending (h : Step book deed book')
    (hpending : book.pending id ≠ none ∨ deed = some (id, .released)) : book'.pending id ≠ none := by
  have hput : ∀ {other digest : Id32} {state : RecoveryState} {d : RequestDeed},
      (book.pending id ≠ none ∨ some (other, d) = some (id, .released)) →
        (book.put other digest state).pending id ≠ none := by
    intro other digest state d hor
    by_cases hsame : id = other
    · simp [RequestBook.put, hsame]
    · have hold := hor.resolve_right fun heq => hsame (by cases heq; rfl)
      simpa [RequestBook.put, hsame] using hold
  cases h with
  | kept => exact hpending.resolve_right (by simp)
  | seen => exact hpending.resolve_right (by simp)
  | begun => exact hput hpending
  | released => exact hput hpending
  | foundExpired => exact hput hpending
  | cancelledBefore => exact hpending.resolve_right (by simp)
  | cancelledPending => exact hput hpending
  | cancelled => exact hpending.resolve_right (by simp)

/-- A table of a machine, as the book reads it. -/
theorem map_insert {α β : Type} (table : Std.TreeMap Id32 α) (id : Id32) (value : α) (f : α → β) :
    (fun other : Id32 => (table.insert id value)[other]?.map f) =
      Function.update (fun other : Id32 => table[other]?.map f) id (some (f value)) := by
  funext other
  rw [Std.TreeMap.getElem?_insert]
  by_cases hsame : id = other
  · subst hsame
    simp
  · simp [hsame, Ne.symm hsame]

theorem insert_eq_update {α : Type} (table : Std.TreeMap Id32 α) (id : Id32) (value : α) :
    (fun other : Id32 => (table.insert id value)[other]?) =
      Function.update (fun other : Id32 => table[other]?) id (some value) := by
  simpa using map_insert table id value (fun value => value)

end RequestBook

/-! ### Machines that keep a book -/

section Machines

variable {σ ι : Type}

/-- Every step of the machine is one of its book, and what it notes is what was done. -/
def KeepsBook (m : Machine σ ι (Id32 × RequestDeed)) (book : σ → RequestBook) : Prop :=
  ∀ s i, (book s).Step (m.step s i).2 (book (m.step s i).1)

variable {m : Machine σ ι (Id32 × RequestDeed)} {book : σ → RequestBook} {s : σ} {i : ι} {id : Id32}

theorem KeepsBook.reports (h : KeepsBook m book) :
    Machine.Reports m (fun id s => (book s).state id) RequestDeed.state :=
  fun s i _ => (h s i).state

theorem KeepsBook.coherent (h : KeepsBook m book) (hs : (book s).Coherent) (is : List ι) :
    (book (m.run s is)).Coherent := by
  induction is generalizing s with
  | nil => exact hs
  | cons i is ih => exact ih (hs.step (h s i))

/-- What was released is in the book. -/
theorem KeepsBook.released_pending (h : KeepsBook m book) (s : σ) (is : List ι)
    (hmem : (id, .released) ∈ m.outputs s is) : (book (m.run s is)).pending id ≠ none := by
  obtain ⟨before, i, after, rfl, hnote⟩ := m.output_split hmem
  rw [Machine.run_append, Machine.run_cons]
  have hpending := (h (m.run s before) i).pending (Or.inr hnote)
  generalize (m.step (m.run s before) i).1 = t at hpending
  clear hmem hnote
  induction after generalizing t with
  | nil => exact hpending
  | cons j after ih => exact ih _ ((h t j).pending (Or.inl hpending))

/-- A step that releases a request reported as expired. -/
def Reopens (m : Machine σ ι (Id32 × RequestDeed)) (state : Id32 → σ → Option RecoveryState) (s : σ)
    (i : ι) : Prop :=
  ∃ id, (m.step s i).2 = some (id, .released) ∧ state id s = some .expired

/-- A step that cancels a request released before. -/
def Recants (m : Machine σ ι (Id32 × RequestDeed)) (out : List (Id32 × RequestDeed)) (s : σ)
    (i : ι) : Prop :=
  ∃ id, (m.step s i).2 = some (id, .cancelled) ∧ (id, .released) ∈ out

/-- What has ended is not released any more, and what was released does not end as cancelled. -/
structure Absorbing (m : Machine σ ι (Id32 × RequestDeed))
    (state : Id32 → σ → Option RecoveryState) (s : σ) (sent : List ι) : Prop where
  ended : ∀ earlier later, sent = earlier ++ later → ∀ id,
    state id (m.run s earlier) = some .expired ∨ state id (m.run s earlier) = some .cancelled →
      (id, .released) ∉ m.outputs (m.run s earlier) later
  released : ∀ earlier later, sent = earlier ++ later → ∀ id,
    (id, .released) ∈ m.outputs s earlier → state id (m.run s earlier) ≠ some .cancelled

/-- A request that is over. -/
def Over (book : RequestBook) (id : Id32) : Prop :=
  book.state id = some .expired ∨ book.state id = some .cancelled

theorem KeepsBook.over_step (h : KeepsBook m book) (hs : (book s).Coherent)
    (hover : Over (book s) id) (hkept : ¬Reopens m (fun id s => (book s).state id) s i) :
    Over (book (m.step s i).1) id ∧ (m.step s i).2 ≠ some (id, .released) := by
  by_cases hdeed : ∃ d, (m.step s i).2 = some (id, d)
  · obtain ⟨d, hd⟩ := hdeed
    have hafter := (hd ▸ h s i).after hs
    have hshown := h.reports.noted hd
    cases d with
    | begun =>
      rcases hover with hexpired | hcancelled
      · cases hafter.symm.trans hexpired
      · cases hafter.symm.trans hcancelled
    | released =>
      rcases hover with hexpired | hcancelled
      · exact absurd ⟨id, hd, hexpired⟩ hkept
      · exact absurd hcancelled hafter.2
    | foundExpired => exact ⟨Or.inl hshown, by simp [hd]⟩
    | cancelled => exact ⟨Or.inr hshown, by simp [hd]⟩
  · have hother := h.reports.other fun d hd => hdeed ⟨d, hd⟩
    refine ⟨?_, fun hd => hdeed ⟨_, hd⟩⟩
    unfold Over
    rw [hother]
    exact hover

/-- A request that was released and is not cancelled. -/
theorem KeepsBook.released_step (h : KeepsBook m book) {out : List (Id32 × RequestDeed)}
    (hlive : (id, .released) ∈ out → (book s).state id ≠ some .cancelled)
    (hkept : ¬Recants m out s i)
    (hmem : (id, RequestDeed.released) ∈ out ++ (m.step s i).2.toList) :
    (book (m.step s i).1).state id ≠ some .cancelled := by
  by_cases hdeed : ∃ d, (m.step s i).2 = some (id, d)
  · obtain ⟨d, hd⟩ := hdeed
    have hshown := h.reports.noted hd
    rw [hshown]
    cases d with
    | cancelled =>
      rw [hd] at hmem
      have hbefore : (id, RequestDeed.released) ∈ out := by simpa using hmem
      exact absurd ⟨id, hd, hbefore⟩ hkept
    | begun => simp [RequestDeed.state]
    | released => simp [RequestDeed.state]
    | foundExpired => simp [RequestDeed.state]
  · have hother := h.reports.other fun d hd => hdeed ⟨d, hd⟩
    rw [hother]
    rcases List.mem_append.mp hmem with hbefore | hnow
    · exact hlive hbefore
    · exact absurd ⟨_, Option.mem_toList.mp hnow⟩ hdeed

theorem KeepsBook.over_run (h : KeepsBook m book) (hs : (book s).Coherent) (hover : Over (book s) id)
    {out : List (Id32 × RequestDeed)} {sent : List ι}
    (halong : m.Along (fun s _ i => ¬Reopens m (fun id s => (book s).state id) s i) s out sent) :
    (id, .released) ∉ m.outputs s sent := by
  induction sent generalizing s out with
  | nil => simp
  | cons i sent ih =>
    obtain ⟨hover', hkept⟩ := h.over_step hs hover halong.1
    rw [Machine.outputs_cons, List.mem_append, not_or]
    refine ⟨fun hmem => hkept (Option.mem_toList.mp hmem), ?_⟩
    exact ih (hs.step (h s i)) hover' halong.2

/-- The end of a request is final exactly when no step reopens or recants one. -/
theorem KeepsBook.absorbing_iff (h : KeepsBook m book) (hs : (book s).Coherent) (sent : List ι) :
    Absorbing m (fun id s => (book s).state id) s sent ↔
      m.Along (fun s out i => ¬Reopens m (fun id s => (book s).state id) s i ∧ ¬Recants m out s i)
        s [] sent := by
  constructor
  · intro habsorbing
    rw [Machine.along_iff_split]
    intro before i after hsplit
    constructor
    · intro hreopens
      obtain ⟨id, hd, hexpired⟩ := hreopens
      refine habsorbing.ended before (i :: after) hsplit id (Or.inl hexpired) ?_
      rw [Machine.outputs_cons, hd]
      exact List.mem_append_left _ (List.mem_singleton_self _)
    · intro hrecants
      obtain ⟨id, hd, hreleased⟩ := hrecants
      rw [List.nil_append] at hreleased
      refine habsorbing.released (before ++ [i]) after (by simp [hsplit]) id ?_ ?_
      · rw [Machine.outputs_append]
        exact List.mem_append_left _ hreleased
      · rw [Machine.run_append]
        exact h.reports.noted hd
  · intro halong
    refine ⟨fun earlier later hsplit id hover => ?_, fun earlier later hsplit id hmem => ?_⟩
    · rw [hsplit, Machine.along_append] at halong
      exact h.over_run (h.coherent hs earlier) hover (halong.2.mono fun _ _ _ hP => hP.1)
    · rw [hsplit, Machine.along_append] at halong
      exact m.run_invariant
        (I := fun s out => (id, .released) ∈ out → (book s).state id ≠ some .cancelled)
        (by simp) (fun s out i hI hP => h.released_step hI hP.2) halong.1 hmem

end Machines

end MasterRecovery
