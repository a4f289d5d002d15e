import Captastic.Library.Fallible

/-!
# Calls on a state that outlives their errors

A call reads and changes a state of type `σ`; when it returns an error, what it has done to
the state stays done.  A call may also still be waiting (`none`).  `Triple P x Q` says what
holds when `x` returns: `Q` of its result, an error or a value, and of the state it leaves.
-/

set_option autoImplicit false

namespace Captastic.Library

/-- A call on a state. -/
def Session (σ E α : Type) : Type := σ → Option (Except E α × σ)

variable {σ E α β : Type}

namespace Session

/-- Returns a value. -/
def ret (a : α) : Session σ E α := fun s => some (.ok a, s)

/-- Goes on after a call that returned a value. -/
def and_then (x : Session σ E α) (f : α → Session σ E β) : Session σ E β := fun s =>
  match x s with
  | none => none
  | some (.error error, s') => some (.error error, s')
  | some (.ok a, s') => f a s'

instance : Monad (Session σ E) where
  pure := ret
  bind := and_then

/-- A result that is there already. -/
def lift (result : Except E α) : Session σ E α := fun s => some (result, s)

/-- Reads the state. -/
def read : Session σ E σ := fun s => some (.ok s, s)

/-- Changes the state. -/
def update (change : σ → σ) : Session σ E Unit := fun s => some (.ok (), change s)

/-- A call that never returns. -/
def waiting : Session σ E α := fun _ => none

/-- The result of a call, its error as a value: `match x { Ok(..) => .., Err(..) => .. }`. -/
def attempt (x : Session σ E α) : Session σ E (Except E α) := fun s =>
  (x s).map fun (result, s') => (.ok result, s')

/-- `loop { .. }`, which goes on while the body returns `none`; `n` bounds the rounds. -/
def loop (body : Session σ E (Option α)) : Nat → Session σ E α
  | 0 => waiting
  | n + 1 => and_then body fun
    | some a => ret a
    | none => loop body n

end Session

/-! ## Triples -/

/-- Whenever the call returns, from a state where `P` holds, `Q` holds of what it returns. -/
def Triple (P : σ → Prop) (x : Session σ E α) (Q : Except E α → σ → Prop) : Prop :=
  ∀ s result s', P s → x s = some (result, s') → Q result s'

variable {P P' : σ → Prop} {Q Q' : Except E α → σ → Prop} {R : Except E β → σ → Prop}

/-- A postcondition that says something else of a value and of an error. -/
def Post (ok : α → σ → Prop) (error : E → σ → Prop) : Except E α → σ → Prop
  | .ok a, s => ok a s
  | .error e, s => error e s

/-- A stronger precondition and a weaker postcondition still hold. -/
theorem Triple.conseq {x : Session σ E α} (spec : Triple P x Q) (pre : ∀ s, P' s → P s)
    (post : ∀ result s, Q result s → Q' result s) : Triple P' x Q' :=
  fun s result s' holds ran => post result s' (spec s result s' (pre s holds) ran)

/-- A triple holds from any stronger precondition. -/
theorem Triple.pre {x : Session σ E α} (spec : Triple P x Q) (pre : ∀ s, P' s → P s) :
    Triple P' x Q :=
  spec.conseq pre fun _ _ holds => holds

/-- A triple holds with any weaker postcondition. -/
theorem Triple.post {x : Session σ E α} (spec : Triple P x Q)
    (post : ∀ result s, Q result s → Q' result s) : Triple P x Q' :=
  spec.conseq (fun _ holds => holds) post

/-- It is enough to show a triple for each case of its precondition. -/
theorem Triple.of_exists {ι : Type} {P : ι → σ → Prop} {x : Session σ E α}
    (spec : ∀ i, Triple (P i) x Q) : Triple (fun s => ∃ i, P i s) x Q :=
  fun s result s' ⟨i, holds⟩ ran => spec i s result s' holds ran

/-- It is enough to show a triple for both sides of its precondition. -/
theorem Triple.of_or {x : Session σ E α} (left : Triple P x Q) (right : Triple P' x Q) :
    Triple (fun s => P s ∨ P' s) x Q :=
  fun s result s' holds ran =>
    holds.elim (fun holds => left s result s' holds ran) (fun holds => right s result s' holds ran)

/-- A part of the precondition that does not mention the state. -/
theorem Triple.of_fact {fact : Prop} {x : Session σ E α} (spec : fact → Triple P x Q) :
    Triple (fun s => P s ∧ fact) x Q :=
  fun s result s' holds ran => spec holds.2 s result s' holds.1 ran

/-- Returning a value leaves the state. -/
theorem Triple.pure {a : α} (holds : ∀ s, P s → Q (.ok a) s) :
    Triple P (Pure.pure a : Session σ E α) Q := by
  intro s result s' before ran
  obtain ⟨rfl, rfl⟩ := Prod.mk.inj (Option.some.inj ran)
  exact holds s before

/-- A result that is there already leaves the state. -/
theorem Triple.lift {value : Except E α} (holds : ∀ s, P s → Q value s) :
    Triple P (Session.lift value) Q := by
  intro s result s' before ran
  obtain ⟨rfl, rfl⟩ := Prod.mk.inj (Option.some.inj ran)
  exact holds s before

/-- Reading returns the state and leaves it. -/
theorem Triple.read {Q : Except E σ → σ → Prop} (holds : ∀ s, P s → Q (.ok s) s) :
    Triple P (Session.read : Session σ E σ) Q := by
  intro s result s' before ran
  obtain ⟨rfl, rfl⟩ := Prod.mk.inj (Option.some.inj ran)
  exact holds s before

/-- Changing the state returns nothing. -/
theorem Triple.update {change : σ → σ} {Q : Except E Unit → σ → Prop}
    (holds : ∀ s, P s → Q (.ok ()) (change s)) :
    Triple P (Session.update change : Session σ E Unit) Q := by
  intro s result s' before ran
  obtain ⟨rfl, rfl⟩ := Prod.mk.inj (Option.some.inj ran)
  exact holds s before

/-- A call that never returns meets every triple. -/
theorem Triple.waiting : Triple P (Session.waiting : Session σ E α) Q := by
  intro s result s' _ ran
  cases ran

/-- **Sequencing**: what the first call leaves is what the second one starts from. -/
theorem Triple.bind {x : Session σ E α} {f : α → Session σ E β} (first : Triple P x Q)
    (second : ∀ a, Triple (Q (.ok a)) (f a) R) (fails : ∀ error s, Q (.error error) s →
      R (.error error) s) : Triple P (x >>= f) R := by
  intro s result s' before ran
  change Session.and_then x f s = some (result, s') at ran
  unfold Session.and_then at ran
  split at ran
  · cases ran
  · rename_i error s₁ stopped
    obtain ⟨rfl, rfl⟩ := Prod.mk.inj (Option.some.inj ran)
    exact fails error s₁ (first s _ s₁ before stopped)
  · rename_i a s₁ went_on
    exact second a s₁ result s' (first s _ s₁ before went_on) ran

/-- Each branch has to meet the triple only under its own condition. -/
theorem Triple.ite {c : Prop} [Decidable c] {x y : Session σ E α} (yes : c → Triple P x Q)
    (no : ¬ c → Triple P y Q) : Triple P (if c then x else y) Q := by
  split
  · rename_i holds
    exact yes holds
  · rename_i fails
    exact no fails

/-- Reading the state, and going on with it. -/
theorem Triple.bind_read {f : σ → Session σ E β}
    (second : ∀ s₀, Triple (fun s => P s ∧ s₀ = s) (f s₀) R) :
    Triple P (Session.read >>= f) R :=
  fun s result s' before ran => second s s result s' ⟨before, rfl⟩ ran

/-- Changing the state, and going on. -/
theorem Triple.bind_update {S : σ → Prop} {change : σ → σ} {f : Unit → Session σ E β}
    (changes : ∀ s, P s → S (change s)) (second : Triple S (f ()) R) :
    Triple P (Session.update change >>= f) R :=
  fun s result s' before ran => second (change s) result s' (changes s before) ran

/-- An error that is looked at is a value like any other. -/
theorem Triple.attempt {x : Session σ E α} {R : Except E (Except E α) → σ → Prop}
    (spec : Triple P x Q) (post : ∀ result s, Q result s → R (.ok result) s) :
    Triple P (Session.attempt x) R := by
  intro s result s' before ran
  obtain ⟨⟨inner, s₁⟩, returned, made⟩ := Option.map_eq_some_iff.mp ran
  obtain ⟨rfl, rfl⟩ := Prod.mk.inj made
  exact post inner s₁ (spec s inner s₁ before returned)

/-- **Loops**: an invariant of the body holds until it returns. -/
theorem Triple.loop {body : Session σ E (Option α)} (n : Nat)
    (round : Triple P body (Post (fun again s => match again with
      | none => P s
      | some a => Q (.ok a) s) fun error s => Q (.error error) s)) :
    Triple P (Session.loop body n) Q := by
  induction n with
  | zero => exact Triple.waiting
  | succ n ih =>
    refine Triple.bind (x := body) (f := fun again => match again with
      | some a => Session.ret a
      | none => Session.loop body n) round ?_ (fun error s holds => holds)
    intro again
    cases again with
    | none => exact ih
    | some a => exact Triple.pure fun s holds => holds

end Captastic.Library
