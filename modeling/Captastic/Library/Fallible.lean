import Mathlib.Tactic.Cases

/-!
# Calls that return an error, or stop the program

A call that can return an error is an `Except`.  One that can also stop the program, at an
access out of range or at arithmetic that overflows, returns an `Outcome`: its error is then
either the call's own or `stopped`.
-/

set_option autoImplicit false

namespace Captastic.Library

/-- How a call ends that returns no value. -/
inductive Fault (E : Type) where
  | stopped
  | error (error : E)
deriving DecidableEq, Repr

/-- What a call ends with. -/
abbrev Outcome (E α : Type) := Except (Fault E) α

variable {E α β : Type}

/-- An access or an operation whose `none` stops the program. -/
def access (value : Option α) : Outcome E α :=
  match value with
  | some value => .ok value
  | none => .error .stopped

/-- The call returns this error. -/
def fail (error : E) : Outcome E α := .error (.error error)

/-- `value.ok_or(error)?` -/
def or_fail (value : Option α) (error : E) : Outcome E α :=
  match value with
  | some value => .ok value
  | none => fail error

/-- The call returns this error if the condition holds. -/
def fail_if (bad : Bool) (error : E) : Outcome E Unit := if bad then fail error else .ok ()

/-! ## When calls succeed -/

/-- A sequence succeeds exactly where both of its calls do, the second on what the first
returned. -/
theorem bind_eq_ok {x : Except E α} {f : α → Except E β} {b : β} :
    (x >>= f) = .ok b ↔ ∃ a, x = .ok a ∧ f a = .ok b := by
  cases x with
  | error error => simp [bind, Except.bind]
  | ok a => simp [bind, Except.bind]

/-- The same where the first call returns nothing. -/
theorem then_eq_ok {x : Except E Unit} {f : Unit → Except E β} {b : β} :
    (x >>= f) = .ok b ↔ x = .ok () ∧ f () = .ok b := by
  cases x with
  | error error => simp [bind, Except.bind]
  | ok u => simp [bind, Except.bind]

/-- A check with a value behind it succeeds where the check does, with that value. -/
theorem map_eq_ok {x : Except E Unit} {a b : β} :
    (x.map fun _ => a) = .ok b ↔ x = .ok () ∧ b = a := by
  cases x with
  | error error => simp [Except.map]
  | ok u => simp [Except.map, eq_comm]

/-- A loop of checks succeeds exactly where each check does. -/
theorem all_ok_iff {entries : List α} {check : α → Except E Unit} :
    entries.forM check = .ok () ↔ ∀ entry ∈ entries, check entry = .ok () := by
  induction entries with
  | nil => simp [pure, Except.pure]
  | cons entry entries ih =>
    change (check entry >>= fun _ => entries.forM check) = .ok () ↔ _
    rw [then_eq_ok, List.forall_mem_cons, ih]

/-- An access succeeds exactly where there is something to access. -/
theorem access_eq_ok {value : Option α} {a : α} :
    (access value : Outcome E α) = .ok a ↔ value = some a := by
  cases value with
  | none => simp [access]
  | some value => simp [access]

/-- A missing value is the error, any other the result. -/
theorem or_fail_eq_ok {value : Option α} {error : E} {a : α} :
    or_fail value error = .ok a ↔ value = some a := by
  cases value with
  | none => simp [or_fail, fail]
  | some value => simp [or_fail]

/-- A guard succeeds exactly where its condition does not hold. -/
theorem fail_if_eq_ok {bad : Prop} [Decidable bad] {error : E} :
    fail_if (decide bad) error = .ok () ↔ ¬ bad := by
  by_cases holds : bad
  · simp [fail_if, fail, holds]
  · simp [fail_if, holds]

/-- Going on from a call that succeeded. -/
theorem ok_bind {a : α} {f : α → Except E β} : ((.ok a : Except E α) >>= f) = f a := rfl

/-- An access to something that is there returns it. -/
theorem access_some {value : α} : (access (some value) : Outcome E α) = .ok value := rfl

/-- A value that is there is returned. -/
theorem or_fail_some {value : α} {error : E} : or_fail (some value) error = .ok value := rfl

/-- A guard that is false lets the call go on. -/
theorem fail_if_false {error : E} : fail_if false error = .ok () := rfl

/-- A guard whose condition does not hold lets the call go on. -/
theorem fail_if_of_not {bad : Prop} [Decidable bad] (good : ¬ bad) {error : E} :
    fail_if (decide bad) error = .ok () := by
  unfold fail_if
  rw [if_neg (by simpa using good)]

/-- A guard whose condition holds ends the call with its error. -/
theorem fail_if_of {bad : Prop} [Decidable bad] (holds : bad) {error : E} {f : Unit → Outcome E β} :
    (fail_if (decide bad) error >>= f) = fail error := by
  unfold fail_if
  rw [if_pos (by simpa using holds)]
  rfl

/-- A loop that succeeds in `Option` succeeds with a body that agrees where that one does. -/
theorem foldlM_ok_of_some {ι : Type} {f : β → ι → Except E β} {g : β → ι → Option β} {l : List ι}
    (agree : ∀ b i b', i ∈ l → g b i = some b' → f b i = .ok b') {b b' : β}
    (ran : l.foldlM g b = some b') : l.foldlM f b = .ok b' := by
  induction l generalizing b with
  | nil =>
    obtain rfl := Option.some.inj ran
    rfl
  | cons i l ih =>
    rw [List.foldlM_cons] at ran ⊢
    cases step : g b i with
    | none =>
      rw [step] at ran
      cases ran
    | some next =>
      rw [step] at ran
      rw [agree b i next (by simp) step]
      exact ih (fun b i b' member => agree b i b' (by simp [member])) ran

end Captastic.Library
