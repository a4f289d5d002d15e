import Mathlib.Tactic.Common

/-!
# Runs of a step relation

A run is what a step relation does from a start, with every step it took.  An invariant
that each step keeps holds in every state of a run (`Run.inv`); one that a step keeps only
where a condition on the state and the event is met holds of a run whose steps all meet it
(`Run.inv_of_meets`).  Where a step that misses the condition also ends in a state without
the property, the condition is exact: the property holds in every state of the run if and
only if every step meets it (`Run.always_iff`).
-/

set_option autoImplicit false

namespace Captastic.Library

variable {S E : Type}

/-- A step that was taken. -/
structure Taken (S E : Type) where
  before : S
  event : E
  after : S

/-- The steps taken from `start`, and where they lead. -/
inductive Run (step : S → E → S → Prop) (start : S) : List (Taken S E) → S → Prop
  | nil : Run step start [] start
  | snoc {steps : List (Taken S E)} {s s' : S} {event : E} (run : Run step start steps s)
      (taken : step s event s') : Run step start (steps ++ [⟨s, event, s'⟩]) s'

namespace Run

variable {step : S → E → S → Prop} {start s : S} {steps : List (Taken S E)}

/-- An invariant that every step keeps holds where a run ends. -/
theorem inv {P : S → Prop} (keeps : ∀ s event s', P s → step s event s' → P s')
    (run : Run step start steps s) (first : P start) : P s := by
  induction run with
  | nil => exact first
  | snoc run taken ih => exact keeps _ _ _ ih taken

/-- A run of a relation is one of any relation that holds of its steps. -/
theorem mono {step' : S → E → S → Prop} (imp : ∀ s event s', step s event s' → step' s event s')
    (run : Run step start steps s) : Run step' start steps s := by
  induction run with
  | nil => exact .nil
  | snoc _ taken ih => exact .snoc ih (imp _ _ _ taken)

/-- A step before a run. -/
theorem cons {s' : S} {event : E} (taken : step start event s') (run : Run step s' steps s) :
    Run step start (⟨start, event, s'⟩ :: steps) s := by
  induction run with
  | nil => exact .snoc .nil taken
  | snoc run last ih => exact .snoc ih last

/-- Where the steps are computed, a run is what computing them one after the other gives. -/
theorem of_foldlM {f : S → E → Option S}
    (sound : ∀ s event s', f s event = some s' → step s event s') {events : List E}
    (computed : events.foldlM f start = some s) :
    ∃ steps, steps.map Taken.event = events ∧ Run step start steps s := by
  induction events generalizing start with
  | nil =>
    cases computed
    exact ⟨[], rfl, .nil⟩
  | cons event events ih =>
    rw [List.foldlM_cons, Option.bind_eq_bind, Option.bind_eq_some_iff] at computed
    obtain ⟨s', taken, computed⟩ := computed
    obtain ⟨steps, same, run⟩ := ih computed
    refine ⟨⟨start, event, s'⟩ :: steps, ?_, run.cons (sound _ _ _ taken)⟩
    rw [List.map_cons, same]

/-- Every step of a run is one of the relation, from a state that a run reaches. -/
theorem of_mem (run : Run step start steps s) {t : Taken S E} (member : t ∈ steps) :
    step t.before t.event t.after ∧ ∃ earlier, Run step start earlier t.before := by
  induction run with
  | nil => cases member
  | @snoc steps s s' event run taken ih =>
    rcases List.mem_append.mp member with member | member
    · exact ih member
    · obtain rfl := List.mem_singleton.mp member
      exact ⟨taken, steps, run⟩

/-- What holds after every step of a run holds where it ends, if it takes a step. -/
theorem at_end {P : S → Prop} (run : Run step start steps s) (moves : steps ≠ [])
    (holds : ∀ t ∈ steps, P t.after) : P s := by
  cases run with
  | nil => exact absurd rfl moves
  | snoc run taken => exact holds _ (List.mem_append_right _ (List.mem_singleton.mpr rfl))

/-- Where each step is checked as it is computed, the run's steps all pass. -/
theorem of_foldlM_checked {f : S → E → Option S} {check : S → E → Bool}
    (sound : ∀ s event s', f s event = some s' → step s event s') {events : List E}
    (computed : events.foldlM (fun s event => if check s event then f s event else none) start =
      some s) :
    ∃ steps, steps.map Taken.event = events ∧ Run step start steps s ∧
      ∀ t ∈ steps, check t.before t.event = true := by
  obtain ⟨steps, same, run⟩ := @of_foldlM _ _
    (fun s event s' => step s event s' ∧ check s event = true) start s _ (by
      intro s event s' taken
      split at taken
      · rename_i passes
        exact ⟨sound s event s' taken, passes⟩
      · cases taken) events computed
  exact ⟨steps, same, run.mono fun _ _ _ taken => taken.1, fun t member => (run.of_mem member).1.2⟩

/-- An invariant that a step keeps where it meets a condition holds where a run ends whose
steps all meet it. -/
theorem inv_of_meets {P : S → Prop} {C : S → E → Prop}
    (keeps : ∀ s event s', P s → C s event → step s event s' → P s')
    (run : Run step start steps s) (first : P start)
    (meets : ∀ t ∈ steps, C t.before t.event) : P s := by
  induction run with
  | nil => exact first
  | snoc run taken ih =>
    rw [List.forall_mem_append] at meets
    exact keeps _ _ _ (ih meets.1) (meets.2 _ (List.mem_singleton.mpr rfl)) taken

/-- **The condition is exact**: with an invariant that a step keeps where it meets the
condition, and a property that fails right after a step that misses it. -/
theorem always_iff {I P : S → Prop} {C : S → E → Prop}
    (keeps : ∀ s event s', I s → C s event → step s event s' → I s')
    (holds : ∀ s, I s → P s)
    (misses : ∀ s event s', I s → ¬ C s event → step s event s' → ¬ P s')
    (run : Run step start steps s) (first : I start) :
    (∀ t ∈ steps, P t.after) ↔ ∀ t ∈ steps, C t.before t.event := by
  induction run with
  | nil => simp
  | @snoc steps s s' event run taken ih =>
    rw [List.forall_mem_append, List.forall_mem_append, ih]
    apply and_congr_right
    intro meets
    have before : I s := run.inv_of_meets keeps first meets
    rw [List.forall_mem_singleton, List.forall_mem_singleton]
    constructor
    · intro after
      exact Classical.byContradiction fun missed => misses _ _ _ before missed taken after
    · intro met
      exact holds _ (keeps _ _ _ before met taken)

/-- **The condition is exact at the end** of a run, where the property does not come back once it
has failed. -/
theorem at_end_iff {I P : S → Prop} {C : S → E → Prop}
    (keeps : ∀ s event s', I s → C s event → step s event s' → I s')
    (holds : ∀ s, I s → P s)
    (misses : ∀ s event s', I s → ¬ C s event → step s event s' → ¬ P s')
    (stays : ∀ earlier s event s', Run step start earlier s → ¬ P s → step s event s' → ¬ P s')
    (run : Run step start steps s) (first : I start) :
    P s ↔ ∀ t ∈ steps, C t.before t.event := by
  refine ⟨fun after => ?_, fun meets => holds _ (run.inv_of_meets keeps first meets)⟩
  induction run with
  | nil => exact nofun
  | @snoc steps s s' event run taken ih =>
    have meets := ih (Classical.byContradiction fun failed => stays _ _ _ _ run failed taken after)
    rw [List.forall_mem_append, List.forall_mem_singleton]
    refine ⟨meets, Classical.byContradiction fun missed => ?_⟩
    exact misses _ _ _ (run.inv_of_meets keeps first meets) missed taken after

end Run

end Captastic.Library
