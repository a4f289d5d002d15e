import Mathlib.Data.List.Basic
import Mathlib.Data.List.Induction
import Mathlib.Tactic.Cases

/-!
# Loops that keep one entry per key

A loop over events that updates, for each event, only the entry of that event's key is
many loops run side by side: seen from one key it is the loop over that key's events
alone (`foldlM_keyed`).  The store is anything with a lookup and an update that obey the
usual law.
-/

set_option autoImplicit false

namespace Captastic.Library

variable {M K S E Error : Type}

/-- The entry of a key after the loop is what the loop over that key's events makes of the
entry it started from. -/
theorem foldlM_keyed [DecidableEq K] (get : M → K → S) (set : M → K → S → M)
    (get_set : ∀ m k s k', get (set m k s) k' = if k = k' then s else get m k')
    (key : E → K) (step : S → E → Except Error S) (events : List E) (m m' : M)
    (ran : events.foldlM (fun m event => (step (get m (key event)) event).map
      (set m (key event))) m = .ok m') (k : K) :
    (events.filter fun event => key event = k).foldlM step (get m k) = .ok (get m' k) := by
  induction events generalizing m with
  | nil =>
    obtain rfl : m = m' := Except.ok.inj ran
    rfl
  | cons event events ih =>
    rw [List.foldlM_cons] at ran
    cases stepped : step (get m (key event)) event with
    | error error =>
      rw [stepped] at ran
      cases ran
    | ok s =>
      rw [stepped] at ran
      have rest := ih (set m (key event) s) ran
      rw [get_set] at rest
      by_cases own : key event = k
      · subst own
        rw [if_pos rfl] at rest
        rw [List.filter_cons_of_pos (by simp), List.foldlM_cons, stepped]
        exact rest
      · rw [if_neg own] at rest
        rw [List.filter_cons_of_neg (by simpa using own)]
        exact rest

/-- The loop accepts events exactly where, for each key, the loop over that key's events does. -/
theorem foldlM_keyed_accepts_iff [DecidableEq K] (get : M → K → S) (set : M → K → S → M)
    (get_set : ∀ m k s k', get (set m k s) k' = if k = k' then s else get m k')
    (key : E → K) (step : S → E → Except Error S) (events : List E) (m : M) :
    (∃ m', events.foldlM (fun m event => (step (get m (key event)) event).map
      (set m (key event))) m = .ok m') ↔
    ∀ k, ∃ s, (events.filter fun event => key event = k).foldlM step (get m k) = .ok s := by
  constructor
  · rintro ⟨m', ran⟩ k
    exact ⟨_, foldlM_keyed get set get_set key step events m m' ran k⟩
  · intro accepts
    induction events generalizing m with
    | nil => exact ⟨m, rfl⟩
    | cons event events ih =>
      obtain ⟨last, ran⟩ := accepts (key event)
      rw [List.filter_cons_of_pos (by simp), List.foldlM_cons] at ran
      cases stepped : step (get m (key event)) event with
      | error error =>
        rw [stepped] at ran
        cases ran
      | ok s =>
        rw [stepped] at ran
        rw [List.foldlM_cons, stepped]
        apply ih (set m (key event) s)
        intro k
        rw [get_set]
        by_cases own : key event = k
        · subst own
          rw [if_pos rfl]
          exact ⟨last, ran⟩
        · rw [if_neg own]
          have other := accepts k
          rw [List.filter_cons_of_neg (by simpa using own)] at other
          exact other

/-- **Trace rule**: what holds of the empty trace and its start, and is kept when the trace
grows by one event that the loop accepts, holds of every trace the loop accepts. -/
theorem foldlM_trace (P : List E → S → Prop) (step : S → E → Except Error S) (start : S)
    (init : P [] start)
    (grows : ∀ seen s event s', P seen s → step s event = .ok s' → P (seen ++ [event]) s')
    (events : List E) (s' : S) (ran : events.foldlM step start = .ok s') : P events s' := by
  induction events using List.reverseRecOn generalizing s' with
  | nil =>
    obtain rfl : start = s' := Except.ok.inj ran
    exact init
  | append_singleton seen event ih =>
    rw [List.foldlM_append] at ran
    cases before : seen.foldlM step start with
    | error error =>
      rw [before] at ran
      cases ran
    | ok s =>
      rw [before] at ran
      have ran : (step s event >>= pure) = .ok s' := ran
      rw [bind_pure] at ran
      exact grows seen s event s' (ih s before) ran

end Captastic.Library
