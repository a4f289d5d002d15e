import Mathlib.Data.List.Basic
import Mathlib.Tactic.Common

/-!
# Undo logs

A document kept with the operations done to it and the operations taken back, as an
editor keeps it.  An operation stores what it needs to be reverted, and both making
it and reverting it may fail when the document is not one it was made on; `Perform`
relates the documents before and after an operation that fits them, and it is the
only thing the two directions are asked to agree on (`UndoRules`).

`Sound start` is the invariant of a log started at `start`: the operations done lead
from `start` to the document held, each fitting the document it was made on, and the
operations taken back lead on from there.  From it no operation ever fails, the
document is the replay of what was done (`Sound.replay`), and taking back operations
and making them again restores the log exactly (`Sound.redo_undo`, `Sound.redos_undos`).
-/

set_option autoImplicit false

namespace Captastic.Library

variable {S T : Type}

/-- Making and reverting an operation, each defined where the operation fits. -/
structure UndoRules (S T : Type) where
  apply : S → T → Option S
  revert : S → T → Option S
  Perform : S → T → S → Prop
  apply_of_perform : ∀ {s t s'}, Perform s t s' → apply s t = some s'
  revert_of_perform : ∀ {s t s'}, Perform s t s' → revert s' t = some s

/-- A document with the operations done to it, the last of `done` the most recent,
and those taken back, the last of `undone` the next to make again. -/
@[ext] structure UndoLog (S T : Type) where
  doc : S
  done : List T
  undone : List T

namespace UndoLog

variable (R : UndoRules S T)

/-- Makes a new operation; what was taken back before it is forgotten. -/
def record (l : UndoLog S T) (t : T) : Option (UndoLog S T) :=
  (R.apply l.doc t).map fun s => ⟨s, l.done ++ [t], []⟩

/-- Takes back the last operation, and says whether there was one. -/
def undo (l : UndoLog S T) : Option (UndoLog S T × Bool) :=
  match l.done.getLast? with
  | none => some (l, false)
  | some t => (R.revert l.doc t).map fun s => (⟨s, l.done.dropLast, l.undone ++ [t]⟩, true)

/-- Makes the last operation taken back again, and says whether there was one. -/
def redo (l : UndoLog S T) : Option (UndoLog S T × Bool) :=
  match l.undone.getLast? with
  | none => some (l, false)
  | some t => (R.apply l.doc t).map fun s => (⟨s, l.done ++ [t], l.undone.dropLast⟩, true)

/-- Calls `undo` `k` times, counting the calls that took something back. -/
def undos : Nat → UndoLog S T → Option (UndoLog S T × Nat)
  | 0, l => some (l, 0)
  | k + 1, l => do
    let (l₁, b) ← undo R l
    let (l₂, n) ← undos k l₁
    some (l₂, n + b.toNat)

/-- Calls `redo` `k` times. -/
def redos : Nat → UndoLog S T → Option (UndoLog S T)
  | 0, l => some l
  | k + 1, l => do
    let (l₁, _) ← redo R l
    redos k l₁

/-- Makes operations in order. -/
def replay (start : S) (ts : List T) : Option S := ts.foldlM R.apply start

/-! ## Paths of operations that fit -/

/-- `ts` leads from `s` to `s'`, each operation fitting the document it is made on. -/
def Path : S → List T → S → Prop
  | s, [], s' => s = s'
  | s, t :: ts, s' => ∃ m, R.Perform s t m ∧ Path m ts s'

variable {R}

/-- A path from where another ended goes on from it. -/
theorem Path.append {s m s' : S} {ts us : List T} (h₁ : Path R s ts m) (h₂ : Path R m us s') :
    Path R s (ts ++ us) s' := by
  induction ts generalizing s with
  | nil =>
      obtain rfl := h₁
      exact h₂
  | cons t ts ih =>
      obtain ⟨n, hn, hp⟩ := h₁
      exact ⟨n, hn, ih hp⟩

/-- The last step of a path leaves from where the ones before it lead. -/
theorem Path.snoc_inv {s s' : S} {ts : List T} {t : T} (h : Path R s (ts ++ [t]) s') :
    ∃ m, Path R s ts m ∧ R.Perform m t s' := by
  induction ts generalizing s with
  | nil =>
      obtain ⟨m, hm, rfl⟩ := h
      exact ⟨s, rfl, hm⟩
  | cons u ts ih =>
      obtain ⟨n, hn, hp⟩ := h
      obtain ⟨m, hm, hlast⟩ := ih hp
      exact ⟨m, ⟨n, hn, hm⟩, hlast⟩

/-- Replaying the steps of a path leads to its end. -/
theorem Path.replay {s s' : S} {ts : List T} (h : Path R s ts s') :
    replay R s ts = some s' := by
  induction ts generalizing s with
  | nil =>
      obtain rfl := h
      rfl
  | cons t ts ih =>
      obtain ⟨m, hm, hp⟩ := h
      have hm' := R.apply_of_perform hm
      have hp' := ih hp
      simp only [UndoLog.replay] at hp' ⊢
      simp [hm', hp']

/-! ## The invariant -/

variable (R) in
/-- The operations done lead from `start` to the document, and those taken back lead
on from it. -/
structure Sound (start : S) (l : UndoLog S T) : Prop where
  done : Path R start l.done l.doc
  undone : ∃ s, Path R l.doc l.undone.reverse s

namespace Sound

variable {start : S} {l l' : UndoLog S T}

/-- An empty log is sound. -/
theorem init (start : S) : Sound R start ⟨start, [], []⟩ := ⟨rfl, ⟨start, rfl⟩⟩

/-- Recording an operation that fits the document keeps the log sound. -/
theorem record {t : T} {s : S} (h : Sound R start l) (ht : R.Perform l.doc t s) :
    ∃ l', l.record R t = some l' ∧ l' = ⟨s, l.done ++ [t], []⟩ ∧ Sound R start l' := by
  refine ⟨_, ?_, rfl, ⟨h.done.append ⟨s, ht, rfl⟩, ⟨s, rfl⟩⟩⟩
  simp [UndoLog.record, R.apply_of_perform ht]

/-- `undo` on a sound log either has nothing to take back, or moves the last
operation over to the ones taken back and holds the document it was made on. -/
theorem undo_cases (h : Sound R start l) :
    (l.done = [] ∧ l.undo R = some (l, false)) ∨
      ∃ l' t, l.undo R = some (l', true) ∧ l.done = l'.done ++ [t] ∧
        l'.undone = l.undone ++ [t] ∧ R.Perform l'.doc t l.doc ∧ Sound R start l' := by
  rcases List.eq_nil_or_concat l.done with hnil | ⟨ts, t, hts⟩
  · exact Or.inl ⟨hnil, by simp [UndoLog.undo, hnil]⟩
  · right
    have hdone := h.done
    rw [hts, List.concat_eq_append] at hdone
    obtain ⟨m, hm, hlast⟩ := hdone.snoc_inv
    obtain ⟨s, hs⟩ := h.undone
    refine ⟨⟨m, ts, l.undone ++ [t]⟩, t, ?_, by simpa using hts, rfl, hlast, hm, ⟨s, ?_⟩⟩
    · simp [UndoLog.undo, hts, R.revert_of_perform hlast]
    · simpa using ⟨l.doc, hlast, hs⟩

/-- `redo` on a sound log either has nothing to make again, or moves the last
operation taken back over to the ones done. -/
theorem redo_cases (h : Sound R start l) :
    (l.undone = [] ∧ l.redo R = some (l, false)) ∨
      ∃ l' t, l.redo R = some (l', true) ∧ l'.done = l.done ++ [t] ∧
        l.undone = l'.undone ++ [t] ∧ R.Perform l.doc t l'.doc ∧ Sound R start l' := by
  rcases List.eq_nil_or_concat l.undone with hnil | ⟨ts, t, hts⟩
  · exact Or.inl ⟨hnil, by simp [UndoLog.redo, hnil]⟩
  · right
    obtain ⟨s, hs⟩ := h.undone
    rw [hts] at hs
    simp only [List.concat_eq_append, List.reverse_append, List.reverse_cons, List.reverse_nil,
      List.nil_append, List.singleton_append] at hs
    obtain ⟨m, hm, hp⟩ := hs
    refine ⟨⟨m, l.done ++ [t], ts⟩, t, ?_, rfl, by simpa using hts, hm,
      h.done.append ⟨m, hm, rfl⟩, ⟨s, hp⟩⟩
    simp [UndoLog.redo, hts, R.apply_of_perform hm]

/-- The document is what making the operations done, in order, makes of `start`. -/
theorem replay (h : Sound R start l) : UndoLog.replay R start l.done = some l.doc :=
  h.done.replay

/-- Making an operation just taken back again restores the log. -/
theorem redo_undo (h : Sound R start l) (hu : l.undo R = some (l', true)) :
    l'.redo R = some (l, true) := by
  rcases h.undo_cases with ⟨-, h'⟩ | ⟨l'', t, h', hdone, hundone, hperf, -⟩
  · rw [h'] at hu
    cases hu
  · rw [h'] at hu
    obtain rfl : l'' = l' := (Prod.mk.inj (Option.some.inj hu)).1
    simp [UndoLog.redo, hundone, R.apply_of_perform hperf, ← hdone]

/-- On a sound log any number of `undo` calls succeed and keep it sound. -/
theorem undos_sound (k : Nat) (h : Sound R start l) :
    ∃ l' n, l.undos R k = some (l', n) ∧ Sound R start l' ∧ n ≤ k ∧
      (k ≤ l.done.length → n = k) := by
  induction k generalizing l with
  | zero => exact ⟨l, 0, rfl, h, Nat.le_refl _, fun _ => rfl⟩
  | succ k ih =>
      rcases h.undo_cases with ⟨hnil, hu⟩ | ⟨l₁, t, hu, hdone, -, -, h₁⟩
      · obtain ⟨l₂, n, h₂, hs₂, hn, -⟩ := ih h
        refine ⟨l₂, n, by simp [UndoLog.undos, hu, h₂], hs₂, by omega, ?_⟩
        intro hk
        simp [hnil] at hk
      · obtain ⟨l₂, n, h₂, hs₂, hn, hk⟩ := ih h₁
        refine ⟨l₂, n + 1, by simp [UndoLog.undos, hu, h₂], hs₂, by omega, ?_⟩
        intro hlen
        rw [hdone, List.length_append, List.length_singleton] at hlen
        rw [hk (by omega)]

/-- **As many `redo` calls as `undo` calls that took something back restore the log.** -/
theorem redos_undos (k : Nat) {n : Nat} (h : Sound R start l)
    (hu : l.undos R k = some (l', n)) : l'.redos R n = some l := by
  induction k generalizing l n with
  | zero =>
      simp only [UndoLog.undos, Option.some.injEq, Prod.mk.injEq] at hu
      obtain ⟨rfl, rfl⟩ := hu
      rfl
  | succ k ih =>
      rcases h.undo_cases with ⟨-, h₁⟩ | ⟨l₁, t, h₁, -, -, -, hs₁⟩
      · simp only [UndoLog.undos, h₁, Option.bind_eq_bind, Option.bind_some, Bool.toNat_false,
          Nat.add_zero] at hu
        obtain ⟨⟨l₂, m⟩, h₂, hm⟩ := Option.bind_eq_some_iff.mp hu
        simp only [Option.some.injEq, Prod.mk.injEq] at hm
        obtain ⟨rfl, rfl⟩ := hm
        exact ih h h₂
      · simp only [UndoLog.undos, h₁, Option.bind_eq_bind, Option.bind_some, Bool.toNat_true]
          at hu
        obtain ⟨⟨l₂, m⟩, h₂, hm⟩ := Option.bind_eq_some_iff.mp hu
        simp only [Option.some.injEq, Prod.mk.injEq] at hm
        obtain ⟨rfl, rfl⟩ := hm
        exact redos_snoc (ih hs₁ h₂) (h.redo_undo h₁)
where
  /-- One more `redo` after `n` of them is `n + 1` of them. -/
  redos_snoc {n : Nat} {a b c : UndoLog S T} (h : a.redos R n = some b)
      (hr : b.redo R = some (c, true)) : a.redos R (n + 1) = some c := by
    induction n generalizing a with
    | zero =>
        simp only [UndoLog.redos, Option.some.injEq] at h
        subst h
        simp [UndoLog.redos, hr]
    | succ n ih =>
        simp only [UndoLog.redos, Option.bind_eq_bind] at h
        obtain ⟨⟨m, x⟩, hm, hrest⟩ := Option.bind_eq_some_iff.mp h
        have := ih hrest
        simp only [UndoLog.redos, Option.bind_eq_bind] at this ⊢
        rw [hm]
        simpa using this

end Sound

end UndoLog

end Captastic.Library
