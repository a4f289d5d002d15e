import Captastic.Library.Runs
import Captastic.Model.LockedUpdates

/-!
# What the lock file guards

Creating a file that must not exist is what excludes: whoever holds the lock made the file that
is at the path.  A drop then removes the process's own lock, and the content of the guarded file
is every update that was written, in the order of their writes (`UpdatesSafe`).

A process that breaks a stale lock removes what is at the path by then, which another process
may have put there since it looked.  Updates are safe in every state of a run exactly when no
such removal is made while a live process holds the lock (`updates_safe_iff`).  That is so where
a lock found stale is one that no live process holds, and is still there when it is removed
(`updates_safe_of_found`).
-/

set_option autoImplicit false

namespace Captastic.Analysis

open Captastic.Library Captastic.Model

variable {P V : Type} [DecidableEq P] {missing : V} {s s' : LockedFile P V} {process : P}
  {action : LockAction V}

/-- The process is where it went. -/
@[simp] theorem goes_stage (stage : LockStage V) :
    (s.goes process stage).stage process = stage := by
  show Function.update s.stage process stage process = stage
  rw [Function.update_self]

/-- The others are where they were. -/
theorem goes_stage_of_ne {other : P} (ne : other ≠ process) (stage : LockStage V) :
    (s.goes process stage).stage other = s.stage other := by
  show Function.update s.stage process stage other = s.stage other
  rw [Function.update_of_ne ne]

/-! ## What a step can do -/

/-- A step of a process. -/
inductive LockMoves (missing : V) (s : LockedFile P V) (process : P) (action : LockAction V) :
    LockedFile P V → Prop
  /-- Only the process goes on: it keeps the lock it holds, or leaves it behind. -/
  | goes (stage : LockStage V)
      (holds : stage.holding = (s.stage process).holding ∨ stage.holding = none)
      (base : ∀ apply lock base, stage = .writes apply lock base → base = s.content missing)
      (finds : ∀ apply stale, stage = .removes apply stale → s.lock = some stale ∧
        s.stage process = .looks apply ∧
        ∃ timeless now, action = .looks false timeless now ∧
          LockedFile.is_stale_lock stale timeless now = true) :
      LockMoves missing s process action (s.goes process stage)
  | takes (apply : V → V) (now : Int) (stage : s.stage process = .opens apply)
      (free : s.lock = none) :
      LockMoves missing s process action { s.goes process (.reads apply ⟨s.made, now⟩) with
        lock := some ⟨s.made, now⟩, made := s.made + 1 }
  | breaks (apply : V → V) (stale lock : LockFile) (stage : s.stage process = .removes apply stale)
      (found : s.lock = some lock) (removes : action = .removes false) :
      LockMoves missing s process action { s.goes process (.opens apply) with lock := none }
  | writes (apply : V → V) (lock : LockFile) (base : V) (confirmed : List (V → V))
      (stage : s.stage process = .writes apply lock base)
      (returned : confirmed = [] ∨ confirmed = [apply]) :
      LockMoves missing s process action { s.goes process (.drops lock) with
        file := some (apply base), applied := s.applied ++ [apply]
        confirmed := s.confirmed ++ confirmed }
  | drops (lock : LockFile) (stage : s.stage process = .drops lock) :
      LockMoves missing s process action { s.goes process .idle with lock := none }

/-- Every step is one of these moves. -/
theorem lock_moves (taken : s.step missing process action = some s') :
    LockMoves missing s process action s' := by
  cases action with
  | starts apply =>
    simp only [LockedFile.step] at taken
    split at taken
    · cases taken
      exact .goes _ (.inr rfl) nofun nofun
    · cases taken
  | opens answer now =>
    simp only [LockedFile.step] at taken
    split at taken
    · rename_i apply stage
      split at taken
      · cases taken
        exact .goes _ (.inr rfl) nofun nofun
      · cases taken
        exact .goes _ (.inr rfl) nofun nofun
      · cases taken
        exact .goes _ (.inr rfl) nofun nofun
      · rename_i free
        cases taken
        exact .takes apply now stage free
    · cases taken
  | looks unreadable timeless now =>
    simp only [LockedFile.step] at taken
    split at taken
    · rename_i apply stage
      split at taken
      · cases taken
        exact .goes _ (.inr rfl) nofun nofun
      · rename_i lock found
        cases unreadable with
        | true =>
          cases taken
          exact .goes _ (.inr rfl) nofun nofun
        | false =>
          rw [if_neg Bool.false_ne_true] at taken
          split at taken
          · rename_i old
            cases taken
            refine .goes _ (.inr rfl) nofun ?_
            intro apply' stale same
            cases same
            exact ⟨found, stage, timeless, now, rfl, old⟩
          · cases taken
            exact .goes _ (.inr rfl) nofun nofun
    · cases taken
  | removes refused =>
    simp only [LockedFile.step] at taken
    split at taken
    · rename_i apply stale stage
      split at taken
      · cases taken
        exact .goes _ (.inr rfl) nofun nofun
      · rename_i removed
        cases taken
        obtain ⟨granted, present⟩ := not_or.mp removed
        obtain ⟨lock, found⟩ := Option.ne_none_iff_exists'.mp present
        refine .breaks apply stale lock stage found ?_
        rw [Bool.not_eq_true _ |>.mp granted]
    · cases taken
  | waits late =>
    simp only [LockedFile.step] at taken
    split at taken
    · cases taken
      cases late with
      | true => exact .goes _ (.inr rfl) nofun nofun
      | false => exact .goes _ (.inr rfl) nofun nofun
    · cases taken
  | reads failed =>
    simp only [LockedFile.step] at taken
    split at taken
    · rename_i apply lock stage
      cases taken
      cases failed with
      | true =>
        refine .goes _ (.inl ?_) nofun nofun
        rw [stage]
        rfl
      | false =>
        refine .goes _ (.inl ?_) ?_ nofun
        · rw [stage]
          rfl
        · intro apply' lock' base same
          cases same
          rfl
    · cases taken
  | writes answer =>
    simp only [LockedFile.step] at taken
    split at taken
    · rename_i apply lock base stage
      cases answer with
      | written =>
        cases taken
        exact .writes apply lock base [apply] stage (.inr rfl)
      | failed_before =>
        cases taken
        refine .goes _ (.inl ?_) nofun nofun
        rw [stage]
        rfl
      | failed_after =>
        cases taken
        have moves := @LockMoves.writes P V _ missing s process (.writes .failed_after) apply lock
          base [] stage (.inl rfl)
        rw [List.append_nil] at moves
        exact moves
    · cases taken
  | drops refused =>
    simp only [LockedFile.step] at taken
    split at taken
    · rename_i lock stage
      cases taken
      cases refused with
      | true => exact .goes _ (.inr rfl) nofun nofun
      | false => exact .drops lock stage
    · cases taken
  | dies =>
    cases taken
    exact .goes _ (.inr rfl) nofun nofun

/-! ## Safe updates -/

/-- Whoever holds the lock made the file at the path, and is alone; an update about to be
written starts from what the file holds; and the file holds the updates that were written, among
them all that returned `Ok`, in the order of their writes. -/
structure UpdatesSafe (missing start : V) (s : LockedFile P V) : Prop where
  in_place : ∀ p lock, (s.stage p).holding = some lock → s.lock = some lock
  one_holder : ∀ p q, (s.stage p).holding.isSome = true → (s.stage q).holding.isSome = true → p = q
  base : ∀ p apply lock base, s.stage p = .writes apply lock base → base = s.content missing
  folded : s.content missing = s.applied.foldl (fun content apply => apply content) start
  confirmed : s.confirmed.Sublist s.applied

/-- A stale lock is not broken while a live process holds the lock. -/
def spares_holder (s : LockedFile P V) (event : P × LockAction V) : Prop :=
  event.2 = .removes false → ∀ apply stale, s.stage event.1 = .removes apply stale →
    s.lock ≠ none → ∀ p, (s.stage p).holding = none

omit [DecidableEq P] in
/-- Before any step the updates are safe. -/
theorem new_updates_safe (lock : Option LockFile) (file : Option V) :
    UpdatesSafe missing (file.getD missing) (LockedFile.new (P := P) lock file) where
  in_place := nofun
  one_holder := nofun
  base := nofun
  folded := rfl
  confirmed := List.Sublist.refl []

variable {start : V}

/-- A holder after a step of a process is one of before, or the process. -/
theorem holding_goes {stage : LockStage V} {p : P}
    (holds : stage.holding = (s.stage process).holding ∨ stage.holding = none) {lock : LockFile}
    (after : ((s.goes process stage).stage p).holding = some lock) :
    (s.stage p).holding = some lock := by
  by_cases same : p = process
  · subst same
    rw [goes_stage] at after
    rcases holds with holds | leaves
    · rw [← holds]
      exact after
    · rw [leaves] at after
      cases after
  · rwa [goes_stage_of_ne same] at after

/-- A process holds the lock only where it did before, unless it takes it. -/
theorem isSome_goes {stage : LockStage V} {p : P}
    (holds : stage.holding = (s.stage process).holding ∨ stage.holding = none)
    (after : ((s.goes process stage).stage p).holding.isSome = true) :
    (s.stage p).holding.isSome = true := by
  obtain ⟨lock, after⟩ := Option.isSome_iff_exists.mp after
  exact Option.isSome_iff_exists.mpr ⟨lock, holding_goes holds after⟩

/-- **One step**: updates stay safe where it spares the holder of the lock.
SRC: fsio.rs:50-112, 131-149 -/
theorem UpdatesSafe.step (safe : UpdatesSafe missing start s)
    (spares : spares_holder s (process, action))
    (moves : LockMoves missing s process action s') : UpdatesSafe missing start s' := by
  cases moves with
  | goes stage holds base finds =>
    refine ⟨?_, ?_, ?_, safe.folded, safe.confirmed⟩
    · intro p lock after
      exact safe.in_place p lock (holding_goes holds after)
    · intro p q p_holds q_holds
      exact safe.one_holder p q (isSome_goes holds p_holds) (isSome_goes holds q_holds)
    · intro p apply lock base' writes
      by_cases same : p = process
      · subst same
        rw [goes_stage] at writes
        exact base apply lock base' writes
      · rw [goes_stage_of_ne same] at writes
        exact safe.base p apply lock base' writes
  | takes apply now stage free =>
    have nobody (p : P) : (s.stage p).holding = none := by
      cases held : (s.stage p).holding with
      | none => rfl
      | some lock => cases free.symm.trans (safe.in_place p lock held)
    have only (p : P)
        (holds : ((s.goes process (.reads apply ⟨s.made, now⟩)).stage p).holding.isSome = true) :
        p = process := by
      by_contra other
      rw [goes_stage_of_ne other, nobody p] at holds
      cases holds
    refine ⟨?_, ?_, ?_, safe.folded, safe.confirmed⟩
    · intro p lock holds
      obtain rfl := only p (Option.isSome_iff_exists.mpr ⟨lock, holds⟩)
      change ((s.goes p (.reads apply ⟨s.made, now⟩)).stage p).holding = some lock at holds
      rw [goes_stage] at holds
      exact holds
    · intro p q p_holds q_holds
      rw [only p p_holds, only q q_holds]
    · intro p apply' lock base writes
      change (s.goes process (.reads apply ⟨s.made, now⟩)).stage p = _ at writes
      by_cases same : p = process
      · subst same
        rw [goes_stage] at writes
        cases writes
      · rw [goes_stage_of_ne same] at writes
        exact safe.base p apply' lock base writes
  | breaks apply stale lock stage found removes =>
    have nobody := spares removes apply stale stage (by rw [found]; exact Option.some_ne_none lock)
    refine ⟨?_, ?_, ?_, safe.folded, safe.confirmed⟩
    · intro p lock' holds
      cases (nobody p).symm.trans (holding_goes (.inr rfl) holds)
    · intro p q p_holds q_holds
      exact safe.one_holder p q (isSome_goes (.inr rfl) p_holds) (isSome_goes (.inr rfl) q_holds)
    · intro p apply' lock' base writes
      change (s.goes process (.opens apply)).stage p = _ at writes
      by_cases same : p = process
      · subst same
        rw [goes_stage] at writes
        cases writes
      · rw [goes_stage_of_ne same] at writes
        exact safe.base p apply' lock' base writes
  | writes apply lock base confirmed stage returned =>
    have keeps : (LockStage.drops (V := V) lock).holding = (s.stage process).holding := by
      rw [stage]
      rfl
    have current : base = s.content missing := safe.base process apply lock base stage
    refine ⟨?_, ?_, ?_, ?_, ?_⟩
    · intro p lock' holds
      exact safe.in_place p lock' (holding_goes (.inl keeps) holds)
    · intro p q p_holds q_holds
      exact safe.one_holder p q (isSome_goes (.inl keeps) p_holds)
        (isSome_goes (.inl keeps) q_holds)
    · intro p apply' lock' base' writes
      change (s.goes process (.drops lock)).stage p = _ at writes
      by_cases same : p = process
      · subst same
        rw [goes_stage] at writes
        cases writes
      · rw [goes_stage_of_ne same] at writes
        -- Nobody else is about to write: the writer holds the lock alone.
        exact absurd (safe.one_holder p process (by rw [writes]; rfl) (by rw [stage]; rfl)) same
    · show apply base = (s.applied ++ [apply]).foldl _ start
      rw [List.foldl_append, ← safe.folded, current]
      rfl
    · show (s.confirmed ++ confirmed).Sublist (s.applied ++ [apply])
      refine safe.confirmed.append ?_
      rcases returned with rfl | rfl
      · exact List.nil_sublist _
      · exact List.Sublist.refl _
  | drops lock stage =>
    have held : (s.stage process).holding = some lock := by
      rw [stage]
      rfl
    refine ⟨?_, ?_, ?_, safe.folded, safe.confirmed⟩
    · intro p lock' holds
      change ((s.goes process .idle).stage p).holding = some lock' at holds
      by_cases same : p = process
      · subst same
        rw [goes_stage] at holds
        cases holds
      · rw [goes_stage_of_ne same] at holds
        exact absurd (safe.one_holder p process (by rw [holds]; rfl) (by rw [held]; rfl)) same
    · intro p q p_holds q_holds
      exact safe.one_holder p q (isSome_goes (.inr rfl) p_holds) (isSome_goes (.inr rfl) q_holds)
    · intro p apply' lock' base writes
      change (s.goes process .idle).stage p = _ at writes
      by_cases same : p = process
      · subst same
        rw [goes_stage] at writes
        cases writes
      · rw [goes_stage_of_ne same] at writes
        exact safe.base p apply' lock' base writes

/-- A lock broken while a process holds it leaves the holder without its lock file. -/
theorem unsafe_after (missed : ¬ spares_holder s (process, action))
    (taken : s.step missing process action = some s') : ¬ UpdatesSafe missing start s' := by
  unfold spares_holder at missed
  push Not at missed
  obtain ⟨removes, apply, stale, stage, present, p, held⟩ := missed
  obtain ⟨lock, holds⟩ := Option.ne_none_iff_exists'.mp held
  change action = .removes false at removes
  change s.stage process = .removes apply stale at stage
  subst removes
  simp only [LockedFile.step, stage, Bool.false_eq_true, false_or, if_neg present,
    Option.some.injEq] at taken
  subst taken
  intro safe
  have other : p ≠ process := by
    rintro rfl
    rw [stage] at holds
    cases holds
  have after := safe.in_place p lock (by
    show ((s.goes process (.opens apply)).stage p).holding = some lock
    rw [goes_stage_of_ne other]
    exact holds)
  cases after

/-- The steps of any number of processes, in any order. -/
def LockStep (missing : V) (s : LockedFile P V) (event : P × LockAction V)
    (s' : LockedFile P V) : Prop :=
  s.step missing event.1 event.2 = some s'

/-- **When updates under the lock file are safe**: in every state of a run exactly when no stale
lock is broken in it while a live process holds the lock.
SRC: fsio.rs:50-112, 131-149; ui_state.rs:353-368; history.rs:218-231 -/
theorem updates_safe_iff {lock : Option LockFile} {file : Option V}
    {steps : List (Taken (LockedFile P V) (P × LockAction V))}
    (run : Run (LockStep missing) (LockedFile.new lock file) steps s) :
    (∀ t ∈ steps, UpdatesSafe missing (file.getD missing) t.after) ↔
      ∀ t ∈ steps, spares_holder t.before t.event := by
  refine run.always_iff (I := UpdatesSafe missing (file.getD missing)) ?_ (fun _ safe => safe) ?_
    (new_updates_safe lock file)
  · intro s event s' safe spares taken
    exact safe.step spares (lock_moves taken)
  · intro s event s' _ missed taken
    exact unsafe_after missed taken

/-- Two processes find the lock of a dead one; the first breaks it and takes the lock, and the
second breaks that. -/
def two_breakers : List (Bool × LockAction Nat) :=
  [(false, .starts Nat.succ), (true, .starts Nat.succ), (false, .opens .tries 40000000000),
    (true, .opens .tries 40000000000), (false, .looks false false 40000000000),
    (true, .looks false false 40000000000), (false, .removes false),
    (false, .opens .tries 40000000001), (true, .removes false), (true, .opens .tries 40000000002)]

/-- Both hold the lock then, for a stale lock was broken while a live process held the lock. -/
theorem updates_safe_two_breakers :
    ∃ steps s, Run (LockStep 0) (LockedFile.new (some ⟨0, 0⟩) none) steps s ∧
      steps.map Taken.event = two_breakers ∧
      ((s.stage false).holding.isSome = true ∧ (s.stage true).holding.isSome = true) ∧
      ¬∀ t ∈ steps, spares_holder t.before t.event := by
  have computed : (two_breakers.foldlM
      (fun s event => LockedFile.step 0 s event.1 event.2)
      (LockedFile.new (some ⟨0, 0⟩) none)).any (fun s =>
        (s.stage false).holding.isSome && (s.stage true).holding.isSome) = true := by decide
  obtain ⟨s, computed, both⟩ := (Option.any_eq_true _ _).mp computed
  rw [Bool.and_eq_true] at both
  obtain ⟨steps, same, run⟩ := @Run.of_foldlM _ _ (LockStep 0) _ _
    (fun s event => LockedFile.step 0 s event.1 event.2) (fun _ _ _ taken => taken) _ computed
  refine ⟨steps, s, run, same, both, fun spares => ?_⟩
  have safe := (@updates_safe_iff Bool Nat _ 0 s (some ⟨0, 0⟩) none steps run).mpr spares
  have moves : steps ≠ [] := by
    rintro rfl
    cases same
  cases (run.at_end moves safe).one_holder false true both.1 both.2

/-! ## Locks of the dead -/

/-- A lock found stale is one that no live process holds: whoever lives finishes sooner. -/
def finds_abandoned (s : LockedFile P V) (event : P × LockAction V) : Prop :=
  ∀ apply unreadable timeless now lock, event.2 = .looks unreadable timeless now →
    s.stage event.1 = .looks apply → s.lock = some lock →
    LockedFile.is_stale_lock lock timeless now = true → ∀ p, (s.stage p).holding ≠ some lock

/-- What a process removes as stale is what it found. -/
def removes_found (s : LockedFile P V) (event : P × LockAction V) : Prop :=
  event.2 = .removes false → ∀ apply stale lock, s.stage event.1 = .removes apply stale →
    s.lock = some lock → lock = stale

/-- Lock files are made one after the other, and one found stale is held by nobody. -/
structure StaleKept (s : LockedFile P V) : Prop where
  made : ∀ lock, s.lock = some lock → lock.serial < s.made
  found : ∀ p apply stale, s.stage p = .removes apply stale →
    stale.serial < s.made ∧ ∀ q, (s.stage q).holding ≠ some stale

omit [DecidableEq P] in
/-- Before any step nothing has been found stale. -/
theorem new_stale_kept (lock : Option LockFile) (file : Option V) :
    StaleKept (LockedFile.new (P := P) lock file) where
  made := by
    rintro lock rfl
    exact Nat.lt_succ_self lock.serial
  found := nofun

/-- What is not held is not held after a process goes on with what it holds. -/
theorem StaleKept.of_goes (kept : StaleKept s) {stage : LockStage V} {p : P} {apply : V → V}
    {stale : LockFile} (holds : stage.holding = (s.stage process).holding ∨ stage.holding = none)
    (at_stage : (s.goes process stage).stage p = .removes apply stale)
    (not_removes : ∀ apply stale, stage ≠ .removes apply stale) :
    stale.serial < s.made ∧ ∀ q, ((s.goes process stage).stage q).holding ≠ some stale := by
  have other : p ≠ process := by
    rintro rfl
    rw [goes_stage] at at_stage
    exact not_removes apply stale at_stage
  rw [goes_stage_of_ne other] at at_stage
  obtain ⟨made, unheld⟩ := kept.found p apply stale at_stage
  exact ⟨made, fun q after => unheld q (holding_goes holds after)⟩

/-- **One step** that finds no lock stale that is held. -/
theorem StaleKept.step (kept : StaleKept s) (finds : finds_abandoned s (process, action))
    (moves : LockMoves missing s process action s') : StaleKept s' := by
  cases moves with
  | goes stage holds base found =>
    refine ⟨kept.made, ?_⟩
    intro p apply stale at_stage
    by_cases same : p = process
    · subst same
      rw [goes_stage] at at_stage
      obtain ⟨present, looks, timeless, now, looked, old⟩ := found apply stale at_stage
      have unheld := finds apply false timeless now stale looked looks present old
      exact ⟨kept.made stale present, fun q after => unheld q (holding_goes holds after)⟩
    · rw [goes_stage_of_ne same] at at_stage
      obtain ⟨made, unheld⟩ := kept.found p apply stale at_stage
      exact ⟨made, fun q after => unheld q (holding_goes holds after)⟩
  | takes apply now stage free =>
    refine ⟨?_, ?_⟩
    · intro lock present
      cases present
      exact Nat.lt_succ_self s.made
    · intro p apply' stale at_stage
      change (s.goes process (.reads apply ⟨s.made, now⟩)).stage p = _ at at_stage
      have other : p ≠ process := by
        rintro rfl
        rw [goes_stage] at at_stage
        cases at_stage
      rw [goes_stage_of_ne other] at at_stage
      obtain ⟨made, unheld⟩ := kept.found p apply' stale at_stage
      refine ⟨Nat.lt_succ_of_lt made, ?_⟩
      intro q after
      change ((s.goes process (.reads apply ⟨s.made, now⟩)).stage q).holding = _ at after
      by_cases same : q = process
      · subst same
        rw [goes_stage] at after
        cases after
        exact Nat.lt_irrefl _ made
      · rw [goes_stage_of_ne same] at after
        exact unheld q after
  | breaks apply stale lock stage found removes =>
    exact ⟨nofun, fun p apply' stale' at_stage => kept.of_goes (.inr rfl) at_stage nofun⟩
  | writes apply lock base confirmed stage returned =>
    refine ⟨kept.made, fun p apply' stale at_stage => kept.of_goes (.inl ?_) at_stage nofun⟩
    rw [stage]
    rfl
  | drops lock stage =>
    exact ⟨nofun, fun p apply' stale at_stage => kept.of_goes (.inr rfl) at_stage nofun⟩

omit [DecidableEq P] in
/-- Where only what was found stale is removed, no holder loses its lock. -/
theorem spares_of_found (safe : UpdatesSafe missing start s) (kept : StaleKept s)
    {event : P × LockAction V} (found : removes_found s event) : spares_holder s event := by
  intro removes apply stale stage present p
  obtain ⟨lock, at_path⟩ := Option.ne_none_iff_exists'.mp present
  obtain rfl := found removes apply stale lock stage at_path
  cases held : (s.stage p).holding with
  | none => rfl
  | some own =>
    have same := Option.some.inj (at_path.symm.trans (safe.in_place p own held))
    rw [← same] at held
    exact absurd held ((kept.found event.1 apply lock stage).2 p)

/-- **Updates are safe** in a run in which every lock found stale is one no live process holds,
and what is removed as stale is what was found: at most one process holds the lock, it drops its
own, and the file holds the updates that were written, in order.
SRC: fsio.rs:50-112, 131-149; ui_state.rs:353-368; history.rs:218-231 -/
theorem updates_safe_of_found {lock : Option LockFile} {file : Option V}
    {steps : List (Taken (LockedFile P V) (P × LockAction V))}
    (run : Run (LockStep missing) (LockedFile.new lock file) steps s)
    (finds : ∀ t ∈ steps, finds_abandoned t.before t.event)
    (found : ∀ t ∈ steps, removes_found t.before t.event) :
    UpdatesSafe missing (file.getD missing) s := by
  have both := run.inv_of_meets
    (P := fun s => UpdatesSafe missing (file.getD missing) s ∧ StaleKept s)
    (C := fun s event => finds_abandoned s event ∧ removes_found s event) ?_
    ⟨new_updates_safe lock file, new_stale_kept lock file⟩
    fun t member => ⟨finds t member, found t member⟩
  · exact both.1
  · intro s event s' kept meets taken
    have moves := lock_moves taken
    exact ⟨kept.1.step (spares_of_found kept.1 kept.2 meets.2) moves, kept.2.step meets.1 moves⟩

/-- The lock of a dead process is broken once, and two processes take turns. -/
def two_updates : List (Bool × LockAction Nat) :=
  [(false, .starts Nat.succ), (false, .opens .tries 40000000000),
    (false, .looks false false 40000000000), (false, .removes false),
    (false, .opens .tries 40000000001), (true, .starts (2 * ·)), (true, .opens .tries 40000000002),
    (true, .looks false false 40000000003), (false, .reads false), (false, .writes .written),
    (false, .drops false), (true, .waits false), (true, .opens .tries 40000000004),
    (true, .reads false), (true, .writes .written), (true, .drops false)]

/-- The lock is not held where a process looks at it, and is the one found where it is removed. -/
def meets_found (s : LockedFile Bool Nat) (event : Bool × LockAction Nat) : Bool :=
  match event.2, s.lock with
  | .looks _ timeless now, some lock => !LockedFile.is_stale_lock lock timeless now ||
      decide ((s.stage false).holding ≠ some lock ∧ (s.stage true).holding ≠ some lock)
  | .removes _, some lock =>
    match s.stage event.1 with
    | .removes _ stale => decide (lock = stale)
    | _ => true
  | _, _ => true

/-- A step that passes the check removes only what was found. -/
theorem found_of_check {s : LockedFile Bool Nat} {event : Bool × LockAction Nat}
    (passes : meets_found s event = true) : finds_abandoned s event ∧ removes_found s event := by
  obtain ⟨process, action⟩ := event
  constructor
  · intro apply unreadable timeless now lock looks stage present old p
    change action = _ at looks
    subst looks
    simp only [meets_found, present, old, Bool.not_true, Bool.false_or, decide_eq_true_eq] at passes
    cases p with
    | false => exact passes.1
    | true => exact passes.2
  · intro removes apply stale lock stage present
    change action = _ at removes
    subst removes
    simpa [meets_found, present, stage] using passes

/-- Two processes update one after the other. -/
theorem updates_safe_two_updates :
    ∃ steps s, Run (LockStep 0) (LockedFile.new (some ⟨0, 0⟩) none) steps s ∧
      steps.map Taken.event = two_updates ∧ UpdatesSafe 0 0 s := by
  have computed : (two_updates.foldlM (fun s event => if meets_found s event then
      LockedFile.step 0 s event.1 event.2 else none)
      (LockedFile.new (some ⟨0, 0⟩) none)).isSome = true := by decide
  obtain ⟨s, computed⟩ := Option.isSome_iff_exists.mp computed
  obtain ⟨steps, same, run, passes⟩ := @Run.of_foldlM_checked _ _ (LockStep 0) _ s
    (fun s event => LockedFile.step 0 s event.1 event.2) meets_found (fun _ _ _ taken => taken) _
    computed
  exact ⟨steps, s, run, same, @updates_safe_of_found Bool Nat _ 0 s (some ⟨0, 0⟩) none steps run
    (fun t member => (found_of_check (passes t member)).1)
    fun t member => (found_of_check (passes t member)).2⟩

/-! ## Breaking locks of the dead -/

/-- What a process removes as stale is what it found, or a lock that no live process holds. -/
def removes_dead (s : LockedFile P V) (event : P × LockAction V) : Prop :=
  event.2 = .removes false → ∀ apply stale lock, s.stage event.1 = .removes apply stale →
    s.lock = some lock → lock ≠ stale → ∀ p, (s.stage p).holding ≠ some lock

/-- What a lock is for: one live process at most holds it, none drops another's, and the file holds
the updates written, among them all that returned `Ok`. -/
structure LockLaws (missing start : V) (t : Taken (LockedFile P V) (P × LockAction V)) : Prop where
  one_holder : ∀ p q, (t.after.stage p).holding.isSome = true →
    (t.after.stage q).holding.isSome = true → p = q
  drops_own : ∀ lock, t.event.2 = .drops false → t.before.stage t.event.1 = .drops lock →
    t.before.lock = some lock
  folded : t.after.content missing =
    t.after.applied.foldl (fun content apply => apply content) start
  confirmed : t.after.confirmed.Sublist t.after.applied

omit [DecidableEq P] in
/-- Where what is removed was found stale or is held by nobody, no holder loses its lock. -/
theorem spares_of_dead (safe : UpdatesSafe missing start s) (kept : StaleKept s)
    {event : P × LockAction V} (dead : removes_dead s event) : spares_holder s event := by
  intro removes apply stale stage present p
  obtain ⟨lock, at_path⟩ := Option.ne_none_iff_exists'.mp present
  cases held : (s.stage p).holding with
  | none => rfl
  | some own =>
    obtain rfl : lock = own := Option.some.inj (at_path.symm.trans (safe.in_place p own held))
    by_cases found : lock = stale
    · exact absurd held (found ▸ (kept.found event.1 apply stale stage).2 p)
    · exact absurd held (dead removes apply stale lock stage at_path found p)

/-- **What the lock is for** holds after every step of a run in which holders finish before their
locks are stale, if no process removes as stale a lock that is not the one it found while the
holder lives.
SRC: fsio.rs:50-112, 131-149; ui_state.rs:353-368; history.rs:218-231 -/
theorem lock_laws {lock : Option LockFile} {file : Option V}
    {steps : List (Taken (LockedFile P V) (P × LockAction V))}
    (run : Run (LockStep missing) (LockedFile.new lock file) steps s)
    (finds : ∀ t ∈ steps, finds_abandoned t.before t.event)
    (dead : ∀ t ∈ steps, removes_dead t.before t.event) :
    ∀ t ∈ steps, LockLaws missing (file.getD missing) t := by
  have keeps (s : LockedFile P V) (event : P × LockAction V) (s' : LockedFile P V)
      (kept : UpdatesSafe missing (file.getD missing) s ∧ StaleKept s)
      (meets : finds_abandoned s event ∧ removes_dead s event)
      (taken : LockStep missing s event s') :
      UpdatesSafe missing (file.getD missing) s' ∧ StaleKept s' := by
    have moves := lock_moves taken
    exact ⟨kept.1.step (spares_of_dead kept.1 kept.2 meets.2) moves, kept.2.step meets.1 moves⟩
  induction run with
  | nil => exact nofun
  | @snoc steps s s' event run taken ih =>
    rw [List.forall_mem_append, List.forall_mem_singleton] at finds dead ⊢
    refine ⟨ih finds.1 dead.1, ?_⟩
    have before := run.inv_of_meets keeps ⟨new_updates_safe lock file, new_stale_kept lock file⟩
      fun t member => ⟨finds.1 t member, dead.1 t member⟩
    have after := (keeps s event s' before ⟨finds.2, dead.2⟩ taken).1
    refine ⟨after.one_holder, fun own _ stage => ?_, after.folded, after.confirmed⟩
    exact before.1.in_place event.1 own (by rw [stage]; rfl)

/-- Two processes take turns, and the lock that the dead one left is broken by the first. -/
theorem lock_laws_two_updates :
    ∃ steps s, Run (LockStep 0) (LockedFile.new (some ⟨0, 0⟩) none) steps s ∧
      steps.map Taken.event = two_updates ∧ ∀ t ∈ steps, LockLaws 0 0 t := by
  have computed : (two_updates.foldlM (fun s event => if meets_found s event then
      LockedFile.step 0 s event.1 event.2 else none)
      (LockedFile.new (some ⟨0, 0⟩) none)).isSome = true := by decide
  obtain ⟨s, computed⟩ := Option.isSome_iff_exists.mp computed
  obtain ⟨steps, same, run, passes⟩ := @Run.of_foldlM_checked _ _ (LockStep 0) _ s
    (fun s event => LockedFile.step 0 s event.1 event.2) meets_found (fun _ _ _ taken => taken) _
    computed
  refine ⟨steps, s, run, same, @lock_laws Bool Nat _ 0 s (some ⟨0, 0⟩) none steps run
    (fun t member => (found_of_check (passes t member)).1) fun t member => ?_⟩
  intro removes apply stale lock stage present other
  exact absurd ((found_of_check (passes t member)).2 removes apply stale lock stage present) other

/-- The lock is not held by a live process where one finds it stale. -/
def looks_dead (s : LockedFile Bool Nat) (event : Bool × LockAction Nat) : Bool :=
  match event.2, s.lock with
  | .looks _ timeless now, some lock => !LockedFile.is_stale_lock lock timeless now ||
      decide ((s.stage false).holding ≠ some lock ∧ (s.stage true).holding ≠ some lock)
  | _, _ => true

/-- Two processes break the lock of a dead one: the second removes the fresh lock of the first, and
both hold the lock.
SRC: fsio.rs:131-149 -/
theorem both_breakers_hold :
    ∃ steps s, Run (LockStep 0) (LockedFile.new (some ⟨0, 0⟩) none) steps s ∧
      steps.map Taken.event = two_breakers ∧
      (∀ t ∈ steps, finds_abandoned t.before t.event) ∧
      (s.stage false).holding.isSome = true ∧ (s.stage true).holding.isSome = true := by
  have computed : (two_breakers.foldlM (fun s event => if looks_dead s event then
      LockedFile.step 0 s event.1 event.2 else none)
      (LockedFile.new (some ⟨0, 0⟩) none)).any (fun s =>
        (s.stage false).holding.isSome && (s.stage true).holding.isSome) = true := by decide
  obtain ⟨s, computed, both⟩ := (Option.any_eq_true _ _).mp computed
  rw [Bool.and_eq_true] at both
  obtain ⟨steps, same, run, passes⟩ := @Run.of_foldlM_checked _ _ (LockStep 0) _ s
    (fun s event => LockedFile.step 0 s event.1 event.2) looks_dead (fun _ _ _ taken => taken) _
    computed
  refine ⟨steps, s, run, same, fun t member => ?_, both⟩
  intro apply unreadable timeless now lock looks stage present old p
  have abandoned := passes t member
  simp only [looks_dead, looks, present, old, Bool.not_true, Bool.false_or, decide_eq_true_eq]
    at abandoned
  cases p with
  | false => exact abandoned.1
  | true => exact abandoned.2

end Captastic.Analysis
