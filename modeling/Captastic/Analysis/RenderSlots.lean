import Captastic.Library.Runs
import Captastic.Library.Tally
import Captastic.Model.WindowRender

/-!
# Slots of window renders

A render holds a claim on its window, a worker slot and an in-flight permit, each counted in a shared
place that its calling thread and its worker both reach.  What each call holds is told by where its
two threads are, and the shared counts are the tallies of what the calls hold (`slots_conserved`).
-/

set_option autoImplicit false

namespace Captastic.Analysis

open Captastic.Library Captastic.Model

/-! ## What a call holds -/

/-- The calling thread holds the budget's slot. -/
def caller_has_slot : CallerStage → Bool
  | .LoadingActive | .TakingPermit _ | .Spawning | .ReturningSlot _ _ => true
  | _ => false

/-- The worker holds the budget's slot. -/
def worker_has_slot : RenderStage → Bool
  | .Rendering | .ReleasingPermit | .GivingBack | .ReturningSlot => true
  | .Absent | .DroppingTarget | .Exited => false

/-- The calling thread holds the claim on the window. -/
def caller_has_claim : CallerStage → Bool
  | .LoadingWorkers | .TakingSlot _ | .LoadingActive | .TakingPermit _ | .Spawning
  | .ReturningSlot _ _ | .DroppingTarget _ _ => true
  | _ => false

/-- The worker holds the claim on the window. -/
def worker_has_claim : RenderStage → Bool
  | .Rendering | .ReleasingPermit | .GivingBack | .ReturningSlot | .DroppingTarget => true
  | .Absent | .Exited => false

/-- The call's live budgets: from the exchange that takes the slot to the subtraction that returns
it. -/
def budgets (call : RenderCall) : Nat :=
  (caller_has_slot call.caller).toNat + (worker_has_slot call.worker).toNat

/-- The call's claims on its window. -/
def claims (call : RenderCall) : Nat :=
  (caller_has_claim call.caller).toNat + (worker_has_claim call.worker).toNat

/-- The worker is spawned. -/
def past_spawn : CallerStage → Bool
  | .Waiting | .ReleasingPermit _ _ | .GivingBack _ _ | .Answered _ => true
  | _ => false

/-- The call has acquired a permit. -/
def has_permit (call : RenderCall) : Bool :=
  match call.caller with
  | .ClaimingTarget | .LoadingWorkers | .TakingSlot _ | .LoadingActive | .TakingPermit _ => false
  | .ReturningSlot _ permit | .DroppingTarget _ permit => permit
  | .Refused _ => call.released
  | _ => true

/-- The calling thread has taken the permit's flag, and is to give the permit back. -/
def caller_gives_back : CallerStage → Bool
  | .GivingBack _ _ | .ReturningPermit _ _ => true
  | _ => false

/-- The calling thread has been through a release. -/
def caller_released : CallerStage → Bool
  | .GivingBack _ _ | .ReturningPermit _ _ | .Answered _ => true
  | _ => false

/-- The worker has been through its release. -/
def worker_released : RenderStage → Bool
  | .GivingBack | .ReturningSlot | .DroppingTarget | .Exited => true
  | .Absent | .Rendering | .ReleasingPermit => false

/-- What holds of a call at each of its steps. -/
structure CallKept (call : RenderCall) : Prop where
  absent : past_spawn call.caller = false → call.worker = .Absent
  acquired : call.acquired = (has_permit call).toNat
  fresh : has_permit call = false → call.released = false
  balanced : call.given_back + (caller_gives_back call.caller).toNat +
    (decide (call.worker = .GivingBack)).toNat = call.released.toNat
  caller_done : caller_released call.caller = true → call.released = true
  worker_done : worker_released call.worker = true → call.released = true

/-- What a step moves between the call and what is shared. -/
inductive CallMoves (call call' : RenderCall) (shared : RenderResources) : RenderResources → Prop
  | nothing (budgets : budgets call' = budgets call) (claims : claims call' = claims call)
      (acquired : call'.acquired = call.acquired)
      (given_back : call'.given_back = call.given_back) : CallMoves call call' shared shared
  | claims (unclaimed : call.target ∉ shared.targets) (budgets : budgets call' = budgets call)
      (claims : claims call' = claims call + 1) (acquired : call'.acquired = call.acquired)
      (given_back : call'.given_back = call.given_back) :
      CallMoves call call' shared { shared with targets := call.target :: shared.targets }
  | takes_slot (free : shared.workers < MAX_WINDOW_RENDER_WORKERS)
      (budgets : budgets call' = budgets call + 1) (claims : claims call' = claims call)
      (acquired : call'.acquired = call.acquired)
      (given_back : call'.given_back = call.given_back) :
      CallMoves call call' shared { shared with workers := shared.workers + 1 }
  | takes_permit (free : shared.active < MAX_IN_FLIGHT_WINDOW_RENDERS)
      (budgets : budgets call' = budgets call) (claims : claims call' = claims call)
      (acquired : call'.acquired = call.acquired + 1)
      (given_back : call'.given_back = call.given_back) :
      CallMoves call call' shared { shared with active := shared.active + 1 }
  | gives_permit (budgets : budgets call' = budgets call) (claims : claims call' = claims call)
      (acquired : call'.acquired = call.acquired) (out : call.given_back < call.acquired)
      (given_back : call'.given_back = call.given_back + 1) :
      CallMoves call call' shared { shared with active := fetch_sub shared.active }
  | returns_slot (budgets : budgets call' + 1 = budgets call) (claims : claims call' = claims call)
      (acquired : call'.acquired = call.acquired)
      (given_back : call'.given_back = call.given_back) :
      CallMoves call call' shared { shared with workers := fetch_sub shared.workers }
  | drops_claim (budgets : budgets call' = budgets call)
      (claims : claims call' + 1 = claims call) (acquired : call'.acquired = call.acquired)
      (given_back : call'.given_back = call.given_back) :
      CallMoves call call' shared { shared with targets := shared.targets.erase call.target }

/-- What a step leaves of its call. -/
structure CallStepKept (call call' : RenderCall) (shared shared' : RenderResources) : Prop where
  kept : CallKept call'
  target : call'.target = call.target
  moves : CallMoves call call' shared shared'

variable {call call' : RenderCall} {shared shared' : RenderResources}

/-- A call that has not begun holds nothing. -/
theorem new_call_kept (target : Int) : CallKept (.new target) where
  absent := fun _ => rfl
  acquired := rfl
  fresh := fun _ => rfl
  balanced := rfl
  caller_done := nofun
  worker_done := nofun

/-- SRC: window_capture.rs:842-926 -/
theorem caller_step_kept (kept : CallKept call)
    (taken : call.caller_step shared = some (call', shared')) :
    CallStepKept call call' shared shared' := by
  obtain ⟨target, caller, worker, sent, released, acquired, given_back⟩ := call
  obtain ⟨absent, acquired_eq, fresh, balanced, caller_done, worker_done⟩ := kept
  unfold RenderCall.caller_step at taken
  cases caller with
  | ClaimingTarget =>
    obtain rfl : worker = .Absent := absent rfl
    obtain rfl : released = false := fresh rfl
    simp only at taken
    split at taken
    · cases taken
      exact ⟨⟨fun _ => rfl, acquired_eq, fun _ => rfl, balanced, nofun, nofun⟩, rfl,
        .nothing rfl rfl rfl rfl⟩
    · rename_i unclaimed
      cases taken
      exact ⟨⟨fun _ => rfl, acquired_eq, fun _ => rfl, balanced, nofun, nofun⟩, rfl,
        .claims unclaimed rfl rfl rfl rfl⟩
  | LoadingWorkers =>
    cases taken
    exact ⟨⟨absent, acquired_eq, fresh, balanced, nofun, worker_done⟩, rfl,
      .nothing rfl rfl rfl rfl⟩
  | TakingSlot current =>
    simp only at taken
    split at taken
    · cases taken
      exact ⟨⟨absent, acquired_eq, fresh, balanced, nofun, worker_done⟩, rfl,
        .nothing rfl rfl rfl rfl⟩
    · rename_i room
      split at taken
      · rename_i same
        cases taken
        subst same
        refine ⟨⟨absent, acquired_eq, fresh, balanced, nofun, worker_done⟩, rfl,
          .takes_slot (Nat.not_le.mp room) ?_ rfl rfl rfl⟩
        exact Nat.add_right_comm 0 1 _
      · cases taken
        exact ⟨⟨absent, acquired_eq, fresh, balanced, nofun, worker_done⟩, rfl,
          .nothing rfl rfl rfl rfl⟩
  | LoadingActive =>
    cases taken
    exact ⟨⟨absent, acquired_eq, fresh, balanced, nofun, worker_done⟩, rfl,
      .nothing rfl rfl rfl rfl⟩
  | TakingPermit current =>
    simp only at taken
    split at taken
    · cases taken
      exact ⟨⟨absent, acquired_eq, fresh, balanced, nofun, worker_done⟩, rfl,
        .nothing rfl rfl rfl rfl⟩
    · rename_i room
      split at taken
      · rename_i same
        cases taken
        subst same
        obtain rfl : acquired = 0 := acquired_eq
        exact ⟨⟨absent, rfl, nofun, balanced, nofun, worker_done⟩, rfl,
          .takes_permit (Nat.not_le.mp room) rfl rfl rfl rfl⟩
      · cases taken
        exact ⟨⟨absent, acquired_eq, fresh, balanced, nofun, worker_done⟩, rfl,
          .nothing rfl rfl rfl rfl⟩
  | Spawning =>
    cases taken
    obtain rfl : worker = .Absent := absent rfl
    exact ⟨⟨nofun, acquired_eq, nofun, balanced, nofun, nofun⟩, rfl, .nothing rfl rfl rfl rfl⟩
  | Waiting =>
    simp only at taken
    split at taken
    · cases taken
      exact ⟨⟨nofun, acquired_eq, nofun, balanced, nofun, worker_done⟩, rfl,
        .nothing rfl rfl rfl rfl⟩
    · split at taken
      · cases taken
        exact ⟨⟨nofun, acquired_eq, nofun, balanced, nofun, worker_done⟩, rfl,
          .nothing rfl rfl rfl rfl⟩
      · cases taken
  | ReleasingPermit answer again =>
    cases taken
    cases released with
    | false =>
      refine ⟨⟨nofun, acquired_eq, nofun, ?_, fun _ => rfl, fun _ => rfl⟩, rfl,
        .nothing rfl rfl rfl rfl⟩
      exact (Nat.add_right_comm given_back 1 _).trans (congrArg (· + 1) balanced)
    | true =>
      cases again with
      | false =>
        exact ⟨⟨nofun, acquired_eq, nofun, balanced, fun _ => rfl, fun _ => rfl⟩, rfl,
          .nothing rfl rfl rfl rfl⟩
      | true =>
        exact ⟨⟨nofun, acquired_eq, nofun, balanced, nofun, fun _ => rfl⟩, rfl,
          .nothing rfl rfl rfl rfl⟩
  | GivingBack answer again =>
    cases taken
    obtain rfl : released = true := caller_done rfl
    obtain rfl : acquired = 1 := acquired_eq
    have given : given_back + 1 + (decide (worker = .GivingBack)).toNat = 1 := balanced
    have out : given_back < 1 := by omega
    cases again with
    | false =>
      exact ⟨⟨nofun, rfl, nofun, given, fun _ => rfl, fun _ => rfl⟩, rfl,
        .gives_permit rfl rfl rfl out rfl⟩
    | true =>
      exact ⟨⟨nofun, rfl, nofun, given, nofun, fun _ => rfl⟩, rfl,
        .gives_permit rfl rfl rfl out rfl⟩
  | ReturningSlot error permit =>
    cases taken
    exact ⟨⟨absent, acquired_eq, fresh, balanced, nofun, worker_done⟩, rfl,
      .returns_slot (Nat.add_right_comm 0 _ 1) rfl rfl rfl⟩
  | DroppingTarget error permit =>
    cases taken
    cases permit with
    | true =>
      exact ⟨⟨absent, acquired_eq, nofun, balanced, nofun, worker_done⟩, rfl,
        .drops_claim rfl (Nat.add_right_comm 0 _ 1) rfl rfl⟩
    | false =>
      obtain rfl : released = false := fresh rfl
      exact ⟨⟨absent, acquired_eq, fun _ => rfl, balanced, nofun, worker_done⟩, rfl,
        .drops_claim rfl (Nat.add_right_comm 0 _ 1) rfl rfl⟩
  | DroppingPermit error again =>
    cases taken
    cases released with
    | false =>
      refine ⟨⟨absent, acquired_eq, nofun, ?_, fun _ => rfl, fun _ => rfl⟩, rfl,
        .nothing rfl rfl rfl rfl⟩
      exact (Nat.add_right_comm given_back 1 _).trans (congrArg (· + 1) balanced)
    | true =>
      cases again with
      | false =>
        exact ⟨⟨absent, acquired_eq, nofun, balanced, nofun, fun _ => rfl⟩, rfl,
          .nothing rfl rfl rfl rfl⟩
      | true =>
        exact ⟨⟨absent, acquired_eq, nofun, balanced, nofun, fun _ => rfl⟩, rfl,
          .nothing rfl rfl rfl rfl⟩
  | ReturningPermit error again =>
    cases taken
    obtain rfl : released = true := caller_done rfl
    obtain rfl : acquired = 1 := acquired_eq
    have given : given_back + 1 + (decide (worker = .GivingBack)).toNat = 1 := balanced
    have out : given_back < 1 := by omega
    cases again with
    | false =>
      exact ⟨⟨absent, rfl, nofun, given, nofun, fun _ => rfl⟩, rfl,
        .gives_permit rfl rfl rfl out rfl⟩
    | true =>
      exact ⟨⟨absent, rfl, nofun, given, nofun, fun _ => rfl⟩, rfl,
        .gives_permit rfl rfl rfl out rfl⟩
  | Answered => cases taken
  | Refused => cases taken

/-- A caller past the spawn has a permit. -/
theorem has_permit_of_spawned (spawned : past_spawn call.caller = true) :
    has_permit call = true := by
  unfold has_permit
  cases stage : call.caller <;> simp_all [past_spawn]

/-- SRC: window_capture.rs:212-218 -/
theorem worker_step_of_call (kept : CallKept call)
    (taken : call.worker_step shared = some (call', shared')) :
    CallStepKept call call' shared shared' := by
  have spawned (there : call.worker ≠ .Absent) : past_spawn call.caller = true := by
    by_contra early
    exact there (kept.absent (Bool.eq_false_iff.mpr early))
  obtain ⟨target, caller, worker, sent, released, acquired, given_back⟩ := call
  obtain ⟨absent, acquired_eq, fresh, balanced, caller_done, worker_done⟩ := kept
  have stays (early : past_spawn caller = false) (there : worker ≠ .Absent) : False := by
    have late := spawned there
    rw [early] at late
    cases late
  have holds {left : RenderCall} (same : left.caller = caller) (there : worker ≠ .Absent) :
      has_permit left = true := has_permit_of_spawned (same ▸ spawned there)
  have one (there : worker ≠ .Absent) : acquired = 1 := by
    have permit := has_permit_of_spawned (spawned there)
    exact acquired_eq.trans (congrArg Bool.toNat permit)
  unfold RenderCall.worker_step at taken
  cases worker with
  | ReleasingPermit =>
    cases taken
    obtain rfl : acquired = 1 := one nofun
    cases released with
    | false =>
      refine ⟨⟨fun early => (stays early nofun).elim, ?_, ?_, ?_, fun _ => rfl, fun _ => rfl⟩, rfl,
        .nothing rfl rfl rfl rfl⟩
      · rw [holds rfl nofun]
        rfl
      · intro none_held
        cases none_held.symm.trans (holds rfl nofun)
      · exact congrArg (· + 1) balanced
    | true =>
      refine ⟨⟨fun early => (stays early nofun).elim, ?_, ?_, balanced, fun _ => rfl, fun _ => rfl⟩,
        rfl, .nothing rfl rfl rfl rfl⟩
      · rw [holds rfl nofun]
        rfl
      · intro none_held
        cases none_held.symm.trans (holds rfl nofun)
  | GivingBack =>
    cases taken
    obtain rfl : released = true := worker_done rfl
    obtain rfl : acquired = 1 := one nofun
    have given : given_back + (caller_gives_back caller).toNat + 1 = 1 := balanced
    refine ⟨⟨fun early => (stays early nofun).elim, ?_, ?_, ?_, fun _ => rfl, fun _ => rfl⟩, rfl,
      .gives_permit rfl rfl rfl ?_ rfl⟩
    · rw [holds rfl nofun]
      rfl
    · intro none_held
      cases none_held.symm.trans (holds rfl nofun)
    · change given_back + 1 + (caller_gives_back caller).toNat + 0 = 1
      omega
    · change given_back < 1
      omega
  | ReturningSlot =>
    cases taken
    obtain rfl : released = true := worker_done rfl
    exact ⟨⟨fun early => (stays early nofun).elim, acquired_eq, fresh, balanced, fun _ => rfl,
      fun _ => rfl⟩, rfl, .returns_slot rfl rfl rfl rfl⟩
  | DroppingTarget =>
    cases taken
    obtain rfl : released = true := worker_done rfl
    exact ⟨⟨fun early => (stays early nofun).elim, acquired_eq, fresh, balanced, fun _ => rfl,
      fun _ => rfl⟩, rfl, .drops_claim rfl rfl rfl rfl⟩
  | _ => cases taken

/-- A render that ends, by a result or by a panic. -/
theorem rendered_kept (kept : CallKept call) (rendering : call.worker = .Rendering)
    (sent : Option (Option CaptureError)) :
    CallStepKept call { call with worker := .ReleasingPermit, sent } shared shared := by
  obtain ⟨target, caller, worker, before, released, acquired, given_back⟩ := call
  obtain ⟨absent, acquired_eq, fresh, balanced, caller_done, worker_done⟩ := kept
  cases rendering
  exact ⟨⟨fun early => (nomatch absent early), acquired_eq, fresh, balanced, caller_done, nofun⟩, rfl,
    .nothing rfl rfl rfl rfl⟩

/-- **A step of a call** keeps what holds of it. -/
theorem call_step_kept {step : CallStep} (kept : CallKept call)
    (taken : call.next shared step = some (call', shared')) :
    CallStepKept call call' shared shared' := by
  cases step with
  | caller => exact caller_step_kept kept taken
  | worker => exact worker_step_of_call kept taken
  | exchange_fails =>
    obtain ⟨target, caller, worker, sent, released, acquired, given_back⟩ := call
    obtain ⟨absent, acquired_eq, fresh, balanced, caller_done, worker_done⟩ := kept
    unfold RenderCall.next at taken
    cases caller with
    | TakingSlot current | TakingPermit current =>
      simp only at taken
      split at taken
      · cases taken
        exact ⟨⟨absent, acquired_eq, fresh, balanced, nofun, worker_done⟩, rfl,
          .nothing rfl rfl rfl rfl⟩
      · cases taken
    | _ => cases taken
  | spawn_fails message =>
    obtain ⟨target, caller, worker, sent, released, acquired, given_back⟩ := call
    obtain ⟨absent, acquired_eq, fresh, balanced, caller_done, worker_done⟩ := kept
    unfold RenderCall.next at taken
    cases caller with
    | Spawning =>
      cases taken
      exact ⟨⟨absent, acquired_eq, nofun, balanced, nofun, worker_done⟩, rfl,
        .nothing rfl rfl rfl rfl⟩
    | _ => cases taken
  | times_out =>
    obtain ⟨target, caller, worker, sent, released, acquired, given_back⟩ := call
    obtain ⟨absent, acquired_eq, fresh, balanced, caller_done, worker_done⟩ := kept
    unfold RenderCall.next at taken
    cases caller with
    | Waiting =>
      cases taken
      exact ⟨⟨nofun, acquired_eq, nofun, balanced, nofun, worker_done⟩, rfl,
        .nothing rfl rfl rfl rfl⟩
    | _ => cases taken
  | render result =>
    unfold RenderCall.next at taken
    simp only at taken
    split at taken
    · rename_i rendering
      cases taken
      exact rendered_kept kept rendering (some result)
    · cases taken
  | panics =>
    unfold RenderCall.next at taken
    simp only at taken
    split at taken
    · rename_i rendering
      cases taken
      exact rendered_kept kept rendering call.sent
    · cases taken

/-! ## All calls -/

/-- The permits that are not given back: acquired, and still to be subtracted from the counter. -/
def permit_out (call : RenderCall) : Bool := decide (call.given_back < call.acquired)

/-- The call is over: its caller has its answer or its refusal, and no worker of it runs. -/
def call_over (call : RenderCall) : Prop :=
  (∃ error, call.caller = .Refused error) ∨
    ((∃ answer, call.caller = .Answered answer) ∧ call.worker = .Exited)

/-- What is promised of the three resources in each state. -/
structure SlotsConserved (system : RenderSystem) : Prop where
  workers : system.shared.workers = tally budgets system.calls
  workers_le : system.shared.workers ≤ MAX_WINDOW_RENDER_WORKERS
  one_per_window : ∀ target,
    tally budgets (system.calls.filter fun call => decide (call.target = target)) ≤ 1
  active : system.shared.active = system.calls.countP permit_out
  active_le : system.shared.active ≤ MAX_IN_FLIGHT_WINDOW_RENDERS
  targets : ∀ target, target ∈ system.shared.targets ↔
    ∃ call ∈ system.calls, call.target = target ∧ 0 < claims call
  at_most_once : ∀ call ∈ system.calls, call.given_back ≤ call.acquired ∧ call.acquired ≤ 1
  once : ∀ call ∈ system.calls, call_over call → call.given_back = call.acquired
  nothing_left : ∀ call ∈ system.calls, call_over call →
    budgets call = 0 ∧ claims call = 0 ∧ permit_out call = false

/-- What every step keeps. -/
structure RendersKept (system : RenderSystem) : Prop where
  calls : ∀ call ∈ system.calls, CallKept call
  workers : system.shared.workers = tally budgets system.calls
  workers_le : system.shared.workers ≤ MAX_WINDOW_RENDER_WORKERS
  active : system.shared.active + tally RenderCall.given_back system.calls =
    tally RenderCall.acquired system.calls
  active_le : system.shared.active ≤ MAX_IN_FLIGHT_WINDOW_RENDERS
  targets : ∀ target, system.shared.targets.count target =
    tally (fun call => if call.target = target then claims call else 0) system.calls
  unique : ∀ target, system.shared.targets.count target ≤ 1

/-- A permit is taken at most once, and given back at most as often. -/
theorem CallKept.permit_le (kept : CallKept call) :
    call.given_back ≤ call.acquired ∧ call.acquired ≤ 1 := by
  have balanced := kept.balanced
  rw [kept.acquired]
  refine ⟨?_, Bool.toNat_le _⟩
  cases permit : has_permit call with
  | false =>
    rw [kept.fresh permit] at balanced
    change _ = 0 at balanced
    omega
  | true =>
    have flag := Bool.toNat_le call.released
    change _ ≤ 1
    omega

/-- A slot is held only with the claim on the window. -/
theorem budgets_le_claims (call : RenderCall) : budgets call ≤ claims call := by
  have caller : (caller_has_slot call.caller).toNat ≤ (caller_has_claim call.caller).toNat := by
    cases call.caller <;> simp [caller_has_slot, caller_has_claim]
  have worker : (worker_has_slot call.worker).toNat ≤ (worker_has_claim call.worker).toNat := by
    cases call.worker <;> simp [worker_has_slot, worker_has_claim]
  unfold budgets claims
  omega

/-- A call that is over holds nothing, and has given back the permit it acquired. -/
theorem CallKept.at_end (kept : CallKept call) (ended : call_over call) :
    budgets call = 0 ∧ claims call = 0 ∧ call.given_back = call.acquired := by
  have balanced := kept.balanced
  rw [kept.acquired]
  rcases ended with ⟨error, refused⟩ | ⟨⟨answer, answered⟩, exited⟩
  · have absent : call.worker = .Absent := kept.absent (by rw [refused]; rfl)
    rw [refused, absent] at balanced
    unfold budgets claims has_permit
    rw [refused, absent]
    exact ⟨rfl, rfl, balanced⟩
  · have released : call.released = true := kept.caller_done (by rw [answered]; rfl)
    rw [answered, exited, released] at balanced
    unfold budgets claims has_permit
    rw [answered, exited]
    exact ⟨rfl, rfl, balanced⟩

/-- **What is kept** is what is promised. -/
theorem RendersKept.conserved {system : RenderSystem} (kept : RendersKept system) :
    SlotsConserved system where
  workers := kept.workers
  workers_le := kept.workers_le
  one_per_window := by
    intro target
    apply Nat.le_trans _ (kept.unique target)
    rw [kept.targets, tally_filter]
    apply tally_le_tally
    intro call _
    by_cases same : call.target = target
    · simpa [same] using budgets_le_claims call
    · simp [same]
  active := by
    have each : tally RenderCall.given_back system.calls +
        tally (fun call => (permit_out call).toNat) system.calls =
          tally RenderCall.acquired system.calls := by
      rw [← tally_add]
      apply tally_congr
      intro call member
      obtain ⟨given_le, one⟩ := (kept.calls call member).permit_le
      unfold permit_out
      by_cases out : call.given_back < call.acquired
      · rw [decide_eq_true out]
        change _ + 1 = _
        omega
      · rw [decide_eq_false out]
        change _ + 0 = _
        omega
    have active := kept.active
    rw [← tally_toNat]
    omega
  active_le := kept.active_le
  targets := by
    intro target
    rw [← List.count_pos_iff, kept.targets]
    constructor
    · intro held
      by_contra none_holds
      refine absurd (tally_eq_zero_iff.mpr fun call member => ?_) (Nat.ne_of_gt held)
      by_cases same : call.target = target
      · rw [if_pos same]
        by_contra some_claim
        exact none_holds ⟨call, member, same, Nat.pos_of_ne_zero some_claim⟩
      · rw [if_neg same]
    · rintro ⟨call, member, same, held⟩
      have shows := le_tally (f := fun call => if call.target = target then claims call else 0)
        member
      rw [if_pos same] at shows
      omega
  at_most_once := fun call member => (kept.calls call member).permit_le
  once := fun call member ended => ((kept.calls call member).at_end ended).2.2
  nothing_left := by
    intro call member ended
    obtain ⟨budget, claim, given⟩ := (kept.calls call member).at_end ended
    refine ⟨budget, claim, ?_⟩
    unfold permit_out
    rw [given]
    exact decide_eq_false (Nat.lt_irrefl _)

/-- Adding all but one of a round takes one. -/
theorem add_round_mod {value round : Nat} (held : 0 < value) (fits : value ≤ round) :
    (value + (round - 1)) % round = value - 1 := by
  have shifted : value + (round - 1) = value - 1 + round := by omega
  rw [shifted, Nat.add_mod_right]
  exact Nat.mod_eq_of_lt (by omega)

/-- Taking one from a small counter that holds some. -/
theorem fetch_sub_eq {value : Nat} (held : 0 < value) (small : value ≤ 8) :
    fetch_sub value = value - 1 :=
  @add_round_mod value 18446744073709551616 held (Nat.le_trans small (by norm_num))

/-- A step of the renders. -/
def RenderStep (system : RenderSystem) (event : RenderEvent) (system' : RenderSystem) : Prop :=
  system.next event = some system'

/-- **One step** keeps what is kept. -/
theorem render_step_kept {system system' : RenderSystem} {event : RenderEvent}
    (kept : RendersKept system) (step : RenderStep system event system') :
    RendersKept system' := by
  unfold RenderStep RenderSystem.next at step
  cases event with
  | call target =>
    cases step
    refine ⟨?_, ?_, kept.workers_le, ?_, kept.active_le, ?_, kept.unique⟩
    · intro call member
      rcases List.mem_append.mp member with member | member
      · exact kept.calls call member
      · rw [List.mem_singleton.mp member]
        exact new_call_kept target
    · rw [tally_append]
      exact kept.workers
    · rw [tally_append, tally_append]
      exact kept.active
    · intro other
      rw [tally_append, tally_singleton]
      have nothing : (if (RenderCall.new target).target = other then
          claims (.new target) else 0) = 0 := by
        split <;> rfl
      rw [nothing]
      exact kept.targets other
  | step index step_of =>
    simp only [Option.bind_eq_bind, Option.bind_eq_some_iff] at step
    obtain ⟨call, held, ⟨call', shared'⟩, taken, step⟩ := step
    cases step
    have own := kept.calls call (List.mem_of_getElem? held)
    have left := call_step_kept own taken
    have budgets_set := tally_set held budgets call'
    have acquired_set := tally_set held RenderCall.acquired call'
    have given_set := tally_set held RenderCall.given_back call'
    have claims_set (target : Int) := tally_set held
      (fun call => if call.target = target then claims call else 0) call'
    have calls : ∀ other ∈ system.calls.set index call', CallKept other := by
      intro other member
      rcases List.mem_or_eq_of_mem_set member with member | rfl
      · exact kept.calls other member
      · exact left.kept
    have workers := kept.workers
    have workers_le := kept.workers_le
    have active := kept.active
    have active_le := kept.active_le
    have same_targets (same : claims call' = claims call) (target : Int) :
        system.shared.targets.count target = tally
          (fun call => if call.target = target then claims call else 0)
          (system.calls.set index call') := by
      have changed := claims_set target
      simp only [left.target, same] at changed
      rw [kept.targets]
      omega
    cases left.moves with
    | nothing budget claim acquired given =>
      refine ⟨calls, ?_, workers_le, ?_, active_le, same_targets claim, kept.unique⟩
      · change system.shared.workers = tally budgets (system.calls.set index call')
        omega
      · change system.shared.active + tally _ (system.calls.set index call') =
          tally _ (system.calls.set index call')
        omega
    | claims unclaimed budget claim acquired given =>
      refine ⟨calls, ?_, workers_le, ?_, active_le, ?_, ?_⟩
      · change system.shared.workers = tally budgets (system.calls.set index call')
        omega
      · change system.shared.active + tally _ (system.calls.set index call') =
          tally _ (system.calls.set index call')
        omega
      · intro target
        have before := kept.targets target
        have changed := claims_set target
        simp only [left.target, claim] at changed
        change (call.target :: system.shared.targets).count target =
          tally _ (system.calls.set index call')
        rw [List.count_cons]
        by_cases same : call.target = target
        · simp only [same, if_true, beq_self_eq_true] at changed ⊢
          omega
        · simp only [same, if_false, beq_iff_eq] at changed ⊢
          omega
      · intro target
        change (call.target :: system.shared.targets).count target ≤ 1
        rw [List.count_cons]
        by_cases same : call.target = target
        · rw [← same, List.count_eq_zero.mpr unclaimed]
          simp
        · have unique := kept.unique target
          simpa [same] using unique
    | takes_slot free budget claim acquired given =>
      refine ⟨calls, ?_, free, ?_, active_le, same_targets claim, kept.unique⟩
      · change system.shared.workers + 1 = tally budgets (system.calls.set index call')
        omega
      · change system.shared.active + tally _ (system.calls.set index call') =
          tally _ (system.calls.set index call')
        omega
    | takes_permit free budget claim acquired given =>
      refine ⟨calls, ?_, workers_le, ?_, free, same_targets claim, kept.unique⟩
      · change system.shared.workers = tally budgets (system.calls.set index call')
        omega
      · change system.shared.active + 1 + tally _ (system.calls.set index call') =
          tally _ (system.calls.set index call')
        omega
    | gives_permit budget claim acquired out given =>
      have given_le : tally RenderCall.given_back (system.calls.set index call') ≤
          tally RenderCall.acquired (system.calls.set index call') :=
        tally_le_tally fun other member => (calls other member).permit_le.1
      have taken_from : fetch_sub system.shared.active = system.shared.active - 1 :=
        fetch_sub_eq (by omega) (Nat.le_trans active_le (by decide))
      rw [taken_from]
      refine ⟨calls, ?_, workers_le, ?_, ?_, same_targets claim, kept.unique⟩
      · change system.shared.workers = tally budgets (system.calls.set index call')
        omega
      · change system.shared.active - 1 + tally _ (system.calls.set index call') =
          tally _ (system.calls.set index call')
        omega
      · change system.shared.active - 1 ≤ _
        omega
    | returns_slot budget claim acquired given =>
      have taken_from : fetch_sub system.shared.workers = system.shared.workers - 1 :=
        fetch_sub_eq (by omega) (Nat.le_trans workers_le (by decide))
      rw [taken_from]
      refine ⟨calls, ?_, ?_, ?_, active_le, same_targets claim, kept.unique⟩
      · change system.shared.workers - 1 = tally budgets (system.calls.set index call')
        omega
      · change system.shared.workers - 1 ≤ _
        omega
      · change system.shared.active + tally _ (system.calls.set index call') =
          tally _ (system.calls.set index call')
        omega
    | drops_claim budget claim acquired given =>
      refine ⟨calls, ?_, workers_le, ?_, active_le, ?_, ?_⟩
      · change system.shared.workers = tally budgets (system.calls.set index call')
        omega
      · change system.shared.active + tally _ (system.calls.set index call') =
          tally _ (system.calls.set index call')
        omega
      · intro target
        have before := kept.targets target
        have changed := claims_set target
        simp only [left.target] at changed
        change (system.shared.targets.erase call.target).count target =
          tally _ (system.calls.set index call')
        by_cases same : call.target = target
        · simp only [same, if_true] at changed
          rw [same, List.count_erase_self]
          omega
        · simp only [same, if_false] at changed
          rw [List.count_erase_of_ne (Ne.symm same)]
          omega
      · intro target
        exact Nat.le_trans ((List.erase_sublist).count_le target) (kept.unique target)

/-- With no calls nothing is held. -/
theorem idle_kept : RendersKept .idle := by
  unfold RenderSystem.idle
  constructor
  · intro call member
    cases member
  · rfl
  · exact Nat.zero_le _
  · rfl
  · exact Nat.zero_le _
  · intro target
    rfl
  · intro target
    exact Nat.zero_le _

/-- **Render slots are conserved** in every state that calls, their deadlines, workers, failures to
spawn and panics lead to, in any order. -/
theorem slots_conserved {system : RenderSystem} {steps : List (Taken RenderSystem RenderEvent)}
    (runs : Run RenderStep .idle steps system) : SlotsConserved system := by
  have kept : RendersKept system := by
    apply runs.inv _ idle_kept
    intro before event after kept step
    exact render_step_kept kept step
  exact kept.conserved

/-- A render whose deadline passes, with a second render of the same window, refused. -/
def deadline_events : List RenderEvent :=
  [.call 5] ++ List.replicate 6 (.step 0 .caller) ++
    [.call 5, .step 1 .caller, .step 0 .times_out, .step 0 .caller, .step 0 .caller]

/-- The slots add up after a deadline that passed and a call that was refused. -/
theorem slots_conserved_of_deadline :
    ∃ steps system, Run RenderStep .idle steps system ∧
      steps.map Taken.event = deadline_events ∧ SlotsConserved system := by
  have computed : (deadline_events.foldlM RenderSystem.next .idle).isSome = true := by
    decide
  obtain ⟨system, computed⟩ := Option.isSome_iff_exists.mp computed
  obtain ⟨steps, same, runs⟩ := @Run.of_foldlM _ _ RenderStep .idle _ RenderSystem.next
    (fun _ _ _ taken => taken) _ computed
  exact ⟨steps, system, runs, same, slots_conserved runs⟩

end Captastic.Analysis
