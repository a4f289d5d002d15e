import Captastic.Model.CaptureWorker

/-!
# Rules for the calls of the capture worker

What a triple needs of a call of the host, an assignment, a note or an end; and the rule of
`dispatch_output`, which only calls the host and closes traces, but for the one job it may hand
to the selection worker.
-/

set_option autoImplicit false

namespace Captastic.Analysis

open Captastic.Library Captastic.Model

variable {B W α : Type}

section Rules

variable {P : CaptureWorker B W → Prop} {Q : Except WorkerEnd α → CaptureWorker B W → Prop}

/-- A call of the host changes the world alone. -/
theorem triple_host_call {call : W → α × W}
    (holds : ∀ s, P s → Q (.ok (call s.world).1) { s with world := (call s.world).2 }) :
    Triple P (host_call call) Q := by
  intro s result s' before ran
  obtain ⟨rfl, rfl⟩ := Prod.mk.inj (Option.some.inj ran)
  exact holds s before

/-- Ending the worker leaves its variables. -/
theorem triple_end_worker {ending : WorkerEnd} (holds : ∀ s, P s → Q (.error ending) s) :
    Triple P (end_worker ending) Q :=
  Triple.lift holds

/-- A note is added to those there are. -/
theorem triple_note {what : Note} {Q : Except WorkerEnd Unit → CaptureWorker B W → Prop}
    (holds : ∀ s, P s → Q (.ok ()) { s with notes := s.notes ++ [what] }) :
    Triple P (note what) Q :=
  Triple.update holds

/-- An assignment changes the variables it says. -/
theorem triple_assign {change : CaptureWorker B W → CaptureWorker B W}
    {Q : Except WorkerEnd Unit → CaptureWorker B W → Prop}
    (holds : ∀ s, P s → Q (.ok ()) (change s)) : Triple P (assign change) Q :=
  Triple.update holds

/-- Telling the daemon changes the world alone. -/
theorem triple_notify {host : Host B W} {notice : DaemonNotice}
    {Q : Except WorkerEnd Unit → CaptureWorker B W → Prop}
    (holds : ∀ s, P s → Q (.ok ()) { s with world := host.notify notice s.world }) :
    Triple P (notify host notice) Q :=
  triple_host_call holds

/-- Receiving a command changes the world alone, and may wait. -/
theorem triple_recv_call {host : Host B W}
    {Q : Except WorkerEnd (Option CaptureCommand) → CaptureWorker B W → Prop}
    (holds : ∀ s received world, P s → host.recv s.world = some (received, world) →
      Q (.ok received) { s with world }) :
    Triple P (recv_call host) Q := by
  intro s result s' before ran
  obtain ⟨⟨received, world⟩, answered, made⟩ := Option.map_eq_some_iff.mp ran
  obtain ⟨rfl, rfl⟩ := Prod.mk.inj made
  exact holds s received world before answered

end Rules

/-! ## Dispatching a capture -/

/-- A property that neither a closed trace nor a call that dispatching makes disturbs, besides
the one that hands a job to the selection worker. -/
structure Undisturbed (host : Host B W) (P : CaptureWorker B W → Prop) : Prop where
  closed : ∀ s recorder, P s → P { s with notes := s.notes ++ [.closed recorder] }
  gpu : ∀ s, P s → P { s with world := (host.gpu s.world).2 }
  confirmed_region : ∀ s id, P s → P { s with world := (host.confirmed_region id s.world).2 }
  offer : ∀ s sink job, P s → P { s with world := (host.offer sink job s.world).2 }

variable {host : Host B W} {P Q : CaptureWorker B W → Prop}

/-- A call that always returns a value, and leaves the property alone. -/
def Returns (P : CaptureWorker B W → Prop) : Except WorkerEnd α → CaptureWorker B W → Prop :=
  Post (fun _ => P) fun _ _ => False

/-- Closing an attempt's record disturbs nothing. -/
theorem triple_close_attempt (undisturbed : Undisturbed host P)
    (closed : EventRecorder × Except AppError CaptureId) :
    Triple P (close_attempt closed : Serving B W _) (Returns P) := by
  refine Triple.bind_update (fun s holds => undisturbed.closed s closed.1 holds) ?_
  exact Triple.pure fun _ holds => holds

/-- Neither status of a rejection is that of a queued job. -/
theorem rejection_not_queued (rejection : OutputRejection) :
    queued_to_selection_worker rejection.status = false := by
  cases rejection <;> rfl

/-- Offering a capture to the destinations in turn disturbs nothing. -/
theorem triple_offer_each (undisturbed : Undisturbed host P) (job : OutputJob)
    (sinks : List String) (delivered : Nat) (last_rejection : Option String)
    (not_queued : ∀ text, last_rejection = some text → queued_to_selection_worker text = false) :
    Triple P (offer_each host job sinks delivered last_rejection)
      (Post (fun offered s => P s ∧ ∀ n text, offered = .ok (n, some text) →
        queued_to_selection_worker text = false) fun _ _ => False) := by
  induction sinks generalizing delivered last_rejection with
  | nil =>
    refine Triple.pure fun s holds => ⟨holds, ?_⟩
    intro n text is_ok
    cases is_ok
    exact not_queued text rfl
  | cons sink sinks ih =>
    refine Triple.bind (Q := Returns P) ?_ ?_ fun _ _ holds => holds
    · exact triple_host_call fun s holds => undisturbed.offer s sink job holds
    intro offered
    cases offered with
    | ok _ => exact ih (delivered + 1) last_rejection not_queued
    | error rejection =>
      refine Triple.bind (triple_close_attempt undisturbed _) ?_ fun _ _ holds => holds
      intro closed
      cases closed with
      | error error =>
        refine Triple.pure fun s holds => ⟨holds, ?_⟩
        intro n text is_ok
        cases is_ok
      | ok _ =>
        apply ih delivered (some rejection.status)
        intro text same
        rw [← Option.some.inj same]
        exact rejection_not_queued rejection

/-- A dispatch that has handed nothing to the selection worker. -/
def not_queued (P : CaptureWorker B W → Prop) :
    Except WorkerEnd (Except AppError String) → CaptureWorker B W → Prop :=
  Post (fun status s => P s ∧ ∀ text, status = .ok text → queued_to_selection_worker text = false)
    fun ending s => ending = .stopped_in_a_crop ∧ P s

/-- A status that is closed with is none of those of a queued job. -/
theorem triple_close_status (undisturbed : Undisturbed host P)
    (closed : EventRecorder × Except AppError CaptureId) {status : String}
    (not_queued_status : queued_to_selection_worker status = false) :
    Triple P (close_attempt closed >>= fun closed => pure (closed.map fun _ => status))
      (not_queued P) := by
  refine Triple.bind (triple_close_attempt undisturbed closed) ?_ fun _ _ never => never.elim
  intro result
  refine Triple.pure fun s holds => ⟨holds, ?_⟩
  intro text is_ok
  cases result with
  | error error => cases is_ok
  | ok id =>
    cases is_ok
    exact not_queued_status

/-- A dispatch that fails has handed nothing over. -/
theorem triple_not_dispatched {error : AppError} :
    Triple P (pure (.error error) : Serving B W _) (not_queued P) := by
  refine Triple.pure fun s holds => ⟨holds, ?_⟩
  intro text is_ok
  cases is_ok

/-- Nor does dispatching it to them. -/
theorem triple_dispatch_destinations (undisturbed : Undisturbed host P) (sinks : List String)
    (capture : FinishedCapture) :
    Triple P (dispatch_destinations host sinks capture) (not_queued P) := by
  unfold dispatch_destinations
  apply Triple.ite
  · intro _
    exact triple_close_status undisturbed _ rfl
  · intro _
    cases capture.output_job with
    | error error => exact triple_not_dispatched
    | ok job =>
      refine Triple.bind (triple_offer_each undisturbed job sinks 0 none nofun) ?_
        fun _ _ never => never.elim
      intro offered
      cases offered with
      | error error => exact triple_not_dispatched.pre fun _ holds => holds.1
      | ok answer =>
        obtain ⟨delivered, last_rejection⟩ := answer
        apply Triple.ite
        · intro _
          refine Triple.pure fun s holds => ⟨holds.1, ?_⟩
          intro text is_ok
          cases is_ok
          rfl
        · intro _
          cases last_rejection with
          | none =>
            exact (triple_close_status undisturbed _ rfl).pre fun _ holds => holds.1
          | some text =>
            intro s result s' holds ran
            exact triple_close_status undisturbed _ (holds.2 delivered text rfl) s result s' holds.1
              ran

/-- Nor does repeating a region. -/
theorem triple_dispatch_repeat_region (undisturbed : Undisturbed host P) (sinks : List String)
    (capture : FinishedCapture) (rect : Rect) :
    Triple P (dispatch_repeat_region host sinks capture rect) (not_queued P) := by
  refine Triple.bind (Q := Returns P) ?_ ?_ fun _ _ never => never.elim
  · exact triple_host_call fun s holds => undisturbed.gpu s holds
  intro gpu
  cases repeat_region gpu capture.native_frame capture.frame rect with
  | error fault =>
    cases fault with
    | stopped => exact triple_end_worker fun _ holds => ⟨rfl, holds⟩
    | error error => exact triple_not_dispatched
  | ok selected_frame => exact triple_dispatch_destinations undisturbed sinks _

/-- A dispatch: it has handed a job to the selection worker exactly where its status says so. -/
def dispatched (P Q : CaptureWorker B W → Prop) :
    Except WorkerEnd (Except AppError String) → CaptureWorker B W → Prop :=
  Post (fun status s => (∃ text, status = .ok text ∧ queued_to_selection_worker text = true ∧ Q s) ∨
      (P s ∧ ∀ text, status = .ok text → queued_to_selection_worker text = false))
    fun ending s => ending = .stopped_in_a_crop ∧ P s

/-- A capture that went to no selection leaves what was not disturbed. -/
theorem dispatched_of_not_queued (result : Except WorkerEnd (Except AppError String))
    (s : CaptureWorker B W) (holds : not_queued P result s) : dispatched P Q result s := by
  cases result with
  | error ending => exact holds
  | ok status => exact .inr holds

/-- A selection is handed over, or the capture is delivered without one. -/
theorem triple_dispatch_selection (undisturbed : Undisturbed host P) (capture : FinishedCapture)
    (initial_tool : InitialSelectionTool) (preview_mode : PreviewMode)
    (taken : ∀ s job, capture.selection_job initial_tool preview_mode = .ok job → P s →
      (host.try_submit job s.world).1 = .ok () →
        Q { s with world := (host.try_submit job s.world).2 })
    (rejected : ∀ s job reason, P s → (host.try_submit job s.world).1 = .error reason →
      P { s with world := (host.try_submit job s.world).2 }) :
    Triple P (dispatch_selection host capture initial_tool preview_mode) (dispatched P Q) := by
  unfold dispatch_selection
  cases made : capture.selection_job initial_tool preview_mode with
  | error error => exact triple_not_dispatched.post dispatched_of_not_queued
  | ok job =>
    refine Triple.bind (Q := Post (Post (fun _ => Q) fun _ => P) fun _ _ => False) ?_ ?_
      fun _ _ never => never.elim
    · refine triple_host_call fun s holds => ?_
      cases submitted : (host.try_submit job s.world).1 with
      | ok _ => exact taken s job made holds submitted
      | error reason => exact rejected s job reason holds submitted
    · intro submitted
      cases submitted with
      | ok _ => exact Triple.pure fun s holds => .inl ⟨_, rfl, rfl, holds⟩
      | error reason =>
        have status : queued_to_selection_worker reason.skipped = false := by
          cases reason <;> rfl
        exact (triple_close_status undisturbed _ status).post dispatched_of_not_queued

/-- **The rule of a dispatch**, with what holds before it and what holds once the selection
worker has the job. -/
theorem triple_dispatch_output (context : CaptureWorkerContext) (undisturbed : Undisturbed host P)
    (sinks : List String) (capture : FinishedCapture)
    (taken : ∀ s job initial_tool,
      capture.selection_job initial_tool context.selection_preview = .ok job → P s →
      (host.try_submit job s.world).1 = .ok () →
        Q { s with world := (host.try_submit job s.world).2 })
    (rejected : ∀ s job reason, P s → (host.try_submit job s.world).1 = .error reason →
      P { s with world := (host.try_submit job s.world).2 }) :
    Triple P (dispatch_output context host sinks capture) (dispatched P Q) := by
  have to_selection (initial_tool) :=
    triple_dispatch_selection undisturbed capture initial_tool context.selection_preview
      (fun s job made => taken s job initial_tool made) rejected
  have to_destinations := (triple_dispatch_destinations undisturbed sinks capture).post
    (dispatched_of_not_queued (Q := Q))
  unfold dispatch_output
  cases action_route capture.action with
  | Overlay initial_tool =>
    apply Triple.ite
    · intro _
      exact to_selection initial_tool
    · intro _
      apply Triple.ite
      · intro _
        exact triple_not_dispatched.post dispatched_of_not_queued
      · intro _
        exact to_destinations
  | RepeatLastRegion =>
    refine Triple.bind (Q := Returns P) ?_ ?_ fun _ _ never => never.elim
    · exact triple_host_call fun s holds => undisturbed.confirmed_region s _ holds
    intro confirmed
    cases repeat_region_rect confirmed capture.metadata with
    | ok rect =>
      exact (triple_dispatch_repeat_region undisturbed sinks capture rect).post
        dispatched_of_not_queued
    | error _ =>
      apply Triple.ite
      · intro _
        exact to_selection .Region
      · intro _
        exact triple_not_dispatched.post dispatched_of_not_queued
  | FullDisplay => exact to_destinations

end Captastic.Analysis
