import Captastic.Library.Keyed
import Captastic.Model.Metrics

/-!
# What an accepted trace says

The validator keeps, for each capture, one rank and one table.  Here the same is said of the
trace itself: the table its events have anchored (`anchored`), the stage it has reached
(`stage`), and where a capture request comes at a lower stage (`lower`).  A trace the
validator accepts is safe (`Safe`): outputs follow a frame of their own request, nothing
follows the end of an attempt, and stages never decrease, but for one request that directly
follows a confirmation (`validate_event_order_safe`).
-/

set_option autoImplicit false

namespace Captastic.Analysis

open Captastic.Library Captastic.Model Captastic.Model.PerfEventKind

/-! ## Tables and stages of a trace -/

/-- The events of one capture, in their order. -/
def events_of (capture_id : CaptureId) (events : List PerfEvent) : List PerfEventKind :=
  (events.filter fun event => event.capture_id = capture_id).map PerfEvent.kind

/-- The last event so far and the table anchored, after one more event: the first capture
request or start of a selection anchors a table, and a request directly after a confirmation
leaves the capture-first table for the other. -/
def anchor_step (so_far : Option PerfEventKind × Option CaptureOrder) (kind : PerfEventKind) :
    Option PerfEventKind × Option CaptureOrder :=
  (some kind,
    if kind = .CaptureRequested ∧ so_far.1 = some .SelectionConfirmed ∧
        so_far.2 ≠ some .SelectionFirst then some .SelectionFirst
    else so_far.2.or kind.establishes_order)

/-- The table that a trace has anchored, if any. -/
def anchored (trace : List PerfEventKind) : Option CaptureOrder :=
  (trace.foldl anchor_step (none, none)).2

/-- The table that ranks a trace: the one anchored, or the capture-first one. -/
def table (trace : List PerfEventKind) : CaptureOrder := (anchored trace).getD .CaptureFirst

/-- The stage a trace has reached. -/
def stage (trace : List PerfEventKind) : Nat := (trace.getLast?.map (rank (table trace))).getD 0

/-- A capture request after this trace comes at a lower stage than the trace has reached. -/
def lower (trace : List PerfEventKind) : Prop := rank (table trace) .CaptureRequested < stage trace

/-- Stages that never decrease. -/
def InOrder (order : CaptureOrder) (trace : List PerfEventKind) : Prop :=
  trace.Pairwise fun a b => rank order a ≤ rank order b

/-- Every output of these events comes after a frame among them. -/
def OwnFrame (after : List PerfEventKind) : Prop :=
  ∀ before output rest, after = before ++ output :: rest → output.is_output = true →
    .CpuFrameReady ∈ before

/-- A trace of one capture that keeps the rules. -/
structure Safe (trace : List PerfEventKind) : Prop where
  /-- An output follows a frame, with no capture request between the two. -/
  frame_before_output : ∀ before output rest, trace = before ++ output :: rest →
    output.is_output = true →
      ∃ earlier since, before = earlier ++ .CpuFrameReady :: since ∧ .CaptureRequested ∉ since
  /-- Nothing but further ends follows the end of the attempt. -/
  finished_is_final : ∀ before after, trace = before ++ .AttemptFinished :: after →
    ∀ kind ∈ after, kind = .AttemptFinished
  /-- A request at a lower stage directly follows a confirmation, and outputs after it follow
  a frame of its own. -/
  lower_after_confirmation : ∀ before after, trace = before ++ .CaptureRequested :: after →
    lower before → before.getLast? = some .SelectionConfirmed ∧ OwnFrame after
  /-- There is at most one. -/
  lower_once : ∀ before after before' after', trace = before ++ .CaptureRequested :: after →
    trace = before' ++ .CaptureRequested :: after' → lower before → lower before' →
    before = before'
  /-- Without one, stages never decrease. -/
  in_order : (∀ before after, trace = before ++ .CaptureRequested :: after → ¬ lower before) →
    InOrder (table trace) trace
  /-- With one, they never decrease up to it, nor from it on. -/
  in_order_around : ∀ before after, trace = before ++ .CaptureRequested :: after → lower before →
    InOrder (table before) before ∧ InOrder (table trace) (.CaptureRequested :: after)

/-! ## One more event -/

/-- The first of what is remembered is the last event. -/
theorem last_of_trace (trace : List PerfEventKind) :
    (trace.foldl anchor_step (none, none)).1 = trace.getLast? := by
  induction trace using List.reverseRecOn with
  | nil => rfl
  | append_singleton seen kind _ =>
    rw [List.foldl_append, List.getLast?_concat]
    rfl

/-- The next event anchors a table, leaves the capture-first one for the other, or changes
nothing. -/
theorem anchored_concat (seen : List PerfEventKind) (kind : PerfEventKind) :
    anchored (seen ++ [kind]) =
      if kind = .CaptureRequested ∧ seen.getLast? = some .SelectionConfirmed ∧
          anchored seen ≠ some .SelectionFirst then some .SelectionFirst
      else (anchored seen).or kind.establishes_order := by
  unfold anchored
  rw [List.foldl_append, ← last_of_trace]
  rfl

/-- The next event's rank is the stage reached. -/
theorem stage_concat (seen : List PerfEventKind) (kind : PerfEventKind) :
    stage (seen ++ [kind]) = rank (table (seen ++ [kind])) kind := by
  unfold stage
  rw [List.getLast?_concat]
  rfl

/-- A trace that has anchored nothing holds no event that would. -/
theorem establishes_of_anchored_eq_none {trace : List PerfEventKind}
    (none_eq : anchored trace = none) : ∀ kind ∈ trace, kind.establishes_order = none := by
  induction trace using List.reverseRecOn with
  | nil => simp
  | append_singleton seen kind ih =>
    rw [anchored_concat] at none_eq
    split at none_eq
    · cases none_eq
    · obtain ⟨seen_eq, kind_eq⟩ := Option.or_eq_none_iff.mp none_eq
      intro other member
      rcases List.mem_append.mp member with member | member
      · exact ih seen_eq other member
      · rw [List.mem_singleton.mp member]
        exact kind_eq

/-- Where a longer trace splits: at its last event, or before it. -/
theorem split_concat {seen before after : List PerfEventKind} {kind at_split : PerfEventKind}
    (split : seen ++ [kind] = before ++ at_split :: after) :
    (before = seen ∧ at_split = kind ∧ after = []) ∨
      ∃ after', after = after' ++ [kind] ∧ seen = before ++ at_split :: after' := by
  cases after using List.reverseRecOn with
  | nil =>
    obtain ⟨seen_eq, kind_eq⟩ := List.append_inj' split rfl
    cases kind_eq
    exact .inl ⟨seen_eq.symm, rfl, rfl⟩
  | append_singleton after' last =>
    rw [← List.cons_append, ← List.append_assoc] at split
    obtain ⟨seen_eq, kind_eq⟩ := List.append_inj' split rfl
    cases kind_eq
    exact .inr ⟨after', rfl, seen_eq⟩

/-- An event after which another does not come again is after every one of those. -/
theorem mem_after_of_not_mem_since {earlier since before after : List PerfEventKind}
    {a b : PerfEventKind} (split : earlier ++ a :: since = before ++ b :: after) (ne : a ≠ b)
    (fresh : b ∉ since) : a ∈ after := by
  rcases List.append_eq_append_iff.mp split with ⟨mid, before_eq, since_eq⟩ | ⟨mid, -, after_eq⟩
  · cases mid with
    | nil =>
      obtain ⟨same, -⟩ := List.cons.inj since_eq
      exact absurd same ne
    | cons head mid =>
      obtain ⟨-, since_eq⟩ := List.cons.inj since_eq
      exact absurd (since_eq ▸ by simp) fresh
  · cases mid with
    | nil =>
      obtain ⟨same, -⟩ := List.cons.inj after_eq
      exact absurd same.symm ne
    | cons head mid =>
      obtain ⟨-, after_eq⟩ := List.cons.inj after_eq
      exact after_eq ▸ by simp

/-- No event of a trace in order is ranked above its last. -/
theorem InOrder.le_last {order : CaptureOrder} {trace : List PerfEventKind} {last : PerfEventKind}
    (in_order : InOrder order trace) (last_eq : trace.getLast? = some last) :
    ∀ kind ∈ trace, rank order kind ≤ rank order last := by
  obtain ⟨seen, rfl⟩ := List.getLast?_eq_some_iff.mp last_eq
  intro kind member
  rcases List.mem_append.mp member with member | member
  · exact (List.pairwise_append.mp in_order).2.2 kind member last (by simp)
  · exact Nat.le_of_eq (by rw [List.mem_singleton.mp member])

/-- An event ranked no lower than the last keeps the order. -/
theorem InOrder.concat {order : CaptureOrder} {seen : List PerfEventKind} {kind : PerfEventKind}
    (in_order : InOrder order seen)
    (le : ∀ last, seen.getLast? = some last → rank order last ≤ rank order kind) :
    InOrder order (seen ++ [kind]) := by
  refine List.pairwise_append.mpr ⟨in_order, List.pairwise_singleton _ _, ?_⟩
  intro earlier member other other_eq
  rw [List.mem_singleton.mp other_eq]
  cases last_eq : seen.getLast? with
  | none =>
    rw [List.getLast?_eq_none_iff.mp last_eq] at member
    cases member
  | some last => exact Nat.le_trans (in_order.le_last last_eq earlier member) (le last last_eq)

/-- Up to the trigger, both tables rank alike. -/
theorem rank_of_early {kind : PerfEventKind} (early : rank .CaptureFirst kind ≤ 3)
    (other : kind.establishes_order = none) :
    rank .SelectionFirst kind = rank .CaptureFirst kind := by
  cases kind <;> first | rfl | exact absurd early (by decide) | cases other

/-! ## What the validator does with one event -/

/-- The validator moves a trace to the selection-first table. -/
def Reanchors (entry : OrderProgress) (kind : PerfEventKind) : Prop :=
  kind = .CaptureRequested ∧ entry.order ≠ some .SelectionFirst ∧
    entry.selection_confirmed = true ∧ entry.rank ≤ 8

/-- SRC: metrics.rs:240-242 -/
theorem anchor_eq (entry : OrderProgress) (kind : PerfEventKind) :
    entry.anchor kind = { entry with order := entry.order.or kind.establishes_order } := by
  unfold OrderProgress.anchor
  rcases entry with ⟨reached, ready, _ | order, confirmed⟩
  · rfl
  · rfl

/-- Where the validator changes the table it begins at the request's stage again. -/
theorem reanchor_of_reanchors {entry : OrderProgress} {kind : PerfEventKind}
    (reanchors : Reanchors entry kind) :
    (entry.anchor kind).reanchor kind = ⟨4, false, some .SelectionFirst, true⟩ := by
  obtain ⟨request, not_selection, confirmed, rank_le⟩ := reanchors
  rw [anchor_eq]
  rcases entry with ⟨reached, ready, order, confirmed'⟩
  simp only at not_selection confirmed rank_le
  subst request confirmed
  have capture_first : order.or (establishes_order .CaptureRequested) = some .CaptureFirst := by
    rcases order with _ | _ | _
    · rfl
    · rfl
    · exact absurd rfl not_selection
  simp only [capture_first]
  exact if_pos ⟨rfl, rfl, rfl, rank_le⟩

/-- Elsewhere the event anchors a table where none was. -/
theorem reanchor_of_not_reanchors {entry : OrderProgress} {kind : PerfEventKind}
    (reanchors : ¬ Reanchors entry kind) :
    (entry.anchor kind).reanchor kind =
      { entry with order := entry.order.or kind.establishes_order } := by
  rw [anchor_eq]
  unfold OrderProgress.reanchor
  refine if_neg ?_
  rintro ⟨request, capture_first, confirmed, rank_le⟩
  refine reanchors ⟨request, ?_, confirmed, rank_le⟩
  intro selection_first
  rw [selection_first] at capture_first
  cases capture_first

/-- **The step**, taken apart: an output needs a frame, and the event either re-anchors the
trace or is ranked in its table, where it may not come before the stage reached.
SRC: metrics.rs:233-291 -/
theorem advance_eq_ok {entry entry' : OrderProgress} {event : PerfEvent}
    (ok : advance entry event = .ok entry') :
    (event.kind.is_output = true → entry.cpu_frame_ready = true) ∧
    ((Reanchors entry event.kind ∧ entry' = ⟨5, false, some .SelectionFirst, true⟩) ∨
      (¬ Reanchors entry event.kind ∧
        entry.rank ≤ rank ((entry.order.or event.kind.establishes_order).getD .CaptureFirst)
          event.kind ∧
        entry' = ⟨rank ((entry.order.or event.kind.establishes_order).getD .CaptureFirst) event.kind,
          entry.cpu_frame_ready || event.kind == .CpuFrameReady,
          entry.order.or event.kind.establishes_order,
          entry.selection_confirmed || event.kind == .SelectionConfirmed⟩)) := by
  unfold advance at ok
  split at ok
  · cases ok
  · rename_i output
    refine ⟨fun is_output => by simpa [is_output] using output, ?_⟩
    by_cases reanchors : Reanchors entry event.kind
    · rw [reanchor_of_reanchors reanchors, reanchors.1] at ok
      exact .inl ⟨reanchors, (Except.ok.inj ok).symm⟩
    · rw [reanchor_of_not_reanchors reanchors] at ok
      simp only at ok
      split at ok
      · cases ok
      · rename_i le
        exact .inr ⟨reanchors, Nat.le_of_not_lt le, (Except.ok.inj ok).symm⟩

/-- A trace that has not anchored the selection-first table is ranked by the other. -/
theorem table_of_ne {trace : List PerfEventKind}
    (not_selection : anchored trace ≠ some .SelectionFirst) : table trace = .CaptureFirst := by
  unfold table
  cases order : anchored trace with
  | none => rfl
  | some order' =>
    cases order' with
    | CaptureFirst => rfl
    | SelectionFirst => exact absurd order not_selection

/-! ## The trace and what the validator remembers of it -/

/-- What the validator remembers is what the trace says. -/
structure Follows (trace : List PerfEventKind) (entry : OrderProgress) : Prop where
  order : entry.order = anchored trace
  rank : entry.rank = stage trace
  confirmed : entry.selection_confirmed = true ↔ .SelectionConfirmed ∈ trace
  late : entry.selection_confirmed = true → entry.order ≠ some .SelectionFirst → 8 ≤ entry.rank
  ready : entry.cpu_frame_ready = true →
    (∃ earlier since, trace = earlier ++ .CpuFrameReady :: since ∧ .CaptureRequested ∉ since) ∧
      PerfEventKind.rank (table trace) .CpuFrameReady ≤ entry.rank
  finished : .AttemptFinished ∈ trace → entry.rank = 16

/-- Before any event nothing is remembered. -/
theorem Follows.nil : Follows [] OrderProgress.initial where
  order := rfl
  rank := rfl
  confirmed := by simp [OrderProgress.initial]
  late := nofun
  ready := nofun
  finished := by simp

/-- A trace whose entry re-anchors has just confirmed a selection. -/
theorem Follows.confirmed_of_reanchors {trace : List PerfEventKind} {entry : OrderProgress}
    {kind : PerfEventKind} (follows : Follows trace entry) (reanchors : Reanchors entry kind) :
    trace.getLast? = some .SelectionConfirmed ∧ table trace = .CaptureFirst := by
  obtain ⟨-, not_selection, confirmed, rank_le⟩ := reanchors
  have rank_eq : entry.rank = 8 := Nat.le_antisymm rank_le (follows.late confirmed not_selection)
  have capture_first := table_of_ne (follows.order ▸ not_selection)
  refine ⟨?_, capture_first⟩
  have stage_eq := follows.rank.symm.trans rank_eq
  unfold stage at stage_eq
  rw [capture_first] at stage_eq
  cases last_eq : trace.getLast? with
  | none =>
    rw [last_eq] at stage_eq
    cases stage_eq
  | some last =>
    rw [last_eq] at stage_eq
    cases last <;> first | rfl | cases stage_eq

/-- A trace that ends in a confirmation re-anchors at the next request. -/
theorem Follows.reanchors_of_confirmed {trace : List PerfEventKind} {entry : OrderProgress}
    (follows : Follows trace entry) (last : trace.getLast? = some .SelectionConfirmed)
    (not_selection : anchored trace ≠ some .SelectionFirst) :
    Reanchors entry .CaptureRequested := by
  refine ⟨rfl, follows.order ▸ not_selection, ?_, ?_⟩
  · exact follows.confirmed.mpr (List.mem_of_getLast? last)
  · rw [follows.rank]
    unfold stage
    rw [last]
    rw [table_of_ne not_selection]
    exact Nat.le_refl 8

/-- What the validator then remembers as the table is what the trace has anchored. -/
theorem table_concat_of_not_reanchors {seen : List PerfEventKind} {entry : OrderProgress}
    {kind : PerfEventKind} (follows : Follows seen entry) (reanchors : ¬ Reanchors entry kind) :
    anchored (seen ++ [kind]) = entry.order.or kind.establishes_order := by
  rw [anchored_concat, if_neg, follows.order]
  rintro ⟨request, last, not_selection⟩
  subst request
  exact reanchors (follows.reanchors_of_confirmed last not_selection)

/-- Where it changes the table the trace anchors the selection-first one. -/
theorem table_concat_of_reanchors {seen : List PerfEventKind} {entry : OrderProgress}
    {kind : PerfEventKind} (follows : Follows seen entry) (reanchors : Reanchors entry kind) :
    anchored (seen ++ [kind]) = some .SelectionFirst := by
  rw [anchored_concat, if_pos]
  exact ⟨reanchors.1, (follows.confirmed_of_reanchors reanchors).1,
    follows.order ▸ reanchors.2.1⟩

/-- An event leaves the table alone, unless it starts a selection before any capture. -/
theorem table_kept {seen : List PerfEventKind} {entry : OrderProgress} {kind : PerfEventKind}
    (follows : Follows seen entry) (reanchors : ¬ Reanchors entry kind) :
    table (seen ++ [kind]) = table seen ∨
      (kind = .SelectionStarted ∧ anchored seen = none ∧
        table (seen ++ [kind]) = .SelectionFirst) := by
  have order := table_concat_of_not_reanchors follows reanchors
  unfold table
  rw [order, follows.order]
  cases anchored seen with
  | some order => exact .inl rfl
  | none => cases kind <;> first | exact .inl rfl | exact .inr ⟨rfl, rfl, rfl⟩

/-- A frame stays ready: no later request is ranked behind it. -/
theorem ready_kept {seen : List PerfEventKind} {entry : OrderProgress} {kind : PerfEventKind}
    (follows : Follows seen entry) (ready : entry.cpu_frame_ready = true)
    (reanchors : ¬ Reanchors entry kind) (le : entry.rank ≤ rank (table (seen ++ [kind])) kind) :
    (∃ earlier since, seen ++ [kind] = earlier ++ .CpuFrameReady :: since ∧
      .CaptureRequested ∉ since) ∧
      rank (table (seen ++ [kind])) .CpuFrameReady ≤ rank (table (seen ++ [kind])) kind := by
  obtain ⟨⟨earlier, since, split, fresh⟩, reached⟩ := follows.ready ready
  have ranks := Nat.le_trans reached le
  rcases table_kept follows reanchors with same | ⟨selection, unanchored, selection_first⟩
  · rw [same] at ranks ⊢
    refine ⟨⟨earlier, since ++ [kind], by rw [split]; simp, ?_⟩, ranks⟩
    intro request
    rcases List.mem_append.mp request with request | request
    · exact fresh request
    · rw [← List.mem_singleton.mp request] at ranks
      revert ranks
      cases table seen <;> decide
  · have capture_first : table seen = .CaptureFirst := by
      unfold table
      rw [unanchored]
      rfl
    rw [capture_first, selection_first, selection] at ranks
    exact absurd ranks (by decide)

/-- The end of an attempt is ranked highest. -/
theorem rank_le (order : CaptureOrder) (kind : PerfEventKind) : rank order kind ≤ 16 := by
  cases order <;> cases kind <;> decide

/-- It is ranked 16 in both tables. -/
theorem rank_finished (order : CaptureOrder) : rank order .AttemptFinished = 16 := by
  cases order <;> rfl

/-- Nothing else is ranked as high. -/
theorem finished_of_rank {order : CaptureOrder} {kind : PerfEventKind}
    (reached : 16 ≤ rank order kind) : kind = .AttemptFinished := by
  cases order <;> cases kind <;> first | rfl | exact absurd reached (by decide)

/-- **Step lemma**: after one more accepted event, what the validator remembers is still what
the trace says. -/
theorem Follows.concat {seen : List PerfEventKind} {entry entry' : OrderProgress}
    {event : PerfEvent} (follows : Follows seen entry) (ok : advance entry event = .ok entry') :
    Follows (seen ++ [event.kind]) entry' := by
  obtain ⟨-, ⟨reanchors, rfl⟩ | ⟨reanchors, le, rfl⟩⟩ := advance_eq_ok ok
  · have order := table_concat_of_reanchors follows reanchors
    have confirmed := reanchors.2.2.1
    refine ⟨order.symm, ?_, ?_, ?_, nofun, ?_⟩
    · rw [stage_concat]
      unfold table
      rw [order, reanchors.1]
      rfl
    · exact ⟨fun _ => List.mem_append_left _ (follows.confirmed.mp confirmed), fun _ => rfl⟩
    · intro _ not_selection
      exact absurd rfl not_selection
    · intro finished
      rw [reanchors.1] at finished
      have reached := follows.finished (by simpa using finished)
      have rank_le := reanchors.2.2.2
      omega
  · have order := table_concat_of_not_reanchors follows reanchors
    have table_eq : table (seen ++ [event.kind]) =
        (entry.order.or event.kind.establishes_order).getD .CaptureFirst := by
      unfold table
      rw [order]
    refine ⟨order.symm, ?_, ?_, ?_, ?_, ?_⟩
    · rw [stage_concat, table_eq]
    · simp only [Bool.or_eq_true, follows.confirmed, beq_iff_eq, List.mem_append,
        List.mem_singleton, eq_comm (a := event.kind)]
    · intro confirmed not_selection
      have keeps : entry.order ≠ some .SelectionFirst := by
        intro selection_first
        rw [selection_first] at not_selection
        exact not_selection rfl
      have capture_first := table_of_ne (order ▸ not_selection)
      simp only [← table_eq, capture_first] at le ⊢
      rcases Bool.or_eq_true_iff.mp confirmed with before | now
      · exact Nat.le_trans (follows.late before keeps) le
      · rw [beq_iff_eq.mp now]
        exact Nat.le_refl 8
    · intro ready
      simp only [← table_eq] at le ⊢
      rcases Bool.or_eq_true_iff.mp ready with before | now
      · exact ready_kept follows before reanchors le
      · rw [beq_iff_eq.mp now]
        exact ⟨⟨seen, [], rfl, by simp⟩, Nat.le_refl _⟩
    · intro finished
      rcases List.mem_append.mp finished with before | now
      · exact Nat.le_antisymm (rank_le _ _) (follows.finished before ▸ le)
      · rw [← List.mem_singleton.mp now]
        exact rank_finished _

/-! ## Safety -/

/-- A trace that has had a request at a lower stage is in the selection-first table. -/
def LowerAnchors (trace : List PerfEventKind) : Prop :=
  ∀ before after, trace = before ++ .CaptureRequested :: after → lower before →
    anchored trace = some .SelectionFirst

/-- An accepted request is at a lower stage exactly when it re-anchors the trace. -/
theorem lower_iff_reanchors {seen : List PerfEventKind} {entry entry' : OrderProgress}
    {event : PerfEvent} (follows : Follows seen entry) (ok : advance entry event = .ok entry')
    (request : event.kind = .CaptureRequested) : lower seen ↔ Reanchors entry event.kind := by
  unfold lower
  rw [← follows.rank]
  constructor
  · intro below
    obtain ⟨-, ⟨reanchors, -⟩ | ⟨reanchors, le, -⟩⟩ := advance_eq_ok ok
    · exact reanchors
    · have order := table_concat_of_not_reanchors follows reanchors
      rcases table_kept follows reanchors with same | ⟨selection, -⟩
      · have table_eq : table (seen ++ [event.kind]) =
            (entry.order.or event.kind.establishes_order).getD .CaptureFirst := by
          unfold table
          rw [order]
        rw [← table_eq, same, request] at le
        omega
      · rw [request] at selection
        cases selection
  · intro reanchors
    have late := follows.late reanchors.2.2.1 reanchors.2.1
    rw [(follows.confirmed_of_reanchors reanchors).2]
    exact Nat.lt_of_lt_of_le (by decide) late

/-- An accepted event keeps the traces with a lower request in the selection-first table. -/
theorem LowerAnchors.concat {seen : List PerfEventKind} {entry entry' : OrderProgress}
    {event : PerfEvent} (follows : Follows seen entry) (ok : advance entry event = .ok entry')
    (anchors : LowerAnchors seen) : LowerAnchors (seen ++ [event.kind]) := by
  intro before after split below
  rcases split_concat split with ⟨rfl, request, -⟩ | ⟨after', -, split'⟩
  · have reanchors := (lower_iff_reanchors follows ok request.symm).mp below
    exact table_concat_of_reanchors follows reanchors
  · have selection_first := anchors before after' split' below
    rw [anchored_concat, if_neg, selection_first]
    · rfl
    · exact fun h => h.2.2 selection_first

/-- Stages in the table of a trace that does not re-anchor. -/
theorem in_order_concat {seen : List PerfEventKind} {entry entry' : OrderProgress}
    {event : PerfEvent} (follows : Follows seen entry) (ok : advance entry event = .ok entry')
    (reanchors : ¬ Reanchors entry event.kind) (in_order : InOrder (table seen) seen) :
    InOrder (table (seen ++ [event.kind])) (seen ++ [event.kind]) := by
  obtain ⟨-, ⟨reanchors', -⟩ | ⟨-, le, -⟩⟩ := advance_eq_ok ok
  · exact absurd reanchors' reanchors
  · have table_eq : table (seen ++ [event.kind]) =
        (entry.order.or event.kind.establishes_order).getD .CaptureFirst := by
      unfold table
      rw [table_concat_of_not_reanchors follows reanchors]
    rw [← table_eq, follows.rank] at le
    rcases table_kept follows reanchors with same | ⟨selection, unanchored, selection_first⟩
    · rw [same] at le ⊢
      refine in_order.concat ?_
      intro last last_eq
      unfold stage at le
      rwa [last_eq] at le
    · -- the selection starts before any capture: the events so far rank alike in both tables
      have capture_first : table seen = .CaptureFirst := by
        unfold table
        rw [unanchored]
        rfl
      rw [selection_first] at le ⊢
      rw [selection] at le ⊢
      rw [capture_first] at in_order
      have early : ∀ kind ∈ seen,
          rank .SelectionFirst kind = rank .CaptureFirst kind ∧ rank .CaptureFirst kind ≤ 3 := by
        intro kind member
        have reached : rank .CaptureFirst kind ≤ 3 := by
          cases last_eq : seen.getLast? with
          | none =>
            rw [List.getLast?_eq_none_iff.mp last_eq] at member
            cases member
          | some last =>
            unfold stage at le
            rw [last_eq, capture_first] at le
            exact Nat.le_trans (in_order.le_last last_eq kind member) le
        exact ⟨rank_of_early reached (establishes_of_anchored_eq_none unanchored kind member),
          reached⟩
      refine InOrder.concat ?_ ?_
      · refine List.Pairwise.imp_of_mem ?_ in_order
        intro a b member_a member_b le_ab
        rw [(early a member_a).1, (early b member_b).1]
        exact le_ab
      · intro last last_eq
        have member := List.mem_of_getLast? last_eq
        rw [(early last member).1]
        exact (early last member).2

/-- **Step lemma**: an accepted event keeps a safe trace safe. -/
theorem Safe.concat {seen : List PerfEventKind} {entry entry' : OrderProgress}
    {event : PerfEvent} (follows : Follows seen entry) (anchors : LowerAnchors seen)
    (safe : Safe seen) (ok : advance entry event = .ok entry') : Safe (seen ++ [event.kind]) := by
  obtain ⟨ready, stepped⟩ := advance_eq_ok ok
  refine ⟨?_, ?_, ?_, ?_, ?_, ?_⟩
  · intro before output rest split is_output
    rcases split_concat split with ⟨rfl, rfl, -⟩ | ⟨rest', -, split'⟩
    · exact (follows.ready (ready is_output)).1
    · exact safe.frame_before_output before output rest' split' is_output
  · intro before after split kind member
    rcases split_concat split with ⟨-, -, rfl⟩ | ⟨after', rfl, split'⟩
    · cases member
    · rcases List.mem_append.mp member with member | member
      · exact safe.finished_is_final before after' split' kind member
      · rw [List.mem_singleton.mp member]
        have finished := follows.finished (split' ▸ by simp)
        rcases stepped with ⟨reanchors, -⟩ | ⟨-, le, -⟩
        · have rank_le := reanchors.2.2.2
          omega
        · exact finished_of_rank (finished ▸ le)
  · intro before after split below
    rcases split_concat split with ⟨rfl, request, rfl⟩ | ⟨after', rfl, split'⟩
    · have reanchors := (lower_iff_reanchors follows ok request.symm).mp below
      refine ⟨(follows.confirmed_of_reanchors reanchors).1, ?_⟩
      intro earlier output rest nil_eq
      simp at nil_eq
    · obtain ⟨confirmed, own⟩ := safe.lower_after_confirmation before after' split' below
      refine ⟨confirmed, ?_⟩
      intro earlier output rest own_split is_output
      rcases split_concat own_split with ⟨rfl, rfl, -⟩ | ⟨rest', -, own_split'⟩
      · obtain ⟨⟨earlier', since, frame_split, fresh⟩, -⟩ := follows.ready (ready is_output)
        exact mem_after_of_not_mem_since (frame_split.symm.trans split') (by decide) fresh
      · exact own earlier output rest' own_split' is_output
  · intro before after before' after' split split' below below'
    rcases split_concat split with ⟨rfl, request, -⟩ | ⟨rest, -, old⟩
    · rcases split_concat split' with ⟨rfl, -, -⟩ | ⟨rest', -, old'⟩
      · rfl
      · have reanchors := (lower_iff_reanchors follows ok request.symm).mp below
        exact absurd (follows.order.trans (anchors before' rest' old' below')) reanchors.2.1
    · rcases split_concat split' with ⟨rfl, request, -⟩ | ⟨rest', -, old'⟩
      · have reanchors := (lower_iff_reanchors follows ok request.symm).mp below'
        exact absurd (follows.order.trans (anchors before rest old below)) reanchors.2.1
      · exact safe.lower_once before rest before' rest' old old' below below'
  · intro never
    have reanchors : ¬ Reanchors entry event.kind := by
      intro reanchors
      have request := reanchors.1
      exact never seen [] (by rw [request]) ((lower_iff_reanchors follows ok request).mpr reanchors)
    refine in_order_concat follows ok reanchors (safe.in_order ?_)
    intro before after split
    exact never before (after ++ [event.kind]) (by rw [split]; simp)
  · intro before after split below
    rcases split_concat split with ⟨rfl, request, rfl⟩ | ⟨after', rfl, split'⟩
    · refine ⟨safe.in_order ?_, List.pairwise_singleton _ _⟩
      intro before' after' split' below'
      have reanchors := (lower_iff_reanchors follows ok request.symm).mp below
      exact absurd (follows.order.trans (anchors before' after' split' below')) reanchors.2.1
    · obtain ⟨up_to, from_on⟩ := safe.in_order_around before after' split' below
      refine ⟨up_to, ?_⟩
      have selection_first := anchors before after' split' below
      have table_seen : table seen = .SelectionFirst := by
        unfold table
        rw [selection_first]
        rfl
      have order := follows.order.trans selection_first
      rcases stepped with ⟨reanchors, -⟩ | ⟨reanchors, le, -⟩
      · exact absurd order reanchors.2.1
      · have table_eq : table (seen ++ [event.kind]) = .SelectionFirst := by
          unfold table
          rw [table_concat_of_not_reanchors follows reanchors, order]
          rfl
        rw [table_eq]
        rw [table_seen] at from_on
        rw [order] at le
        refine from_on.concat ?_
        intro last last_eq
        have last_seen : seen.getLast? = some last := by
          rw [split', List.getLast?_append_of_ne_nil _ (by simp)]
          exact last_eq
        rw [follows.rank] at le
        unfold stage at le
        rw [last_seen, table_seen] at le
        exact le

/-- A trace of nothing keeps the rules. -/
theorem Safe.nil : Safe [] := by
  constructor <;> simp [InOrder]

/-! ## One capture at a time -/

/-- What is remembered of one capture does not depend on the others. -/
theorem entry_insert (state : OrderState) (capture_id : CaptureId) (entry : OrderProgress)
    (other : CaptureId) : OrderState.entry (Std.ExtTreeMap.insert state capture_id entry) other =
      if capture_id = other then entry else OrderState.entry state other := by
  simp only [OrderState.entry, Std.ExtTreeMap.getD_insert, Std.LawfulEqCmp.compare_eq_iff_eq]

/-- A list is accepted exactly where each of its events is, in turn. -/
theorem validate_event_order_eq_ok_iff (events : List PerfEvent) :
    validate_event_order events = .ok () ↔
      ∃ state, events.foldlM (fun (state : OrderState) event =>
        (advance (OrderState.entry state event.capture_id) event).map
          (Std.ExtTreeMap.insert state event.capture_id)) ∅ = .ok state := by
  unfold validate_event_order
  generalize events.foldlM (fun (state : OrderState) event =>
    (advance (OrderState.entry state event.capture_id) event).map
      (Std.ExtTreeMap.insert state event.capture_id)) ∅ = walked
  cases walked with
  | error error => exact ⟨nofun, nofun⟩
  | ok state => exact ⟨fun _ => ⟨state, rfl⟩, fun _ => rfl⟩

/-- A trace is accepted exactly where the walk over each capture's events goes through. -/
theorem accepted_iff_walks (events : List PerfEvent) :
    validate_event_order events = .ok () ↔
      ∀ capture_id, ∃ entry, (events.filter fun event => event.capture_id = capture_id).foldlM
        advance OrderProgress.initial = .ok entry := by
  rw [validate_event_order_eq_ok_iff]
  exact foldlM_keyed_accepts_iff OrderState.entry (fun state => Std.ExtTreeMap.insert state)
    entry_insert PerfEvent.capture_id advance events ∅

/-- So are the events of each capture in an accepted list. -/
theorem entry_of_accepted {events : List PerfEvent} (accepted : validate_event_order events = .ok ())
    (capture_id : CaptureId) : ∃ entry,
      (events.filter fun event => event.capture_id = capture_id).foldlM advance
        OrderProgress.initial = .ok entry :=
  (accepted_iff_walks events).mp accepted capture_id

/-- The events of one capture, looked at for another. -/
theorem filter_capture_filter (events : List PerfEvent) (capture_id other : CaptureId) :
    (events.filter fun event => event.capture_id = capture_id).filter
        (fun event => event.capture_id = other) =
      if capture_id = other then events.filter fun event => event.capture_id = capture_id
      else [] := by
  rw [List.filter_filter]
  split
  · rename_i same
    subst same
    simp
  · rename_i differs
    apply List.filter_eq_nil_iff.mpr
    intro event _ both
    simp only [Bool.and_eq_true, decide_eq_true_eq] at both
    exact differs (both.2.symm.trans both.1)

/-- **The check is one for each capture**: a list of events is accepted exactly where the events
of every capture in it are, and so two lists that hold the same events of each capture, however
they are interleaved, are accepted or rejected alike.
SRC: metrics.rs:231-293 -/
theorem validate_event_order_per_capture (events : List PerfEvent) :
    (validate_event_order events = .ok () ↔
      ∀ capture_id, validate_event_order
        (events.filter fun event => event.capture_id = capture_id) = .ok ()) ∧
    ∀ interleaved : List PerfEvent,
      (∀ capture_id, (interleaved.filter fun event => event.capture_id = capture_id) =
        events.filter fun event => event.capture_id = capture_id) →
      (validate_event_order interleaved = .ok () ↔ validate_event_order events = .ok ()) := by
  constructor
  · rw [accepted_iff_walks]
    constructor
    · intro walks capture_id
      rw [accepted_iff_walks]
      intro other
      rw [filter_capture_filter]
      split
      · exact walks capture_id
      · exact ⟨OrderProgress.initial, rfl⟩
    · intro accepted capture_id
      obtain ⟨entry, walks⟩ := entry_of_accepted (accepted capture_id) capture_id
      rw [filter_capture_filter, if_pos rfl] at walks
      exact ⟨entry, walks⟩
  · intro interleaved same
    rw [accepted_iff_walks, accepted_iff_walks]
    constructor
    · intro walks capture_id
      rw [← same]
      exact walks capture_id
    · intro walks capture_id
      rw [same]
      exact walks capture_id

/-- A trigger before another capture's request, and between it and its end. -/
theorem validate_event_order_per_capture_two :
    validate_event_order [⟨1, .CaptureRequested⟩, ⟨2, .HotkeyReceived⟩, ⟨1, .AttemptFinished⟩] =
      .ok () := by
  apply ((validate_event_order_per_capture
    [⟨2, .HotkeyReceived⟩, ⟨1, .CaptureRequested⟩, ⟨1, .AttemptFinished⟩]).2 _ ?_).mpr rfl
  intro capture_id
  by_cases first : 1 = capture_id
  · subst first
    rfl
  · by_cases second : 2 = capture_id
    · subst second
      rfl
    · simp [first, second]

/-- **An accepted trace is safe**: in every event list the validator accepts, for every
capture in it, outputs follow a frame of their own request, nothing follows the end of the
attempt, and stages never decrease, but for at most one request, directly after a
confirmation, that outputs after it follow a frame of.
SRC: metrics.rs:231-293 -/
theorem validate_event_order_safe (events : List PerfEvent)
    (accepted : validate_event_order events = .ok ()) (capture_id : CaptureId) :
    Safe (events_of capture_id events) := by
  obtain ⟨entry, ran⟩ := entry_of_accepted accepted capture_id
  have run := foldlM_trace
    (fun seen entry => Follows (seen.map PerfEvent.kind) entry ∧
      LowerAnchors (seen.map PerfEvent.kind) ∧ Safe (seen.map PerfEvent.kind))
    advance OrderProgress.initial ⟨Follows.nil, by simp [LowerAnchors], Safe.nil⟩
    (fun seen entry event entry' ih ok => by
      obtain ⟨follows, anchors, safe⟩ := ih
      rw [List.map_append]
      exact ⟨follows.concat ok, anchors.concat follows ok, safe.concat follows anchors ok⟩)
    _ entry ran
  exact run.2.2

/-- A capture at the hotkey, selected from, and a second capture at the confirmation.
SRC: metrics.rs:381-397 -/
def snapshot_trace : List PerfEvent :=
  [.HotkeyReceived, .TriggerEnqueued, .TriggerDequeued, .CaptureRequested, .NativeFrameReady,
    .ReadbackStarted, .CpuFrameReady, .SelectionStarted, .SelectionConfirmed, .CaptureRequested,
    .NativeFrameReady, .ReadbackStarted, .CpuFrameReady, .CropFinished, .ClipboardStarted,
    .ClipboardCommitted, .AttemptFinished].map fun kind => ⟨1, kind⟩

/-- The trace of the example keeps the rules. -/
theorem snapshot_trace_safe : Safe (events_of 1 snapshot_trace) :=
  validate_event_order_safe snapshot_trace rfl 1

end Captastic.Analysis
