import Captastic.Analysis.FrameDelivery

/-!
# A frame called current

A capture calls its frame current when a probe found nothing pending.  That proves it only when
no image was ever acquired and lost while another was retained.
-/

set_option autoImplicit false

namespace Captastic.Analysis

open Captastic.Library Captastic.Model

/-! ## Captures -/

/-- What holds when a capture returns a frame. -/
structure Captured (request : CaptureRequest) (calls : CaptureCalls) (outcome : CaptureOutcome)
    (w : World) : Prop where
  books : Accounted w
  delivers : Delivers request calls outcome w
  verified : outcome.metadata.verified_current_offset_ns.isSome = true →
    w.desktop.pending = false ∧ w.backend.latest.isSome = true

/-- SRC: dxgi.rs:804-905 -/
theorem capture_latest_spec (request : CaptureRequest) (max_age_ms : Option Nat)
    (calls : CaptureCalls) :
    Triple Accounted (capture_latest request max_age_ms calls)
      (Post (fun outcome w => Captured request calls outcome w) (fun _ w => Accounted w)) := by
  unfold capture_latest
  refine Triple.bind refresh_latest_on_demand_spec ?_ (fun fault w books => books)
  intro verified
  refine Triple.bind_read ?_
  intro read
  refine Triple.bind (Triple.lift (Q := Post (fun latest w => ((Accounted w ∧ (verified = true →
    w.desktop.pending = false ∧ w.backend.latest.isSome = true)) ∧ read = w) ∧
    read.backend.latest = some latest) fun _ w => Accounted w) ?_) ?_ (fun fault w books => books)
  · intro w holds
    cases latest : read.backend.latest with
    | none => exact holds.1.1
    | some latest => exact ⟨holds, rfl⟩
  · intro latest
    refine Triple.of_fact ?_
    intro latest_eq
    refine Triple.bind (Triple.lift (Q := Post (fun anchor w => ((Accounted w ∧ (verified = true →
      w.desktop.pending = false ∧ w.backend.latest.isSome = true)) ∧ read = w) ∧
      calls.latest_anchor = .ok anchor) fun _ w => Accounted w) ?_) ?_ (fun fault w books => books)
    · intro w holds
      cases calls.latest_anchor with
      | error error => exact holds.1.1
      | ok anchor => exact ⟨holds, rfl⟩
    · intro anchor
      refine Triple.of_fact ?_
      intro anchored
      dsimp only
      refine Triple.ite (fun _ => ?_) (fun _ => ?_)
      · exact Triple.lift fun w holds => holds.1.1
      · refine (deliver_spec (P := fun w => (Accounted w ∧ (verified = true →
          w.desktop.pending = false ∧ w.backend.latest.isSome = true)) ∧ read = w)
          (retained_pointer_decides request.cursor latest ?_) rfl ?_ ?_).post ?_
        · rintro w ⟨-, rfl⟩
          exact latest_eq
        · rintro w ⟨-, rfl⟩
          rfl
        · rintro w ⟨-, rfl⟩
          exact ⟨latest, anchor, latest_eq, .inl anchored, rfl, rfl⟩
        · intro result w post
          cases result with
          | error fault => exact post.1.1
          | ok outcome =>
            obtain ⟨⟨⟨books, current⟩, -⟩, delivers, verified_eq⟩ := post
            refine ⟨books, delivers, ?_⟩
            intro marked
            rw [verified_eq] at marked
            cases verified with
            | false => cases marked
            | true => exact current rfl

/-- SRC: dxgi.rs:665-797 -/
theorem fresh_image_spec {request : CaptureRequest} {calls : CaptureCalls} {anchor : Anchor}
    {timeout_ms : Nat} (fresh : request.mode = .Fresh timeout_ms)
    (anchored : calls.fresh_anchor = .ok anchor) (round : Round) (acquired : AcquiredFrame) :
    Triple (fun w => (acquired.last_present_time = 0 ∧ Accounted w) ∨ ∃ d rest,
        (Acquiring round (some anchor) acquired d rest w ∧ Absorbed acquired w.backend.pointer) ∧
          (acquired.shape.isNone || round.read_shape.isNone) = true)
      (fresh_image request calls anchor round acquired)
      (Post (fun again w => match again with
          | none => Accounted w
          | some outcome => Captured request calls outcome w)
        (fun _ w => Accounted w)) := by
  unfold fresh_image
  refine Triple.of_or ?_ (Triple.of_exists fun d => Triple.of_exists fun rest => ?_)
  · refine Triple.bind_read ?_
    rintro read w result w' ⟨⟨no_time, books⟩, -⟩ ran
    dsimp only at ran
    rw [if_pos (Or.inl no_time)] at ran
    refine Triple.bind (P := Accounted) (R := Post (fun again w => match again with
          | none => Accounted w
          | some outcome => Captured request calls outcome w)
        (fun _ w => Accounted w)) (check_spec round.release) ?_ (fun fault w post => post.1) w
        result w' books ran
    intro _
    exact Triple.pure fun w holds => holds.1
  · refine Triple.bind_read ?_
    rintro read w result w' ⟨⟨⟨acquiring, absorbed⟩, shape_read⟩, rfl⟩ ran
    dsimp only at ran
    have kept_eq := acquiring.kept_eq
    have time_ne : acquired.last_present_time ≠ 0 := by
      rw [acquiring.time]
      exact d.presentation.time_ne_zero
    rw [shape_read, Bool.true_and] at kept_eq
    by_cases early : presentation_offset_ns anchor read.backend.qpc_frequency
        acquired.last_present_time < 0
    · rw [if_pos (Or.inr early)] at ran
      have rejected : taken_on (some anchor) read.backend.qpc_frequency acquired.last_present_time
          (acquired.shape.isNone || round.read_shape_again.isNone) = false := by
        unfold taken_on
        simp only
        rw [decide_eq_false_iff_not]
        omega
      rw [rejected, Bool.false_and, Bool.false_and, Bool.false_and] at kept_eq
      refine Triple.bind (P := Accounted) (R := Post (fun again w => match again with
            | none => Accounted w
            | some outcome => Captured request calls outcome w)
          (fun _ w => Accounted w)) (check_spec round.release) ?_ (fun fault w post => post.1) read
          result w' (acquiring.lost kept_eq) ran
      intro _
      exact Triple.pure fun w holds => holds.1
    · have not_skipped : ¬ (acquired.last_present_time = 0 ∨ presentation_offset_ns anchor
          read.backend.qpc_frequency acquired.last_present_time < 0) := by
        rintro (no_time | before)
        · exact time_ne no_time
        · exact early before
      rw [if_neg not_skipped] at ran
      have accepted : taken_on (some anchor) read.backend.qpc_frequency acquired.last_present_time
          (acquired.shape.isNone || round.read_shape_again.isNone) = true := by
        unfold taken_on
        simp only
        rw [decide_eq_true_iff]
        omega
      rw [accepted, Bool.true_and] at kept_eq
      have start : Acquiring round (some anchor) acquired d rest read ∧
          (Absorbed acquired read.backend.pointer ∧ read.backend.qpc_frequency =
            read.backend.qpc_frequency) := ⟨acquiring, absorbed, rfl⟩
      refine Triple.bind (P := fun w => Acquiring round (some anchor) acquired d rest w ∧
          (Absorbed acquired w.backend.pointer ∧ w.backend.qpc_frequency =
            read.backend.qpc_frequency)) (R := Post (fun again w => match again with
          | none => Accounted w
          | some outcome => Captured request calls outcome w) (fun _ w => Accounted w))
        (check_spec round.cast) ?_ ?_ read result w' start ran
      · intro _
        refine Triple.of_fact ?_
        intro cast_ok
        rw [cast_ok, Option.isNone_none, Bool.true_and] at kept_eq
        refine Triple.ite (fun empty => ?_) (fun not_empty => ?_)
        · refine Triple.lift ?_
          rintro w ⟨acquiring, -⟩
          have no_sides : decide (acquired.resource.width ≠ 0 ∧ acquired.resource.height ≠ 0) =
              false := by
            rw [decide_eq_false_iff_not]
            omega
          rw [no_sides, Bool.false_and] at kept_eq
          exact acquiring.lost kept_eq
        · have sides : decide (acquired.resource.width ≠ 0 ∧ acquired.resource.height ≠ 0) =
              true := by
            rw [decide_eq_true_iff]
            omega
          rw [sides, Bool.true_and] at kept_eq
          refine Triple.bind (store_reported_position_spec acquired ?_) ?_
            (fun fault w impossible => impossible.elim)
          · rintro w position reported ⟨acquiring, absorbed, frequency⟩
            have same : w.backend.pointer.store_position position = w.backend.pointer := by
              unfold PointerCache.store_position
              rw [← absorbed.position position reported]
            rw [same]
            exact ⟨acquiring, absorbed, frequency⟩
          · intro _
            refine Triple.bind_read ?_
            intro before
            rintro w result w' ⟨⟨⟨acquiring, absorbed, frequency⟩, -⟩, rfl⟩ ran
            refine Triple.bind (P := fun w => Acquiring round (some anchor) acquired d rest w ∧
                Untouched before.backend w) (R := Post (fun again w => match again with
                | none => Accounted w
                | some outcome => Captured request calls outcome w) (fun _ w => Accounted w))
              (retain_frame_spec (some anchor) rest before.backend _ kept_eq) ?_
              (fun fault w idle => idle.1) before result w' ⟨acquiring, rfl, rfl⟩ ran
            intro generation
            refine Triple.bind_read ?_
            intro after
            refine Triple.bind (Triple.pre (deliver_spec (P := JustRetained acquired
              before.backend.pointer.visible_at read.backend.qpc_frequency generation)
              (pointer_for_decides request.cursor round.read_shape_again) rfl ?_ ?_) ?_) ?_
              (fun fault w post => post.retains.books)
            · intro w just
              exact just.retains.image_eq
            · intro w just
              obtain ⟨number, latest_eq⟩ := just.retains.latest_eq
              refine ⟨_, anchor, latest_eq,
                .inr ⟨⟨timeout_ms, fresh⟩, anchored, rfl, _, rfl, Int.not_lt.mp early⟩, ?_, ?_⟩
              · simp only
                rw [just.generation_eq, latest_eq]
                rfl
              · rw [just.frequency_eq]
            · rintro w ⟨⟨⟨retains, same_cache, same_frequency⟩, generation_eq⟩, -⟩
              refine ⟨retains, ?_, ?_, ?_, generation_eq⟩
              · rw [same_cache]
                exact absorbed
              · rw [same_cache]
              · rw [same_frequency, frequency]
            · intro outcome
              refine Triple.pure ?_
              rintro w ⟨just, delivers, verified⟩
              refine ⟨just.retains.books, delivers, ?_⟩
              intro marked
              rw [verified] at marked
              cases marked
      · rintro fault w ⟨⟨acquiring, -⟩, failed⟩
        have cast_failed : round.cast.isNone = false := by
          rw [← Option.not_isSome, failed]
          rfl
        rw [cast_failed, Bool.false_and, Bool.false_and] at kept_eq
        exact acquiring.lost kept_eq

/-- SRC: dxgi.rs:639-798 -/
theorem fresh_round_spec {request : CaptureRequest} {calls : CaptureCalls} {anchor : Anchor}
    {timeout_ms : Nat} (fresh : request.mode = .Fresh timeout_ms)
    (anchored : calls.fresh_anchor = .ok anchor) :
    Triple Accounted (fresh_round request calls anchor) (Post (fun again w => match again with
        | none => Accounted w
        | some outcome => Captured request calls outcome w) (fun _ w => Accounted w)) := by
  unfold fresh_round
  refine Triple.bind next_round_spec ?_ (fun fault w books => books)
  intro round
  refine Triple.ite (fun late => ?_) (fun in_time => ?_)
  · refine Triple.bind (Triple.attempt refresh_latest_on_demand_spec
      (R := fun _ w => Accounted w) ?_) ?_ (fun fault w books => books)
    · intro result w post
      cases result with
      | ok current => exact post.1
      | error fault => exact post
    · intro probe
      refine Triple.bind (Q := fun _ w => Accounted w) ?_ ?_ (fun fault w books => books)
      · unfold unwrap_or_false
        cases probe with
        | ok current => exact Triple.pure fun w books => books
        | error fault =>
          cases fault with
          | stopped => exact Triple.lift fun w books => books
          | error error => exact Triple.pure fun w books => books
      · intro current
        refine Triple.ite (fun _ => ?_) (fun _ => Triple.lift fun w books => books)
        refine Triple.bind (capture_latest_spec request none calls) ?_ (fun fault w books => books)
        intro outcome
        exact Triple.pure fun w captured => captured
  · refine Triple.bind (acquire_spec round (some anchor)) ?_ (fun fault w post => post.1)
    intro acquired
    refine Triple.of_or ?_ (Triple.of_exists fun d => Triple.of_exists fun rest => ?_)
    · refine Triple.bind (record_pointer_report_spec ?_ acquired round.read_shape) ?_ ?_
      · rintro w pointer ⟨no_time, idle, books⟩
        exact ⟨no_time, idle, pointer_free_accounted w pointer books⟩
      · intro _
        refine (fresh_image_spec fresh anchored round acquired).pre ?_
        rintro w ⟨⟨⟨no_time, -, books⟩, -⟩, -⟩
        exact Or.inl ⟨no_time, books⟩
      · rintro fault w ⟨⟨-, -, books⟩, -⟩
        exact books
    · refine Triple.bind (record_pointer_report_spec
        (pointer_free_acquiring round (some anchor) acquired d rest) acquired round.read_shape)
        ?_ ?_
      · intro _
        refine (fresh_image_spec fresh anchored round acquired).pre ?_
        exact fun w holds => Or.inr ⟨d, rest, holds⟩
      · rintro fault w ⟨acquiring, failed⟩
        refine acquiring.lost ?_
        rw [acquiring.kept_eq, failed]
        rfl

/-- **Every capture keeps the books**, and delivers the image they name.
SRC: dxgi.rs:604-799 -/
theorem capture_spec (request : CaptureRequest) (calls : CaptureCalls) :
    Triple Accounted (capture request calls)
      (Post (fun outcome w => Captured request calls outcome w) (fun _ w => Accounted w)) := by
  unfold capture check_display_configuration check_source
  refine Triple.bind_update (S := Accounted) ?_ ?_
  · exact fun w books => ⟨books.has_newest, books.newest, books.latest, books.image, books.first⟩
  · refine Triple.bind (Q := fun _ w => Accounted w) ?_ ?_ (fun fault w books => books)
    · refine Triple.bind_read fun read => ?_
      exact ((check_spec _).pre fun w holds => holds.1).post fun result w post => by
        cases result with
        | ok _ => exact post.1
        | error fault => exact post.1
    · intro _
      refine Triple.bind (Q := fun _ w => Accounted w) ?_ ?_ (fun fault w books => books)
      · refine Triple.bind_read fun read => ?_
        exact ((check_spec _).pre fun w holds => holds.1).post fun result w post => by
          cases result with
          | ok _ => exact post.1
          | error fault => exact post.1
      · intro _
        split
        · exact capture_latest_spec request _ calls
        · rename_i timeout_ms fresh
          refine Triple.bind (Triple.lift (Q := Post (fun anchor w => Accounted w ∧
            calls.fresh_anchor = .ok anchor) fun _ w => Accounted w) ?_) ?_
            (fun fault w books => books)
          · intro w books
            cases calls.fresh_anchor with
            | error error => exact books
            | ok anchor => exact ⟨books, rfl⟩
          intro anchor
          refine Triple.of_fact ?_
          intro anchored
          refine Triple.ite (fun _ => Triple.lift fun w books => books) (fun _ => ?_)
          refine Triple.loop _ ((fresh_round_spec fresh anchored).post ?_)
          intro result w post
          cases result with
          | error fault => exact post
          | ok again =>
            cases again with
            | none => exact post
            | some outcome => exact post

/-! ## Runs -/

/-- A new backend: nothing was delivered, and the desktop's image is still to be delivered. -/
structure Start (w : World) : Prop where
  deliveries : w.deliveries = []
  latest : w.backend.latest = none
  pending : w.desktop.pending = w.desktop.newest.isSome

/-- The states between the calls of one backend, whatever the desktop does before, between and
during them. -/
inductive Reachable : World → Prop where
  | start {w : World} : Start w → Reachable w
  | event {w : World} (event : DesktopEvent) :
    Reachable w → Reachable { w with desktop := w.desktop.after event }
  | call {w w' : World} {request : CaptureRequest} {calls : CaptureCalls}
    {result : Except (Fault CaptureError) CaptureOutcome} :
    Reachable w → capture request calls w = some (result, w') → Reachable w'

/-- A world that has just started accounts for its image. -/
theorem accounted_of_start {w : World} (start : Start w) : Accounted w := by
  obtain ⟨deliveries, latest, pending⟩ := start
  refine ⟨?_, ?_, ?_, ?_, ?_⟩
  · intro held
    rw [← pending, held]
  · intro idle
    rw [pending] at idle
    rw [deliveries]
    exact Option.isNone_iff_eq_none.mp (by rw [← Option.not_isSome, idle]; rfl)
  · rw [latest, deliveries]
    rfl
  · intro d head
    rw [deliveries] at head
    cases head
  · intro d rest same
    rw [deliveries] at same
    cases same

/-- **The books are kept over every run.** -/
theorem accounted_of_reachable {w : World} (reached : Reachable w) : Accounted w := by
  induction reached with
  | start start => exact accounted_of_start start
  | event event _ books => exact accounted_after books event
  | @call w w' request calls result _ ran books =>
    have post := capture_spec request calls w result w' books ran
    cases result with
    | ok outcome => exact post.books
    | error fault => exact post

/-! ## What a returned frame claims -/

/-- The retained image is the one most recently presented. -/
def RetainsNewest (w : World) : Prop :=
  ∃ presentation latest, w.desktop.newest = some presentation ∧ w.backend.latest = some latest ∧
    w.backend.retained = presentation.image ∧ latest.presentation_qpc = presentation.time

/-- The last image that the desktop delivered was kept. -/
def LastKept (w : World) : Prop :=
  ∀ d, w.deliveries.head? = some d → Delivery.kept d = true

/-- The pixels of a returned frame are those of the last image that was kept; the frame's
number counts the images kept, and its time is that image's, counted from the capture's own
trigger. -/
def AsClaimed (request : CaptureRequest) (calls : CaptureCalls) (outcome : CaptureOutcome)
    (w : World) : Prop :=
  ∃ d anchor, (all_kept w.deliveries).head? = some d ∧
    Anchored request calls outcome.metadata anchor ∧
    outcome.metadata.frame_generation =
      some (min (all_kept w.deliveries).length 18446744073709551615) ∧
    outcome.metadata.presentation_offset_ns =
      some (presentation_offset_ns anchor w.backend.qpc_frequency d.presentation.time) ∧
    (∀ native, outcome.native_frame = some native → native.texture = d.presentation.image) ∧
    ∀ frame, outcome.frame = some frame → ∃ metadata pointer,
      readback calls.gpu calls.pool calls.cpu_ready_ns d.presentation.image metadata pointer =
        .ok (frame, outcome.metadata)

/-- Nothing is pending and an image is retained: if the last image delivered was kept, then it
is retained, and it is the newest. -/
theorem retains_newest {w : World} (books : Accounted w) (idle : w.desktop.pending = false)
    (retained : w.backend.latest.isSome = true) (last : LastKept w) : RetainsNewest w := by
  obtain ⟨latest, latest_eq⟩ := Option.isSome_iff_exists.mp retained
  have newest := books.newest idle
  have numbered := books.latest
  rw [latest_eq, Option.map_some] at numbered
  cases deliveries : w.deliveries with
  | nil =>
    rw [deliveries] at numbered
    cases numbered
  | cons d rest =>
    have kept : Delivery.kept d = true := last d (by rw [deliveries]; rfl)
    rw [deliveries] at numbered newest
    unfold last_kept at numbered
    rw [all_kept_cons kept] at numbered
    have time := (Prod.mk.inj (Option.some.inj numbered)).1
    refine ⟨d.presentation, latest, newest, latest_eq, ?_, time⟩
    refine books.image d ?_ (Or.inr ?_)
    · rw [deliveries, all_kept_cons kept]
      rfl
    · rw [deliveries]
      rfl

/-- A returned frame is what it claims, whatever was lost. -/
theorem as_claimed {request : CaptureRequest} {calls : CaptureCalls} {outcome : CaptureOutcome}
    {w : World} (captured : Captured request calls outcome w) :
    AsClaimed request calls outcome w := by
  obtain ⟨books, ⟨⟨latest, anchor, latest_eq, anchored, generation, offset⟩, native, frame,
    unlocked⟩, -⟩ := captured
  have numbered := books.latest
  rw [latest_eq, Option.map_some] at numbered
  unfold last_kept at numbered
  cases head : (all_kept w.deliveries).head? with
  | none =>
    rw [head] at numbered
    cases numbered
  | some d =>
    rw [head] at numbered
    obtain ⟨time, number⟩ := Prod.mk.inj (Option.some.inj numbered)
    refine ⟨d, anchor, head, anchored, ?_, ?_, ?_, ?_⟩
    · rw [generation, number]
    · rw [offset, time]
    · intro native' held
      have free := unlocked (Or.inr (by rw [held]; rfl))
      rw [native] at held
      split at held
      · obtain rfl := Option.some.inj held
        exact books.image d head (Or.inl free)
      · cases held
    · intro frame' held
      have free := unlocked (Or.inl (by rw [held]; rfl))
      obtain ⟨metadata, read, -⟩ := frame frame' held
      rw [books.image d head (Or.inl free)] at read
      exact ⟨metadata, _, read⟩

/-- **A frame called current is current** when the last image that the desktop delivered was
kept: it was not presented before the trigger of a fresh capture that acquired it, and no call
made with it failed.  What a frame says of its pixels, its time and its number holds always.
SRC: dxgi.rs:604-1044, docs/adr/0003-frame-freshness.md -/
theorem current_frames {w : World} (reached : Reachable w) :
    (∀ request calls outcome w', capture request calls w = some (.ok outcome, w') →
      AsClaimed request calls outcome w' ∧
        (LastKept w' → outcome.metadata.verified_current_offset_ns.isSome = true →
          RetainsNewest w')) ∧
      ∀ rounds w', refresh_latest_on_demand { w with rounds := rounds } = some (.ok true, w') →
        LastKept w' → RetainsNewest w' := by
  have books := accounted_of_reachable reached
  constructor
  · intro request calls outcome w' ran
    have captured := capture_spec request calls w (.ok outcome) w' books ran
    refine ⟨as_claimed captured, ?_⟩
    intro last verified
    obtain ⟨idle, retained⟩ := captured.verified verified
    exact retains_newest captured.books idle retained last
  · intro rounds w' ran last
    have books' : Accounted { w with rounds := rounds } :=
      ⟨books.has_newest, books.newest, books.latest, books.image, books.first⟩
    obtain ⟨books'', current⟩ :=
      refresh_latest_on_demand_spec { w with rounds := rounds } (.ok true) w' books' ran
    exact retains_newest books'' (current rfl).1 (current rfl).2 last

/-! ## A stale frame called current -/

/-- A desktop of one texel, and when it was presented. -/
def one_texel (blue : Byte) (time : Int) (time_ne_zero : time ≠ 0) : Presentation :=
  ⟨⟨1, 1, DXGI_FORMAT_B8G8R8A8_UNORM, fun _ _ => ⟨blue, 0, 0, 255⟩⟩, time, time_ne_zero⟩

/-- A backend that was just made, with the desktop's first image to be delivered. -/
def new_world : World where
  backend :=
    { pointer := ⟨none, none⟩
      retained := .blank 1 1 DXGI_FORMAT_B8G8R8A8_UNORM
      latest := none
      selected := ⟨"dxgi:0", true, .origin_pixel, 0⟩
      qpc_frequency := 1000000000
      display_configuration_generation := 1 }
  desktop := ⟨some (one_texel 1 10 (by decide)), true, none, none, false⟩
  rounds := []
  deliveries := []

/-- An acquisition whose calls all succeed. -/
def plain_round (remaining_ns : Nat) : Round :=
  ⟨[], remaining_ns, "timeout", .answered, none, none, none, none, none, 0⟩

/-- Calls that all succeed, with the trigger 30 ticks on the counter. -/
def plain_calls (rounds : List Round) : CaptureCalls where
  display_configuration_generation := 1
  fresh_anchor := .ok ⟨30, 0⟩
  deadline_overflows := false
  latest_anchor := .ok ⟨40, 10⟩
  verified_ns := 10
  native_ready_ns := 10
  format_ms := fun _ => ""
  snapshot := none
  device_removed := none
  gpu := padding_gpu 0
  pool := ⟨[none], 0⟩
  cpu_ready_ns := 11
  rounds := rounds

def latest_request : CaptureRequest := ⟨1, .Display "dxgi:0", .Latest none, false, false, .Exclude⟩

def fresh_request : CaptureRequest := ⟨2, .Display "dxgi:0", .Fresh 100, false, false, .Exclude⟩

/-- A second image is presented before the trigger of a fresh capture: the capture rejects it,
finds nothing else, and returns the first image as current. -/
theorem stale_frame_called_current : ¬ ∀ w, Reachable w → ∀ request calls outcome w',
    capture request calls w = some (.ok outcome, w') →
    outcome.metadata.verified_current_offset_ns.isSome = true → RetainsNewest w' := by
  intro always
  have first : Reachable new_world := .start ⟨rfl, rfl, rfl⟩
  have retained := @Reachable.call new_world _ latest_request (plain_calls [plain_round 0]) _ first
    rfl
  have repainted := retained.event (.presented (one_texel 2 20 (by decide)))
  obtain ⟨presentation, latest, newest, latest_eq, -, time⟩ := always _ repainted fresh_request
    (plain_calls [plain_round 5, plain_round 0, plain_round 0, plain_round 0]) _ _ rfl rfl
  obtain rfl := Option.some.inj newest
  obtain rfl := Option.some.inj latest_eq
  exact absurd time (by decide)

/-- The same desktop without the second image: the frame called current is the newest. -/
theorem quiet_frame_called_current : ∃ w outcome w', Reachable w ∧
    capture fresh_request (plain_calls [plain_round 0, plain_round 0, plain_round 0]) w =
      some (.ok outcome, w') ∧
    outcome.metadata.verified_current_offset_ns = some 10 ∧ RetainsNewest w' := by
  have first : Reachable new_world := .start ⟨rfl, rfl, rfl⟩
  have retained := @Reachable.call new_world _ latest_request (plain_calls [plain_round 0]) _ first
    rfl
  refine ⟨_, _, _, retained, rfl, rfl, ((current_frames retained).1 fresh_request
    (plain_calls [plain_round 0, plain_round 0, plain_round 0]) _ _ rfl).2 ?_ rfl⟩
  intro d head
  obtain rfl := Option.some.inj head
  rfl

end Captastic.Analysis
