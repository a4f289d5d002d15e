import Captastic.Analysis.Mp4Timing
import Captastic.Analysis.RecordingAccounting

/-!
# How long a recording lasts

The writers count time from the first frame they are given.  A recording's file lasts from the
first frame delivered to the end reported (`gif_lasts`, `mp4_lasts`): a frame that was dropped
lengthens the picture before it, and the first frames, if they were dropped, are missing.  A
GIF counts in hundredths of a second and shows every picture for at least two; since the pacing
loop spreads its frames (`Spread`), that moves its end by at most six.
-/

set_option autoImplicit false

namespace Captastic.Analysis

open Captastic.Library Captastic.Model

/-! ## The grid of a GIF's delays -/

/-- The schedule does not end before the last of its times. -/
theorem last_le_intended (began last : Nat) (times : List Nat) :
    last ≤ began + (intended began (times ++ [last])).sum := by
  induction times generalizing began with
  | nil =>
    simp only [List.nil_append, intended, List.sum_cons, List.sum_nil]
    omega
  | cons until_cs rest ih =>
    have later := ih (began + max (until_cs - began) MINIMUM_DELAY_CS)
    simp only [List.cons_append, intended, List.sum_cons]
    omega

/-- A schedule is late by two for a picture that follows at once.  Where the fourth of any four
times in a row is six later than the first, it is never late by more than four at the last of
them, and so by six at the end.

`a`, `b` and `c` are the three times before; a schedule that starts has none at `a` and `b`. -/
theorem intended_le_last {began last : Nat} {a b c : Int} (times : List Nat)
    (behind : (began : Int) ≤ max c (max (b + 2) (a + 4))) (fourth : Spread 6 times)
    (first : ∀ d : Nat, times[0]? = some d → a + 6 ≤ d)
    (second : ∀ d : Nat, times[1]? = some d → b + 6 ≤ d)
    (third : ∀ d : Nat, times[2]? = some d → c + 6 ≤ d) (sorted : times.Pairwise (· ≤ ·))
    (ordered : a ≤ b ∧ b ≤ c ∧ c ≤ last) (after : ∀ t ∈ times, c ≤ (t : Int))
    (below : ∀ t ∈ times, t ≤ last) :
    began + (intended began (times ++ [last])).sum ≤ last + 6 := by
  induction times generalizing began a b c with
  | nil =>
    simp only [List.nil_append, intended, List.sum_cons, List.sum_nil, MINIMUM_DELAY_CS]
    omega
  | cons d rest ih =>
    have a_before : a + 6 ≤ (d : Int) := first d rfl
    have d_below : d ≤ last := below d List.mem_cons_self
    have c_before : c ≤ (d : Int) := after d List.mem_cons_self
    obtain ⟨d_before, sorted_rest⟩ := List.pairwise_cons.mp sorted
    have d_first : ∀ g : Nat, rest[2]? = some g → (d : Int) + 6 ≤ g := by
      intro g at_two
      exact_mod_cast fourth.after_head at_two
    have shown : (max (d - began) MINIMUM_DELAY_CS : Nat) + began =
        max d (began + MINIMUM_DELAY_CS) := by
      omega
    have later := @ih (began + max (d - began) MINIMUM_DELAY_CS) b c d
      (by unfold MINIMUM_DELAY_CS at shown ⊢; omega)
      (fourth.sublist (List.sublist_cons_self d rest)) (fun e at_zero => second e at_zero) (fun e at_one => third e at_one) d_first sorted_rest
      ⟨ordered.2.1, c_before, by exact_mod_cast d_below⟩
      (fun t member => by exact_mod_cast d_before t member)
      fun t member => below t (List.mem_cons_of_mem d member)
    simp only [List.cons_append, intended, List.sum_cons]
    omega

/-- No delay is longer than the last of the times, or two. -/
theorem intended_le {most : Nat} (least : MINIMUM_DELAY_CS ≤ most) {ends : List Nat}
    (below : ∀ t ∈ ends, t ≤ most) (began : Nat) : ∀ delay ∈ intended began ends, delay ≤ most := by
  induction ends generalizing began with
  | nil => nofun
  | cons until_cs rest ih =>
    obtain ⟨head_below, rest_below⟩ := List.forall_mem_cons.mp below
    refine List.forall_mem_cons.mpr ⟨?_, ih rest_below _⟩
    exact Nat.max_le.mpr ⟨(Nat.sub_le _ _).trans head_below, least⟩

/-- The times of change are times of frames. -/
theorem change_times_sublist (width height : Nat) (previous : List Byte)
    (frames : List (List Byte × Duration)) :
    (change_times width height previous frames).Sublist (frames.map Prod.snd) := by
  induction frames generalizing previous with
  | nil => exact List.Sublist.refl []
  | cons frame rest ih =>
    obtain ⟨bgra, pos⟩ := frame
    unfold change_times
    split
    · exact (ih bgra).cons_cons pos
    · exact (ih previous).cons pos

/-- A later time has no fewer hundredths. -/
theorem centiseconds_mono {p q : Nat} (le : p ≤ q) (first_at : Nat) :
    GifWriter.as_centiseconds (p - first_at) ≤ GifWriter.as_centiseconds (q - first_at) := by
  unfold GifWriter.as_centiseconds
  omega

/-- A fifteenth of a second is six hundredths and more. -/
theorem centiseconds_apart {p q first_at : Nat} (after : first_at ≤ p) (apart : p + 66666666 ≤ q) :
    GifWriter.as_centiseconds (p - first_at) + 6 ≤ GifWriter.as_centiseconds (q - first_at) := by
  unfold GifWriter.as_centiseconds
  omega

/-- Fifteen pictures a second, counted from the first in hundredths. -/
theorem spread_centiseconds {first_at : Duration} {times : List Duration}
    (after : ∀ t ∈ times, first_at ≤ t) (spread : Spread 66666666 times) :
    Spread 6 (times.map fun pos => GifWriter.as_centiseconds (pos - first_at)) := by
  intro a b c d four
  obtain ⟨four_times, sub, same⟩ := List.sublist_map_iff.mp four
  match four_times, same with
  | [p, q, r, s], same =>
    obtain ⟨rfl, rfl, rfl, rfl, -⟩ : _ ∧ _ ∧ _ ∧ _ ∧ True := by simpa using same
    exact centiseconds_apart (after p (sub.subset List.mem_cons_self)) (spread p q r s sub)

/-! ## The file -/

section Gif

variable {C W : Type} (K : GifCodec C) (E : GifEncoder C W) {width height : Nat}
  {delivered : List (List Byte × Duration)} {duration : Duration}

/-- When the first of the frames delivered was captured. -/
def first_delivered (delivered : List (List Byte × Duration)) : Duration :=
  (delivered.head?.map Prod.snd).getD 0

/-- The frames of a recorded GIF end where the next change was captured, and the last at the end
reported: up to hundredths of a second of which each lasts two, and by six at most at the end. -/
structure GifLasts (width height : Nat) (delivered : List (List Byte × Duration))
    (duration : Duration) (stored : List Nat) : Prop where
  changes : stored =
    intended 0 ((frame_ends width height duration delivered).map GifWriter.as_centiseconds)
  least : GifWriter.as_centiseconds (duration - first_delivered delivered) ≤ stored.sum
  most : stored.sum ≤ GifWriter.as_centiseconds (duration - first_delivered delivered) + 6
  exact : Spaced (frame_ends width height duration delivered) →
    stored.sum = GifWriter.as_centiseconds (duration - first_delivered delivered)

/-- What the encoder's thread wrote is a recording of the frames delivered. -/
theorem record_of_encoded {writer : GifWriter C W} {file : W} {frames_written : Nat}
    (encoded : encode_each (encode_gif K E width height) delivered = .ok writer)
    (finished : (encode_gif K E width height).finish writer duration = .ok (file, frames_written)) :
    ∃ summary, GifWriter.record K E width height delivered duration = .ok (file, summary) := by
  cases finish : writer.finish E duration with
  | error error => simp [encode_gif, finish] at finished
  | ok made =>
    obtain ⟨file', summary⟩ := made
    simp only [encode_gif, finish, Except.ok.injEq, Prod.mk.injEq] at finished
    obtain ⟨rfl, -⟩ := finished
    unfold encode_each at encoded
    cases created : GifWriter.new E width height with
    | error error => simp [encode_gif, created, bind, Except.bind] at encoded
    | ok writer₀ =>
      simp only [encode_gif, created, bind, Except.bind] at encoded
      have pushed : GifWriter.push_all K E writer₀ delivered = .ok writer :=
        @push_all_of_encoded _ _ K E width height _ _ _ encoded
      refine ⟨summary, ?_⟩
      unfold GifWriter.record
      rw [created, ok_bind, pushed, ok_bind, finish]

/-- What a GIF of the frames delivered lasts, and how far apart its frames are. -/
theorem gif_of_delivered {bgra : List Byte} {first_at : Duration}
    {rest : List (List Byte × Duration)} {file : W} {summary : AnimationSummary}
    (recorded : GifWriter.record K E width height ((bgra, first_at) :: rest) duration =
      .ok (file, summary))
    (sorted : (((bgra, first_at) :: rest).map Prod.snd).Pairwise (· ≤ ·))
    (spread : Spread 66666666 (((bgra, first_at) :: rest).map Prod.snd))
    (ends : ∀ t ∈ ((bgra, first_at) :: rest).map Prod.snd, t ≤ duration)
    (limit : duration ≤ from_millis 600000) :
    GifLasts width height ((bgra, first_at) :: rest) duration (delays (E.stored file)) := by
  set from_first := fun pos : Duration => GifWriter.as_centiseconds (pos - first_at)
    with from_first_eq
  set last := from_first duration with last_eq
  set times := (change_times width height bgra rest).map from_first with times_eq
  have sub : (first_at :: change_times width height bgra rest).Sublist
      (((bgra, first_at) :: rest).map Prod.snd) :=
    (change_times_sublist width height bgra rest).cons_cons first_at
  have ends_eq : (frame_ends width height duration ((bgra, first_at) :: rest)).map
      GifWriter.as_centiseconds = times ++ [last] := by
    unfold frame_ends
    rw [List.map_map, List.map_append]
    rfl
  have sorted_sub := sorted.sublist sub
  have after : ∀ t ∈ first_at :: change_times width height bgra rest, first_at ≤ t :=
    List.forall_mem_cons.mpr ⟨le_refl first_at, (List.pairwise_cons.mp sorted_sub).1⟩
  have mono : ∀ p q : Duration, p ≤ q → from_first p ≤ from_first q := by
    intro p q le
    exact centiseconds_mono le first_at
  have spread_first : Spread 6 (from_first first_at :: times) :=
    spread_centiseconds after (spread.sublist sub)
  have zero : from_first first_at = 0 := by
    show (first_at - first_at) / 1000000 / 10 = 0
    rw [Nat.sub_self]
  have below : ∀ t ∈ times, t ≤ last := by
    intro t member
    obtain ⟨pos, among, rfl⟩ := List.mem_map.mp member
    exact mono _ _ (ends pos (sub.subset (List.mem_cons_of_mem _ among)))
  have sorted_times : times.Pairwise (· ≤ ·) :=
    (List.pairwise_cons.mp sorted_sub).2.map from_first mono
  have short : last ≤ 65535 := by
    refine (centiseconds_mono limit first_at).trans ?_
    refine le_trans ?_ (show 600000000000 / 1000000 / 10 ≤ 65535 by decide)
    exact Nat.div_le_div_right (Nat.div_le_div_right (Nat.sub_le _ _))
  have stored : delays (E.stored file) = intended 0 (times ++ [last]) := by
    rw [record_delays K E recorded, ends_eq]
    conv_rhs => rw [← List.map_id (intended 0 (times ++ [last]))]
    refine List.map_congr_left ?_
    intro delay member
    refine Nat.min_eq_left (intended_le (by decide) ?_ 0 delay member)
    intro t among
    rcases List.mem_append.mp among with among | among
    · exact (below t among).trans short
    · exact (List.mem_singleton.mp among).le.trans short
  have lasts : GifWriter.as_centiseconds
      (duration - first_delivered ((bgra, first_at) :: rest)) = last := rfl
  refine ⟨by rw [stored, ends_eq], ?_, ?_, ?_⟩
  · rw [stored, lasts]
    simpa using last_le_intended 0 last times
  · rw [stored, lasts]
    have most := @intended_le_last 0 last (-6) (-6) 0 times (by omega)
      (spread_first.sublist (List.sublist_cons_self _ _)) (by intro d _; omega)
      (by intro d _; omega) ?_ sorted_times (by omega) (by intro t _; omega) below
    · simpa using most
    · intro d at_two
      have apart := spread_first.after_head at_two
      rw [zero] at apart
      exact_mod_cast apart
  · intro spaced
    set file_ends := frame_ends width height duration ((bgra, first_at) :: rest) with file_ends_eq
    have length_pos : 0 < file_ends.length := by
      rw [file_ends_eq]
      unfold frame_ends
      simp
    have ended := grid_end_of_spaced spaced (k := file_ends.length - 1) (by omega)
    have whole := intended_sum file_ends (le_refl file_ends.length)
    rw [List.take_of_length_le (by simp), ends_eq] at whole
    rw [stored, whole, ← Nat.sub_add_cancel length_pos, ended]
    congr 1
    rw [List.getD_eq_getElem?_getD, ← List.getLast?_eq_getElem?, file_ends_eq]
    unfold frame_ends
    simp [first_delivered]

end Gif

/-! ## What is delivered in a run -/

section Runs

variable {S F : Type} {setup : RecordSetup S F} {run : RecordRun S F} {report : RecordingReport}
  {data : Option F}

/-- The file of a recording is what the encoder makes of the frames delivered, which were
captured in order, spread, and not after the end reported. -/
structure FramesEncoded (setup : RecordSetup S F) (run : RecordRun S F) (duration : Duration)
    (file : F) (frames_written : Nat) (bgra : List Byte) (first_at : Duration)
    (rest : List (List Byte × Duration)) : Prop where
  ended : run.encoder = .ended (.ok (file, frames_written))
  delivered : run.delivered = (bgra, first_at) :: rest
  written : ∃ writer, encode_each (run.frame_encoder setup) run.delivered = .ok writer ∧
    (run.frame_encoder setup).finish writer duration = .ok (file, frames_written)
  sorted : (run.delivered.map Prod.snd).Pairwise (· ≤ ·)
  spread : Spread (RecordRun.interval setup) (run.delivered.map Prod.snd)
  ends : ∀ t ∈ run.delivered.map Prod.snd, t ≤ duration

/-- The call has returned with the report. -/
def made_report (run : RecordRun S F) (report : RecordingReport) (data : Option F) : Prop :=
  run.producer = .returned (.ok (report, data)) ∨ run.producer = .done (.ok (report, data))

/-- A recording with a report has begun, has not failed and has no frame in hand. -/
theorem made_report.going (made : made_report run report data) :
    early run.producer = false ∧ has_failed run.producer = false ∧
      frame_in_hand run.producer = [] := by
  rcases made with returned | done
  · rw [returned]
    exact ⟨rfl, rfl, rfl⟩
  · rw [done]
    exact ⟨rfl, rfl, rfl⟩

/-- Once the recording has ended, everything pushed was captured, and nothing waits. -/
theorem AccountsKept.ended (kept : AccountsKept setup run) (made : made_report run report data) :
    captured_times run = run.pushed.map Prod.snd ∧ run.queue.frames = [] := by
  obtain ⟨-, ⟨file, frames_written, ended⟩, -, -⟩ := kept.report.made report data made
  refine ⟨?_, (kept.writer.wrote file frames_written ended).1⟩
  unfold captured_times
  rw [made.going.2.2, List.append_nil]

/-- It has encoded each frame delivered. -/
theorem frames_encoded (kept : AccountsKept setup run) (timely : TimelyKept setup run)
    (made : made_report run report data) :
    ∃ file frames_written bgra first_at rest,
      FramesEncoded setup run report.duration file frames_written bgra first_at rest := by
  obtain ⟨⟨closed, -⟩, ⟨file, frames_written, ended⟩, -, -⟩ := kept.report.made report data made
  obtain ⟨empty, writer, end_at, encoded, closed', wrote⟩ :=
    kept.writer.wrote file frames_written ended
  obtain rfl := Option.some.inj (closed.symm.trans closed')
  have times := (kept.ended made).1
  have order := kept.frames.order
  have last := kept.last (kept.unfailed made)
  unfold KeptInOrder at order
  rw [empty, List.append_nil] at order last
  have sub : (run.delivered.map Prod.snd).Sublist (captured_times run) := by
    rw [times]
    exact order.map Prod.snd
  have begun := kept.pace.begun made.going.1 made.going.2.1
  rw [times] at begun
  cases delivered : run.delivered with
  | nil =>
    rw [delivered] at last
    rw [List.getLast?_eq_none_iff.mp last.symm] at begun
    exact absurd rfl begun
  | cons frame rest =>
    refine ⟨file, frames_written, frame.1, frame.2, rest, ended, delivered,
      ⟨writer, encoded, wrote⟩, kept.pace.sorted.sublist sub, kept.pace.spread.sublist sub, ?_⟩
    intro t member
    exact timely.closed report.duration closed t (sub.subset member)

/-- The first frame, which is captured at zero, is delivered unless the queue pushed it out. -/
theorem first_at_zero (kept : AccountsKept setup run) (first : FirstKept run)
    (made : made_report run report data) : first_delivered run.delivered = 0 := by
  obtain ⟨times, empty⟩ := kept.ended made
  have same := first (kept.unfailed made)
  have begun := kept.pace.begun made.going.1 made.going.2.1
  have at_zero := kept.pace.first
  unfold KeepsFirst at same
  rw [empty, List.append_nil] at same
  rw [times] at begun at_zero
  unfold first_delivered
  cases pushed : run.pushed with
  | nil =>
    rw [pushed] at begun
    exact absurd rfl begun
  | cons frame rest =>
    rw [pushed] at same at_zero
    rw [same]
    exact at_zero frame.2 rfl

variable {area : Rect} {file : PathFile F} {steps : List (Taken (RecordRun S F) RecordEvent)}

/-- A run whose captures are in time keeps the times. -/
theorem timely_of_run (runs : Run (RecordingStep setup) (.new area file) steps run)
    (in_time : ∀ t ∈ steps, captures_in_time setup t.event) : TimelyKept setup run := by
  refine (runs.inv_of_meets (P := fun run => AccountsKept setup run ∧ TimelyKept setup run)
    (C := fun _ event => captures_in_time setup event) ?_
    ⟨new_accounts_kept setup area file, new_timely_kept setup area file⟩ in_time).2
  intro before event after kept meets step
  exact timely_step_kept kept meets step

/-- A run that spares the first frame keeps it. -/
theorem first_of_run (runs : Run (RecordingStep setup) (.new area file) steps run)
    (spares : ∀ t ∈ steps, spares_first t.before t.event) : FirstKept run := by
  refine (runs.inv_of_meets (P := fun run => AccountsKept setup run ∧ FirstKept run)
    ?_ ⟨new_accounts_kept setup area file, fun _ => rfl⟩ spares).2
  intro before event after kept meets step
  exact first_step_kept kept meets step

end Runs

/-! ## A recorded GIF -/

section Recorded

variable {C W : Type} (K : GifCodec C) (E : GifEncoder C W)

/-- A recorded GIF lasts from the first frame delivered to the end reported. -/
theorem gif_of_kept {setup : RecordSetup (GifWriter C W) W} {run : RecordRun (GifWriter C W) W}
    {report : RecordingReport} {data : Option W} (gif : setup.settings.format = .Gif)
    (encodes : setup.encoder = encode_gif K E)
    (limit : setup.settings.max_duration ≤ from_millis 600000) (kept : AccountsKept setup run)
    (timely : TimelyKept setup run) (made : made_report run report data) :
    ∃ written frames_written, run.encoder = .ended (.ok (written, frames_written)) ∧
      GifLasts run.shape.width run.shape.height run.delivered report.duration
        (delays (E.stored written)) := by
  obtain ⟨written, frames_written, bgra, first_at, rest, encoded⟩ :=
    frames_encoded kept timely made
  obtain ⟨writer, pushed, finished⟩ := encoded.written
  have frame_encoder : run.frame_encoder setup =
      encode_gif K E run.shape.width run.shape.height := by
    unfold RecordRun.frame_encoder
    rw [encodes]
  rw [frame_encoder] at pushed finished
  obtain ⟨summary, recorded⟩ := record_of_encoded K E pushed finished
  have interval : RecordRun.interval setup = 66666666 := by
    unfold RecordRun.interval
    rw [gif]
    rfl
  have sorted := encoded.sorted
  have spread := encoded.spread
  have ends := encoded.ends
  rw [interval] at spread
  rw [encoded.delivered] at recorded sorted spread ends ⊢
  exact ⟨written, frames_written, encoded.ended, gif_of_delivered K E recorded sorted spread ends
    ((kept.report.made report data made).1.2.trans limit)⟩

/-- **How long a recorded GIF lasts.**  However the two threads' steps are ordered and whichever
frames the queue drops, if no frame is captured after the time limit, the GIF lasts from the
first frame delivered to the end reported; and that is the whole of the recording where the
queue never pushes the first frame out.
SRC: recording.rs:148-297, 418-519, 590-640; animation.rs:98-156 -/
theorem gif_lasts {setup : RecordSetup (GifWriter C W) W} {area : Rect} {file : PathFile W}
    {steps : List (Taken (RecordRun (GifWriter C W) W) RecordEvent)}
    {run : RecordRun (GifWriter C W) W} {report : RecordingReport} {data : Option W}
    (gif : setup.settings.format = .Gif) (encodes : setup.encoder = encode_gif K E)
    (limit : setup.settings.max_duration ≤ from_millis 600000)
    (runs : Run (RecordingStep setup) (.new area file) steps run)
    (in_time : ∀ t ∈ steps, captures_in_time setup t.event)
    (made : made_report run report data) :
    (∃ written frames_written, run.encoder = .ended (.ok (written, frames_written)) ∧
      GifLasts run.shape.width run.shape.height run.delivered report.duration
        (delays (E.stored written))) ∧
      ((∀ t ∈ steps, spares_first t.before t.event) → first_delivered run.delivered = 0) := by
  have kept := accounts_kept runs
  exact ⟨gif_of_kept K E gif encodes limit kept (timely_of_run runs in_time) made,
    fun spares => first_at_zero kept (first_of_run runs spares) made⟩

/-- Two frames of the pixel, the second 72 ms after the first, and the end after 100 ms. -/
def two_frame_events : List RecordEvent :=
  [.first (.ok (recorded_pixel .Bgra8Unorm)), .spawns none, .encoder (.opens none false),
    .converts, .pushes, .polls false (from_millis 70) false (from_millis 70),
    .checks (from_millis 70), .answers (recorded_pixel .Bgra8Unorm) (from_millis 72), .converts,
    .pushes, .polls true (from_millis 100) false (from_millis 100), .closes (from_millis 100),
    .encoder .pops, .encoder .encodes, .encoder .pops, .encoder .encodes, .encoder .pops,
    .encoder (.finishes none), .joins, .measures none, .leaves true]

/-- A step is in time, and pushes into a queue that has room. -/
def meets_both {S F : Type} (setup : RecordSetup S F) (run : RecordRun S F) : RecordEvent → Bool
  | .answers _ elapsed => decide (elapsed ≤ setup.settings.max_duration)
  | .pushes => decide (run.queue.frames.length < run.queue.capacity)
  | _ => true

/-- A step that passes the check meets both conditions. -/
theorem meets_of_check {S F : Type} {setup : RecordSetup S F} {run : RecordRun S F}
    {event : RecordEvent} (passes : meets_both setup run event = true) :
    captures_in_time setup event ∧ spares_first run event := by
  constructor
  · rintro frame elapsed rfl
    simpa [meets_both] using passes
  · rintro rfl _ full
    have room : run.queue.frames.length < run.queue.capacity := by simpa [meets_both] using passes
    exact absurd full (Nat.not_le.mpr room)

/-- The report of a call that is done. -/
def report_of {S F : Type} (run : RecordRun S F) : Option RecordingReport :=
  match run.producer with
  | .done (.ok (report, _)) => some report
  | _ => none

/-- A recording whose report is there was made. -/
theorem made_of_report {S F : Type} {run : RecordRun S F}
    (is_done : (report_of run).isSome = true) :
    ∃ report data, made_report run report data := by
  unfold report_of at is_done
  split at is_done
  · rename_i report data done
    exact ⟨report, data, .inr done⟩
  · cases is_done

/-- The recording of the two frames, which is in time and drops none. -/
theorem two_frames_recorded :
    ∃ steps run, Run (RecordingStep pixel_setup) (.new .origin_pixel .unfinished) steps run ∧
      steps.map Taken.event = two_frame_events ∧ (∃ report data, made_report run report data) ∧
      (∀ t ∈ steps, captures_in_time pixel_setup t.event) ∧
      ∀ t ∈ steps, spares_first t.before t.event := by
  have computed : ((two_frame_events.foldlM (fun run event =>
      if meets_both pixel_setup run event then RecordRun.step pixel_setup run event else none)
      (.new .origin_pixel .unfinished)).map fun run => (report_of run).isSome) = some true := by
    decide
  obtain ⟨run, computed, is_done⟩ := Option.map_eq_some_iff.mp computed
  obtain ⟨steps, same, runs, passes⟩ := @Run.of_foldlM_checked _ _ (RecordingStep pixel_setup)
    (.new .origin_pixel .unfinished) run (RecordRun.step pixel_setup) (meets_both pixel_setup)
    (fun _ _ _ taken => taken) two_frame_events computed
  exact ⟨steps, run, runs, same, made_of_report is_done,
    fun t member => (meets_of_check (passes t member)).1,
    fun t member => (meets_of_check (passes t member)).2⟩

/-- The pixel, for the hundred milliseconds of its recording. -/
theorem gif_lasts_two_frames :
    ∃ steps run, Run (RecordingStep pixel_setup) (.new .origin_pixel .unfinished) steps run ∧
      steps.map Taken.event = two_frame_events ∧
      ∃ report data, made_report run report data ∧
        ((∃ written frames_written, run.encoder = .ended (.ok (written, frames_written)) ∧
          GifLasts run.shape.width run.shape.height run.delivered report.duration
            (delays (list_encoder.stored written))) ∧
        ((∀ t ∈ steps, spares_first t.before t.event) → first_delivered run.delivered = 0)) ∧
        ∀ t ∈ steps, spares_first t.before t.event := by
  obtain ⟨steps, run, runs, same, ⟨report, data, made⟩, in_time, spares⟩ := two_frames_recorded
  exact ⟨steps, run, runs, same, report, data, made,
    gif_lasts raw_codec list_encoder rfl rfl (by decide) runs in_time made, spares⟩

end Recorded

/-! ## A recorded MP4 -/

section Video

variable {S F : Type} (M : Mp4Sink S F)

/-- The samples of a recorded MP4 begin at zero, each lasts to the next change, and the last ends
at the end reported, or a tick later. -/
structure Mp4Lasts (delivered : List (List Byte × Duration)) (duration : Duration)
    (samples : List Mp4Sample) : Prop where
  changes : samples =
    mp4_samples (ticks (duration - first_delivered delivered)) (changes (ticked delivered))
  start : samples.head?.map Mp4Sample.time = some 0
  ends : ∀ last, samples.getLast? = some last →
    ticks (duration - first_delivered delivered) ≤ last.time + last.duration ∧
      last.time + last.duration ≤ ticks (duration - first_delivered delivered) + 1

/-- What the encoder's thread wrote is a recording of the frames delivered, as the sink logged
it. -/
theorem recorded_of_encoded {width height : Nat} {delivered : List (List Byte × Duration)}
    {duration : Duration} {writer : Mp4Writer (S × List Mp4Sample)} {file : F × List Mp4Sample}
    {frames_written : Nat}
    (encoded : encode_each (encode_mp4 (logged M) width height) delivered = .ok writer)
    (finished : (encode_mp4 (logged M) width height).finish writer duration =
      .ok (file, frames_written)) :
    ∃ summary, mp4_recorded (logged M) width height RecordingFormat.Mp4.frame_rate delivered
      duration = .ok (file, summary) := by
  cases finish : writer.finalize (logged M) duration with
  | error message => simp [encode_mp4, finish] at finished
  | ok made =>
    obtain ⟨file', summary⟩ := made
    simp only [encode_mp4, finish, Except.ok.injEq, Prod.mk.injEq] at finished
    obtain ⟨rfl, -⟩ := finished
    refine ⟨summary, ?_⟩
    unfold encode_each at encoded
    obtain ⟨created, creates, pushes⟩ := bind_eq_ok.mp encoded
    unfold mp4_recorded
    refine bind_eq_ok.mpr ⟨created, creates, bind_eq_ok.mpr ⟨writer, pushes, finish⟩⟩

/-- What an MP4 of the frames delivered lasts, and how long its samples are. -/
theorem mp4_of_delivered {width height frame_rate : Nat} {bgra : List Byte} {first_at : Duration}
    {rest : List (List Byte × Duration)} {duration : Duration} {file : F × List Mp4Sample}
    {summary : VideoSummary}
    (recorded : mp4_recorded (logged M) width height frame_rate ((bgra, first_at) :: rest)
      duration = .ok (file, summary))
    (ends : ∀ t ∈ ((bgra, first_at) :: rest).map Prod.snd, t ≤ duration) :
    Mp4Lasts ((bgra, first_at) :: rest) duration file.2 := by
  have samples := recorded_samples recorded
  refine ⟨samples, ?_, ?_⟩
  · obtain ⟨shown, later, split⟩ := mp4_samples_cons
      (finish_tick ((bgra, first_at) :: rest) duration) (bgra, ticks (first_at - first_at))
      (changes_after bgra (rest.map fun push => (push.1, ticks (push.2 - first_at))))
    have starts : changes (ticked ((bgra, first_at) :: rest)) =
        (bgra, ticks (first_at - first_at)) ::
      changes_after bgra (rest.map fun push => (push.1, ticks (push.2 - first_at))) := rfl
    rw [samples, starts, split, Nat.sub_self]
    rfl
  · intro last at_end
    rw [samples] at at_end
    have end_eq := last_of_mp4_samples _ at_end
    have among : last.time ∈ (ticked ((bgra, first_at) :: rest)).map Prod.snd := by
      have member := List.mem_map_of_mem (f := Mp4Sample.time) (List.mem_of_getLast? at_end)
      rw [mp4_samples_times] at member
      exact ((changes_sublist _).map Prod.snd).subset member
    obtain ⟨item, tick_among, same⟩ := List.mem_map.mp among
    obtain ⟨push, pushed, rfl⟩ := List.mem_map.mp tick_among
    have before : ticks (push.2 - first_at) ≤ ticks (duration - first_at) :=
      ticks_mono (Nat.sub_le_sub_right (ends push.2 (List.mem_map_of_mem pushed)) first_at)
    have at_most : last.time ≤ ticks (duration - first_at) := same ▸ before
    rw [end_eq]
    show ticks (duration - first_at) ≤ max (ticks (duration - first_at)) (last.time + 1) ∧
      max (ticks (duration - first_at)) (last.time + 1) ≤ ticks (duration - first_at) + 1
    omega

/-- A recorded MP4 lasts from the first frame delivered to the end reported. -/
theorem mp4_of_kept {setup : RecordSetup (Mp4Writer (S × List Mp4Sample)) (F × List Mp4Sample)}
    {run : RecordRun (Mp4Writer (S × List Mp4Sample)) (F × List Mp4Sample)}
    {report : RecordingReport} {data : Option (F × List Mp4Sample)}
    (encodes : setup.encoder = encode_mp4 (logged M)) (kept : AccountsKept setup run)
    (timely : TimelyKept setup run) (made : made_report run report data) :
    ∃ written frames_written, run.encoder = .ended (.ok (written, frames_written)) ∧
      Mp4Lasts run.delivered report.duration written.2 := by
  obtain ⟨written, frames_written, bgra, first_at, rest, encoded⟩ :=
    frames_encoded kept timely made
  obtain ⟨writer, pushed, finished⟩ := encoded.written
  have frame_encoder : run.frame_encoder setup =
      encode_mp4 (logged M) run.shape.width run.shape.height := by
    unfold RecordRun.frame_encoder
    rw [encodes]
  rw [frame_encoder] at pushed finished
  obtain ⟨summary, recorded⟩ := recorded_of_encoded M pushed finished
  have ends := encoded.ends
  rw [encoded.delivered] at recorded ends ⊢
  exact ⟨written, frames_written, encoded.ended, mp4_of_delivered M recorded ends⟩

/-- **How long a recorded MP4 lasts**, by the samples given to its sink: as a GIF does, to a
tick of 100 ns.
SRC: recording.rs:148-297, 418-519, 590-640; video.rs:235-341 -/
theorem mp4_lasts {setup : RecordSetup (Mp4Writer (S × List Mp4Sample)) (F × List Mp4Sample)}
    {area : Rect} {file : PathFile (F × List Mp4Sample)}
    {steps : List (Taken (RecordRun (Mp4Writer (S × List Mp4Sample)) (F × List Mp4Sample))
      RecordEvent)}
    {run : RecordRun (Mp4Writer (S × List Mp4Sample)) (F × List Mp4Sample)}
    {report : RecordingReport} {data : Option (F × List Mp4Sample)}
    (encodes : setup.encoder = encode_mp4 (logged M))
    (runs : Run (RecordingStep setup) (.new area file) steps run)
    (in_time : ∀ t ∈ steps, captures_in_time setup t.event)
    (made : made_report run report data) :
    (∃ written frames_written, run.encoder = .ended (.ok (written, frames_written)) ∧
      Mp4Lasts run.delivered report.duration written.2) ∧
      ((∀ t ∈ steps, spares_first t.before t.event) → first_delivered run.delivered = 0) := by
  have kept := accounts_kept runs
  exact ⟨mp4_of_kept M encodes kept (timely_of_run runs in_time) made,
    fun spares => first_at_zero kept (first_of_run runs spares) made⟩

end Video

/-- A recording of the pixel as an MP4, scaled up to the least size there is. -/
def pixel_video : RecordSetup (Mp4Writer (List Mp4Sample × List Mp4Sample))
    (List Mp4Sample × List Mp4Sample) where
  scaling := ⟨fun _ _ _ => (2, 2), fun _ size => size,
    fun pixels _ _ width height => (List.replicate (width * height) (pixels.take 4)).flatten⟩
  settings := ⟨.Mp4, from_millis 60000⟩
  area := .origin_pixel
  whole := false
  to_path := true
  encoder := encode_mp4 (logged list_sink)

/-- A recording of two frames. -/
theorem mp4_lasts_two_frames :
    ∃ steps run, Run (RecordingStep pixel_video) (.new .origin_pixel .unfinished) steps run ∧
      steps.map Taken.event = two_frame_events ∧
      ∃ report data, made_report run report data ∧
        ((∃ written frames_written, run.encoder = .ended (.ok (written, frames_written)) ∧
          Mp4Lasts run.delivered report.duration written.2) ∧
        ((∀ t ∈ steps, spares_first t.before t.event) → first_delivered run.delivered = 0)) ∧
        ∀ t ∈ steps, spares_first t.before t.event := by
  have computed : ((two_frame_events.foldlM (fun run event =>
      if meets_both pixel_video run event then RecordRun.step pixel_video run event else none)
      (.new .origin_pixel .unfinished)).map fun run => (report_of run).isSome) = some true := by
    decide +kernel
  obtain ⟨run, computed, is_done⟩ := Option.map_eq_some_iff.mp computed
  obtain ⟨steps, same, runs, passes⟩ := @Run.of_foldlM_checked _ _ (RecordingStep pixel_video)
    (.new .origin_pixel .unfinished) run (RecordRun.step pixel_video) (meets_both pixel_video)
    (fun _ _ _ taken => taken) two_frame_events computed
  obtain ⟨report, data, made⟩ := made_of_report is_done
  exact ⟨steps, run, runs, same, report, data, made,
    mp4_lasts list_sink rfl runs (fun t member => (meets_of_check (passes t member)).1) made,
    fun t member => (meets_of_check (passes t member)).2⟩

/-! ## The whole recording -/

/-- How long the file lasts is known of the two formats: of a GIF within the limit that the
settings and the command line check, and of an MP4 by the samples that its sink is given. -/
inductive RecordedAs : {S F : Type} → RecordSetup S F →
    (RecordRun S F → Duration → F → Prop) → Prop
  | gif {C W : Type} (K : GifCodec C) (E : GifEncoder C W) {setup : RecordSetup (GifWriter C W) W}
      (format : setup.settings.format = .Gif) (encodes : setup.encoder = encode_gif K E)
      (limit : setup.settings.max_duration ≤ from_millis 600000) :
      RecordedAs setup fun run duration written => GifLasts run.shape.width run.shape.height
        run.delivered duration (delays (E.stored written))
  | mp4 {S F : Type} (M : Mp4Sink S F)
      {setup : RecordSetup (Mp4Writer (S × List Mp4Sample)) (F × List Mp4Sample)}
      (encodes : setup.encoder = encode_mp4 (logged M)) :
      RecordedAs setup fun run duration written => Mp4Lasts run.delivered duration written.2

/-- The frames are accounted for, and the file shows the recording from its start to the end
reported. -/
structure AsReported {S F : Type} (lasts : RecordRun S F → Duration → F → Prop)
    (run : RecordRun S F) : Prop where
  accounted : FramesAccounted run
  whole : ∀ report data, made_report run report data → first_delivered run.delivered = 0
  lasts : ∀ report data, made_report run report data → ∃ written frames_written,
    run.encoder = .ended (.ok (written, frames_written)) ∧ lasts run report.duration written

/-- **A recording is as reported**, in every state of every run in which no frame is captured after
the time limit and the queue does not push the first one out.
SRC: recording.rs:148-297, 418-519, 555-640; animation.rs:98-156; video.rs:235-341 -/
theorem recorded_as_reported {S F : Type} {setup : RecordSetup S F}
    {lasts : RecordRun S F → Duration → F → Prop} (format : RecordedAs setup lasts) {area : Rect}
    {file : PathFile F} {steps : List (Taken (RecordRun S F) RecordEvent)} {run : RecordRun S F}
    (runs : Run (RecordingStep setup) (.new area file) steps run)
    (in_time : ∀ t ∈ steps, captures_in_time setup t.event)
    (spares : ∀ t ∈ steps, spares_first t.before t.event) : AsReported lasts run := by
  have kept := accounts_kept runs
  have timely := timely_of_run runs in_time
  refine ⟨kept.accounted, fun report data made =>
    first_at_zero kept (first_of_run runs spares) made, fun report data made => ?_⟩
  cases format with
  | gif K E format encodes limit => exact gif_of_kept K E format encodes limit kept timely made
  | mp4 M encodes => exact mp4_of_kept M encodes kept timely made

/-- Two frames are recorded as reported. -/
theorem recorded_as_reported_two_frames :
    ∃ steps run, Run (RecordingStep pixel_setup) (.new .origin_pixel .unfinished) steps run ∧
      steps.map Taken.event = two_frame_events ∧ (∃ report data, made_report run report data) ∧
      AsReported (fun run duration written => GifLasts run.shape.width run.shape.height
        run.delivered duration (delays (list_encoder.stored written))) run := by
  obtain ⟨steps, run, runs, same, made, in_time, spares⟩ := two_frames_recorded
  exact ⟨steps, run, runs, same, made,
    recorded_as_reported (.gif raw_codec list_encoder rfl rfl (by decide)) runs in_time spares⟩

/-- Ninety-one frames are captured before the encoder takes one, and then it takes them all. -/
def late_encoder_events : List RecordEvent :=
  overrun_events ++ [.encoder .encodes] ++
    (List.replicate 89 [.encoder .pops, .encoder .encodes]).flatten ++
    [.polls true (from_millis 45500) false (from_millis 45500), .closes (from_millis 45500),
      .encoder .pops, .encoder (.finishes none), .joins, .measures none, .leaves true]

/-- The duration reported, and the hundredths of a second that the GIF lasts. -/
def lengths {C : Type} (run : RecordRun (GifWriter C (List (GifFrame C))) (List (GifFrame C))) :
    Option (Duration × Nat) :=
  match run.producer, run.encoder with
  | .done (.ok (report, _)), .ended (.ok (written, _)) =>
    some (report.duration, (delays written).sum)
  | _, _ => none

/-- The step captures nothing after the minute that the recording may last. -/
def in_limit : RecordEvent → Bool
  | .answers _ elapsed => decide (elapsed ≤ from_millis 60000)
  | _ => true

/-- The first is pushed out: the GIF lacks the half second until the second. -/
theorem first_frame_lost :
    ∃ steps run, Run (RecordingStep pixel_setup) (.new .origin_pixel .unfinished) steps run ∧
      steps.map Taken.event = late_encoder_events ∧
      (∀ t ∈ steps, captures_in_time pixel_setup t.event) ∧
      lengths run = some (from_millis 45500, 4500) ∧
      ¬ AsReported (fun run duration written => GifLasts run.shape.width run.shape.height
        run.delivered duration (delays (list_encoder.stored written))) run := by
  have computed : (late_encoder_events.foldlM (fun run event =>
      if in_limit event then RecordRun.step pixel_setup run event else none)
      (.new .origin_pixel .unfinished)).any (fun run =>
        decide (lengths run = some (from_millis 45500, 4500))) = true := by decide +kernel
  obtain ⟨run, computed, lasts⟩ := (Option.any_eq_true _ _).mp computed
  replace lasts := of_decide_eq_true lasts
  obtain ⟨steps, same, runs, passes⟩ := @Run.of_foldlM_checked _ _ (RecordingStep pixel_setup)
    (.new .origin_pixel .unfinished) run (RecordRun.step pixel_setup) (fun _ => in_limit)
    (fun _ _ _ taken => taken) late_encoder_events computed
  refine ⟨steps, run, runs, same, fun t member frame elapsed answers => ?_, lasts, fun kept => ?_⟩
  · have passed := passes t member
    rw [answers] at passed
    exact of_decide_eq_true passed
  · unfold lengths at lasts
    split at lasts
    · rename_i report data written frames_written done ended
      have first := kept.whole report data (.inr done)
      obtain ⟨written', frames_written', ended', gif⟩ := kept.lasts report data (.inr done)
      have least := gif.least
      cases ended.symm.trans ended'
      obtain ⟨duration, sum⟩ := Prod.mk.inj (Option.some.inj lasts)
      rw [first, duration] at least
      exact absurd (sum ▸ least) (by decide)
    · cases lasts

end Captastic.Analysis
