import Captastic.Analysis.GifTiming
import Captastic.Model.Recording

/-!
# When a review saves the recording's own bytes

`conclude_review` compares the edit with the length in the recording's report, while the
review's edit ends where the timeline read back from the file does.  The two are
computed apart: the report holds the length the pacing loop measured, a GIF the delays
its writer stored, in whole centiseconds.

A GIF's timeline lasts as long as the frames handed to the encoder fill on that grid
(`recorded_delays`), so an answer that keeps all of the timeline saves the bytes exactly
when they fill the reported length (`save_unchanged_iff`).
-/

set_option autoImplicit false

namespace Captastic.Analysis

open Captastic.Library Captastic.Model

/-! ## The frames the encoder is handed -/

/-- One step of the queue, with the frames handed on so far. -/
def hand_on (handed : FrameQueue × List (List Byte × Duration)) :
    RecordStep → FrameQueue × List (List Byte × Duration)
  | .captured pixels pos => (handed.1.push pixels pos, handed.2)
  | .missed _ => handed
  | .taken => match handed.1.pop with
    | some (queue, .Frame pixels pos) => (queue, handed.2 ++ [(pixels, pos)])
    | _ => handed

/-- The queue after the recording's steps, with the frames handed on during them. -/
def handed_during (width height : Nat) (first : List Byte) (steps : List RecordStep) :
    FrameQueue × List (List Byte × Duration) :=
  steps.foldl hand_on
    ((FrameQueue.with_capacity (queue_capacity (width * height * 4))).push first 0, [])

/-- The frames the encoder is handed over a whole recording: those it takes while the
recording runs, and those left in the queue when it closes. -/
def frames_handed (width height : Nat) (first : List Byte) (steps : List RecordStep) :
    List (List Byte × Duration) :=
  let handed := handed_during width height first steps
  handed.2 ++ handed.1.frames

section Handed

variable {S F : Type} (encoder : FrameEncoder S F)

/-- What the encoder thread's writer is once it has been created and given the frames. -/
def encode_each (frames : List (List Byte × Duration)) : Except String S := do
  let writer ← encoder.create
  frames.foldlM (fun writer frame => encoder.push writer frame.1 frame.2) writer

/-- If the encoder thread is alive, its writer has been given the frames handed on. -/
def Encoded (recording : Recording S) (handed : FrameQueue × List (List Byte × Duration)) :
    Prop :=
  ∀ writer, recording.writer = .ok writer →
    recording.queue = handed.1 ∧ encode_each encoder handed.2 = .ok writer

variable {encoder} {recording : Recording S} {handed : FrameQueue × List (List Byte × Duration)}

/-- One frame more is pushed onto what was encoded. -/
theorem encode_each_append {frames : List (List Byte × Duration)} {writer : S}
    (h : encode_each encoder frames = .ok writer) (frame : List Byte × Duration) :
    encode_each encoder (frames ++ [frame]) = encoder.push writer frame.1 frame.2 := by
  unfold encode_each at h ⊢
  cases hcreate : encoder.create with
  | error message =>
      rw [hcreate] at h
      cases h
  | ok created =>
      simp only [hcreate, bind, Except.bind] at h ⊢
      rw [List.foldlM_append, h]
      cases hpush : encoder.push writer frame.1 frame.2 <;>
        simp [bind, Except.bind, pure, Except.pure, hpush]

/-- Taking a recording hands its bytes on. -/
theorem take_encoded (h : Encoded encoder recording handed) :
    Encoded encoder (recording.take encoder) (hand_on handed .taken) := by
  intro writer' hwriter'
  unfold Recording.take at hwriter' ⊢
  unfold hand_on
  rcases hwriter : recording.writer with message | writer
  · simp only [hwriter] at hwriter'
    cases hwriter'
  · obtain ⟨hqueue, hpushed⟩ := h writer hwriter
    rw [hwriter, hqueue] at hwriter'
    rw [hqueue]
    -- The queue hands on a frame, says that it is closed, or has nothing to hand on.
    match hpop : handed.1.pop with
    | none =>
        rw [hpop] at hwriter'
        obtain rfl : writer = writer' := Except.ok.inj (hwriter.symm.trans hwriter')
        exact ⟨hqueue, hpushed⟩
    | some (queue, .Closed pos) =>
        rw [hpop] at hwriter'
        obtain rfl : writer = writer' := Except.ok.inj (hwriter.symm.trans hwriter')
        exact ⟨hqueue, hpushed⟩
    | some (queue, .Frame pixels pos) =>
        simp only [hpop] at hwriter' ⊢
        cases hpush : encoder.push writer pixels pos with
        | error message =>
            rw [hpush] at hwriter'
            cases hwriter'
        | ok next =>
            rw [hpush] at hwriter'
            obtain rfl : next = writer' := Except.ok.inj hwriter'
            exact ⟨rfl, (encode_each_append hpushed (pixels, pos)).trans hpush⟩

/-- **The step lemma** of a recording's queue and writer.
SRC: recording.rs:247-269 -/
theorem step_encoded (h : Encoded encoder recording handed) (next : RecordStep)
    {recording' : Recording S} (hstep : recording.step encoder next = .ok recording') :
    Encoded encoder recording' (hand_on handed next) := by
  cases next with
  | captured pixels pos =>
      obtain rfl := Except.ok.inj hstep
      intro writer hwriter
      obtain ⟨hqueue, hpushed⟩ := h writer hwriter
      exact ⟨congrArg (fun queue => queue.push pixels pos) hqueue, hpushed⟩
  | missed message =>
      by_cases htolerated : recording.failures + 1 > SOURCE_FAILURES_TOLERATED
      · rw [Recording.step, if_pos htolerated] at hstep
        cases hstep
      · rw [Recording.step, if_neg htolerated] at hstep
        obtain rfl := Except.ok.inj hstep
        exact h
  | taken =>
      obtain rfl := Except.ok.inj hstep
      exact take_encoded h

/-- **The run lemma**: whatever the order of captures and takes, a live writer has been
given the frames the queue handed on. -/
theorem run_encoded (steps : List RecordStep) {recording' : Recording S}
    (h : Encoded encoder recording handed)
    (hrun : recording.run encoder steps = .ok recording') :
    Encoded encoder recording' (steps.foldl hand_on handed) := by
  induction steps generalizing recording handed with
  | nil =>
      obtain rfl := Except.ok.inj hrun
      exact h
  | cons next rest ih =>
      unfold Recording.run at hrun
      cases hstep : recording.step encoder next with
      | error error =>
          rw [hstep] at hrun
          cases hrun
      | ok recording₁ =>
          rw [hstep] at hrun
          exact ih (step_encoded h next hstep) hrun

/-- Draining hands on the frames left in the queue, in order. -/
theorem drain_encoded (left : Nat) (h : Encoded encoder recording handed)
    (hleft : handed.1.frames.length = left) {writer : S}
    (hwriter : (recording.drain encoder left).writer = .ok writer) :
    encode_each encoder (handed.2 ++ handed.1.frames) = .ok writer := by
  induction left generalizing recording handed with
  | zero =>
      rw [List.length_eq_zero_iff.mp hleft, List.append_nil]
      exact (h writer hwriter).2
  | succ left ih =>
      obtain ⟨queue, out⟩ := handed
      cases hframes : queue.frames with
      | nil =>
          simp only [hframes, List.length_nil] at hleft
          omega
      | cons frame frames =>
          have htaken : hand_on (queue, out) .taken = ({ queue with frames }, out ++ [frame]) := by
            simp only [hand_on, FrameQueue.pop, hframes]
          have hnext := take_encoded h
          rw [htaken] at hnext
          have hrest := ih hnext (by simpa [hframes] using hleft) hwriter
          rwa [List.append_assoc] at hrest

/-- An encoder thread that has ended takes nothing. -/
theorem drain_dead {message : String} (h : recording.writer = .error message) (left : Nat) :
    (recording.drain encoder left).writer = .error message := by
  induction left generalizing recording with
  | zero => exact h
  | succ left ih =>
      unfold Recording.drain
      apply ih
      unfold Recording.take
      rw [h]
      exact h

/-- A recording that succeeds is what the encoder makes of the frames it is handed.
SRC: recording.rs:174-297 -/
theorem record_into_spec {settings : RecordingSettings} {width height : Nat} {first : List Byte}
    {steps : List RecordStep} {elapsed : Duration} {ended : RecordingEnd}
    {report : RecordingReport} {file : F}
    (h : record_into encoder settings width height first steps elapsed ended = .ok (report, file)) :
    (report.width = width ∧ report.height = height) ∧
    ∃ writer, encode_each encoder (frames_handed width height first steps) = .ok writer ∧
      encoder.finish writer report.duration = .ok (file, report.frames_written) := by
  have hbegin : Encoded encoder (Recording.begin encoder width height first)
      ((FrameQueue.with_capacity (queue_capacity (width * height * 4))).push first 0, []) := by
    intro writer hwriter
    have hcreate : encoder.create = .ok writer := hwriter
    simp [Recording.begin, encode_each, hcreate, bind, Except.bind, pure, Except.pure]
  unfold record_into at h
  cases hrun : (Recording.begin encoder width height first).run encoder steps with
  | error error => simp [hrun, bind, Except.bind] at h
  | ok recording =>
  have hinv := run_encoded steps hbegin hrun
  simp only [hrun, bind, Except.bind] at h
  cases hwriter : (Recording.drain encoder
      (recording.queue.close (min elapsed settings.max_duration)).frames.length
      { recording with queue := recording.queue.close (min elapsed settings.max_duration) }).writer with
  | error message => simp [hwriter] at h
  | ok writer =>
  simp only [hwriter] at h
  cases hfinish : encoder.finish writer (min elapsed settings.max_duration) with
  | error message => simp [hfinish] at h
  | ok out =>
  obtain ⟨out, written⟩ := out
  simp only [hfinish] at h
  obtain ⟨rfl, rfl⟩ := Prod.mk.inj (Except.ok.inj h)
  refine ⟨⟨rfl, rfl⟩, writer, ?_, hfinish⟩
  cases halive : recording.writer with
  | error message =>
      rw [drain_dead (by exact halive)] at hwriter
      cases hwriter
  | ok before =>
      obtain ⟨hqueue, hpushed⟩ := hinv before halive
      have hclosed : Encoded encoder
          { recording with queue := recording.queue.close (min elapsed settings.max_duration) }
          ((handed_during width height first steps).1.close (min elapsed settings.max_duration),
            (handed_during width height first steps).2) := by
        intro writer' hwriter'
        obtain ⟨hqueue', hpushed'⟩ := hinv writer' hwriter'
        exact ⟨congrArg (fun queue => queue.close (min elapsed settings.max_duration)) hqueue', hpushed'⟩
      refine drain_encoded _ hclosed ?_ hwriter
      rw [hqueue]
      rfl

end Handed

/-! ## How long a GIF's timeline is -/

section Gif

variable {C W : Type} (K : GifCodec C) (E : GifEncoder C W)

/-- The centiseconds a GIF's frames fill when the one on screen since `began` should end at
the first of the times, and each later one at the next: at least two each, and at most
the 65535 a delay holds. -/
def grid_length : Nat → List Nat → Nat
  | _, [] => 0
  | began, until_cs :: rest =>
    let shown := max (until_cs - began) MINIMUM_DELAY_CS
    min shown 65535 + grid_length (began + shown) rest

/-- The centiseconds of the frames' GIF: each frame ends at the next change, the last at
the recording's end, counted from the first frame in whole centiseconds. -/
def gif_length (width height : Nat) (end_at : Duration) : List (List Byte × Duration) → Nat
  | [] => 0
  | (bgra, first_at) :: rest =>
    grid_length 0 ((change_times width height bgra rest ++ [end_at]).map fun pos =>
      GifWriter.as_centiseconds (pos - first_at))

/-- The centiseconds a reader counts in the frames. -/
def stored_cs (frames : List (GifFrame C)) : Nat := (frame_starts 0 frames).2

/-- A reader counts every delay, and one centisecond for a delay of zero. -/
theorem stored_cs_eq (frames : List (GifFrame C)) :
    stored_cs frames = ((delays frames).map (max · 1)).sum := by
  have from_elapsed : ∀ elapsed, (frame_starts elapsed frames).2 =
      elapsed + ((delays frames).map (max · 1)).sum := by
    induction frames with
    | nil => exact fun elapsed => rfl
    | cons frame frames ih =>
      intro elapsed
      simp only [frame_starts, delays, List.map_cons, List.sum_cons] at ih ⊢
      rw [ih]
      omega
  rw [stored_cs, from_elapsed, Nat.zero_add]

/-- The grid is filled by the delays meant, each cut to what a delay holds; none of them is
less than the one centisecond that a reader counts at least. -/
theorem grid_length_eq (began : Nat) (ends : List Nat) :
    (((intended began ends).map (min · 65535)).map (max · 1)).sum = grid_length began ends := by
  induction ends generalizing began with
  | nil => rfl
  | cons until_cs rest ih =>
    simp only [intended, grid_length, List.map_cons, List.sum_cons, MINIMUM_DELAY_CS] at ih ⊢
    rw [ih]
    omega

variable {width height : Nat}

/-- Frames that were all encoded were all pushed. -/
theorem push_all_of_encoded {frames : List (List Byte × Duration)} {w w' : GifWriter C W}
    (hpushes : frames.foldlM (fun w frame =>
      (encode_gif K E width height).push w frame.1 frame.2) w = .ok w') :
    GifWriter.push_all K E w frames = .ok w' := by
  induction frames generalizing w with
  | nil => exact congrArg Except.ok (Except.ok.inj hpushes)
  | cons frame rest ih =>
      obtain ⟨bgra, pos⟩ := frame
      rw [List.foldlM_cons] at hpushes
      rcases hpush : w.push K E bgra pos with ⟨w₁, error | ⟨⟩⟩
      · simp [encode_gif, hpush, bind, Except.bind] at hpushes
      · simp only [encode_gif, hpush, bind, Except.bind] at hpushes
        simp only [GifWriter.push_all, hpush]
        exact ih hpushes

/-- **The length of a recorded GIF**: the delays stored fill the recording's grid. -/
theorem recorded_delays {frames : List (List Byte × Duration)} {w : GifWriter C W}
    (hpushes : encode_each (encode_gif K E width height) frames = .ok w) {end_at : Duration}
    {file : W} {summary : AnimationSummary} (hfinish : w.finish E end_at = .ok (file, summary)) :
    stored_cs (E.stored file) = gif_length width height end_at frames := by
  unfold encode_each at hpushes
  cases hnew : GifWriter.new E width height with
  | error error => simp [encode_gif, hnew, bind, Except.bind] at hpushes
  | ok w₀ =>
  simp only [encode_gif, hnew, bind, Except.bind] at hpushes
  have hrecord : GifWriter.record K E width height frames end_at = .ok (file, summary) := by
    unfold GifWriter.record
    have pushed : GifWriter.push_all K E w₀ frames = .ok w :=
      @push_all_of_encoded _ _ K E width height _ _ _ hpushes
    rw [hnew, ok_bind, pushed, ok_bind, hfinish]
  rw [stored_cs_eq, record_delays K E hrecord, grid_length_eq]
  cases frames with
  | nil => rfl
  | cons frame rest =>
      unfold frame_ends gif_length
      rw [List.map_map]
      rfl

end Gif

/-! ## How long an MP4's timeline is -/

/-- The samples found in an MP4 last `length`: the last of them to end, or the last to
begin with its one tick, does so that long after the first begins. -/
def SamplesLast (length : Duration) (samples : List (Int × Int)) : Prop :=
  ∃ first ∈ samples, (∀ sample ∈ samples, first.1 ≤ sample.1) ∧
    (length ≤ duration_of_ticks (0 - first.1) ∨
      ∃ sample ∈ samples, length ≤ duration_of_ticks (sample.1 + max sample.2 1 - first.1))

/-- Dropping repeats drops no value and keeps the order. -/
theorem dedup_spec (times : List Int) :
    (dedup times).Sublist times ∧ ∀ time, time ∈ dedup times ↔ time ∈ times := by
  fun_induction dedup times with
  | case1 b rest ih =>
      refine ⟨ih.1.cons b, fun time => ?_⟩
      rw [ih.2 time]
      simp
  | case2 a b rest hne ih =>
      refine ⟨ih.1.cons_cons a, fun time => ?_⟩
      rw [List.mem_cons, List.mem_cons, ih.2 time]
  | case3 times _ => exact ⟨List.Sublist.refl _, fun _ => Iff.rfl⟩

/-- The times of the samples, in order. -/
theorem sample_times_spec (samples : List (Int × Int)) :
    (sample_times samples).Pairwise (· ≤ ·) ∧
      ∀ time, time ∈ sample_times samples ↔ ∃ sample ∈ samples, sample.1 = time := by
  obtain ⟨hsub, hmem⟩ := dedup_spec ((samples.map Prod.fst).mergeSort fun a b => decide (a ≤ b))
  have htrans : ∀ a b c : Int, decide (a ≤ b) → decide (b ≤ c) → decide (a ≤ c) := by
    intro a b c hab hbc
    simp only [decide_eq_true_eq] at *
    omega
  have hsorted := List.pairwise_mergeSort htrans
    (by intro a b; simp only [Bool.or_eq_true, decide_eq_true_eq]; omega) (samples.map Prod.fst)
  constructor
  · exact (hsorted.imp fun h => of_decide_eq_true h).sublist hsub
  · intro time
    unfold sample_times
    rw [hmem, List.mem_mergeSort, List.mem_map]

/-- The end of the samples is zero or where one of them ends, and none ends after it. -/
theorem samples_end_spec (samples : List (Int × Int)) :
    (0 ≤ samples_end samples ∧ ∀ sample ∈ samples, sample.1 + sample.2 ≤ samples_end samples) ∧
      (samples_end samples = 0 ∨ ∃ sample ∈ samples, samples_end samples = sample.1 + sample.2) := by
  have hfrom : ∀ (samples : List (Int × Int)) (latest : Int),
      let found := samples.foldl (fun latest sample => max latest (sample.1 + sample.2)) latest
      (latest ≤ found ∧ ∀ sample ∈ samples, sample.1 + sample.2 ≤ found) ∧
        (found = latest ∨ ∃ sample ∈ samples, found = sample.1 + sample.2) := by
    intro samples
    induction samples with
    | nil => simp
    | cons sample rest ih =>
        intro latest
        obtain ⟨⟨hle, hends⟩, hfound⟩ := ih (max latest (sample.1 + sample.2))
        simp only [List.foldl_cons]
        refine ⟨⟨by omega, ?_⟩, ?_⟩
        · intro other hother
          rcases List.mem_cons.mp hother with rfl | hother
          · omega
          · exact hends other hother
        · rcases hfound with hfound | ⟨other, hother, hfound⟩
          · rcases le_total (sample.1 + sample.2) latest with hcmp | hcmp
            · exact Or.inl (hfound.trans (max_eq_left hcmp))
            · exact Or.inr ⟨sample, by simp, hfound.trans (max_eq_right hcmp)⟩
          · exact Or.inr ⟨other, by simp [hother], hfound⟩
  exact hfrom samples 0

/-- SRC: playback.rs:38-55 -/
theorem new_duration {starts : List Duration} {duration : Duration} {timeline : Timeline}
    (h : Timeline.new starts duration = .ok timeline) : timeline.duration = duration := by
  unfold Timeline.new at h
  split at h
  · split at h
    · split at h
      · obtain rfl := Except.ok.inj h
        rfl
      · cases h
    · cases h
  · cases h

/-- An MP4's timeline lasts as long as its samples do.
SRC: video_reader.rs:123-154 -/
theorem mp4_timeline_length {samples : List (Int × Int)} {timeline : Timeline}
    (h : mp4_timeline samples = .ok timeline) (length : Duration) :
    length ≤ timeline.duration ↔ SamplesLast length samples := by
  obtain ⟨hsorted, hmem⟩ := sample_times_spec samples
  obtain ⟨⟨hzero, hends⟩, hend⟩ := samples_end_spec samples
  unfold mp4_timeline at h
  simp only at h
  split at h
  · cases h
  rename_i origin horigin
  set times := sample_times samples with htimes
  have hduration := new_duration h
  obtain ⟨tail, htail⟩ : ∃ tail, times = origin :: tail := by
    cases hcases : times with
    | nil => simp [hcases] at horigin
    | cons head tail =>
        rw [hcases, List.head?_cons, Option.some.injEq] at horigin
        exact ⟨tail, by rw [horigin]⟩
  obtain ⟨first, hfirst, hfirst_eq⟩ := (hmem origin).mp (by simp [htail])
  have hleast : ∀ sample ∈ samples, origin ≤ sample.1 := by
    intro sample hsample
    have hin := (hmem sample.1).mpr ⟨sample, hsample, rfl⟩
    rw [htail] at hsorted hin
    rcases List.mem_cons.mp hin with heq | hin
    · omega
    · exact (List.pairwise_cons.mp hsorted).1 _ hin
  obtain ⟨final, hfinal, hfinal_last, hgreatest⟩ : ∃ final ∈ samples,
      times.getLast?.getD origin = final.1 ∧ ∀ sample ∈ samples, sample.1 ≤ final.1 := by
    have hne : times ≠ [] := by simp [htail]
    obtain ⟨final, hfinal, hfinal_eq⟩ := (hmem _).mp (List.getLast_mem hne)
    refine ⟨final, hfinal, by rw [List.getLast?_eq_some_getLast hne, Option.getD_some, hfinal_eq],
      fun sample hsample => ?_⟩
    rw [hfinal_eq]
    have hin := (hmem _).mpr ⟨sample, hsample, rfl⟩
    rw [← List.dropLast_append_getLast hne] at hin
    rcases List.mem_append.mp hin with hin | hin
    · exact hsorted.rel_dropLast_getLast hin
    · exact (List.mem_singleton.mp hin).le
  rw [hduration, hfinal_last]
  have hmono : ∀ a b : Int, a ≤ b → duration_of_ticks a ≤ duration_of_ticks b := by
    intro a b hab
    show a.toNat * 100 ≤ b.toNat * 100
    omega
  constructor
  · intro hlast
    refine ⟨first, hfirst, fun sample hsample => by rw [hfirst_eq]; exact hleast sample hsample, ?_⟩
    rw [hfirst_eq]
    -- The end is where a sample ends, where the last one's tick does, or zero.
    rcases le_total (samples_end samples) (final.1 + 1) with hcmp | hcmp
    · refine Or.inr ⟨final, hfinal, hlast.trans (hmono _ _ ?_)⟩
      omega
    · rcases hend with hend | ⟨sample, hsample, hend⟩
      · refine Or.inl (hlast.trans (hmono _ _ ?_))
        omega
      · refine Or.inr ⟨sample, hsample, hlast.trans (hmono _ _ ?_)⟩
        omega
  · rintro ⟨first', hfirst', hleast', hlast⟩
    have horigin_eq : first'.1 = origin := by
      have h₁ := hleast first' hfirst'
      have h₂ := hleast' first hfirst
      omega
    rw [horigin_eq] at hlast
    rcases hlast with hlast | ⟨sample, hsample, hlast⟩
    · refine hlast.trans (hmono _ _ ?_)
      omega
    · refine hlast.trans (hmono _ _ ?_)
      have h₁ := hends sample hsample
      have h₂ := hgreatest sample hsample
      omega

/-! ## What a review saves -/

section Review

variable {C W S F : Type} (K : GifCodec C) (E : GifEncoder C W) (M : Mp4Sink S F)

/-- The recorded file plays as long as the report says: a GIF of the frames handed to its
encoder fills that length on its grid, and an MP4's samples last that long. -/
def PlaysReported (frames : List (List Byte × Duration)) (report : RecordingReport) :
    RecordedFile W F → Prop
  | .Gif _ => report.duration ≤
      from_millis (10 * gif_length report.width report.height report.duration frames)
  | .Mp4 file => SamplesLast (max report.duration (from_millis 1)) (M.samples file)

variable {K E M}

/-- A GIF reader's timeline lasts as long as the delays stored.
SRC: playback.rs:236-285 -/
theorem gif_timeline_length {width height : UInt16} {frames : List (GifFrame C)}
    {reader : GifReader C} (h : GifReader.new width height frames = .ok reader) :
    frames ≠ [] ∧ reader.timeline.duration = from_millis (10 * stored_cs frames) := by
  unfold GifReader.new at h
  simp only at h
  split at h
  · cases h
  rename_i hsome
  cases htimeline : Timeline.new (frame_starts 0 frames).1
      (from_millis ((frame_starts 0 frames).2 * 10)) with
  | error error => simp [htimeline, bind, Except.bind] at h
  | ok timeline =>
      simp only [htimeline, bind, Except.bind] at h
      obtain rfl := Except.ok.inj h
      refine ⟨fun hnil => hsome (Or.inl (by simp [hnil])), ?_⟩
      rw [new_duration htimeline, stored_cs, Nat.mul_comm]

/-- A centisecond is more than the millisecond a report stands for at least. -/
theorem max_millisecond_le {length cs : Nat} (hcs : 1 ≤ cs) :
    max length (from_millis 1) ≤ from_millis (10 * cs) ↔ length ≤ from_millis (10 * cs) := by
  unfold from_millis
  omega

/-- **An answer that keeps everything saves the recording's own bytes exactly when the
recorded file plays as long as the report says.**
SRC: recording.rs:1227-1267 -/
theorem save_unchanged_iff {settings : RecordingSettings} {width height : Nat}
    {first : List Byte} {steps : List RecordStep} {elapsed : Duration} {ended : RecordingEnd}
    {report : RecordingReport} {file : RecordedFile W F} {timeline : Timeline}
    (hrecord : record_in_memory K E M settings width height first steps elapsed ended =
      .ok (report, file))
    (hreader : open_reader E M report.width report.height file = .ok timeline) :
    review_conclusion report (.Save ⟨0, timeline.duration, none⟩) = .save_unchanged ↔
      PlaysReported M (frames_handed width height first steps) report file := by
  have hconclusion : review_conclusion report (.Save ⟨0, timeline.duration, none⟩) =
      .save_unchanged ↔ max report.duration (from_millis 1) ≤ timeline.duration := by
    simp [review_conclusion, RecordingEdit.changes_nothing, timeline_of]
  rw [hconclusion]
  unfold record_in_memory at hrecord
  cases hformat : settings.format with
  | Gif =>
      simp only [hformat] at hrecord
      cases hinto : record_into (encode_gif K E width height) settings width height first steps
          elapsed ended with
      | error error => simp [hinto, bind, Except.bind] at hrecord
      | ok recorded =>
      obtain ⟨report', w⟩ := recorded
      simp only [hinto, bind, Except.bind] at hrecord
      obtain ⟨rfl, rfl⟩ := Prod.mk.inj (Except.ok.inj hrecord)
      obtain ⟨⟨rfl, rfl⟩, writer, hpushes, hfinish⟩ := record_into_spec hinto
      unfold open_reader at hreader
      cases hnew : GifReader.new (UInt16.ofNat report'.width) (UInt16.ofNat report'.height)
          (E.stored w) with
      | error error => simp [hnew, bind, Except.bind] at hreader
      | ok reader =>
      simp only [hnew, bind, Except.bind] at hreader
      obtain rfl := Except.ok.inj hreader
      obtain ⟨hsome, hlength⟩ := gif_timeline_length hnew
      have hstored : stored_cs (E.stored w) = gif_length report'.width report'.height
          report'.duration (frames_handed report'.width report'.height first steps) := by
        simp only [encode_gif] at hfinish
        split at hfinish
        · rename_i file summary hfile
          obtain ⟨rfl, -⟩ := Prod.mk.inj (Except.ok.inj hfinish)
          exact recorded_delays K E hpushes hfile
        · cases hfinish
      have hleast : 1 ≤ stored_cs (E.stored w) := by
        rw [← List.dropLast_append_getLast hsome, stored_cs_eq]
        simp only [delays, List.map_append, List.map_cons, List.map_nil, List.sum_append,
          List.sum_singleton]
        omega
      rw [hlength, hstored]
      rw [hstored] at hleast
      exact max_millisecond_le hleast
  | Mp4 =>
      simp only [hformat] at hrecord
      cases hinto : record_into (encode_mp4 M width height) settings width height first steps
          elapsed ended with
      | error error => simp [hinto, bind, Except.bind] at hrecord
      | ok recorded =>
      obtain ⟨report', file'⟩ := recorded
      simp only [hinto, bind, Except.bind] at hrecord
      obtain ⟨rfl, rfl⟩ := Prod.mk.inj (Except.ok.inj hrecord)
      exact mp4_timeline_length hreader _

end Review

/-! ## A recording that ends off the grid -/

/-- A sink that keeps its samples in a list. -/
def list_sink : Mp4Sink (List Mp4Sample) (List Mp4Sample) where
  create _ _ _ := .ok []
  write_sample samples sample := .ok (samples ++ [sample])
  finalize := .ok
  samples := List.map fun sample => (sample.time, sample.duration)

/-- The report and the file of one still pixel recorded as a GIF until `elapsed`. -/
def still_report (elapsed : Duration) : RecordingReport :=
  ⟨.Gif, 1, 1, elapsed, 1, 1, 0, .Stopped⟩

/-- The file, which holds one frame. -/
def still_gif (delay : UInt16) : List (GifFrame (List Byte)) :=
  [⟨0, 0, 1, 1, delay, .Keep, [3, 2, 1, 255]⟩]

/-- Stopped after a second, it is saved as it was recorded. -/
theorem save_unchanged_one_second :
    ∃ timeline, open_reader list_encoder list_sink 1 1 (.Gif (still_gif 100)) = .ok timeline ∧
      review_conclusion (still_report (from_millis 1000))
        (.Save ⟨0, timeline.duration, none⟩) = .save_unchanged := by
  have hrecord : record_in_memory raw_codec list_encoder list_sink ⟨.Gif, from_millis 60000⟩ 1 1
      [1, 2, 3, 255] [.taken] (from_millis 1000) .Stopped =
        .ok (still_report (from_millis 1000), .Gif (still_gif 100)) := rfl
  obtain ⟨timeline, hreader⟩ : ∃ timeline,
      open_reader list_encoder list_sink 1 1 (.Gif (still_gif 100)) = .ok timeline := ⟨_, rfl⟩
  refine ⟨timeline, hreader, (save_unchanged_iff hrecord hreader).mpr ?_⟩
  show from_millis 1000 ≤ from_millis (10 * gif_length 1 1 (from_millis 1000) [([1, 2, 3, 255], 0)])
  decide

/-- Stopped after 1005 ms, its GIF plays for 1000 ms, and keeping all of them encodes it
again. -/
theorem still_pixel_encoded_again :
    record_in_memory raw_codec list_encoder list_sink ⟨.Gif, from_millis 60000⟩ 1 1
        [1, 2, 3, 255] [.taken] (from_millis 1005) .Stopped =
      .ok (still_report (from_millis 1005), .Gif (still_gif 100)) ∧
    ∃ timeline, open_reader list_encoder list_sink 1 1 (.Gif (still_gif 100)) = .ok timeline ∧
      review_conclusion (still_report (from_millis 1005)) (.Save ⟨0, timeline.duration, none⟩) =
        .save_edited ⟨0, from_millis 1000, none⟩ := by
  refine ⟨rfl, _, rfl, ?_⟩
  decide

end Captastic.Analysis
