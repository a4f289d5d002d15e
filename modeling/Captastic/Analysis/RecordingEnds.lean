import Captastic.Analysis.FrameCrop
import Captastic.Analysis.GifRoundTrip
import Captastic.Library.Runs
import Captastic.Model.RecordingRun

/-!
# How a recording's threads end

The encoder's thread ends once the queue is closed or has failed: its steps count down
(`encoder_steps_le`), and it is never without one to take.  `record_into` closes the queue on
every way out but one: a frame whose pixels do not convert makes it return with the queue open,
and the encoder waits for a frame that nobody pushes.  So a recording is settled in all its
states exactly when every frame it takes converts, and the file that a failed recording leaves
can be removed (`recording_settled_iff`).
-/

set_option autoImplicit false

namespace Captastic.Analysis

open Captastic.Library Captastic.Model

/-! ## Frames that convert -/

section Pixels

variable (scaling : Scaling) (frame : CpuFrame)

/-- A frame of eight bits a channel, with the source rectangle its pixels have, on whose display
the area is. -/
structure Croppable (area : Rect) : Prop where
  eight_bit : frame.format ≠ .Rgba16Float
  source : SourceMatches frame
  on_display : (area.intersection frame.metadata.source_rect).isSome = true

/-- SRC: recording.rs:361-416 -/
theorem frame_pixels_ok_iff (area : Rect) (width height : Nat) :
    (∃ pixels, frame_pixels scaling frame area width height = .ok pixels) ↔
      Croppable frame area := by
  unfold frame_pixels
  cases format : frame.format with
  | Rgba16Float =>
    constructor
    · rintro ⟨pixels, converted⟩
      cases converted
    · intro croppable
      exact absurd format croppable.eight_bit
  | Bgra8Unorm | Rgba8Unorm =>
    simp only [PixelFormat.encoding, recorded_area]
    cases met : area.intersection frame.metadata.source_rect with
    | none =>
      constructor
      · rintro ⟨pixels, converted⟩
        cases converted
      · intro croppable
        have on_display := croppable.on_display
        rw [met] at on_display
        cases on_display
    | some part =>
      have inside : Inside frame.metadata.source_rect part :=
        ⟨(Rect.intersection_eq_some met).2.2.2.2, Rect.within_of_intersection met⟩
      by_cases source : SourceMatches frame
      · obtain ⟨cropped, made, -⟩ := crop_of_inside source inside
        have croppable : Croppable frame area := by
          refine ⟨?_, source, ?_⟩
          · rw [format]
            intro wide
            cases wide
          · rw [met]
            rfl
        simp only [made, croppable, iff_true]
        split
        · exact ⟨_, rfl⟩
        · split <;> exact ⟨_, rfl⟩
      · obtain ⟨error, refused⟩ := @crop_refused frame part
          fun accepted => source accepted.1
        simp only [refused, fail]
        constructor
        · rintro ⟨pixels, converted⟩
          cases converted
        · intro croppable
          exact absurd croppable.source source

/-- The area of a frame that is converted: all of a window that has been resized. -/
def converted_area (whole : Bool) (area : Rect) : Rect :=
  if whole ∧ (frame.width, frame.height) ≠ (area.width, area.height) then whole_rect frame
  else area

/-- SRC: recording.rs:306-345 -/
theorem pixels_for_ok_iff (whole : Bool) (area : Rect) (width height : Nat) :
    (∃ pixels, pixels_for scaling frame whole area width height = .ok pixels) ↔
      Croppable frame (converted_area frame whole area) := by
  unfold pixels_for converted_area
  split
  · have fitted := frame_pixels_ok_iff scaling frame (whole_rect frame)
      (max 1 (min (scaling.fitted_size (frame.width, frame.height) (width, height)).1 width))
      (max 1 (min (scaling.fitted_size (frame.width, frame.height) (width, height)).2 height))
    rw [← fitted]
    unfold fitted_pixels
    simp only
    split
    · rename_i error refused
      constructor
      · rintro ⟨pixels, converted⟩
        cases converted
      · rintro ⟨pixels, converted⟩
        cases refused.symm.trans converted
    · rename_i pixels converted
      exact ⟨fun _ => ⟨pixels, converted⟩, fun _ => ⟨_, rfl⟩⟩
  · exact frame_pixels_ok_iff scaling frame area width height

end Pixels

/-! ## The steps of both threads -/

variable {S F : Type}

/-- The stages before the encoder's thread is spawned. -/
def early : ProducerStage F → Bool
  | .starts | .spawns _ => true
  | _ => false

/-- The stages of the pacing loop around a frame's capture. -/
def pacing : ProducerStage F → Bool
  | .waits | .checks | .asks => true
  | _ => false

/-- The stages in which the encoder's thread has been spawned and the queue is open. -/
def working : ProducerStage F → Bool
  | .converts .. | .pushes .. | .waits | .checks | .asks | .closes _ | .gives_up _ => true
  | _ => false

/-- The stages between closing the queue and returning. -/
def joining : ProducerStage F → Bool
  | .joins .. | .joins_failed _ | .reports .. => true
  | _ => false

/-- `record_into` has returned. -/
def finished : ProducerStage F → Bool
  | .returned _ | .done _ => true
  | _ => false

/-- A step of the encoder's thread. -/
def of_encoder : RecordEvent → Bool
  | .encoder _ => true
  | _ => false

variable {setup : RecordSetup S F} {run run' : RecordRun S F} {event : RecordEvent}

/-- The stages that end the recording. -/
def stopping : ProducerStage F → Bool
  | .closes _ | .gives_up _ => true
  | _ => false

/-- A step of the pacing loop: its next stage, the clock and the time of the next frame. -/
inductive PaceMoves (setup : RecordSetup S F) (run : RecordRun S F) :
    ProducerStage F → Duration → Duration → Prop
  | waits (clock : Duration) (stage : run.producer = .waits) :
    PaceMoves setup run .waits clock run.next
  | due (clock : Duration) (stage : run.producer = .waits) (due : run.next ≤ clock) :
    PaceMoves setup run .checks clock run.next
  | asks (clock next : Duration) (stage : run.producer = .checks) (later : clock ≤ next)
      (spaced : run.next + RecordRun.interval setup ≤ next) :
    PaceMoves setup run .asks clock next
  | misses (stage : run.producer = .asks) : PaceMoves setup run .waits run.clock run.next
  | stops (stage' : ProducerStage F) (clock : Duration) (ending : stopping stage' = true) :
    PaceMoves setup run stage' clock run.next

/-- What one step makes of a recording. -/
inductive RecordMoves (setup : RecordSetup S F) (run : RecordRun S F) :
    RecordEvent → RecordRun S F → Prop
  | refused {event : RecordEvent} (error : RecordingError) (stage : early run.producer = true)
      (producers : of_encoder event = false) :
    RecordMoves setup run event (run.returns (.error error))
  | begins {event : RecordEvent} (first : CpuFrame) (area : Rect) (stage : run.producer = .starts)
      (producers : of_encoder event = false) :
    RecordMoves setup run event (run.begin_with setup first area)
  | spawned {event : RecordEvent} (first : CpuFrame) (stage : run.producer = .spawns first)
      (producers : of_encoder event = false) :
    RecordMoves setup run event
      { run with encoder := .opens, producer := .converts first 0, captured := 1, failures := 0,
                 next := RecordRun.interval setup }
  | unconverted (frame : CpuFrame) (pos : Duration) (error : RecordingError)
      (stage : run.producer = .converts frame pos)
      (fails : pixels_for setup.scaling frame setup.whole run.shape.area run.shape.width
        run.shape.height = .error error) :
    RecordMoves setup run .converts (run.returns (.error error))
  | converted (frame : CpuFrame) (pos : Duration) (pixels : List Byte)
      (stage : run.producer = .converts frame pos) :
    RecordMoves setup run .converts { run with producer := .pushes pixels pos }
  | pushed (pixels : List Byte) (pos : Duration) (stage : run.producer = .pushes pixels pos) :
    RecordMoves setup run .pushes
      { run with queue := run.queue.push pixels pos, producer := .waits
                 pushed := run.pushed ++ [(pixels, pos)] }
  | paced {event : RecordEvent} (stage' : ProducerStage F) (failures : Nat) (clock next : Duration)
      (stage : pacing run.producer = true) (goes_on : working stage' = true)
      (pace : PaceMoves setup run stage' clock next)
      (later : run.clock ≤ clock) (producers : of_encoder event = false) :
    RecordMoves setup run event { run with producer := stage', failures, clock, next }
  | answered (frame : CpuFrame) (elapsed : Duration) (stage : run.producer = .asks)
      (later : run.clock ≤ elapsed) :
    RecordMoves setup run (.answers frame elapsed)
      { run with clock := elapsed, failures := 0, captured := run.captured + 1
                 producer := .converts frame elapsed }
  | closed (elapsed : Duration) (ended : RecordingEnd) (stage : run.producer = .closes ended)
      (later : run.clock ≤ elapsed) :
    RecordMoves setup run (.closes elapsed)
      { run with clock := elapsed
                 queue := run.queue.close (min elapsed setup.settings.max_duration)
                 producer := .joins (min elapsed setup.settings.max_duration) ended }
  | gave_up (elapsed : Duration) (message : String) (stage : run.producer = .gives_up message)
      (later : run.clock ≤ elapsed) :
    RecordMoves setup run (.closes elapsed)
      { run with clock := elapsed, queue := run.queue.close elapsed
                 producer := .joins_failed message }
  | joined (duration : Duration) (ended : RecordingEnd) (file : F) (frames_written : Nat)
      (stage : run.producer = .joins duration ended)
      (wrote : run.encoder = .ended (.ok (file, frames_written))) :
    RecordMoves setup run .joins { run with producer := .reports duration ended file frames_written }
  | failed {event : RecordEvent} (error : RecordingError) (stage : joining run.producer = true)
      (stopped : run.encoder.stopped = true) (producers : of_encoder event = false) :
    RecordMoves setup run event (run.returns (.error error))
  | unmeasured {event : RecordEvent} (error : RecordingError) (duration : Duration)
      (ended : RecordingEnd) (file : F) (frames_written : Nat)
      (stage : run.producer = .reports duration ended file frames_written)
      (producers : of_encoder event = false) :
    RecordMoves setup run event (run.returns (.error error))
  | measured {event : RecordEvent} (duration : Duration) (ended : RecordingEnd) (file : F)
      (frames_written : Nat) (data : Option F)
      (stage : run.producer = .reports duration ended file frames_written)
      (producers : of_encoder event = false) :
    RecordMoves setup run event
      (run.returns (.ok (run.report setup duration ended frames_written, data)))
  | left (removed : Bool) (made : RecordingReport × Option F)
      (stage : run.producer = .returned (.ok made)) :
    RecordMoves setup run (.leaves removed) { run with producer := .done (.ok made) }
  | removed (removed : Bool) (error : RecordingError)
      (stage : run.producer = .returned (.error error)) :
    RecordMoves setup run (.leaves removed)
      { run with producer := .done (.error error)
                 file := if setup.to_path ∧ removed then .absent else run.file }
  | encoder (event : EncoderEvent) {run' : RecordRun S F}
      (taken : run.encoder_step setup event = some run') :
    RecordMoves setup run (.encoder event) run'

/-- SRC: recording.rs:219-236 -/
theorem due_of_poll {stop gone : Bool} {elapsed now : Duration}
    (polled : run.poll setup stop elapsed gone now = some none) : run.next ≤ now := by
  unfold RecordRun.poll at polled
  split at polled
  · cases polled
  · split at polled
    · cases polled
    · split at polled
      · cases polled
      · split at polled
        · assumption
        · cases polled

/-- The next frame's time is an interval after the last one's, and not before now.
SRC: recording.rs:244-248 -/
theorem next_time (next interval now : Nat) :
    now ≤ (if next + interval < now then now + interval else next + interval) ∧
      next + interval ≤ (if next + interval < now then now + interval else next + interval) := by
  split <;> omega

/-- A recording's stage is one of those its name says. -/
theorem stage_is {kind : ProducerStage F → Bool} {stage : ProducerStage F}
    (at_stage : run.producer = stage) (is_kind : kind stage = true) :
    kind run.producer = true := by
  rw [at_stage]
  exact is_kind

/-- The first frame begins the recording, which has not yet spawned the encoder's thread, or refuses
it.
SRC: recording.rs:185-198 -/
theorem first_moves {answer : Except String CpuFrame}
    (taken : run.step setup (.first answer) = some run') :
    RecordMoves setup run (.first answer) run' := by
  simp only [RecordRun.step] at taken
  split at taken
  · rename_i stage
    have is_early : early run.producer = true := stage_is stage rfl
    cases answer with
    | error message =>
      cases taken
      exact .refused _ is_early rfl
    | ok first =>
      simp only at taken
      split at taken
      · cases taken
        exact .begins _ _ stage rfl
      · split at taken
        · cases taken
          exact .refused _ is_early rfl
        · cases taken
          exact .begins _ _ stage rfl
  · cases taken

/-- The encoder's thread is spawned, or cannot be.
SRC: recording.rs:202-218 -/
theorem spawns_moves {error : Option String} (taken : run.step setup (.spawns error) = some run') :
    RecordMoves setup run (.spawns error) run' := by
  simp only [RecordRun.step] at taken
  split at taken
  · rename_i first stage
    cases error with
    | some message =>
      cases taken
      exact .refused _ (stage_is stage rfl) rfl
    | none =>
      cases taken
      exact .spawned first stage rfl
  · cases taken

/-- The loop polls: it stops, goes on because a frame is due, or waits.
SRC: recording.rs:219-238 -/
theorem polls_moves {stop gone : Bool} {elapsed now : Duration}
    (taken : run.step setup (.polls stop elapsed gone now) = some run') :
    RecordMoves setup run (.polls stop elapsed gone now) run' := by
  simp only [RecordRun.step] at taken
  split at taken
  · rename_i stage
    have is_pacing : pacing run.producer = true := stage_is stage rfl
    split at taken
    · rename_i times
      have later := times.1.trans times.2
      split at taken
      · cases taken
        exact .paced _ run.failures now run.next is_pacing rfl (.stops _ now rfl) later rfl
      · rename_i polled
        cases taken
        exact .paced _ run.failures now run.next is_pacing rfl
          (.due now stage (due_of_poll polled)) later rfl
      · cases taken
        have stays : RecordMoves setup run (.polls stop elapsed gone now)
            { run with producer := .waits, clock := now } :=
          .paced _ run.failures now run.next is_pacing rfl (.waits now stage) later rfl
        rwa [← stage] at stays
    · cases taken
  · cases taken

/-- The loop looks at the encoder before it asks for a frame: it stops, or sets the next time.
SRC: recording.rs:239-248 -/
theorem checks_moves {now : Duration} (taken : run.step setup (.checks now) = some run') :
    RecordMoves setup run (.checks now) run' := by
  simp only [RecordRun.step] at taken
  split at taken
  · rename_i stage
    have is_pacing : pacing run.producer = true := stage_is stage rfl
    split at taken
    · rename_i later
      split at taken
      · cases taken
        exact .paced _ run.failures now run.next is_pacing rfl (.stops _ now rfl) later rfl
      · cases taken
        have times := next_time run.next (RecordRun.interval setup) now
        exact .paced _ run.failures now _ is_pacing rfl (.asks now _ stage times.1 times.2) later
          rfl
    · cases taken
  · cases taken

/-- A capture that fails ends the recording, or the loop waits for the next frame's time.
SRC: recording.rs:256-270 -/
theorem misses_moves {message : String} {gone : Bool}
    (taken : run.step setup (.misses message gone) = some run') :
    RecordMoves setup run (.misses message gone) run' := by
  simp only [RecordRun.step] at taken
  split at taken
  · rename_i stage
    have is_pacing : pacing run.producer = true := stage_is stage rfl
    split at taken
    · cases taken
      exact .paced _ run.failures run.clock run.next is_pacing rfl (.stops _ _ rfl) le_rfl rfl
    · split at taken
      · cases taken
        exact .paced _ _ run.clock run.next is_pacing rfl (.stops _ _ rfl) le_rfl rfl
      · cases taken
        exact .paced _ _ run.clock run.next is_pacing rfl (.misses stage) le_rfl rfl
  · cases taken

/-- The encoder's thread is joined once it has stopped: it wrote the file, or the recording fails.
SRC: recording.rs:273-276 -/
theorem joins_moves (taken : run.step setup .joins = some run') :
    RecordMoves setup run .joins run' := by
  have fails {stage : ProducerStage F} {thread : EncoderStage S F} {error : RecordingError}
      (at_stage : run.producer = stage) (is_joining : joining stage = true)
      (at_thread : run.encoder = thread) (is_over : thread.stopped = true) :
      RecordMoves setup run .joins (run.returns (.error error)) :=
    .failed error (stage_is at_stage is_joining) (at_thread ▸ is_over) rfl
  simp only [RecordRun.step] at taken
  split at taken
  · rename_i duration ended file frames_written stage wrote
    cases taken
    exact .joined duration ended file frames_written stage wrote
  · rename_i stage stopped
    cases taken
    exact fails stage rfl stopped rfl
  · rename_i stage stopped
    cases taken
    exact fails stage rfl stopped rfl
  · rename_i stage stopped
    cases taken
    exact fails stage rfl stopped rfl
  · rename_i stage stopped
    cases taken
    exact fails stage rfl stopped rfl
  · cases taken

/-- What was written is measured for the report.
SRC: recording.rs:277-296 -/
theorem measures_moves {error : Option String}
    (taken : run.step setup (.measures error) = some run') :
    RecordMoves setup run (.measures error) run' := by
  simp only [RecordRun.step] at taken
  split at taken
  · rename_i duration ended file frames_written stage
    split at taken
    · cases taken
      exact .unmeasured _ duration ended file frames_written stage rfl
    · cases taken
      exact .measured duration ended file frames_written _ stage rfl
    · cases taken
      exact .measured duration ended file frames_written _ stage rfl
  · cases taken

/-- Every step is one of these moves.
SRC: recording.rs:148-297 -/
theorem moves_of_step (taken : run.step setup event = some run') :
    RecordMoves setup run event run' := by
  cases event with
  | first answer => exact first_moves taken
  | spawns error => exact spawns_moves taken
  | converts =>
    simp only [RecordRun.step] at taken
    split at taken
    · rename_i frame pos stage
      split at taken
      · rename_i error fails
        cases taken
        exact .unconverted frame pos error stage fails
      · rename_i pixels converts
        cases taken
        exact .converted frame pos pixels stage
    · cases taken
  | pushes =>
    simp only [RecordRun.step] at taken
    split at taken
    · rename_i pixels pos stage
      cases taken
      exact .pushed pixels pos stage
    · cases taken
  | polls stop elapsed gone now => exact polls_moves taken
  | checks now => exact checks_moves taken
  | answers frame elapsed =>
    simp only [RecordRun.step] at taken
    split at taken
    · rename_i stage
      split at taken
      · rename_i later
        cases taken
        exact .answered frame elapsed stage later
      · cases taken
    · cases taken
  | misses message gone => exact misses_moves taken
  | closes elapsed =>
    simp only [RecordRun.step] at taken
    split at taken
    · rename_i later
      split at taken
      · rename_i ended stage
        cases taken
        exact .closed elapsed ended stage later
      · rename_i message stage
        cases taken
        exact .gave_up elapsed message stage later
      · cases taken
    · cases taken
  | joins => exact joins_moves taken
  | measures error => exact measures_moves taken
  | leaves removed =>
    simp only [RecordRun.step] at taken
    split at taken
    · rename_i made stage
      cases taken
      exact .left removed made stage
    · rename_i error stage
      cases taken
      exact .removed removed error stage
    · cases taken
  | encoder event => exact .encoder event taken

/-- What one step of the encoder's thread makes of a recording. -/
inductive EncoderMoves (setup : RecordSetup S F) (run : RecordRun S F) : RecordRun S F → Prop
  | opened (writer : S) (file : PathFile F) (stage : run.encoder = .opens)
      (created : (run.frame_encoder setup).create = .ok writer) :
    EncoderMoves setup run { run with encoder := .pops writer, file }
  | unopened (error : RecordingError) (file : PathFile F) (stage : run.encoder = .opens) :
    EncoderMoves setup run { run with encoder := .fails error, file }
  | popped (writer : S) (pixels : List Byte) (pos : Duration) (rest : List (List Byte × Duration))
      (stage : run.encoder = .pops writer) (frames : run.queue.frames = (pixels, pos) :: rest) :
    EncoderMoves setup run
      { run with queue := { run.queue with frames := rest }, encoder := .encodes writer pixels pos
                 delivered := run.delivered ++ [(pixels, pos)] }
  | drained (writer : S) (end_at : Duration) (stage : run.encoder = .pops writer)
      (frames : run.queue.frames = []) (closed : run.queue.closed_at = some end_at) :
    EncoderMoves setup run { run with encoder := .finishes writer end_at }
  | encoded (writer : S) (pixels : List Byte) (pos : Duration) (writer' : S)
      (stage : run.encoder = .encodes writer pixels pos)
      (pushed : (run.frame_encoder setup).push writer pixels pos = .ok writer') :
    EncoderMoves setup run { run with encoder := .pops writer' }
  | refused (error : RecordingError)
      (stage : (∃ writer pixels pos, run.encoder = .encodes writer pixels pos) ∨
        ∃ writer end_at, run.encoder = .finishes writer end_at) :
    EncoderMoves setup run { run with encoder := .fails error }
  | finished (writer : S) (end_at : Duration) (file : F) (frames_written : Nat)
      (stage : run.encoder = .finishes writer end_at)
      (wrote : (run.frame_encoder setup).finish writer end_at = .ok (file, frames_written)) :
    EncoderMoves setup run
      { run with encoder := .ended (.ok (file, frames_written))
                 file := if setup.to_path then .complete file else run.file }
  | failed (error : RecordingError) (stage : run.encoder = .fails error) :
    EncoderMoves setup run { run with queue := run.queue.fail, encoder := .ended (.error error) }
  | panicked (present : run.encoder ≠ .absent) (going : run.encoder.stopped = false) :
    EncoderMoves setup run { run with encoder := .panicked }

/-- SRC: recording.rs:422-519, 605-640 -/
theorem encoder_moves_of_step {event : EncoderEvent}
    (taken : run.encoder_step setup event = some run') : EncoderMoves setup run run' := by
  unfold RecordRun.encoder_step at taken
  cases event with
  | opens error touched =>
    simp only at taken
    split at taken
    · rename_i stage
      split at taken
      · cases taken
        exact .unopened _ _ stage
      · split at taken
        · rename_i writer created
          cases taken
          exact .opened writer _ stage created
        · cases taken
          exact .unopened _ _ stage
    · cases taken
  | pops =>
    simp only at taken
    split at taken
    · rename_i writer stage
      unfold FrameQueue.pop at taken
      cases frames : run.queue.frames with
      | cons frame rest =>
        simp only [frames] at taken
        cases taken
        exact .popped writer frame.1 frame.2 rest stage frames
      | nil =>
        simp only [frames] at taken
        cases closed : run.queue.closed_at with
        | none =>
          simp only [closed, Option.map_none] at taken
          cases taken
        | some end_at =>
          simp only [closed, Option.map_some] at taken
          cases taken
          exact .drained writer end_at stage frames closed
    · cases taken
  | encodes =>
    simp only at taken
    split at taken
    · rename_i writer pixels pos stage
      split at taken
      · rename_i writer' pushed
        cases taken
        exact .encoded writer pixels pos writer' stage pushed
      · cases taken
        exact .refused _ (.inl ⟨writer, pixels, pos, stage⟩)
    · cases taken
  | finishes error =>
    simp only at taken
    split at taken
    · rename_i writer end_at stage
      split at taken
      · cases taken
        exact .refused _ (.inr ⟨writer, end_at, stage⟩)
      · cases taken
        exact .refused _ (.inr ⟨writer, end_at, stage⟩)
      · rename_i file frames_written wrote
        cases taken
        exact .finished writer end_at file frames_written stage wrote
    · cases taken
  | fails =>
    simp only at taken
    split at taken
    · rename_i error stage
      cases taken
      exact .failed error stage
    · cases taken
  | panics =>
    simp only at taken
    split at taken
    · rename_i stage
      cases taken
      apply EncoderMoves.panicked <;> rw [stage]
      · nofun
      · rfl
    · rename_i stage
      cases taken
      apply EncoderMoves.panicked <;> rw [stage]
      · nofun
      · rfl
    · rename_i stage
      cases taken
      apply EncoderMoves.panicked <;> rw [stage]
      · nofun
      · rfl
    · cases taken

/-- A step of the encoder's thread is one of a thread that is there and has not ended, and
leaves it there. -/
structure EncoderActs (run run' : RecordRun S F) : Prop where
  present : run.encoder ≠ .absent
  going : run.encoder.stopped = false
  present' : run'.encoder ≠ .absent
  producer : run'.producer = run.producer
  closed_at : run'.queue.closed_at = run.queue.closed_at
  pace : run'.pushed = run.pushed ∧ run'.clock = run.clock ∧ run'.next = run.next

/-- A step of the encoder's thread that leaves the other one's variables. -/
theorem acts_at {thread : EncoderStage S F} (stage : run.encoder = thread)
    (present : thread ≠ .absent) (going : thread.stopped = false) (present' : run'.encoder ≠ .absent)
    (producer : run'.producer = run.producer)
    (closed_at : run'.queue.closed_at = run.queue.closed_at)
    (pace : run'.pushed = run.pushed ∧ run'.clock = run.clock ∧ run'.next = run.next) :
    EncoderActs run run' := by
  rw [← stage] at present going
  exact ⟨present, going, present', producer, closed_at, pace⟩

/-- Every step of the encoder's thread does. -/
theorem EncoderMoves.acts (moves : EncoderMoves setup run run') : EncoderActs run run' := by
  cases moves with
  | opened writer file stage created =>
    exact acts_at stage nofun rfl nofun rfl rfl ⟨rfl, rfl, rfl⟩
  | unopened error file stage => exact acts_at stage nofun rfl nofun rfl rfl ⟨rfl, rfl, rfl⟩
  | popped writer pixels pos rest stage frames =>
    exact acts_at stage nofun rfl nofun rfl rfl ⟨rfl, rfl, rfl⟩
  | drained writer end_at stage frames closed =>
    exact acts_at stage nofun rfl nofun rfl rfl ⟨rfl, rfl, rfl⟩
  | encoded writer pixels pos writer' stage pushed =>
    exact acts_at stage nofun rfl nofun rfl rfl ⟨rfl, rfl, rfl⟩
  | refused error stage =>
    rcases stage with ⟨writer, pixels, pos, stage⟩ | ⟨writer, end_at, stage⟩
    · exact acts_at stage nofun rfl nofun rfl rfl ⟨rfl, rfl, rfl⟩
    · exact acts_at stage nofun rfl nofun rfl rfl ⟨rfl, rfl, rfl⟩
  | finished writer end_at file frames_written stage wrote =>
    exact acts_at stage nofun rfl nofun rfl rfl ⟨rfl, rfl, rfl⟩
  | failed error stage => exact acts_at stage nofun rfl nofun rfl rfl ⟨rfl, rfl, rfl⟩
  | panicked present going => exact ⟨present, going, nofun, rfl, rfl, ⟨rfl, rfl, rfl⟩⟩

/-! ## What every step keeps -/

/-- The queue is closed between the end of the capture and the join, and not before; the
encoder's thread fails it when it ends with an error. -/
structure ThreadsKept (run : RecordRun S F) : Prop where
  unspawned : early run.producer = true → run.encoder = .absent ∧ run.queue.closed_at = none
  spawned : working run.producer = true →
    run.encoder ≠ .absent ∧ run.queue.closed_at = none
  closed : joining run.producer = true →
    run.encoder ≠ .absent ∧ run.queue.closed_at.isSome = true
  reported : ∀ duration ended file frames_written,
    run.producer = .reports duration ended file frames_written →
      run.encoder = .ended (.ok (file, frames_written))
  failed : run.queue.failed = true → ∃ error, run.encoder = .ended (.error error)

/-- Pushing a frame does not close the queue. -/
theorem push_closed_at (queue : FrameQueue) (pixels : List Byte) (pos : Duration) :
    (queue.push pixels pos).closed_at = queue.closed_at := by
  unfold FrameQueue.push
  split
  · rfl
  · simp only
    split <;> rfl

/-- Nor does it fail it. -/
theorem push_failed (queue : FrameQueue) (pixels : List Byte) (pos : Duration) :
    (queue.push pixels pos).failed = queue.failed := by
  unfold FrameQueue.push
  split
  · rfl
  · simp only
    split <;> rfl

/-- The queue has failed when the encoder's thread has ended with an error. -/
theorem failed_after (kept : ThreadsKept run) (moves : EncoderMoves setup run run') :
    run'.queue.failed = true → ∃ error, run'.encoder = .ended (.error error) := by
  have acts := moves.acts
  have not_yet : run.queue.failed ≠ true := by
    intro failed
    obtain ⟨error, ended⟩ := kept.failed failed
    have going := acts.going
    rw [ended] at going
    cases going
  intro failed
  cases moves with
  | failed error stage => exact ⟨error, rfl⟩
  | _ => exact absurd failed not_yet

/-- A recording that has returned leaves the encoder's thread as it is. -/
theorem ThreadsKept.of_finished {stage : ProducerStage F}
    (kept : ThreadsKept run) (is_finished : finished stage = true)
    (same_thread : run'.encoder = run.encoder) (same_stage : run'.producer = stage)
    (same_queue : run'.queue = run.queue) : ThreadsKept run' := by
  refine ⟨?_, ?_, ?_, ?_, ?_⟩
  · rw [same_stage]
    cases stage <;> cases is_finished <;> nofun
  · rw [same_stage]
    cases stage <;> cases is_finished <;> nofun
  · rw [same_stage]
    cases stage <;> cases is_finished <;> nofun
  · rw [same_stage]
    rintro duration ended file frames_written rfl
    cases is_finished
  · rw [same_queue, same_thread]
    exact kept.failed

/-- **One step** of either thread keeps what is kept. -/
theorem ThreadsKept.step (kept : ThreadsKept run) (moves : RecordMoves setup run event run') :
    ThreadsKept run' := by
  have from_working {stage : ProducerStage F} (at_stage : run.producer = stage)
      (is_working : working stage = true) :
      run.encoder ≠ .absent ∧ run.queue.closed_at = none := by
    apply kept.spawned
    rw [at_stage]
    exact is_working
  cases moves with
  | refused error stage producers => exact kept.of_finished rfl rfl rfl rfl
  | begins first area stage producers =>
    have before := kept.unspawned (by rw [stage]; rfl)
    exact ⟨fun _ => ⟨before.1, rfl⟩, nofun, nofun, nofun, nofun⟩
  | spawned first stage producers =>
    have before := kept.unspawned (by rw [stage]; rfl)
    refine ⟨nofun, fun _ => ⟨nofun, before.2⟩, nofun, nofun, ?_⟩
    intro failed
    obtain ⟨error, ended⟩ := kept.failed failed
    cases before.1.symm.trans ended
  | unconverted frame pos error stage fails => exact kept.of_finished rfl rfl rfl rfl
  | converted frame pos pixels stage =>
    exact ⟨nofun, fun _ => from_working stage rfl, nofun, nofun, kept.failed⟩
  | pushed pixels pos stage =>
    obtain ⟨present, still_open⟩ := from_working stage rfl
    refine ⟨nofun, fun _ => ⟨present, ?_⟩, nofun, nofun, ?_⟩
    · rw [← still_open]
      exact push_closed_at _ _ _
    · intro failed
      rw [push_failed] at failed
      exact kept.failed failed
  | paced stage' failures clock next stage goes_on pace later producers =>
    have working_before : working run.producer = true := by
      cases at_stage : run.producer <;> rw [at_stage] at stage <;> cases stage <;> rfl
    have before := kept.spawned working_before
    refine ⟨?_, fun _ => before, ?_, ?_, kept.failed⟩
    · intro is_early
      cases stage' <;> cases is_early <;> cases goes_on
    · intro is_joining
      cases stage' <;> cases is_joining <;> cases goes_on
    · rintro duration ended file frames_written rfl
      cases goes_on
  | answered frame elapsed stage later =>
    exact ⟨nofun, fun _ => from_working stage rfl, nofun, nofun, kept.failed⟩
  | closed elapsed ended stage later =>
    exact ⟨nofun, nofun, fun _ => ⟨(from_working stage rfl).1, rfl⟩, nofun, kept.failed⟩
  | gave_up elapsed message stage later =>
    exact ⟨nofun, nofun, fun _ => ⟨(from_working stage rfl).1, rfl⟩, nofun, kept.failed⟩
  | joined duration ended file frames_written stage wrote =>
    have before := kept.closed (by rw [stage]; rfl)
    refine ⟨nofun, nofun, fun _ => before, ?_, kept.failed⟩
    intro duration' ended' file' frames_written' same
    cases same
    exact wrote
  | failed error stage stopped producers => exact kept.of_finished rfl rfl rfl rfl
  | unmeasured error duration ended file frames_written stage producers =>
    exact kept.of_finished rfl rfl rfl rfl
  | measured duration ended file frames_written data stage producers =>
    exact kept.of_finished rfl rfl rfl rfl
  | left removed made stage => exact kept.of_finished rfl rfl rfl rfl
  | removed removed error stage => exact kept.of_finished rfl rfl rfl rfl
  | encoder event taken =>
    have moves := encoder_moves_of_step taken
    have acts := moves.acts
    refine ⟨?_, ?_, ?_, ?_, ?_⟩
    · intro is_early
      rw [acts.producer] at is_early
      exact absurd (kept.unspawned is_early).1 acts.present
    · intro is_working
      rw [acts.producer] at is_working
      exact ⟨acts.present', acts.closed_at.trans (kept.spawned is_working).2⟩
    · intro is_joining
      rw [acts.producer] at is_joining
      refine ⟨acts.present', ?_⟩
      rw [acts.closed_at]
      exact (kept.closed is_joining).2
    · intro duration ended file frames_written reports
      rw [acts.producer] at reports
      have going := acts.going
      rw [kept.reported _ _ _ _ reports] at going
      cases going
    · exact failed_after kept moves


/-! ## The encoder's thread ends -/

/-- A step of a recording. -/
def RecordingStep (setup : RecordSetup S F) (run : RecordRun S F) (event : RecordEvent)
    (run' : RecordRun S F) : Prop :=
  run.step setup event = some run'

/-- The queue has been closed, or has failed. -/
def told (run : RecordRun S F) : Prop :=
  run.queue.closed_at.isSome = true ∨ run.queue.failed = true

/-- The most steps the encoder's thread has left once nothing more is pushed. -/
def encoder_left (run : RecordRun S F) : Nat :=
  match run.encoder with
  | .absent | .ended _ | .panicked => 0
  | .opens => 2 * run.queue.frames.length + 4
  | .pops _ => 2 * run.queue.frames.length + 3
  | .encodes .. => 2 * run.queue.frames.length + 4
  | .finishes .. => 2
  | .fails _ => 1

/-- How many of the steps taken are the encoder's. -/
def encoder_steps (steps : List (Taken (RecordRun S F) RecordEvent)) : Nat :=
  steps.countP fun taken => of_encoder taken.event

/-- Every step of the encoder's thread leaves it fewer. -/
theorem encoder_left_lt (moves : EncoderMoves setup run run') :
    encoder_left run' < encoder_left run := by
  cases moves with
  | opened writer file stage created =>
    simp only [encoder_left, stage]
    omega
  | unopened error file stage =>
    simp only [encoder_left, stage]
    omega
  | popped writer pixels pos rest stage frames =>
    simp only [encoder_left, stage, frames, List.length_cons]
    omega
  | drained writer end_at stage frames closed =>
    simp only [encoder_left, stage]
    omega
  | encoded writer pixels pos writer' stage pushed =>
    simp only [encoder_left, stage]
    omega
  | refused error stage =>
    rcases stage with ⟨writer, pixels, pos, stage⟩ | ⟨writer, end_at, stage⟩
    · simp only [encoder_left, stage]
      omega
    · simp only [encoder_left, stage]
      omega
  | finished writer end_at file frames_written stage wrote =>
    simp only [encoder_left, stage]
    omega
  | failed error stage =>
    simp only [encoder_left, stage]
    omega
  | panicked present going =>
    simp only [encoder_left]
    cases stage : run.encoder with
    | absent => exact absurd stage present
    | ended result =>
      rw [stage] at going
      cases going
    | panicked =>
      rw [stage] at going
      cases going
    | _ =>
      simp only []
      omega

/-- What is left to encode depends on the queue and on the encoder's stage. -/
theorem encoder_left_of_eq (same_queue : run'.queue.frames = run.queue.frames)
    (same_thread : run'.encoder = run.encoder) : encoder_left run' = encoder_left run := by
  unfold encoder_left
  rw [same_queue, same_thread]

/-- Once the queue is closed or has failed it stays so, and only the encoder's steps change what
its thread has left. -/
theorem told_step (kept : ThreadsKept run) (is_told : told run)
    (moves : RecordMoves setup run event run') :
    told run' ∧ encoder_left run' + (of_encoder event).toNat ≤ encoder_left run := by
  have not_early : early run.producer = true → False := by
    intro is_early
    obtain ⟨absent, still_open⟩ := kept.unspawned is_early
    rcases is_told with closed | failed
    · rw [still_open] at closed
      cases closed
    · obtain ⟨error, ended⟩ := kept.failed failed
      cases absent.symm.trans ended
  have silent {event : RecordEvent} (producers : of_encoder event = false)
      {run' : RecordRun S F} (same_queue : run'.queue = run.queue)
      (same_thread : run'.encoder = run.encoder) :
      told run' ∧ encoder_left run' + (of_encoder event).toNat ≤ encoder_left run := by
    constructor
    · unfold told
      rw [same_queue]
      exact is_told
    · rw [encoder_left_of_eq (by rw [same_queue]) same_thread, producers]
      exact le_rfl
  cases moves with
  | refused error stage producers => exact absurd stage not_early
  | begins first area stage producers =>
    exact (not_early (by rw [stage]; rfl)).elim
  | spawned first stage producers =>
    exact (not_early (by rw [stage]; rfl)).elim
  | pushed pixels pos stage =>
    have failed : run.queue.failed = true := by
      have still_open := (kept.spawned (by rw [stage]; rfl)).2
      rcases is_told with closed | failed
      · rw [still_open] at closed
        cases closed
      · exact failed
    have unchanged : run.queue.push pixels pos = run.queue := if_pos failed
    exact silent rfl unchanged rfl
  | closed elapsed ended stage later => exact ⟨.inl rfl, le_rfl⟩
  | gave_up elapsed message stage later => exact ⟨.inl rfl, le_rfl⟩
  | unconverted frame pos error stage fails => exact silent rfl rfl rfl
  | converted frame pos pixels stage => exact silent rfl rfl rfl
  | paced stage' failures clock next stage goes_on pace later producers =>
    exact silent producers rfl rfl
  | answered frame elapsed stage later => exact silent rfl rfl rfl
  | joined duration ended file frames_written stage wrote => exact silent rfl rfl rfl
  | failed error stage stopped producers => exact silent producers rfl rfl
  | unmeasured error duration ended file frames_written stage producers =>
    exact silent producers rfl rfl
  | measured duration ended file frames_written data stage producers =>
    exact silent producers rfl rfl
  | left removed made stage => exact silent rfl rfl rfl
  | removed removed error stage => exact silent rfl rfl rfl
  | encoder event taken =>
    have moves := encoder_moves_of_step taken
    refine ⟨?_, encoder_left_lt moves⟩
    rcases is_told with closed | failed
    · left
      rw [moves.acts.closed_at]
      exact closed
    · obtain ⟨error, ended⟩ := kept.failed failed
      have going := moves.acts.going
      rw [ended] at going
      cases going

/-- **The encoder's steps count down** in every run from a state in which the queue is closed or
has failed. -/
theorem encoder_steps_le {steps : List (Taken (RecordRun S F) RecordEvent)}
    (kept : ThreadsKept run) (is_told : told run)
    (runs : Run (RecordingStep setup) run steps run') :
    ThreadsKept run' ∧ told run' ∧ encoder_steps steps + encoder_left run' ≤ encoder_left run := by
  induction runs with
  | nil => exact ⟨kept, is_told, Nat.le_of_eq (Nat.zero_add _)⟩
  | @snoc _ _ _ event runs taken ih =>
    obtain ⟨before, told_before, counted⟩ := ih
    have moves := moves_of_step taken
    obtain ⟨told_after, fewer⟩ := told_step before told_before moves
    refine ⟨before.step moves, told_after, ?_⟩
    unfold encoder_steps at counted ⊢
    rw [List.countP_append, List.countP_singleton]
    cases own : of_encoder event with
    | true =>
      rw [own, Bool.toNat_true] at fewer
      rw [if_pos rfl]
      omega
    | false =>
      rw [own, Bool.toNat_false] at fewer
      rw [if_neg Bool.false_ne_true]
      omega

/-- The encoder's thread has a step of its own to take until it has ended, once the queue is
closed or has failed. -/
theorem encoder_acts (setup : RecordSetup S F) (kept : ThreadsKept run) (is_told : told run)
    (present : run.encoder ≠ .absent) (going : run.encoder.stopped = false) :
    ∃ event ≠ EncoderEvent.panics, (run.encoder_step setup event).isSome = true := by
  cases stage : run.encoder with
  | absent => exact absurd stage present
  | ended result =>
    rw [stage] at going
    cases going
  | panicked =>
    rw [stage] at going
    cases going
  | opens =>
    refine ⟨.opens none false, nofun, ?_⟩
    simp only [RecordRun.encoder_step, stage]
    split
    · rfl
    · split <;> rfl
  | encodes writer pixels pos =>
    refine ⟨.encodes, nofun, ?_⟩
    simp only [RecordRun.encoder_step, stage]
    split <;> rfl
  | finishes writer end_at =>
    refine ⟨.finishes none, nofun, ?_⟩
    simp only [RecordRun.encoder_step, stage]
    split
    · rfl
    · rename_i fails
      cases fails
    · rfl
  | fails error =>
    refine ⟨.fails, nofun, ?_⟩
    simp only [RecordRun.encoder_step, stage]
    rfl
  | pops writer =>
    refine ⟨.pops, nofun, ?_⟩
    have closed : run.queue.closed_at.isSome = true := by
      rcases is_told with closed | failed
      · exact closed
      · obtain ⟨error, ended⟩ := kept.failed failed
        cases stage.symm.trans ended
    obtain ⟨end_at, closed⟩ := Option.isSome_iff_exists.mp closed
    simp only [RecordRun.encoder_step, stage, FrameQueue.pop]
    cases frames : run.queue.frames with
    | nil =>
      simp only [closed, Option.map_some]
      rfl
    | cons frame rest => rfl

/-! ## Recordings that are settled -/

/-- What a recording promises in a state: the queue is closed or has failed when `record_into`
has returned; then the encoder's thread takes no more than so many steps and waits for nobody;
and `record` leaves a complete file at its path, or nothing. -/
structure RecordingSettled (setup : RecordSetup S F) (run : RecordRun S F) : Prop where
  closes : finished run.producer = true → run.encoder ≠ .absent → told run
  ends : told run → ∀ steps run', Run (RecordingStep setup) run steps run' →
    encoder_steps steps ≤ encoder_left run ∧
      (run'.encoder ≠ .absent → run'.encoder.stopped = false →
        ∃ event ≠ EncoderEvent.panics, (run'.encoder_step setup event).isSome = true)
  leaves_file : setup.to_path = true → ∀ made, run.producer = .done (.ok made) →
    ∃ file, run.file = .complete file
  leaves_nothing : setup.to_path = true → ∀ error, run.producer = .done (.error error) →
    run.file = .absent

/-- What a step must meet: a frame converts, unless the encoder has failed, and the file of a
recording that failed can be removed. -/
def step_settles (setup : RecordSetup S F) (run : RecordRun S F) (event : RecordEvent) : Prop :=
  (event = .converts → ∀ frame pos, run.producer = .converts frame pos →
    run.queue.failed = false →
      Croppable frame (converted_area frame setup.whole run.shape.area)) ∧
  ∀ removed, event = .leaves removed → ∀ error, run.producer = .returned (.error error) →
    setup.to_path = true → removed = true ∨ run.file = .absent

/-- What steps that meet this keep. -/
structure RecordingKept (setup : RecordSetup S F) (run : RecordRun S F) : Prop where
  threads : ThreadsKept run
  stopped : finished run.producer = true →
    run.encoder = .absent ∨ (run.encoder.stopped = true ∧ told run)
  written : ∀ file frames_written, run.encoder = .ended (.ok (file, frames_written)) →
    setup.to_path = true → (∀ result, run.producer ≠ .done result) → run.file = .complete file
  saved : setup.to_path = true → ∀ made,
    run.producer = .returned (.ok made) ∨ run.producer = .done (.ok made) →
      ∃ file, run.file = .complete file
  gone : setup.to_path = true → ∀ error, run.producer = .done (.error error) →
    run.file = .absent

/-- What is kept says how the recording has settled. -/
theorem RecordingKept.settled (kept : RecordingKept setup run) : RecordingSettled setup run where
  closes := by
    intro is_finished present
    rcases kept.stopped is_finished with absent | stopped
    · exact absurd absent present
    · exact stopped.2
  ends := by
    intro is_told steps run' runs
    obtain ⟨threads, told', counted⟩ := encoder_steps_le kept.threads is_told runs
    refine ⟨by omega, ?_⟩
    intro present going
    exact encoder_acts setup threads told' present going
  leaves_file := fun to_path made done => kept.saved to_path made (.inr done)
  leaves_nothing := kept.gone

/-- Nothing is settled as a recording starts. -/
theorem new_recording_kept (setup : RecordSetup S F) (area : Rect) (file : PathFile F) :
    RecordingKept setup (.new area file) := by
  refine ⟨⟨fun _ => ⟨rfl, rfl⟩, nofun, nofun, nofun, nofun⟩, nofun, nofun, ?_, ?_⟩
  · rintro to_path made (returned | done)
    · cases returned
    · cases done
  · intro to_path error done
    cases done

/-- **One step** that meets the condition keeps what is kept. -/
theorem recording_step_kept (kept : RecordingKept setup run)
    (settles : step_settles setup run event) (step : RecordingStep setup run event run') :
    RecordingKept setup run' := by
  have moves := moves_of_step step
  have threads := kept.threads.step moves
  have not_done {stage : ProducerStage F} (at_stage : run.producer = stage)
      (not_finished : finished stage = false) : ∀ result, run.producer ≠ .done result := by
    rintro result done
    rw [← at_stage, done] at not_finished
    cases not_finished
  -- A step of the producer that leaves the file and goes on, or fails.
  have silent (same_thread : run'.encoder = run.encoder) (same_file : run'.file = run.file)
      (was_going : ∀ result, run.producer ≠ .done result)
      (stopped : finished run'.producer = true → (∃ error, run'.producer = .returned (.error error)) ∧
        (run'.encoder = .absent ∨ (run'.encoder.stopped = true ∧ told run'))) :
      RecordingKept setup run' := by
    refine ⟨threads, fun is_finished => (stopped is_finished).2, ?_, ?_, ?_⟩
    · intro file frames_written ended to_path _
      rw [same_thread] at ended
      rw [same_file]
      exact kept.written file frames_written ended to_path was_going
    · rintro to_path made (returned | done)
      · obtain ⟨⟨error, failed⟩, -⟩ := stopped (by rw [returned]; rfl)
        cases returned.symm.trans failed
      · obtain ⟨⟨error, failed⟩, -⟩ := stopped (by rw [done]; rfl)
        cases done.symm.trans failed
    · intro to_path error done
      obtain ⟨⟨error, failed⟩, -⟩ := stopped (by rw [done]; rfl)
      cases done.symm.trans failed
  cases moves with
  | refused error stage producers =>
    have absent := (kept.threads.unspawned stage).1
    refine silent rfl rfl ?_ fun _ => ⟨⟨error, rfl⟩, .inl absent⟩
    intro result done
    rw [done] at stage
    cases stage
  | begins first area stage producers => exact silent rfl rfl (not_done stage rfl) nofun
  | spawned first stage producers =>
    refine ⟨threads, nofun, nofun, ?_, ?_⟩
    · rintro to_path made (returned | done)
      · cases returned
      · cases done
    · intro to_path error done
      cases done
  | unconverted frame pos error stage fails =>
    refine silent rfl rfl (not_done stage rfl) fun _ => ⟨⟨error, rfl⟩, .inr ?_⟩
    cases failed : run.queue.failed with
    | false =>
      have croppable := settles.1 rfl frame pos stage failed
      obtain ⟨pixels, converted⟩ := (pixels_for_ok_iff setup.scaling frame setup.whole
        run.shape.area run.shape.width run.shape.height).mpr croppable
      cases fails.symm.trans converted
    | true =>
      obtain ⟨error, ended⟩ := kept.threads.failed failed
      refine ⟨?_, .inr failed⟩
      show run.encoder.stopped = true
      rw [ended]
      rfl
  | converted frame pos pixels stage => exact silent rfl rfl (not_done stage rfl) nofun
  | pushed pixels pos stage => exact silent rfl rfl (not_done stage rfl) nofun
  | paced stage' failures clock next stage goes_on pace later producers =>
    apply silent rfl rfl
    · intro result done
      rw [done] at stage
      cases stage
    · intro is_finished
      change finished stage' = true at is_finished
      cases stage' <;> cases is_finished <;> cases goes_on
  | answered frame elapsed stage later => exact silent rfl rfl (not_done stage rfl) nofun
  | closed elapsed ended stage later => exact silent rfl rfl (not_done stage rfl) nofun
  | gave_up elapsed message stage later => exact silent rfl rfl (not_done stage rfl) nofun
  | joined duration ended file frames_written stage wrote =>
    exact silent rfl rfl (not_done stage rfl) nofun
  | failed error stage stopped producers =>
    have closed := (kept.threads.closed stage).2
    refine silent rfl rfl ?_ fun _ => ⟨⟨error, rfl⟩, .inr ⟨stopped, .inl closed⟩⟩
    intro result done
    rw [done] at stage
    cases stage
  | unmeasured error duration ended file frames_written stage producers =>
    have wrote := kept.threads.reported _ _ _ _ stage
    have closed := (kept.threads.closed (by rw [stage]; rfl)).2
    refine silent rfl rfl (not_done stage rfl) fun _ => ⟨⟨error, rfl⟩, .inr ⟨?_, .inl closed⟩⟩
    show run.encoder.stopped = true
    rw [wrote]
    rfl
  | measured duration ended file frames_written data stage producers =>
    have wrote := kept.threads.reported _ _ _ _ stage
    have closed := (kept.threads.closed (by rw [stage]; rfl)).2
    have was_going := not_done stage rfl
    refine ⟨threads, fun _ => .inr ⟨?_, .inl closed⟩, ?_, ?_, ?_⟩
    · show run.encoder.stopped = true
      rw [wrote]
      rfl
    · intro file' frames_written' ended' to_path _
      exact kept.written file' frames_written' ended' to_path was_going
    · intro to_path made _
      exact ⟨file, kept.written file frames_written wrote to_path was_going⟩
    · intro to_path error done
      cases done
  | left removed made stage =>
    have stopped := kept.stopped (by rw [stage]; rfl)
    refine ⟨threads, fun _ => stopped, ?_, ?_, ?_⟩
    · intro file frames_written ended to_path going
      exact absurd rfl (going _)
    · intro to_path made' _
      exact kept.saved to_path made (.inl stage)
    · intro to_path error done
      cases done
  | removed removed error stage =>
    have stopped := kept.stopped (by rw [stage]; rfl)
    refine ⟨threads, fun _ => stopped, ?_, ?_, ?_⟩
    · intro file frames_written ended to_path going
      exact absurd rfl (going _)
    · rintro to_path made (returned | done)
      · cases returned
      · cases done
    · intro to_path error' _
      show (if setup.to_path = true ∧ removed = true then PathFile.absent else run.file) = .absent
      rcases settles.2 removed rfl error stage to_path with removed_now | absent
      · rw [if_pos ⟨to_path, removed_now⟩]
      · rw [absent, ite_self]
  | encoder event taken =>
    have moves := encoder_moves_of_step taken
    have acts := moves.acts
    have not_finished : finished run.producer ≠ true := by
      intro is_finished
      rcases kept.stopped is_finished with absent | ⟨stopped, -⟩
      · exact acts.present absent
      · rw [acts.going] at stopped
        cases stopped
    refine ⟨threads, ?_, ?_, ?_, ?_⟩
    · intro is_finished
      rw [acts.producer] at is_finished
      exact absurd is_finished not_finished
    · intro file frames_written ended to_path _
      cases moves with
      | finished writer end_at file' frames_written' stage wrote =>
        cases ended
        exact if_pos to_path
      | _ => cases ended
    · intro to_path made
      rw [acts.producer]
      rintro (returned | done)
      · rw [returned] at not_finished
        exact absurd rfl not_finished
      · rw [done] at not_finished
        exact absurd rfl not_finished
    · intro to_path error done
      rw [acts.producer] at done
      rw [done] at not_finished
      exact absurd rfl not_finished

/-- **A step that misses the condition** leaves a recording that is not settled. -/
theorem recording_step_misses (kept : RecordingKept setup run)
    (misses : ¬ step_settles setup run event) (step : RecordingStep setup run event run') :
    ¬ RecordingSettled setup run' := by
  intro settled
  apply misses
  unfold RecordingStep RecordRun.step at step
  refine ⟨?_, ?_⟩
  · rintro rfl frame pos stage unfailed
    simp only [stage] at step
    rw [← pixels_for_ok_iff setup.scaling frame setup.whole run.shape.area run.shape.width
      run.shape.height]
    split at step
    · rename_i error fails
      cases step
      obtain ⟨present, still_open⟩ := kept.threads.spawned (by rw [stage]; rfl)
      rcases settled.closes rfl present with closed | failed
      · change run.queue.closed_at.isSome = true at closed
        rw [still_open] at closed
        cases closed
      · cases unfailed.symm.trans failed
    · rename_i pixels converted
      exact ⟨pixels, converted⟩
  · rintro removed rfl error stage to_path
    simp only [stage] at step
    cases step
    have absent := settled.leaves_nothing to_path error rfl
    change (if setup.to_path = true ∧ removed = true then PathFile.absent else run.file) =
      .absent at absent
    cases removed with
    | true => exact .inl rfl
    | false =>
      rw [if_neg (fun both => Bool.false_ne_true both.2)] at absent
      exact .inr absent

/-- **A recording is settled in every state** exactly when every frame it is to convert
converts, and the file of a recording that failed can be removed. -/
theorem recording_settled_iff {area : Rect} {file : PathFile F}
    {steps : List (Taken (RecordRun S F) RecordEvent)}
    (runs : Run (RecordingStep setup) (.new area file) steps run) :
    (∀ t ∈ steps, RecordingSettled setup t.after) ↔
      ∀ t ∈ steps, step_settles setup t.before t.event := by
  apply runs.always_iff (I := RecordingKept setup) (P := RecordingSettled setup)
    (C := step_settles setup)
  · intro before event after kept settles step
    exact recording_step_kept kept settles step
  · intro state kept
    exact kept.settled
  · intro before event after kept misses step
    exact recording_step_misses kept misses step
  · exact new_recording_kept setup area file

/-! ## A display in HDR -/

/-- One pixel makes a frame, in every format. -/
theorem recorded_pixel_layout (format : PixelFormat) :
    validate_layout (List.replicate 8 (0 : Byte)).length 1 1 8 format = .ok (8 * 1) := by
  cases format <;> rfl

/-- One pixel of a display, captured for a recording. -/
def recorded_pixel (format : PixelFormat) : CpuFrame where
  pixels := List.replicate 8 0
  width := 1
  height := 1
  stride_bytes := 8
  format := format
  origin := .TopLeft
  color_space := .Srgb
  alpha := .Opaque
  metadata :=
    { capture_id := 1
      backend := "dxgi"
      display_id := "primary"
      source_rect := .origin_pixel
      rotation_degrees := 0
      capture_mode := .Latest none
      presentation_offset_ns := none
      timing_provenance := .ArrivalTime
      native_ready_offset_ns := 3
      cpu_ready_offset_ns := some 4
      frame_age_ns := none
      verified_current_offset_ns := none
      frame_generation := none
      copy_count := 2
      pool_slot := none
      cursor := none }
  layout := recorded_pixel_layout format

/-- A recording of that pixel as a GIF. -/
def pixel_setup : RecordSetup (GifWriter (List Byte) (List (GifFrame (List Byte))))
    (List (GifFrame (List Byte))) where
  scaling := ⟨fun _ width height => (width, height), fun _ size => size, fun pixels _ _ _ _ => pixels⟩
  settings := ⟨.Gif, from_millis 60000⟩
  area := .origin_pixel
  whole := false
  to_path := true
  encoder := encode_gif raw_codec list_encoder

/-- One frame, recorded and saved. -/
def single_frame_events : List RecordEvent :=
  [.first (.ok (recorded_pixel .Bgra8Unorm)), .spawns none, .encoder (.opens none false),
    .converts, .pushes, .polls true (from_millis 40) false (from_millis 40),
    .closes (from_millis 40), .encoder .pops, .encoder .encodes, .encoder .pops,
    .encoder (.finishes none), .joins, .measures none, .leaves true]

/-- A frame that converts is the pixel of eight bits a channel, and the file of a recording that
failed is removed. -/
def settles_plainly (run : RecordRun S F) : RecordEvent → Bool
  | .converts =>
    match run.producer with
    | .converts frame _ => decide (frame.format ≠ .Rgba16Float ∧ frame.width = 1 ∧
        frame.height = 1 ∧ frame.metadata.source_rect = .origin_pixel) &&
        decide (run.shape.area = .origin_pixel)
    | _ => false
  | .leaves removed => removed
  | _ => true

/-- A step that passes the check is one that settles. -/
theorem step_settles_of_check {setup : RecordSetup S F} {run : RecordRun S F}
    {event : RecordEvent} (part : setup.whole = false)
    (passes : settles_plainly run event = true) : step_settles setup run event := by
  constructor
  · rintro rfl frame pos converts -
    simp only [settles_plainly, converts, Bool.and_eq_true, decide_eq_true_eq] at passes
    obtain ⟨⟨eight_bit, width, height, source⟩, area⟩ := passes
    have same : converted_area frame setup.whole run.shape.area = .origin_pixel := by
      unfold converted_area
      rw [part, area]
      simp
    rw [same]
    refine ⟨eight_bit, ?_, ?_⟩
    · unfold SourceMatches
      rw [width, height, source]
      exact ⟨rfl, rfl⟩
    · rw [source]
      decide
  · rintro removed rfl error - -
    exact .inl passes

/-- A recording of one frame settles, at every step. -/
theorem recording_settled_single_frame :
    ∃ steps run, Run (RecordingStep pixel_setup) (.new .origin_pixel .unfinished) steps run ∧
      steps.map Taken.event = single_frame_events ∧
      ∀ t ∈ steps, RecordingSettled pixel_setup t.after := by
  have computed : (single_frame_events.foldlM (fun run event =>
      if settles_plainly run event then RecordRun.step pixel_setup run event else none)
      (.new .origin_pixel .unfinished)).isSome = true := by decide
  obtain ⟨run, computed⟩ := Option.isSome_iff_exists.mp computed
  obtain ⟨steps, same, runs, passes⟩ := @Run.of_foldlM_checked _ _ (RecordingStep pixel_setup) _ _ _
    _ (fun _ _ _ taken => taken) _ computed
  exact ⟨steps, run, runs, same, (recording_settled_iff runs).mpr fun t member =>
    step_settles_of_check rfl (passes t member)⟩

/-- The pixel of a display in HDR: the first frame does not convert. -/
def hdr_events : List RecordEvent :=
  [.first (.ok (recorded_pixel .Rgba16Float)), .spawns none, .encoder (.opens none false),
    .converts]

/-- `record_into` has returned and its encoder waits for the next frame. -/
def encoder_waits (run : RecordRun S F) : Bool :=
  finished run.producer && run.queue.closed_at.isNone && !run.queue.failed &&
    match run.encoder with
    | .pops _ => true
    | _ => false

/-- **The encoder is left waiting** by a recording of a display in HDR. -/
theorem encoder_left_waiting :
    ∃ steps run, Run (RecordingStep pixel_setup) (.new .origin_pixel .unfinished) steps run ∧
      steps.map Taken.event = hdr_events ∧ ¬ RecordingSettled pixel_setup run := by
  have computed : ((hdr_events.foldlM (RecordRun.step pixel_setup)
      (.new .origin_pixel .unfinished)).map encoder_waits) = some true := by decide
  obtain ⟨run, computed, waits⟩ := Option.map_eq_some_iff.mp computed
  obtain ⟨steps, same, runs⟩ := @Run.of_foldlM _ _ (RecordingStep pixel_setup) _ _
    (RecordRun.step pixel_setup) (fun _ _ _ taken => taken) _ computed
  refine ⟨steps, run, runs, same, ?_⟩
  intro settled
  simp only [encoder_waits, Bool.and_eq_true, Option.isNone_iff_eq_none, Bool.not_eq_true'] at waits
  obtain ⟨⟨⟨is_finished, still_open⟩, unfailed⟩, waiting⟩ := waits
  have present : run.encoder ≠ .absent := by
    intro absent
    rw [absent] at waiting
    cases waiting
  rcases settled.closes is_finished present with closed | failed
  · rw [still_open] at closed
    cases closed
  · cases unfailed.symm.trans failed

end Captastic.Analysis
