import Captastic.Analysis.RecordingEnds
import Captastic.Analysis.SavedUnchanged
import Captastic.Library.Shedding

/-!
# What a recording delivers

Whatever the order of the two threads' steps, the frames that reach the encoder are frames that
were pushed, in their order, and the queue's count makes up the difference (`frames_accounted`).
The times of capture are in order and spread as the pacing loop spreads them (`PaceKept`); the
first frame is delivered unless a full queue pushes it out (`FirstKept`), and the last always
(`NewestKept`).
-/

set_option autoImplicit false

namespace Captastic.Analysis

open Captastic.Library Captastic.Model

variable {S F : Type} {setup : RecordSetup S F} {run run' : RecordRun S F} {event : RecordEvent}

/-! ## The frames -/

/-- The frame that is captured and not yet pushed. -/
def frame_in_hand : ProducerStage F → List Duration
  | .converts _ pos | .pushes _ pos => [pos]
  | _ => []

/-- The stages in which the recording has its queue, up to closing it. -/
def queued : ProducerStage F → Bool
  | .spawns _ => true
  | stage => working stage

/-- The call has failed. -/
def has_failed : ProducerStage F → Bool
  | .returned (.error _) | .done (.error _) => true
  | _ => false

/-- The frames in the queue and outside it. -/
structure FramesKept (run : RecordRun S F) : Prop where
  fresh : early run.producer = true → run.pushed = [] ∧ run.delivered = []
  order : KeptInOrder run.pushed run.delivered run.queue.frames
  room : queued run.producer = true → 2 ≤ run.queue.capacity
  bounded : run.queue.frames.length ≤ run.queue.capacity
  counted : run.queue.failed = false →
    run.pushed.length = run.delivered.length + run.queue.frames.length + run.queue.dropped
  captured : has_failed run.producer = false →
    run.captured = run.pushed.length + (frame_in_hand run.producer).length

/-- SRC: recording.rs:45-48 -/
theorem queue_capacity_le (bytes : Nat) : 2 ≤ queue_capacity bytes := by
  unfold queue_capacity QUEUE_FRAMES
  simp only
  omega

/-- A queue that is full gives up its oldest frame for the new one, and counts it.
SRC: recording.rs:590-602 -/
theorem push_frames (queue : FrameQueue) (pixels : List Byte) (pos : Duration)
    (unfailed : queue.failed = false) :
    (queue.push pixels pos).frames =
        (if queue.capacity ≤ queue.frames.length then queue.frames.tail else queue.frames) ++
          [(pixels, pos)] ∧
      (queue.push pixels pos).dropped =
        queue.dropped + (if queue.capacity ≤ queue.frames.length then 1 else 0) := by
  unfold FrameQueue.push
  rw [if_neg (by rw [unfailed]; exact Bool.false_ne_true)]
  simp only [ge_iff_le]
  split
  · exact ⟨rfl, rfl⟩
  · exact ⟨rfl, rfl⟩

/-- Its capacity stays. -/
theorem push_capacity (queue : FrameQueue) (pixels : List Byte) (pos : Duration) :
    (queue.push pixels pos).capacity = queue.capacity := by
  unfold FrameQueue.push
  split
  · rfl
  · simp only
    split <;> rfl

/-- Nothing has been pushed as a recording starts. -/
theorem new_frames_kept (area : Rect) (file : PathFile F) :
    FramesKept (RecordRun.new (S := S) area file) where
  fresh := fun _ => ⟨rfl, rfl⟩
  order := List.Sublist.refl []
  room := nofun
  bounded := Nat.le_refl 0
  counted := fun _ => rfl
  captured := fun _ => rfl

/-- A step that moves no frame keeps them. -/
theorem FramesKept.silent (kept : FramesKept run)
    (same_frames : run'.queue.frames = run.queue.frames)
    (same_queue : run'.queue.capacity = run.queue.capacity ∧ run'.queue.failed = run.queue.failed ∧
      run'.queue.dropped = run.queue.dropped)
    (same_pushed : run'.pushed = run.pushed) (same_delivered : run'.delivered = run.delivered)
    (fresh : early run'.producer = true → early run.producer = true)
    (room : queued run'.producer = true → queued run.producer = true)
    (captured : has_failed run'.producer = false →
      run'.captured = run'.pushed.length + (frame_in_hand run'.producer).length) :
    FramesKept run' := by
  obtain ⟨same_capacity, same_failed, same_dropped⟩ := same_queue
  refine ⟨?_, ?_, ?_, ?_, ?_, captured⟩
  · rw [same_pushed, same_delivered]
    exact fun is_early => kept.fresh (fresh is_early)
  · rw [same_pushed, same_delivered, same_frames]
    exact kept.order
  · intro is_working
    rw [same_capacity]
    exact kept.room (room is_working)
  · rw [same_frames, same_capacity]
    exact kept.bounded
  · rw [same_pushed, same_delivered, same_frames, same_failed, same_dropped]
    exact kept.counted

/-- SRC: recording.rs:590-602 -/
theorem FramesKept.pushed (kept : FramesKept run) {pixels : List Byte} {pos : Duration}
    (stage : run.producer = .pushes pixels pos) :
    FramesKept { run with
      queue := run.queue.push pixels pos, producer := .waits
      pushed := run.pushed ++ [(pixels, pos)] } := by
  have room : 2 ≤ run.queue.capacity := kept.room (by rw [stage]; rfl)
  have captured := kept.captured (by rw [stage]; rfl)
  rw [stage] at captured
  refine ⟨nofun, ?_, ?_, ?_, ?_, ?_⟩
  · cases failed : run.queue.failed with
    | true =>
      have unchanged : run.queue.push pixels pos = run.queue := if_pos failed
      show KeptInOrder _ run.delivered (run.queue.push pixels pos).frames
      rw [unchanged]
      exact kept.order.refuse _
    | false =>
      obtain ⟨frames, -⟩ := push_frames run.queue pixels pos failed
      show KeptInOrder _ run.delivered (run.queue.push pixels pos).frames
      rw [frames]
      apply KeptInOrder.offer
      split
      · exact kept.order.shed
      · exact kept.order
  · intro _
    show 2 ≤ (run.queue.push pixels pos).capacity
    rw [push_capacity]
    exact room
  · show (run.queue.push pixels pos).frames.length ≤ (run.queue.push pixels pos).capacity
    rw [push_capacity]
    have bounded := kept.bounded
    cases failed : run.queue.failed with
    | true =>
      have unchanged : run.queue.push pixels pos = run.queue := if_pos failed
      rw [unchanged]
      exact bounded
    | false =>
      obtain ⟨frames, -⟩ := push_frames run.queue pixels pos failed
      rw [frames, List.length_append, List.length_singleton]
      split
      · rw [List.length_tail]
        omega
      · omega
  · intro unfailed
    change (run.queue.push pixels pos).failed = false at unfailed
    rw [push_failed] at unfailed
    obtain ⟨frames, dropped⟩ := push_frames run.queue pixels pos unfailed
    have counted := kept.counted unfailed
    show (run.pushed ++ [(pixels, pos)]).length = run.delivered.length +
      (run.queue.push pixels pos).frames.length + (run.queue.push pixels pos).dropped
    rw [frames, dropped, List.length_append, List.length_append, List.length_singleton]
    split
    · rw [List.length_tail]
      omega
    · omega
  · intro _
    show run.captured = (run.pushed ++ [(pixels, pos)]).length + 0
    rw [List.length_append]
    exact captured

/-- **One step** of the encoder's thread keeps the frames. -/
theorem FramesKept.encoder_step (kept : FramesKept run) (threads : ThreadsKept run)
    (moves : EncoderMoves setup run run') : FramesKept run' := by
  have not_early : early run.producer = true → False := by
    intro is_early
    exact moves.acts.present (threads.unspawned is_early).1
  cases moves with
  | popped writer pixels pos rest stage frames =>
    have order := kept.order
    have counted := kept.counted
    have bounded := kept.bounded
    rw [frames] at order counted bounded
    rw [List.length_cons] at counted bounded
    refine ⟨fun is_early => (not_early is_early).elim, order.take, kept.room, ?_, ?_,
      kept.captured⟩
    · exact Nat.le_of_succ_le bounded
    · intro unfailed
      have before := counted unfailed
      show run.pushed.length = (run.delivered ++ [(pixels, pos)]).length + rest.length +
        run.queue.dropped
      rw [List.length_append, List.length_singleton]
      omega
  | failed error stage =>
    refine ⟨kept.fresh, kept.order.clear, kept.room, Nat.zero_le _, ?_, kept.captured⟩
    intro unfailed
    cases unfailed
  | opened writer file stage created =>
    exact kept.silent rfl ⟨rfl, rfl, rfl⟩ rfl rfl id id kept.captured
  | unopened error file stage => exact kept.silent rfl ⟨rfl, rfl, rfl⟩ rfl rfl id id kept.captured
  | drained writer end_at stage frames closed =>
    exact kept.silent rfl ⟨rfl, rfl, rfl⟩ rfl rfl id id kept.captured
  | encoded writer pixels pos writer' stage pushed =>
    exact kept.silent rfl ⟨rfl, rfl, rfl⟩ rfl rfl id id kept.captured
  | refused error stage => exact kept.silent rfl ⟨rfl, rfl, rfl⟩ rfl rfl id id kept.captured
  | finished writer end_at file frames_written stage wrote =>
    exact kept.silent rfl ⟨rfl, rfl, rfl⟩ rfl rfl id id kept.captured
  | panicked present going => exact kept.silent rfl ⟨rfl, rfl, rfl⟩ rfl rfl id id kept.captured

/-- **One step** of either thread keeps the frames. -/
theorem FramesKept.step (kept : FramesKept run) (threads : ThreadsKept run)
    (moves : RecordMoves setup run event run') : FramesKept run' := by
  have captured_at {stage : ProducerStage F} (at_stage : run.producer = stage)
      (unfailed : has_failed stage = false) :
      run.captured = run.pushed.length + (frame_in_hand stage).length := by
    have captured := kept.captured (by rw [at_stage]; exact unfailed)
    rwa [at_stage] at captured
  have queued_at {stage : ProducerStage F} (at_stage : run.producer = stage)
      (is_queued : queued stage = true) : queued run.producer = true := by
    rw [at_stage]
    exact is_queued
  cases moves with
  | refused error stage producers =>
    exact kept.silent rfl ⟨rfl, rfl, rfl⟩ rfl rfl nofun nofun nofun
  | begins first area stage producers =>
    have captured := captured_at stage rfl
    have fresh := kept.fresh (by rw [stage]; rfl)
    refine ⟨fun _ => fresh, kept.order.clear, fun _ => queue_capacity_le _, Nat.zero_le _, ?_,
      fun _ => captured⟩
    intro _
    show run.pushed.length = run.delivered.length + 0 + 0
    rw [fresh.1, fresh.2]
    rfl
  | spawned first stage producers =>
    have fresh := kept.fresh (by rw [stage]; rfl)
    refine ⟨nofun, kept.order, fun _ => kept.room (queued_at stage rfl), kept.bounded,
      kept.counted, ?_⟩
    intro _
    show 1 = run.pushed.length + 1
    rw [fresh.1]
    rfl
  | unconverted frame pos error stage fails =>
    exact kept.silent rfl ⟨rfl, rfl, rfl⟩ rfl rfl nofun nofun nofun
  | converted frame pos pixels stage =>
    have captured := captured_at stage rfl
    exact kept.silent rfl ⟨rfl, rfl, rfl⟩ rfl rfl nofun (fun _ => queued_at stage rfl)
      fun _ => captured
  | pushed pixels pos stage => exact kept.pushed stage
  | paced stage' failures clock next stage goes_on pace later producers =>
    have captured : run.captured = run.pushed.length + 0 := by
      cases at_stage : run.producer <;> rw [at_stage] at stage <;> cases stage <;>
        exact captured_at at_stage rfl
    refine kept.silent rfl ⟨rfl, rfl, rfl⟩ rfl rfl ?_ ?_ ?_
    · intro is_early
      cases stage' <;> cases is_early <;> cases goes_on
    · intro _
      cases at_stage : run.producer <;> rw [at_stage] at stage <;> cases stage <;> rfl
    · intro _
      show run.captured = run.pushed.length + (frame_in_hand stage').length
      have none_in_hand : frame_in_hand stage' = [] := by
        cases pace with
        | stops stage' clock ending => cases stage' <;> cases ending <;> rfl
        | _ => rfl
      rw [none_in_hand]
      exact captured
  | answered frame elapsed stage later =>
    have captured := captured_at stage rfl
    refine kept.silent rfl ⟨rfl, rfl, rfl⟩ rfl rfl nofun (fun _ => queued_at stage rfl) fun _ => ?_
    exact congrArg (· + 1) captured
  | closed elapsed ended stage later =>
    have captured := captured_at stage rfl
    exact kept.silent rfl ⟨rfl, rfl, rfl⟩ rfl rfl nofun nofun fun _ => captured
  | gave_up elapsed message stage later =>
    have captured := captured_at stage rfl
    exact kept.silent rfl ⟨rfl, rfl, rfl⟩ rfl rfl nofun nofun fun _ => captured
  | joined duration ended file frames_written stage wrote =>
    have captured := captured_at stage rfl
    exact kept.silent rfl ⟨rfl, rfl, rfl⟩ rfl rfl nofun nofun fun _ => captured
  | failed error stage stopped producers =>
    exact kept.silent rfl ⟨rfl, rfl, rfl⟩ rfl rfl nofun nofun nofun
  | unmeasured error duration ended file frames_written stage producers =>
    exact kept.silent rfl ⟨rfl, rfl, rfl⟩ rfl rfl nofun nofun nofun
  | measured duration ended file frames_written data stage producers =>
    have captured := captured_at stage rfl
    exact kept.silent rfl ⟨rfl, rfl, rfl⟩ rfl rfl nofun nofun fun _ => captured
  | left removed made stage =>
    have captured := captured_at stage rfl
    exact kept.silent rfl ⟨rfl, rfl, rfl⟩ rfl rfl nofun nofun fun _ => captured
  | removed removed error stage =>
    exact kept.silent rfl ⟨rfl, rfl, rfl⟩ rfl rfl nofun nofun nofun
  | encoder event taken => exact kept.encoder_step threads (encoder_moves_of_step taken)

/-! ## The times of capture -/

/-- The times of the frames captured. -/
def captured_times (run : RecordRun S F) : List Duration :=
  run.pushed.map Prod.snd ++ frame_in_hand run.producer

/-- The stages between two captures in which the next frame's time is set. -/
def awaiting : ProducerStage F → Bool
  | .converts .. | .pushes .. | .waits | .checks => true
  | _ => false

/-- The times of capture are in order, spread as the pacing loop spreads them, and in the past;
the next frame's time is not before the last frame but one, and an interval after the one before
that. -/
structure PaceKept (setup : RecordSetup S F) (run : RecordRun S F) : Prop where
  sorted : (captured_times run).Pairwise (· ≤ ·)
  passed : ∀ t ∈ captured_times run, t ≤ run.clock
  spread : Spread (RecordRun.interval setup) (captured_times run)
  first : ∀ t, (captured_times run).head? = some t → t = 0
  begun : early run.producer = false → has_failed run.producer = false →
    captured_times run ≠ []
  awaits : awaiting run.producer = true → (∀ t ∈ (captured_times run).dropLast, t ≤ run.next) ∧
    ∀ t ∈ (captured_times run).dropLast.dropLast, t + RecordRun.interval setup ≤ run.next
  due : run.producer = .checks → run.next ≤ run.clock
  asked : run.producer = .asks → (∀ t ∈ captured_times run, t ≤ run.next) ∧
    (∀ t ∈ (captured_times run).dropLast, t + RecordRun.interval setup ≤ run.next) ∧
    ∀ t ∈ (captured_times run).dropLast.dropLast, t + RecordRun.interval setup ≤ run.clock

/-- A step that captures nothing and leaves the next frame's time. -/
theorem PaceKept.silent (kept : PaceKept setup run)
    (same_times : captured_times run' = captured_times run) (later : run.clock ≤ run'.clock)
    (begun : early run.producer = false ∧ has_failed run.producer = false)
    (awaits : awaiting run'.producer = true → awaiting run.producer = true ∧ run'.next = run.next)
    (not_due : run'.producer ≠ .checks) (not_asked : run'.producer ≠ .asks) :
    PaceKept setup run' := by
  refine ⟨?_, ?_, ?_, ?_, ?_, ?_, fun checks => absurd checks not_due,
    fun asks => absurd asks not_asked⟩
  · rw [same_times]
    exact kept.sorted
  · rw [same_times]
    exact fun t member => (kept.passed t member).trans later
  · rw [same_times]
    exact kept.spread
  · rw [same_times]
    exact kept.first
  · rw [same_times]
    exact fun _ _ => kept.begun begun.1 begun.2
  · intro is_awaiting
    obtain ⟨before, same_next⟩ := awaits is_awaiting
    rw [same_times, same_next]
    exact kept.awaits before

/-- A step after which the recording only ends: what was captured may be given up. -/
theorem PaceKept.ending (kept : PaceKept setup run)
    (fewer : (captured_times run') <+: (captured_times run)) (later : run.clock ≤ run'.clock)
    (begun : early run'.producer = false → has_failed run'.producer = false →
      captured_times run' ≠ [])
    (not_awaiting : awaiting run'.producer = false) (not_asked : run'.producer ≠ .asks) :
    PaceKept setup run' := by
  refine ⟨kept.sorted.sublist fewer.sublist, ?_, kept.spread.sublist fewer.sublist, ?_, begun, ?_,
    ?_, fun asks => absurd asks not_asked⟩
  · exact fun t member => (kept.passed t (fewer.subset member)).trans later
  · intro t head
    apply kept.first
    obtain ⟨rest, whole⟩ := fewer
    rw [← whole, List.head?_append, head]
    rfl
  · intro is_awaiting
    rw [not_awaiting] at is_awaiting
    cases is_awaiting
  · intro checks
    rw [checks] at not_awaiting
    cases not_awaiting

/-- A frame is captured.
SRC: recording.rs:251-255 -/
theorem PaceKept.answered (kept : PaceKept setup run) (stage : run.producer = .asks)
    {frame : CpuFrame} {elapsed : Duration} (later : run.clock ≤ elapsed) :
    PaceKept setup { run with
      clock := elapsed, failures := 0, captured := run.captured + 1
      producer := .converts frame elapsed } := by
  obtain ⟨before_next, gap_next, gap_clock⟩ := kept.asked stage
  have not_first : captured_times run ≠ [] := kept.begun (by rw [stage]; rfl) (by rw [stage]; rfl)
  have passed : ∀ t ∈ captured_times run, t ≤ elapsed :=
    fun t member => (kept.passed t member).trans later
  have times : captured_times { run with
      clock := elapsed, failures := 0, captured := run.captured + 1
      producer := ProducerStage.converts frame elapsed } = captured_times run ++ [elapsed] := by
    unfold captured_times
    rw [stage]
    simp only [frame_in_hand, List.append_nil]
  refine ⟨?_, ?_, ?_, ?_, ?_, ?_, nofun, nofun⟩
  · rw [times, List.pairwise_append]
    refine ⟨kept.sorted, List.pairwise_singleton _ _, ?_⟩
    intro t member last last_member
    rw [List.mem_singleton.mp last_member]
    exact passed t member
  · rw [times]
    intro t member
    rcases List.mem_append.mp member with member | member
    · exact passed t member
    · exact (List.mem_singleton.mp member).le
  · rw [times]
    exact kept.spread.snoc fun t member => (gap_clock t member).trans later
  · rw [times]
    intro t head
    rw [List.head?_append_of_ne_nil _ not_first] at head
    exact kept.first t head
  · intro _ _
    rw [times]
    exact List.append_ne_nil_of_right_ne_nil _ (List.cons_ne_nil _ _)
  · intro _
    rw [times, List.dropLast_concat]
    exact ⟨before_next, gap_next⟩

/-- Nothing has been captured. -/
theorem new_pace_kept (setup : RecordSetup S F) (area : Rect) (file : PathFile F) :
    PaceKept setup (.new area file) where
  sorted := List.Pairwise.nil
  passed := nofun
  spread := by
    intro a b c d four
    cases four
  first := nofun
  begun := nofun
  awaits := nofun
  due := nofun
  asked := nofun

/-- A step of the pacing loop.
SRC: recording.rs:219-249 -/
theorem PaceKept.paced (kept : PaceKept setup run) {stage' : ProducerStage F}
    {clock next : Duration} {failures : Nat} (stage : pacing run.producer = true)
    (pace : PaceMoves setup run stage' clock next) (later : run.clock ≤ clock) :
    PaceKept setup { run with producer := stage', failures, clock, next } := by
  have nothing_in_hand : frame_in_hand run.producer = [] := by
    cases at_stage : run.producer <;> rw [at_stage] at stage <;> cases stage <;> rfl
  have begun : captured_times run ≠ [] := by
    apply kept.begun
    · cases at_stage : run.producer <;> rw [at_stage] at stage <;> cases stage <;> rfl
    · cases at_stage : run.producer <;> rw [at_stage] at stage <;> cases stage <;> rfl
  have times {stage' : ProducerStage F} (nothing : frame_in_hand stage' = []) (failures : Nat)
      (clock next : Duration) :
      captured_times { run with producer := stage', failures, clock, next } =
        captured_times run := by
    unfold captured_times
    rw [nothing, nothing_in_hand]
  cases pace with
  | waits clock at_stage =>
    refine kept.silent (times rfl _ _ _) later ?_ ?_ nofun nofun
    · rw [at_stage]
      exact ⟨rfl, rfl⟩
    · intro _
      rw [at_stage]
      exact ⟨rfl, rfl⟩
  | due clock at_stage due =>
    refine ⟨?_, ?_, ?_, ?_, ?_, ?_, fun _ => due, nofun⟩
    · rw [times rfl]
      exact kept.sorted
    · rw [times rfl]
      exact fun t member => (kept.passed t member).trans later
    · rw [times rfl]
      exact kept.spread
    · rw [times rfl]
      exact kept.first
    · rw [times rfl]
      exact fun _ _ => begun
    · rw [times rfl]
      exact fun _ => kept.awaits (by rw [at_stage]; rfl)
  | asks clock next at_stage next_later spaced =>
    obtain ⟨before_next, gap_next⟩ := kept.awaits (by rw [at_stage]; rfl)
    have due := kept.due at_stage
    refine ⟨?_, ?_, ?_, ?_, ?_, nofun, nofun, ?_⟩
    · rw [times rfl]
      exact kept.sorted
    · rw [times rfl]
      exact fun t member => (kept.passed t member).trans later
    · rw [times rfl]
      exact kept.spread
    · rw [times rfl]
      exact kept.first
    · rw [times rfl]
      exact fun _ _ => begun
    · rw [times rfl]
      refine fun _ => ⟨?_, ?_, ?_⟩
      · exact fun t member => ((kept.passed t member).trans later).trans next_later
      · exact fun t member => (Nat.add_le_add_right (before_next t member) _).trans spaced
      · exact fun t member => ((gap_next t member).trans due).trans later
  | misses at_stage =>
    obtain ⟨before_next, gap_next, -⟩ := kept.asked at_stage
    refine ⟨?_, ?_, ?_, ?_, ?_, ?_, nofun, nofun⟩
    · rw [times rfl]
      exact kept.sorted
    · rw [times rfl]
      exact kept.passed
    · rw [times rfl]
      exact kept.spread
    · rw [times rfl]
      exact kept.first
    · rw [times rfl]
      exact fun _ _ => begun
    · rw [times rfl]
      refine fun _ => ⟨?_, ?_⟩
      · exact fun t member => before_next t ((List.dropLast_subset _) member)
      · exact fun t member => gap_next t ((List.dropLast_subset _) member)
  | stops stage' clock ending =>
    have nothing : frame_in_hand stage' = [] := by
      cases stage' <;> cases ending <;> rfl
    apply kept.ending
    · rw [times nothing]
    · exact later
    · rw [times nothing]
      exact fun _ _ => begun
    · cases stage' <;> cases ending <;> rfl
    · rintro rfl
      cases ending

/-- A step after which nothing is captured. -/
theorem PaceKept.ended (kept : PaceKept setup run) (same_pushed : run'.pushed = run.pushed)
    (later : run.clock ≤ run'.clock) (ends : working run'.producer = false)
    (begun : early run'.producer = false → has_failed run'.producer = false →
      early run.producer = false ∧ has_failed run.producer = false ∧
        frame_in_hand run.producer = []) :
    PaceKept setup run' := by
  have nothing : frame_in_hand run'.producer = [] := by
    cases at_stage : run'.producer <;> rw [at_stage] at ends <;> first | rfl | cases ends
  have times : captured_times run' = run.pushed.map Prod.snd := by
    unfold captured_times
    rw [same_pushed, nothing, List.append_nil]
  apply kept.ending
  · rw [times]
    exact List.prefix_append _ _
  · exact later
  · intro not_early unfailed
    obtain ⟨was_begun, was_unfailed, none_in_hand⟩ := begun not_early unfailed
    have some_captured := kept.begun was_begun was_unfailed
    unfold captured_times at some_captured
    rw [none_in_hand, List.append_nil] at some_captured
    rw [times]
    exact some_captured
  · cases at_stage : run'.producer <;> rw [at_stage] at ends <;> first | rfl | cases ends
  · intro asks
    rw [asks] at ends
    cases ends

/-- **One step** of either thread keeps the pace. -/
theorem PaceKept.step (kept : PaceKept setup run) (frames : FramesKept run)
    (moves : RecordMoves setup run event run') : PaceKept setup run' := by
  have begun_at {stage : ProducerStage F} (at_stage : run.producer = stage)
      (going : early stage = false ∧ has_failed stage = false ∧ frame_in_hand stage = []) :
      early run.producer = false ∧ has_failed run.producer = false ∧
        frame_in_hand run.producer = [] := by
    rw [at_stage]
    exact going
  cases moves with
  | refused error stage producers => exact kept.ended rfl le_rfl rfl nofun
  | begins first area stage producers => exact kept.ended rfl le_rfl rfl nofun
  | spawned first stage producers =>
    have fresh := (frames.fresh (by rw [stage]; rfl)).1
    have times : captured_times { run with
        encoder := EncoderStage.opens (S := S), producer := ProducerStage.converts first 0
        captured := 1, failures := 0, next := RecordRun.interval setup } = [0] := by
      unfold captured_times
      rw [fresh]
      rfl
    refine ⟨?_, ?_, ?_, ?_, ?_, ?_, nofun, nofun⟩
    · rw [times]
      exact List.pairwise_singleton _ _
    · rw [times]
      intro t member
      rw [List.mem_singleton.mp member]
      exact Nat.zero_le _
    · rw [times]
      exact Spread.singleton _ _
    · rw [times]
      intro t head
      exact (Option.some.inj head).symm
    · rw [times]
      exact fun _ _ => List.cons_ne_nil _ _
    · rw [times]
      exact fun _ => ⟨nofun, nofun⟩
  | unconverted frame pos error stage fails =>
    exact kept.ended rfl le_rfl rfl fun _ unfailed => absurd unfailed nofun
  | converted frame pos pixels stage =>
    refine kept.silent ?_ le_rfl ?_ ?_ nofun nofun
    · unfold captured_times
      rw [stage]
      rfl
    · rw [stage]
      exact ⟨rfl, rfl⟩
    · intro _
      rw [stage]
      exact ⟨rfl, rfl⟩
  | pushed pixels pos stage =>
    refine kept.silent ?_ le_rfl ?_ ?_ nofun nofun
    · unfold captured_times
      rw [stage, List.map_append]
      exact List.append_nil _
    · rw [stage]
      exact ⟨rfl, rfl⟩
    · intro _
      rw [stage]
      exact ⟨rfl, rfl⟩
  | paced stage' failures clock next stage goes_on pace later producers =>
    exact kept.paced stage pace later
  | answered frame elapsed stage later => exact kept.answered stage later
  | closed elapsed ended stage later =>
    exact kept.ended rfl later rfl fun _ _ => begun_at stage ⟨rfl, rfl, rfl⟩
  | gave_up elapsed message stage later =>
    exact kept.ended rfl later rfl fun _ _ => begun_at stage ⟨rfl, rfl, rfl⟩
  | joined duration ended file frames_written stage wrote =>
    exact kept.ended rfl le_rfl rfl fun _ _ => begun_at stage ⟨rfl, rfl, rfl⟩
  | failed error stage stopped producers =>
    exact kept.ended rfl le_rfl rfl fun _ unfailed => absurd unfailed nofun
  | unmeasured error duration ended file frames_written stage producers =>
    exact kept.ended rfl le_rfl rfl fun _ unfailed => absurd unfailed nofun
  | measured duration ended file frames_written data stage producers =>
    exact kept.ended rfl le_rfl rfl fun _ _ => begun_at stage ⟨rfl, rfl, rfl⟩
  | left removed made stage =>
    exact kept.ended rfl le_rfl rfl fun _ _ => begun_at stage ⟨rfl, rfl, rfl⟩
  | removed removed error stage =>
    exact kept.ended rfl le_rfl rfl fun _ unfailed => absurd unfailed nofun
  | encoder event taken =>
    have acts := (encoder_moves_of_step taken).acts
    obtain ⟨same_pushed, same_clock, same_next⟩ := acts.pace
    have times : captured_times run' = captured_times run := by
      unfold captured_times
      rw [same_pushed, acts.producer]
    obtain ⟨sorted, passed, spread, first, begun, awaits, due, asked⟩ := kept
    rw [← times] at sorted passed spread first begun awaits asked
    rw [← same_clock] at passed due asked
    rw [← same_next] at awaits due asked
    rw [← acts.producer] at begun awaits due asked
    exact ⟨sorted, passed, spread, first, begun, awaits, due, asked⟩

/-! ## What the encoder makes of the frames delivered -/

/-- The writer has been given the frames delivered, but for the one in hand; once it is finished
the queue is empty and closed. -/
structure WriterKept (setup : RecordSetup S F) (run : RecordRun S F) : Prop where
  fresh : run.encoder = .absent ∨ run.encoder = .opens → run.delivered = []
  pops : ∀ writer, run.encoder = .pops writer →
    encode_each (run.frame_encoder setup) run.delivered = .ok writer
  encodes : ∀ writer pixels pos, run.encoder = .encodes writer pixels pos →
    ∃ before, run.delivered = before ++ [(pixels, pos)] ∧
      encode_each (run.frame_encoder setup) before = .ok writer
  finishes : ∀ writer end_at, run.encoder = .finishes writer end_at →
    encode_each (run.frame_encoder setup) run.delivered = .ok writer ∧
      run.queue.frames = [] ∧ run.queue.closed_at = some end_at
  wrote : ∀ file frames_written, run.encoder = .ended (.ok (file, frames_written)) →
    run.queue.frames = [] ∧ ∃ writer end_at,
      encode_each (run.frame_encoder setup) run.delivered = .ok writer ∧
        run.queue.closed_at = some end_at ∧
        (run.frame_encoder setup).finish writer end_at = .ok (file, frames_written)

/-- Nothing has been encoded. -/
theorem new_writer_kept (setup : RecordSetup S F) (area : Rect) (file : PathFile F) :
    WriterKept setup (.new area file) where
  fresh := fun _ => rfl
  pops := nofun
  encodes := nofun
  finishes := nofun
  wrote := nofun

/-- A step of the producer that leaves the encoder and the closed queue. -/
theorem WriterKept.silent (kept : WriterKept setup run) (same_thread : run'.encoder = run.encoder)
    (same_shape : run'.shape = run.shape) (same_delivered : run'.delivered = run.delivered)
    (same_queue : run.queue.closed_at ≠ none →
      run'.queue.frames = run.queue.frames ∧ run'.queue.closed_at = run.queue.closed_at) :
    WriterKept setup run' := by
  have same_encoder : run'.frame_encoder setup = run.frame_encoder setup := by
    unfold RecordRun.frame_encoder
    rw [same_shape]
  refine ⟨?_, ?_, ?_, ?_, ?_⟩
  · rw [same_thread, same_delivered]
    exact kept.fresh
  · rw [same_thread, same_delivered, same_encoder]
    exact kept.pops
  · rw [same_thread, same_delivered, same_encoder]
    exact kept.encodes
  · rw [same_thread, same_delivered, same_encoder]
    intro writer end_at stage
    obtain ⟨encoded, empty, closed⟩ := kept.finishes writer end_at stage
    obtain ⟨same_frames, same_closed⟩ := same_queue (by rw [closed]; nofun)
    rw [same_frames, same_closed]
    exact ⟨encoded, empty, closed⟩
  · rw [same_thread, same_delivered, same_encoder]
    intro file frames_written stage
    obtain ⟨empty, writer, end_at, encoded, closed, wrote⟩ := kept.wrote file frames_written stage
    obtain ⟨same_frames, same_closed⟩ := same_queue (by rw [closed]; nofun)
    rw [same_frames, same_closed]
    exact ⟨empty, writer, end_at, encoded, closed, wrote⟩

/-- **One step** of the encoder's thread: its writer is given what is delivered.
SRC: recording.rs:438-449 -/
theorem WriterKept.encoder_step (kept : WriterKept setup run)
    (moves : EncoderMoves setup run run') : WriterKept setup run' := by
  cases moves with
  | opened writer file stage created =>
    have nothing := kept.fresh (.inr stage)
    refine ⟨nofun, ?_, nofun, nofun, nofun⟩
    intro writer' same
    cases same
    show encode_each (run.frame_encoder setup) run.delivered = .ok writer
    rw [nothing]
    unfold encode_each
    rw [created]
    rfl
  | unopened error file stage => exact ⟨nofun, nofun, nofun, nofun, nofun⟩
  | popped writer pixels pos rest stage frames =>
    have encoded := kept.pops writer stage
    refine ⟨nofun, nofun, ?_, nofun, nofun⟩
    intro writer' pixels' pos' same
    cases same
    exact ⟨run.delivered, rfl, encoded⟩
  | drained writer end_at stage frames closed =>
    have encoded := kept.pops writer stage
    refine ⟨nofun, nofun, nofun, ?_, nofun⟩
    intro writer' end_at' same
    cases same
    exact ⟨encoded, frames, closed⟩
  | encoded writer pixels pos writer' stage pushed =>
    obtain ⟨before, delivered, encoded⟩ := kept.encodes writer pixels pos stage
    refine ⟨nofun, ?_, nofun, nofun, nofun⟩
    intro writer'' same
    cases same
    show encode_each (run.frame_encoder setup) run.delivered = .ok writer'
    rw [delivered]
    exact (encode_each_append encoded (pixels, pos)).trans pushed
  | refused error stage => exact ⟨nofun, nofun, nofun, nofun, nofun⟩
  | finished writer end_at file frames_written stage wrote =>
    obtain ⟨encoded, empty, closed⟩ := kept.finishes writer end_at stage
    refine ⟨nofun, nofun, nofun, nofun, ?_⟩
    intro file' frames_written' same
    cases same
    exact ⟨empty, writer, end_at, encoded, closed, wrote⟩
  | failed error stage => exact ⟨nofun, nofun, nofun, nofun, nofun⟩
  | panicked present going => exact ⟨nofun, nofun, nofun, nofun, nofun⟩

/-- **One step** of either thread. -/
theorem WriterKept.step (kept : WriterKept setup run) (frames : FramesKept run)
    (threads : ThreadsKept run) (moves : RecordMoves setup run event run') :
    WriterKept setup run' := by
  have still_open {stage : ProducerStage F} (at_stage : run.producer = stage)
      (is_working : working stage = true) : run.queue.closed_at = none := by
    rw [← at_stage] at is_working
    exact (threads.spawned is_working).2
  cases moves with
  | refused error stage producers => exact kept.silent rfl rfl rfl fun _ => ⟨rfl, rfl⟩
  | begins first area stage producers =>
    have absent := (threads.unspawned (by rw [stage]; rfl)).1
    have fresh := (frames.fresh (by rw [stage]; rfl)).2
    refine ⟨fun _ => fresh, ?_, ?_, ?_, ?_⟩
    · intro writer is_stage
      cases absent.symm.trans is_stage
    · intro writer pixels pos is_stage
      cases absent.symm.trans is_stage
    · intro writer end_at is_stage
      cases absent.symm.trans is_stage
    · intro file frames_written is_stage
      cases absent.symm.trans is_stage
  | spawned first stage producers =>
    have fresh := (frames.fresh (by rw [stage]; rfl)).2
    exact ⟨fun _ => fresh, nofun, nofun, nofun, nofun⟩
  | unconverted frame pos error stage fails => exact kept.silent rfl rfl rfl fun _ => ⟨rfl, rfl⟩
  | converted frame pos pixels stage => exact kept.silent rfl rfl rfl fun _ => ⟨rfl, rfl⟩
  | pushed pixels pos stage =>
    exact kept.silent rfl rfl rfl fun closed => absurd (still_open stage rfl) closed
  | paced stage' failures clock next stage goes_on pace later producers =>
    exact kept.silent rfl rfl rfl fun _ => ⟨rfl, rfl⟩
  | answered frame elapsed stage later => exact kept.silent rfl rfl rfl fun _ => ⟨rfl, rfl⟩
  | closed elapsed ended stage later =>
    exact kept.silent rfl rfl rfl fun closed => absurd (still_open stage rfl) closed
  | gave_up elapsed message stage later =>
    exact kept.silent rfl rfl rfl fun closed => absurd (still_open stage rfl) closed
  | joined duration ended file frames_written stage wrote =>
    exact kept.silent rfl rfl rfl fun _ => ⟨rfl, rfl⟩
  | failed error stage stopped producers => exact kept.silent rfl rfl rfl fun _ => ⟨rfl, rfl⟩
  | unmeasured error duration ended file frames_written stage producers =>
    exact kept.silent rfl rfl rfl fun _ => ⟨rfl, rfl⟩
  | measured duration ended file frames_written data stage producers =>
    exact kept.silent rfl rfl rfl fun _ => ⟨rfl, rfl⟩
  | left removed made stage => exact kept.silent rfl rfl rfl fun _ => ⟨rfl, rfl⟩
  | removed removed error stage => exact kept.silent rfl rfl rfl fun _ => ⟨rfl, rfl⟩
  | encoder event taken => exact kept.encoder_step (encoder_moves_of_step taken)

/-! ## The report, and frames in time -/

/-- A report stands for the queue it closed and the file the encoder wrote. -/
structure ReportKept (setup : RecordSetup S F) (run : RecordRun S F) : Prop where
  joins : ∀ duration ended, run.producer = .joins duration ended →
    run.queue.closed_at = some duration ∧ duration ≤ setup.settings.max_duration
  reports : ∀ duration ended file frames_written,
    run.producer = .reports duration ended file frames_written →
      run.queue.closed_at = some duration ∧ duration ≤ setup.settings.max_duration
  made : ∀ report data,
    run.producer = .returned (.ok (report, data)) ∨ run.producer = .done (.ok (report, data)) →
      (run.queue.closed_at = some report.duration ∧
        report.duration ≤ setup.settings.max_duration) ∧
      (∃ file frames_written, run.encoder = .ended (.ok (file, frames_written))) ∧
      report.frames_captured = run.captured ∧ report.frames_dropped = run.queue.dropped

/-- A stage in which there is no report and the encoder has not been joined with success. -/
def unreported : ProducerStage F → Bool
  | .joins .. | .reports .. | .returned (.ok _) | .done (.ok _) => false
  | _ => true

/-- Where there is no report there is nothing to keep of one. -/
theorem ReportKept.of_unreported (no_report : unreported run.producer = true) :
    ReportKept setup run := by
  refine ⟨?_, ?_, ?_⟩
  · intro duration ended joins
    rw [joins] at no_report
    cases no_report
  · intro duration ended file frames_written reports
    rw [reports] at no_report
    cases no_report
  · rintro report data (returned | done)
    · rw [returned] at no_report
      cases no_report
    · rw [done] at no_report
      cases no_report

/-- There is none as a recording starts. -/
theorem new_report_kept (setup : RecordSetup S F) (area : Rect) (file : PathFile F) :
    ReportKept setup (RecordRun.new area file) :=
  .of_unreported rfl

/-- **One step** of either thread. -/
theorem ReportKept.step (kept : ReportKept setup run) (threads : ThreadsKept run)
    (moves : RecordMoves setup run event run') : ReportKept setup run' := by
  cases moves with
  | refused error stage producers => exact .of_unreported rfl
  | begins first area stage producers => exact .of_unreported rfl
  | spawned first stage producers => exact .of_unreported rfl
  | unconverted frame pos error stage fails => exact .of_unreported rfl
  | converted frame pos pixels stage => exact .of_unreported rfl
  | pushed pixels pos stage => exact .of_unreported rfl
  | paced stage' failures clock next stage goes_on pace later producers =>
    apply ReportKept.of_unreported
    show unreported stage' = true
    cases stage' <;> first | rfl | cases goes_on
  | answered frame elapsed stage later => exact .of_unreported rfl
  | closed elapsed ended stage later =>
    refine ⟨?_, nofun, ?_⟩
    · intro duration ended' same
      cases same
      exact ⟨rfl, Nat.min_le_right _ _⟩
    · rintro report data (returned | done)
      · cases returned
      · cases done
  | gave_up elapsed message stage later => exact .of_unreported rfl
  | joined duration ended file frames_written stage wrote =>
    have closed := kept.joins duration ended stage
    refine ⟨nofun, ?_, ?_⟩
    · intro duration' ended' file' frames_written' same
      cases same
      exact closed
    · rintro report data (returned | done)
      · cases returned
      · cases done
  | failed error stage stopped producers => exact .of_unreported rfl
  | unmeasured error duration ended file frames_written stage producers =>
    exact .of_unreported rfl
  | measured duration ended file frames_written data stage producers =>
    have closed := kept.reports duration ended file frames_written stage
    have wrote := threads.reported duration ended file frames_written stage
    refine ⟨nofun, nofun, ?_⟩
    rintro report data' (returned | done)
    · cases returned
      exact ⟨closed, ⟨file, frames_written, wrote⟩, rfl, rfl⟩
    · cases done
  | left removed made stage =>
    have before := kept.made made.1 made.2 (.inl stage)
    refine ⟨nofun, nofun, ?_⟩
    rintro report data (returned | done)
    · cases returned
    · cases done
      exact before
  | removed removed error stage => exact .of_unreported rfl
  | encoder event taken =>
    have moves := encoder_moves_of_step taken
    have acts := moves.acts
    refine ⟨?_, ?_, ?_⟩
    · rw [acts.producer, acts.closed_at]
      exact kept.joins
    · rw [acts.producer, acts.closed_at]
      exact kept.reports
    · intro report data made
      rw [acts.producer] at made
      obtain ⟨-, ⟨file, frames_written, ended⟩, -, -⟩ := kept.made report data made
      have going := acts.going
      rw [ended] at going
      cases going

/-- A frame pushed into a full queue does not push out the first. -/
def spares_first (run : RecordRun S F) (event : RecordEvent) : Prop :=
  event = .pushes → run.queue.failed = false →
    run.queue.capacity ≤ run.queue.frames.length → run.delivered ≠ []

/-- No frame is captured after the time limit. -/
def captures_in_time (setup : RecordSetup S F) (event : RecordEvent) : Prop :=
  ∀ frame elapsed, event = .answers frame elapsed → elapsed ≤ setup.settings.max_duration

/-- What a step makes of the times of capture and of the queue's end. -/
inductive TimesMove (setup : RecordSetup S F) (run : RecordRun S F) (event : RecordEvent)
    (run' : RecordRun S F) : Prop
  | stays (fewer : ∀ t ∈ captured_times run', t ∈ captured_times run)
    (closed : run'.queue.closed_at = run.queue.closed_at ∨ run'.queue.closed_at = none)
  | first (times : captured_times run' = [0]) (closed : run'.queue.closed_at = none)
  | captures (frame : CpuFrame) (elapsed : Duration) (answers : event = .answers frame elapsed)
    (times : ∀ t ∈ captured_times run', t ∈ captured_times run ∨ t = elapsed)
    (closed : run'.queue.closed_at = none)
  | closes (elapsed : Duration) (later : run.clock ≤ elapsed)
    (fewer : ∀ t ∈ captured_times run', t ∈ captured_times run)
    (closed : run'.queue.closed_at = some (min elapsed setup.settings.max_duration) ∨
      run'.queue.closed_at = some elapsed)

/-- Where nothing is pushed, and no frame is in hand, no time is new. -/
theorem fewer_times (same_pushed : run'.pushed = run.pushed)
    (nothing : frame_in_hand run'.producer = []) :
    ∀ t ∈ captured_times run', t ∈ captured_times run := by
  unfold captured_times
  rw [same_pushed, nothing, List.append_nil]
  exact fun t member => List.mem_append_left _ member

/-- What one step adds to the times at which frames were captured. -/
theorem times_move (frames : FramesKept run) (threads : ThreadsKept run)
    (moves : RecordMoves setup run event run') : TimesMove setup run event run' := by
  cases moves with
  | refused error stage producers => exact .stays (fewer_times rfl rfl) (.inl rfl)
  | begins first area stage producers => exact .stays (fewer_times rfl rfl) (.inr rfl)
  | spawned first stage producers =>
    refine .first ?_ (threads.unspawned (by rw [stage]; rfl)).2
    unfold captured_times
    rw [(frames.fresh (by rw [stage]; rfl)).1]
    rfl
  | unconverted frame pos error stage fails => exact .stays (fewer_times rfl rfl) (.inl rfl)
  | converted frame pos pixels stage =>
    refine .stays ?_ (.inl rfl)
    unfold captured_times
    rw [stage]
    exact fun t member => member
  | pushed pixels pos stage =>
    refine .stays ?_ (.inl (push_closed_at _ _ _))
    unfold captured_times
    rw [stage, List.map_append]
    intro t member
    have inside : t ∈ run.pushed.map Prod.snd ++ [pos] ++ [] := member
    rw [List.append_nil] at inside
    exact inside
  | paced stage' failures clock next stage goes_on pace later producers =>
    refine .stays (fewer_times rfl ?_) (.inl rfl)
    show frame_in_hand stage' = []
    cases pace with
    | stops stage' clock ending => cases stage' <;> cases ending <;> rfl
    | _ => rfl
  | answered frame elapsed stage later =>
    refine .captures frame elapsed rfl ?_ (threads.spawned (by rw [stage]; rfl)).2
    intro t member
    unfold captured_times at member ⊢
    rcases List.mem_append.mp member with member | member
    · exact .inl (List.mem_append_left _ member)
    · exact .inr (List.mem_singleton.mp member)
  | closed elapsed ended stage later => exact .closes elapsed later (fewer_times rfl rfl) (.inl rfl)
  | gave_up elapsed message stage later =>
    exact .closes elapsed later (fewer_times rfl rfl) (.inr rfl)
  | joined duration ended file frames_written stage wrote =>
    exact .stays (fewer_times rfl rfl) (.inl rfl)
  | failed error stage stopped producers => exact .stays (fewer_times rfl rfl) (.inl rfl)
  | unmeasured error duration ended file frames_written stage producers =>
    exact .stays (fewer_times rfl rfl) (.inl rfl)
  | measured duration ended file frames_written data stage producers =>
    exact .stays (fewer_times rfl rfl) (.inl rfl)
  | left removed made stage => exact .stays (fewer_times rfl rfl) (.inl rfl)
  | removed removed error stage => exact .stays (fewer_times rfl rfl) (.inl rfl)
  | encoder event taken =>
    have acts := (encoder_moves_of_step taken).acts
    refine .stays ?_ (.inl acts.closed_at)
    unfold captured_times
    rw [acts.pace.1, acts.producer]
    exact fun t member => member

/-- Every frame is captured within the time limit, and none after the end that the queue was
closed with. -/
structure TimelyKept (setup : RecordSetup S F) (run : RecordRun S F) : Prop where
  in_time : ∀ t ∈ captured_times run, t ≤ setup.settings.max_duration
  closed : ∀ duration, run.queue.closed_at = some duration → ∀ t ∈ captured_times run, t ≤ duration

/-- No frame is late as a recording starts. -/
theorem new_timely_kept (setup : RecordSetup S F) (area : Rect) (file : PathFile F) :
    TimelyKept setup (.new area file) where
  in_time := nofun
  closed := nofun

/-- The first frame captured is delivered, or waits. -/
def FirstKept (run : RecordRun S F) : Prop :=
  run.queue.failed = false → KeepsFirst run.pushed run.delivered run.queue.frames

/-- **One step** that spares the first frame.
SRC: recording.rs:590-640 -/
theorem FirstKept.step (first : FirstKept run) (frames : FramesKept run)
    (spares : spares_first run event) (moves : RecordMoves setup run event run') :
    FirstKept run' := by
  intro unfailed
  cases moves with
  | begins first_frame area stage producers =>
    obtain ⟨no_push, nothing⟩ := frames.fresh (by rw [stage]; rfl)
    show KeepsFirst run.pushed run.delivered []
    rw [no_push, nothing]
    rfl
  | pushed pixels pos stage =>
    change (run.queue.push pixels pos).failed = false at unfailed
    rw [push_failed] at unfailed
    show KeepsFirst _ run.delivered (run.queue.push pixels pos).frames
    rw [(push_frames run.queue pixels pos unfailed).1]
    apply KeepsFirst.offer
    split
    · rename_i full
      exact (first unfailed).shed (spares rfl unfailed full)
    · exact first unfailed
  | encoder event taken =>
    have moves := encoder_moves_of_step taken
    cases moves with
    | popped writer pixels pos rest stage queue =>
      have before := first unfailed
      rw [queue] at before
      exact before.take
    | failed error stage => cases unfailed
    | _ => exact first unfailed
  | _ => exact first unfailed

/-- The last frame pushed is delivered, or waits. -/
def NewestKept (run : RecordRun S F) : Prop :=
  run.queue.failed = false →
    (run.delivered ++ run.queue.frames).getLast? = run.pushed.getLast?

/-- **One step**: a frame that is pushed stays at the end of the queue until it is taken.
SRC: recording.rs:590-640 -/
theorem NewestKept.step (last : NewestKept run) (frames : FramesKept run)
    (moves : RecordMoves setup run event run') : NewestKept run' := by
  intro unfailed
  cases moves with
  | begins first_frame area stage producers =>
    obtain ⟨no_push, nothing⟩ := frames.fresh (by rw [stage]; rfl)
    show (run.delivered ++ []).getLast? = run.pushed.getLast?
    rw [no_push, nothing]
    rfl
  | pushed pixels pos stage =>
    change (run.queue.push pixels pos).failed = false at unfailed
    rw [push_failed] at unfailed
    show (run.delivered ++ (run.queue.push pixels pos).frames).getLast? = _
    rw [(push_frames run.queue pixels pos unfailed).1, ← List.append_assoc, List.getLast?_concat]
    exact List.getLast?_concat.symm
  | encoder event taken =>
    have moves := encoder_moves_of_step taken
    cases moves with
    | popped writer pixels pos rest stage queue =>
      have before := last unfailed
      rw [queue] at before
      show (run.delivered ++ [(pixels, pos)] ++ rest).getLast? = run.pushed.getLast?
      rw [List.append_assoc]
      exact before
    | failed error stage => cases unfailed
    | _ => exact last unfailed
  | _ => exact last unfailed

/-- **One step** that captures in time. -/
theorem TimelyKept.step (kept : TimelyKept setup run) (frames : FramesKept run)
    (threads : ThreadsKept run) (pace : PaceKept setup run)
    (in_time : captures_in_time setup event) (moves : RecordMoves setup run event run') :
    TimelyKept setup run' := by
  have times := times_move frames threads moves
  refine ⟨?_, ?_⟩
  · intro t member
    cases times with
    | stays fewer closed => exact kept.in_time t (fewer t member)
    | first times closed =>
      rw [times] at member
      rw [List.mem_singleton.mp member]
      exact Nat.zero_le _
    | captures frame elapsed answers times closed =>
      rcases times t member with before | rfl
      · exact kept.in_time t before
      · exact in_time frame t answers
    | closes elapsed later fewer closed => exact kept.in_time t (fewer t member)
  · intro duration is_closed t member
    cases times with
    | stays fewer closed =>
      rcases closed with same | still_open
      · rw [same] at is_closed
        exact kept.closed duration is_closed t (fewer t member)
      · cases still_open.symm.trans is_closed
    | first times closed => cases closed.symm.trans is_closed
    | captures frame elapsed answers times closed => cases closed.symm.trans is_closed
    | closes elapsed later fewer closed =>
      have passed := (pace.passed t (fewer t member)).trans later
      have in_time := kept.in_time t (fewer t member)
      rcases closed with at_end | at_end
      · rw [Option.some.inj (is_closed.symm.trans at_end)]
        exact Nat.le_min.mpr ⟨passed, in_time⟩
      · rw [Option.some.inj (is_closed.symm.trans at_end)]
        exact passed

/-! ## Whole runs -/

/-- What every step keeps. -/
structure AccountsKept (setup : RecordSetup S F) (run : RecordRun S F) : Prop where
  threads : ThreadsKept run
  frames : FramesKept run
  pace : PaceKept setup run
  last : NewestKept run
  writer : WriterKept setup run
  report : ReportKept setup run

/-- The accounts are empty as a recording starts. -/
theorem new_accounts_kept (setup : RecordSetup S F) (area : Rect) (file : PathFile F) :
    AccountsKept setup (.new area file) where
  threads := (new_recording_kept setup area file).threads
  frames := new_frames_kept area file
  pace := new_pace_kept setup area file
  last := fun _ => rfl
  writer := new_writer_kept setup area file
  report := new_report_kept setup area file

/-- **One step** keeps the accounts. -/
theorem accounts_step_kept (kept : AccountsKept setup run)
    (step : RecordingStep setup run event run') : AccountsKept setup run' := by
  have moves := moves_of_step step
  exact ⟨kept.threads.step moves, kept.frames.step kept.threads moves,
    kept.pace.step kept.frames moves, kept.last.step kept.frames moves,
    kept.writer.step kept.frames kept.threads moves,
    kept.report.step kept.threads moves⟩

/-- So it does those of the times, where captures are in time. -/
theorem timely_step_kept (kept : AccountsKept setup run ∧ TimelyKept setup run)
    (in_time : captures_in_time setup event) (step : RecordingStep setup run event run') :
    AccountsKept setup run' ∧ TimelyKept setup run' :=
  ⟨accounts_step_kept kept.1 step, kept.2.step kept.1.frames kept.1.threads kept.1.pace in_time
    (moves_of_step step)⟩

/-- So it does that of the first frame, where that is spared. -/
theorem first_step_kept (kept : AccountsKept setup run ∧ FirstKept run)
    (spares : spares_first run event) (step : RecordingStep setup run event run') :
    AccountsKept setup run' ∧ FirstKept run' :=
  ⟨accounts_step_kept kept.1 step, kept.2.step kept.1.frames spares (moves_of_step step)⟩

/-- The frames of a recording are accounted for: those that reached the encoder and those that
wait were pushed, in the order and with the times of their capture; no more wait than the queue
holds; and, unless the encoder failed, the rest were dropped, as the report says, but never the
last. -/
structure FramesAccounted (run : RecordRun S F) : Prop where
  in_order : (run.delivered ++ run.queue.frames).Sublist run.pushed
  capture_order : (run.pushed.map Prod.snd).Pairwise (· ≤ ·)
  bounded : run.queue.frames.length ≤ run.queue.capacity
  counted : run.queue.failed = false →
    run.pushed.length = run.delivered.length + run.queue.frames.length + run.queue.dropped
  last_kept : run.queue.failed = false →
    (run.delivered ++ run.queue.frames).getLast? = run.pushed.getLast?
  reported : ∀ report data,
    run.producer = .returned (.ok (report, data)) ∨ run.producer = .done (.ok (report, data)) →
      report.frames_captured = run.pushed.length ∧
        report.frames_captured = run.delivered.length + report.frames_dropped

/-- A recording that was made has a queue that did not fail. -/
theorem AccountsKept.unfailed (kept : AccountsKept setup run) {report : RecordingReport}
    {data : Option F} (made : run.producer = .returned (.ok (report, data)) ∨
      run.producer = .done (.ok (report, data))) : run.queue.failed = false := by
  obtain ⟨-, ⟨file, frames_written, ended⟩, -, -⟩ := kept.report.made report data made
  cases failed : run.queue.failed with
  | false => rfl
  | true =>
    obtain ⟨error, other⟩ := kept.threads.failed failed
    cases ended.symm.trans other

/-- The accounts say what a recording has to. -/
theorem AccountsKept.accounted (kept : AccountsKept setup run) : FramesAccounted run where
  in_order := kept.frames.order
  capture_order := kept.pace.sorted.sublist (List.sublist_append_left _ _)
  bounded := kept.frames.bounded
  counted := kept.frames.counted
  last_kept := kept.last
  reported := by
    intro report data made
    obtain ⟨-, ⟨file, frames_written, ended⟩, captured, dropped⟩ :=
      kept.report.made report data made
    have empty := (kept.writer.wrote file frames_written ended).1
    have counted := kept.frames.counted (kept.unfailed made)
    rw [empty] at counted
    have not_failed : has_failed run.producer = false ∧ frame_in_hand run.producer = [] := by
      rcases made with returned | done
      · rw [returned]
        exact ⟨rfl, rfl⟩
      · rw [done]
        exact ⟨rfl, rfl⟩
    have all_pushed := kept.frames.captured not_failed.1
    rw [not_failed.2] at all_pushed
    rw [captured, dropped]
    exact ⟨all_pushed, all_pushed.trans counted⟩

/-- In every run the accounts are kept. -/
theorem accounts_kept {area : Rect} {file : PathFile F}
    {steps : List (Taken (RecordRun S F) RecordEvent)}
    (runs : Run (RecordingStep setup) (.new area file) steps run) : AccountsKept setup run := by
  apply runs.inv _ (new_accounts_kept setup area file)
  intro before event after kept step
  exact accounts_step_kept kept step

/-- **The frames are accounted for** in every state of every run.
SRC: recording.rs:148-297, 418-449, 555-640 -/
theorem frames_accounted {area : Rect} {file : PathFile F}
    {steps : List (Taken (RecordRun S F) RecordEvent)}
    (runs : Run (RecordingStep setup) (.new area file) steps run) : FramesAccounted run :=
  (accounts_kept runs).accounted

/-- The frame captured so many half seconds into a recording. -/
def frame_at (halves : Nat) : List RecordEvent :=
  [.polls false (from_millis (500 * halves)) false (from_millis (500 * halves)),
    .checks (from_millis (500 * halves)),
    .answers (recorded_pixel .Bgra8Unorm) (from_millis (500 * halves)), .converts, .pushes]

/-- Ninety-one frames, one more than the queue holds, before the encoder takes its first: the
queue drops one, and the encoder takes the next. -/
def overrun_events : List RecordEvent :=
  [.first (.ok (recorded_pixel .Bgra8Unorm)), .spawns none, .converts, .pushes] ++
    (List.range' 1 90).flatMap frame_at ++
    [.encoder (.opens none false), .encoder .pops]

/-- A recording of 91 frames whose encoder is behind, so that one is dropped. -/
theorem frames_accounted_overrun :
    ∃ steps run, Run (RecordingStep pixel_setup) (.new .origin_pixel .unfinished) steps run ∧
      steps.map Taken.event = overrun_events ∧ FramesAccounted run ∧
      run.pushed.length = 91 ∧ run.delivered.length = 1 ∧ run.queue.dropped = 1 := by
  have computed : (overrun_events.foldlM (RecordRun.step pixel_setup)
      (.new .origin_pixel .unfinished)).any (fun run => decide (run.pushed.length = 91 ∧
        run.delivered.length = 1 ∧ run.queue.dropped = 1)) = true := by decide +kernel
  obtain ⟨run, computed, counted⟩ := (Option.any_eq_true _ _).mp computed
  obtain ⟨steps, same, runs⟩ := @Run.of_foldlM _ _ (RecordingStep pixel_setup) _ _
    (RecordRun.step pixel_setup) (fun _ _ _ taken => taken) _ computed
  exact ⟨steps, run, runs, same, frames_accounted runs, of_decide_eq_true counted⟩

end Captastic.Analysis
