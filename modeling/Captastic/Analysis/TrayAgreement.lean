import Captastic.Analysis.TrayMoves

/-!
# The tray and the daemon agree

The tray shows whether captures are saved and whether recordings are reviewed from what the daemon
told it last.  Whatever the two threads do, in any order and however the shell dispatches messages
into the calls it is in, the tray shows what the daemon does wherever no message about it is on its
way (`tray_reports`).

It is the other way around with pausing: the tray decides, and the daemon is told over a channel
that drops what finds it full.  They agree at rest in every run in which no such event finds the
channel full, and none is overtaken by a later one as the shell changes the tooltip in between
(`tray_pause_agrees`).
-/

set_option autoImplicit false

namespace Captastic.Analysis

open Captastic.Library Captastic.Model

variable {taskbar_created : Nat} {s s' : TraySystem}

/-- A step of the two threads. -/
def TrayStepTaken (taskbar_created : Nat) (s : TraySystem) (step : TrayStep) (s' : TraySystem) :
    Prop :=
  s.next taskbar_created step = some s'

/-! ## What the daemon last said -/

/-- Whether captures are saved, as an input reports. -/
def file_report : TrayInput → Option Bool
  | .FileOutputChanged enabled => some enabled
  | _ => none

/-- Whether recordings are reviewed, as an input reports. -/
def review_report : TrayInput → Option Bool
  | .ReviewChanged enabled => some enabled
  | _ => none

/-- The reports among messages. -/
def reported (read : TrayInput → Option Bool) (taskbar_created : Nat) (posted : List TrayMessage) :
    List Bool :=
  posted.filterMap fun m => (translate_tray_message taskbar_created m).bind read

/-- What a list of reports after a value says last. -/
def last_said (value : Bool) (reports : List Bool) : Bool := reports.getLast?.getD value

/-- With no report the value stands. -/
@[simp] theorem last_said_nil (value : Bool) : last_said value [] = value := rfl

/-- A report takes the value's place. -/
@[simp] theorem last_said_cons (value report : Bool) (rest : List Bool) :
    last_said value (report :: rest) = last_said report rest := by
  rw [last_said, last_said, List.getLast?_cons]
  rfl

/-- The last report is the one that counts. -/
@[simp] theorem last_said_concat (value report : Bool) (earlier : List Bool) :
    last_said value (earlier ++ [report]) = report := by
  simp [last_said]

/-- The tray's flag, once it has taken the messages there are. -/
def flag_to_be (read : TrayInput → Option Bool) (flag : TrayModel → Bool) (taskbar_created : Nat)
    (s : TraySystem) : Bool :=
  last_said (flag s.model) (reported read taskbar_created s.posted)

/-- A flag that only reports change, which only the daemon's messages are. -/
structure Reflects (read : TrayInput → Option Bool) (flag : TrayModel → Bool) : Prop where
  reads : ∀ model input, flag (model.transition input).1 = (read input).getD (flag model)
  own : ∀ input, reports input = false → read input = none

/-- A command of the menu changes neither flag. -/
theorem menu_flags (model : TrayModel) (command : TrayMenuCommand) :
    (model.menu command).1.file_output_enabled = model.file_output_enabled ∧
      (model.menu command).1.review_enabled = model.review_enabled := by
  cases command <;> exact ⟨rfl, rfl⟩

/-- Whether captures are saved is shown as reported. -/
theorem file_reflects : Reflects file_report TrayModel.file_output_enabled where
  reads model input := by
    cases input with
    | Menu command => exact (menu_flags model command).1
    | IconAddCompleted => simp only [TrayModel.transition]; split <;> rfl
    | QueryEndSession | Destroyed => simp only [TrayModel.transition]; split <;> rfl
    | _ => rfl
  own input foreign := by
    cases input with
    | FileOutputChanged => cases foreign
    | _ => rfl

/-- So is whether recordings are reviewed. -/
theorem review_reflects : Reflects review_report TrayModel.review_enabled where
  reads model input := by
    cases input with
    | Menu command => exact (menu_flags model command).2
    | IconAddCompleted => simp only [TrayModel.transition]; split <;> rfl
    | QueryEndSession | Destroyed => simp only [TrayModel.transition]; split <;> rfl
    | _ => rfl
  own input foreign := by
    cases input with
    | ReviewChanged => cases foreign
    | _ => rfl

variable {read : TrayInput → Option Bool} {flag : TrayModel → Bool}

/-- Taking a message that reports, or one that does not, leaves what the flag is to be. -/
theorem flag_dispatched (reflects : Reflects read flag) {m : TrayMessage}
    {posted : List TrayMessage} {input : TrayInput} (first : s.posted = m :: posted)
    (means : translate_tray_message taskbar_created m = some input) :
    flag_to_be read flag taskbar_created ({ s with posted := posted }.run_tray_input input) =
      flag_to_be read flag taskbar_created s := by
  have model : ({ s with posted := posted }.run_tray_input input).model =
      (s.model.transition input).1 := rfl
  have rest : ({ s with posted := posted }.run_tray_input input).posted = posted := rfl
  rw [flag_to_be, flag_to_be, model, rest, first, reflects.reads, reported, reported,
    List.filterMap_cons, means, Option.bind_some]
  cases read input with
  | none => rfl
  | some report => exact (last_said_cons _ _ _).symm

/-- An input that is not reported leaves the flag. -/
theorem flag_run (reflects : Reflects read flag) {input : TrayInput}
    (foreign : reports input = false) :
    flag_to_be read flag taskbar_created (s.run_tray_input input) =
      flag_to_be read flag taskbar_created s := by
  have model : (s.run_tray_input input).model = (s.model.transition input).1 := rfl
  have posted : (s.run_tray_input input).posted = s.posted := rfl
  rw [flag_to_be, flag_to_be, model, posted, reflects.reads, reflects.own input foreign]
  rfl

/-- A message that is posted is what the daemon says last, if it reports. -/
theorem flag_posted (value : Bool) (message : Nat) :
    flag_to_be read flag taskbar_created (s.post message value) =
      ((translate_tray_message taskbar_created ⟨message, value.toNat, 0⟩).bind read).getD
        (flag_to_be read flag taskbar_created s) := by
  rw [flag_to_be, flag_to_be, TraySystem.post, reported, reported, List.filterMap_append]
  cases report : (translate_tray_message taskbar_created ⟨message, value.toNat, 0⟩).bind read with
  | none => simp [report]
  | some said => simp [report]

/-- The meaning of the daemon's message about a switch. -/
theorem means_switch (registered : Registered taskbar_created) (value : Bool) :
    translate_tray_message taskbar_created ⟨TRAY_SET_FILE_OUTPUT, value.toNat, 0⟩ =
        some (.FileOutputChanged value) ∧
      translate_tray_message taskbar_created ⟨TRAY_SET_REVIEW, value.toNat, 0⟩ =
        some (.ReviewChanged value) ∧
      translate_tray_message taskbar_created ⟨TRAY_SET_STARTUP, value.toNat, 0⟩ =
        some (.StartupStateChanged value) ∧
      translate_tray_message taskbar_created ⟨TRAY_SET_HAS_HISTORY, value.toNat, 0⟩ =
        some (.HistoryAvailabilityChanged value) ∧
      translate_tray_message taskbar_created ⟨TRAY_SHOW_ERROR, value.toNat, 0⟩ =
        some .NotificationsPosted := by
  have own (message : Nat) (is_own : daemon_posts ⟨message, value.toNat, 0⟩ = true) :=
    report_input registered is_own
  refine ⟨?_, ?_, ?_, ?_, ?_⟩
  all_goals
    rw [own _ (by rfl)]
    cases value <;> rfl

/-! ## The tray shows what the daemon does -/

/-- What the tray is to show is what the daemon does, and the daemon saves captures exactly while
its file worker is among the destinations. -/
structure ReportsKept (taskbar_created : Nat) (s : TraySystem) : Prop where
  own : ∀ m ∈ s.posted, daemon_posts m = true
  file : flag_to_be file_report TrayModel.file_output_enabled taskbar_created s =
    s.daemon.file_output
  sink : s.daemon.sink = s.daemon.file_output
  review : flag_to_be review_report TrayModel.review_enabled taskbar_created s = s.daemon.review

namespace ReportsKept

/-- What touches neither the model, the messages nor the daemon's settings. -/
theorem same (kept : ReportsKept taskbar_created s) (model : s'.model = s.model)
    (posted : s'.posted = s.posted) (file : s'.daemon.file_output = s.daemon.file_output)
    (sink : s'.daemon.sink = s.daemon.sink) (review : s'.daemon.review = s.daemon.review) :
    ReportsKept taskbar_created s' where
  own := posted ▸ kept.own
  file := by rw [flag_to_be, model, posted, file]; exact kept.file
  sink := by rw [sink, file]; exact kept.sink
  review := by rw [flag_to_be, model, posted, review]; exact kept.review

/-- An input that none of the daemon's messages means. -/
theorem run (kept : ReportsKept taskbar_created s) {input : TrayInput}
    (foreign : reports input = false) : ReportsKept taskbar_created (s.run_tray_input input) where
  own := kept.own
  file := (flag_run file_reflects foreign).trans kept.file
  sink := kept.sink
  review := (flag_run review_reflects foreign).trans kept.review

/-- A message of the daemon's that says what it now does. -/
theorem post (kept : ReportsKept taskbar_created s) {message : Nat} {value : Bool}
    {daemon : TrayDaemon} (own : daemon_posts ⟨message, value.toNat, 0⟩ = true)
    (file : ((translate_tray_message taskbar_created ⟨message, value.toNat, 0⟩).bind
      file_report).getD s.daemon.file_output = daemon.file_output)
    (sink : daemon.sink = daemon.file_output)
    (review : ((translate_tray_message taskbar_created ⟨message, value.toNat, 0⟩).bind
      review_report).getD s.daemon.review = daemon.review) :
    ReportsKept taskbar_created ({ s with daemon := daemon }.post message value) where
  own := by
    intro m member
    rcases List.mem_append.mp member with member | member
    · exact kept.own m member
    · exact List.mem_singleton.mp member ▸ own
  file := by
    have before := kept.file
    rw [flag_posted]
    exact (congrArg _ before).trans file
  sink := sink
  review := by
    have before := kept.review
    rw [flag_posted]
    exact (congrArg _ before).trans review

/-- A message of the daemon's that says nothing of either, or says it again. -/
theorem say (kept : ReportsKept taskbar_created s) {message : Nat} {value : Bool}
    (own : daemon_posts ⟨message, value.toNat, 0⟩ = true)
    (file : ((translate_tray_message taskbar_created ⟨message, value.toNat, 0⟩).bind
      file_report).getD s.daemon.file_output = s.daemon.file_output)
    (review : ((translate_tray_message taskbar_created ⟨message, value.toNat, 0⟩).bind
      review_report).getD s.daemon.review = s.daemon.review) :
    ReportsKept taskbar_created (s.post message value) :=
  kept.post own file kept.sink review

/-- Whether captures are saved is switched, and said, or neither. -/
theorem switch (kept : ReportsKept taskbar_created s) (registered : Registered taskbar_created)
    (requested : Bool) (start : FileStart) :
    ReportsKept taskbar_created (s.set_file_output_enabled requested start) := by
  have off := means_switch registered false
  have on := means_switch registered true
  unfold TraySystem.set_file_output_enabled
  split
  · exact kept
  · split
    · exact kept.post rfl (by rw [off.1]; rfl) rfl (by rw [off.1]; rfl)
    · split
      · exact kept
      · cases start with
        | refused => exact kept
        | started => exact kept.post rfl (by rw [on.1]; rfl) rfl (by rw [on.1]; rfl)

/-- An event that the daemon takes. -/
theorem hear (kept : ReportsKept taskbar_created s) (registered : Registered taskbar_created)
    (start : FileStart) (startup : Option Bool) (event : TrayEvent) :
    ReportsKept taskbar_created (s.daemon_event start startup event) := by
  cases event with
  | PausedChanged value => exact kept.same rfl rfl rfl rfl rfl
  | ToggleFileOutput => exact kept.switch registered _ start
  | ToggleReview =>
    have said := (means_switch registered (!s.daemon.review)).2.1
    exact kept.post rfl (by rw [said]; rfl) kept.sink (by rw [said]; rfl)
  | ToggleStartup =>
    cases startup with
    | none => exact kept
    | some enabled =>
      have said := (means_switch registered enabled).2.2.1
      exact kept.say rfl (by rw [said]; rfl) (by rw [said]; rfl)
  | Exit => exact kept.same rfl rfl rfl rfl rfl
  | _ => exact kept

/-- Sending the daemon an event changes no flag. -/
theorem send (kept : ReportsKept taskbar_created s) (event : TrayEvent) :
    ReportsKept taskbar_created (s.send_tray_event event) := by
  unfold TraySystem.send_tray_event
  split <;> exact kept.same rfl rfl rfl rfl rfl

/-- Nor does notifying. -/
theorem notify (kept : ReportsKept taskbar_created s) (notification : TrayNotification) :
    ReportsKept taskbar_created (s.send_notification notification) := by
  unfold TraySystem.send_notification
  split
  · exact kept.same rfl rfl rfl rfl rfl
  · exact kept

/-- A message that is taken. -/
theorem dispatch (kept : ReportsKept taskbar_created s) {m : TrayMessage}
    {posted : List TrayMessage} {input : TrayInput} (first : s.posted = m :: posted)
    (means : translate_tray_message taskbar_created m = some input) :
    ReportsKept taskbar_created ({ s with posted := posted }.run_tray_input input) where
  own later member := kept.own later (first ▸ List.mem_cons_of_mem m member)
  file := (flag_dispatched file_reflects first means).trans kept.file
  sink := kept.sink
  review := (flag_dispatched review_reflects first means).trans kept.review

/-- **One step** keeps the flags to be as the daemon's. -/
theorem step (registered : Registered taskbar_created) (s : TraySystem) (step : TrayStep)
    (s' : TraySystem) (kept : ReportsKept taskbar_created s)
    (taken : TrayStepTaken taskbar_created s step s') : ReportsKept taskbar_created s' := by
  cases tray_moves taken with
  | sent _ foreign means => exact kept.run (foreign_input foreign means).1
  | ignored => exact kept
  | dispatched first _ means => exact kept.dispatch first means
  | @discarded m posted first means =>
    -- every message of the daemon's means something
    have own := kept.own m (first ▸ List.mem_cons_self)
    rw [report_input registered own] at means
    split_ifs at means
  | left | calls | drains | blocks | waits | passes | again | returned | showed | refused =>
    exact kept.same rfl rfl rfl rfl rfl
  | shut =>
    unfold TraySystem.begin_shutdown
    split
    · exact kept
    · exact kept.same rfl rfl rfl rfl rfl
  | sends =>
    refine send (s := { s with frames := _ }) ?_ _
    exact kept.same rfl rfl rfl rfl rfl
  | added =>
    refine run (s := { s with frames := _ }) ?_ rfl
    exact kept.same rfl rfl rfl rfl rfl
  | heard =>
    refine hear (s := { s with events := _ }) ?_ registered _ _ _
    exact kept.same rfl rfl rfl rfl rfl
  | switched => exact kept.switch registered _ _
  | notified => exact kept.notify _
  | posted =>
    have said := (means_switch registered false).2.2.2.2
    exact kept.post rfl (by rw [said]; rfl) kept.sink (by rw [said]; rfl)
  | @told has_history =>
    have said := (means_switch registered has_history).2.2.2.1
    exact kept.say rfl (by rw [said]; rfl) (by rw [said]; rfl)

/-- They agree as the tray starts. -/
theorem first (registered : Registered taskbar_created)
    (startup_enabled file_output review restored : Bool) :
    ReportsKept taskbar_created
      (TraySystem.started startup_enabled file_output review restored) := by
  have said := (means_switch registered review).2.1
  constructor
  · intro m member
    exact List.mem_singleton.mp member ▸ rfl
  · cases restored <;>
      simp [flag_to_be, reported, TraySystem.started, TrayModel.transition, TrayModel.new, said,
        file_report]
  · rfl
  · simp [flag_to_be, reported, TraySystem.started, said, review_report]

end ReportsKept

/-- A run of the two threads from where the daemon's event loop begins. -/
abbrev TrayRun (taskbar_created : Nat) (startup_enabled file_output review restored : Bool) :
    List (Taken TraySystem TrayStep) → TraySystem → Prop :=
  Run (TrayStepTaken taskbar_created)
    (TraySystem.started startup_enabled file_output review restored)

variable {startup_enabled file_output review restored : Bool}
  {steps : List (Taken TraySystem TrayStep)}

/-- Where none of the daemon's messages is of a kind, none reports what only that kind does. -/
theorem reported_none {posted : List TrayMessage}
    {kind : Nat} (own : ∀ m ∈ posted, daemon_posts m = true)
    (only : ∀ m, daemon_posts m = true → m.message ≠ kind →
      (translate_tray_message taskbar_created m).bind read = none)
    (none_is : ∀ m ∈ posted, m.message ≠ kind) : reported read taskbar_created posted = [] :=
  List.filterMap_eq_nil_iff.mpr fun m member => only m (own m member) (none_is m member)

/-- The daemon's other messages say nothing of saving captures. -/
theorem only_file (registered : Registered taskbar_created) (m : TrayMessage)
    (own : daemon_posts m = true) (other : m.message ≠ TRAY_SET_FILE_OUTPUT) :
    (translate_tray_message taskbar_created m).bind file_report = none := by
  rw [report_input registered own, if_neg other]
  split_ifs <;> rfl

/-- Nor of reviewing recordings. -/
theorem only_review (registered : Registered taskbar_created) (m : TrayMessage)
    (own : daemon_posts m = true) (other : m.message ≠ TRAY_SET_REVIEW) :
    (translate_tray_message taskbar_created m).bind review_report = none := by
  rw [report_input registered own, if_neg other]
  split_ifs <;> rfl

/-- **The tray shows what the daemon does**: in every state of every run in which no message about
it is on its way, the tray shows captures as saved exactly if the daemon's file worker is among its
destinations, and recordings as reviewed exactly if the daemon reviews them. -/
theorem tray_reports (registered : Registered taskbar_created)
    (run : TrayRun taskbar_created startup_enabled file_output review restored steps s) :
    s.daemon.sink = s.daemon.file_output ∧
      ((∀ m ∈ s.posted, m.message ≠ TRAY_SET_FILE_OUTPUT) →
        s.model.file_output_enabled = s.daemon.file_output) ∧
      ((∀ m ∈ s.posted, m.message ≠ TRAY_SET_REVIEW) →
        s.model.review_enabled = s.daemon.review) := by
  have kept := run.inv (ReportsKept.step registered) (ReportsKept.first registered _ _ _ _)
  refine ⟨kept.sink, ?_, ?_⟩
  · intro no_file
    have none_on_way := reported_none kept.own (only_file registered) no_file
    have file := kept.file
    rwa [flag_to_be, none_on_way, last_said_nil] at file
  · intro no_review
    have none_on_way := reported_none kept.own (only_review registered) no_review
    have review := kept.review
    rwa [flag_to_be, none_on_way, last_said_nil] at review

/-- The two threads after these steps, each of which `check` passes, where captures are not saved
at first. -/
def tray_session (check : TraySystem → TrayStep → Bool) (steps : List TrayStep) :
    Option TraySystem :=
  steps.foldlM (fun s step => if check s step then s.next 0xC000 step else none)
    (TraySystem.started true false true true)

/-- A session that is computed is a run, and each of its steps passes the check. -/
theorem tray_session_runs {check : TraySystem → TrayStep → Bool} {events : List TrayStep}
    (computed : tray_session check events = some s) :
    ∃ steps, TrayRun 0xC000 true false true true steps s ∧
      ∀ taken ∈ steps, check taken.before taken.event = true := by
  obtain ⟨steps, -, run, passes⟩ := Run.of_foldlM_checked (fun _ _ _ taken => taken) computed
  exact ⟨steps, run, passes⟩

/-- The menu is asked to save captures, the daemon does, and the tray takes what it posts. -/
def saving_steps : List TrayStep :=
  [.applies, .applies, .receives ⟨WM_COMMAND, 1010, 0⟩, .applies, .applies, .takes .started none,
    .dispatches, .applies, .dispatches]

/-- Once all is taken, the tray shows that captures are saved, as they are. -/
theorem tray_reports_saving :
    ∃ s, tray_session (fun _ _ => true) saving_steps = some s ∧
      (s.posted = [] ∧ s.model.file_output_enabled = true) ∧
      s.daemon.sink = s.daemon.file_output ∧
      ((∀ m ∈ s.posted, m.message ≠ TRAY_SET_FILE_OUTPUT) →
        s.model.file_output_enabled = s.daemon.file_output) ∧
      ((∀ m ∈ s.posted, m.message ≠ TRAY_SET_REVIEW) →
        s.model.review_enabled = s.daemon.review) := by
  have computed : (tray_session (fun _ _ => true) saving_steps).any (fun s =>
      decide (s.posted = [] ∧ s.model.file_output_enabled = true)) = true := by decide
  obtain ⟨s, computed, shown⟩ := Option.any_eq_true _ _ |>.mp computed
  obtain ⟨steps, run, -⟩ := tray_session_runs computed
  exact ⟨s, computed, of_decide_eq_true shown, tray_reports (by unfold Registered; decide) run⟩

/-! ## The daemon is paused as the tray shows it -/

/-- The pause that an event tells of. -/
def pause_of : TrayEvent → Option Bool
  | .PausedChanged paused => some paused
  | _ => none

/-- The pause that an effect sends. -/
def effect_pause : TrayEffect → Option Bool
  | .SendEvent event => pause_of event
  | _ => none

/-- The pauses that the tray's thread is still to send, in the order it will. -/
def unsent (frames : List TrayFrame) : List Bool :=
  frames.flatMap fun frame => frame.effects.filterMap effect_pause

/-- The pauses that the daemon is still to hear. -/
def unheard (s : TraySystem) : List Bool := s.events.filterMap pause_of ++ unsent s.frames

/-- Whether the next effect is to send a pause. -/
def sends_pause : List TrayFrame → Bool
  | ⟨.SendEvent (.PausedChanged _) :: _, none⟩ :: _ => true
  | _ => false

/-- Whether the step keeps the pauses in order: the menu's command is not taken while one is unsent,
and none is sent as the channel is full. -/
def pauses_in_order (taskbar_created : Nat) (s : TraySystem) : TrayStep → Bool
  | .receives m =>
    translate_tray_message taskbar_created m ≠ some (.Menu .Pause) || unsent s.frames = []
  | .applies => !sends_pause s.frames || s.events.length < TRAY_CHANNEL_CAPACITY
  | _ => true

/-- Once it has heard all there is to hear, the daemon is to be paused as the tray is, unless it
shuts down. -/
def PauseKept (s : TraySystem) : Prop :=
  s.daemon.shutting_down = false → last_said s.daemon.paused (unheard s) = s.model.paused

/-- The innermost frame's pauses are sent first. -/
theorem unsent_cons (frame : TrayFrame) (frames : List TrayFrame) :
    unsent (frame :: frames) = frame.effects.filterMap effect_pause ++ unsent frames := rfl

/-- An effect that sends no pause leaves the ones unsent. -/
theorem unsent_performed {effect : TrayEffect} {effects : List TrayEffect}
    {frames : List TrayFrame} {call call' : Option ShellCall}
    (none_sent : effect_pause effect = none) :
    unsent (⟨effects, call'⟩ :: frames) = unsent (⟨effect :: effects, call⟩ :: frames) := by
  rw [unsent_cons, unsent_cons, List.filterMap_cons, none_sent]

/-- Only the menu's command pauses, and it sends that it did. -/
theorem transition_pause (model : TrayModel) {input : TrayInput} (other : input ≠ .Menu .Pause) :
    (model.transition input).1.paused = model.paused ∧
      (model.transition input).2.filterMap effect_pause = [] := by
  cases input with
  | Menu command =>
    cases command with
    | Pause => exact absurd rfl other
    | Capture => exact ⟨rfl, by simp only [TrayModel.transition, TrayModel.menu]; split <;> rfl⟩
    | _ => exact ⟨rfl, rfl⟩
  | IconDoubleClick =>
    exact ⟨rfl, by simp only [TrayModel.transition, TrayModel.menu]; split <;> rfl⟩
  | IconAddCompleted restored => cases restored <;> exact ⟨rfl, rfl⟩
  | NotificationsPosted => exact ⟨rfl, by simp only [TrayModel.transition]; split <;> rfl⟩
  | QueryEndSession | Destroyed => simp only [TrayModel.transition]; split <;> exact ⟨rfl, rfl⟩
  | EndSession committed => exact ⟨rfl, by simp only [TrayModel.transition]; split_ifs <;> rfl⟩
  | _ => exact ⟨rfl, rfl⟩

/-- The menu's command changes the pause and sends it. -/
theorem menu_pause (model : TrayModel) :
    (model.transition (.Menu .Pause)).1.paused = !model.paused ∧
      (model.transition (.Menu .Pause)).2.filterMap effect_pause = [!model.paused] := by
  refine ⟨rfl, ?_⟩
  simp only [TrayModel.transition, TrayModel.menu]
  split <;> rfl

namespace PauseKept

/-- What neither pauses, nor sends or hears that something did. -/
theorem same (kept : PauseKept s) (model : s'.model.paused = s.model.paused)
    (still : unheard s' = unheard s) (paused : s'.daemon.paused = s.daemon.paused)
    (shutting : s'.daemon.shutting_down = s.daemon.shutting_down) : PauseKept s' := by
  rw [PauseKept, model, still, paused, shutting]
  exact kept

/-- An input is taken where no pause is unsent, or changes none. -/
theorem run (kept : PauseKept s) {input : TrayInput}
    (in_order : input = .Menu .Pause → unsent s.frames = []) :
    PauseKept (s.run_tray_input input) := by
  have model : (s.run_tray_input input).model = (s.model.transition input).1 := rfl
  have still : unheard (s.run_tray_input input) = s.events.filterMap pause_of ++
      ((s.model.transition input).2.filterMap effect_pause ++ unsent s.frames) := rfl
  by_cases pauses : input = .Menu .Pause
  · intro _
    rw [still, model, pauses, (menu_pause s.model).1, (menu_pause s.model).2, in_order pauses,
      List.append_nil]
    exact last_said_concat _ _ _
  · obtain ⟨paused, none_sent⟩ := transition_pause s.model pauses
    refine kept.same (model ▸ paused) ?_ rfl rfl
    rw [still, none_sent]
    rfl

/-- A pause that is sent is heard last. -/
theorem send (kept : PauseKept s) {event : TrayEvent} {effects : List TrayEffect}
    {frames : List TrayFrame} (top : s.frames = ⟨.SendEvent event :: effects, none⟩ :: frames)
    (in_order : pauses_in_order taskbar_created s .applies = true) :
    PauseKept ({ s with frames := ⟨effects, none⟩ :: frames }.send_tray_event event) := by
  unfold TraySystem.send_tray_event
  split
  · -- what was unsent is now in the channel
    refine kept.same rfl ?_ rfl rfl
    simp only [unheard, top, unsent_cons, List.filterMap_append, List.append_assoc]
    rw [List.filterMap_cons]
    cases sent : pause_of event <;> simp [effect_pause, sent]
  · rename_i full
    refine kept.same rfl ?_ rfl rfl
    simp only [unheard, top]
    rw [unsent_performed]
    cases event with
    | PausedChanged =>
      simp only [pauses_in_order, top, sends_pause, Bool.not_true, Bool.false_or] at in_order
      exact absurd (of_decide_eq_true in_order) full
    | _ => rfl

/-- Switching what is saved leaves what is paused. -/
theorem switch (kept : PauseKept s) (requested : Bool) (start : FileStart) :
    PauseKept (s.set_file_output_enabled requested start) := by
  unfold TraySystem.set_file_output_enabled
  split
  · exact kept
  · split
    · exact kept.same rfl rfl rfl rfl
    · split
      · exact kept
      · cases start with
        | refused => exact kept
        | started => exact kept.same rfl rfl rfl rfl

/-- The daemon hears the first pause there is. -/
theorem hear (kept : PauseKept s) {event : TrayEvent} {events : List TrayEvent}
    (first : s.events = event :: events) (start : FileStart) (startup : Option Bool) :
    PauseKept ({ s with events := events }.daemon_event start startup event) := by
  cases event with
  | PausedChanged paused =>
    intro running
    have said := kept running
    simp only [unheard, first, List.filterMap_cons, pause_of, List.cons_append,
      last_said_cons] at said
    exact said
  | _ =>
    have passed : PauseKept { s with events := events } := by
      refine kept.same rfl ?_ rfl rfl
      simp only [unheard, first, List.filterMap_cons, pause_of]
    first
      | exact passed
      | exact passed.switch _ _
      | exact passed.same rfl rfl rfl rfl
      | (cases startup; exacts [passed, passed.same rfl rfl rfl rfl])

/-- **One step** in order keeps the daemon to be paused as the tray is. -/
theorem step (registered : Registered taskbar_created) (s : TraySystem) (step : TrayStep)
    (s' : TraySystem) (kept : ReportsKept taskbar_created s ∧ PauseKept s)
    (in_order : pauses_in_order taskbar_created s step = true)
    (taken : TrayStepTaken taskbar_created s step s') :
    ReportsKept taskbar_created s' ∧ PauseKept s' := by
  refine ⟨kept.1.step registered _ _ _ taken, ?_⟩
  obtain ⟨reports_kept, kept⟩ := kept
  cases tray_moves taken with
  | sent _ _ means =>
    refine kept.run fun pauses => ?_
    simpa [pauses_in_order, means, pauses] using in_order
  | ignored => exact kept
  | @dispatched m posted input first _ means =>
    -- the daemon posts no command of the menu
    have own := own_input registered (reports_kept.own m (first ▸ List.mem_cons_self)) means
    refine run (s := { s with posted := posted }) (kept.same rfl rfl rfl rfl) ?_
    rintro rfl
    cases own
  | discarded => exact kept.same rfl rfl rfl rfl
  | left top | drains top | again top | returned top | showed top | refused top =>
    exact kept.same rfl (by simp only [unheard, top]; rfl) rfl rfl
  | @calls effect _ _ call top calling =>
    refine kept.same rfl ?_ rfl rfl
    simp only [unheard, top]
    rw [unsent_performed]
    cases effect with
    | SendEvent => cases calling
    | _ => rfl
  | sends top => exact kept.send top in_order
  | @blocks effect _ _ _ top is_block =>
    refine kept.same rfl ?_ rfl rfl
    simp only [unheard, top]
    rw [unsent_performed]
    cases effect with
    | SendEvent => cases is_block
    | _ => rfl
  | waits top =>
    refine kept.same rfl ?_ rfl rfl
    simp only [unheard, top]
    rw [unsent_performed]
    rfl
  | @passes effect _ _ top _ silent =>
    refine kept.same rfl ?_ rfl rfl
    simp only [unheard, top]
    rw [unsent_performed]
    cases effect with
    | SendEvent event => exact absurd rfl (silent event)
    | _ => rfl
  | added restored top =>
    refine run (s := { s with frames := _ }) ?_ nofun
    exact kept.same rfl (by simp only [unheard, top]; rfl) rfl rfl
  | heard first => exact kept.hear first _ _
  | switched => exact kept.switch _ _
  | notified =>
    unfold TraySystem.send_notification
    split
    · exact kept.same rfl rfl rfl rfl
    · exact kept
  | posted | told => exact kept.same rfl rfl rfl rfl
  | shut =>
    unfold TraySystem.begin_shutdown
    split
    · exact kept
    · nofun

end PauseKept

/-- In every run whose steps keep the pauses in order the pause is kept. -/
theorem pause_kept (registered : Registered taskbar_created)
    (run : TrayRun taskbar_created startup_enabled file_output review restored steps s)
    (in_order : ∀ taken ∈ steps, pauses_in_order taskbar_created taken.before taken.event = true) :
    PauseKept s :=
  (run.inv_of_meets (P := fun s => ReportsKept taskbar_created s ∧ PauseKept s)
    (PauseKept.step registered)
    ⟨ReportsKept.first registered _ _ _ _, fun _ => by cases restored <;> rfl⟩ in_order).2

/-- **The daemon is paused as the tray shows it**: in every run whose steps keep the pauses in
order, the daemon is paused exactly if the tray is, wherever it has not begun to shut down and no
pause is left to send or to hear. -/
theorem tray_pause_agrees (registered : Registered taskbar_created)
    (run : TrayRun taskbar_created startup_enabled file_output review restored steps s)
    (in_order : ∀ taken ∈ steps, pauses_in_order taskbar_created taken.before taken.event = true)
    (running : s.daemon.shutting_down = false) (heard : unheard s = []) :
    s.daemon.paused = s.model.paused := by
  have said := pause_kept registered run in_order running
  rwa [heard, last_said_nil] at said

/-- The menu pauses and, once the daemon heard it, resumes and pauses again, while the shell
changes the tooltip. -/
def pausing_steps : List TrayStep :=
  let pause : List TrayStep :=
    [.receives ⟨WM_COMMAND, 1002, 0⟩, .applies, .returns .done, .applies, .applies]
  [.applies, .applies] ++ pause ++ [.takes .refused none] ++ pause ++ pause ++
    [.takes .refused none, .takes .refused none]

/-- Both are paused in the end. -/
theorem tray_pause_agrees_paused :
    ∃ s, tray_session (pauses_in_order 0xC000) pausing_steps = some s ∧
      s.model.paused = true ∧ s.daemon.paused = s.model.paused := by
  have computed : (tray_session (pauses_in_order 0xC000) pausing_steps).any (fun s =>
      decide (s.model.paused = true ∧ s.daemon.shutting_down = false ∧ unheard s = [])) = true := by
    decide
  obtain ⟨s, computed, both⟩ := Option.any_eq_true _ _ |>.mp computed
  obtain ⟨paused, running, heard⟩ := of_decide_eq_true both
  obtain ⟨steps, run, in_order⟩ := tray_session_runs computed
  exact ⟨s, computed, paused,
    tray_pause_agrees (by unfold Registered; decide) run in_order running heard⟩

/-- A pause that is taken back while the tooltip changes is told after it was: the daemon stays
paused and the tray is not. -/
def overtaken_steps : List TrayStep :=
  [.applies, .applies, .receives ⟨WM_COMMAND, 1002, 0⟩, .applies,
    .receives ⟨WM_COMMAND, 1002, 0⟩, .applies, .returns .done, .applies, .applies, .returns .done,
    .applies, .applies, .takes .refused none, .takes .refused none]

example : (tray_session (fun _ _ => true) overtaken_steps).any (fun s =>
    s.frames = [] && s.events = [] && s.daemon.paused && !s.model.paused) = true := by decide

end Captastic.Analysis
