import Captastic.Library.Runs
import Captastic.Model.Tray

/-!
# What a step of the tray or its daemon does

One inversion lemma for the steps of `TraySystem.next` (`tray_moves`), and what each input leaves of
the tray's model and asks of its thread.  Everything said of runs of the two threads is derived
from these.
-/

set_option autoImplicit false

namespace Captastic.Analysis

open Captastic.Library Captastic.Model

/-- The number of a message that `RegisterWindowMessageW` gives out. -/
def Registered (taskbar_created : Nat) : Prop := 0xC000 ≤ taskbar_created

/-- Whether the effect is a call to the shell. -/
def calls_shell : TrayEffect → Bool
  | .AddIcon _ | .ModifyTooltip _ | .ShowMenu _ _ _ _ _ | .RevealNotifiedFile => true
  | _ => false

/-- The shutdown block that an effect creates or destroys. -/
def block_of : TrayEffect → Option Bool
  | .CreateShutdownBlockReason => some true
  | .DestroyShutdownBlockReason => some false
  | _ => none

/-- The notification that a call shows. -/
def notification_of : ShellCall → Option TrayNotification
  | .notifies notification => some notification
  | _ => none

variable {taskbar_created : Nat} {s s' : TraySystem}

/-- What a step does. -/
inductive TrayMoves (taskbar_created : Nat) (s : TraySystem) : TrayStep → TraySystem → Prop
  | sent {m : TrayMessage} {input : TrayInput} (takes : s.takes_messages = true)
      (foreign : daemon_posts m = false)
      (means : translate_tray_message taskbar_created m = some input) :
      TrayMoves taskbar_created s (.receives m) (s.run_tray_input input)
  | ignored {m : TrayMessage} : TrayMoves taskbar_created s (.receives m) s
  | dispatched {m : TrayMessage} {posted : List TrayMessage} {input : TrayInput}
      (first : s.posted = m :: posted) (takes : s.takes_messages = true)
      (means : translate_tray_message taskbar_created m = some input) :
      TrayMoves taskbar_created s .dispatches ({ s with posted := posted }.run_tray_input input)
  | discarded {m : TrayMessage} {posted : List TrayMessage} (first : s.posted = m :: posted)
      (means : translate_tray_message taskbar_created m = none) :
      TrayMoves taskbar_created s .dispatches { s with posted := posted }
  | left {frames : List TrayFrame} (top : s.frames = ⟨[], none⟩ :: frames) :
      TrayMoves taskbar_created s .applies { s with frames := frames }
  | calls {effect : TrayEffect} {effects : List TrayEffect} {frames : List TrayFrame}
      (call : ShellCall) (top : s.frames = ⟨effect :: effects, none⟩ :: frames)
      (calling : calls_shell effect = true) (silent : notification_of call = none) :
      TrayMoves taskbar_created s .applies { s with frames := ⟨effects, some call⟩ :: frames }
  | drains {notification : TrayNotification} {notifications : List TrayNotification}
      {effects : List TrayEffect} {frames : List TrayFrame}
      (top : s.frames = ⟨.DrainNotifications :: effects, none⟩ :: frames)
      (queued : s.notifications = notification :: notifications) :
      TrayMoves taskbar_created s .applies
        { s with
          frames := ⟨.DrainNotifications :: effects, some (.notifies notification)⟩ :: frames
          notifications := notifications
          last_reveal := notification.reveal
          drained := s.drained ++ [notification] }
  | sends {event : TrayEvent} {effects : List TrayEffect} {frames : List TrayFrame}
      (top : s.frames = ⟨.SendEvent event :: effects, none⟩ :: frames) :
      TrayMoves taskbar_created s .applies
        ({ s with frames := ⟨effects, none⟩ :: frames }.send_tray_event event)
  | blocks {effect : TrayEffect} {block : Bool} {effects : List TrayEffect}
      {frames : List TrayFrame} (top : s.frames = ⟨effect :: effects, none⟩ :: frames)
      (is_block : block_of effect = some block) :
      TrayMoves taskbar_created s .applies
        { s with frames := ⟨effects, none⟩ :: frames, blocks := s.blocks ++ [block] }
  | waits {effects : List TrayEffect} {frames : List TrayFrame}
      (top : s.frames = ⟨.WaitForSessionDrain :: effects, none⟩ :: frames) :
      TrayMoves taskbar_created s .applies
        { s with frames := ⟨effects, none⟩ :: frames, session_shutdown_requested := true }
  | passes {effect : TrayEffect} {effects : List TrayEffect} {frames : List TrayFrame}
      (top : s.frames = ⟨effect :: effects, none⟩ :: frames)
      (drained : effect = .DrainNotifications → s.notifications = [])
      (silent : ∀ event, effect ≠ .SendEvent event) (no_block : block_of effect = none) :
      TrayMoves taskbar_created s .applies { s with frames := ⟨effects, none⟩ :: frames }
  | again {answer : ShellReturn} {effects : List TrayEffect} {frames : List TrayFrame}
      {call call' : ShellCall} (top : s.frames = ⟨effects, some call⟩ :: frames)
      (silent : notification_of call = none) (silent' : notification_of call' = none) :
      TrayMoves taskbar_created s (.returns answer)
        { s with frames := ⟨effects, some call'⟩ :: frames }
  | added {answer : ShellReturn} {effects : List TrayEffect} {frames : List TrayFrame}
      {call : ShellCall} (restored : Bool) (top : s.frames = ⟨effects, some call⟩ :: frames)
      (silent : notification_of call = none) :
      TrayMoves taskbar_created s (.returns answer)
        ({ s with frames := ⟨effects, none⟩ :: frames }.run_tray_input
          (.IconAddCompleted restored))
  | returned {answer : ShellReturn} {effects : List TrayEffect} {frames : List TrayFrame}
      {call : ShellCall} (top : s.frames = ⟨effects, some call⟩ :: frames)
      (silent : notification_of call = none) :
      TrayMoves taskbar_created s (.returns answer)
        { s with frames := ⟨effects, none⟩ :: frames }
  | showed {notification : TrayNotification} {effects : List TrayEffect}
      {frames : List TrayFrame}
      (top : s.frames = ⟨effects, some (.notifies notification)⟩ :: frames) :
      TrayMoves taskbar_created s (.returns .done)
        { s with frames := ⟨effects, none⟩ :: frames, shown := s.shown ++ [notification] }
  | refused {answer : ShellReturn} {notification : TrayNotification} {effects : List TrayEffect}
      {frames : List TrayFrame}
      (top : s.frames = ⟨effects, some (.notifies notification)⟩ :: frames) :
      TrayMoves taskbar_created s (.returns answer)
        { s with frames := ⟨effects, none⟩ :: frames, refused := s.refused ++ [notification] }
  | heard {event : TrayEvent} {events : List TrayEvent} {start : FileStart}
      {startup : Option Bool} (first : s.events = event :: events) :
      TrayMoves taskbar_created s (.takes start startup)
        ({ s with events := events }.daemon_event start startup event)
  | switched {requested : Bool} {start : FileStart} :
      TrayMoves taskbar_created s (.switches requested start)
        (s.set_file_output_enabled requested start)
  | notified {notification : TrayNotification} :
      TrayMoves taskbar_created s (.notifies notification) (s.send_notification notification)
  | posted (owed : s.daemon.owes_post = true) :
      TrayMoves taskbar_created s .posts
        ({ s with daemon := { s.daemon with owes_post := false } }.post TRAY_SHOW_ERROR false)
  | told {has_history : Bool} :
      TrayMoves taskbar_created s (.tells_history has_history)
        (s.post TRAY_SET_HAS_HISTORY has_history)
  | shut {asked : Bool} : TrayMoves taskbar_created s (.shuts_down asked) s.begin_shutdown

/-- Performing an effect is one of the moves. -/
theorem applied_moves (applied : s.apply_tray_effect = some s') :
    TrayMoves taskbar_created s .applies s' := by
  unfold TraySystem.apply_tray_effect at applied
  split at applied
  · rename_i frames top
    cases applied
    exact .left top
  · rename_i effect effects frames top
    cases effect with
    | AddIcon | ModifyTooltip | ShowMenu =>
      cases applied
      exact .calls _ top rfl rfl
    | DrainNotifications =>
      simp only at applied
      split at applied
      · rename_i empty
        cases applied
        exact .passes top (fun _ => empty) nofun rfl
      · rename_i notification notifications queued
        cases applied
        exact .drains top queued
    | RevealNotifiedFile =>
      simp only at applied
      split at applied
      · cases applied
        exact .calls _ top rfl rfl
      · cases applied
        exact .passes top nofun nofun rfl
    | SendEvent event =>
      cases applied
      exact .sends top
    | CreateShutdownBlockReason | DestroyShutdownBlockReason =>
      cases applied
      exact .blocks top rfl
    | WaitForSessionDrain =>
      cases applied
      exact .waits top
    | MarkDisplayConfigurationChanged | PostQuit =>
      cases applied
      exact .passes top nofun nofun rfl
  · cases applied

/-- The return of a call is one of the moves. -/
theorem returned_moves {answer : ShellReturn} (returned : s.shell_returns answer = some s') :
    TrayMoves taskbar_created s (.returns answer) s' := by
  unfold TraySystem.shell_returns at returned
  split at returned
  · rename_i effects call frames top
    split at returned
    · split at returned
      · cases returned
        exact .again top rfl rfl
      · cases returned
        exact .added false top rfl
    · cases returned
      exact .added true top rfl
    · cases returned
      exact .added false top rfl
    · cases returned
      exact .showed top
    · cases returned
      exact .refused top
    · rename_i no_notice _ _ _ _
      cases returned
      refine .returned top ?_
      cases call with
      | notifies notification => exact absurd rfl (no_notice notification)
      | _ => rfl
  · cases returned

/-- **Every step is one of the moves.** -/
theorem tray_moves {step : TrayStep} (taken : s.next taskbar_created step = some s') :
    TrayMoves taskbar_created s step s' := by
  unfold TraySystem.next at taken
  cases step with
  | receives m =>
    simp only at taken
    split at taken
    · rename_i can
      cases taken
      unfold TraySystem.handle_message
      split
      · rename_i input means
        exact .sent can.1 (by simpa using can.2) means
      · exact .ignored
    · cases taken
  | dispatches =>
    simp only at taken
    split at taken
    · rename_i m posted first
      split at taken
      · rename_i takes
        cases taken
        unfold TraySystem.handle_message
        split
        · rename_i input means
          exact .dispatched first takes means
        · rename_i means
          exact .discarded first means
      · cases taken
    · cases taken
  | applies => exact applied_moves taken
  | returns answer => exact returned_moves taken
  | takes start startup =>
    simp only at taken
    split at taken
    · rename_i event events first
      split at taken
      · cases taken
      · cases taken
        exact .heard first
    · cases taken
  | switches requested start =>
    simp only at taken
    split at taken
    · cases taken
    · cases taken
      exact .switched
  | notifies notification =>
    simp only at taken
    split at taken
    · cases taken
    · cases taken
      exact .notified
  | posts =>
    simp only at taken
    split at taken
    · rename_i owed
      cases taken
      exact .posted owed
    · cases taken
  | tells_history has_history =>
    simp only at taken
    split at taken
    · cases taken
    · cases taken
      exact .told
  | shuts_down asked =>
    simp only at taken
    split at taken
    · cases taken
    · split at taken
      · cases taken
        exact .shut
      · cases taken

/-! ## Messages -/

/-- Whether the input is what a message of the daemon's means. -/
def reports : TrayInput → Bool
  | .StartupStateChanged _ | .FileOutputChanged _ | .ReviewChanged _
  | .HistoryAvailabilityChanged _ | .NotificationsPosted => true
  | _ => false

variable {m : TrayMessage} {input : TrayInput}

/-- What the shell says of the icon is none of the daemon's inputs. -/
theorem icon_input_foreign {notification : Nat} (means : icon_input notification = some input) :
    reports input = false ∧ ∀ restored, input ≠ .IconAddCompleted restored := by
  unfold icon_input at means
  split at means
  · cases means
    exact ⟨rfl, nofun⟩
  · split at means
    · cases means
      exact ⟨rfl, nofun⟩
    · split at means
      · cases means
        exact ⟨rfl, nofun⟩
      · cases means

/-- A message that is none of the daemon's means none of its inputs, and not that an icon was
added, which no message does. -/
theorem foreign_input (foreign : daemon_posts m = false)
    (means : translate_tray_message taskbar_created m = some input) :
    reports input = false ∧ ∀ restored, input ≠ .IconAddCompleted restored := by
  simp only [daemon_posts, Bool.or_eq_false_iff, decide_eq_false_iff_not] at foreign
  obtain ⟨⟨⟨⟨startup, file⟩, review⟩, history⟩, error⟩ := foreign
  simp only [translate_tray_message, startup, file, review, history, error, if_false] at means
  split_ifs at means
  all_goals first
    | exact icon_input_foreign means
    | (obtain ⟨command, -, rfl⟩ := Option.map_eq_some_iff.mp means; exact ⟨rfl, nofun⟩)
    | (cases means; exact ⟨rfl, nofun⟩)

/-- What the daemon's own messages mean. -/
theorem report_input (registered : Registered taskbar_created) (own : daemon_posts m = true) :
    translate_tray_message taskbar_created m =
      if m.message = TRAY_SET_STARTUP then some (.StartupStateChanged (m.wparam ≠ 0))
      else if m.message = TRAY_SET_FILE_OUTPUT then some (.FileOutputChanged (m.wparam ≠ 0))
      else if m.message = TRAY_SET_REVIEW then some (.ReviewChanged (m.wparam ≠ 0))
      else if m.message = TRAY_SET_HAS_HISTORY then
        some (.HistoryAvailabilityChanged (m.wparam ≠ 0))
      else some .NotificationsPosted := by
  have codes : m.message = TRAY_SET_STARTUP ∨ m.message = TRAY_SET_FILE_OUTPUT ∨
      m.message = TRAY_SET_REVIEW ∨ m.message = TRAY_SET_HAS_HISTORY ∨
      m.message = TRAY_SHOW_ERROR := by
    simpa [daemon_posts, or_assoc] using own
  have apart : m.message ≠ taskbar_created := by
    simp only [Registered] at registered
    rcases codes with same | same | same | same | same <;> rw [same] <;>
      simp only [TRAY_SET_STARTUP, TRAY_SET_FILE_OUTPUT, TRAY_SET_REVIEW, TRAY_SET_HAS_HISTORY,
        TRAY_SHOW_ERROR, WM_APP] <;> omega
  unfold translate_tray_message
  rw [if_neg apart]
  rcases codes with same | same | same | same | same <;>
    simp [same, TRAY_SET_STARTUP, TRAY_SET_FILE_OUTPUT, TRAY_SET_REVIEW, TRAY_SET_HAS_HISTORY,
      TRAY_SHOW_ERROR, WM_APP, WM_DISPLAYCHANGE, WM_SETTINGCHANGE, TRAY_CALLBACK, WM_COMMAND]

/-- The daemon's messages mean the inputs that report. -/
theorem own_input (registered : Registered taskbar_created) (own : daemon_posts m = true)
    (means : translate_tray_message taskbar_created m = some input) : reports input = true := by
  rw [report_input registered own] at means
  split_ifs at means <;> cases means <;> rfl

end Captastic.Analysis
