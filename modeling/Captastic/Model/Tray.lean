import Mathlib.Tactic.Common

/-!
# The notification area's window and the daemon behind it

`captastic-windows/src/tray.rs` with the part of `captastic-app/src/daemon.rs` that reads its
events: a thread with a hidden window turns each message into an input, runs it through
`TrayModel.transition` and performs the effects in order.  A call to the shell may dispatch other
messages before it returns, so the thread's state is a stack of frames, each with the effects still
to perform and the call it is in.  The daemon's event loop takes the tray's events from a channel
of eight and posts back what it did.

Every effect, every call that returns and every event taken is a step, in any order the threads
allow.  What the shell, the registry and the file worker answer is part of the step; a message is
taken to be posted once it is.  The texts of the menu and of the icon are left out, and so is what
the events do that change nothing the two share.
-/

set_option autoImplicit false

namespace Captastic.Model

/-! ## Messages -/

/-- A message to the tray's window. -/
structure TrayMessage where
  message : Nat
  wparam : Nat
  lparam : Nat
deriving DecidableEq, Repr

def WM_DESTROY : Nat := 0x2
def WM_CLOSE : Nat := 0x10
def WM_QUERYENDSESSION : Nat := 0x11
def WM_ENDSESSION : Nat := 0x16
def WM_SETTINGCHANGE : Nat := 0x1A
def WM_CONTEXTMENU : Nat := 0x7B
def WM_DISPLAYCHANGE : Nat := 0x7E
def WM_COMMAND : Nat := 0x111
def WM_LBUTTONDBLCLK : Nat := 0x203
def WM_RBUTTONUP : Nat := 0x205
def WM_APP : Nat := 0x8000
def SPI_SETWORKAREA : Nat := 0x2F
def SPI_SETLOGICALDPIOVERRIDE : Nat := 0x9F

/-- SRC: tray.rs:38-43 -/
def TRAY_CALLBACK : Nat := WM_APP + 1
def TRAY_SET_STARTUP : Nat := WM_APP + 2
def TRAY_SET_HAS_HISTORY : Nat := WM_APP + 5
def TRAY_SET_FILE_OUTPUT : Nat := WM_APP + 4
def TRAY_SET_REVIEW : Nat := WM_APP + 6
def TRAY_SHOW_ERROR : Nat := WM_APP + 3

/-- SRC: tray.rs:62 -/
def NIN_BALLOONUSERCLICK : Nat := 0x0405

/-- SRC: tray.rs:693-708 -/
inductive TrayMenuCommand where
  | Capture
  | Pause
  | OpenConfig
  | OpenLogs
  | OpenLastCapture
  | ShowInFolder
  | OpenCapturesFolder
  | PruneHistory
  | ToggleFileOutput
  | ToggleReview
  | ClosePins
  | MakePinsClickable
  | ToggleStartup
  | Exit
deriving DecidableEq, Repr

/-- SRC: tray.rs:666-690 -/
inductive TrayInput where
  | TaskbarCreated
  | DisplayChanged
  | DisplaySettingChanged
  | IconDoubleClick
  | IconContextMenu
  | Menu (command : TrayMenuCommand)
  | StartupStateChanged (enabled : Bool)
  | FileOutputChanged (enabled : Bool)
  | ReviewChanged (enabled : Bool)
  | HistoryAvailabilityChanged (has_history : Bool)
  | NotificationsPosted
  | NotificationClicked
  | QueryEndSession
  | EndSession (committed : Bool)
  | CloseRequested
  | Destroyed
  | IconAddCompleted (restored : Bool)
deriving DecidableEq, Repr

/-- The menu's commands, by their number.
SRC: tray.rs:46-59, tray.rs:1017-1055 -/
def menu_command (command : Nat) : Option TrayMenuCommand :=
  if command = 1001 then some .Capture
  else if command = 1002 then some .Pause
  else if command = 1003 then some .OpenConfig
  else if command = 1004 then some .OpenLogs
  else if command = 1006 then some .OpenLastCapture
  else if command = 1007 then some .ShowInFolder
  else if command = 1013 then some .OpenCapturesFolder
  else if command = 1008 then some .PruneHistory
  else if command = 1010 then some .ToggleFileOutput
  else if command = 1014 then some .ToggleReview
  else if command = 1011 then some .ClosePins
  else if command = 1012 then some .MakePinsClickable
  else if command = 1005 then some .ToggleStartup
  else if command = 1009 then some .Exit
  else none

/-- What the shell says of the icon.
SRC: tray.rs:1010-1015 -/
def icon_input (notification : Nat) : Option TrayInput :=
  if notification = WM_LBUTTONDBLCLK then some .IconDoubleClick
  else if notification = WM_RBUTTONUP ∨ notification = WM_CONTEXTMENU then some .IconContextMenu
  else if notification = NIN_BALLOONUSERCLICK then some .NotificationClicked
  else none

/-- The input that a message means, if any.
SRC: tray.rs:990-1080 -/
def translate_tray_message (taskbar_created : Nat) (m : TrayMessage) : Option TrayInput :=
  if m.message = taskbar_created then some .TaskbarCreated
  else if m.message = WM_DISPLAYCHANGE then some .DisplayChanged
  else if m.message = WM_SETTINGCHANGE then
    if m.wparam = SPI_SETWORKAREA ∨ m.wparam = SPI_SETLOGICALDPIOVERRIDE then
      some .DisplaySettingChanged
    else none
  else if m.message = TRAY_CALLBACK then icon_input (m.lparam % 4294967296)
  else if m.message = WM_COMMAND then (menu_command (m.wparam % 65536)).map .Menu
  else if m.message = TRAY_SET_STARTUP then some (.StartupStateChanged (m.wparam ≠ 0))
  else if m.message = TRAY_SET_FILE_OUTPUT then some (.FileOutputChanged (m.wparam ≠ 0))
  else if m.message = TRAY_SET_REVIEW then some (.ReviewChanged (m.wparam ≠ 0))
  else if m.message = TRAY_SET_HAS_HISTORY then
    some (.HistoryAvailabilityChanged (m.wparam ≠ 0))
  else if m.message = TRAY_SHOW_ERROR then some .NotificationsPosted
  else if m.message = WM_QUERYENDSESSION then some .QueryEndSession
  else if m.message = WM_ENDSESSION then some (.EndSession (m.wparam ≠ 0))
  else if m.message = WM_CLOSE then some .CloseRequested
  else if m.message = WM_DESTROY then some .Destroyed
  else none

/-! ## The machine -/

/-- SRC: tray.rs:71-97 -/
inductive TrayEvent where
  | Capture
  | PausedChanged (paused : Bool)
  | OpenConfig
  | OpenLogs
  | OpenLastCapture
  | ShowInFolder
  | OpenCapturesFolder
  | PruneHistory
  | ToggleFileOutput
  | ToggleReview
  | ClosePins
  | MakePinsClickable
  | ToggleStartup
  | Exit
deriving DecidableEq, Repr

/-- SRC: tray.rs:1322-1330 -/
structure TrayNotification where
  title : String
  message : String
  informational : Bool
  reveal : Option String
deriving DecidableEq, Repr

/-- SRC: tray.rs:642-649 -/
inductive IconState where
  | Absent
  | Present
  | Degraded
deriving DecidableEq, Repr

/-- SRC: tray.rs:655-658 -/
inductive SessionPhase where
  | Idle
  | QueryReceived
deriving DecidableEq, Repr

/-- SRC: tray.rs:597-617 -/
structure TrayModel where
  paused : Bool
  startup_enabled : Bool
  file_output_enabled : Bool
  review_enabled : Bool
  has_history : Bool
  icon : IconState
  session : SessionPhase
  exit_requested : Bool
deriving DecidableEq, Repr

/-- SRC: tray.rs:716-748 -/
inductive TrayEffect where
  | AddIcon (paused : Bool)
  | ModifyTooltip (paused : Bool)
  | ShowMenu (paused startup_enabled file_output_enabled review_enabled has_history : Bool)
  | DrainNotifications
  | RevealNotifiedFile
  | SendEvent (event : TrayEvent)
  | CreateShutdownBlockReason
  | DestroyShutdownBlockReason
  | WaitForSessionDrain
  | MarkDisplayConfigurationChanged (reason : String)
  | PostQuit
deriving DecidableEq, Repr

namespace TrayModel

/-- SRC: tray.rs:620-635 -/
def new (startup_enabled file_output_enabled : Bool) : TrayModel where
  paused := false
  startup_enabled := startup_enabled
  file_output_enabled := file_output_enabled
  review_enabled := true
  has_history := false
  icon := .Absent
  session := .Idle
  exit_requested := false

variable (model : TrayModel)

/-- What a command of the menu does.
SRC: tray.rs:798-884 -/
def menu : TrayMenuCommand → TrayModel × List TrayEffect
  | .Capture => (model, if model.paused then [] else [.SendEvent .Capture])
  | .Pause =>
    let model := { model with paused := !model.paused }
    (model, (if model.icon = .Present then [.ModifyTooltip model.paused] else []) ++
      [.SendEvent (.PausedChanged model.paused)])
  | .OpenConfig => (model, [.SendEvent .OpenConfig])
  | .OpenLogs => (model, [.SendEvent .OpenLogs])
  | .OpenLastCapture => (model, [.SendEvent .OpenLastCapture])
  | .ShowInFolder => (model, [.SendEvent .ShowInFolder])
  | .OpenCapturesFolder => (model, [.SendEvent .OpenCapturesFolder])
  | .PruneHistory => (model, [.SendEvent .PruneHistory])
  | .ToggleFileOutput => (model, [.SendEvent .ToggleFileOutput])
  | .ToggleReview => (model, [.SendEvent .ToggleReview])
  | .ClosePins => (model, [.SendEvent .ClosePins])
  | .MakePinsClickable => (model, [.SendEvent .MakePinsClickable])
  | .ToggleStartup => (model, [.SendEvent .ToggleStartup])
  | .Exit => ({ model with exit_requested := true }, [.SendEvent .Exit])

/-- The answer to the window manager is left out: it is always that the session may end.
SRC: tray.rs:761-958 -/
def transition : TrayInput → TrayModel × List TrayEffect
  | .TaskbarCreated => (model, [.AddIcon model.paused])
  | .IconAddCompleted restored =>
    if restored then ({ model with icon := .Present }, [.DrainNotifications])
    else ({ model with icon := .Degraded }, [])
  | .DisplayChanged => (model, [.MarkDisplayConfigurationChanged "tray_display_changed"])
  | .DisplaySettingChanged =>
    (model, [.MarkDisplayConfigurationChanged "tray_display_setting_changed"])
  | .IconDoubleClick => model.menu .Capture
  | .IconContextMenu =>
    (model, [.ShowMenu model.paused model.startup_enabled model.file_output_enabled
      model.review_enabled model.has_history])
  | .Menu command => model.menu command
  | .NotificationClicked => (model, [.RevealNotifiedFile])
  | .CloseRequested => model.menu .Exit
  | .StartupStateChanged enabled => ({ model with startup_enabled := enabled }, [])
  | .FileOutputChanged enabled => ({ model with file_output_enabled := enabled }, [])
  | .ReviewChanged enabled => ({ model with review_enabled := enabled }, [])
  | .HistoryAvailabilityChanged has_history => ({ model with has_history }, [])
  | .NotificationsPosted =>
    (model, if model.icon = .Present then [.DrainNotifications] else [])
  | .QueryEndSession =>
    if model.session = .Idle then
      ({ model with session := .QueryReceived }, [.CreateShutdownBlockReason])
    else (model, [])
  | .EndSession committed =>
    ({ model with session := .Idle },
      (if committed then [.WaitForSessionDrain] else []) ++
        if model.session = .QueryReceived then [.DestroyShutdownBlockReason] else [])
  | .Destroyed =>
    if model.session = .QueryReceived then
      ({ model with session := .Idle }, [.DestroyShutdownBlockReason, .PostQuit])
    else (model, [.PostQuit])

end TrayModel

/-! ## The thread and the daemon -/

/-- A call to the shell that has not returned.  The icon is added at the attempt it is at. -/
inductive ShellCall where
  | adds (paused : Bool) (attempt : Nat)
  | modifies (paused : Bool)
  | shows_menu
  | notifies (notification : TrayNotification)
  | reveals (file : String)
deriving DecidableEq, Repr

/-- An input whose effects are being performed: those to come, and the call it is in. -/
structure TrayFrame where
  effects : List TrayEffect
  call : Option ShellCall
deriving DecidableEq, Repr

/-- How a call to the shell ends. -/
inductive ShellReturn where
  | done
  | busy
  | failed
deriving DecidableEq, Repr

/-- What the daemon's thread holds: whether it is paused, whether it has a file worker and the
worker's sink among its destinations, whether it reviews recordings, whether the tray asked it to
shut down and whether it does, and whether it has queued a notification without having posted so.
SRC: daemon.rs:1133-1345 -/
structure TrayDaemon where
  paused : Bool
  file_output : Bool
  sink : Bool
  review : Bool
  tray_shutdown_requested : Bool
  shutting_down : Bool
  owes_post : Bool
deriving DecidableEq, Repr

/-- The two threads and what they share.  The last six record what happened and are not read: the
events that found the channel full, the shutdown blocks that it was attempted to create and to
destroy, and the notifications queued, handed to the shell, shown by it and refused by it. -/
structure TraySystem where
  model : TrayModel
  frames : List TrayFrame
  last_reveal : Option String
  destroyed : Bool
  events : List TrayEvent
  notifications : List TrayNotification
  posted : List TrayMessage
  session_shutdown_requested : Bool
  daemon : TrayDaemon
  dropped : List TrayEvent
  blocks : List Bool
  accepted : List TrayNotification
  drained : List TrayNotification
  shown : List TrayNotification
  refused : List TrayNotification
deriving DecidableEq, Repr

/-- The capacity of both channels.
SRC: tray.rs:112-113 -/
def TRAY_CHANNEL_CAPACITY : Nat := 8

/-- SRC: tray.rs:67 -/
def TRAY_ADD_ATTEMPTS : Nat := 4

/-- What the file worker does as it is asked to start. -/
inductive FileStart where
  | started
  | refused
deriving DecidableEq, Repr

namespace TraySystem

variable (s : TraySystem)

/-! ### The tray's thread -/

/-- Runs an input through the machine; its effects come before those of the frames under it.
SRC: tray.rs:1090-1108 -/
def run_tray_input (input : TrayInput) : TraySystem :=
  let (model, effects) := s.model.transition input
  { s with
    model
    frames := ⟨effects, none⟩ :: s.frames
    destroyed := s.destroyed || input == .Destroyed }

/-- Whether the thread would take a message: it waits for one, or a call it made dispatches it. -/
def takes_messages : Bool :=
  !s.destroyed && match s.frames with
    | [] => true
    | frame :: _ => frame.call.isSome

/-- Handles a message that means something to the tray. -/
def handle_message (taskbar_created : Nat) (m : TrayMessage) : TraySystem :=
  match translate_tray_message taskbar_created m with
  | some input => s.run_tray_input input
  | none => s

/-- SRC: tray.rs:1223-1251 -/
def send_tray_event (event : TrayEvent) : TraySystem :=
  if s.events.length < TRAY_CHANNEL_CAPACITY then { s with events := s.events ++ [event] }
  else { s with dropped := s.dropped ++ [event] }

/-- Performs the next effect of the innermost frame, or begins the call it is; a frame without
effects is left.
SRC: tray.rs:1110-1198 -/
def apply_tray_effect : Option TraySystem :=
  match s.frames with
  | ⟨[], none⟩ :: frames => some { s with frames }
  | ⟨effect :: effects, none⟩ :: frames =>
    let left := { s with frames := ⟨effects, none⟩ :: frames }
    let calls (call : ShellCall) : TraySystem :=
      { s with frames := ⟨effects, some call⟩ :: frames }
    match effect with
    | .AddIcon paused => some (calls (.adds paused 1))
    | .ModifyTooltip paused => some (calls (.modifies paused))
    | .ShowMenu _ _ _ _ _ => some (calls .shows_menu)
    | .DrainNotifications =>
      match s.notifications with
      | [] => some left
      | notification :: notifications =>
        some { s with
          frames := ⟨effect :: effects, some (.notifies notification)⟩ :: frames
          notifications
          last_reveal := notification.reveal
          drained := s.drained ++ [notification] }
    | .RevealNotifiedFile =>
      match s.last_reveal with
      | some file => some (calls (.reveals file))
      | none => some left
    | .SendEvent event => some (left.send_tray_event event)
    | .CreateShutdownBlockReason => some { left with blocks := s.blocks ++ [true] }
    | .DestroyShutdownBlockReason => some { left with blocks := s.blocks ++ [false] }
    | .WaitForSessionDrain => some { left with session_shutdown_requested := true }
    | .MarkDisplayConfigurationChanged _ | .PostQuit => some left
  | _ => none

/-- The innermost frame's call returns.  An icon that could not be added as the shell was busy is
tried again; the outcome of the last attempt is the machine's next input.  A notification that the
shell refuses is only logged.
SRC: tray.rs:1113-1160, tray.rs:1283-1305 -/
def shell_returns (answer : ShellReturn) : Option TraySystem :=
  match s.frames with
  | ⟨effects, some call⟩ :: frames =>
    let left := { s with frames := ⟨effects, none⟩ :: frames }
    match call, answer with
    | .adds paused attempt, .busy =>
      if attempt < TRAY_ADD_ATTEMPTS then
        some { s with frames := ⟨effects, some (.adds paused (attempt + 1))⟩ :: frames }
      else some (left.run_tray_input (.IconAddCompleted false))
    | .adds _ _, .done => some (left.run_tray_input (.IconAddCompleted true))
    | .adds _ _, .failed => some (left.run_tray_input (.IconAddCompleted false))
    | .notifies notification, .done => some { left with shown := s.shown ++ [notification] }
    | .notifies notification, _ => some { left with refused := s.refused ++ [notification] }
    | _, _ => some left
  | _ => none

/-! ### The daemon's thread -/

/-- SRC: tray.rs:157-229 -/
def post (message : Nat) (value : Bool) : TraySystem :=
  { s with posted := s.posted ++ [⟨message, value.toNat, 0⟩] }

/-- The sink and the setting change in one step: nothing is taken between the two.
SRC: daemon.rs:1891-2019 -/
def set_file_output_enabled (requested : Bool) (start : FileStart) : TraySystem :=
  if requested = s.daemon.file_output then s
  else if s.daemon.file_output then
    { s with daemon := { s.daemon with sink := false, file_output := false } }.post
      TRAY_SET_FILE_OUTPUT false
  else if s.daemon.shutting_down then s
  else
    match start with
    | .refused => s
    | .started =>
      { s with daemon := { s.daemon with sink := true, file_output := true } }.post
        TRAY_SET_FILE_OUTPUT true

/-- What the daemon does with an event of the tray.  The registry answers with whether Captastic now
starts with Windows, if it could be changed.
SRC: daemon.rs:1473-1562 -/
def daemon_event (start : FileStart) (startup : Option Bool) : TrayEvent → TraySystem
  | .PausedChanged value => { s with daemon := { s.daemon with paused := value } }
  | .ToggleFileOutput => s.set_file_output_enabled (!s.daemon.file_output) start
  | .ToggleReview =>
    { s with daemon := { s.daemon with review := !s.daemon.review } }.post
      TRAY_SET_REVIEW (!s.daemon.review)
  | .ToggleStartup =>
    match startup with
    | some enabled => s.post TRAY_SET_STARTUP enabled
    | none => s
  | .Exit => { s with daemon := { s.daemon with tray_shutdown_requested := true } }
  | .Capture | .OpenConfig | .OpenLogs | .OpenLastCapture | .ShowInFolder | .OpenCapturesFolder
  | .PruneHistory | .ClosePins | .MakePinsClickable => s

/-- Begins a shutdown, which pauses the hotkeys, if none has begun.
SRC: worker_registry.rs:164-176 -/
def begin_shutdown : TraySystem :=
  if s.daemon.shutting_down then s
  else { s with daemon := { s.daemon with shutting_down := true, paused := true } }

/-- Queues a notification; one that finds the queue full is not posted.
SRC: tray.rs:283-289 -/
def send_notification (notification : TrayNotification) : TraySystem :=
  if s.notifications.length < TRAY_CHANNEL_CAPACITY then
    { s with
      notifications := s.notifications ++ [notification]
      accepted := s.accepted ++ [notification]
      daemon := { s.daemon with owes_post := true } }
  else s

end TraySystem

/-- A step of either thread: the tray's thread is sent a message, takes the next one posted to it,
performs an effect, or has a call return; the daemon's takes an event, is asked by the overlay to
save captures or not, queues a notification, posts that it did, tells whether there is history, or
begins to shut down as the tray, the session or something outside asked. -/
inductive TrayStep where
  | receives (message : TrayMessage)
  | dispatches
  | applies
  | returns (answer : ShellReturn)
  | takes (start : FileStart) (startup : Option Bool)
  | switches (requested : Bool) (start : FileStart)
  | notifies (notification : TrayNotification)
  | posts
  | tells_history (has_history : Bool)
  | shuts_down (asked : Bool)
deriving DecidableEq, Repr

/-- Whether the message is one that the daemon posts. -/
def daemon_posts (m : TrayMessage) : Bool :=
  m.message = TRAY_SET_STARTUP || m.message = TRAY_SET_FILE_OUTPUT || m.message = TRAY_SET_REVIEW ||
    m.message = TRAY_SET_HAS_HISTORY || m.message = TRAY_SHOW_ERROR

namespace TraySystem

/-- A step, where the threads allow it.  The daemon does one thing after the other, so it posts for
a notification before anything else. -/
def next (taskbar_created : Nat) (s : TraySystem) : TrayStep → Option TraySystem
  | .receives m =>
    if s.takes_messages ∧ !daemon_posts m then some (s.handle_message taskbar_created m) else none
  | .dispatches =>
    match s.posted with
    | m :: posted =>
      if s.takes_messages then some ({ s with posted }.handle_message taskbar_created m) else none
    | [] => none
  | .applies => s.apply_tray_effect
  | .returns answer => s.shell_returns answer
  | .takes start startup =>
    match s.events with
    | event :: events =>
      if s.daemon.owes_post then none
      else some ({ s with events }.daemon_event start startup event)
    | [] => none
  | .switches requested start =>
    if s.daemon.owes_post then none else some (s.set_file_output_enabled requested start)
  | .notifies notification =>
    if s.daemon.owes_post then none else some (s.send_notification notification)
  | .posts =>
    if s.daemon.owes_post then
      some ({ s with daemon := { s.daemon with owes_post := false } }.post TRAY_SHOW_ERROR false)
    else none
  | .tells_history has_history =>
    if s.daemon.owes_post then none else some (s.post TRAY_SET_HAS_HISTORY has_history)
  | .shuts_down asked =>
    if s.daemon.owes_post then none
    else if asked || s.daemon.tray_shutdown_requested || s.session_shutdown_requested then
      some s.begin_shutdown
    else none

/-- The two threads as the daemon's event loop begins: the icon was added or not, and the daemon has
posted whether it reviews recordings.
SRC: tray.rs:463-500, daemon.rs:1133-1222 -/
def started (startup_enabled file_output review restored : Bool) : TraySystem :=
  let (model, effects) :=
    (TrayModel.new startup_enabled file_output).transition (.IconAddCompleted restored)
  { model
    frames := [⟨effects, none⟩]
    last_reveal := none
    destroyed := false
    events := []
    notifications := []
    posted := [⟨TRAY_SET_REVIEW, review.toNat, 0⟩]
    session_shutdown_requested := false
    daemon := ⟨false, file_output, file_output, review, false, false, false⟩
    dropped := []
    blocks := []
    accepted := []
    drained := []
    shown := []
    refused := [] }

end TraySystem

end Captastic.Model
