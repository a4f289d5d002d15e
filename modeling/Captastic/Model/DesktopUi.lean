import Captastic.Model.Recording

/-!
# The desktop UI thread

`captastic-windows/src/overlay/desktop_ui.rs` with the ends of the windows it hosts (`editor.rs`,
`review.rs`, `pin.rs`): other threads send commands over a channel and post to the thread's host
window that they did; the thread takes posted messages one after the other, and each window it
hosts may be ended by the user or by the host.

A message box that asks whether to discard runs a loop of its own, in which the thread takes
further messages, so the boxes that wait for an answer are a stack.  The host's own loop over its
commands opens windows, and while one is opened no other posted message is taken.  A box whose
window is destroyed does not answer that the user agreed.

What a window shows, where it stands and whether clicks go through it are left out, so the commands
that change only that do nothing here.  What ends an editor is told without its picture.
-/

set_option autoImplicit false

namespace Captastic.Model

/-- SRC: desktop_ui.rs:36-43 -/
inductive DesktopMessage where
  | HOST_COMMANDS
  | HOST_STOP
  | HOST_CLOSE_PINS
deriving DecidableEq, Repr

/-- The windows that the thread hosts. -/
inductive HostedKind where
  | Pin
  | Editor
  | Review
  | Recording
deriving DecidableEq, Repr

/-- What the thread is asked for.  `on_finish` is the request that is to be answered.
SRC: desktop_ui.rs:53-81 -/
inductive UiCommand where
  | Pin
  | Edit (on_finish : Nat)
  | ClosePins
  | MakePinsClickable
  | ShowRecording
  | FollowRecording
  | HideRecording
  | Review (on_finish : Nat)
deriving DecidableEq, Repr

/-- SRC: editor.rs:122-132 -/
inductive EditOutcome where
  | Done
  | Cancelled
  | Discarded
  | Failed (message : String)
deriving DecidableEq, Repr

/-- What `on_finish` is called with. -/
inductive UiAnswer where
  | Edited (outcome : EditOutcome)
  | Reviewed (outcome : ReviewOutcome)
deriving DecidableEq, Repr

/-- What the system answers as a window is to be opened. -/
inductive WindowOpening where
  | opened (handle : Nat)
  | failed (message : String)
deriving DecidableEq, Repr

/-- A window that lives, with the `on_finish` its state holds. -/
structure HostedWindow where
  handle : Nat
  kind : HostedKind
  on_finish : Option Nat
deriving DecidableEq, Repr

/-- SRC: desktop_ui.rs:251-261 -/
structure HostState where
  commands : List UiCommand
  pins : List Nat
  editors : List Nat
  reviews : List Nat
  recording : Option Nat
deriving DecidableEq, Repr

/-- A request that was made: what for, and whether it returned `Ok`. -/
structure UiRequest where
  command : UiCommand
  ok : Bool
deriving DecidableEq, Repr

/-- The thread and what it shares with the others.  The host's state is gone once its window is
destroyed, and with it the receiving end of the channel.  The last three record what happened: the
requests made, the answers given and the commands that were dropped.  They are not read, but that no
two requests share an `on_finish`. -/
structure DesktopUi where
  host : Option HostState
  windows : List HostedWindow
  posted : List DesktopMessage
  draining : Bool
  boxes : List Nat
  stopped : Bool
  requested : List UiRequest
  answers : List (Nat × UiAnswer)
  unheard : List UiCommand
deriving DecidableEq, Repr

/-- The request that the command is to answer. -/
def UiCommand.on_finish : UiCommand → Option Nat
  | .Edit on_finish | .Review on_finish => some on_finish
  | _ => none

/-- SRC: desktop_ui.rs:604-620 -/
def HostState.forget_window (host : HostState) (handle : Nat) : HostState :=
  { host with
    pins := host.pins.filter (· ≠ handle)
    editors := host.editors.filter (· ≠ handle)
    reviews := host.reviews.filter (· ≠ handle)
    recording := if host.recording = some handle then none else host.recording }

/-- What an editor or a review that was not ended answers as its window is destroyed.
SRC: editor.rs:1131-1139, review.rs:784-794 -/
def HostedKind.unanswered : HostedKind → UiAnswer
  | .Review => .Reviewed .Closed
  | _ => .Edited .Discarded

/-- What an editor or a review that cannot be opened answers.
SRC: editor.rs:888-890, review.rs:545-547 -/
def HostedKind.unopened (message : String) : HostedKind → UiAnswer
  | .Review => .Reviewed (.Failed message)
  | _ => .Edited (.Failed message)

namespace DesktopUi

variable (ui : DesktopUi)

/-- The handles of the windows that live. -/
def handles : List Nat := ui.windows.map HostedWindow.handle

/-- `on_finish` is called. -/
def answer (on_finish : Option Nat) (told : UiAnswer) : DesktopUi :=
  match on_finish with
  | some request => { ui with answers := ui.answers ++ [(request, told)] }
  | none => ui

/-- `DestroyWindow` with the messages it sends to the window: the host forgets it, and an answer
that it still owes is given.  A handle of no window is refused. -/
def destroy_window (handle : Nat) : DesktopUi :=
  match ui.windows.find? (·.handle = handle) with
  | none => ui
  | some window =>
    { ui with
      host := ui.host.map (HostState.forget_window · handle)
      windows := ui.windows.filter (·.handle ≠ handle) }.answer
      window.on_finish window.kind.unanswered

/-- Takes the answer that the window owes out of its state. -/
def take_on_finish (handle : Nat) : DesktopUi :=
  { ui with
    windows := ui.windows.map fun window =>
      if window.handle = handle then { window with on_finish := none } else window }

/-- Ends an editor, which answers before its window goes, or a review, whose window goes first.
SRC: editor.rs:1836-1844, review.rs:1127-1141 -/
def finish (handle : Nat) (told : UiAnswer) : DesktopUi :=
  match ui.windows.find? (·.handle = handle) with
  | none => ui
  | some window =>
    match window.kind with
    | .Review => ((ui.take_on_finish handle).destroy_window handle).answer window.on_finish told
    | _ => ((ui.take_on_finish handle).answer window.on_finish told).destroy_window handle

/-- Destroys windows one after the other. -/
def destroy_windows (closed : List Nat) : DesktopUi := closed.foldl destroy_window ui

/-- Takes the host's list and destroys what is in it.
SRC: desktop_ui.rs:553-600 -/
def close_list (taken : HostState → List Nat) (without : HostState → HostState) : DesktopUi :=
  match ui.host with
  | none => ui
  | some host => { ui with host := some (without host) }.destroy_windows (taken host)

/-- SRC: desktop_ui.rs:553-562 -/
def close_pins : DesktopUi := ui.close_list (·.pins) ({ · with pins := [] })

/-- SRC: desktop_ui.rs:566-572 -/
def close_recording : DesktopUi :=
  ui.close_list (·.recording.toList) ({ · with recording := none })

/-- SRC: desktop_ui.rs:576-584 -/
def close_editors : DesktopUi := ui.close_list (·.editors) ({ · with editors := [] })

/-- SRC: desktop_ui.rs:588-597 -/
def close_reviews : DesktopUi := ui.close_list (·.reviews) ({ · with reviews := [] })

/-- Opens a window, if the system could, and adds it to the host's list; one that could not be
opened answers so. -/
def open_window (kind : HostedKind) (on_finish : Option Nat)
    (listed : HostState → Nat → HostState) : WindowOpening → DesktopUi
  | .opened handle =>
    { ui with
      windows := ui.windows ++ [⟨handle, kind, on_finish⟩]
      host := ui.host.map fun host => listed host handle }
  | .failed message => ui.answer on_finish (kind.unopened message)

/-- SRC: desktop_ui.rs:484-549 -/
def apply (opening : WindowOpening) : UiCommand → DesktopUi
  | .Pin =>
    ui.open_window .Pin none (fun host pin => { host with pins := host.pins ++ [pin] }) opening
  | .Edit on_finish =>
    ui.open_window .Editor (some on_finish)
      (fun host editor => { host with editors := host.editors ++ [editor] }) opening
  | .ShowRecording =>
    ui.close_recording.open_window .Recording none
      (fun host frame => { host with recording := some frame }) opening
  | .HideRecording => ui.close_recording
  | .Review on_finish =>
    ui.open_window .Review (some on_finish)
      (fun host review => { host with reviews := host.reviews ++ [review] }) opening
  | .ClosePins => ui.close_pins
  | .FollowRecording | .MakePinsClickable => ui

/-- The host's window is destroyed: the commands that were not taken are dropped with the
receiver, and no message reaches it any more.
SRC: desktop_ui.rs:467-472 -/
def destroy_host : DesktopUi :=
  match ui.host with
  | none => ui
  | some host =>
    { ui with host := none, posted := [], unheard := ui.unheard ++ host.commands }

/-- SRC: desktop_ui.rs:432-477 -/
def host_window_proc : DesktopMessage → DesktopUi
  | .HOST_COMMANDS => { ui with draining := true }
  | .HOST_CLOSE_PINS => ui.close_pins
  | .HOST_STOP => ui.close_pins.close_editors.close_reviews.close_recording.destroy_host

/-- Sends a command and posts that it did, which may fail once the command is sent.  One that cannot
be sent is dropped.  The two are one step: what the thread does between them it can do after both.
SRC: desktop_ui.rs:187-204 -/
def request (command : UiCommand) (posts : Bool) : DesktopUi :=
  match ui.host with
  | none =>
    { ui with
      requested := ui.requested ++ [⟨command, false⟩]
      unheard := ui.unheard ++ [command] }
  | some host =>
    { ui with
      host := some { host with commands := host.commands ++ [command] }
      posted := if posts then ui.posted ++ [.HOST_COMMANDS] else ui.posted
      requested := ui.requested ++ [⟨command, posts⟩] }

/-- The requests made, by the `on_finish` they are to be answered through. -/
def asked : List Nat := ui.requested.filterMap (·.command.on_finish)

end DesktopUi

/-- A step: another thread asks for something or stops the thread, which no thread does twice and
after which none asks; or the thread takes a posted message, takes its next command as the system
opens a window for it or not, has the user end an editor or a review, ask to, or answer, or has the
user close a pin or ask for all of them to be closed. -/
inductive DesktopStep where
  | requests (command : UiCommand) (posts : Bool)
  | stops (posts : Bool)
  | dispatches
  | applies (opening : WindowOpening)
  | finishes (handle : Nat) (told : UiAnswer)
  | asks (handle : Nat)
  | agrees
  | declines
  | closes_pin (handle : Nat)
  | closes_pins (posts : Bool)
deriving DecidableEq, Repr

/-- Whether the user may end such a window with such an answer. -/
def HostedKind.may_tell : HostedKind → UiAnswer → Bool
  | .Editor, .Edited _ => true
  | .Review, .Reviewed _ => true
  | _, _ => false

/-- What a user who agrees to discard answers.
SRC: editor.rs:1798-1818, review.rs:1108-1125 -/
def HostedKind.agreed : HostedKind → UiAnswer
  | .Review => .Reviewed .Discard
  | _ => .Edited .Cancelled

namespace DesktopUi

/-- Whether a window of the kind lives under the handle. -/
def lives (ui : DesktopUi) (kind : HostedKind → Bool) (handle : Nat) : Bool :=
  ui.windows.any fun window => window.handle = handle && kind window.kind

/-- A step, where the threads allow it.  A window is opened under a handle that no window has as
its command is taken, so a new recording frame does not get that of the one it replaces. -/
def next (ui : DesktopUi) : DesktopStep → Option DesktopUi
  | .requests command posts =>
    if ui.stopped ∨ ∃ request ∈ command.on_finish, request ∈ ui.asked then none
    else some (ui.request command posts)
  | .stops posts =>
    if ui.stopped then none
    else some { ui with
      stopped := true
      posted := if posts ∧ ui.host.isSome then ui.posted ++ [.HOST_STOP] else ui.posted }
  | .dispatches =>
    match ui.posted with
    | message :: posted =>
      if ui.draining then none else some ({ ui with posted }.host_window_proc message)
    | [] => none
  | .applies opening =>
    match ui.host with
    | some host =>
      if !ui.draining ∨ ∃ handle ∈ ui.handles, opening = .opened handle then none
      else
        match host.commands with
        | command :: commands =>
          some ({ ui with host := some { host with commands } }.apply opening command)
        | [] => some { ui with draining := false }
    | none => none
  | .finishes handle told =>
    if !ui.draining ∧ ui.lives (·.may_tell told) handle then some (ui.finish handle told) else none
  | .asks handle =>
    if !ui.draining ∧ ui.lives (fun kind => kind = .Editor || kind = .Review) handle then
      some { ui with boxes := handle :: ui.boxes }
    else none
  | .agrees =>
    match ui.boxes with
    | handle :: boxes =>
      match ui.windows.find? (·.handle = handle) with
      | some window =>
        if ui.draining then none
        else some ({ ui with boxes }.finish handle window.kind.agreed)
      | none => none
    | [] => none
  | .declines =>
    match ui.boxes with
    | _ :: boxes => if ui.draining then none else some { ui with boxes }
    | [] => none
  | .closes_pin handle =>
    if !ui.draining ∧ ui.lives (· = .Pin) handle then some (ui.destroy_window handle) else none
  | .closes_pins posts =>
    if !ui.draining ∧ ui.host.isSome then
      some { ui with posted := if posts then ui.posted ++ [.HOST_CLOSE_PINS] else ui.posted }
    else none

/-- The thread as it is ready.
SRC: desktop_ui.rs:321-330 -/
def start : DesktopUi where
  host := some ⟨[], [], [], [], none⟩
  windows := []
  posted := []
  draining := false
  boxes := []
  stopped := false
  requested := []
  answers := []
  unheard := []

end DesktopUi

end Captastic.Model
