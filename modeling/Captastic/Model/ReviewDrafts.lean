import Captastic.Model.Recording

/-!
# Drafts between their recording and their file

`captastic-app/src/recording.rs`, with the desktop UI thread of
`captastic-windows/src/overlay/desktop_ui.rs`, its review windows of
`captastic-windows/src/overlay/review.rs` and the exit of `captastic-app/src/selection.rs`: a
recording to be reviewed ends as a draft in memory.  Its thread opens the review, or queues the
draft behind the one open; the answer is acted on by the desktop UI thread, which opens the next
review; an edit is encoded by a thread of its own; and exit waits for what it can reach.

Every lock that is taken, message that is posted and thread that is spawned is a step, and the
steps of the threads come in any order.  `Hand` is what a thread does with a draft.  How a file is
written or encoded is not part of it, only whether it succeeds.
-/

set_option autoImplicit false

namespace Captastic.Model

/-- A recording held in memory, by its number and its report.
SRC: recording.rs:788-802 -/
structure Draft where
  capture_id : Nat
  report : RecordingReport
deriving DecidableEq, Repr

/-- What a draft came to: a file as recorded, a file as edited, as recorded since the edit failed,
nothing by choice, or nothing since writing failed. -/
inductive DraftEnd where
  | SavedUnchanged
  | SavedEdited (edit : RecordingEdit)
  | EditFailed
  | Discarded
  | Failed
deriving DecidableEq, Repr

/-- Where a review request is: not sent yet, in the host's channel, the review of a window,
answered, or dropped uncalled. -/
inductive RequestPlace where
  | fresh
  | sent
  | shown
  | answered
  | dropped
deriving DecidableEq, Repr

/-- The draft that a request and its answer share.
SRC: recording.rs:1186-1188 -/
structure ReviewRequest where
  draft : Option Draft
  place : RequestPlace
deriving DecidableEq, Repr

/-- What a thread does next with a draft: its recording runs; it reads `exiting`; it queues the
draft or opens its review; it sends the request, posts the message, or takes the draft back since
that failed; it acts on the review's answer; it keeps the thread that encodes an edit; it writes
the file as recorded; or it looks for the next draft waiting.  The flag of the last ones is
`shutting_down`; a draft that ends as Captastic exits is followed by none. -/
inductive Hand where
  | idle
  | records
  | finished (draft : Draft)
  | queues (draft : Draft)
  | opens (draft : Draft)
  | requests (request : Nat)
  | posts (request : Nat)
  | withdraws (request : Nat)
  | concludes (draft : Draft) (outcome : ReviewOutcome)
  | keeps (saver : Nat) (shutting_down : Bool)
  | saves (draft : Draft) (shutting_down : Option Bool)
  | edit_fails (draft : Draft) (shutting_down : Bool)
  | passes_on (shutting_down : Bool)
deriving DecidableEq, Repr

/-- Where a thread that encodes an edit is.
SRC: recording.rs:1315-1357 -/
inductive SaverStage where
  | reads
  | encodes
  | takes (encoded : Bool)
  | writes (draft : Draft) (edited : Bool)
  | ended
deriving DecidableEq, Repr

/-- SRC: recording.rs:804-810 -/
structure Saver where
  unsaved : Option Draft
  edit : RecordingEdit
  stage : SaverStage
deriving DecidableEq, Repr

/-- A message posted to the host window.
SRC: desktop_ui.rs:38-41 -/
inductive HostMessage where
  | commands
  | stop
deriving DecidableEq, Repr

/-- The desktop UI thread between two things it does: not started, pumping messages, draining the
command channel, closing the reviews it had as it was told to stop, or ended. -/
inductive UiStage where
  | absent
  | pumps
  | drains
  | closes (reviews : List Nat)
  | ended
deriving DecidableEq, Repr

/-- Where exit is: it tells the recordings, waits for the recording's thread, takes the list of
savers and waits for each, saves what a late one has not taken, stops the desktop UI thread and
waits for it, and does it all once more as the worker is dropped. -/
inductive ExitStage where
  | running
  | told
  | joins (recorder : Nat)
  | takes_savers
  | joins_savers (savers : List Nat)
  | saves (draft : Draft) (savers : List Nat)
  | takes_ui
  | joins_ui
  | leaves
  | gone
deriving DecidableEq, Repr

/-- What the threads share, apart from the recordings' own state.
SRC: recording.rs:753-786 -/
structure DraftShared where
  is_open : Bool
  waiting : List Draft
  requests : List ReviewRequest
  channel : List Nat
  messages : List HostMessage
  receiving : Bool
  ui_started : Bool
  ui_locked : Bool
  savers : List Saver
  kept_savers : List Nat
  exiting : Bool
  ended : List (Draft × DraftEnd)
deriving DecidableEq, Repr

namespace DraftShared

variable (s : DraftShared)

def with_request (request : Nat) (changed : ReviewRequest) : DraftShared :=
  { s with requests := s.requests.set request changed }

def with_saver (saver : Nat) (changed : Saver) : DraftShared :=
  { s with savers := s.savers.set saver changed }

def ends (draft : Draft) (what : DraftEnd) : DraftShared :=
  { s with ended := s.ended ++ [(draft, what)] }

/-- The answer of a request is called: the draft is taken, unless it has been.
SRC: recording.rs:1212-1216 -/
def answers (request : Nat) (outcome : ReviewOutcome) : DraftShared × Hand :=
  match s.requests[request]? with
  | some ⟨some draft, _⟩ =>
    (s.with_request request ⟨none, .answered⟩, .concludes draft outcome)
  | some ⟨none, _⟩ => (s.with_request request ⟨none, .answered⟩, .idle)
  | none => (s, .idle)

/-- A saver's thread has ended. -/
def saver_ended (saver : Nat) : Bool :=
  match s.savers[saver]? with
  | some held => decide (held.stage = .ended)
  | none => true

end DraftShared

/-! ## A thread with a draft -/

/-- One step of a thread with a draft; `ok` is whether what it asks Windows for succeeds.
SRC: recording.rs:1089-1101, 1161-1285, 1287-1310 -/
def Hand.step (s : DraftShared) (ok : Bool) : Hand → Option (DraftShared × Hand)
  | .idle => none
  | .records => none
  | .finished draft =>
    -- Stopped because Captastic is exiting: there is no one to review it.
    if s.exiting then some (s, .saves draft none) else some (s, .queues draft)
  | .queues draft =>
    if s.is_open then some ({ s with waiting := s.waiting ++ [draft] }, .idle)
    else some ({ s with is_open := true }, .opens draft)
  | .opens draft =>
    if s.ui_locked then none
    else if s.ui_started then
      some ({ s with ui_locked := true, requests := s.requests ++ [⟨some draft, .fresh⟩] },
        .requests s.requests.length)
    else some (s, .concludes draft .Closed)
  | .requests request =>
    match s.requests[request]? with
    | some held =>
      if s.receiving then
        some ({ s.with_request request { held with place := .sent } with
          channel := s.channel ++ [request] }, .posts request)
      else
        some ({ s.with_request request { held with place := .dropped } with ui_locked := false },
          .withdraws request)
    | none => none
  | .posts request =>
    if ok ∧ s.receiving then
      some ({ s with messages := s.messages ++ [.commands], ui_locked := false }, .idle)
    else some ({ s with ui_locked := false }, .withdraws request)
  | .withdraws request =>
    match s.requests[request]? with
    | some ⟨some draft, place⟩ =>
      some (s.with_request request ⟨none, place⟩, .concludes draft .Closed)
    | some ⟨none, _⟩ => some (s, .idle)
    | none => none
  | .concludes draft outcome =>
    let shutting_down := decide (outcome = .Closed)
    match review_conclusion draft.report outcome with
    | .save_edited edit =>
      if ok then
        some ({ s with savers := s.savers ++ [⟨some draft, edit, .reads⟩] },
          .keeps s.savers.length shutting_down)
      else some (s, .edit_fails draft shutting_down)
    | .save_unchanged => some (s, .saves draft (some shutting_down))
    | .discard => some (s.ends draft .Discarded, .passes_on shutting_down)
  | .keeps saver shutting_down =>
    some ({ s with kept_savers := s.kept_savers.filter (fun k => !s.saver_ended k) ++ [saver] },
      .passes_on shutting_down)
  | .saves draft shutting_down =>
    some (s.ends draft (if ok then .SavedUnchanged else .Failed),
      shutting_down.elim .idle .passes_on)
  | .edit_fails draft shutting_down =>
    some (s.ends draft (if ok then .EditFailed else .Failed), .passes_on shutting_down)
  | .passes_on shutting_down =>
    match s.waiting with
    | next :: waiting =>
      some ({ s with waiting, is_open := true },
        if shutting_down then .concludes next .Closed else .opens next)
    | [] => some ({ s with is_open := false }, .idle)

/-! ## A thread that encodes an edit -/

/-- One step of a saver's thread; `ok` is whether encoding or writing succeeds.
SRC: recording.rs:1315-1388 -/
def Saver.step (s : DraftShared) (saver : Nat) (ok : Bool) : Option DraftShared :=
  match s.savers[saver]? with
  | none => none
  | some held =>
    match held.stage with
    | .reads =>
      some (s.with_saver saver
        { held with stage := if held.unsaved.isSome then .encodes else .ended })
    | .encodes => some (s.with_saver saver { held with stage := .takes ok })
    | .takes encoded =>
      match held.unsaved with
      | some draft =>
        some (s.with_saver saver { held with unsaved := none, stage := .writes draft encoded })
      | none => some (s.with_saver saver { held with stage := .ended })
    | .writes draft edited =>
      if edited then
        if ok then
          some ((s.with_saver saver { held with stage := .ended }).ends draft
            (.SavedEdited held.edit))
        else some (s.with_saver saver { held with stage := .writes draft false })
      else
        some ((s.with_saver saver { held with stage := .ended }).ends draft
          (if ok then .EditFailed else .Failed))
    | .ended => none

/-- Encoding panics, and the thread ends with the draft where it was. -/
def Saver.panic (s : DraftShared) (saver : Nat) : Option DraftShared :=
  match s.savers[saver]? with
  | some ⟨unsaved, edit, .encodes⟩ => some (s.with_saver saver ⟨unsaved, edit, .ended⟩)
  | _ => none

/-! ## The whole -/

/-- The recordings' threads, the desktop UI thread and exit, around what they share.  `starting` is
the thread that has been spawned and whose handle is not stored yet, `recorded` are the drafts that
recordings have ended with, and `passes` is how many more times exit does what it does. -/
structure DraftHost where
  shared : DraftShared
  active : Bool
  starting : Option Nat
  join : Option Nat
  recorders : List Hand
  ui : UiStage
  ui_hand : Hand
  shown : List Nat
  exit : ExitStage
  passes : Nat
  recorded : List Draft
deriving DecidableEq, Repr

/-- A step of the side that starts recordings, of a recording's thread, of the desktop UI thread,
of a saver's thread, or of exit.  The desktop UI thread starts once: that one gone is replaced by
another is not part of it. -/
inductive DraftEvent where
  | starts_recording
  | stores_join
  | ends_recording (recorder : Nat) (draft : Option Draft)
  | recorder (recorder : Nat) (ok : Bool)
  | starts_ui
  | asks_ui
  | ui_receives
  | ui_takes (opened : Bool)
  | ui_answers (request : Nat) (saved : Option RecordingEdit)
  | ui_closes
  | ui (ok : Bool)
  | saver (saver : Nat) (ok : Bool)
  | saver_panics (saver : Nat)
  | exit (late : Bool) (ok : Bool)
deriving DecidableEq, Repr

namespace DraftHost

/-- Nothing recorded yet.  Exit runs twice: `stop_before` runs it, and so does dropping the worker.
SRC: recording.rs:836-854; selection.rs:818-822, 886-890 -/
def start : DraftHost where
  shared := {
    is_open := false
    waiting := []
    requests := []
    channel := []
    messages := []
    receiving := false
    ui_started := false
    ui_locked := false
    savers := []
    kept_savers := []
    exiting := false
    ended := [] }
  active := false
  starting := none
  join := none
  recorders := []
  ui := .absent
  ui_hand := .idle
  shown := []
  exit := .running
  passes := 1
  recorded := []

variable (s : DraftHost)

/-- A recording's thread has ended. -/
def recorder_ended (recorder : Nat) : Bool :=
  match s.recorders[recorder]? with
  | some hand => decide (hand = .idle)
  | none => true

/-- A request's answer is called on the desktop UI thread, which goes on with `ui`. -/
def ui_calls (request : Nat) (outcome : ReviewOutcome) (ui : UiStage) (shown : List Nat) :
    DraftHost :=
  let (shared, ui_hand) := s.shared.answers request outcome
  { s with shared, ui_hand, ui, shown }

/-- What the host window has not taken from its channel is dropped with it.
SRC: desktop_ui.rs:449-467 -/
def host_destroyed : DraftHost :=
  { s with
    ui := .ended
    shared := { s.shared with
      receiving := false
      channel := []
      messages := []
      requests := s.shared.requests.map fun request =>
        if request.place = .sent then { request with place := .dropped } else request } }

/-- One step of exit; `late` is whether the deadline has passed.
SRC: recording.rs:1431-1459; selection.rs:833-885; desktop_ui.rs:213-238 -/
def exit_step (late ok : Bool) : Option DraftHost :=
  match s.exit with
  | .running => some { s with exit := .told, shared := { s.shared with exiting := true } }
  | .told =>
    match s.join with
    | some recorder => some { s with exit := .joins recorder, join := none }
    | none => some { s with exit := .takes_savers }
  | .joins recorder =>
    if s.recorder_ended recorder then some { s with exit := .takes_savers }
    else if late then some { s with exit := .takes_ui }
    else none
  | .takes_savers =>
    some { s with
      exit := .joins_savers s.shared.kept_savers, shared := { s.shared with kept_savers := [] } }
  | .joins_savers [] => some { s with exit := .takes_ui }
  | .joins_savers (saver :: savers) =>
    if s.shared.saver_ended saver then some { s with exit := .joins_savers savers }
    else if late then
      match s.shared.savers[saver]? with
      | some ⟨some draft, edit, stage⟩ =>
        some { s with
          exit := .saves draft savers
          shared := s.shared.with_saver saver ⟨none, edit, stage⟩ }
      | _ => some { s with exit := .joins_savers savers }
    else none
  | .saves draft savers =>
    some { s with
      exit := .joins_savers savers
      shared := s.shared.ends draft (if ok then .SavedUnchanged else .Failed) }
  | .takes_ui =>
    if s.shared.ui_locked then none
    else if s.shared.ui_started then
      -- The guard of `lock_desktop_ui` lives as long as the `if let` it is taken in.
      some { s with
        exit := .joins_ui
        shared := { s.shared with
          ui_started := false
          ui_locked := true
          messages := if s.shared.receiving then s.shared.messages ++ [.stop]
            else s.shared.messages } }
    else some { s with exit := .leaves }
  | .joins_ui =>
    if s.ui = .ended ∨ late then
      some { s with exit := .leaves, shared := { s.shared with ui_locked := false } }
    else none
  | .leaves =>
    match s.passes with
    | passes + 1 => some { s with exit := .told, passes }
    | 0 => some { s with exit := .gone }
  | .gone => none

/-- One step; `none` where it cannot be taken.  Once the process is gone none can.
SRC: recording.rs:912-985, 1071-1117; desktop_ui.rs:162-176, 190-205, 419-470, 525-543 -/
def step (event : DraftEvent) : Option DraftHost :=
  if s.exit = .gone then none
  else
    match event with
    | .starts_recording =>
      if s.starting.isSome then none
      else if s.active then some s
      else
        some { s with
          active := true
          starting := some s.recorders.length
          recorders := s.recorders ++ [.records] }
    | .stores_join =>
      match s.starting with
      | some recorder => some { s with starting := none, join := some recorder }
      | none => none
    | .ends_recording recorder draft =>
      if s.recorders[recorder]? = some .records then
        some { s with
          active := false
          recorders := s.recorders.set recorder (draft.elim .idle .finished)
          recorded := s.recorded ++ draft.toList }
      else none
    | .recorder recorder ok =>
      match s.recorders[recorder]? with
      | some hand =>
        (hand.step s.shared ok).map fun (shared, hand) =>
          { s with shared, recorders := s.recorders.set recorder hand }
      | none => none
    | .starts_ui =>
      if s.ui = .absent ∧ ¬ s.shared.ui_locked then
        some { s with
          ui := .pumps, shared := { s.shared with ui_started := true, receiving := true } }
      else none
    | .asks_ui =>
      -- A pin, an editor or the indicator is asked for.
      if s.shared.ui_started ∧ ¬ s.shared.ui_locked ∧ s.shared.receiving then
        some { s with shared := { s.shared with messages := s.shared.messages ++ [.commands] } }
      else none
    | .ui_receives =>
      match s.ui, s.ui_hand, s.shared.messages with
      | .pumps, .idle, .commands :: messages =>
        some { s with ui := .drains, shared := { s.shared with messages } }
      | .pumps, .idle, .stop :: messages =>
        some { s with ui := .closes s.shown, shown := [], shared := { s.shared with messages } }
      | _, _, _ => none
    | .ui_takes opened =>
      match s.ui, s.ui_hand, s.shared.channel with
      | .drains, .idle, request :: channel =>
        let taken := { s with shared := { s.shared with channel } }
        if opened then
          match s.shared.requests[request]? with
          | some held =>
            some { taken with
              shown := s.shown ++ [request]
              shared := taken.shared.with_request request { held with place := .shown } }
          | none => none
        else some (taken.ui_calls request (.Failed "") .drains s.shown)
      | .drains, .idle, [] => some { s with ui := .pumps }
      | _, _, _ => none
    | .ui_answers request saved =>
      if s.ui = .pumps ∧ s.ui_hand = .idle ∧ request ∈ s.shown then
        some (s.ui_calls request (saved.elim .Discard .Save) .pumps (s.shown.erase request))
      else none
    | .ui_closes =>
      match s.ui, s.ui_hand with
      | .closes (request :: reviews), .idle =>
        some (s.ui_calls request .Closed (.closes reviews) s.shown)
      | .closes [], .idle => some s.host_destroyed
      | _, _ => none
    | .ui ok =>
      (s.ui_hand.step s.shared ok).map fun (shared, ui_hand) => { s with shared, ui_hand }
    | .saver saver ok => (Saver.step s.shared saver ok).map fun shared => { s with shared }
    | .saver_panics saver => (Saver.panic s.shared saver).map fun shared => { s with shared }
    | .exit late ok => s.exit_step late ok

end DraftHost

end Captastic.Model
