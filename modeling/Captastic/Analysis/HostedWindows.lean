import Captastic.Library.Runs
import Captastic.Model.DesktopUi

/-!
# The windows the desktop UI thread hosts

Between two messages the host's lists hold exactly the windows that live, each in the list of its
kind (`hosts_live_windows`).

A window that is being destroyed takes itself out of the host's lists, and the host takes a list
before it destroys what is in it.  So while it closes the windows of one kind its lists are right
but for that one, which is what is carried through (`Hosting`).
-/

set_option autoImplicit false

namespace Captastic.Analysis

open Captastic.Library Captastic.Model

variable {ui ui' : DesktopUi}

/-! ## What a step does -/

/-- A step of the thread and of those that ask it. -/
def DesktopStepTaken (ui : DesktopUi) (step : DesktopStep) (ui' : DesktopUi) : Prop :=
  ui.next step = some ui'

inductive DesktopMoves (ui : DesktopUi) : DesktopStep → DesktopUi → Prop
  | requested {command : UiCommand} {posts : Bool} (running : ui.stopped = false)
      (own : ∀ request ∈ command.on_finish, request ∉ ui.asked) :
      DesktopMoves ui (.requests command posts) (ui.request command posts)
  | stopped {posts : Bool} {posted : List DesktopMessage}
      (posted_is : posted = ui.posted ∨
        posted = ui.posted ++ [.HOST_STOP] ∧ ui.host.isSome = true) :
      DesktopMoves ui (.stops posts) { ui with stopped := true, posted := posted }
  | heard {message : DesktopMessage} {posted : List DesktopMessage}
      (first : ui.posted = message :: posted) (idle : ui.draining = false) :
      DesktopMoves ui .dispatches ({ ui with posted := posted }.host_window_proc message)
  | applied {opening : WindowOpening} {host : HostState} {command : UiCommand}
      {commands : List UiCommand} (hosts : ui.host = some host)
      (first : host.commands = command :: commands) (drains : ui.draining = true)
      (own : ∀ handle ∈ ui.handles, opening ≠ .opened handle) :
      DesktopMoves ui (.applies opening)
        ({ ui with host := some { host with commands := commands } }.apply opening command)
  | drained {opening : WindowOpening} {host : HostState} (hosts : ui.host = some host)
      (empty : host.commands = []) :
      DesktopMoves ui (.applies opening) { ui with draining := false }
  | finished {step : DesktopStep} {boxes : List Nat} {handle : Nat} {told : UiAnswer}
      (lives : ∃ window ∈ ui.windows, window.handle = handle) :
      DesktopMoves ui step ({ ui with boxes := boxes }.finish handle told)
  | boxed {step : DesktopStep} {boxes : List Nat} : DesktopMoves ui step { ui with boxes := boxes }
  | pin_closed {handle : Nat} : DesktopMoves ui (.closes_pin handle) (ui.destroy_window handle)
  | pins_asked {posts : Bool} {posted : List DesktopMessage} (hosts : ui.host.isSome = true)
      (posted_is : posted = ui.posted ∨ posted = ui.posted ++ [.HOST_CLOSE_PINS]) :
      DesktopMoves ui (.closes_pins posts) { ui with posted := posted }

/-- A window that lives is among the thread's. -/
theorem lives_window {kind : HostedKind → Bool} {handle : Nat}
    (lives : ui.lives kind handle = true) : ∃ window ∈ ui.windows, window.handle = handle := by
  obtain ⟨window, member, is_it⟩ := List.any_eq_true.mp lives
  rw [Bool.and_eq_true, decide_eq_true_eq] at is_it
  exact ⟨window, member, is_it.1⟩

/-- Every step is one of these moves. -/
theorem desktop_moves {step : DesktopStep} (taken : ui.next step = some ui') :
    DesktopMoves ui step ui' := by
  unfold DesktopUi.next at taken
  cases step with
  | requests command posts =>
    simp only at taken
    split at taken
    · cases taken
    · rename_i allowed
      cases taken
      push Not at allowed
      exact .requested (Bool.eq_false_iff.mpr allowed.1) allowed.2
  | stops posts =>
    simp only at taken
    split at taken
    · cases taken
    · cases taken
      refine .stopped ?_
      split
      · rename_i both
        exact .inr ⟨rfl, both.2⟩
      · exact .inl rfl
  | dispatches =>
    simp only at taken
    split at taken
    · rename_i message posted first
      split at taken
      · cases taken
      · rename_i idle
        cases taken
        exact .heard first (Bool.eq_false_iff.mpr idle)
    · cases taken
  | applies opening =>
    simp only at taken
    split at taken
    · rename_i host hosts
      split at taken
      · cases taken
      · rename_i allowed
        push Not at allowed
        split at taken
        · rename_i command commands first
          cases taken
          exact .applied hosts first (by simpa using allowed.1) allowed.2
        · rename_i empty
          cases taken
          exact .drained hosts empty
    · cases taken
  | finishes handle told =>
    simp only at taken
    split at taken
    · rename_i allowed
      cases taken
      exact @DesktopMoves.finished ui _ ui.boxes handle told (lives_window allowed.2)
    · cases taken
  | asks handle =>
    simp only at taken
    split at taken
    · cases taken
      exact .boxed
    · cases taken
  | agrees =>
    simp only at taken
    split at taken
    · rename_i handle boxes top
      split at taken
      · rename_i window found
        split at taken
        · cases taken
        · cases taken
          exact .finished ⟨window, List.mem_of_find?_eq_some found,
            by simpa using List.find?_some found⟩
      · cases taken
    · cases taken
  | declines =>
    simp only at taken
    split at taken
    · split at taken
      · cases taken
      · cases taken
        exact .boxed
    · cases taken
  | closes_pin handle =>
    simp only at taken
    split at taken
    · cases taken
      exact .pin_closed
    · cases taken
  | closes_pins posts =>
    simp only at taken
    split at taken
    · rename_i allowed
      cases taken
      refine .pins_asked allowed.2 ?_
      split
      · exact .inr rfl
      · exact .inl rfl
    · cases taken

/-! ## The host's lists -/

/-- The host's list of a kind. -/
def listed (host : HostState) : HostedKind → List Nat
  | .Pin => host.pins
  | .Editor => host.editors
  | .Review => host.reviews
  | .Recording => host.recording.toList

/-- The windows of a kind. -/
def handles_of (kind : HostedKind) (windows : List HostedWindow) : List Nat :=
  (windows.filter (·.kind = kind)).map HostedWindow.handle

/-- No two windows share a handle, the host's lists are the windows that live but for those of the
kind it is closing, and without the host there are none. -/
structure Hosting (closing : Option HostedKind) (ui : DesktopUi) : Prop where
  apart : ui.handles.Nodup
  lists : ∀ host, ui.host = some host → ∀ kind,
    listed host kind = if closing = some kind then [] else handles_of kind ui.windows
  gone : ui.host = none → ui.windows = [] ∧ ui.posted = []

variable {closing : Option HostedKind}

/-- A window that is forgotten is taken off its list. -/
theorem listed_forget (host : HostState) (handle : Nat) (kind : HostedKind) :
    listed (host.forget_window handle) kind = (listed host kind).filter (· ≠ handle) := by
  cases kind with
  | Pin | Editor | Review => rfl
  | Recording =>
    simp only [listed, HostState.forget_window]
    cases recording : host.recording with
    | none => rfl
    | some frame =>
      by_cases same : frame = handle
      · simp [same]
      · simp [same]

/-- The windows of a kind but for one. -/
theorem handles_of_filter (kind : HostedKind) (windows : List HostedWindow) (handle : Nat) :
    handles_of kind (windows.filter (·.handle ≠ handle)) =
      (handles_of kind windows).filter (· ≠ handle) := by
  rw [handles_of, handles_of, List.filter_map, List.filter_filter, List.filter_filter]
  congr 1
  exact List.filter_congr fun window _ => Bool.and_comm _ _

/-- A handle of no window is in none of the lists. -/
theorem filter_absent {windows : List HostedWindow} {handle : Nat}
    (absent : windows.find? (·.handle = handle) = none) :
    windows.filter (·.handle ≠ handle) = windows := by
  refine List.filter_eq_self.mpr fun window member => ?_
  have other := List.find?_eq_none.mp absent window member
  simpa using other

/-- The windows that are left as one is destroyed. -/
theorem destroyed_windows (ui : DesktopUi) (handle : Nat) :
    (ui.destroy_window handle).windows = ui.windows.filter (·.handle ≠ handle) := by
  unfold DesktopUi.destroy_window
  split
  · rename_i absent
    exact (filter_absent absent).symm
  · unfold DesktopUi.answer
    split <;> rfl

/-- What an answer leaves. -/
theorem answer_same (ui : DesktopUi) (on_finish : Option Nat) (told : UiAnswer) :
    (ui.answer on_finish told).host = ui.host ∧ (ui.answer on_finish told).windows = ui.windows ∧
      (ui.answer on_finish told).posted = ui.posted := by
  cases on_finish <;> exact ⟨rfl, rfl, rfl⟩

namespace Hosting

/-- What leaves the windows and the host's lists, and posts only to a host. -/
theorem same (hosting : Hosting closing ui) (windows : ui'.windows = ui.windows)
    (host : ∀ host', ui'.host = some host' → ∃ host, ui.host = some host ∧
      listed host' = listed host)
    (gone : ui'.host = none → ui.host = none ∧ ui'.posted = ui.posted) : Hosting closing ui' where
  apart := by rw [DesktopUi.handles, windows]; exact hosting.apart
  lists host' hosts kind := by
    obtain ⟨before, hosted, lists⟩ := host host' hosts
    rw [lists, windows]
    exact hosting.lists before hosted kind
  gone none_hosts := by
    obtain ⟨was_gone, posted⟩ := gone none_hosts
    rw [windows, posted]
    exact hosting.gone was_gone

/-- What leaves the host, the windows and the messages. -/
theorem still (hosting : Hosting closing ui) (host : ui'.host = ui.host)
    (windows : ui'.windows = ui.windows) (posted : ui'.posted = ui.posted) :
    Hosting closing ui' := by
  refine hosting.same windows (fun host' hosts => ⟨host', ?_, rfl⟩) fun gone => ⟨?_, posted⟩
  · rwa [host] at hosts
  · rwa [host] at gone

/-- The next message is taken. -/
theorem next_message {message : DesktopMessage} {posted : List DesktopMessage}
    (hosting : Hosting closing ui) (first : ui.posted = message :: posted) :
    Hosting closing { ui with posted := posted } := by
  refine ⟨hosting.apart, hosting.lists, fun gone => ?_⟩
  have empty := (hosting.gone gone).2
  rw [first] at empty
  cases empty

/-- The channel is not one of the host's lists. -/
theorem with_commands {host : HostState} (hosting : Hosting closing ui)
    (hosts : ui.host = some host) {commands : List UiCommand} (same_windows : ui'.windows = ui.windows)
    (hosts' : ui'.host = some { host with commands := commands }) : Hosting closing ui' := by
  refine hosting.same same_windows (fun host' is_host => ?_) fun gone => ?_
  · cases hosts'.symm.trans is_host
    refine ⟨host, hosts, ?_⟩
    funext kind
    cases kind <;> rfl
  · cases hosts'.symm.trans gone

/-- An answer changes no window. -/
theorem answer (hosting : Hosting closing ui) (on_finish : Option Nat) (told : UiAnswer) :
    Hosting closing (ui.answer on_finish told) := by
  obtain ⟨host, windows, posted⟩ := answer_same ui on_finish told
  exact hosting.still host windows posted

/-- A window that is destroyed leaves the lists. -/
theorem destroy (hosting : Hosting closing ui) (handle : Nat) :
    Hosting closing (ui.destroy_window handle) := by
  unfold DesktopUi.destroy_window
  split
  · exact hosting
  · rename_i window found
    refine answer ?_ _ _
    constructor
    · exact hosting.apart.sublist (List.filter_sublist.map _)
    · intro host' hosts kind
      obtain ⟨host, hosted, rfl⟩ := Option.map_eq_some_iff.mp hosts
      rw [listed_forget, hosting.lists host hosted kind, handles_of_filter]
      split <;> rfl
    · intro gone
      obtain ⟨windows, posted⟩ := hosting.gone (Option.map_eq_none_iff.mp gone)
      exact ⟨by rw [windows]; rfl, posted⟩

/-- Destroying windows keeps the lists. -/
theorem destroys (hosting : Hosting closing ui) (closed : List Nat) :
    Hosting closing (ui.destroy_windows closed) := by
  induction closed generalizing ui with
  | nil => exact hosting
  | cons handle closed ih => exact ih (hosting.destroy handle)

end Hosting

/-- The windows that are left as several are destroyed. -/
theorem all_destroyed_windows (ui : DesktopUi) (closed : List Nat) :
    (ui.destroy_windows closed).windows = ui.windows.filter (·.handle ∉ closed) := by
  induction closed generalizing ui with
  | nil => simp [DesktopUi.destroy_windows]
  | cons handle closed ih =>
    have rest := ih (ui.destroy_window handle)
    rw [destroyed_windows, List.filter_filter] at rest
    refine rest.trans (List.filter_congr fun window _ => ?_)
    simp [Bool.and_comm]

/-- What is left once the windows of a kind are destroyed. -/
theorem handles_of_closed (kind closed : HostedKind) {windows : List HostedWindow}
    (apart : (windows.map HostedWindow.handle).Nodup) :
    handles_of kind (windows.filter (·.handle ∉ handles_of closed windows)) =
      if kind = closed then [] else handles_of kind windows := by
  have kept : windows.filter (·.handle ∉ handles_of closed windows) =
      windows.filter (·.kind ≠ closed) := by
    refine List.filter_congr fun window member => ?_
    rw [decide_eq_decide, not_iff_not]
    constructor
    · intro among
      obtain ⟨other, found, same⟩ := List.mem_map.mp among
      obtain ⟨found, is_kind⟩ := List.mem_filter.mp found
      rw [← List.inj_on_of_nodup_map apart found member same]
      exact of_decide_eq_true is_kind
    · intro is_kind
      exact List.mem_map.mpr ⟨window, List.mem_filter.mpr ⟨member, decide_eq_true is_kind⟩, rfl⟩
  rw [kept, handles_of, List.filter_filter]
  split
  · rename_i same
    rw [List.map_eq_nil_iff, List.filter_eq_nil_iff]
    simp [same]
  · rename_i other
    refine congrArg _ (List.filter_congr fun window _ => ?_)
    by_cases is_kind : window.kind = kind
    · simp [is_kind, other]
    · simp [is_kind]

namespace Hosting

/-- The windows of one kind are closed: the host's list of it is taken, and it is right again once
they are destroyed. -/
theorem close (hosting : Hosting none ui) (kind : HostedKind) {taken : HostState → List Nat}
    {without : HostState → HostState} (takes : ∀ host, taken host = listed host kind)
    (leaves : ∀ host other, listed (without host) other =
      if kind = other then [] else listed host other) :
    Hosting none (ui.close_list taken without) ∧
      handles_of kind (ui.close_list taken without).windows = [] := by
  unfold DesktopUi.close_list
  split
  · rename_i gone
    exact ⟨hosting, by rw [(hosting.gone gone).1]; rfl⟩
  · rename_i host hosts
    have list : taken host = handles_of kind ui.windows :=
      (takes host).trans (hosting.lists host hosts kind)
    have begun : Hosting (some kind) { ui with host := some (without host) } := by
      refine ⟨hosting.apart, ?_, nofun⟩
      rintro host' ⟨⟩ other
      rw [leaves, hosting.lists host hosts other]
      by_cases same : kind = other
      · simp [same]
      · simp [same]
    have closed := begun.destroys (taken host)
    have windows := all_destroyed_windows { ui with host := some (without host) } (taken host)
    rw [list] at closed windows ⊢
    have left (other : HostedKind) :=
      (congrArg (handles_of other) windows).trans (handles_of_closed other kind hosting.apart)
    refine ⟨⟨closed.apart, fun host' hosts' other => ?_, closed.gone⟩, ?_⟩
    · rw [closed.lists host' hosts' other]
      by_cases same : kind = other
      · rw [left other]
        simp [same]
      · simp [same]
    · rw [left kind, if_pos rfl]

/-- Closing the pins leaves none. -/
theorem close_pins (hosting : Hosting none ui) :
    Hosting none ui.close_pins ∧ handles_of .Pin ui.close_pins.windows = [] :=
  hosting.close .Pin (fun _ => rfl) fun _ other => by cases other <;> rfl

/-- Closing the editors leaves none. -/
theorem close_editors (hosting : Hosting none ui) :
    Hosting none ui.close_editors ∧ handles_of .Editor ui.close_editors.windows = [] :=
  hosting.close .Editor (fun _ => rfl) fun _ other => by cases other <;> rfl

/-- Closing the reviews leaves none. -/
theorem close_reviews (hosting : Hosting none ui) :
    Hosting none ui.close_reviews ∧ handles_of .Review ui.close_reviews.windows = [] :=
  hosting.close .Review (fun _ => rfl) fun _ other => by cases other <;> rfl

/-- Closing the recording's frame leaves none. -/
theorem close_recording (hosting : Hosting none ui) :
    Hosting none ui.close_recording ∧ handles_of .Recording ui.close_recording.windows = [] :=
  hosting.close .Recording (fun _ => rfl) fun _ other => by cases other <;> rfl

end Hosting

/-- Destroying a window that is hosted leaves the host. -/
theorem destroyed_host (ui : DesktopUi) (handle : Nat) :
    (ui.destroy_window handle).host.isSome = ui.host.isSome := by
  unfold DesktopUi.destroy_window
  split
  · rfl
  · rw [(answer_same _ _ _).1, Option.isSome_map]

/-- So does destroying several. -/
theorem all_destroyed_host (ui : DesktopUi) (closed : List Nat) :
    (ui.destroy_windows closed).host.isSome = ui.host.isSome := by
  induction closed generalizing ui with
  | nil => rfl
  | cons handle closed ih => exact (ih _).trans (destroyed_host ui handle)

/-- The host is there as before once windows are closed. -/
theorem closed_host (ui : DesktopUi) (taken : HostState → List Nat)
    (without : HostState → HostState) :
    (ui.close_list taken without).host.isSome = ui.host.isSome := by
  unfold DesktopUi.close_list
  split
  · rfl
  · rename_i host hosts
    rw [all_destroyed_host, hosts]
    rfl

/-- What closing the windows of one kind leaves of another's. -/
theorem closed_sublist (ui : DesktopUi) (taken : HostState → List Nat)
    (without : HostState → HostState) :
    (ui.close_list taken without).windows.Sublist ui.windows := by
  unfold DesktopUi.close_list
  split
  · exact List.Sublist.refl _
  · rw [all_destroyed_windows]
    exact List.filter_sublist

/-- Where a kind has no window it still has none when some are destroyed. -/
theorem handles_of_nil {kind : HostedKind} {windows left : List HostedWindow}
    (sublist : left.Sublist windows) (none_of : handles_of kind windows = []) :
    handles_of kind left = [] := by
  have of_left : (handles_of kind left).Sublist (handles_of kind windows) :=
    (sublist.filter _).map _
  rw [none_of] at of_left
  exact List.sublist_nil.mp of_left

/-- Every window is of one of the four kinds. -/
theorem no_windows {windows : List HostedWindow} (none_of : ∀ kind, handles_of kind windows = []) :
    windows = [] := by
  refine List.eq_nil_iff_forall_not_mem.mpr fun window member => ?_
  have among : window.handle ∈ handles_of window.kind windows :=
    List.mem_map_of_mem (List.mem_filter.mpr ⟨member, decide_eq_true rfl⟩)
  rw [none_of] at among
  cases among

namespace Hosting

/-- The thread stops without a window left. -/
theorem stop (hosting : Hosting none ui) :
    ui.close_pins.close_editors.close_reviews.close_recording.windows = [] ∧
      Hosting none ui.close_pins.close_editors.close_reviews.close_recording := by
  obtain ⟨pins, no_pins⟩ := hosting.close_pins
  obtain ⟨editors, no_editors⟩ := pins.close_editors
  obtain ⟨reviews, no_reviews⟩ := editors.close_reviews
  obtain ⟨recording, no_recording⟩ := reviews.close_recording
  have of_recording := closed_sublist ui.close_pins.close_editors.close_reviews
    (·.recording.toList) ({ · with recording := none })
  have of_reviews := closed_sublist ui.close_pins.close_editors (·.reviews)
    ({ · with reviews := [] })
  have of_editors := closed_sublist ui.close_pins (·.editors) ({ · with editors := [] })
  refine ⟨no_windows fun kind => ?_, recording⟩
  cases kind with
  | Pin =>
    exact handles_of_nil (of_recording.trans (of_reviews.trans of_editors)) no_pins
  | Editor => exact handles_of_nil (of_recording.trans of_reviews) no_editors
  | Review => exact handles_of_nil of_recording no_reviews
  | Recording => exact no_recording

/-- A window that is opened joins the list of its kind, which for a recording's frame is empty. -/
theorem opens (hosting : Hosting none ui) {opening : WindowOpening} {kind : HostedKind}
    {on_finish : Option Nat} {lists : HostState → Nat → HostState} (hosts : ui.host.isSome = true)
    (own : ∀ handle ∈ ui.handles, opening ≠ .opened handle)
    (joins : ∀ host, ui.host = some host → ∀ handle other, listed (lists host handle) other =
      listed host other ++ if kind = other then [handle] else []) :
    Hosting none (ui.open_window kind on_finish lists opening) := by
  cases opening with
  | failed message => exact hosting.answer _ _
  | opened handle =>
    have handles : (ui.open_window kind on_finish lists (.opened handle)).handles =
        ui.handles ++ [handle] := by
      rw [DesktopUi.handles, DesktopUi.open_window, List.map_append]
      rfl
    constructor
    · rw [handles]
      refine hosting.apart.append (List.nodup_singleton handle) ?_
      intro other member same
      exact own other member (by rw [List.mem_singleton.mp same])
    · intro host' hosts other
      obtain ⟨host, hosted, rfl⟩ := Option.map_eq_some_iff.mp hosts
      rw [joins host hosted, hosting.lists host hosted other, DesktopUi.open_window, handles_of,
        handles_of, List.filter_append, List.map_append]
      by_cases same : kind = other
      · simp [same]
      · simp [same]
    · intro gone
      rw [Option.map_eq_none_iff.mp gone] at hosts
      cases hosts

/-- A command keeps the lists, where a new window has a handle of its own. -/
theorem apply (hosting : Hosting none ui) (hosts : ui.host.isSome = true)
    {opening : WindowOpening} (own : ∀ handle ∈ ui.handles, opening ≠ .opened handle)
    (command : UiCommand) : Hosting none (ui.apply opening command) := by
  cases command with
  | Pin | Edit | Review =>
    refine hosting.opens hosts own fun host _ handle other => ?_
    cases other <;> simp [listed]
  | ShowRecording =>
    obtain ⟨closed, none_left⟩ := hosting.close_recording
    have shorter := closed_sublist ui (·.recording.toList) ({ · with recording := none })
    refine closed.opens ((closed_host _ _ _).trans hosts) ?_ ?_
    · exact fun handle member => own handle ((shorter.map _).subset member)
    · intro host hosted handle other
      have empty := closed.lists host hosted .Recording
      rw [if_neg nofun, none_left] at empty
      cases other with
      | Recording => simpa [listed] using empty
      | _ => simp [listed]
  | HideRecording => exact hosting.close_recording.1
  | ClosePins => exact hosting.close_pins.1
  | FollowRecording | MakePinsClickable => exact hosting

/-- Taking the answer out of a window leaves the lists. -/
theorem take (hosting : Hosting none ui) (handle : Nat) :
    Hosting none (ui.take_on_finish handle) := by
  have handles : (ui.take_on_finish handle).handles = ui.handles := by
    rw [DesktopUi.handles, DesktopUi.take_on_finish, List.map_map]
    refine List.map_congr_left fun window _ => ?_
    simp only [Function.comp_apply]
    split <;> rfl
  refine ⟨by rw [handles]; exact hosting.apart, fun host hosts kind => ?_, fun gone => ?_⟩
  · rw [hosting.lists host hosts kind]
    refine congrArg (ite _ _) ?_
    rw [handles_of, handles_of, DesktopUi.take_on_finish, List.filter_map, List.map_map]
    have same_kind : ((fun window : HostedWindow => decide (window.kind = kind)) ∘ fun window =>
        if window.handle = handle then { window with on_finish := none } else window) =
        fun window => decide (window.kind = kind) := by
      funext window
      simp only [Function.comp_apply]
      split <;> rfl
    rw [same_kind]
    refine List.map_congr_left fun window _ => ?_
    simp only [Function.comp_apply]
    split <;> rfl
  · obtain ⟨windows, posted⟩ := hosting.gone gone
    exact ⟨by rw [DesktopUi.take_on_finish, windows]; rfl, posted⟩

/-- A window that answers and is destroyed is forgotten. -/
theorem finish (hosting : Hosting none ui) (handle : Nat) (told : UiAnswer) :
    Hosting none (ui.finish handle told) := by
  unfold DesktopUi.finish
  split
  · exact hosting
  · split
    · exact ((hosting.take handle).destroy handle).answer _ _
    · exact ((hosting.take handle).answer _ _).destroy handle

/-- The host takes a message. -/
theorem hears (hosting : Hosting none ui) (message : DesktopMessage) :
    Hosting none (ui.host_window_proc message) := by
  cases message with
  | HOST_COMMANDS => exact hosting.still rfl rfl rfl
  | HOST_CLOSE_PINS => exact hosting.close_pins.1
  | HOST_STOP =>
    obtain ⟨no_window, stopped⟩ := hosting.stop
    simp only [DesktopUi.host_window_proc, DesktopUi.destroy_host]
    split
    · exact stopped
    · exact ⟨stopped.apart, nofun, fun _ => ⟨no_window, rfl⟩⟩

/-- **One step** keeps the host's lists those of its windows. -/
theorem step (ui : DesktopUi) (step : DesktopStep) (ui' : DesktopUi) (hosting : Hosting none ui)
    (taken : DesktopStepTaken ui step ui') : Hosting none ui' := by
  cases desktop_moves taken with
  | requested =>
    unfold DesktopUi.request
    split
    · exact hosting.still rfl rfl rfl
    · rename_i host hosts
      exact hosting.with_commands hosts rfl rfl
  | stopped posted_is =>
    refine hosting.same rfl (fun host hosts => ⟨host, hosts, rfl⟩) fun gone => ⟨gone, ?_⟩
    rcases posted_is with same | ⟨-, hosts⟩
    · exact same
    · have gone : ui.host = none := gone
      rw [gone] at hosts
      cases hosts
  | heard first => exact (hosting.next_message first).hears _
  | @applied _ host _ commands hosts _ _ own =>
    have taken : Hosting none { ui with host := some { host with commands := commands } } :=
      hosting.with_commands hosts rfl rfl
    exact taken.apply rfl own _
  | drained | boxed => exact hosting.still rfl rfl rfl
  | finished =>
    refine finish ?_ _ _
    exact hosting.still rfl rfl rfl
  | pin_closed => exact hosting.destroy _
  | pins_asked hosts =>
    refine hosting.same rfl (fun host hosts => ⟨host, hosts, rfl⟩) fun gone => ?_
    have gone : ui.host = none := gone
    rw [gone] at hosts
    cases hosts

/-- The thread starts with no window. -/
theorem first : Hosting none DesktopUi.start := by
  refine ⟨List.nodup_nil, ?_, nofun⟩
  rintro host ⟨⟩ kind
  cases kind <;> rfl

/-- Between two messages the host's lists are the windows that live. -/
theorem live (hosting : Hosting none ui) (host : HostState) (hosts : ui.host = some host) :
    host.pins = handles_of .Pin ui.windows ∧ host.editors = handles_of .Editor ui.windows ∧
      host.reviews = handles_of .Review ui.windows ∧
      host.recording.toList = handles_of .Recording ui.windows := by
  have lists (kind : HostedKind) : listed host kind = handles_of kind ui.windows :=
    (hosting.lists host hosts kind).trans (if_neg nofun)
  exact ⟨lists .Pin, lists .Editor, lists .Review, lists .Recording⟩

end Hosting

/-- A run of the thread and those that ask it. -/
abbrev DesktopRun : List (Taken DesktopUi DesktopStep) → DesktopUi → Prop :=
  Run DesktopStepTaken .start

variable {steps : List (Taken DesktopUi DesktopStep)}

/-- **The host's lists are the windows that live**, in every state of every run: no two windows
share a handle, each list holds the windows of its kind in the order they were opened, and once the
host is gone no window is left. -/
theorem hosts_live_windows (run : DesktopRun steps ui) :
    ui.handles.Nodup ∧
      (∀ host, ui.host = some host →
        host.pins = handles_of .Pin ui.windows ∧ host.editors = handles_of .Editor ui.windows ∧
          host.reviews = handles_of .Review ui.windows ∧
          host.recording.toList = handles_of .Recording ui.windows) ∧
      (ui.host = none → ui.windows = []) := by
  have hosting := run.inv Hosting.step Hosting.first
  exact ⟨hosting.apart, hosting.live, fun gone => (hosting.gone gone).1⟩

/-- The thread after these steps. -/
def desktop_session (steps : List DesktopStep) : Option DesktopUi :=
  steps.foldlM DesktopUi.next .start

/-- A session that is computed is a run. -/
theorem desktop_session_runs {events : List DesktopStep}
    (computed : desktop_session events = some ui) :
    ∃ steps, DesktopRun steps ui := by
  obtain ⟨steps, -, run⟩ := Run.of_foldlM (fun _ _ _ taken => taken) computed
  exact ⟨steps, run⟩

/-- An edit, a pin and the recording's frame are opened, another frame replaces it, and the user
closes the pin. -/
def hosted_steps : List DesktopStep :=
  [.requests (.Edit 0) true, .requests .Pin true, .requests .ShowRecording true,
    .requests .ShowRecording true, .dispatches, .applies (.opened 4), .applies (.opened 9),
    .applies (.opened 6), .applies (.opened 7), .applies (.failed ""), .closes_pin 9]

/-- A pin and an editor are open and listed. -/
theorem hosts_live_windows_opened :
    ∃ ui, desktop_session hosted_steps = some ui ∧ ui.handles = [4, 7] ∧
      ui.handles.Nodup ∧
      (∀ host, ui.host = some host →
        host.pins = handles_of .Pin ui.windows ∧ host.editors = handles_of .Editor ui.windows ∧
          host.reviews = handles_of .Review ui.windows ∧
          host.recording.toList = handles_of .Recording ui.windows) ∧
      (ui.host = none → ui.windows = []) := by
  have computed :
      (desktop_session hosted_steps).any fun ui => decide (ui.handles = [4, 7]) := by decide
  obtain ⟨ui, computed, two⟩ := Option.any_eq_true _ _ |>.mp computed
  obtain ⟨steps, run⟩ := desktop_session_runs computed
  exact ⟨ui, computed, of_decide_eq_true two, hosts_live_windows run⟩

end Captastic.Analysis
