import Captastic.Analysis.HostedWindows

/-!
# A request of a window is answered once

An edit or a review that was asked for is answered at most once, and once the thread has ended
exactly once, unless the request returned an error (`requests_answered_once`).

A request is at any time answered, owed by the window that was opened for it, waiting in the channel
or dropped with it, and in one of these once (`AskedOnce`).  What is dropped as the host goes was
not promised: the thread was posted to for every command that was, no post is behind the one to
stop, and the thread takes every command there is when it is posted to (`PromisesKept`).
-/

set_option autoImplicit false

namespace Captastic.Analysis

open Captastic.Library Captastic.Model

variable {ui ui' : DesktopUi} {steps : List (Taken DesktopUi DesktopStep)}

/-! ## Where a request is -/

/-- What the life of windows leaves: the requests, the messages and the commands. -/
structure Aside (ui ui' : DesktopUi) : Prop where
  posted : ui'.posted = ui.posted
  draining : ui'.draining = ui.draining
  stopped : ui'.stopped = ui.stopped
  requested : ui'.requested = ui.requested
  unheard : ui'.unheard = ui.unheard
  commands : ui'.host.map HostState.commands = ui.host.map HostState.commands

namespace Aside

/-- Nothing happens. -/
theorem refl (ui : DesktopUi) : Aside ui ui := ⟨rfl, rfl, rfl, rfl, rfl, rfl⟩

/-- One thing after the other. -/
theorem trans {before between after : DesktopUi} (first : Aside before between)
    (second : Aside between after) : Aside before after where
  posted := second.posted.trans first.posted
  draining := second.draining.trans first.draining
  stopped := second.stopped.trans first.stopped
  requested := second.requested.trans first.requested
  unheard := second.unheard.trans first.unheard
  commands := second.commands.trans first.commands

/-- An answer is about no window. -/
theorem answer (ui : DesktopUi) (on_finish : Option Nat) (answer : UiAnswer) :
    Aside ui (ui.answer on_finish answer) := by
  cases on_finish <;> exact ⟨rfl, rfl, rfl, rfl, rfl, rfl⟩

/-- A window is destroyed. -/
theorem destroy (ui : DesktopUi) (handle : Nat) : Aside ui (ui.destroy_window handle) := by
  unfold DesktopUi.destroy_window
  split
  · exact refl ui
  · refine trans ?_ (answer _ _ _)
    exact ⟨rfl, rfl, rfl, rfl, rfl, by cases ui.host <;> rfl⟩

/-- Windows are destroyed. -/
theorem destroys (ui : DesktopUi) (closed : List Nat) : Aside ui (ui.destroy_windows closed) := by
  induction closed generalizing ui with
  | nil => exact refl ui
  | cons handle closed ih => exact (destroy ui handle).trans (ih _)

/-- A list of windows is taken and closed. -/
theorem close (ui : DesktopUi) (taken : HostState → List Nat) {without : HostState → HostState}
    (commands : ∀ host, (without host).commands = host.commands) :
    Aside ui (ui.close_list taken without) := by
  unfold DesktopUi.close_list
  split
  · exact refl ui
  · rename_i host hosts
    have taken_out : Aside ui { ui with host := some (without host) } := by
      refine ⟨rfl, rfl, rfl, rfl, rfl, ?_⟩
      rw [hosts]
      exact congrArg some (commands host)
    exact taken_out.trans (destroys _ _)

/-- The pins are closed. -/
theorem close_pins (ui : DesktopUi) : Aside ui ui.close_pins := by
  refine close ui _ ?_
  exact fun _ => rfl

/-- The editors are closed. -/
theorem close_editors (ui : DesktopUi) : Aside ui ui.close_editors := by
  refine close ui _ ?_
  exact fun _ => rfl

/-- The reviews are closed. -/
theorem close_reviews (ui : DesktopUi) : Aside ui ui.close_reviews := by
  refine close ui _ ?_
  exact fun _ => rfl

/-- The recording's frame is closed. -/
theorem close_recording (ui : DesktopUi) : Aside ui ui.close_recording := by
  refine close ui _ ?_
  exact fun _ => rfl

/-- A window answers and is destroyed. -/
theorem finish (ui : DesktopUi) (handle : Nat) (told : UiAnswer) :
    Aside ui (ui.finish handle told) := by
  have taken : Aside ui (ui.take_on_finish handle) := ⟨rfl, rfl, rfl, rfl, rfl, rfl⟩
  unfold DesktopUi.finish
  split
  · exact refl ui
  · split
    · exact (taken.trans (destroy _ _)).trans (answer _ _ _)
    · exact (taken.trans (answer _ _ _)).trans (destroy _ _)

/-- A window opens, or cannot be. -/
theorem opens (ui : DesktopUi) (opening : WindowOpening) (kind : HostedKind)
    (on_finish : Option Nat) {lists : HostState → Nat → HostState}
    (commands : ∀ host handle, (lists host handle).commands = host.commands) :
    Aside ui (ui.open_window kind on_finish lists opening) := by
  cases opening with
  | failed => exact answer _ _ _
  | opened handle =>
    refine ⟨rfl, rfl, rfl, rfl, rfl, ?_⟩
    simp only [DesktopUi.open_window, Option.map_map]
    exact congrArg (Option.map · ui.host) (funext fun host => commands host handle)

/-- A command is applied, whatever it asks for. -/
theorem apply (ui : DesktopUi) (opening : WindowOpening) (command : UiCommand) :
    Aside ui (ui.apply opening command) := by
  cases command with
  | Pin | Edit | Review =>
    refine opens ui opening _ _ ?_
    exact fun _ _ => rfl
  | ShowRecording =>
    refine (close_recording ui).trans (opens ui.close_recording opening _ _ ?_)
    exact fun _ _ => rfl
  | HideRecording => exact close_recording ui
  | ClosePins => exact close_pins ui
  | FollowRecording | MakePinsClickable => exact refl ui

/-- All windows are closed. -/
theorem stop (ui : DesktopUi) :
    Aside ui ui.close_pins.close_editors.close_reviews.close_recording :=
  (((close_pins ui).trans (close_editors _)).trans (close_reviews _)).trans (close_recording _)

end Aside

/-! The requests that were answered, that the windows owe an answer, that wait in the channel and
that were dropped. -/

def answered_ids (ui : DesktopUi) : List Nat := ui.answers.map Prod.fst

def owed_ids (ui : DesktopUi) : List Nat := ui.windows.filterMap HostedWindow.on_finish

def sent_ids (host : Option HostState) : List Nat :=
  (host.toList.flatMap HostState.commands).filterMap UiCommand.on_finish

def lost_ids (ui : DesktopUi) : List Nat := ui.unheard.filterMap UiCommand.on_finish

/-- How often a request is somewhere. -/
def found_times (ui : DesktopUi) (request : Nat) : Nat :=
  (answered_ids ui).count request + (owed_ids ui).count request + (sent_ids ui.host).count request +
    (lost_ids ui).count request

variable {request : Nat}

/-- An answer is found once more for its request. -/
theorem found_answer (ui : DesktopUi) (on_finish : Option Nat) (answer : UiAnswer) :
    found_times (ui.answer on_finish answer) request =
      found_times ui request + on_finish.toList.count request := by
  cases on_finish with
  | none => rfl
  | some asked =>
    simp only [found_times, answered_ids, owed_ids, sent_ids, lost_ids, DesktopUi.answer,
      List.map_append, List.count_append, List.map_cons, List.map_nil, Option.toList_some]
    omega

/-- No other window has the handle of the first. -/
theorem other_handle {first other : HostedWindow} {rest : List HostedWindow} {handle : Nat}
    (apart : first.handle ∉ rest.map HostedWindow.handle) (same : first.handle = handle)
    (member : other ∈ rest) : other.handle ≠ handle := by
  rintro rfl
  exact apart (same ▸ List.mem_map_of_mem member)

/-- The window found under a handle, taken out of the windows. -/
theorem owed_destroyed {windows : List HostedWindow} {handle : Nat} {window : HostedWindow}
    (apart : (windows.map HostedWindow.handle).Nodup)
    (found : windows.find? (·.handle = handle) = some window) :
    (windows.filterMap HostedWindow.on_finish).count request =
      ((windows.filter (·.handle ≠ handle)).filterMap HostedWindow.on_finish).count request +
        window.on_finish.toList.count request := by
  induction windows with
  | nil => cases found
  | cons first rest ih =>
    rw [List.map_cons, List.nodup_cons] at apart
    by_cases same : first.handle = handle
    · rw [List.find?_cons_of_pos (by simpa using same)] at found
      cases found
      have others : rest.filter (·.handle ≠ handle) = rest :=
        List.filter_eq_self.mpr fun other member => by simpa using other_handle apart.1 same member
      rw [List.filter_cons_of_neg (by simpa using same), others]
      cases owes : window.on_finish with
      | none => simp [owes]
      | some asked => simp [owes, List.count_cons]
    · rw [List.find?_cons_of_neg (by simpa using same)] at found
      have rest_owes := ih apart.2 found
      rw [List.filter_cons_of_pos (by simpa using same)]
      cases owes : first.on_finish with
      | none => simpa [owes] using rest_owes
      | some asked =>
        simp only [List.filterMap_cons, owes, List.count_cons, rest_owes]
        omega

/-- Forgetting a window takes no command out of the channel. -/
theorem waiting_forget (host : Option HostState) (handle : Nat) :
    sent_ids (host.map (HostState.forget_window · handle)) = sent_ids host := by
  cases host <;> rfl

/-- A window that is destroyed gives the answer it still owes. -/
theorem found_destroy (apart : ui.handles.Nodup) (handle : Nat) :
    found_times (ui.destroy_window handle) request = found_times ui request := by
  unfold DesktopUi.destroy_window
  split
  · rfl
  · rename_i window found
    have owes := @owed_destroyed request _ _ _ apart found
    rw [found_answer]
    simp only [found_times, answered_ids, owed_ids, lost_ids, waiting_forget, owes]
    omega

/-- Destroying a window leaves the handles apart. -/
theorem destroy_apart (apart : ui.handles.Nodup) (handle : Nat) :
    (ui.destroy_window handle).handles.Nodup := by
  rw [DesktopUi.handles, destroyed_windows]
  exact apart.sublist (List.filter_sublist.map _)

/-- Destroying windows moves their requests from owed to answered. -/
theorem found_destroys (apart : ui.handles.Nodup) (closed : List Nat) :
    found_times (ui.destroy_windows closed) request = found_times ui request := by
  induction closed generalizing ui with
  | nil => rfl
  | cons handle closed ih =>
    exact (ih (destroy_apart apart handle)).trans (found_destroy apart handle)

/-- Closing the windows of a kind answers for each of them. -/
theorem found_close (apart : ui.handles.Nodup) {taken : HostState → List Nat}
    {without : HostState → HostState}
    (commands : ∀ host, (without host).commands = host.commands) :
    found_times (ui.close_list taken without) request = found_times ui request := by
  unfold DesktopUi.close_list
  split
  · rfl
  · rename_i host hosts
    refine Eq.trans (found_destroys ?_ _) ?_
    · exact apart
    have same : sent_ids (some (without host)) = sent_ids (some host) := by
      simp only [sent_ids, Option.toList_some, List.flatMap_cons, List.flatMap_nil, commands]
    simp only [found_times, answered_ids, owed_ids, lost_ids, same, hosts]

/-- Closing the pins moves no request out of sight. -/
theorem found_close_pins (apart : ui.handles.Nodup) :
    found_times ui.close_pins request = found_times ui request := by
  refine found_close apart ?_
  exact fun _ => rfl

/-- Nor does closing the editors. -/
theorem found_close_editors (apart : ui.handles.Nodup) :
    found_times ui.close_editors request = found_times ui request := by
  refine found_close apart ?_
  exact fun _ => rfl

/-- Nor does closing the reviews. -/
theorem found_close_reviews (apart : ui.handles.Nodup) :
    found_times ui.close_reviews request = found_times ui request := by
  refine found_close apart ?_
  exact fun _ => rfl

/-- Nor does closing the recording's frame. -/
theorem found_close_recording (apart : ui.handles.Nodup) :
    found_times ui.close_recording request = found_times ui request := by
  refine found_close apart ?_
  exact fun _ => rfl

/-- The window found under a handle, with its answer taken out. -/
theorem owed_taken {windows : List HostedWindow} {handle : Nat} {window : HostedWindow}
    (apart : (windows.map HostedWindow.handle).Nodup)
    (found : windows.find? (·.handle = handle) = some window) :
    (windows.filterMap HostedWindow.on_finish).count request =
      ((windows.map fun other => if other.handle = handle then { other with on_finish := none }
        else other).filterMap HostedWindow.on_finish).count request +
        window.on_finish.toList.count request := by
  induction windows with
  | nil => cases found
  | cons first rest ih =>
    rw [List.map_cons, List.nodup_cons] at apart
    by_cases same : first.handle = handle
    · rw [List.find?_cons_of_pos (by simpa using same)] at found
      cases found
      have others : (rest.map fun other =>
          if other.handle = handle then { other with on_finish := none } else other) = rest := by
        refine (List.map_congr_left fun other member => ?_).trans (List.map_id rest)
        exact if_neg (other_handle apart.1 same member)
      rw [List.map_cons, others, if_pos same]
      cases owes : window.on_finish with
      | none => simp [owes]
      | some asked => simp [owes, List.count_cons]
    · rw [List.find?_cons_of_neg (by simpa using same)] at found
      have rest_owes := ih apart.2 found
      rw [List.map_cons, if_neg same]
      cases owes : first.on_finish with
      | none => simpa [owes] using rest_owes
      | some asked =>
        simp only [List.filterMap_cons, owes, List.count_cons, rest_owes]
        omega

/-- Taking the answer that a window owes takes its request out once. -/
theorem found_take {handle : Nat} {window : HostedWindow} (apart : ui.handles.Nodup)
    (found : ui.windows.find? (·.handle = handle) = some window) :
    found_times (ui.take_on_finish handle) request + window.on_finish.toList.count request =
      found_times ui request := by
  have owes := @owed_taken request _ _ _ apart found
  simp only [found_times, answered_ids, owed_ids, lost_ids, DesktopUi.take_on_finish] at owes ⊢
  omega

/-- A window that is ended answers with what it ended with. -/
theorem found_finish (hosting : Hosting none ui) (handle : Nat) (answer : UiAnswer) :
    found_times (ui.finish handle answer) request = found_times ui request := by
  unfold DesktopUi.finish
  split
  · rfl
  · rename_i window found
    have taken := @found_take ui request _ _ hosting.apart found
    have apart := (hosting.take handle).apart
    split
    · rw [found_answer, found_destroy apart, taken]
    · rw [found_destroy ((hosting.take handle).answer _ _).apart, found_answer, taken]

/-- A window that opens owes the answer, and one that cannot be opened has given it. -/
theorem found_open {opening : WindowOpening} {kind : HostedKind} {on_finish : Option Nat}
    {lists : HostState → Nat → HostState}
    (commands : ∀ host handle, (lists host handle).commands = host.commands) :
    found_times (ui.open_window kind on_finish lists opening) request =
      found_times ui request + on_finish.toList.count request := by
  cases opening with
  | failed message => exact found_answer ui on_finish (kind.unopened message)
  | opened handle =>
    have same : sent_ids (ui.host.map fun host => lists host handle) = sent_ids ui.host := by
      cases ui.host with
      | none => rfl
      | some host => simp [sent_ids, commands]
    have owes : owed_ids (ui.open_window kind on_finish lists (.opened handle)) =
        owed_ids ui ++ on_finish.toList := by
      rw [owed_ids, DesktopUi.open_window, List.filterMap_append]
      cases on_finish <;> rfl
    rw [found_times, owes, List.count_append]
    simp only [found_times, answered_ids, lost_ids, DesktopUi.open_window, same]
    omega

/-- A command that is taken is in a window or answered. -/
theorem found_apply (hosting : Hosting none ui) (opening : WindowOpening) (command : UiCommand) :
    found_times (ui.apply opening command) request =
      found_times ui request + command.on_finish.toList.count request := by
  cases command with
  | Pin | Edit | Review =>
    refine found_open ?_
    exact fun _ _ => rfl
  | ShowRecording =>
    rw [DesktopUi.apply, found_open, found_close_recording hosting.apart]
    · rfl
    · exact fun _ _ => rfl
  | HideRecording => exact found_close_recording hosting.apart
  | ClosePins => exact found_close_pins hosting.apart
  | FollowRecording | MakePinsClickable => rfl

/-- Destroying the host is not a request. -/
theorem destroy_host_requested (ui : DesktopUi) : ui.destroy_host.requested = ui.requested := by
  unfold DesktopUi.destroy_host
  split <;> rfl

/-- The commands that were not taken are dropped with the host. -/
theorem found_destroy_host (ui : DesktopUi) :
    found_times ui.destroy_host request = found_times ui request := by
  unfold DesktopUi.destroy_host
  split
  · rfl
  · rename_i host hosts
    have drops : (ui.unheard ++ host.commands).filterMap UiCommand.on_finish =
        lost_ids ui ++ sent_ids ui.host := by
      rw [hosts, List.filterMap_append]
      simp [lost_ids, sent_ids]
    simp only [found_times, answered_ids, owed_ids, lost_ids] at drops ⊢
    rw [drops, List.count_append]
    simp only [sent_ids, Option.toList_none, List.flatMap_nil, List.filterMap_nil, List.count_nil]
    omega

/-- Every request is answered, owed, waiting or dropped, once. -/
structure AskedOnce (ui : DesktopUi) : Prop where
  hosting : Hosting none ui
  once : ui.asked.Nodup
  tallied : ∀ request, found_times ui request = ui.asked.count request

namespace AskedOnce

/-- Steps that move no request out of sight keep each of them somewhere once. -/
theorem same (answering : AskedOnce ui) (hosting : Hosting none ui')
    (requested : ui'.requested = ui.requested)
    (tallied : ∀ request, found_times ui' request = found_times ui request) : AskedOnce ui' where
  hosting := hosting
  once := by rw [DesktopUi.asked, requested]; exact answering.once
  tallied request := by
    rw [tallied, DesktopUi.asked, requested]
    exact answering.tallied request

/-- A request that is made for the first time is in the channel, or dropped. -/
theorem asks (answering : AskedOnce ui) {command : UiCommand} {posts : Bool}
    (own : ∀ request ∈ command.on_finish, request ∉ ui.asked)
    (hosting : Hosting none (ui.request command posts)) : AskedOnce (ui.request command posts) := by
  have asked : (ui.request command posts).asked = ui.asked ++ command.on_finish.toList := by
    unfold DesktopUi.request
    split <;>
    · rw [DesktopUi.asked, List.filterMap_append]
      cases command <;> rfl
  refine ⟨hosting, ?_, fun own_request => ?_⟩
  · rw [asked]
    refine answering.once.append ?_ ?_
    · cases command.on_finish <;> simp
    · intro other member same
      exact own other (by simpa using same) member
  · rw [asked, List.count_append, ← answering.tallied]
    unfold DesktopUi.request
    split
    · have drops : (ui.unheard ++ [command]).filterMap UiCommand.on_finish =
          lost_ids ui ++ command.on_finish.toList := by
        rw [List.filterMap_append]
        cases command <;> rfl
      simp only [found_times, answered_ids, owed_ids, lost_ids] at drops ⊢
      rw [drops, List.count_append]
      omega
    · rename_i host hosts
      have queues : sent_ids (some { host with commands := host.commands ++ [command] }) =
          sent_ids ui.host ++ command.on_finish.toList := by
        rw [hosts]
        simp only [sent_ids, Option.toList_some, List.flatMap_cons, List.flatMap_nil,
          List.append_nil, List.filterMap_append]
        cases command <;> rfl
      simp only [found_times, answered_ids, owed_ids, lost_ids, queues, List.count_append]
      omega

/-- A message of the host moves each request on. -/
theorem hears (answering : AskedOnce ui) (message : DesktopMessage) :
    AskedOnce (ui.host_window_proc message) := by
  have hosting := answering.hosting
  have heard := hosting.hears message
  cases message with
  | HOST_COMMANDS => exact answering.same heard rfl fun _ => rfl
  | HOST_CLOSE_PINS =>
    exact answering.same heard (Aside.close_pins ui).requested
      fun _ => found_close_pins hosting.apart
  | HOST_STOP =>
    have editors := hosting.close_pins.1
    have reviews := editors.close_editors.1
    have recording := reviews.close_reviews.1
    refine answering.same heard ?_ fun request => ?_
    · rw [DesktopUi.host_window_proc, destroy_host_requested]
      exact (Aside.stop ui).requested
    · rw [DesktopUi.host_window_proc, found_destroy_host, found_close_recording recording.apart,
        found_close_reviews reviews.apart, found_close_editors editors.apart,
        found_close_pins hosting.apart]

/-- **One step** keeps every request somewhere, once. -/
theorem step (ui : DesktopUi) (step : DesktopStep) (ui' : DesktopUi) (answering : AskedOnce ui)
    (taken : DesktopStepTaken ui step ui') : AskedOnce ui' := by
  have hosting := answering.hosting.step _ _ _ taken
  cases desktop_moves taken with
  | requested _ own => exact answering.asks own hosting
  | stopped | boxed | drained | pins_asked => exact answering.same hosting rfl fun _ => rfl
  | @heard message posted first =>
    have before : AskedOnce { ui with posted := posted } :=
      answering.same (answering.hosting.next_message first) rfl fun _ => rfl
    exact before.hears message
  | @applied opening host command commands hosts first =>
    have taken : Hosting none { ui with host := some { host with commands := commands } } :=
      answering.hosting.with_commands hosts rfl rfl
    refine answering.same hosting (Aside.apply _ _ _).requested fun request => ?_
    rw [found_apply taken]
    have queues : sent_ids ui.host = command.on_finish.toList ++
        sent_ids (some { host with commands := commands }) := by
      rw [hosts]
      simp only [sent_ids, Option.toList_some, List.flatMap_cons, List.flatMap_nil, first]
      cases command <;> rfl
    simp only [found_times, answered_ids, owed_ids, lost_ids, queues, List.count_append]
    omega
  | @finished _ boxes handle told =>
    have before : Hosting none { ui with boxes := boxes } := answering.hosting.still rfl rfl rfl
    exact answering.same hosting (Aside.finish _ _ _).requested fun _ =>
      found_finish before handle told
  | pin_closed =>
    exact answering.same hosting (Aside.destroy _ _).requested fun _ =>
      found_destroy answering.hosting.apart _

end AskedOnce

/-! ## What is dropped -/

/-- The requests that returned `Ok`. -/
def promised (requested : List UiRequest) : List Nat :=
  (requested.filter (·.ok)).filterMap (·.command.on_finish)

/-- A request is promised where it returned `Ok`. -/
theorem promised_concat (requested : List UiRequest) (command : UiCommand) (ok : Bool) :
    promised (requested ++ [⟨command, ok⟩]) =
      promised requested ++ if ok then command.on_finish.toList else [] := by
  rw [promised, List.filter_append, List.filterMap_append]
  cases ok with
  | false => rfl
  | true => cases command <;> rfl

/-- No command is posted of after the thread was stopped, and one that was promised waits only
while the thread takes commands or is to. -/
structure PromisesKept (ui : DesktopUi) : Prop where
  in_order : ui.posted.Pairwise fun earlier later => earlier = .HOST_STOP → later ≠ .HOST_COMMANDS
  stop : .HOST_STOP ∈ ui.posted → ui.stopped = true
  waits : ∀ request ∈ sent_ids ui.host, request ∈ promised ui.requested →
    ui.draining = true ∨ .HOST_COMMANDS ∈ ui.posted
  drops : ∀ request ∈ lost_ids ui, request ∉ promised ui.requested

/-- What waits in the channel depends on its commands alone. -/
theorem waiting_of_commands {host host' : Option HostState}
    (commands : host'.map HostState.commands = host.map HostState.commands) :
    sent_ids host' = sent_ids host := by
  cases host with
  | none =>
    cases host' with
    | none => rfl
    | some => cases commands
  | some =>
    cases host' with
    | none => cases commands
    | some =>
      have same := Option.some.inj commands
      simp [sent_ids, same]

/-- What is promised was asked. -/
theorem promised_asked (ui : DesktopUi) {request : Nat} (member : request ∈ promised ui.requested) :
    request ∈ ui.asked := by
  obtain ⟨made, among, is_request⟩ := List.mem_filterMap.mp member
  exact List.mem_filterMap.mpr ⟨made, (List.mem_filter.mp among).1, is_request⟩

/-- What was dropped, or waits, was asked for. -/
theorem AskedOnce.asked_for (answering : AskedOnce ui)
    (member : request ∈ lost_ids ui ∨ request ∈ sent_ids ui.host ∨ request ∈ answered_ids ui) :
    request ∈ ui.asked := by
  have tallied := answering.tallied request
  have some_where : 0 < found_times ui request := by
    rw [found_times]
    rcases member with member | member | member <;>
    · have counted := List.count_pos_iff.mpr member
      omega
  rw [tallied] at some_where
  exact List.count_pos_iff.mp some_where

namespace PromisesKept

/-- The life of windows leaves what waits and what was dropped. -/
theorem aside (covered : PromisesKept ui) (aside : Aside ui ui') : PromisesKept ui' where
  in_order := by rw [aside.posted]; exact covered.in_order
  stop := by rw [aside.posted, aside.stopped]; exact covered.stop
  waits := by
    rw [waiting_of_commands aside.commands, aside.requested, aside.draining, aside.posted]
    exact covered.waits
  drops := by
    rw [lost_ids, aside.unheard, aside.requested]
    exact covered.drops

/-- A request that posts promises what it posts of. -/
theorem asks (covered : PromisesKept ui) (answering : AskedOnce ui) {command : UiCommand}
    {posts : Bool} (running : ui.stopped = false)
    (own : ∀ request ∈ command.on_finish, request ∉ ui.asked) :
    PromisesKept (ui.request command posts) := by
  have no_stop : .HOST_STOP ∉ ui.posted := fun member =>
    Bool.false_ne_true (running.symm.trans (covered.stop member))
  unfold DesktopUi.request
  split
  · rename_i gone
    refine ⟨covered.in_order, covered.stop, ?_, ?_⟩
    · simp only [gone]
      nofun
    · simp only [promised_concat, Bool.false_eq_true, if_false, List.append_nil, lost_ids,
        List.filterMap_append]
      intro request member promise
      rcases List.mem_append.mp member with member | member
      · exact covered.drops request member promise
      · refine own request ?_ (promised_asked ui promise)
        simpa using member
  · rename_i host hosts
    have queues : sent_ids (some { host with commands := host.commands ++ [command] }) =
        sent_ids ui.host ++ command.on_finish.toList := by
      rw [hosts]
      simp only [sent_ids, Option.toList_some, List.flatMap_cons, List.flatMap_nil,
        List.append_nil, List.filterMap_append]
      cases command <;> rfl
    cases posts with
    | true =>
      refine ⟨?_, ?_, ?_, ?_⟩
      · refine List.pairwise_append.mpr ⟨covered.in_order, List.pairwise_singleton _ _, ?_⟩
        rintro earlier member later - rfl
        exact absurd member no_stop
      · intro member
        rcases List.mem_append.mp member with member | member
        · exact covered.stop member
        · cases List.mem_singleton.mp member
      · exact fun _ _ _ => .inr (List.mem_append_right _ List.mem_cons_self)
      · simp only [promised_concat, if_true]
        intro request member promise
        rcases List.mem_append.mp promise with promise | promise
        · exact covered.drops request member promise
        · refine own request ?_ (answering.asked_for (.inl member))
          simpa using promise
    | false =>
      refine ⟨covered.in_order, covered.stop, ?_, ?_⟩
      · simp only [queues, promised_concat, Bool.false_eq_true, if_false, List.append_nil]
        intro request member promise
        rcases List.mem_append.mp member with member | member
        · exact covered.waits request member promise
        · refine absurd (promised_asked ui promise) (own request ?_)
          simpa using member
      · simp only [promised_concat, Bool.false_eq_true, if_false, List.append_nil]
        exact covered.drops

/-- The host takes a message.  As it stops, none of the commands that wait was promised: the thread
takes none, and no message to is behind this one. -/
theorem hears (covered : PromisesKept ui) {message : DesktopMessage} {posted : List DesktopMessage}
    (first : ui.posted = message :: posted) (idle : ui.draining = false) :
    PromisesKept ({ ui with posted := posted }.host_window_proc message) := by
  have in_order := covered.in_order
  rw [first, List.pairwise_cons] at in_order
  have stop (member : .HOST_STOP ∈ posted) : ui.stopped = true :=
    covered.stop (first ▸ List.mem_cons_of_mem message member)
  have waits (other : message ≠ .HOST_COMMANDS) (request : Nat)
      (member : request ∈ sent_ids ui.host) (promise : request ∈ promised ui.requested) :
      .HOST_COMMANDS ∈ posted := by
    rcases covered.waits request member promise with drains | on_way
    · exact absurd (idle.symm.trans drains) Bool.false_ne_true
    · rcases List.mem_cons.mp (first ▸ on_way) with same | on_way
      · exact absurd same.symm other
      · exact on_way
  cases message with
  | HOST_COMMANDS => exact ⟨in_order.2, stop, fun _ _ _ => .inl rfl, covered.drops⟩
  | HOST_CLOSE_PINS =>
    have before : PromisesKept { ui with posted := posted } :=
      ⟨in_order.2, stop, fun request member promise =>
        .inr (waits (by simp) request member promise), covered.drops⟩
    exact before.aside (Aside.close_pins _)
  | HOST_STOP =>
    have none_waits (request : Nat) (member : request ∈ sent_ids ui.host) :
        request ∉ promised ui.requested := by
      intro promise
      exact in_order.1 _ (waits (by simp) request member promise) rfl rfl
    have closed := Aside.stop { ui with posted := posted }
    simp only [DesktopUi.host_window_proc, DesktopUi.destroy_host]
    split
    · rename_i gone
      refine ⟨?_, ?_, ?_, ?_⟩
      · rw [closed.posted]
        exact in_order.2
      · rw [closed.posted, closed.stopped]
        exact stop
      · rw [gone]
        intro request member
        cases member
      · rw [lost_ids, closed.unheard, closed.requested]
        exact covered.drops
    · rename_i host hosts
      refine ⟨List.Pairwise.nil, ?_, ?_, fun request member => ?_⟩
      · intro member
        cases member
      · intro request member
        cases member
      have waited : sent_ids (some host) = sent_ids ui.host := by
        rw [← hosts]
        exact waiting_of_commands closed.commands
      rw [closed.requested]
      rw [lost_ids, closed.unheard, List.filterMap_append] at member
      rcases List.mem_append.mp member with member | member
      · exact covered.drops request member
      · refine none_waits request ?_
        rw [← waited]
        simpa [sent_ids] using member

/-- **One step** keeps the promises too. -/
theorem step (ui : DesktopUi) (step : DesktopStep) (ui' : DesktopUi)
    (both : AskedOnce ui ∧ PromisesKept ui) (taken : DesktopStepTaken ui step ui') :
    AskedOnce ui' ∧ PromisesKept ui' := by
  obtain ⟨answering, covered⟩ := both
  refine ⟨answering.step _ _ _ taken, ?_⟩
  cases desktop_moves taken with
  | requested running own => exact covered.asks answering running own
  | stopped posted_is =>
    rcases posted_is with rfl | ⟨rfl, -⟩
    · exact ⟨covered.in_order, fun _ => rfl, covered.waits, covered.drops⟩
    · refine ⟨?_, fun _ => rfl, fun request member promise => ?_, covered.drops⟩
      · refine List.pairwise_append.mpr ⟨covered.in_order, List.pairwise_singleton _ _, ?_⟩
        rintro earlier - later member -
        rw [List.mem_singleton.mp member]
        nofun
      · exact (covered.waits request member promise).imp_right (List.mem_append_left _)
  | heard first idle => exact covered.hears first idle
  | @applied opening host command commands hosts first drains =>
    have taken_out : PromisesKept { ui with host := some { host with commands := commands } } :=
      ⟨covered.in_order, covered.stop, fun _ _ _ => .inl drains, covered.drops⟩
    exact taken_out.aside (Aside.apply _ _ _)
  | drained hosts empty =>
    refine ⟨covered.in_order, covered.stop, ?_, covered.drops⟩
    have none_waits : sent_ids ui.host = [] := by
      rw [hosts]
      simp [sent_ids, empty]
    rw [none_waits]
    nofun
  | @finished _ boxes =>
    have before : PromisesKept { ui with boxes := boxes } :=
      ⟨covered.in_order, covered.stop, covered.waits, covered.drops⟩
    exact before.aside (Aside.finish _ _ _)
  | boxed => exact ⟨covered.in_order, covered.stop, covered.waits, covered.drops⟩
  | pin_closed => exact covered.aside (Aside.destroy _ _)
  | pins_asked _ posted_is =>
    rcases posted_is with rfl | rfl
    · exact covered
    · refine ⟨?_, fun member => ?_, fun request member promise => ?_, covered.drops⟩
      · refine List.pairwise_append.mpr ⟨covered.in_order, List.pairwise_singleton _ _, ?_⟩
        rintro earlier - later member -
        rw [List.mem_singleton.mp member]
        nofun
      · rcases List.mem_append.mp member with member | member
        · exact covered.stop member
        · cases List.mem_singleton.mp member
      · exact (covered.waits request member promise).imp_right (List.mem_append_left _)

/-- Once the thread has ended, what was promised has been answered once. -/
theorem answers (covered : PromisesKept ui) (answering : AskedOnce ui) (gone : ui.host = none)
    {made : UiRequest} (member : made ∈ ui.requested) (ok : made.ok = true)
    (is_request : request ∈ made.command.on_finish) : (answered_ids ui).count request = 1 := by
  have promise : request ∈ promised ui.requested :=
    List.mem_filterMap.mpr ⟨made, List.mem_filter.mpr ⟨member, ok⟩, is_request⟩
  have tallied := answering.tallied request
  rw [List.count_eq_one_of_mem answering.once (promised_asked ui promise)] at tallied
  have not_dropped := List.count_eq_zero.mpr fun drop => covered.drops request drop promise
  have no_window := (answering.hosting.gone gone).1
  rw [found_times, owed_ids, no_window, gone, not_dropped] at tallied
  simpa [sent_ids] using tallied

end PromisesKept

/-- Nothing was asked as the thread is ready. -/
theorem start_answering : AskedOnce DesktopUi.start ∧ PromisesKept DesktopUi.start :=
  ⟨⟨Hosting.first, List.nodup_nil, fun _ => rfl⟩, ⟨List.Pairwise.nil, nofun, nofun, nofun⟩⟩

/-- **A request is answered exactly once**: in every state of every run what was answered was asked
for, and nothing is answered twice; and once the thread has ended, every edit and review whose
request returned `Ok` has been answered. -/
theorem requests_answered_once (run : DesktopRun steps ui) :
    (ui.answers.map Prod.fst).Nodup ∧
      (∀ answer ∈ ui.answers, answer.1 ∈ ui.asked) ∧
      (ui.host = none → ∀ made ∈ ui.requested, made.ok = true →
        ∀ request ∈ made.command.on_finish, request ∈ ui.answers.map Prod.fst) := by
  obtain ⟨answering, covered⟩ := run.inv PromisesKept.step start_answering
  refine ⟨?_, ?_, ?_⟩
  · refine List.nodup_iff_count_le_one.mpr fun request => ?_
    have tallied := answering.tallied request
    have once := List.nodup_iff_count_le_one.mp answering.once request
    rw [found_times, answered_ids] at tallied
    omega
  · exact fun answer member =>
      answering.asked_for (.inr (.inr (List.mem_map_of_mem member)))
  · intro gone made member ok request is_request
    refine List.count_pos_iff.mp ?_
    rw [← answered_ids, covered.answers answering gone member ok is_request]
    exact Nat.one_pos

/-- Two edits and a review: one edit is cancelled, the other cannot be opened, and the review is
open as the thread stops. -/
def asked_steps : List DesktopStep :=
  [.requests (.Edit 0) true, .requests (.Review 1) true, .requests (.Edit 2) true, .dispatches,
    .applies (.opened 4), .applies (.opened 5), .applies (.failed "no window"),
    .applies (.failed ""), .asks 4, .agrees, .stops true, .dispatches, .applies (.failed ""),
    .dispatches, .applies (.failed ""), .dispatches]

/-- Stopping answers the review that is still open. -/
theorem requests_answered_once_stopped :
    ∃ ui, desktop_session asked_steps = some ui ∧
      ui.answers = [(2, .Edited (.Failed "no window")), (0, .Edited .Cancelled),
        (1, .Reviewed .Closed)] ∧
      (ui.answers.map Prod.fst).Nodup ∧
      (∀ answer ∈ ui.answers, answer.1 ∈ ui.asked) ∧
      (ui.host = none → ∀ made ∈ ui.requested, made.ok = true →
        ∀ request ∈ made.command.on_finish, request ∈ ui.answers.map Prod.fst) := by
  have computed : (desktop_session asked_steps).any (fun ui => decide
      (ui.answers = [(2, .Edited (.Failed "no window")), (0, .Edited .Cancelled),
        (1, .Reviewed .Closed)])) = true := by decide
  obtain ⟨ui, computed, three⟩ := Option.any_eq_true _ _ |>.mp computed
  obtain ⟨steps, run⟩ := desktop_session_runs computed
  exact ⟨ui, computed, of_decide_eq_true three, requests_answered_once run⟩

/-! ## Requests that returned an error -/

/-- How often a request has been answered or is owed an answer by a window. -/
def told_times (ui : DesktopUi) (request : Nat) : Nat :=
  (answered_ids ui).count request + (owed_ids ui).count request

/-- The life of windows neither sends nor drops a command. -/
theorem Aside.told {times : Nat} (aside : Aside ui ui')
    (found : found_times ui' request = found_times ui request + times) :
    told_times ui' request = told_times ui request + times := by
  simp only [found_times, waiting_of_commands aside.commands, lost_ids, aside.unheard] at found
  simp only [told_times]
  omega

/-- Where no request is found once more, none is told once more. -/
theorem Aside.untold (aside : Aside ui ui')
    (found : found_times ui' request = found_times ui request) :
    told_times ui' request = told_times ui request :=
  aside.told (found.trans (Nat.add_zero _).symm)

/-- A message of the host is no request's answer but those the windows owe. -/
theorem told_heard (hosting : Hosting none ui) (message : DesktopMessage) :
    told_times (ui.host_window_proc message) request = told_times ui request := by
  cases message with
  | HOST_COMMANDS => rfl
  | HOST_CLOSE_PINS => exact (Aside.close_pins ui).untold (found_close_pins hosting.apart)
  | HOST_STOP =>
    have editors := hosting.close_pins.1
    have reviews := editors.close_editors.1
    have recording := reviews.close_reviews.1
    have closed := @Aside.untold _ _ request (Aside.stop ui) (by
      rw [found_close_recording recording.apart, found_close_reviews reviews.apart,
        found_close_editors editors.apart, found_close_pins hosting.apart])
    rw [DesktopUi.host_window_proc, ← closed]
    unfold DesktopUi.destroy_host
    split <;> rfl

/-- The thread takes no command that a request sent and returned an error for. -/
def takes_promised (ui : DesktopUi) (step : DesktopStep) : Prop :=
  ∀ opening host command commands, step = .applies opening → ui.host = some host →
    host.commands = command :: commands →
    ∀ request ∈ command.on_finish, request ∈ promised ui.requested

/-- What is answered, or owed by a window, was promised. -/
def OnlyPromised (ui : DesktopUi) : Prop :=
  ∀ request, told_times ui request ≠ 0 → request ∈ promised ui.requested

namespace OnlyPromised

/-- Nothing more is promised, and nothing more is told. -/
theorem same (kept : OnlyPromised ui) (requested : ui'.requested = ui.requested)
    (told : ∀ request, told_times ui' request = told_times ui request) : OnlyPromised ui' := by
  intro request
  rw [told, requested]
  exact kept request

/-- **One step** that takes no command of a request that failed. -/
theorem step (ui : DesktopUi) (step : DesktopStep) (ui' : DesktopUi) (hosting : Hosting none ui)
    (kept : OnlyPromised ui) (takes : takes_promised ui step)
    (taken : DesktopStepTaken ui step ui') : OnlyPromised ui' := by
  cases desktop_moves taken with
  | @requested command posts =>
    intro request told
    have same : told_times (ui.request command posts) request = told_times ui request := by
      unfold DesktopUi.request
      split <;> rfl
    have promise := kept request (same ▸ told)
    unfold DesktopUi.request
    split <;> exact promised_concat ui.requested command _ ▸ List.mem_append_left _ promise
  | stopped | boxed | drained | pins_asked => exact kept.same rfl fun _ => rfl
  | @heard message posted first =>
    refine kept.same ?_ fun _ => told_heard (hosting.next_message first) message
    cases message with
    | HOST_COMMANDS => rfl
    | HOST_CLOSE_PINS => exact (Aside.close_pins _).requested
    | HOST_STOP => exact (destroy_host_requested _).trans (Aside.stop _).requested
  | @applied opening host command commands hosts first =>
    intro request told
    have out : Hosting none { ui with host := some { host with commands := commands } } :=
      hosting.with_commands hosts rfl rfl
    have aside := Aside.apply { ui with host := some { host with commands } } opening command
    rw [aside.told (found_apply out opening command)] at told
    rw [aside.requested]
    by_cases own : command.on_finish = some request
    · exact takes opening host command commands rfl hosts first request own
    · refine kept request fun untold => told ?_
      rw [List.count_eq_zero.mpr fun member => own (by simpa using member)]
      exact untold
  | @finished _ boxes handle told =>
    have before : Hosting none { ui with boxes := boxes } := hosting.still rfl rfl rfl
    exact kept.same (Aside.finish _ _ _).requested fun _ =>
      (Aside.finish _ _ _).untold (found_finish before handle told)
  | pin_closed =>
    exact kept.same (Aside.destroy _ _).requested fun _ =>
      (Aside.destroy _ _).untold (found_destroy hosting.apart _)

end OnlyPromised

/-- A request that returned an error is none that returned `Ok`. -/
theorem AskedOnce.not_promised (answering : AskedOnce ui) {made : UiRequest}
    (member : made ∈ ui.requested) (failed : made.ok = false)
    (is_request : request ∈ made.command.on_finish) : request ∉ promised ui.requested := by
  have parts := (List.filter_append_perm (·.ok) ui.requested).filterMap (·.command.on_finish)
  rw [List.filterMap_append] at parts
  have apart := List.disjoint_of_nodup_append (parts.nodup_iff.mpr answering.once)
  refine fun promise => apart promise ?_
  exact List.mem_filterMap.mpr
    ⟨made, List.mem_filter.mpr ⟨member, by simp [failed]⟩, is_request⟩

/-- What a request of a window relies on: each that returned `Ok` is answered once by the time the
thread has ended, each that returned an error never, and the host's lists are the windows that
live. -/
structure RequestsKept (ui : DesktopUi) : Prop where
  promised : ui.host = none → ∀ made ∈ ui.requested, made.ok = true →
    ∀ request ∈ made.command.on_finish, (ui.answers.map Prod.fst).count request = 1
  failed : ∀ made ∈ ui.requested, made.ok = false →
    ∀ request ∈ made.command.on_finish, request ∉ ui.answers.map Prod.fst
  apart : ui.handles.Nodup
  lists : ∀ host, ui.host = some host →
    host.pins = handles_of .Pin ui.windows ∧ host.editors = handles_of .Editor ui.windows ∧
      host.reviews = handles_of .Review ui.windows ∧
      host.recording.toList = handles_of .Recording ui.windows
  gone : ui.host = none → ui.windows = []

/-- **Each request is answered as its caller was told**, in every state of every run in which the
thread takes no command of a request that returned an error.
SRC: desktop_ui.rs:124-205, 432-616; editor.rs:880-893; review.rs:528-550 -/
theorem requests_kept (run : DesktopRun steps ui)
    (takes : ∀ t ∈ steps, takes_promised t.before t.event) : RequestsKept ui := by
  have kept : (AskedOnce ui ∧ PromisesKept ui) ∧ OnlyPromised ui := by
    refine run.inv_of_meets (P := fun ui => (AskedOnce ui ∧ PromisesKept ui) ∧ OnlyPromised ui) ?_
      ⟨start_answering, fun _ told => absurd rfl told⟩ takes
    intro ui step ui' kept takes taken
    exact ⟨PromisesKept.step _ _ _ kept.1 taken, kept.2.step _ _ _ kept.1.1.hosting takes taken⟩
  obtain ⟨⟨answering, covered⟩, only⟩ := kept
  refine ⟨?_, ?_, answering.hosting.apart, answering.hosting.live,
    fun gone => (answering.hosting.gone gone).1⟩
  · exact fun gone made member ok request is_request =>
      covered.answers answering gone member ok is_request
  · intro made member failed request is_request answered
    refine answering.not_promised member failed is_request (only request fun untold => ?_)
    have counted := List.count_pos_iff.mpr answered
    simp only [told_times, answered_ids] at untold
    omega

/-- An edit is cancelled, and another is asked for whose post fails, before the thread stops. -/
def refused_steps : List DesktopStep :=
  [.requests (.Edit 0) true, .dispatches, .applies (.opened 4), .applies (.failed ""),
    .requests (.Edit 1) false, .asks 4, .agrees, .stops true, .dispatches]

/-- A step takes what was promised. -/
def takes_promise (ui : DesktopUi) : DesktopStep → Bool
  | .applies _ =>
    (sent_ids (ui.host.map fun host => { host with commands := host.commands.take 1 })).all
      (· ∈ promised ui.requested)
  | _ => true

/-- The first is answered, and the second is not. -/
theorem requests_kept_refused :
    ∃ steps ui, DesktopRun steps ui ∧ steps.map Taken.event = refused_steps ∧ ui.host = none ∧
      ui.requested = [⟨.Edit 0, true⟩, ⟨.Edit 1, false⟩] ∧ RequestsKept ui := by
  have computed : (refused_steps.foldlM
      (fun ui step => if takes_promise ui step then ui.next step else none) .start).any (fun ui =>
        decide (ui.host = none ∧ ui.requested = [⟨.Edit 0, true⟩, ⟨.Edit 1, false⟩])) = true := by
    decide
  obtain ⟨ui, computed, ended⟩ := (Option.any_eq_true _ _).mp computed
  obtain ⟨gone, requested⟩ := of_decide_eq_true ended
  obtain ⟨steps, same, run, passes⟩ := @Run.of_foldlM_checked _ _ DesktopStepTaken _ _
    DesktopUi.next takes_promise (fun _ _ _ taken => taken) _ computed
  refine ⟨steps, ui, run, same, gone, requested, requests_kept run fun t member => ?_⟩
  intro opening host command commands applies hosts first request is_request
  have promise := passes t member
  simp only [takes_promise, applies] at promise
  simpa [sent_ids, hosts, first, Option.mem_def.mp is_request] using promise

/-- The thread takes the command of a request whose post failed along with an earlier one, and
answers what returned an error. -/
theorem failed_request_answered :
    ∃ steps ui, DesktopRun steps ui ∧
      steps.map Taken.event = [.requests .Pin true, .requests (.Edit 0) false, .dispatches,
        .applies (.failed ""), .applies (.failed "no window")] ∧
      ui.answers = [(0, .Edited (.Failed "no window"))] ∧ ¬ RequestsKept ui := by
  have computed : (List.foldlM DesktopUi.next .start [.requests .Pin true,
      .requests (.Edit 0) false, .dispatches, .applies (.failed ""),
      .applies (.failed "no window")]).any (fun ui => decide (⟨.Edit 0, false⟩ ∈ ui.requested ∧
        ui.answers = [(0, .Edited (.Failed "no window"))])) = true := by decide
  obtain ⟨ui, computed, ended⟩ := (Option.any_eq_true _ _).mp computed
  obtain ⟨made, answers⟩ := of_decide_eq_true ended
  obtain ⟨steps, same, run⟩ := @Run.of_foldlM _ _ DesktopStepTaken _ _ DesktopUi.next
    (fun _ _ _ taken => taken) _ computed
  refine ⟨steps, ui, run, same, answers, fun kept => ?_⟩
  exact kept.failed _ made rfl 0 rfl (by rw [answers]; exact List.mem_cons_self)

end Captastic.Analysis
