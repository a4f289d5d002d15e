import Captastic.Library.Runs
import Captastic.Model.ReviewDrafts

/-!
# What a step with drafts can do

One constructor for each thing a thread can do with a draft (`HandMoves`), a thread that encodes an
edit (`SaverMoves`), exit (`ExitMoves`), and all of them together (`DraftMoves`), with the condition
under which it is done.  The threads of the recordings and the desktop UI thread are taken as one
list of hands, the desktop UI thread's first.
-/

set_option autoImplicit false

namespace Captastic.Analysis

open Captastic.Library Captastic.Model

/-! ## A thread with a draft -/

/-- What a thread does with a draft. -/
inductive HandMoves (s : DraftShared) : Hand → DraftShared → Hand → Prop
  | exiting (draft : Draft) (exiting : s.exiting = true) :
      HandMoves s (.finished draft) s (.saves draft none)
  | reviewed (draft : Draft) : HandMoves s (.finished draft) s (.queues draft)
  | waits (draft : Draft) (is_open : s.is_open = true) :
      HandMoves s (.queues draft) { s with waiting := s.waiting ++ [draft] } .idle
  | first (draft : Draft) (closed : s.is_open = false) :
      HandMoves s (.queues draft) { s with is_open := true } (.opens draft)
  | asks (draft : Draft) (free : s.ui_locked = false) (started : s.ui_started = true) :
      HandMoves s (.opens draft)
        { s with ui_locked := true, requests := s.requests ++ [⟨some draft, .fresh⟩] }
        (.requests s.requests.length)
  | alone (draft : Draft) (free : s.ui_locked = false) (absent : s.ui_started = false) :
      HandMoves s (.opens draft) s (.concludes draft .Closed)
  | sends (request : Nat) (held : ReviewRequest) (found : s.requests[request]? = some held)
      (receiving : s.receiving = true) :
      HandMoves s (.requests request)
        { s.with_request request { held with place := .sent } with
          channel := s.channel ++ [request] } (.posts request)
  | unsent (request : Nat) (held : ReviewRequest) (found : s.requests[request]? = some held)
      (dropped : s.receiving = false) :
      HandMoves s (.requests request)
        { s.with_request request { held with place := .dropped } with ui_locked := false }
        (.withdraws request)
  | posts (request : Nat) (receiving : s.receiving = true) :
      HandMoves s (.posts request)
        { s with messages := s.messages ++ [.commands], ui_locked := false } .idle
  | unposted (request : Nat) :
      HandMoves s (.posts request) { s with ui_locked := false } (.withdraws request)
  | withdraws (request : Nat) (draft : Draft) (place : RequestPlace)
      (found : s.requests[request]? = some ⟨some draft, place⟩) :
      HandMoves s (.withdraws request) (s.with_request request ⟨none, place⟩)
        (.concludes draft .Closed)
  | answered (request : Nat) (place : RequestPlace)
      (found : s.requests[request]? = some ⟨none, place⟩) :
      HandMoves s (.withdraws request) s .idle
  | spawns (draft : Draft) (outcome : ReviewOutcome) (edit : RecordingEdit)
      (shutting_down : Bool) :
      HandMoves s (.concludes draft outcome)
        { s with savers := s.savers ++ [⟨some draft, edit, .reads⟩] }
        (.keeps s.savers.length shutting_down)
  | unspawned (draft : Draft) (outcome : ReviewOutcome) (shutting_down : Bool) :
      HandMoves s (.concludes draft outcome) s (.edit_fails draft shutting_down)
  | unchanged (draft : Draft) (outcome : ReviewOutcome) (shutting_down : Bool) :
      HandMoves s (.concludes draft outcome) s (.saves draft (some shutting_down))
  | discards (draft : Draft) (outcome : ReviewOutcome) (shutting_down : Bool) :
      HandMoves s (.concludes draft outcome) (s.ends draft .Discarded) (.passes_on shutting_down)
  | keeps (saver : Nat) (shutting_down : Bool) :
      HandMoves s (.keeps saver shutting_down)
        { s with kept_savers := s.kept_savers.filter (fun k => !s.saver_ended k) ++ [saver] }
        (.passes_on shutting_down)
  | saves_last (draft : Draft) (what : DraftEnd) :
      HandMoves s (.saves draft none) (s.ends draft what) .idle
  | saves (draft : Draft) (shutting_down : Bool) (what : DraftEnd) :
      HandMoves s (.saves draft (some shutting_down)) (s.ends draft what)
        (.passes_on shutting_down)
  | edit_fails (draft : Draft) (shutting_down : Bool) (what : DraftEnd) :
      HandMoves s (.edit_fails draft shutting_down) (s.ends draft what) (.passes_on shutting_down)
  | concludes_next (draft : Draft) (waiting : List Draft) (queued : s.waiting = draft :: waiting) :
      HandMoves s (.passes_on true) { s with waiting, is_open := true } (.concludes draft .Closed)
  | opens_next (draft : Draft) (waiting : List Draft) (queued : s.waiting = draft :: waiting) :
      HandMoves s (.passes_on false) { s with waiting, is_open := true } (.opens draft)
  | last (shutting_down : Bool) (empty : s.waiting = []) :
      HandMoves s (.passes_on shutting_down) { s with is_open := false } .idle

/-- What a thread's step does to its hand and to the shared state. -/
theorem hand_moves {s shared : DraftShared} {hand hand' : Hand} {ok : Bool}
    (taken : hand.step s ok = some (shared, hand')) : HandMoves s hand shared hand' := by
  cases hand with
  | idle => cases taken
  | records => cases taken
  | finished draft =>
    simp only [Hand.step] at taken
    split at taken
    · rename_i exiting
      cases taken
      exact .exiting draft exiting
    · cases taken
      exact .reviewed draft
  | queues draft =>
    simp only [Hand.step] at taken
    split at taken
    · rename_i is_open
      cases taken
      exact .waits draft is_open
    · rename_i closed
      cases taken
      exact .first draft (Bool.eq_false_iff.mpr closed)
  | opens draft =>
    simp only [Hand.step] at taken
    split at taken
    · cases taken
    · rename_i free
      split at taken
      · rename_i started
        cases taken
        exact .asks draft (Bool.eq_false_iff.mpr free) started
      · rename_i absent
        cases taken
        exact .alone draft (Bool.eq_false_iff.mpr free) (Bool.eq_false_iff.mpr absent)
  | requests request =>
    simp only [Hand.step] at taken
    split at taken
    · rename_i held found
      split at taken
      · rename_i receiving
        cases taken
        exact .sends request held found receiving
      · rename_i dropped
        cases taken
        exact .unsent request held found (Bool.eq_false_iff.mpr dropped)
    · cases taken
  | posts request =>
    simp only [Hand.step] at taken
    split at taken
    · rename_i posted
      cases taken
      exact .posts request posted.2
    · cases taken
      exact .unposted request
  | withdraws request =>
    simp only [Hand.step] at taken
    split at taken
    · rename_i draft place found
      cases taken
      exact .withdraws request draft place found
    · rename_i place found
      cases taken
      exact .answered request place found
    · cases taken
  | concludes draft outcome =>
    simp only [Hand.step] at taken
    split at taken
    · split at taken
      · cases taken
        exact .spawns draft outcome _ _
      · cases taken
        exact .unspawned draft outcome _
    · cases taken
      exact .unchanged draft outcome _
    · cases taken
      exact .discards draft outcome _
  | keeps saver shutting_down =>
    cases taken
    exact .keeps saver shutting_down
  | saves draft shutting_down =>
    cases taken
    cases shutting_down with
    | none => exact .saves_last draft _
    | some shutting_down => exact .saves draft shutting_down _
  | edit_fails draft shutting_down =>
    cases taken
    exact .edit_fails draft shutting_down _
  | passes_on shutting_down =>
    simp only [Hand.step] at taken
    split at taken
    · rename_i next waiting queued
      cases shutting_down with
      | true =>
        cases taken
        exact .concludes_next next waiting queued
      | false =>
        cases taken
        exact .opens_next next waiting queued
    · rename_i empty
      cases taken
      exact .last shutting_down empty

/-! ## A thread that encodes an edit -/

/-- What a saver's thread does: it goes on with what it has not taken, takes the draft, goes on to
save it as recorded, or ends it; or its encoding panics. -/
inductive SaverMoves (s : DraftShared) (saver : Nat) (held : Saver) : DraftShared → Prop
  | reads (draft : Draft) (untaken : held.unsaved = some draft) (before : held.stage = .reads) :
      SaverMoves s saver held (s.with_saver saver { held with stage := .encodes })
  | encodes (ok : Bool) (before : held.stage = .encodes) :
      SaverMoves s saver held (s.with_saver saver { held with stage := .takes ok })
  | leaves (untaken : held.unsaved = none)
      (before : held.stage = .reads ∨ ∃ encoded, held.stage = .takes encoded) :
      SaverMoves s saver held (s.with_saver saver { held with stage := .ended })
  | takes (draft : Draft) (encoded : Bool) (untaken : held.unsaved = some draft)
      (before : held.stage = .takes encoded) :
      SaverMoves s saver held
        (s.with_saver saver { held with unsaved := none, stage := .writes draft encoded })
  | fails (draft : Draft) (before : held.stage = .writes draft true) :
      SaverMoves s saver held (s.with_saver saver { held with stage := .writes draft false })
  | ends (draft : Draft) (edited : Bool) (what : DraftEnd)
      (before : held.stage = .writes draft edited) :
      SaverMoves s saver held
        ((s.with_saver saver { held with stage := .ended }).ends draft what)

/-- What a saver's step does. -/
theorem saver_moves {s shared : DraftShared} {saver : Nat} {ok : Bool}
    (taken : Saver.step s saver ok = some shared) :
    ∃ held, s.savers[saver]? = some held ∧ SaverMoves s saver held shared := by
  unfold Saver.step at taken
  split at taken
  · cases taken
  · rename_i held found
    refine ⟨held, found, ?_⟩
    split at taken
    · rename_i before
      cases untaken : held.unsaved with
      | some draft =>
        have stage : (if held.unsaved.isSome then SaverStage.encodes else .ended) = .encodes := by
          rw [untaken]
          rfl
        rw [stage] at taken
        cases taken
        exact .reads draft untaken before
      | none =>
        have stage : (if held.unsaved.isSome then SaverStage.encodes else .ended) = .ended := by
          rw [untaken]
          rfl
        rw [stage] at taken
        cases taken
        exact .leaves untaken (.inl before)
    · rename_i before
      cases taken
      exact .encodes ok before
    · rename_i encoded before
      split at taken
      · rename_i draft untaken
        cases taken
        exact .takes draft encoded untaken before
      · rename_i untaken
        cases taken
        exact .leaves untaken (.inr ⟨encoded, before⟩)
    · rename_i draft edited before
      split at taken
      · rename_i was_edited
        subst was_edited
        split at taken
        · cases taken
          exact .ends draft true _ before
        · cases taken
          exact .fails draft before
      · cases taken
        exact .ends draft edited _ before
    · cases taken

/-! ## Exit -/

/-- What exit does. -/
inductive ExitMoves (s : DraftHost) (late : Bool) : DraftHost → Prop
  | told (stage : s.exit = .running) :
      ExitMoves s late { s with exit := .told, shared := { s.shared with exiting := true } }
  | joins (recorder : Nat) (stage : s.exit = .told) (stored : s.join = some recorder) :
      ExitMoves s late { s with exit := .joins recorder, join := none }
  | joins_none (stage : s.exit = .told) (missing : s.join = none) :
      ExitMoves s late { s with exit := .takes_savers }
  | joined (recorder : Nat) (stage : s.exit = .joins recorder)
      (ended : s.recorder_ended recorder = true) :
      ExitMoves s late { s with exit := .takes_savers }
  | overrun (recorder : Nat) (stage : s.exit = .joins recorder) (passed : late = true)
      (runs : s.recorder_ended recorder = false) : ExitMoves s late { s with exit := .takes_ui }
  | takes_savers (stage : s.exit = .takes_savers) :
      ExitMoves s late { s with
        exit := .joins_savers s.shared.kept_savers
        shared := { s.shared with kept_savers := [] } }
  | savers_joined (stage : s.exit = .joins_savers []) :
      ExitMoves s late { s with exit := .takes_ui }
  | saver_joined (saver : Nat) (savers : List Nat)
      (stage : s.exit = .joins_savers (saver :: savers)) (ended : s.shared.saver_ended saver = true) :
      ExitMoves s late { s with exit := .joins_savers savers }
  | saver_overrun (saver : Nat) (savers : List Nat) (held : Saver) (draft : Draft)
      (stage : s.exit = .joins_savers (saver :: savers)) (passed : late = true)
      (runs : s.shared.saver_ended saver = false) (found : s.shared.savers[saver]? = some held)
      (untaken : held.unsaved = some draft) :
      ExitMoves s late { s with
        exit := .saves draft savers
        shared := s.shared.with_saver saver { held with unsaved := none } }
  | saver_left (saver : Nat) (savers : List Nat) (stage : s.exit = .joins_savers (saver :: savers))
      (passed : late = true) (runs : s.shared.saver_ended saver = false)
      (taken : ∀ held, s.shared.savers[saver]? = some held → held.unsaved = none) :
      ExitMoves s late { s with exit := .joins_savers savers }
  | saves (draft : Draft) (savers : List Nat) (what : DraftEnd)
      (stage : s.exit = .saves draft savers) :
      ExitMoves s late { s with
        exit := .joins_savers savers, shared := s.shared.ends draft what }
  | takes_ui (stage : s.exit = .takes_ui) (free : s.shared.ui_locked = false)
      (started : s.shared.ui_started = true) :
      ExitMoves s late { s with
        exit := .joins_ui
        shared := { s.shared with
          ui_started := false
          ui_locked := true
          messages := if s.shared.receiving then s.shared.messages ++ [.stop]
            else s.shared.messages } }
  | takes_no_ui (stage : s.exit = .takes_ui) (absent : s.shared.ui_started = false) :
      ExitMoves s late { s with exit := .leaves }
  | ui_joined (stage : s.exit = .joins_ui) (ended : s.ui = .ended) :
      ExitMoves s late { s with exit := .leaves, shared := { s.shared with ui_locked := false } }
  | ui_overrun (stage : s.exit = .joins_ui) (passed : late = true) (runs : s.ui ≠ .ended) :
      ExitMoves s late { s with exit := .leaves, shared := { s.shared with ui_locked := false } }
  | again (passes : Nat) (stage : s.exit = .leaves) (more : s.passes = passes + 1) :
      ExitMoves s late { s with exit := .told, passes }
  | goes (stage : s.exit = .leaves) (last : s.passes = 0) :
      ExitMoves s late { s with exit := .gone }

/-- What a step of the exit does. -/
theorem exit_moves {s s' : DraftHost} {late ok : Bool} (taken : s.exit_step late ok = some s') :
    ExitMoves s late s' := by
  unfold DraftHost.exit_step at taken
  split at taken
  · rename_i stage
    cases taken
    exact .told stage
  · rename_i stage
    split at taken
    · rename_i recorder stored
      cases taken
      exact .joins recorder stage stored
    · rename_i missing
      cases taken
      exact .joins_none stage missing
  · rename_i recorder stage
    split at taken
    · rename_i ended
      cases taken
      exact .joined recorder stage ended
    · rename_i runs
      split at taken
      · rename_i passed
        cases taken
        exact .overrun recorder stage passed (Bool.eq_false_iff.mpr runs)
      · cases taken
  · rename_i stage
    cases taken
    exact .takes_savers stage
  · rename_i stage
    cases taken
    exact .savers_joined stage
  · rename_i saver savers stage
    split at taken
    · rename_i ended
      cases taken
      exact .saver_joined saver savers stage ended
    · rename_i runs
      split at taken
      · rename_i passed
        split at taken
        · rename_i draft edit saver_stage found
          cases taken
          exact .saver_overrun saver savers _ draft stage passed (Bool.eq_false_iff.mpr runs) found
            rfl
        · rename_i missing
          cases taken
          refine .saver_left saver savers stage passed (Bool.eq_false_iff.mpr runs) ?_
          intro held found
          cases untaken : held.unsaved with
          | none => rfl
          | some draft => exact absurd (found.trans (by rw [← untaken])) (missing draft _ _)
      · cases taken
  · rename_i draft savers stage
    cases taken
    exact .saves draft savers _ stage
  · rename_i stage
    split at taken
    · cases taken
    · rename_i free
      split at taken
      · rename_i started
        cases taken
        exact .takes_ui stage (Bool.eq_false_iff.mpr free) started
      · rename_i absent
        cases taken
        exact .takes_no_ui stage (Bool.eq_false_iff.mpr absent)
  · rename_i stage
    split at taken
    · rename_i waited
      cases taken
      by_cases ended : s.ui = .ended
      · exact .ui_joined stage ended
      · exact .ui_overrun stage (waited.resolve_left ended) ended
    · cases taken
  · rename_i stage
    split at taken
    · rename_i passes more
      cases taken
      exact .again passes stage more
    · rename_i last
      cases taken
      exact .goes stage last
  · cases taken

/-! ## All together -/

/-- The threads that may have a draft in hand: the desktop UI thread and those of the recordings. -/
def hands (s : DraftHost) : List Hand := s.ui_hand :: s.recorders

/-- One of these threads goes on. -/
def with_hand (s : DraftHost) (thread : Nat) (shared : DraftShared) (hand : Hand) : DraftHost :=
  match thread with
  | 0 => { s with shared, ui_hand := hand }
  | recorder + 1 => { s with shared, recorders := s.recorders.set recorder hand }

/-- What the desktop UI thread does next where it calls an answer: it drains its channel, pumps
messages, or closes reviews. -/
inductive Calls (s : DraftHost) : Nat → List Nat → UiStage → List Nat → Prop
  | drains (request : Nat) (channel : List Nat) (stage : s.ui = .drains)
      (queued : s.shared.channel = request :: channel) :
      Calls s request channel .drains s.shown
  | pumps (request : Nat) (stage : s.ui = .pumps) (shown : request ∈ s.shown) :
      Calls s request s.shared.channel .pumps (s.shown.erase request)
  | closes (request : Nat) (reviews : List Nat) (stage : s.ui = .closes (request :: reviews)) :
      Calls s request s.shared.channel (.closes reviews) s.shown

/-- A step of the recordings, their threads, the desktop UI thread, the savers or exit. -/
inductive DraftMoves (s : DraftHost) : DraftEvent → DraftHost → Prop
  | hand (event : DraftEvent) (thread : Nat) (hand hand' : Hand) (shared : DraftShared)
      (found : (hands s)[thread]? = some hand) (moves : HandMoves s.shared hand shared hand')
      (threads : (∃ recorder ok, event = .recorder recorder ok) ∨ ∃ ok, event = .ui ok) :
      DraftMoves s event (with_hand s thread shared hand')
  | refused (active : s.active = true) : DraftMoves s .starts_recording s
  | starts (quiet : s.active = false) (stored : s.starting = none) :
      DraftMoves s .starts_recording { s with
        active := true
        starting := some s.recorders.length
        recorders := s.recorders ++ [.records] }
  | stores (recorder : Nat) (started : s.starting = some recorder) :
      DraftMoves s .stores_join { s with starting := none, join := some recorder }
  | ends (recorder : Nat) (draft : Option Draft) (found : s.recorders[recorder]? = some .records) :
      DraftMoves s (.ends_recording recorder draft) { s with
        active := false
        recorders := s.recorders.set recorder (draft.elim .idle .finished)
        recorded := s.recorded ++ draft.toList }
  | starts_ui (absent : s.ui = .absent) :
      DraftMoves s .starts_ui { s with
        ui := .pumps, shared := { s.shared with ui_started := true, receiving := true } }
  | asks_ui (started : s.shared.ui_started = true) :
      DraftMoves s .asks_ui
        { s with shared := { s.shared with messages := s.shared.messages ++ [.commands] } }
  | drains (messages : List HostMessage) (stage : s.ui = .pumps) (idle : s.ui_hand = .idle)
      (posted : s.shared.messages = .commands :: messages) :
      DraftMoves s .ui_receives { s with ui := .drains, shared := { s.shared with messages } }
  | stops (messages : List HostMessage) (stage : s.ui = .pumps) (idle : s.ui_hand = .idle)
      (posted : s.shared.messages = .stop :: messages) :
      DraftMoves s .ui_receives
        { s with ui := .closes s.shown, shown := [], shared := { s.shared with messages } }
  | shows (request : Nat) (channel : List Nat) (held : ReviewRequest) (stage : s.ui = .drains)
      (idle : s.ui_hand = .idle) (queued : s.shared.channel = request :: channel)
      (found : s.shared.requests[request]? = some held) :
      DraftMoves s (.ui_takes true) { s with
        shown := s.shown ++ [request]
        shared := { s.shared with channel }.with_request request { held with place := .shown } }
  | drained (opened : Bool) (stage : s.ui = .drains) (idle : s.ui_hand = .idle)
      (empty : s.shared.channel = []) : DraftMoves s (.ui_takes opened) { s with ui := .pumps }
  | calls (event : DraftEvent) (request : Nat) (outcome : ReviewOutcome) (channel : List Nat)
      (ui : UiStage) (shown : List Nat) (idle : s.ui_hand = .idle)
      (calls : Calls s request channel ui shown)
      (threads : (∃ saved, event = .ui_answers request saved) ∨ event = .ui_takes false ∨
        event = .ui_closes) :
      DraftMoves s event
        ({ s with shared := { s.shared with channel } }.ui_calls request outcome ui shown)
  | destroyed (stage : s.ui = .closes []) (idle : s.ui_hand = .idle) :
      DraftMoves s .ui_closes s.host_destroyed
  | saver (saver : Nat) (ok : Bool) (held : Saver) (shared : DraftShared)
      (found : s.shared.savers[saver]? = some held)
      (moves : SaverMoves s.shared saver held shared) :
      DraftMoves s (.saver saver ok) { s with shared }
  | panics (saver : Nat) (held : Saver) (found : s.shared.savers[saver]? = some held)
      (before : held.stage = .encodes) :
      DraftMoves s (.saver_panics saver)
        { s with shared := s.shared.with_saver saver { held with stage := .ended } }
  | exit (late ok : Bool) (s' : DraftHost) (moves : ExitMoves s late s') :
      DraftMoves s (.exit late ok) s'

/-- What each step of the host does; after the exit there is none. -/
theorem draft_moves {s s' : DraftHost} {event : DraftEvent} (taken : s.step event = some s') :
    s.exit ≠ .gone ∧ DraftMoves s event s' := by
  unfold DraftHost.step at taken
  split at taken
  · cases taken
  · rename_i running
    refine ⟨running, ?_⟩
    cases event with
    | starts_recording =>
      dsimp only at taken
      split at taken
      · cases taken
      · rename_i stored
        split at taken
        · rename_i active
          cases taken
          exact .refused active
        · rename_i quiet
          cases taken
          exact .starts (Bool.eq_false_iff.mpr quiet) (by simpa using stored)
    | stores_join =>
      dsimp only at taken
      split at taken
      · rename_i recorder started
        cases taken
        exact .stores recorder started
      · cases taken
    | ends_recording recorder draft =>
      dsimp only at taken
      split at taken
      · rename_i found
        cases taken
        exact .ends recorder draft found
      · cases taken
    | recorder recorder ok =>
      dsimp only at taken
      split at taken
      · rename_i hand found
        rw [Option.map_eq_some_iff] at taken
        obtain ⟨⟨shared, hand'⟩, moved, rfl⟩ := taken
        exact .hand _ (recorder + 1) hand hand' shared found (hand_moves moved)
          (.inl ⟨recorder, ok, rfl⟩)
      · cases taken
    | starts_ui =>
      dsimp only at taken
      split at taken
      · rename_i absent
        cases taken
        exact .starts_ui absent.1
      · cases taken
    | asks_ui =>
      dsimp only at taken
      split at taken
      · rename_i asked
        cases taken
        exact .asks_ui asked.1
      · cases taken
    | ui_receives =>
      dsimp only at taken
      split at taken
      · rename_i messages stage idle posted
        cases taken
        exact .drains messages stage idle posted
      · rename_i messages stage idle posted
        cases taken
        exact .stops messages stage idle posted
      · cases taken
    | ui_takes opened =>
      dsimp only at taken
      split at taken
      · rename_i request channel stage idle queued
        cases opened with
        | true =>
          simp only [if_true] at taken
          split at taken
          · rename_i held found
            cases taken
            exact .shows request channel held stage idle queued found
          · cases taken
        | false =>
          cases taken
          exact .calls _ request (.Failed "") channel .drains s.shown idle
            (.drains request channel stage queued) (.inr (.inl rfl))
      · rename_i stage idle empty
        cases taken
        exact .drained opened stage idle empty
      · cases taken
    | ui_answers request saved =>
      dsimp only at taken
      split at taken
      · rename_i answered
        cases taken
        exact .calls _ request _ s.shared.channel .pumps _ answered.2.1
          (.pumps request answered.1 answered.2.2) (.inl ⟨saved, rfl⟩)
      · cases taken
    | ui_closes =>
      dsimp only at taken
      split at taken
      · rename_i request reviews stage idle
        cases taken
        exact .calls _ request .Closed s.shared.channel _ s.shown idle
          (.closes request reviews stage) (.inr (.inr rfl))
      · rename_i stage idle
        cases taken
        exact .destroyed stage idle
      · cases taken
    | ui ok =>
      dsimp only at taken
      rw [Option.map_eq_some_iff] at taken
      obtain ⟨⟨shared, hand'⟩, moved, rfl⟩ := taken
      exact .hand _ 0 s.ui_hand hand' shared rfl (hand_moves moved) (.inr ⟨ok, rfl⟩)
    | saver saver ok =>
      dsimp only at taken
      rw [Option.map_eq_some_iff] at taken
      obtain ⟨shared, moved, rfl⟩ := taken
      obtain ⟨held, found, moves⟩ := saver_moves moved
      exact .saver saver ok held shared found moves
    | saver_panics saver =>
      dsimp only at taken
      rw [Option.map_eq_some_iff] at taken
      obtain ⟨shared, moved, rfl⟩ := taken
      unfold Saver.panic at moved
      split at moved
      · rename_i unsaved edit found
        cases moved
        exact .panics saver _ found rfl
      · cases moved
    | exit late ok => exact .exit late ok s' (exit_moves taken)

/-- The steps of everything that has to do with drafts. -/
def DraftStep (s : DraftHost) (event : DraftEvent) (s' : DraftHost) : Prop :=
  s.step event = some s'

end Captastic.Analysis
