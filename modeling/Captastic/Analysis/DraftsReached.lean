import Captastic.Analysis.DraftsKept

/-!
# Every draft is within reach

A request that still has its draft is never left where nobody would look: a thread is sending it or
takes its draft back, it is in the channel while a message says so or the desktop UI thread drains
it, or its window is open or about to be closed (`InReach`).  So as long as a draft has not ended
some thread can go on with it, or a review waits for its answer, and these steps come to an end
(`drafts_go_on`).  There is one exception: exit holds the lock of the desktop UI thread while it
waits for that thread, which may want the lock to open the next review.
-/

set_option autoImplicit false

namespace Captastic.Analysis

open Captastic.Library Captastic.Model

/-! ## The desktop UI thread and its lock -/

/-- Whether a thread holds the lock. -/
def locks : Hand → Nat
  | .requests _ => 1
  | .posts _ => 1
  | _ => 0

/-- The window of the host is there. -/
def window_lives : UiStage → Bool
  | .pumps => true
  | .drains => true
  | .closes _ => true
  | _ => false

/-- The host has not been told to stop. -/
def window_serves : UiStage → Bool
  | .pumps => true
  | .drains => true
  | _ => false

/-- A host that has not been told to stop has its window. -/
theorem lives_of_serves {ui : UiStage} (serves : window_serves ui = true) :
    window_lives ui = true := by
  cases ui with
  | absent => cases serves
  | ended => cases serves
  | _ => rfl

/-- The reviews that are being closed. -/
def closing : UiStage → List Nat
  | .closes reviews => reviews
  | _ => []

/-- Who holds the lock, and what the host is like. -/
structure HostOk (s : DraftHost) : Prop where
  lock : s.shared.ui_locked.toNat =
    tally locks (hands s) + (decide (s.exit = .joins_ui)).toNat
  holder : 0 < tally locks (hands s) → s.shared.ui_started = true
  started : s.shared.ui_started = true → window_serves s.ui = true ∧ .stop ∉ s.shared.messages
  receiving : s.shared.receiving = window_lives s.ui
  dropped : s.shared.receiving = false → s.shared.channel = [] ∧ s.shared.messages = []
  shown : s.shown ≠ [] → window_serves s.ui = true
  no_record : s.ui_hand ≠ .records
  ended : window_lives s.ui = false → s.ui_hand = .idle

section Hands

variable {s shared : DraftShared} {hand hand' : Hand}

/-- A thread takes the lock, keeps it, or gives it up. -/
theorem hand_locks (moves : HandMoves s hand shared hand') (held : locks hand ≤ s.ui_locked.toNat) :
    shared.ui_locked.toNat + locks hand = s.ui_locked.toNat + locks hand' ∧
      (0 < locks hand' → 0 < locks hand ∨ s.ui_started = true) ∧
      shared.ui_started = s.ui_started ∧ shared.receiving = s.receiving := by
  cases moves with
  | asks draft free started =>
    refine ⟨?_, fun _ => .inr started, rfl, rfl⟩
    rw [free]
    rfl
  | sends request held found receiving => exact ⟨rfl, fun _ => .inl Nat.one_pos, rfl, rfl⟩
  | unsent request held' found dropped =>
    refine ⟨?_, nofun, rfl, rfl⟩
    cases locked : s.ui_locked with
    | true => rfl
    | false =>
      rw [locked] at held
      cases held
  | posts request receiving =>
    refine ⟨?_, nofun, rfl, rfl⟩
    cases locked : s.ui_locked with
    | true => rfl
    | false =>
      rw [locked] at held
      cases held
  | unposted request =>
    refine ⟨?_, nofun, rfl, rfl⟩
    cases locked : s.ui_locked with
    | true => rfl
    | false =>
      rw [locked] at held
      cases held
  | _ => exact ⟨rfl, nofun, rfl, rfl⟩

/-- What a thread puts into the channel and the messages. -/
theorem hand_posts (moves : HandMoves s hand shared hand') :
    (shared.channel = s.channel ∧ shared.messages = s.messages) ∨
      (s.receiving = true ∧ shared.channel = s.channel ∧
        shared.messages = s.messages ++ [.commands]) ∨
      (s.receiving = true ∧ shared.messages = s.messages) := by
  cases moves with
  | sends request held found receiving => exact .inr (.inr ⟨receiving, rfl⟩)
  | posts request receiving => exact .inr (.inl ⟨receiving, rfl, rfl⟩)
  | _ => exact .inl ⟨rfl, rfl⟩

/-- A thread that moves has a draft in hand, and begins no recording. -/
theorem hand_works (moves : HandMoves s hand shared hand') :
    hand ≠ .idle ∧ hand ≠ .records ∧ hand' ≠ .records := by
  cases moves <;> exact ⟨nofun, nofun, nofun⟩

end Hands

variable {s s' : DraftHost} {event : DraftEvent}

/-- A thread with nothing to do holds no lock. -/
theorem locks_idle : locks .idle = 0 := rfl

/-- An answer puts nothing into the channel, and takes no lock. -/
theorem answers_apart (s : DraftShared) (request : Nat) (outcome : ReviewOutcome) :
    locks (s.answers request outcome).2 = 0 ∧
      (s.answers request outcome).1.ui_locked = s.ui_locked ∧
      (s.answers request outcome).1.ui_started = s.ui_started ∧
      (s.answers request outcome).1.receiving = s.receiving ∧
      (s.answers request outcome).1.channel = s.channel ∧
      (s.answers request outcome).1.messages = s.messages ∧
      (s.answers request outcome).2 ≠ .records := by
  unfold DraftShared.answers
  split <;> exact ⟨rfl, rfl, rfl, rfl, rfl, rfl, nofun⟩

/-- A saver's thread has to do with neither the host nor the requests. -/
theorem saver_apart {s shared : DraftShared} {saver : Nat} {held : Saver}
    (moves : SaverMoves s saver held shared) :
    shared.ui_locked = s.ui_locked ∧ shared.ui_started = s.ui_started ∧
      shared.receiving = s.receiving ∧ shared.channel = s.channel ∧
      shared.messages = s.messages ∧ shared.requests = s.requests := by
  cases moves <;> exact ⟨rfl, rfl, rfl, rfl, rfl, rfl⟩

/-- The host where only savers, drafts or the recordings are concerned. -/
theorem HostOk.of_same (ok : HostOk s) (same_locks : tally locks (hands s') = tally locks (hands s))
    (same_locked : s'.shared.ui_locked = s.shared.ui_locked)
    (same_exit : decide (s'.exit = .joins_ui) = decide (s.exit = .joins_ui))
    (same_started : s'.shared.ui_started = s.shared.ui_started)
    (same_receiving : s'.shared.receiving = s.shared.receiving)
    (same_channel : s'.shared.channel = s.shared.channel)
    (same_messages : s'.shared.messages = s.shared.messages) (same_ui : s'.ui = s.ui)
    (same_shown : s'.shown = s.shown) (same_hand : s'.ui_hand = s.ui_hand) : HostOk s' where
  lock := by
    rw [same_locked, same_locks, same_exit]
    exact ok.lock
  holder := by
    rw [same_locks, same_started]
    exact ok.holder
  started := by
    rw [same_started, same_ui, same_messages]
    exact ok.started
  receiving := by
    rw [same_receiving, same_ui]
    exact ok.receiving
  dropped := by
    rw [same_receiving, same_channel, same_messages]
    exact ok.dropped
  shown := by
    rw [same_shown, same_ui]
    exact ok.shown
  no_record := by
    rw [same_hand]
    exact ok.no_record
  ended := by
    rw [same_ui, same_hand]
    exact ok.ended

/-- Where exit has to do with the desktop UI thread: it takes the lock and tells the thread to stop,
gives the lock back, or neither. -/
theorem exit_host {late : Bool} (moves : ExitMoves s late s') :
    (s.exit = .takes_ui ∧ s.shared.ui_locked = false ∧ s.shared.ui_started = true ∧
      s' = { s with
        exit := .joins_ui
        shared := { s.shared with
          ui_started := false
          ui_locked := true
          messages := if s.shared.receiving then s.shared.messages ++ [.stop]
            else s.shared.messages } }) ∨
    (s.exit = .joins_ui ∧
      s' = { s with exit := .leaves, shared := { s.shared with ui_locked := false } }) ∨
    (s.exit ≠ .joins_ui ∧ s'.exit ≠ .joins_ui ∧ hands s' = hands s ∧
      (s'.shared.ui_locked = s.shared.ui_locked ∧ s'.shared.ui_started = s.shared.ui_started ∧
        s'.shared.receiving = s.shared.receiving ∧ s'.shared.channel = s.shared.channel ∧
        s'.shared.messages = s.shared.messages ∧ s'.shared.requests = s.shared.requests) ∧
      s'.ui = s.ui ∧ s'.shown = s.shown ∧ s'.ui_hand = s.ui_hand) := by
  cases moves with
  | takes_ui stage free started => exact .inl ⟨stage, free, started, rfl⟩
  | ui_joined stage ended => exact .inr (.inl ⟨stage, rfl⟩)
  | ui_overrun stage passed runs => exact .inr (.inl ⟨stage, rfl⟩)
  | _ =>
    refine .inr (.inr ⟨?_, nofun, rfl, ⟨rfl, rfl, rfl, rfl, rfl, rfl⟩, rfl, rfl, rfl⟩)
    rw [‹s.exit = _›]
    exact nofun

/-- A thread that goes on keeps the host as it should be: it takes the lock while a host that has
not been told to stop is there.
SRC: desktop_ui.rs:190-206 -/
theorem HostOk.of_hand (ok : HostOk s) {thread : Nat} {hand hand' : Hand} {shared : DraftShared}
    (found : (hands s)[thread]? = some hand) (moves : HandMoves s.shared hand shared hand') :
    HostOk (with_hand s thread shared hand') := by
  obtain ⟨works, not_records, not_records'⟩ := hand_works moves
  have set := tally_set found locks hand'
  have own : locks hand ≤ tally locks (hands s) := le_tally (List.mem_of_getElem? found)
  have lock := ok.lock
  obtain ⟨locked, from_lock, same_started, same_receiving⟩ := hand_locks moves (by omega)
  have same_locks : tally locks (hands (with_hand s thread shared hand')) + locks hand =
      tally locks (hands s) + locks hand' := by
    rw [hands_with_hand]
    exact set
  have apart : (with_hand s thread shared hand').shared = shared ∧
      (with_hand s thread shared hand').exit = s.exit ∧
      (with_hand s thread shared hand').ui = s.ui ∧
      (with_hand s thread shared hand').shown = s.shown := by
    cases thread <;> exact ⟨rfl, rfl, rfl, rfl⟩
  obtain ⟨same_shared, same_exit, same_ui, same_shown⟩ := apart
  constructor
  · rw [same_shared, same_exit]
    omega
  · intro held
    rw [same_shared, same_started]
    by_cases before : 0 < tally locks (hands s)
    · exact ok.holder before
    · rcases from_lock (by omega) with own_lock | started
      · omega
      · exact started
  · rw [same_shared, same_started, same_ui]
    intro started
    obtain ⟨serves, no_stop⟩ := ok.started started
    refine ⟨serves, ?_⟩
    rcases hand_posts moves with ⟨-, same⟩ | ⟨-, -, posted⟩ | ⟨-, same⟩
    · rw [same]
      exact no_stop
    · rw [posted]
      simpa using no_stop
    · rw [same]
      exact no_stop
  · rw [same_shared, same_receiving, same_ui]
    exact ok.receiving
  · rw [same_shared, same_receiving]
    intro dropped
    rcases hand_posts moves with ⟨same_channel, same⟩ | ⟨receiving, -⟩ | ⟨receiving, -⟩
    · rw [same_channel, same]
      exact ok.dropped dropped
    · cases dropped.symm.trans receiving
    · cases dropped.symm.trans receiving
  · rw [same_shown, same_ui]
    exact ok.shown
  · cases thread with
    | zero => exact not_records'
    | succ recorder => exact ok.no_record
  · rw [same_ui]
    intro ended
    cases thread with
    | zero => exact absurd ((Option.some.inj found).symm.trans (ok.ended ended)) works
    | succ recorder => exact ok.ended ended

/-- Calling an answer keeps the host as it should be: it takes no lock and stops no window.
SRC: desktop_ui.rs:458-470, 526-539, 587-600 -/
theorem HostOk.of_calls (ok : HostOk s) {request : Nat} {outcome : ReviewOutcome}
    {channel : List Nat} {ui : UiStage} {shown : List Nat} (idle : s.ui_hand = .idle)
    (calls : Calls s request channel ui shown) :
    HostOk ({ s with shared := { s.shared with channel } }.ui_calls request outcome ui shown) := by
  obtain ⟨no_lock, same_locked, same_started, same_receiving, same_channel, same_messages,
    no_records⟩ := answers_apart { s.shared with channel } request outcome
  have lives : window_lives ui = true ∧ window_lives s.ui = true ∧
      window_serves ui = window_serves s.ui ∧ (shown ≠ [] → s.shown ≠ []) := by
    cases calls with
    | drains _ stage queued => rw [stage]; exact ⟨rfl, rfl, rfl, id⟩
    | pumps stage shown =>
      rw [stage]
      refine ⟨rfl, rfl, rfl, ?_⟩
      intro left empty
      rw [empty] at left
      exact left rfl
    | closes reviews stage => rw [stage]; exact ⟨rfl, rfl, rfl, id⟩
  constructor
  · have lock := ok.lock
    simp only [hands, tally_cons, idle, locks_idle] at lock
    simp only [DraftHost.ui_calls, hands, tally_cons, no_lock, same_locked]
    exact lock
  · intro held
    simp only [DraftHost.ui_calls, hands, tally_cons, no_lock] at held
    simp only [DraftHost.ui_calls, same_started]
    apply ok.holder
    simp only [hands, tally_cons, idle, locks_idle]
    exact held
  · simp only [DraftHost.ui_calls, same_started, same_messages, lives.2.2.1]
    exact ok.started
  · simp only [DraftHost.ui_calls, same_receiving, lives.1]
    rw [ok.receiving, lives.2.1]
  · simp only [DraftHost.ui_calls, same_receiving]
    intro dropped
    cases dropped.symm.trans (ok.receiving.trans lives.2.1)
  · simp only [DraftHost.ui_calls, lives.2.2.1]
    exact fun some_shown => ok.shown (lives.2.2.2 some_shown)
  · exact no_records
  · simp only [DraftHost.ui_calls, lives.1]
    exact nofun

/-- Exit keeps the host as it should be: it is the one holder of the lock while it waits.
SRC: selection.rs:855-860; desktop_ui.rs:207-238 -/
theorem HostOk.of_exit (ok : HostOk s) {late : Bool} (moves : ExitMoves s late s') :
    HostOk s' := by
  rcases exit_host moves with ⟨stage, free, started, rfl⟩ | ⟨stage, rfl⟩ |
    ⟨before, after, same_hands, shared, same_ui, same_shown, same_hand⟩
  · have lock := ok.lock
    have serves := (ok.started started).1
    rw [free, stage] at lock
    have none_held : 0 = tally locks (hands s) + 0 := lock
    refine ⟨?_, ?_, nofun, ok.receiving, ?_, ok.shown, ok.no_record, ok.ended⟩
    · show 1 = tally locks (hands s) + 1
      omega
    · intro held
      have held : 0 < tally locks (hands s) := held
      omega
    · intro dropped
      cases dropped.symm.trans (ok.receiving.trans (lives_of_serves serves))
  · have lock := ok.lock
    rw [stage] at lock
    refine ⟨?_, ok.holder, ok.started, ok.receiving, ok.dropped, ok.shown, ok.no_record,
      ok.ended⟩
    show 0 = tally locks (hands s) + 0
    have one := Bool.toNat_le s.shared.ui_locked
    have lock : s.shared.ui_locked.toNat = tally locks (hands s) + 1 := lock
    omega
  · obtain ⟨locked, started, receiving, channel, messages, -⟩ := shared
    refine ok.of_same (congrArg _ same_hands) locked ?_ started receiving channel messages
      same_ui same_shown same_hand
    rw [decide_eq_false before, decide_eq_false after]

/-- **One step** keeps the host as it should be.
SRC: desktop_ui.rs:190-238, 419-470; selection.rs:855-860 -/
theorem HostOk.step (ok : HostOk s) (moves : DraftMoves s event s') : HostOk s' := by
  cases moves with
  | hand event thread hand hand' shared found moves threads => exact ok.of_hand found moves
  | refused active => exact ok
  | starts quiet stored =>
    refine ok.of_same ?_ rfl rfl rfl rfl rfl rfl rfl rfl rfl
    show tally locks (hands s ++ [.records]) = _
    rw [tally_append]
    rfl
  | stores recorder started => exact ok.of_same rfl rfl rfl rfl rfl rfl rfl rfl rfl rfl
  | ends recorder draft found =>
    refine ok.of_same ?_ rfl rfl rfl rfl rfl rfl rfl rfl rfl
    have set := tally_set (l := hands s) (i := recorder + 1) found locks
      (draft.elim .idle .finished)
    have no_lock : locks (draft.elim .idle .finished) = 0 := by cases draft <;> rfl
    rw [no_lock] at set
    exact set
  | starts_ui absent =>
    have idle := ok.ended (by rw [absent]; rfl)
    have dropped := ok.dropped (ok.receiving.trans (by rw [absent]; rfl))
    refine ⟨ok.lock, fun _ => rfl, fun _ => ⟨rfl, ?_⟩, rfl, nofun, fun _ => rfl, ok.no_record,
      nofun⟩
    show HostMessage.stop ∉ s.shared.messages
    rw [dropped.2]
    exact List.not_mem_nil
  | asks_ui started =>
    obtain ⟨serves, no_stop⟩ := ok.started started
    refine ⟨ok.lock, ok.holder, fun _ => ⟨serves, ?_⟩, ok.receiving, ?_, ok.shown, ok.no_record,
      ok.ended⟩
    · show HostMessage.stop ∉ s.shared.messages ++ [.commands]
      simpa using no_stop
    · intro dropped
      have lives := ok.receiving.symm.trans dropped
      cases (lives_of_serves serves).symm.trans lives
  | drains messages stage idle posted =>
    refine ⟨ok.lock, ok.holder, ?_, ?_, ?_, fun _ => rfl, ok.no_record, nofun⟩
    · intro started
      have no_stop := (ok.started started).2
      rw [posted] at no_stop
      exact ⟨rfl, fun member => no_stop (List.mem_cons_of_mem _ member)⟩
    · exact ok.receiving.trans (by rw [stage]; rfl)
    · intro dropped
      have receiving := ok.receiving
      rw [stage] at receiving
      cases dropped.symm.trans receiving
  | stops messages stage idle posted =>
    refine ⟨ok.lock, ok.holder, ?_, ?_, ?_, ?_, ok.no_record, nofun⟩
    · intro started
      have no_stop := (ok.started started).2
      rw [posted] at no_stop
      exact absurd List.mem_cons_self no_stop
    · exact ok.receiving.trans (by rw [stage]; rfl)
    · intro dropped
      have receiving := ok.receiving
      rw [stage] at receiving
      cases dropped.symm.trans receiving
    · intro some_shown
      exact absurd rfl some_shown
  | shows request channel held stage idle queued found =>
    refine ⟨ok.lock, ok.holder, ok.started, ok.receiving, ?_, ?_, ok.no_record, ok.ended⟩
    · intro dropped
      have receiving := ok.receiving
      rw [stage] at receiving
      cases dropped.symm.trans receiving
    · intro _
      show window_serves s.ui = true
      rw [stage]
      rfl
  | drained opened stage idle empty =>
    refine ⟨ok.lock, ok.holder, fun started => ⟨rfl, (ok.started started).2⟩, ?_, ok.dropped,
      fun _ => rfl, ok.no_record, nofun⟩
    exact ok.receiving.trans (by rw [stage]; rfl)
  | calls event request outcome channel ui shown idle calls threads => exact ok.of_calls idle calls
  | destroyed stage idle =>
    have not_started : s.shared.ui_started ≠ true := by
      intro started
      have serves := (ok.started started).1
      rw [stage] at serves
      cases serves
    refine ⟨ok.lock, ok.holder, ?_, rfl, fun _ => ⟨rfl, rfl⟩, ?_, ok.no_record, fun _ => idle⟩
    · intro started
      exact absurd started not_started
    · intro some_shown
      have serves := ok.shown some_shown
      rw [stage] at serves
      cases serves
  | saver saver ok' held shared found moves =>
    obtain ⟨locked, started, receiving, channel, messages, -⟩ := saver_apart moves
    exact ok.of_same rfl locked rfl started receiving channel messages rfl rfl rfl
  | panics saver held found before => exact ok.of_same rfl rfl rfl rfl rfl rfl rfl rfl rfl rfl
  | exit late ok' s' moves => exact ok.of_exit moves

/-! ## Requests within reach -/

/-- The desktop UI thread looks into its channel, or a message that it takes before it is told to
stop says so. -/
def Attended (s : DraftHost) : Prop :=
  s.ui = .drains ∨ s.ui = .pumps ∧
    ∃ before after, s.shared.messages = before ++ .commands :: after ∧ .stop ∉ before

/-- A thread sends the request or takes its draft back, it is in the channel and looked for, or its
window is open or about to be closed. -/
def InReach (s : DraftHost) (request : Nat) : Prop :=
  .requests request ∈ hands s ∨ .withdraws request ∈ hands s ∨
    request ∈ s.shared.channel ∧ (.posts request ∈ hands s ∨ Attended s) ∨
    request ∈ s.shown ∨ request ∈ closing s.ui

/-- A request that still has its draft is within reach, and what is sent has been made. -/
structure Reached (s : DraftHost) : Prop where
  reach : ∀ request held draft, s.shared.requests[request]? = some held →
    held.draft = some draft → InReach s request
  made : ∀ request, .requests request ∈ hands s ∨ .posts request ∈ hands s ∨
    .withdraws request ∈ hands s ∨ request ∈ s.shared.channel →
    request < s.shared.requests.length

/-- A channel that is looked into still is when more messages come. -/
theorem Attended.append {more : List HostMessage} (attended : Attended s) (same_ui : s'.ui = s.ui)
    (messages : s'.shared.messages = s.shared.messages ++ more) : Attended s' := by
  rcases attended with drains | ⟨pumps, before, after, posted, no_stop⟩
  · exact .inl (same_ui.trans drains)
  · refine .inr ⟨same_ui.trans pumps, before, after ++ more, ?_, no_stop⟩
    rw [messages, posted, List.append_assoc, List.cons_append]

/-- It depends on the messages and on what the host does. -/
theorem Attended.of_same (attended : Attended s) (same_ui : s'.ui = s.ui)
    (messages : s'.shared.messages = s.shared.messages) : Attended s' :=
  attended.append same_ui (messages.trans (List.append_nil _).symm)

/-- A request stays within reach where each of the places it may be in leads to another. -/
theorem InReach.mono {request : Nat} (reach : InReach s request)
    (sends : .requests request ∈ hands s → .requests request ∈ hands s')
    (withdraws : .withdraws request ∈ hands s → .withdraws request ∈ hands s')
    (queued : request ∈ s.shared.channel → .posts request ∈ hands s ∨ Attended s →
      request ∈ s'.shared.channel ∧ (.posts request ∈ hands s' ∨ Attended s') ∨
        request ∈ s'.shown)
    (shown : request ∈ s.shown → request ∈ s'.shown ∨ request ∈ closing s'.ui)
    (closes : request ∈ closing s.ui → request ∈ closing s'.ui) : InReach s' request := by
  rcases reach with here | here | ⟨here, looked⟩ | here | here
  · exact .inl (sends here)
  · exact .inr (.inl (withdraws here))
  · rcases queued here looked with there | there
    · exact .inr (.inr (.inl there))
    · exact .inr (.inr (.inr (.inl there)))
  · exact .inr (.inr (.inr (shown here)))
  · exact .inr (.inr (.inr (.inr (closes here))))

/-- A thread that has to do with a request. -/
def sender : Hand → Bool
  | .requests _ => true
  | .posts _ => true
  | .withdraws _ => true
  | _ => false

/-- Where the threads that send, the host and its requests are the same. -/
theorem Reached.of_same (reached : Reached s)
    (same : ∀ hand, sender hand = true → (hand ∈ hands s' ↔ hand ∈ hands s))
    (same_requests : s'.shared.requests = s.shared.requests)
    (same_channel : s'.shared.channel = s.shared.channel) (more : List HostMessage)
    (messages : s'.shared.messages = s.shared.messages ++ more)
    (same_ui : s'.ui = s.ui) (same_shown : s'.shown = s.shown) : Reached s' := by
  constructor
  · intro request held draft found has
    rw [same_requests] at found
    refine (reached.reach request held draft found has).mono ?_ ?_ ?_ ?_ ?_
    · exact (same (.requests request) rfl).mpr
    · exact (same (.withdraws request) rfl).mpr
    · intro queued looked
      rw [same_channel]
      refine .inl ⟨queued, looked.imp (same (.posts request) rfl).mpr ?_⟩
      exact fun attended => attended.append same_ui messages
    · rw [same_shown]
      exact .inl
    · rw [same_ui]
      exact id
  · intro request
    rw [same_requests, same_channel, same (.requests request) rfl, same (.posts request) rfl,
      same (.withdraws request) rfl]
    exact reached.made request

/-- Setting one place of a list keeps the members other than the one that was there. -/
theorem mem_set_of_ne {α : Type} {l : List α} {i : Nat} {old a : α} (found : l[i]? = some old)
    (member : a ∈ l) (ne : a ≠ old) (new : α) : a ∈ l.set i new := by
  obtain ⟨j, at_j⟩ := List.mem_iff_getElem?.mp member
  have apart : i ≠ j := by
    rintro rfl
    exact ne (Option.some.inj (at_j.symm.trans found))
  refine List.mem_iff_getElem?.mpr ⟨j, ?_⟩
  rw [List.getElem?_set_ne apart]
  exact at_j

/-- A value other than the old and the new one is a member before and after. -/
theorem mem_set_iff_of_ne {α : Type} {l : List α} {i : Nat} {old new a : α}
    (found : l[i]? = some old) (ne : a ≠ old) (ne_new : a ≠ new) : a ∈ l.set i new ↔ a ∈ l := by
  constructor
  · intro member
    exact (List.mem_or_eq_of_mem_set member).resolve_right ne_new
  · intro member
    exact mem_set_of_ne found member ne new

/-- One thread goes from `hand` to `hand'`, and what it shares with the others becomes `shared`. -/
structure HandGoes (s : DraftHost) (hand : Hand) (shared : DraftShared) (hand' : Hand)
    (s' : DraftHost) : Prop where
  before : hand ∈ hands s
  now : hand' ∈ hands s'
  others : ∀ other, other ≠ hand → other ∈ hands s → other ∈ hands s'
  back : ∀ other, other ∈ hands s' → other = hand' ∨ other ∈ hands s
  same_shared : s'.shared = shared
  same_ui : s'.ui = s.ui
  same_shown : s'.shown = s.shown

section HandGoes

variable {hand hand' : Hand} {shared : DraftShared}

/-- Setting the hand of one thread changes no other one's. -/
theorem hand_goes {thread : Nat} (found : (hands s)[thread]? = some hand)
    (same_hands : hands s' = (hands s).set thread hand') (same_shared : s'.shared = shared)
    (same_ui : s'.ui = s.ui) (same_shown : s'.shown = s.shown) :
    HandGoes s hand shared hand' s' where
  before := List.mem_of_getElem? found
  now := by
    rw [same_hands]
    exact List.mem_set (List.getElem?_eq_some_iff.mp found).1 hand'
  others := by
    intro other ne there
    rw [same_hands]
    exact mem_set_of_ne found there ne hand'
  back := by
    intro other there
    rw [same_hands] at there
    exact (List.mem_or_eq_of_mem_set there).symm
  same_shared := same_shared
  same_ui := same_ui
  same_shown := same_shown

/-- A request stays within reach where the thread that goes on is not the one that has it. -/
theorem HandGoes.keeps (goes : HandGoes s hand shared hand' s') {request : Nat}
    (more : List HostMessage) (reach : InReach s request) (requests : .requests request ≠ hand)
    (posts : .posts request ≠ hand) (withdraws : .withdraws request ≠ hand)
    (channel : request ∈ s.shared.channel → request ∈ shared.channel)
    (messages : shared.messages = s.shared.messages ++ more) : InReach s' request := by
  refine reach.mono (goes.others _ requests) (goes.others _ withdraws) ?_ ?_ ?_
  · intro queued looked
    rw [goes.same_shared]
    refine .inl ⟨channel queued, looked.imp (goes.others _ posts) ?_⟩
    exact fun attended => attended.append goes.same_ui (goes.same_shared ▸ messages)
  · rw [goes.same_shown]
    exact .inl
  · rw [goes.same_ui]
    exact id

/-- What is sent has been made, where the thread that goes on sends nothing that has not. -/
theorem HandGoes.made (goes : HandGoes s hand shared hand' s') (reached : Reached s)
    (longer : s.shared.requests.length ≤ shared.requests.length)
    (own : ∀ request, .requests request = hand' ∨ .posts request = hand' ∨
      .withdraws request = hand' → request < shared.requests.length)
    (channel : ∀ request ∈ shared.channel, request ∈ s.shared.channel ∨
      request < shared.requests.length)
    (request : Nat) (sent : .requests request ∈ hands s' ∨ .posts request ∈ hands s' ∨
      .withdraws request ∈ hands s' ∨ request ∈ s'.shared.channel) :
    request < s'.shared.requests.length := by
  rw [goes.same_shared] at sent ⊢
  have earlier (sent : .requests request ∈ hands s ∨ .posts request ∈ hands s ∨
      .withdraws request ∈ hands s ∨ request ∈ s.shared.channel) :
      request < shared.requests.length :=
    Nat.lt_of_lt_of_le (reached.made request sent) longer
  rcases sent with there | there | there | there
  · rcases goes.back _ there with same | there
    · exact own request (.inl same)
    · exact earlier (.inl there)
  · rcases goes.back _ there with same | there
    · exact own request (.inr (.inl same))
    · exact earlier (.inr (.inl there))
  · rcases goes.back _ there with same | there
    · exact own request (.inr (.inr same))
    · exact earlier (.inr (.inr (.inl there)))
  · rcases channel request there with there | made
    · exact earlier (.inr (.inr (.inr there)))
    · exact made

/-- A thread that sends nothing, before and after, leaves every request where it is. -/
theorem HandGoes.aside (goes : HandGoes s hand shared hand' s') (reached : Reached s)
    (calm : sender hand = false) (calm' : sender hand' = false)
    (same_requests : shared.requests = s.shared.requests)
    (same_channel : shared.channel = s.shared.channel)
    (same_messages : shared.messages = s.shared.messages) : Reached s' := by
  refine reached.of_same ?_ (goes.same_shared ▸ same_requests) (goes.same_shared ▸ same_channel) []
    (by rw [goes.same_shared, same_messages, List.append_nil]) goes.same_ui goes.same_shown
  intro other sends
  constructor
  · intro there
    rcases goes.back other there with rfl | there
    · cases calm'.symm.trans sends
    · exact there
  · intro there
    apply goes.others other _ there
    rintro rfl
    cases calm.symm.trans sends

/-- A request that has just been made is with the thread that sends it.
SRC: recording.rs:1185-1216 -/
theorem asks_reaches {draft : Draft} (reached : Reached s)
    (goes : HandGoes s (.opens draft) shared (.requests s.shared.requests.length) s')
    (requests : shared.requests = s.shared.requests ++ [⟨some draft, .fresh⟩])
    (same_channel : shared.channel = s.shared.channel)
    (same_messages : shared.messages = s.shared.messages) : Reached s' := by
  have longer : shared.requests.length = s.shared.requests.length + 1 := by
    rw [requests, List.length_append, List.length_singleton]
  constructor
  · intro request held draft' live has
    rw [goes.same_shared, requests] at live
    rcases Nat.lt_or_ge request s.shared.requests.length with earlier | here
    · rw [List.getElem?_append_left earlier] at live
      exact goes.keeps [] (reached.reach request held draft' live has) nofun nofun nofun
        (fun queued => same_channel ▸ queued) (same_messages.trans (List.append_nil _).symm)
    · have last := (List.getElem?_eq_some_iff.mp live).1
      rw [List.length_append, List.length_singleton] at last
      obtain rfl : request = s.shared.requests.length := by omega
      exact .inl goes.now
  · refine goes.made reached (by omega) ?_ fun request queued => .inl (same_channel ▸ queued)
    rintro request (same | same | same)
    · cases same
      omega
    · cases same
    · cases same

/-- A request that has been sent is in the channel, and its thread will say so.
SRC: desktop_ui.rs:190-196 -/
theorem sends_reaches {own : Nat} {held : ReviewRequest} (reached : Reached s)
    (goes : HandGoes s (.requests own)
      { s.shared.with_request own { held with place := .sent } with
        channel := s.shared.channel ++ [own] } (.posts own) s')
    (own_lt : own < s.shared.requests.length) : Reached s' := by
  have same_length : (s.shared.requests.set own { held with place := .sent }).length =
      s.shared.requests.length := List.length_set
  constructor
  · intro request held' draft live has
    rw [goes.same_shared] at live
    by_cases same : request = own
    · subst same
      refine .inr (.inr (.inl ⟨?_, .inl goes.now⟩))
      rw [goes.same_shared]
      exact List.mem_append_right _ List.mem_cons_self
    · simp only [DraftShared.with_request] at live
      rw [List.getElem?_set_ne (Ne.symm same)] at live
      refine goes.keeps [] (reached.reach request held' draft live has) ?_ (by simp) (by simp) ?_
        (List.append_nil _).symm
      · rintro ⟨rfl⟩
        exact same rfl
      · exact List.mem_append_left _
  · refine goes.made reached (Nat.le_of_eq same_length.symm) ?_ ?_
    · rintro request (same | same | same)
      · cases same
      · cases same
        exact same_length ▸ own_lt
      · cases same
    · intro request queued
      rcases List.mem_append.mp queued with queued | queued
      · exact .inl queued
      · rw [List.mem_singleton.mp queued]
        exact .inr (same_length ▸ own_lt)

/-- Once the message is posted, the desktop UI thread looks for whatever is in the channel.
SRC: desktop_ui.rs:197-206 -/
theorem posts_reaches {own : Nat} (reached : Reached s)
    (goes : HandGoes s (.posts own)
      { s.shared with messages := s.shared.messages ++ [.commands], ui_locked := false } .idle s')
    (serving : window_serves s.ui = true) (no_stop : .stop ∉ s.shared.messages) : Reached s' := by
  have attended : Attended s' := by
    have posted : s'.shared.messages = s.shared.messages ++ [.commands] := by
      rw [goes.same_shared]
    cases stage : s.ui with
    | drains => exact .inl (goes.same_ui.trans stage)
    | pumps => exact .inr ⟨goes.same_ui.trans stage, s.shared.messages, [], posted, no_stop⟩
    | absent =>
      rw [stage] at serving
      cases serving
    | closes reviews =>
      rw [stage] at serving
      cases serving
    | ended =>
      rw [stage] at serving
      cases serving
  constructor
  · intro request held draft live has
    rw [goes.same_shared] at live
    refine (reached.reach request held draft live has).mono (goes.others _ nofun)
      (goes.others _ nofun) ?_ ?_ ?_
    · intro queued _
      rw [goes.same_shared]
      exact .inl ⟨queued, .inr attended⟩
    · rw [goes.same_shown]
      exact .inl
    · rw [goes.same_ui]
      exact id
  · refine goes.made reached (Nat.le_refl _) ?_ fun request => .inl
    rintro request (same | same | same) <;> cases same

/-- Where the message is refused, the thread goes on to take its draft back.
SRC: recording.rs:1217-1221 -/
theorem unposted_reaches {own : Nat} (reached : Reached s)
    (goes : HandGoes s (.posts own) { s.shared with ui_locked := false } (.withdraws own) s') :
    Reached s' := by
  constructor
  · intro request held draft live has
    rw [goes.same_shared] at live
    by_cases same : request = own
    · subst same
      exact .inr (.inl goes.now)
    · refine goes.keeps [] (reached.reach request held draft live has) nofun ?_ nofun id
        (List.append_nil _).symm
      rintro ⟨rfl⟩
      exact same rfl
  · refine goes.made reached (Nat.le_refl _) ?_ fun request => .inl
    rintro request (same | same | same)
    · cases same
    · cases same
    · cases same
      exact reached.made own (.inr (.inl goes.before))

/-- A thread that has taken its draft back leaves a request without one.
SRC: recording.rs:1221-1226 -/
theorem withdraws_reaches {own : Nat} {held : ReviewRequest} {draft : Draft} {place : RequestPlace}
    (reached : Reached s) (found : s.shared.requests[own]? = some held)
    (goes : HandGoes s (.withdraws own) (s.shared.with_request own ⟨none, place⟩)
      (.concludes draft .Closed) s') : Reached s' := by
  constructor
  · intro request held' draft' live has
    rw [goes.same_shared] at live
    simp only [DraftShared.with_request] at live
    by_cases same : request = own
    · subst same
      rw [List.getElem?_set_self (List.getElem?_eq_some_iff.mp found).1] at live
      cases live
      cases has
    · rw [List.getElem?_set_ne (Ne.symm same)] at live
      refine goes.keeps [] (reached.reach request held' draft' live has) (by simp) (by simp) ?_ id
        (List.append_nil _).symm
      rintro ⟨rfl⟩
      exact same rfl
  · refine goes.made reached (Nat.le_of_eq List.length_set.symm) ?_ fun request => .inl
    rintro request (same | same | same) <;> cases same

/-- A thread whose draft is gone with its answer has nothing to take back.
SRC: recording.rs:1221-1226 -/
theorem answered_reaches {own : Nat} {place : RequestPlace} (reached : Reached s)
    (found : s.shared.requests[own]? = some ⟨none, place⟩)
    (goes : HandGoes s (.withdraws own) s.shared .idle s') : Reached s' := by
  constructor
  · intro request held draft live has
    rw [goes.same_shared] at live
    refine goes.keeps [] (reached.reach request held draft live has) nofun nofun ?_ id
      (List.append_nil _).symm
    rintro ⟨rfl⟩
    rw [found] at live
    cases live
    cases has
  · refine goes.made reached (Nat.le_refl _) ?_ fun request => .inl
    rintro request (same | same | same) <;> cases same

/-- A thread that goes on leaves every request within reach.
SRC: recording.rs:1181-1227; desktop_ui.rs:190-205 -/
theorem hand_reaches (ok : HostOk s) (reached : Reached s)
    (goes : HandGoes s hand shared hand' s') (moves : HandMoves s.shared hand shared hand') :
    Reached s' := by
  have serves (held : locks hand = 1) : window_serves s.ui = true ∧ .stop ∉ s.shared.messages := by
    have own : locks hand ≤ tally locks (hands s) := le_tally goes.before
    exact ok.started (ok.holder (by omega))
  cases moves with
  | asks draft free started => exact asks_reaches reached goes rfl rfl rfl
  | sends own held found receiving =>
    exact sends_reaches reached goes (List.getElem?_eq_some_iff.mp found).1
  | unsent own held found dropped =>
    have receiving := ok.receiving.trans (lives_of_serves (serves rfl).1)
    cases dropped.symm.trans receiving
  | posts own receiving => exact posts_reaches reached goes (serves rfl).1 (serves rfl).2
  | unposted own => exact unposted_reaches reached goes
  | withdraws own draft place found => exact withdraws_reaches reached found goes
  | answered own place found => exact answered_reaches reached found goes
  | _ => exact goes.aside reached rfl rfl rfl rfl rfl

end HandGoes

/-- A request whose answer is called has its draft no more. -/
theorem answers_requests (s : DraftShared) (request : Nat) (outcome : ReviewOutcome) :
    (s.answers request outcome).1.requests.length = s.requests.length ∧
      ∀ other held draft, (s.answers request outcome).1.requests[other]? = some held →
        held.draft = some draft → other ≠ request ∧ s.requests[other]? = some held := by
  have answered {changed : ReviewRequest} (empty : changed.draft = none) (other : Nat)
      (held : ReviewRequest) (draft : Draft)
      (found : (s.requests.set request changed)[other]? = some held)
      (has : held.draft = some draft) : other ≠ request ∧ s.requests[other]? = some held := by
    by_cases same : other = request
    · subst same
      have set := List.mem_of_getElem? found
      rw [List.getElem?_set_self'] at found
      cases at_other : s.requests[other]? with
      | none =>
        rw [at_other] at found
        cases found
      | some before =>
        rw [at_other] at found
        cases found
        cases empty.symm.trans has
    · rw [List.getElem?_set_ne (Ne.symm same)] at found
      exact ⟨same, found⟩
  unfold DraftShared.answers
  split
  · exact ⟨List.length_set, answered rfl⟩
  · exact ⟨List.length_set, answered rfl⟩
  · rename_i missing
    refine ⟨rfl, ?_⟩
    intro other held draft found has
    refine ⟨?_, found⟩
    rintro rfl
    cases found.symm.trans missing

/-- A thread that is about to post holds the lock, so the host has not been told to stop. -/
theorem posting_serves (ok : HostOk s) {request : Nat} (there : .posts request ∈ hands s) :
    window_serves s.ui = true ∧ .stop ∉ s.shared.messages := by
  have own : locks (.posts request) ≤ tally locks (hands s) := le_tally there
  exact ok.started (ok.holder own)

/-- The host goes on without a request having to do with it: what it stops looking at must be looked
for by someone else, and a window that it no longer shows must be about to be closed. -/
theorem Reached.of_host (reached : Reached s) (same_hands : hands s' = hands s)
    (same_requests : s'.shared.requests = s.shared.requests)
    (same_channel : s'.shared.channel = s.shared.channel)
    (looks : ∀ request ∈ s.shared.channel, .posts request ∈ hands s ∨ Attended s →
      .posts request ∈ hands s ∨ Attended s')
    (shown : ∀ request ∈ s.shown, request ∈ s'.shown ∨ request ∈ closing s'.ui)
    (closes : closing s.ui = []) : Reached s' := by
  constructor
  · intro request held draft found has
    rw [same_requests] at found
    refine (reached.reach request held draft found has).mono ?_ ?_ ?_ (shown request) ?_
    · rw [same_hands]
      exact id
    · rw [same_hands]
      exact id
    · intro queued looked
      rw [same_hands, same_channel]
      exact .inl ⟨queued, looks request queued looked⟩
    · rw [closes]
      exact nofun
  · intro request
    rw [same_hands, same_requests, same_channel]
    exact reached.made request

/-- A host that closes its reviews looks into its channel no more. -/
theorem unattended_of_closes {reviews : List Nat} (stage : s.ui = .closes reviews) :
    ¬ Attended s := by
  rintro (drains | ⟨pumps, -⟩)
  · cases stage.symm.trans drains
  · cases stage.symm.trans pumps

/-- A request that is taken from the channel is in a window.
SRC: desktop_ui.rs:440-450, 526-539 -/
theorem shows_reaches {request : Nat} {channel : List Nat} {held : ReviewRequest}
    (reached : Reached s) (stage : s.ui = .drains) (queued : s.shared.channel = request :: channel)
    (found : s.shared.requests[request]? = some held) :
    Reached { s with
      shown := s.shown ++ [request]
      shared := { s.shared with channel }.with_request request { held with place := .shown } } := by
  constructor
  · intro other held' draft found' has
    have before : ∃ held, s.shared.requests[other]? = some held ∧ held.draft = some draft := by
      by_cases same : other = request
      · subst same
        refine ⟨held, found, ?_⟩
        have set := List.getElem?_set_self (a := ({ held with place := .shown } : ReviewRequest))
          (List.getElem?_eq_some_iff.mp found).1
        cases found'.symm.trans set
        exact has
      · refine ⟨held', ?_, has⟩
        have set := List.getElem?_set_ne (l := s.shared.requests) (Ne.symm same)
          (a := ({ held with place := .shown } : ReviewRequest))
        exact set.symm.trans found'
    obtain ⟨held', found', has⟩ := before
    refine (reached.reach other held' draft found' has).mono id id ?_ ?_ id
    · intro member looked
      rw [queued] at member
      rcases List.mem_cons.mp member with rfl | member
      · exact .inr (List.mem_append_right _ List.mem_cons_self)
      · exact .inl ⟨member, .inr (.inl stage)⟩
    · exact fun member => .inl (List.mem_append_left _ member)
  · intro other sent
    show other < (s.shared.requests.set request _).length
    rw [List.length_set]
    refine reached.made other (sent.imp id (Or.imp id (Or.imp id ?_)))
    intro member
    rw [queued]
    exact List.mem_cons_of_mem _ member

/-- Where an answer is called, the others stay in the channel, in their windows and to be closed. -/
theorem Calls.keeps {request : Nat} {channel : List Nat} {ui : UiStage} {shown : List Nat}
    (calls : Calls s request channel ui shown) {other : Nat} (ne : other ≠ request) :
    (other ∈ s.shared.channel → other ∈ channel) ∧ (other ∈ s.shown → other ∈ shown) ∧
      (other ∈ closing s.ui → other ∈ closing ui) := by
  cases calls with
  | drains _ stage taken =>
    rw [taken, stage]
    exact ⟨fun queued => (List.mem_cons.mp queued).resolve_left ne, id, nofun⟩
  | pumps stage there =>
    rw [stage]
    exact ⟨id, (List.mem_erase_of_ne ne).mpr, nofun⟩
  | closes reviews stage =>
    rw [stage]
    exact ⟨id, id, fun member => (List.mem_cons.mp member).resolve_left ne⟩

/-- Where an answer is called, what is left in the channel was in it. -/
theorem Calls.queued {request : Nat} {channel : List Nat} {ui : UiStage} {shown : List Nat}
    (calls : Calls s request channel ui shown) {other : Nat} (there : other ∈ channel) :
    other ∈ s.shared.channel := by
  cases calls with
  | drains _ stage taken =>
    rw [taken]
    exact List.mem_cons_of_mem _ there
  | pumps stage member => exact there
  | closes reviews stage => exact there

/-- A request whose answer is called has its draft no more, and the others stay where they are.
SRC: desktop_ui.rs:458-470, 526-539, 587-600 -/
theorem calls_reaches {request : Nat} {outcome : ReviewOutcome} {channel : List Nat} {ui : UiStage}
    {shown : List Nat} (reached : Reached s) (idle : s.ui_hand = .idle)
    (calls : Calls s request channel ui shown) :
    Reached ({ s with shared := { s.shared with channel } }.ui_calls request outcome ui shown) := by
  obtain ⟨same_length, same_requests⟩ :=
    answers_requests { s.shared with channel } request outcome
  obtain ⟨-, -, -, -, same_channel, messages, -⟩ :=
    answers_apart { s.shared with channel } request outcome
  have others {hand : Hand} (sends : hand ≠ .idle) (there : hand ∈ hands s) :
      hand ∈ hands ({ s with shared := { s.shared with channel } }.ui_calls request outcome ui
        shown) := by
    rcases List.mem_cons.mp there with same | there
    · exact absurd (same.trans idle) sends
    · exact List.mem_cons_of_mem _ there
  constructor
  · intro other held draft found has
    obtain ⟨ne, before⟩ := same_requests other held draft found has
    obtain ⟨queued_still, shown_still, closes_still⟩ := calls.keeps ne
    refine (reached.reach other held draft before has).mono (others nofun) (others nofun) ?_
      (fun member => .inl (shown_still member)) closes_still
    intro queued looked
    simp only [DraftHost.ui_calls]
    rw [same_channel]
    refine .inl ⟨queued_still queued, ?_⟩
    cases calls with
    | drains _ stage taken => exact .inr (.inl rfl)
    | pumps stage member =>
      refine looked.imp (others nofun) ?_
      exact fun attended => attended.of_same stage.symm messages
    | closes reviews stage =>
      exact looked.imp (others nofun) fun attended => absurd attended (unattended_of_closes stage)
  · intro other sent
    simp only [DraftHost.ui_calls] at sent ⊢
    rw [same_length]
    rw [same_channel] at sent
    have no_sender : sender (DraftShared.answers { s.shared with channel } request outcome).2 =
        false := by
      unfold DraftShared.answers
      split <;> rfl
    have back {hand : Hand} (sends : sender hand = true) (there : hand ∈
        (DraftShared.answers { s.shared with channel } request outcome).2 :: s.recorders) :
        hand ∈ hands s := by
      rcases List.mem_cons.mp there with rfl | there
      · cases no_sender.symm.trans sends
      · exact List.mem_cons_of_mem _ there
    exact reached.made other
      (sent.imp (back rfl) (Or.imp (back rfl) (Or.imp (back rfl) calls.queued)))

/-- When the window is destroyed, what was left in the channel has been taken back or is still with
its thread.
SRC: desktop_ui.rs:471-476 -/
theorem destroyed_reaches (reached : Reached s) (ok : HostOk s) (stage : s.ui = .closes []) :
    Reached s.host_destroyed := by
  constructor
  · intro request held draft found has
    have before : ∃ held, s.shared.requests[request]? = some held ∧ held.draft = some draft := by
      simp only [DraftHost.host_destroyed, List.getElem?_map] at found
      obtain ⟨held', at_request, rfl⟩ := Option.map_eq_some_iff.mp found
      refine ⟨held', at_request, ?_⟩
      rw [← has]
      split <;> rfl
    obtain ⟨held', found', has'⟩ := before
    refine (reached.reach request held' draft found' has').mono id id ?_ .inl ?_
    · rintro queued (there | attended)
      · have serving := (posting_serves ok there).1
        rw [stage] at serving
        cases serving
      · exact absurd attended (unattended_of_closes stage)
    · rw [stage]
      exact nofun
  · intro request sent
    simp only [DraftHost.host_destroyed, List.length_map]
    exact reached.made request (sent.imp id (Or.imp id (Or.imp id nofun)))

/-- Exit takes the lock and tells the thread to stop, or leaves the host as it is. -/
theorem exit_reaches (reached : Reached s) {late : Bool} (moves : ExitMoves s late s') :
    Reached s' := by
  have same_messages : s.shared.messages = s.shared.messages ++ [] := (List.append_nil _).symm
  rcases exit_host moves with ⟨stage, free, started, rfl⟩ | ⟨stage, rfl⟩ |
    ⟨before, after, same_hands, shared, same_ui, same_shown, same_hand⟩
  · refine reached.of_same (fun _ _ => .rfl) rfl rfl
      (if s.shared.receiving then [.stop] else []) ?_ rfl rfl
    show (if s.shared.receiving then _ else _) = _
    split
    · rfl
    · exact same_messages
  · exact reached.of_same (fun _ _ => .rfl) rfl rfl [] same_messages rfl rfl
  · obtain ⟨-, -, -, channel, messages, requests⟩ := shared
    refine reached.of_same ?_ requests channel [] (messages.trans same_messages) same_ui same_shown
    intro hand sends
    rw [same_hands]

/-- **One step** leaves every request that has its draft within reach.
SRC: recording.rs:1181-1227; desktop_ui.rs:190-238, 419-543 -/
theorem Reached.step (reached : Reached s) (ok : HostOk s) (moves : DraftMoves s event s') :
    Reached s' := by
  have same_messages : s.shared.messages = s.shared.messages ++ [] := (List.append_nil _).symm
  cases moves with
  | hand event thread hand hand' shared found moves threads =>
    have apart : (with_hand s thread shared hand').ui = s.ui ∧
        (with_hand s thread shared hand').shown = s.shown := by
      cases thread <;> exact ⟨rfl, rfl⟩
    exact hand_reaches ok reached (hand_goes found (hands_with_hand s thread shared hand')
      (with_hand_shared s thread shared hand').1 apart.1 apart.2) moves
  | refused active => exact reached
  | starts quiet stored =>
    refine reached.of_same ?_ rfl rfl [] same_messages rfl rfl
    intro hand sends
    show hand ∈ hands s ++ [.records] ↔ _
    rw [List.mem_append, List.mem_singleton]
    apply or_iff_left
    rintro rfl
    cases sends
  | stores recorder started =>
    exact reached.of_same (fun _ _ => .rfl) rfl rfl [] same_messages rfl rfl
  | ends recorder draft found =>
    refine reached.of_same ?_ rfl rfl [] same_messages rfl rfl
    intro hand sends
    show hand ∈ (hands s).set (recorder + 1) (draft.elim .idle .finished) ↔ _
    apply mem_set_iff_of_ne (l := hands s) (i := recorder + 1) found
    · rintro rfl
      cases sends
    · rintro rfl
      cases draft <;> cases sends
  | starts_ui absent =>
    refine reached.of_host rfl rfl rfl ?_ (fun _ => .inl) (by rw [absent]; rfl)
    rintro request - (there | drains | ⟨pumps, -⟩)
    · exact .inl there
    · cases absent.symm.trans drains
    · cases absent.symm.trans pumps
  | asks_ui started => exact reached.of_same (fun _ _ => .rfl) rfl rfl [.commands] rfl rfl rfl
  | drains messages stage idle posted =>
    exact reached.of_host rfl rfl rfl (fun _ _ _ => .inr (.inl rfl)) (fun _ => .inl)
      (by rw [stage]; rfl)
  | stops messages stage idle posted =>
    refine reached.of_host rfl rfl rfl ?_ (fun _ => .inr) (by rw [stage]; rfl)
    -- The message to stop is the first, so nobody has said of the channel that it is to be drained.
    rintro request - (there | drains | ⟨-, before, after, same, no_stop⟩)
    · exact .inl there
    · cases stage.symm.trans drains
    · rw [posted] at same
      cases before with
      | nil => cases same
      | cons message before =>
        cases same
        exact absurd List.mem_cons_self no_stop
  | shows request channel held stage idle queued found =>
    exact shows_reaches reached stage queued found
  | drained opened stage idle empty =>
    refine reached.of_host rfl rfl rfl ?_ (fun _ => .inl) (by rw [stage]; rfl)
    intro request queued
    rw [empty] at queued
    cases queued
  | calls event request outcome channel ui shown idle calls threads =>
    exact calls_reaches reached idle calls
  | destroyed stage idle => exact destroyed_reaches reached ok stage
  | saver saver ok' held shared found moves =>
    obtain ⟨-, -, -, channel, messages, requests⟩ := saver_apart moves
    exact reached.of_same (fun _ _ => .rfl) requests channel []
      (messages.trans same_messages) rfl rfl
  | panics saver held found before =>
    exact reached.of_same (fun _ _ => .rfl) rfl rfl [] same_messages rfl rfl
  | exit late ok' s' moves => exact exit_reaches reached moves

/-! ## Going on -/

/-- A step of a thread that has to do with drafts, or a review's answer. -/
def works : DraftEvent → Bool
  | .recorder _ _ => true
  | .ui_receives => true
  | .ui_takes _ => true
  | .ui_answers _ _ => true
  | .ui_closes => true
  | .ui _ => true
  | .saver _ _ => true
  | _ => false

/-- One of these steps can be taken. -/
def CanGoOn (s : DraftHost) : Prop :=
  ∃ event, works event = true ∧ (s.step event).isSome = true

/-- Exit waits for the desktop UI thread with the lock that a thread wants to open a review. -/
def HeldUp (s : DraftHost) : Prop :=
  s.exit = .joins_ui ∧ ∃ draft, .opens draft ∈ hands s

/-- A thread with something to do can go on, unless it waits for the lock. -/
theorem hand_steps {s : DraftShared} {hand : Hand} (not_idle : hand ≠ .idle)
    (not_records : hand ≠ .records) (unlocked : ∀ draft, hand = .opens draft → s.ui_locked = false)
    (made : ∀ request, hand = .requests request ∨ hand = .withdraws request →
      request < s.requests.length) : (hand.step s true).isSome = true := by
  cases hand with
  | idle => exact absurd rfl not_idle
  | records => exact absurd rfl not_records
  | finished draft =>
    simp only [Hand.step]
    split <;> rfl
  | queues draft =>
    simp only [Hand.step]
    split <;> rfl
  | opens draft =>
    simp only [Hand.step, unlocked draft rfl]
    split
    · rename_i locked
      cases locked
    · split <;> rfl
  | requests request =>
    have found := List.getElem?_eq_getElem (made request (.inl rfl))
    simp only [Hand.step, found]
    split <;> rfl
  | posts request =>
    simp only [Hand.step]
    split <;> rfl
  | withdraws request =>
    have request_lt := made request (.inr rfl)
    simp only [Hand.step, List.getElem?_eq_getElem request_lt]
    cases s.requests[request] with
    | mk draft place => cases draft <;> rfl
  | concludes draft outcome =>
    simp only [Hand.step]
    split
    · rfl
    · rfl
    · rfl
  | keeps saver shutting_down => rfl
  | saves draft shutting_down => rfl
  | edit_fails draft shutting_down => rfl
  | passes_on shutting_down =>
    simp only [Hand.step]
    split <;> rfl

/-- A thread with something to do goes on, or another one does, or exit holds it up. -/
theorem hand_goes_on (ok : HostOk s) (reached : Reached s) (running : s.exit ≠ .gone) {hand : Hand}
    (member : hand ∈ hands s) (not_idle : hand ≠ .idle) (not_records : hand ≠ .records) :
    CanGoOn s ∨ HeldUp s := by
  have steps {hand : Hand} (member : hand ∈ hands s) (not_idle : hand ≠ .idle)
      (not_records : hand ≠ .records)
      (unlocked : ∀ draft, hand = .opens draft → s.shared.ui_locked = false) : CanGoOn s := by
    have can := hand_steps not_idle not_records unlocked (by
      rintro request (rfl | rfl)
      · exact reached.made request (.inl member)
      · exact reached.made request (.inr (.inr (.inl member))))
    obtain ⟨⟨shared, hand'⟩, stepped⟩ := Option.isSome_iff_exists.mp can
    rcases List.mem_cons.mp member with rfl | member
    · refine ⟨.ui true, rfl, ?_⟩
      simp only [DraftHost.step, running, if_false, stepped, Option.map_some, Option.isSome_some]
    · obtain ⟨recorder, found⟩ := List.mem_iff_getElem?.mp member
      refine ⟨.recorder recorder true, rfl, ?_⟩
      simp only [DraftHost.step, running, if_false, found, stepped, Option.map_some,
        Option.isSome_some]
  by_cases wants : ∃ draft, hand = .opens draft
  · obtain ⟨draft, rfl⟩ := wants
    cases locked : s.shared.ui_locked with
    | false => exact .inl (steps member nofun nofun fun _ _ => locked)
    | true =>
      by_cases exits : s.exit = .joins_ui
      · exact .inr ⟨exits, draft, member⟩
      · -- Another thread holds the lock, and it wants none.
        have lock := ok.lock
        rw [locked, decide_eq_false exits] at lock
        have some_holds : ¬ ∀ other ∈ hands s, locks other = 0 := by
          intro none_holds
          rw [tally_eq_zero_iff.mpr none_holds] at lock
          cases lock
        push Not at some_holds
        obtain ⟨holder, there, holds⟩ := some_holds
        refine .inl (steps there ?_ ?_ ?_)
        · rintro rfl
          exact holds rfl
        · rintro rfl
          exact holds rfl
        · rintro draft rfl
          exact absurd rfl holds
  · exact .inl (steps member not_idle not_records fun draft same => absurd ⟨draft, same⟩ wants)

/-- A request that has its draft is gone on with. -/
theorem request_goes_on (ok : HostOk s) (reached : Reached s) (running : s.exit ≠ .gone)
    {request : Nat} (reach : InReach s request) : CanGoOn s ∨ HeldUp s := by
  have drains_on (stage : s.ui = .drains) (idle : s.ui_hand = .idle) : CanGoOn s := by
    refine ⟨.ui_takes true, rfl, ?_⟩
    simp only [DraftHost.step, running, if_false, stage, idle]
    cases queued : s.shared.channel with
    | nil => rfl
    | cons first channel =>
      have first_lt := reached.made first (.inr (.inr (.inr (by rw [queued]; exact .head _))))
      simp only [if_true, List.getElem?_eq_getElem first_lt, Option.isSome_some]
  by_cases idle : s.ui_hand = .idle
  · rcases reach with there | there | ⟨-, there | stage | ⟨stage, before, after, posted, -⟩⟩ |
      there | there
    · exact hand_goes_on ok reached running there nofun nofun
    · exact hand_goes_on ok reached running there nofun nofun
    · exact hand_goes_on ok reached running there nofun nofun
    · exact .inl (drains_on stage idle)
    · refine .inl ⟨.ui_receives, rfl, ?_⟩
      simp only [DraftHost.step, running, if_false, stage, idle, posted]
      cases before with
      | nil => rfl
      | cons message before => cases message <;> rfl
    · have serves := ok.shown (List.ne_nil_of_mem there)
      cases stage : s.ui with
      | pumps =>
        refine .inl ⟨.ui_answers request none, rfl, ?_⟩
        simp only [DraftHost.step, running, if_false, stage, idle, there, and_self, if_true,
          Option.isSome_some]
      | drains => exact .inl (drains_on stage idle)
      | absent =>
        rw [stage] at serves
        cases serves
      | closes reviews =>
        rw [stage] at serves
        cases serves
      | ended =>
        rw [stage] at serves
        cases serves
    · cases stage : s.ui with
      | closes reviews =>
        refine .inl ⟨.ui_closes, rfl, ?_⟩
        simp only [DraftHost.step, running, if_false, stage, idle]
        cases reviews <;> rfl
      | absent =>
        rw [stage] at there
        cases there
      | pumps =>
        rw [stage] at there
        cases there
      | drains =>
        rw [stage] at there
        cases there
      | ended =>
        rw [stage] at there
        cases there
  · exact hand_goes_on ok reached running List.mem_cons_self idle ok.no_record

/-- The thread looks for its draft no more. -/
def past_taking : SaverStage → Bool
  | .writes _ _ => true
  | .ended => true
  | _ => false

/-- No saver's thread has gone past its draft and left it where it was. -/
def SaversOk (s : DraftHost) : Prop :=
  ∀ held ∈ s.shared.savers, past_taking held.stage = true → held.unsaved = none

/-- What holds of each saver still does when one is changed for another of which it does. -/
theorem savers_set {savers : List Saver} {changed : Saver} (saver : Nat)
    (before : ∀ held ∈ savers, past_taking held.stage = true → held.unsaved = none)
    (own : past_taking changed.stage = true → changed.unsaved = none) :
    ∀ held ∈ savers.set saver changed, past_taking held.stage = true → held.unsaved = none := by
  intro other member
  rcases List.mem_or_eq_of_mem_set member with member | rfl
  · exact before other member
  · exact own

/-- **One step** in which no encoding panics.
SRC: recording.rs:1315-1357, 1445-1457 -/
theorem SaversOk.step (ok : SaversOk s) (calm : ∀ saver, event ≠ .saver_panics saver)
    (moves : DraftMoves s event s') : SaversOk s' := by
  cases moves with
  | hand event thread hand hand' shared found moves threads =>
    unfold SaversOk
    rw [(with_hand_shared s thread shared hand').1]
    cases moves with
    | spawns draft outcome edit shutting_down =>
      intro saver member
      rcases List.mem_append.mp member with member | member
      · exact ok saver member
      · rw [List.mem_singleton.mp member]
        exact nofun
    | _ => exact ok
  | calls event request outcome channel ui shown idle calls threads =>
    show ∀ held ∈ (DraftShared.answers _ request outcome).1.savers, _
    unfold DraftShared.answers
    split <;> exact ok
  | saver saver ok' held shared found moves =>
    have own := ok held (List.mem_of_getElem? found)
    cases moves with
    | reads draft untaken before => exact savers_set saver ok nofun
    | encodes encoded before => exact savers_set saver ok nofun
    | leaves untaken before => exact savers_set saver ok fun _ => untaken
    | takes draft encoded untaken before => exact savers_set saver ok fun _ => rfl
    | fails draft before => exact savers_set saver ok fun _ => own (by rw [before]; rfl)
    | ends draft edited what before =>
      exact savers_set saver ok fun _ => own (by rw [before]; rfl)
  | panics saver held found before => exact absurd rfl (calm saver)
  | exit late ok' s' moves =>
    cases moves with
    | saver_overrun saver savers held draft stage passed runs found untaken =>
      exact savers_set saver ok fun _ => rfl
    | _ => exact ok
  | _ => exact ok

/-- A saver's thread that has a draft goes on. -/
theorem saver_goes_on (ok : SaversOk s) (running : s.exit ≠ .gone) {held : Saver}
    (member : held ∈ s.shared.savers) (holds : saver_drafts held ≠ []) : CanGoOn s := by
  obtain ⟨saver, found⟩ := List.mem_iff_getElem?.mp member
  refine ⟨.saver saver true, rfl, ?_⟩
  simp only [DraftHost.step, running, if_false, Option.isSome_map, Saver.step, found]
  cases stage : held.stage with
  | reads => rfl
  | encodes => rfl
  | takes encoded =>
    cases held.unsaved <;> rfl
  | writes draft edited =>
    cases edited <;> rfl
  | ended =>
    have taken := ok held member (by rw [stage]; rfl)
    unfold saver_drafts at holds
    rw [stage, taken] at holds
    exact absurd rfl holds

/-- As long as a draft has not ended, a thread goes on, a review waits for its answer, or exit saves
the draft or holds the lock. -/
theorem unended_goes_on (kept : DraftsKept s) (ok : HostOk s) (reached : Reached s)
    (savers : SaversOk s) (running : s.exit ≠ .gone)
    (unended : ¬ s.recorded.Perm (s.shared.ended.map Prod.fst)) :
    CanGoOn s ∨ HeldUp s ∨ ∃ draft savers, s.exit = .saves draft savers := by
  have of_hand {hand : Hand} (member : hand ∈ hands s)
      (busy : turn hand ≠ 0 ∨ hand_drafts hand ≠ []) : CanGoOn s ∨ HeldUp s := by
    apply hand_goes_on ok reached running member
    · rintro rfl
      rcases busy with busy | busy <;> exact busy rfl
    · rintro rfl
      rcases busy with busy | busy <;> exact busy rfl
  have of_request {held : ReviewRequest} (member : held ∈ s.shared.requests) {draft : Draft}
      (has : held.draft = some draft) : CanGoOn s ∨ HeldUp s := by
    obtain ⟨request, found⟩ := List.mem_iff_getElem?.mp member
    exact request_goes_on ok reached running (reached.reach request held draft found has)
  have left : ¬ (s.shared.waiting = [] ∧ s.shared.requests.flatMap shared_draft = [] ∧
      s.shared.savers.flatMap saver_drafts = [] ∧ (hands s).flatMap hand_drafts = [] ∧
      exit_drafts s.exit = []) := by
    rintro ⟨waiting, requests, savers, in_hands, exits⟩
    apply unended
    have kept := kept.kept
    unfold drafts shared_drafts at kept
    rw [waiting, requests, savers, in_hands, exits] at kept
    simpa using kept
  by_cases waiting : s.shared.waiting = []
  · by_cases requests : s.shared.requests.flatMap shared_draft = []
    · by_cases some_saver : s.shared.savers.flatMap saver_drafts = []
      · by_cases in_hands : (hands s).flatMap hand_drafts = []
        · have exits : exit_drafts s.exit ≠ [] := by
            intro exits
            exact left ⟨waiting, requests, some_saver, in_hands, exits⟩
          refine .inr (.inr ?_)
          cases stage : s.exit with
          | saves draft savers => exact ⟨draft, savers, rfl⟩
          | _ =>
            rw [stage] at exits
            exact absurd rfl exits
        · simp only [List.flatMap_eq_nil_iff, not_forall] at in_hands
          obtain ⟨hand, member, holds⟩ := in_hands
          exact (of_hand member (.inr holds)).imp_right .inl
      · simp only [List.flatMap_eq_nil_iff, not_forall] at some_saver
        obtain ⟨held, member, holds⟩ := some_saver
        exact .inl (saver_goes_on savers running member holds)
    · simp only [List.flatMap_eq_nil_iff, not_forall] at requests
      obtain ⟨held, member, holds⟩ := requests
      cases has : held.draft with
      | none =>
        unfold shared_draft at holds
        rw [has] at holds
        exact absurd rfl holds
      | some draft => exact (of_request member has).imp_right .inl
  · -- The queue is open, so a thread or a request is the review's.
    have one_review : tally turn (hands s) + tally live s.shared.requests = 1 := by
      rw [kept.one_review]
      cases is_open : s.shared.is_open with
      | true => rfl
      | false => exact absurd (kept.none_waits is_open) waiting
    by_cases some_turn : tally turn (hands s) = 0
    · have some_live : ¬ ∀ held ∈ s.shared.requests, live held = 0 := by
        intro none_live
        rw [some_turn, tally_eq_zero_iff.mpr none_live] at one_review
        cases one_review
      push Not at some_live
      obtain ⟨held, member, has⟩ := some_live
      cases at_held : held.draft with
      | none =>
        unfold live at has
        rw [at_held] at has
        exact absurd rfl has
      | some draft => exact (of_request member at_held).imp_right .inl
    · rw [tally_eq_zero_iff] at some_turn
      push Not at some_turn
      obtain ⟨hand, member, busy⟩ := some_turn
      exact (of_hand member (.inl busy)).imp_right .inl

/-! ## Coming to an end -/

/-- How far a thread is from having nothing to do. -/
def hand_weight : Hand → Nat
  | .idle => 0
  | .records => 0
  | .finished _ => 22
  | .queues _ => 21
  | .opens _ => 20
  | .requests _ => 9
  | .posts _ => 4
  | .withdraws _ => 1
  | .concludes _ _ => 9
  | .keeps _ _ => 2
  | .saves _ shutting_down => 1 + shutting_down.isSome.toNat
  | .edit_fails _ _ => 2
  | .passes_on _ => 1

/-- How far a saver's thread is from its end. -/
def saver_weight (saver : Saver) : Nat :=
  match saver.stage with
  | .reads => 6
  | .encodes => 5
  | .takes _ => 4
  | .writes _ true => 3
  | .writes _ false => 2
  | .ended => 0

def ui_weight : UiStage → Nat
  | .absent => 0
  | .pumps => 2
  | .drains => 3
  | .closes reviews => 1 + 3 * reviews.length
  | .ended => 0

/-- What is left to do in what the threads share. -/
def shared_weight (s : DraftShared) : Nat :=
  20 * s.waiting.length + 10 * tally live s.requests + tally saver_weight s.savers +
    2 * s.messages.length + 4 * s.channel.length

/-- How many steps the threads and the answers of reviews can take at most. -/
def remaining (s : DraftHost) : Nat :=
  tally hand_weight (hands s) + shared_weight s.shared + 3 * s.shown.length + ui_weight s.ui

/-- Changing one request changes the tally of those that live by that one. -/
theorem live_of_found {s : DraftShared} {request : Nat} {held : ReviewRequest}
    (found : s.requests[request]? = some held) (changed : ReviewRequest) :
    tally live (s.requests.set request changed) + live held =
      tally live s.requests + live changed :=
  tally_set found live changed

/-- **A thread's step** leaves less to do. -/
theorem hand_lessens {s shared : DraftShared} {hand hand' : Hand}
    (moves : HandMoves s hand shared hand') :
    shared_weight shared + hand_weight hand' < shared_weight s + hand_weight hand := by
  cases moves with
  | exiting draft exiting => exact Nat.add_lt_add_left (by decide : 1 < 22) _
  | reviewed draft => exact Nat.add_lt_add_left (by decide : 21 < 22) _
  | waits draft is_open =>
    simp only [shared_weight, List.length_append, List.length_singleton, hand_weight]
    omega
  | first draft closed => exact Nat.add_lt_add_left (by decide : 20 < 21) _
  | asks draft free started =>
    have one : live ⟨some draft, .fresh⟩ = 1 := rfl
    simp only [shared_weight, tally_append, tally_singleton, one, hand_weight]
    omega
  | alone draft free absent => exact Nat.add_lt_add_left (by decide : 9 < 20) _
  | sends request held found receiving =>
    have same := tally_requests_set found .sent live rfl
    simp only [shared_weight, DraftShared.with_request, same, List.length_append,
      List.length_singleton, hand_weight]
    omega
  | unsent request held found dropped =>
    have same := tally_requests_set found .dropped live rfl
    simp only [shared_weight, DraftShared.with_request, same, hand_weight]
    omega
  | posts request receiving =>
    simp only [shared_weight, List.length_append, List.length_singleton, hand_weight]
    omega
  | unposted request => exact Nat.add_lt_add_left (by decide : 1 < 4) _
  | withdraws request draft place found =>
    have set : tally live (s.requests.set request ⟨none, place⟩) + 1 = tally live s.requests + 0 :=
      live_of_found found ⟨none, place⟩
    simp only [shared_weight, DraftShared.with_request, hand_weight]
    omega
  | answered request place found => exact Nat.add_lt_add_left (by decide : 0 < 1) _
  | spawns draft outcome edit shutting_down =>
    have six : saver_weight ⟨some draft, edit, .reads⟩ = 6 := rfl
    simp only [shared_weight, tally_append, tally_singleton, six, hand_weight]
    omega
  | unspawned draft outcome shutting_down => exact Nat.add_lt_add_left (by decide : 2 < 9) _
  | unchanged draft outcome shutting_down => exact Nat.add_lt_add_left (by decide : 2 < 9) _
  | discards draft outcome shutting_down => exact Nat.add_lt_add_left (by decide : 1 < 9) _
  | keeps saver shutting_down => exact Nat.add_lt_add_left (by decide : 1 < 2) _
  | saves_last draft what => exact Nat.add_lt_add_left (by decide : 0 < 1) _
  | saves draft shutting_down what => exact Nat.add_lt_add_left (by decide : 1 < 2) _
  | edit_fails draft shutting_down what => exact Nat.add_lt_add_left (by decide : 1 < 2) _
  | concludes_next draft waiting queued =>
    simp only [shared_weight, queued, List.length_cons, hand_weight]
    omega
  | opens_next draft waiting queued =>
    simp only [shared_weight, queued, List.length_cons, hand_weight]
    omega
  | last shutting_down empty => exact Nat.add_lt_add_left (by decide : 0 < 1) _

/-- So does a saver's. -/
theorem saver_lessens {s shared : DraftShared} {saver : Nat} {held : Saver}
    (found : s.savers[saver]? = some held) (moves : SaverMoves s saver held shared) :
    shared_weight shared < shared_weight s := by
  have less {changed : Saver} (lighter : saver_weight changed < saver_weight held) :
      shared_weight (s.with_saver saver changed) < shared_weight s := by
    have set := tally_set found saver_weight changed
    simp only [shared_weight, DraftShared.with_saver]
    omega
  cases moves with
  | reads draft untaken before =>
    apply less
    simp only [saver_weight, before]
    decide
  | encodes encoded before =>
    apply less
    simp only [saver_weight, before]
    decide
  | leaves untaken before =>
    apply less
    rcases before with before | ⟨encoded, before⟩
    · simp only [saver_weight, before]
      decide
    · simp only [saver_weight, before]
      decide
  | takes draft encoded untaken before =>
    apply less
    simp only [saver_weight, before]
    cases encoded with
    | false => exact (by decide : 2 < 4)
    | true => exact (by decide : 3 < 4)
  | fails draft before =>
    apply less
    simp only [saver_weight, before]
    decide
  | ends draft edited what before =>
    refine @less { held with stage := .ended } ?_
    simp only [saver_weight, before]
    cases edited with
    | false => exact (by decide : 0 < 2)
    | true => exact (by decide : 0 < 3)

/-- An answer that is called gives the thread less to do than the request was. -/
theorem answers_lessen (s : DraftShared) (request : Nat) (outcome : ReviewOutcome) :
    shared_weight (s.answers request outcome).1 + hand_weight (s.answers request outcome).2 ≤
      shared_weight s := by
  unfold DraftShared.answers
  split
  · rename_i draft place found
    have set : tally live (s.requests.set request ⟨none, .answered⟩) + 1 =
        tally live s.requests + 0 := live_of_found found ⟨none, .answered⟩
    simp only [shared_weight, DraftShared.with_request, hand_weight]
    omega
  · rename_i place found
    have set : tally live (s.requests.set request ⟨none, .answered⟩) + 0 =
        tally live s.requests + 0 := live_of_found found ⟨none, .answered⟩
    simp only [shared_weight, DraftShared.with_request, hand_weight]
    omega
  · exact Nat.le_refl _

/-- **One step** of a thread, or of an answer, leaves less to do. -/
theorem remaining_lessens (works_on : works event = true) (moves : DraftMoves s event s') :
    remaining s' < remaining s := by
  cases moves with
  | hand event thread hand hand' shared found moves threads =>
    have less := hand_lessens moves
    have set := tally_set found hand_weight hand'
    have apart : (with_hand s thread shared hand').ui = s.ui ∧
        (with_hand s thread shared hand').shown = s.shown := by
      cases thread <;> exact ⟨rfl, rfl⟩
    unfold remaining
    rw [hands_with_hand, (with_hand_shared s thread shared hand').1, apart.1, apart.2]
    omega
  | drains messages stage idle posted =>
    simp only [remaining, shared_weight, posted, List.length_cons, stage, ui_weight, hands]
    omega
  | stops messages stage idle posted =>
    simp only [remaining, shared_weight, posted, List.length_cons, List.length_nil, stage,
      ui_weight, hands]
    omega
  | shows request channel held stage idle queued found =>
    have same := tally_requests_set found .shown live rfl
    simp only [remaining, shared_weight, DraftShared.with_request, same, queued, List.length_cons,
      List.length_append, List.length_nil, hands]
    omega
  | drained opened stage idle empty =>
    simp only [remaining, stage, ui_weight, hands]
    omega
  | calls event request outcome channel ui shown idle calls threads =>
    have less := answers_lessen { s.shared with channel } request outcome
    have channels : shared_weight { s.shared with channel } + 4 * s.shared.channel.length =
        shared_weight s.shared + 4 * channel.length := by
      simp only [shared_weight]
      omega
    have none_left : hand_weight .idle = 0 := rfl
    dsimp only at less channels
    simp only [remaining, DraftHost.ui_calls, hands, tally_cons, idle, none_left]
    cases calls with
    | drains _ stage queued =>
      rw [queued] at channels
      simp only [List.length_cons] at channels
      simp only [stage]
      omega
    | pumps stage there =>
      have erased := List.length_erase_of_mem there
      have some_shown := List.length_pos_of_mem there
      simp only [stage]
      omega
    | closes reviews stage =>
      simp only [stage, ui_weight, List.length_cons]
      omega
  | destroyed stage idle =>
    have same := tally_destroyed s live fun _ _ => rfl
    simp only [DraftHost.host_destroyed] at same
    simp only [remaining, DraftHost.host_destroyed, shared_weight, same, stage, ui_weight,
      List.length_nil, hands]
    omega
  | saver saver ok held shared found moves =>
    have less := saver_lessens found moves
    simp only [remaining, hands]
    omega
  | _ => cases works_on

/-- The host is as it should be at the start. -/
theorem start_host_ok : HostOk DraftHost.start where
  lock := rfl
  holder := nofun
  started := nofun
  receiving := rfl
  dropped := fun _ => ⟨rfl, rfl⟩
  shown := fun some_shown => absurd rfl some_shown
  no_record := nofun
  ended := fun _ => rfl

/-- There is no request at the start. -/
theorem start_reached : Reached DraftHost.start where
  reach := nofun
  made := by
    rintro request (there | there | there | there)
    · cases List.mem_singleton.mp there
    · cases List.mem_singleton.mp there
    · cases List.mem_singleton.mp there
    · cases there

/-- **Drafts go on.**  In every state of every run in which no encoding panics, until the process is
gone: as long as a draft has not ended, a thread can go on, a review waits for its answer, exit
saves the draft, or exit holds the lock that the desktop UI thread or a recording's thread wants.
And the threads cannot go on for ever: the steps they and the answers can take are at most
`remaining s`.
SRC: recording.rs:1161-1459; selection.rs:833-860; desktop_ui.rs:190-238, 419-543 -/
theorem drafts_go_on {s : DraftHost} {steps : List (Taken DraftHost DraftEvent)}
    (run : Run DraftStep DraftHost.start steps s)
    (calm : ∀ t ∈ steps, ∀ saver, t.event ≠ .saver_panics saver) :
    (s.exit ≠ .gone → ¬ s.recorded.Perm (s.shared.ended.map Prod.fst) →
      CanGoOn s ∨ HeldUp s ∨ ∃ draft savers, s.exit = .saves draft savers) ∧
    ∀ (more : List (Taken DraftHost DraftEvent)) (s' : DraftHost), Run DraftStep s more s' →
      (∀ t ∈ more, works t.event = true) → more.length + remaining s' ≤ remaining s := by
  have invariant : (DraftsKept s ∧ HostOk s ∧ Reached s) ∧ SaversOk s := by
    refine run.inv_of_meets (P := fun s => (DraftsKept s ∧ HostOk s ∧ Reached s) ∧ SaversOk s)
      (C := fun _ event => ∀ saver, event ≠ .saver_panics saver) ?_ ?_ calm
    · rintro s event s' ⟨⟨kept, ok, reached⟩, savers⟩ calm taken
      have moves := (draft_moves taken).2
      exact ⟨⟨kept.step moves, ok.step moves, reached.step ok moves⟩, savers.step calm moves⟩
    · exact ⟨⟨start_drafts_kept, start_host_ok, start_reached⟩, nofun⟩
  obtain ⟨⟨kept, ok, reached⟩, savers⟩ := invariant
  refine ⟨unended_goes_on kept ok reached savers, ?_⟩
  intro more s' later all_work
  induction later with
  | nil => exact Nat.le_of_eq (Nat.zero_add _)
  | snoc later taken ih =>
    rw [List.forall_mem_append, List.forall_mem_singleton] at all_work
    have before := ih all_work.1
    have less := remaining_lessens all_work.2 (draft_moves taken).2
    rw [List.length_append, List.length_singleton]
    omega

/-- Two drafts, the second of which waits for the first one's review. -/
theorem drafts_go_on_two_drafts :
    ∃ steps s, Run DraftStep DraftHost.start steps s ∧ steps.map Taken.event = two_drafts ∧
      (s.exit ≠ .gone → ¬ s.recorded.Perm (s.shared.ended.map Prod.fst) →
        CanGoOn s ∨ HeldUp s ∨ ∃ draft savers, s.exit = .saves draft savers) ∧
      ∀ (more : List (Taken DraftHost DraftEvent)) (s' : DraftHost), Run DraftStep s more s' →
        (∀ t ∈ more, works t.event = true) → more.length + remaining s' ≤ remaining s := by
  have computed : (two_drafts.foldlM DraftHost.step DraftHost.start).isSome = true := by decide
  obtain ⟨s, computed⟩ := Option.isSome_iff_exists.mp computed
  obtain ⟨steps, same, run⟩ := @Run.of_foldlM _ _ DraftStep _ _ DraftHost.step
    (fun _ _ _ taken => taken) _ computed
  refine ⟨steps, s, run, same, drafts_go_on run ?_⟩
  have none_panics : ∀ event ∈ two_drafts, ∀ saver, event ≠ .saver_panics saver := by
    simp [two_drafts]
  intro t member
  exact none_panics t.event (same ▸ List.mem_map_of_mem member)

end Captastic.Analysis
