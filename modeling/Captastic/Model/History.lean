import Captastic.Model.UiState

/-!
# Recent captures

`captastic-config/src/history.rs`, with `HistoryConfig` of `lib.rs`: the captures Captastic
remembers, newest first, and the pass that forgets some of them.

An instant is a number of nanoseconds from the Unix epoch, negative before it, and a duration a
number of nanoseconds.  A path is its text.
-/

set_option autoImplicit false

namespace Captastic.Model

/-- `u64::MAX` -/
def U64_MAX : Nat := 18446744073709551615

abbrev U64 := { v : Nat // v ≤ U64_MAX }

/-- An `i64`. -/
abbrev I64 := { v : Int // -9223372036854775808 ≤ v ∧ v ≤ 9223372036854775807 }

/-- `u64::saturating_add` -/
def saturating_add_u64 (a b : Nat) : Nat := min (a + b) U64_MAX

/-- SRC: history.rs:26-43 -/
structure HistoryEntry where
  path : String
  captured_at_micros : I64
  bytes : U64
  width : U32
  height : U32
  display : String
  mode : String
deriving DecidableEq

/-- How old an entry is; one stamped in the future, or before the epoch, is not old.
SRC: history.rs:46-52 -/
def HistoryEntry.age (entry : HistoryEntry) (now : Int) : Nat :=
  let micros := entry.captured_at_micros.val.toNat
  (now - micros * 1000).toNat

/-- SRC: history.rs:64-73 -/
structure RetentionPolicy where
  max_items : Nat
  max_age : Option Nat
  max_total_bytes : Option U64

/-- SRC: lib.rs:1066-1078 -/
structure HistoryConfig where
  max_items : Nat
  max_age_days : U32
  max_total_bytes : U64

/-- SRC: lib.rs:1091-1100 -/
def HistoryConfig.retention (config : HistoryConfig) : RetentionPolicy where
  max_items := config.max_items
  max_age :=
    if 0 < config.max_age_days.val then some (config.max_age_days.val * 24 * 60 * 60 * 1000000000)
    else none
  max_total_bytes := if 0 < config.max_total_bytes.val then some config.max_total_bytes else none

/-- SRC: history.rs:24 -/
def HISTORY_SCHEMA_VERSION : Nat := 1

/-- SRC: history.rs:75-82 -/
structure CaptureHistory where
  schema_version : Nat
  entries : List HistoryEntry
deriving DecidableEq

/-- `CaptureHistory::default()` -/
def CaptureHistory.initial : CaptureHistory := ⟨HISTORY_SCHEMA_VERSION, []⟩

/-! ## Retention -/

/-- What a pass has decided so far. -/
structure Pruning where
  kept : List HistoryEntry
  dropped : List HistoryEntry
  total_bytes : Nat

/-- SRC: history.rs:123 -/
def RetentionPolicy.too_old (policy : RetentionPolicy) (now : Int) (entry : HistoryEntry) : Bool :=
  policy.max_age.any fun limit => decide (limit < entry.age now)

/-- SRC: history.rs:124-126 -/
def RetentionPolicy.too_large (policy : RetentionPolicy) (total_bytes : Nat)
    (entry : HistoryEntry) : Bool :=
  policy.max_total_bytes.any fun limit =>
    decide (limit.val < saturating_add_u64 total_bytes entry.bytes.val)

/-- The body of the pass's loop.
SRC: history.rs:121-133 -/
def Pruning.step (policy : RetentionPolicy) (now : Int) (so_far : Pruning) (entry : HistoryEntry) :
    Pruning :=
  let too_many := decide (policy.max_items ≤ so_far.kept.length)
  if too_many || policy.too_old now entry || policy.too_large so_far.total_bytes entry then
    { so_far with dropped := so_far.dropped ++ [entry] }
  else
    { so_far with
      total_bytes := saturating_add_u64 so_far.total_bytes entry.bytes.val
      kept := so_far.kept ++ [entry] }

namespace CaptureHistory

/-- SRC: history.rs:95-97 -/
def most_recent (history : CaptureHistory) : Option HistoryEntry := history.entries.head?

/-- The history with what is kept, and what was dropped.
SRC: history.rs:116-137 -/
def prune (history : CaptureHistory) (policy : RetentionPolicy) (now : Int) :
    CaptureHistory × List HistoryEntry :=
  let pass := history.entries.foldl (Pruning.step policy now) ⟨[], [], 0⟩
  ({ history with entries := pass.kept }, pass.dropped)

/-- SRC: history.rs:99-114 -/
def record (history : CaptureHistory) (entry : HistoryEntry) (policy : RetentionPolicy)
    (now : Int) : CaptureHistory × List HistoryEntry :=
  { history with entries := entry :: history.entries }.prune policy now

end CaptureHistory

end Captastic.Model
