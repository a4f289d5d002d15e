import Captastic.Model.History
import Mathlib.Data.List.Infix

/-!
# What a history forgets

A pass over the history keeps what its limits allow, in the order it stands in, and a second pass
at the same time forgets nothing more.  It does not always keep the front: past a capture that is
too large for what is left of the byte limit it goes on, and keeps an older one that still fits.
`prune_retains_iff` says exactly when the kept captures are the newest of those not too old.
-/

set_option autoImplicit false

namespace Captastic.Analysis

open Captastic.Model

variable (policy : RetentionPolicy) (now : Int)

/-- The bytes of the captures referred to. -/
def bytes_of (entries : List HistoryEntry) : Nat := (entries.map fun entry => entry.bytes.val).sum

/-- The entries not too old. -/
def recent (entries : List HistoryEntry) : List HistoryEntry :=
  entries.filter fun entry => !policy.too_old now entry

/-! ## The pass, read from the front -/

/-- Whether the pass drops an entry, when it has kept `n` entries of `total` bytes. -/
def drops (n total : Nat) (entry : HistoryEntry) : Bool :=
  decide (policy.max_items ≤ n) || policy.too_old now entry ||
    policy.too_large (min total U64_MAX) entry

/-- What a pass keeps that has kept `n` entries of `total` bytes. -/
def kept_from : Nat → Nat → List HistoryEntry → List HistoryEntry
  | _, _, [] => []
  | n, total, entry :: older =>
    if drops policy now n total entry then kept_from n total older
    else entry :: kept_from (n + 1) (total + entry.bytes.val) older

/-- What it drops. -/
def dropped_from : Nat → Nat → List HistoryEntry → List HistoryEntry
  | _, _, [] => []
  | n, total, entry :: older =>
    if drops policy now n total entry then entry :: dropped_from n total older
    else dropped_from (n + 1) (total + entry.bytes.val) older

variable {policy now}

/-- A saturated sum, continued, saturates at the sum. -/
theorem saturating_add_min (total bytes : Nat) :
    saturating_add_u64 (min total U64_MAX) bytes = min (total + bytes) U64_MAX := by
  unfold saturating_add_u64
  omega

variable (policy now) in
/-- The pass is its reading from the front. -/
theorem foldl_step (entries kept dropped : List HistoryEntry) (total : Nat) :
    ∃ total', entries.foldl (Pruning.step policy now) ⟨kept, dropped, min total U64_MAX⟩ =
      ⟨kept ++ kept_from policy now kept.length total entries,
        dropped ++ dropped_from policy now kept.length total entries, total'⟩ := by
  induction entries generalizing kept dropped total with
  | nil =>
    refine ⟨min total U64_MAX, ?_⟩
    unfold kept_from dropped_from
    rw [List.append_nil, List.append_nil]
    rfl
  | cons entry older ih =>
    rw [List.foldl_cons]
    unfold kept_from dropped_from
    by_cases drop : drops policy now kept.length total entry = true
    · have stepped : Pruning.step policy now ⟨kept, dropped, min total U64_MAX⟩ entry =
          ⟨kept, dropped ++ [entry], min total U64_MAX⟩ := if_pos drop
      obtain ⟨total', folded⟩ := ih kept (dropped ++ [entry]) total
      refine ⟨total', ?_⟩
      rw [stepped, folded, if_pos drop, if_pos drop, List.append_assoc]
      rfl
    · have stepped : Pruning.step policy now ⟨kept, dropped, min total U64_MAX⟩ entry =
          ⟨kept ++ [entry], dropped, min (total + entry.bytes.val) U64_MAX⟩ := by
        rw [← saturating_add_min]
        exact if_neg drop
      obtain ⟨total', folded⟩ := ih (kept ++ [entry]) dropped (total + entry.bytes.val)
      refine ⟨total', ?_⟩
      rw [stepped, folded, if_neg drop, if_neg drop, List.append_assoc, List.length_append]
      rfl

/-- What a pass keeps and drops is its reading from the front. -/
theorem prune_eq (history : CaptureHistory) :
    history.prune policy now =
      ({ history with entries := kept_from policy now 0 0 history.entries },
        dropped_from policy now 0 0 history.entries) := by
  obtain ⟨total', folded⟩ := foldl_step policy now history.entries [] [] 0
  unfold CaptureHistory.prune
  dsimp only
  rw [← Nat.zero_min U64_MAX, folded]
  rfl

/-! ## What every pass does -/

/-- What is kept stands in the order it stood in. -/
theorem kept_from_sublist (n total : Nat) (entries : List HistoryEntry) :
    (kept_from policy now n total entries).Sublist entries := by
  induction entries generalizing n total with
  | nil => exact List.Sublist.refl _
  | cons entry older ih =>
    unfold kept_from
    split
    · exact (ih n total).cons entry
    · exact (ih _ _).cons_cons entry

/-- So does what is dropped. -/
theorem dropped_from_sublist (n total : Nat) (entries : List HistoryEntry) :
    (dropped_from policy now n total entries).Sublist entries := by
  induction entries generalizing n total with
  | nil => exact List.Sublist.refl _
  | cons entry older ih =>
    unfold dropped_from
    split
    · exact (ih n total).cons_cons entry
    · exact (ih _ _).cons entry

/-- Every entry is kept or dropped, once. -/
theorem kept_dropped_perm (n total : Nat) (entries : List HistoryEntry) :
    (kept_from policy now n total entries ++ dropped_from policy now n total entries).Perm
      entries := by
  induction entries generalizing n total with
  | nil => exact List.Perm.refl _
  | cons entry older ih =>
    unfold kept_from dropped_from
    split
    · exact List.perm_middle.trans ((ih n total).cons entry)
    · exact (ih _ _).cons entry

/-- No more entries are kept than may be. -/
theorem kept_from_length_le (n total : Nat) (entries : List HistoryEntry)
    (within : n ≤ policy.max_items) :
    n + (kept_from policy now n total entries).length ≤ policy.max_items := by
  induction entries generalizing n total with
  | nil => exact within
  | cons entry older ih =>
    unfold kept_from
    split
    · exact ih n total within
    · rename_i kept
      have room : n + 1 ≤ policy.max_items := by
        unfold drops at kept
        simp only [Bool.or_eq_true, not_or, decide_eq_true_eq] at kept
        omega
      have rest := ih (n + 1) (total + entry.bytes.val) room
      rw [List.length_cons]
      omega

/-- No entry is kept that is too old. -/
theorem kept_from_not_too_old (n total : Nat) (entries : List HistoryEntry) :
    ∀ entry ∈ kept_from policy now n total entries, policy.too_old now entry = false := by
  induction entries generalizing n total with
  | nil => exact fun entry member => absurd member List.not_mem_nil
  | cons entry older ih =>
    unfold kept_from
    split
    · exact ih n total
    · rename_i kept
      intro other member
      rcases List.mem_cons.mp member with rfl | member
      · unfold drops at kept
        simp only [Bool.or_eq_true, not_or] at kept
        exact Bool.eq_false_of_not_eq_true kept.1.2
      · exact ih _ _ other member

/-- An entry is too large exactly where the bytes with it pass a limit, other than the greatest
there is, which nothing passes. -/
theorem too_large_iff (total : Nat) (entry : HistoryEntry) :
    policy.too_large (min total U64_MAX) entry = true ↔
      ∃ limit, policy.max_total_bytes = some limit ∧ limit.val < U64_MAX ∧
        limit.val < total + entry.bytes.val := by
  unfold RetentionPolicy.too_large
  cases policy.max_total_bytes with
  | none => simp
  | some limit =>
    rw [Option.any_some, decide_eq_true_eq, saturating_add_min]
    constructor
    · intro passes
      exact ⟨limit, rfl, by omega, by omega⟩
    · rintro ⟨limit', same, below, passes⟩
      obtain rfl := Option.some.inj same
      omega

variable (now) in
/-- Below the greatest limit there is, what is kept keeps within it. -/
theorem kept_from_bytes_le {limit : U64} (limited : policy.max_total_bytes = some limit)
    (below : limit.val < U64_MAX) (n total : Nat) (entries : List HistoryEntry)
    (within : total ≤ limit.val) :
    total + bytes_of (kept_from policy now n total entries) ≤ limit.val := by
  induction entries generalizing n total with
  | nil => exact within
  | cons entry older ih =>
    unfold kept_from
    split
    · exact ih n total within
    · rename_i kept
      have fits : total + entry.bytes.val ≤ limit.val := by
        unfold drops at kept
        simp only [Bool.or_eq_true, not_or, too_large_iff] at kept
        by_contra passes
        exact kept.2 ⟨limit, limited, below, by omega⟩
      have rest := ih (n + 1) (total + entry.bytes.val) fits
      unfold bytes_of at *
      rw [List.map_cons, List.sum_cons]
      omega

/-- What was kept is kept again. -/
theorem kept_from_kept_from (n total : Nat) (entries : List HistoryEntry) :
    kept_from policy now n total (kept_from policy now n total entries) =
      kept_from policy now n total entries ∧
    dropped_from policy now n total (kept_from policy now n total entries) = [] := by
  induction entries generalizing n total with
  | nil => exact ⟨rfl, rfl⟩
  | cons entry older ih =>
    by_cases drop : drops policy now n total entry = true
    · have skips : kept_from policy now n total (entry :: older) =
          kept_from policy now n total older := if_pos drop
      rw [skips]
      exact ih n total
    · have keeps (rest : List HistoryEntry) : kept_from policy now n total (entry :: rest) =
          entry :: kept_from policy now (n + 1) (total + entry.bytes.val) rest := if_neg drop
      have drops_later (rest : List HistoryEntry) :
          dropped_from policy now n total (entry :: rest) =
            dropped_from policy now (n + 1) (total + entry.bytes.val) rest := if_neg drop
      obtain ⟨same, nothing⟩ := ih (n + 1) (total + entry.bytes.val)
      rw [keeps older, keeps, same, drops_later, nothing]
      exact ⟨rfl, rfl⟩

/-! ## The front -/

/-- Entries that are too old make no difference to the others. -/
theorem kept_from_recent (n total : Nat) (entries : List HistoryEntry) :
    kept_from policy now n total (recent policy now entries) =
      kept_from policy now n total entries := by
  induction entries generalizing n total with
  | nil => rfl
  | cons entry older ih =>
    by_cases old : policy.too_old now entry = true
    · have skips : recent policy now (entry :: older) = recent policy now older :=
        List.filter_cons_of_neg (by simp [old])
      have dropped : drops policy now n total entry = true := by
        unfold drops
        simp [old]
      have later : kept_from policy now n total (entry :: older) =
        kept_from policy now n total older := if_pos dropped
      rw [skips, later]
      exact ih n total
    · have keeps : recent policy now (entry :: older) = entry :: recent policy now older :=
        List.filter_cons_of_pos (by simp [old])
      rw [keeps]
      unfold kept_from
      rw [ih, ih]

variable (policy) in
/-- Past an entry that would take the bytes beyond the limit, no older one would stay within. -/
def FrontFits (limit n total : Nat) (entries : List HistoryEntry) : Prop :=
  ∀ before entry after, entries = before ++ entry :: after →
    n + before.length < policy.max_items → total + bytes_of before ≤ limit →
    limit < total + bytes_of before + entry.bytes.val →
      ∀ older ∈ after, limit < total + bytes_of before + older.bytes.val

/-- The first entry's bytes and the others'. -/
theorem bytes_of_cons (entry : HistoryEntry) (entries : List HistoryEntry) :
    bytes_of (entry :: entries) = entry.bytes.val + bytes_of entries := by
  unfold bytes_of
  rw [List.map_cons, List.sum_cons]

/-- A limit asks of the entries behind one that fits what it asked of all of them. -/
theorem FrontFits.cons_of_fits {limit n total : Nat} {entry : HistoryEntry}
    {older : List HistoryEntry} (fits : total + entry.bytes.val ≤ limit) :
    FrontFits policy limit n total (entry :: older) ↔
      FrontFits policy limit (n + 1) (total + entry.bytes.val) older := by
  constructor
  · intro front before large after split room within passes later member
    have asked := front (entry :: before) large after (by rw [split]; rfl)
      (by rw [List.length_cons]; omega) (by rw [bytes_of_cons]; omega)
      (by rw [bytes_of_cons]; omega) later member
    rw [bytes_of_cons] at asked
    omega
  · intro front before large after split room within passes later member
    cases before with
    | nil =>
      obtain ⟨rfl, -⟩ := List.cons.inj split
      have nothing : bytes_of [] = 0 := rfl
      omega
    | cons first before =>
      obtain ⟨rfl, rest⟩ := List.cons.inj split
      rw [bytes_of_cons] at *
      rw [List.length_cons] at room
      have asked := front before large after rest (by omega) (by omega) (by omega) later member
      omega

/-- Of one that does not fit it asks that none behind it does. -/
theorem FrontFits.cons_of_passes {limit n total : Nat} {entry : HistoryEntry}
    {older : List HistoryEntry} (room : n < policy.max_items) (within : total ≤ limit)
    (passes : limit < total + entry.bytes.val) :
    FrontFits policy limit n total (entry :: older) ↔
      ∀ later ∈ older, limit < total + later.bytes.val := by
  constructor
  · intro front
    exact front [] entry older rfl room within passes
  · intro none_fits before large after split _ fits _ later member
    cases before with
    | nil =>
      obtain ⟨-, rfl⟩ := List.cons.inj split
      exact none_fits later member
    | cons first before =>
      obtain ⟨rfl, -⟩ := List.cons.inj split
      rw [bytes_of_cons] at fits
      omega

/-- A recent entry with room for it is dropped exactly where it is too large. -/
theorem drops_of_recent {n total : Nat} {entry : HistoryEntry} {limit : U64}
    (limited : policy.max_total_bytes = some limit) (below : limit.val < U64_MAX)
    (young : policy.too_old now entry = false) (room : n < policy.max_items) :
    drops policy now n total entry = true ↔ limit.val < total + entry.bytes.val := by
  unfold drops
  rw [young, Bool.or_false, Bool.or_eq_true, decide_eq_true_eq, too_large_iff]
  constructor
  · rintro (full | ⟨limit', same, -, passes⟩)
    · omega
    · obtain rfl := Option.some.inj (limited.symm.trans same)
      exact passes
  · exact fun passes => .inr ⟨limit, limited, below, passes⟩

variable (now) in
/-- Where there are as many as may be, nothing more is kept. -/
theorem kept_from_full {n : Nat} (full : policy.max_items ≤ n) (total : Nat)
    (entries : List HistoryEntry) : kept_from policy now n total entries = [] := by
  induction entries with
  | nil => rfl
  | cons entry older ih =>
    have dropped : drops policy now n total entry = true := by
      unfold drops
      simp [full]
    have skips : kept_from policy now n total (entry :: older) =
      kept_from policy now n total older := if_pos dropped
    exact skips.trans ih

/-- Nothing is kept exactly where nothing fits. -/
theorem kept_from_eq_nil_iff {limit : U64} (limited : policy.max_total_bytes = some limit)
    (below : limit.val < U64_MAX) {n total : Nat} (room : n < policy.max_items)
    {entries : List HistoryEntry}
    (young : ∀ entry ∈ entries, policy.too_old now entry = false) :
    kept_from policy now n total entries = [] ↔
      ∀ later ∈ entries, limit.val < total + later.bytes.val := by
  induction entries with
  | nil => simp [kept_from]
  | cons entry older ih =>
    have ih := ih fun other member => young other (List.mem_cons_of_mem entry member)
    have drop : drops policy now n total entry = true ↔ limit.val < total + entry.bytes.val :=
      drops_of_recent limited below (young entry List.mem_cons_self) room
    rw [List.forall_mem_cons, ← drop, ← ih]
    by_cases dropped : drops policy now n total entry = true
    · have skips : kept_from policy now n total (entry :: older) =
        kept_from policy now n total older := if_pos dropped
      rw [skips]
      exact ⟨fun nothing => ⟨dropped, nothing⟩, And.right⟩
    · have keeps : kept_from policy now n total (entry :: older) =
        entry :: kept_from policy now (n + 1) (total + entry.bytes.val) older := if_neg dropped
      rw [keeps]
      exact ⟨nofun, fun both => absurd both.1 dropped⟩

/-- Below the greatest limit there is, a pass keeps the front exactly where the entries allow. -/
theorem kept_from_prefix_iff {limit : U64} (limited : policy.max_total_bytes = some limit)
    (below : limit.val < U64_MAX) (n total : Nat) (within : total ≤ limit.val)
    (entries : List HistoryEntry) (young : ∀ entry ∈ entries, policy.too_old now entry = false) :
    kept_from policy now n total entries <+: entries ↔
      FrontFits policy limit.val n total entries := by
  induction entries generalizing n total with
  | nil =>
    refine ⟨fun _ before entry after split => ?_, fun _ => List.nil_prefix⟩
    simp at split
  | cons entry older ih =>
    have young_older := fun other member => young other (List.mem_cons_of_mem entry member)
    by_cases room : n < policy.max_items
    · have drop : drops policy now n total entry = true ↔ limit.val < total + entry.bytes.val :=
        drops_of_recent limited below (young entry List.mem_cons_self) room
      by_cases passes : limit.val < total + entry.bytes.val
      · rw [FrontFits.cons_of_passes room within passes,
          ← kept_from_eq_nil_iff limited below room young_older]
        have skips : kept_from policy now n total (entry :: older) =
          kept_from policy now n total older := if_pos (drop.mpr passes)
        rw [skips]
        constructor
        · intro front
          cases kept : kept_from policy now n total older with
          | nil => rfl
          | cons first rest =>
            -- The first that is kept fits, and so is not the entry that does not.
            rw [kept, List.cons_prefix_cons] at front
            have fits := kept_from_bytes_le now limited below n total older within
            rw [kept, bytes_of_cons, front.1] at fits
            omega
        · intro nothing
          rw [nothing]
          exact List.nil_prefix
      · have keeps : kept_from policy now n total (entry :: older) =
          entry :: kept_from policy now (n + 1) (total + entry.bytes.val) older :=
            if_neg (fun dropped => passes (drop.mp dropped))
        rw [keeps, List.cons_prefix_cons, FrontFits.cons_of_fits (by omega)]
        exact ⟨fun front => (ih _ _ (by omega) young_older).mp front.2,
          fun front => ⟨rfl, (ih _ _ (by omega) young_older).mpr front⟩⟩
    · have nothing := kept_from_full now (Nat.not_lt.mp room) total (entry :: older)
      rw [nothing]
      refine ⟨fun _ before large after _ fewer => ?_, fun _ => List.nil_prefix⟩
      omega

/-- With no limit to the bytes that anything could pass, the newest are kept. -/
theorem kept_from_unlimited
    (unlimited : ∀ limit, policy.max_total_bytes = some limit → U64_MAX ≤ limit.val)
    (n total : Nat) (entries : List HistoryEntry)
    (young : ∀ entry ∈ entries, policy.too_old now entry = false) :
    kept_from policy now n total entries = entries.take (policy.max_items - n) := by
  induction entries generalizing n total with
  | nil => simp [kept_from]
  | cons entry older ih =>
    by_cases room : n < policy.max_items
    · have stays : ¬ drops policy now n total entry = true := by
        unfold drops
        rw [young entry List.mem_cons_self, Bool.or_false, Bool.or_eq_true, decide_eq_true_eq,
          too_large_iff]
        rintro (full | ⟨limit, limited, below, -⟩)
        · omega
        · have above := unlimited limit limited
          omega
      have keeps : kept_from policy now n total (entry :: older) =
        entry :: kept_from policy now (n + 1) (total + entry.bytes.val) older := if_neg stays
      have more : policy.max_items - n = policy.max_items - (n + 1) + 1 := by omega
      rw [keeps, more, List.take_succ_cons,
        ih _ _ fun other member => young other (List.mem_cons_of_mem entry member)]
    · have none_left : policy.max_items - n = 0 := by omega
      rw [kept_from_full now (Nat.not_lt.mp room), none_left, List.take_zero]

/-- No recent entry is too old. -/
theorem recent_not_too_old (entries : List HistoryEntry) :
    ∀ entry ∈ recent policy now entries, policy.too_old now entry = false := by
  intro entry member
  simpa using (List.mem_filter.mp member).2

/-! ## Retention -/

variable (policy now) in
/-- What a pass makes of a history: kept and dropped entries, each in their order; the limits
kept; nothing left to drop; and the newest kept of those not too old, so that none is older than
one dropped for space. -/
structure Retention (entries kept dropped : List HistoryEntry) : Prop where
  kept_in_order : kept.Sublist entries
  dropped_in_order : dropped.Sublist entries
  partition : (kept ++ dropped).Perm entries
  within_items : kept.length ≤ policy.max_items
  within_bytes : ∀ limit, policy.max_total_bytes = some limit → bytes_of kept ≤ limit.val
  within_age : ∀ limit, policy.max_age = some limit → ∀ entry ∈ kept, entry.age now ≤ limit
  settled : ∀ history : CaptureHistory, history.entries = kept →
    history.prune policy now = (history, [])
  front : kept <+: recent policy now entries
  newest : entries.Pairwise (fun newer older =>
      older.captured_at_micros.val ≤ newer.captured_at_micros.val) →
    ∀ entry ∈ kept, ∀ gone ∈ dropped, policy.too_old now gone = false →
      gone.captured_at_micros.val ≤ entry.captured_at_micros.val

/-- Where the kept entries are a prefix of those not too old, every other one of these is behind
them. -/
theorem newest_of_front {entries kept dropped : List HistoryEntry}
    (partition : (kept ++ dropped).Perm entries)
    (young : ∀ entry ∈ kept, policy.too_old now entry = false)
    (front : kept <+: recent policy now entries)
    (sorted : entries.Pairwise fun newer older =>
      older.captured_at_micros.val ≤ newer.captured_at_micros.val) :
    ∀ entry ∈ kept, ∀ gone ∈ dropped, policy.too_old now gone = false →
      gone.captured_at_micros.val ≤ entry.captured_at_micros.val := by
  obtain ⟨behind, split⟩ := front
  have all_recent : recent policy now kept = kept :=
    List.filter_eq_self.mpr fun entry member => by simp [young entry member]
  have same : (recent policy now dropped).Perm behind := by
    have filtered := partition.filter fun entry => !policy.too_old now entry
    rw [List.filter_append] at filtered
    change (recent policy now kept ++ recent policy now dropped).Perm (recent policy now entries)
      at filtered
    rw [all_recent, ← split] at filtered
    exact (List.perm_append_left_iff kept).mp filtered
  intro entry kept_member gone dropped_member not_old
  have member : gone ∈ behind :=
    same.mem_iff.mp (List.mem_filter.mpr ⟨dropped_member, by simp [not_old]⟩)
  have ordered := sorted.filter fun entry => !policy.too_old now entry
  change (recent policy now entries).Pairwise _ at ordered
  rw [← split] at ordered
  exact (List.pairwise_append.mp ordered).2.2 entry kept_member gone member

/-- **Retention**: a pass does what it should exactly where, under a byte limit, no entry that
is too large for what is left is followed by one that still fits; and under the greatest limit
there is, which no saturated sum passes, where what it may keep is no more than that.
SRC: history.rs:99-137 -/
theorem prune_retains_iff (history : CaptureHistory) (policy : RetentionPolicy) (now : Int) :
    Retention policy now history.entries (history.prune policy now).1.entries
        (history.prune policy now).2 ↔
      (∀ limit, policy.max_total_bytes = some limit → limit.val < U64_MAX →
        FrontFits policy limit.val 0 0 (recent policy now history.entries)) ∧
      (∀ limit, policy.max_total_bytes = some limit → limit.val = U64_MAX →
        bytes_of ((recent policy now history.entries).take policy.max_items) ≤ limit.val) := by
  rw [prune_eq]
  dsimp only
  have greatest {limit : U64} (limited : policy.max_total_bytes = some limit)
      (greatest : limit.val = U64_MAX) :
      kept_from policy now 0 0 history.entries =
        (recent policy now history.entries).take policy.max_items := by
    rw [← kept_from_recent, kept_from_unlimited _ 0 0 _ (recent_not_too_old _)]
    · rfl
    · intro limit' limited'
      obtain rfl := Option.some.inj (limited.symm.trans limited')
      exact greatest.ge
  constructor
  · intro retains
    refine ⟨fun limit limited below => ?_, fun limit limited at_most => ?_⟩
    · rw [← kept_from_prefix_iff limited below 0 0 (Nat.zero_le _) _ (recent_not_too_old _),
        kept_from_recent]
      exact retains.front
    · rw [← greatest limited at_most]
      exact retains.within_bytes limit limited
  · rintro ⟨front_fits, greatest_fits⟩
    have young : ∀ entry ∈ kept_from policy now 0 0 history.entries,
        policy.too_old now entry = false := kept_from_not_too_old 0 0 _
    have partition : (kept_from policy now 0 0 history.entries ++
        dropped_from policy now 0 0 history.entries).Perm history.entries :=
      kept_dropped_perm 0 0 _
    have front : kept_from policy now 0 0 history.entries <+: recent policy now history.entries := by
      by_cases limited : ∃ limit, policy.max_total_bytes = some limit ∧ limit.val < U64_MAX
      · obtain ⟨limit, limited, below⟩ := limited
        rw [← kept_from_recent, kept_from_prefix_iff limited below 0 0 (Nat.zero_le _) _
          (recent_not_too_old _)]
        exact front_fits limit limited below
      · rw [← kept_from_recent, kept_from_unlimited _ 0 0 _ (recent_not_too_old _)]
        · exact List.take_prefix _ _
        · intro limit at_limit
          by_contra below
          exact limited ⟨limit, at_limit, Nat.not_le.mp below⟩
    refine ⟨kept_from_sublist 0 0 _, dropped_from_sublist 0 0 _, partition, ?_, ?_, ?_, ?_, front,
      newest_of_front partition young front⟩
    · have within : 0 + (kept_from policy now 0 0 history.entries).length ≤ policy.max_items :=
        kept_from_length_le 0 0 _ (Nat.zero_le _)
      omega
    · intro limit limited
      by_cases below : limit.val < U64_MAX
      · have within := kept_from_bytes_le now limited below 0 0 history.entries (Nat.zero_le _)
        omega
      · have at_most : limit.val = U64_MAX := by
          have bound := limit.property
          omega
        rw [greatest limited at_most]
        exact greatest_fits limit limited at_most
    · intro limit limited entry member
      have not_old := young entry member
      unfold RetentionPolicy.too_old at not_old
      rw [limited, Option.any_some, decide_eq_false_iff_not] at not_old
      omega
    · intro kept same
      obtain ⟨again, nothing⟩ : _ ∧ dropped_from policy now 0 0
          (kept_from policy now 0 0 history.entries) = [] :=
        kept_from_kept_from 0 0 history.entries
      rw [prune_eq, same, again, nothing, ← same]

/-- A capture of some bytes, taken at some microsecond. -/
def capture_of (captured_at_micros : I64) (bytes : U64) (side : U32) : HistoryEntry :=
  ⟨"C:/captures/shot.png", captured_at_micros, bytes, side, side, "primary", "region"⟩

/-- Fifty bytes in all. -/
def fifty_bytes (limit : U64) : RetentionPolicy := ⟨50, none, some limit⟩

/-- The newest capture is too large for the limit, and an older one is kept in its place. -/
theorem prune_keeps_an_older_capture :
    ¬ Retention (fifty_bytes ⟨50, by decide⟩) 0
      [capture_of ⟨2, by decide⟩ ⟨100, by decide⟩ ⟨1, by decide⟩,
        capture_of ⟨1, by decide⟩ ⟨10, by decide⟩ ⟨1, by decide⟩]
      (CaptureHistory.prune ⟨1, [capture_of ⟨2, by decide⟩ ⟨100, by decide⟩ ⟨1, by decide⟩,
        capture_of ⟨1, by decide⟩ ⟨10, by decide⟩ ⟨1, by decide⟩]⟩
        (fifty_bytes ⟨50, by decide⟩) 0).1.entries
      (CaptureHistory.prune ⟨1, [capture_of ⟨2, by decide⟩ ⟨100, by decide⟩ ⟨1, by decide⟩,
        capture_of ⟨1, by decide⟩ ⟨10, by decide⟩ ⟨1, by decide⟩]⟩
        (fifty_bytes ⟨50, by decide⟩) 0).2 := by
  intro retains
  have front := retains.front
  revert front
  decide

/-! ## A history as captures are recorded -/

/-- A capture as it is recorded: its entry, the limits at the time, and the time. -/
structure CaptureRecord where
  entry : HistoryEntry
  policy : RetentionPolicy
  now : Int

/-- The history after these captures, recorded one after the other.
SRC: history.rs:84-114 -/
def history_after (captures : List CaptureRecord) : CaptureHistory :=
  captures.foldl (fun history capture =>
    (history.record capture.entry capture.policy capture.now).1) .initial

/-- A capture that is recorded is the newest when the limits are applied. -/
theorem record_entries (history : CaptureHistory) (entry : HistoryEntry) (policy : RetentionPolicy)
    (now : Int) : (history.record entry policy now).1.entries =
      kept_from policy now 0 0 (entry :: history.entries) := by
  unfold CaptureHistory.record
  rw [prune_eq]

/-- A capture that the limits allow on its own is the most recent one.
SRC: history.rs:95-114 -/
theorem most_recent_of_allowed (history : CaptureHistory) {entry : HistoryEntry}
    {policy : RetentionPolicy} {now : Int} (allowed : drops policy now 0 0 entry = false) :
    (history.record entry policy now).1.most_recent = some entry := by
  have keeps : kept_from policy now 0 0 (entry :: history.entries) =
      entry :: kept_from policy now (0 + 1) (0 + entry.bytes.val) history.entries :=
    if_neg (by rw [allowed]; exact Bool.false_ne_true)
  unfold CaptureHistory.most_recent
  rw [record_entries, keeps]
  rfl

/-- A capture that they refuse is forgotten at once: recording it only applies the limits. -/
theorem record_of_refused (history : CaptureHistory) {entry : HistoryEntry}
    {policy : RetentionPolicy} {now : Int} (refused : drops policy now 0 0 entry = true) :
    (history.record entry policy now).1 = (history.prune policy now).1 := by
  have skips : kept_from policy now 0 0 (entry :: history.entries) =
      kept_from policy now 0 0 history.entries := if_pos refused
  unfold CaptureHistory.record
  rw [prune_eq, prune_eq, skips]

/-- What one capture does to a history. -/
theorem history_after_concat (captures : List CaptureRecord) (last : CaptureRecord) :
    history_after (captures ++ [last]) =
      ((history_after captures).record last.entry last.policy last.now).1 := by
  unfold history_after
  rw [List.foldl_append]
  rfl

/-- **A history is of captures, newest first**: in every order of captures and limits, what is
remembered stands in the order opposite to the one it was recorded in, and is within the limits of
the last capture recorded.
SRC: history.rs:84-137 -/
theorem history_after_newest_first (captures : List CaptureRecord) :
    (history_after captures).entries.Sublist (captures.map CaptureRecord.entry).reverse ∧
      ∀ last ∈ captures.getLast?,
        (history_after captures).entries.length ≤ last.policy.max_items := by
  induction captures using List.reverseRecOn with
  | nil => exact ⟨List.Sublist.refl _, by simp⟩
  | append_singleton captures last ih =>
    rw [history_after_concat, record_entries, List.map_append, List.reverse_append]
    constructor
    · exact (kept_from_sublist 0 0 _).trans (ih.1.cons_cons last.entry)
    · intro final is_last
      rw [List.getLast?_concat] at is_last
      obtain rfl := Option.some.inj is_last
      have within : 0 + (kept_from last.policy last.now 0 0
          (last.entry :: (history_after captures).entries)).length ≤ last.policy.max_items :=
        kept_from_length_le 0 0 _ (Nat.zero_le _)
      omega

end Captastic.Analysis
