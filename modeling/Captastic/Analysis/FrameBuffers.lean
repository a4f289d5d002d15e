import Captastic.Analysis.Composition
import Captastic.Analysis.RegionReadback
import Captastic.Library.Runs
import Captastic.Model.BufferPools

/-!
# Published pixels are never overwritten

Both pools hand out a slot that is empty or that they alone own, and refuse only when every
slot is owned elsewhere too (`PoolState.available_spec`, `PoolState.refused_spec`).  The count
of a slot's owners is one exactly if no live frame shares its buffer, because slots never share
a buffer with each other; so a buffer that is being written is shared by no frame, whatever
else happens in between, and every frame keeps the bytes it was returned with
(`published_pixels_never_overwritten`).
-/

set_option autoImplicit false

namespace Captastic.Analysis

open Captastic.Library Captastic.Model

/-! ## What the pools hand out -/

/-- A slot that is handed out: an empty one, or one that its pool alone owns; its buffer is
replaced unless it has the length asked for. -/
structure Handed (slots : List (Option PoolSlot)) (len index : Nat)
    (slots' : List (Option PoolSlot)) : Prop where
  in_range : index < slots.length
  free : ∀ slot, slots[index]? = some (some slot) → slot.owners = 1
  after : slots' =
    if fits slots index len then slots else slots.set index (some ⟨1, List.replicate len 0⟩)

/-- Every slot is owned elsewhere too. -/
def AllShared (slots : List (Option PoolSlot)) : Prop :=
  ∀ (i : Nat) slot, slots[i]? = some slot → ∃ held, slot = some held ∧ held.owners ≠ 1

section Cpu

variable {pool pool' : CpuBufferPool} {predicate : Option PoolSlot → Bool} {len index : Nat}

/-- The slot found is one of the pool. -/
theorem index_from_cursor_in_range (found : pool.index_from_cursor predicate = some index) :
    index < pool.slots.length := by
  obtain ⟨slot, held, -⟩ := pool.index_from_cursor_spec found
  exact (List.getElem?_eq_some_iff.mp held).1

/-- A search that finds nothing has looked at every slot. -/
theorem none_of_index_from_cursor (missed : pool.index_from_cursor predicate = none) {i : Nat}
    {slot : Option PoolSlot} (held : pool.slots[i]? = some slot) : predicate slot = false := by
  obtain ⟨i_lt, -⟩ := List.getElem?_eq_some_iff.mp held
  unfold CpuBufferPool.index_from_cursor at missed
  split at missed
  · rename_i empty
    rw [List.isEmpty_iff] at empty
    rw [empty] at i_lt
    cases i_lt
  · have visited : i ∈ from_cursor pool.slots.length pool.cursor := mem_from_cursor.mpr i_lt
    have looked := List.find?_eq_none.mp missed i visited
    rw [held, Option.any_some] at looked
    exact Bool.eq_false_iff.mpr looked

/-- **The pool of one display.**
SRC: dxgi.rs:1859-1880 -/
theorem cpu_available_spec (found : pool.available_index len = some (index, pool')) :
    Handed pool.slots len index pool'.slots := by
  unfold CpuBufferPool.available_index at found
  split at found
  · rename_i free first
    obtain ⟨rfl, rfl⟩ := Prod.mk.inj (Option.some.inj found)
    obtain ⟨slot, held, test⟩ := pool.index_from_cursor_spec first
    obtain ⟨held_slot, rfl, both⟩ := (Option.any_eq_true _ _).mp test
    simp only [Bool.and_eq_true, beq_iff_eq] at both
    refine ⟨index_from_cursor_in_range first, ?_, ?_⟩
    · intro slot same
      obtain rfl := Option.some.inj (Option.some.inj (same.symm.trans held))
      exact both.1
    · have fitting : fits pool.slots free len = true := by
        unfold fits
        rw [held, Option.any_some, Option.any_some, beq_iff_eq]
        exact both.2
      rw [if_pos fitting]
      rfl
  · rename_i first
    split at found
    · rename_i free second
      obtain ⟨rfl, rfl⟩ := Prod.mk.inj (Option.some.inj found)
      obtain ⟨slot, held, empty⟩ := pool.index_from_cursor_spec second
      obtain rfl := Option.isNone_iff_eq_none.mp empty
      refine ⟨index_from_cursor_in_range second, ?_, ?_⟩
      · intro slot same
        rw [held] at same
        cases same
      · have not_fitting : ¬ fits pool.slots free len = true := by
          unfold fits
          rw [held]
          exact Bool.false_ne_true
        rw [if_neg not_fitting]
        rfl
    · obtain ⟨free, third, made⟩ := Option.map_eq_some_iff.mp found
      obtain ⟨rfl, rfl⟩ := Prod.mk.inj made
      obtain ⟨slot, held, alone⟩ := pool.index_from_cursor_spec third
      obtain ⟨held_slot, rfl, one⟩ := (Option.any_eq_true _ _).mp alone
      rw [beq_iff_eq] at one
      refine ⟨index_from_cursor_in_range third, ?_, ?_⟩
      · intro slot same
        obtain rfl := Option.some.inj (Option.some.inj (same.symm.trans held))
        exact one
      · -- A slot the pool alone owns has another length, or the first search had found one.
        have not_first := none_of_index_from_cursor first held
        have not_fitting : ¬ fits pool.slots free len = true := by
          unfold fits
          rw [held, Option.any_some, Option.any_some]
          rw [Option.any_some, one] at not_first
          intro same
          rw [same] at not_first
          exact Bool.noConfusion not_first
        rw [if_neg not_fitting]
        rfl

/-- The pool of one display refuses only when every slot is owned elsewhere too. -/
theorem cpu_refused_spec (refused : pool.available_index len = none) : AllShared pool.slots := by
  unfold CpuBufferPool.available_index at refused
  split at refused
  · cases refused
  · split at refused
    · cases refused
    · rename_i second
      have third := Option.map_eq_none_iff.mp refused
      intro i slot held
      have not_empty := none_of_index_from_cursor second held
      have not_alone := none_of_index_from_cursor third held
      cases slot with
      | none => cases not_empty
      | some slot =>
        refine ⟨slot, rfl, ?_⟩
        intro one
        rw [Option.any_some, one] at not_alone
        cases not_alone

end Cpu

section Composite

variable {pool pool' : CompositeBufferPool} {len index : Nat}

/-- **The pool of composed pictures.**
SRC: display_manager.rs:331-350 -/
theorem composite_available_spec (found : pool.available_index len = some (index, pool')) :
    Handed pool.slots len index pool'.slots := by
  obtain ⟨free, first, made⟩ := Option.map_eq_some_iff.mp found
  obtain ⟨rfl, rfl⟩ := Prod.mk.inj made
  unfold CompositeBufferPool.first_free at first
  have free_slot := List.find?_some first
  obtain ⟨slot, held, alone⟩ := (Option.any_eq_true _ _).mp free_slot
  refine ⟨(List.getElem?_eq_some_iff.mp held).1, ?_, ?_⟩
  · intro slot' same
    obtain rfl := Option.some.inj (same.symm.trans held)
    simpa using alone
  · unfold CompositeBufferPool.sized fits
    rw [held]
    cases slot with
    | none => rfl
    | some slot =>
      simp only [Option.any_some, Option.all_some]
      by_cases same : slot.bytes.length = len
      · simp [same]
      · simp [same]

/-- The pool of composed pictures refuses only when every slot is owned elsewhere too. -/
theorem composite_refused_spec (refused : pool.available_index len = none) :
    AllShared pool.slots := by
  unfold CompositeBufferPool.available_index at refused
  have missed := Option.map_eq_none_iff.mp refused
  unfold CompositeBufferPool.first_free at missed
  intro i slot held
  have visited : i ∈ from_cursor pool.slots.length pool.cursor :=
    mem_from_cursor.mpr (List.getElem?_eq_some_iff.mp held).1
  have looked := List.find?_eq_none.mp missed i visited
  rw [held, Option.any_some] at looked
  cases slot with
  | none => exact absurd rfl looked
  | some slot =>
    refine ⟨slot, rfl, ?_⟩
    intro one
    apply looked
    rw [Option.all_some, one]
    rfl

end Composite

/-- **What either pool hands out**, and what its slots are afterwards. -/
theorem PoolState.available_spec {pool : PoolState} {slots : List (Option PoolSlot)}
    {len index cursor : Nat} (found : pool.available slots len = some (index, cursor)) :
    ∃ slots', Handed slots len index slots' := by
  unfold PoolState.available at found
  split at found
  · obtain ⟨⟨free, pool'⟩, taken, made⟩ := Option.map_eq_some_iff.mp found
    obtain ⟨rfl, rfl⟩ := Prod.mk.inj made
    exact ⟨_, cpu_available_spec taken⟩
  · obtain ⟨⟨free, pool'⟩, taken, made⟩ := Option.map_eq_some_iff.mp found
    obtain ⟨rfl, rfl⟩ := Prod.mk.inj made
    exact ⟨_, composite_available_spec taken⟩

/-- A pool that refuses a buffer shares each of its slots. -/
theorem PoolState.refused_spec {pool : PoolState} {slots : List (Option PoolSlot)} {len : Nat}
    (refused : pool.available slots len = none) : AllShared slots := by
  unfold PoolState.available at refused
  split at refused
  · exact @cpu_refused_spec ⟨slots, pool.cursor⟩ _ (Option.map_eq_none_iff.mp refused)
  · exact @composite_refused_spec ⟨slots, pool.cursor⟩ _ (Option.map_eq_none_iff.mp refused)

/-! ## What the calls fill -/

/-- **A readback** fills a slot it was handed with as many bytes as it asked for.
SRC: dxgi.rs:1272-1364 -/
theorem readback_fills_slot {gpu : Gpu} {pool : CpuBufferPool} {cpu_ready_ns : Nat}
    {texture : Texture} {metadata metadata' : FrameMetadata} {pointer : Option PointerSample}
    {frame : CpuFrame}
    (read : readback gpu pool cpu_ready_ns texture metadata pointer = .ok (frame, metadata')) :
    ∃ index pool' bytes, pool.available_index frame.pixels.length = some (index, pool') ∧
      pool'.get_mut index = some bytes ∧ bytes.length = frame.pixels.length := by
  obtain ⟨-, -, ⟨index, pool'⟩, found⟩ := readable_of_readback read
  obtain ⟨bare, slot, -, -, picture, -⟩ := readback_ok read
  have length : frame.pixels.length =
      metadata.source_rect.width * 4 * metadata.source_rect.height := by
    rw [picture.length, Nat.mul_comm]
  rw [← length] at found
  obtain ⟨bytes, held, bytes_length⟩ := pool.available_index_spec found
  refine ⟨index, pool', bytes, found, ?_, bytes_length⟩
  unfold CpuBufferPool.get_mut
  rw [held]
  rfl

/-- A composed frame has the pixels it was made with. -/
theorem pixels_of_composite_frame {pixels : List Byte} {bounds : Rect} {stride : Nat}
    {metadata : FrameMetadata} {out : CpuFrame}
    (made : composite_frame pixels bounds stride metadata = .ok out) : out.pixels = pixels := by
  unfold composite_frame CpuFrame.new at made
  split at made
  · rename_i frame new_frame
    obtain rfl := Except.ok.inj made
    split at new_frame
    · cases new_frame
    · rw [← Except.ok.inj new_frame]
  · cases made

/-- **A composition** fills a slot it was handed with as many bytes as it asked for.
SRC: display_manager.rs:353-468 -/
theorem compose_fills_slot {frames : List CpuFrame} {bounds : Rect} {request : CaptureRequest}
    {pool : CompositeBufferPool} {out : CpuFrame}
    (composed : compose_virtual_desktop frames bounds request pool = .ok out) :
    ∃ index pool' bytes, pool.available_index out.pixels.length = some (index, pool') ∧
      pool'.get_mut index = some bytes ∧ bytes.length = out.pixels.length := by
  have composable : ∀ frame ∈ frames, Composable bounds frame := by
    by_contra some_not
    push Not at some_not
    obtain ⟨error, refused⟩ := compose_refused some_not request pool
    rw [composed] at refused
    cases refused
  unfold compose_virtual_desktop at composed
  obtain ⟨stride, stride_made, sized⟩ := bind_eq_ok.mp composed
  obtain ⟨len, len_made, taken⟩ := bind_eq_ok.mp sized
  obtain ⟨⟨index, pool'⟩, found, got⟩ := bind_eq_ok.mp taken
  obtain ⟨bytes, held, painted_then⟩ := bind_eq_ok.mp got
  obtain ⟨pixels, painted, made⟩ := bind_eq_ok.mp painted_then
  have available := or_fail_eq_ok.mp found
  obtain ⟨bytes', held', bytes_length⟩ := pool.get_mut_of_available available
  obtain rfl := Option.some.inj ((access_eq_ok.mp held).symm.trans held')
  obtain ⟨small, stride_eq⟩ := Option.ite_none_right_eq_some.mp (or_fail_eq_ok.mp stride_made)
  obtain ⟨-, len_eq⟩ := Option.ite_none_right_eq_some.mp (or_fail_eq_ok.mp len_made)
  obtain rfl := Option.some.inj stride_eq
  obtain rfl := Option.some.inj len_eq
  have black_length : (fill_black bytes).length = bounds.height * (bounds.width * 4) := by
    rw [length_fill_black, bytes_length, Nat.mul_comm]
  obtain ⟨pixels', painted', length, -⟩ := copy_frames_spec small
    (fun frame member => composable frame ((ordered_perm frames).mem_iff.mp member))
    black_length
  obtain rfl := Except.ok.inj (painted.symm.trans painted')
  rw [pixels_of_composite_frame made, length, Nat.mul_comm]
  exact ⟨index, pool', bytes, available, held', bytes_length⟩

/-! ## The slots of the world -/

section World

variable {w w' : PoolWorld} {n : Nat} {pool : PoolState}

/-- The number of slots of a pool. -/
theorem slot_count_of_pool (at_n : w.pools[n]? = some pool) : w.slot_count n = pool.slot_count := by
  unfold PoolWorld.slot_count
  rw [at_n]
  rfl

/-- The keys are those of each pool's slots. -/
theorem mem_keys {k : Nat × Nat} : k ∈ w.keys ↔ k.1 < w.pools.length ∧ k.2 < w.slot_count k.1 := by
  obtain ⟨m, i⟩ := k
  simp only [PoolWorld.keys, List.mem_flatMap, List.mem_range, List.mem_map, Prod.mk.injEq]
  constructor
  · rintro ⟨m', m_lt, i', i_lt, rfl, rfl⟩
    exact ⟨m_lt, i_lt⟩
  · rintro ⟨m_lt, i_lt⟩
    exact ⟨m, m_lt, i, i_lt, rfl, rfl⟩

/-- No slot has two keys. -/
theorem nodup_keys (w : PoolWorld) : w.keys.Nodup := by
  unfold PoolWorld.keys
  rw [List.nodup_flatMap]
  refine ⟨?_, ?_⟩
  · intro m _
    exact List.nodup_range.map fun a b same => (Prod.mk.inj same).2
  · refine List.nodup_range.imp ?_
    intro m m' different k member member'
    obtain ⟨i, -, rfl⟩ := List.mem_map.mp member
    obtain ⟨i', -, same⟩ := List.mem_map.mp member'
    exact different (Prod.mk.inj same).1.symm

/-- A slot of a pool has a key. -/
theorem mem_keys_of_pool (at_n : w.pools[n]? = some pool) {index : Nat}
    (in_range : index < pool.slot_count) : (n, index) ∈ w.keys := by
  refine mem_keys.mpr ⟨(List.getElem?_eq_some_iff.mp at_n).1, ?_⟩
  rw [slot_count_of_pool at_n]
  exact in_range

/-- What a pool sees of one slot. -/
theorem getElem?_view (w : PoolWorld) (n i : Nat) :
    (w.view n)[i]? = if i < w.slot_count n then
      some ((w.store.slots (n, i)).map fun b => ⟨w.store.owners w.keys b, w.store.heap.getD b []⟩)
    else none := by
  unfold PoolWorld.view
  rw [List.getElem?_map]
  by_cases in_range : i < w.slot_count n
  · rw [if_pos in_range, List.getElem?_range in_range]
    rfl
  · rw [if_neg in_range, List.getElem?_eq_none (by simpa using in_range)]
    rfl

/-- A pool's view of the store has its slots. -/
theorem length_view (w : PoolWorld) (n : Nat) : (w.view n).length = w.slot_count n := by
  unfold PoolWorld.view
  rw [List.length_map, List.length_range]

/-- The pools after one of them changed its cursor or what it writes. -/
theorem getElem?_set_pool {pool' : PoolState} (at_n : w.pools[n]? = some pool) (m : Nat) :
    (w.pools.set n pool')[m]? = if m = n then some pool' else w.pools[m]? := by
  by_cases same : m = n
  · subst same
    rw [if_pos rfl, List.getElem?_set_self (List.getElem?_eq_some_iff.mp at_n).1]
  · rw [if_neg same, List.getElem?_set_ne (Ne.symm same)]

/-- Changing a pool that keeps its slots changes no key. -/
theorem keys_set_pool {store : Store (Nat × Nat) (List Byte)} {pool' : PoolState}
    (at_n : w.pools[n]? = some pool) (same_count : pool'.slot_count = pool.slot_count) :
    (PoolWorld.mk store (w.pools.set n pool')).keys = w.keys ∧
      ∀ m, (PoolWorld.mk store (w.pools.set n pool')).slot_count m = w.slot_count m := by
  have counts : ∀ m, (PoolWorld.mk store (w.pools.set n pool')).slot_count m = w.slot_count m := by
    intro m
    unfold PoolWorld.slot_count
    rw [getElem?_set_pool at_n]
    split
    · rename_i same
      rw [same, at_n, Option.map_some, Option.map_some, same_count]
    · rfl
  refine ⟨?_, counts⟩
  unfold PoolWorld.keys
  simp only [counts, List.length_set]

end World

/-! ## The invariant -/

/-- Slots never share a buffer and frames have their bytes; the buffer of a slot that is being
written is shared by no frame. -/
structure PoolsSound (w : PoolWorld) : Prop where
  sound : w.store.Sound
  writing : ∀ n pool index, w.pools[n]? = some pool → pool.writing = some index →
    index < pool.slot_count ∧ ∃ b, w.store.slots (n, index) = some b ∧ w.store.Unshared b

/-- A world as it starts. -/
theorem start_sound (kinds : List (PoolKind × Nat)) : PoolsSound (.start kinds) := by
  refine ⟨⟨fun _ _ held => ?_, fun _ _ _ held => ?_, fun _ member => ?_⟩, ?_⟩
  · cases held
  · cases held
  · cases member
  · intro n pool index at_n writing
    unfold PoolWorld.start at at_n
    rw [List.getElem?_map] at at_n
    obtain ⟨kind, -, rfl⟩ := Option.map_eq_some_iff.mp at_n
    cases writing

section Steps

variable {w w' : PoolWorld} {n len : Nat} {pool : PoolState}

/-- What a slot that can be handed out is in the world: an empty one, or one whose buffer no
frame shares. -/
theorem unshared_of_handed (inv : PoolsSound w) (at_n : w.pools[n]? = some pool)
    {index : Nat} {slots' : List (Option PoolSlot)} (handed : Handed (w.view n) len index slots') :
    index < pool.slot_count ∧
      ∀ b, w.store.slots (n, index) = some b → w.store.Unshared b := by
  have index_lt := handed.in_range
  rw [length_view, slot_count_of_pool at_n] at index_lt
  refine ⟨index_lt, ?_⟩
  intro b held
  have seen : (w.view n)[index]? =
      some (some ⟨w.store.owners w.keys b, w.store.heap.getD b []⟩) := by
    rw [getElem?_view, slot_count_of_pool at_n, if_pos index_lt, held]
    rfl
  exact (inv.sound.owners_eq_one_iff (nodup_keys w) (mem_keys_of_pool at_n index_lt) held).mp
    (handed.free _ seen)

/-- The slot fits exactly if its buffer has the length. -/
theorem fits_iff (inv : PoolsSound w) {index : Nat} (in_range : index < w.slot_count n) :
    fits (w.view n) index len = true ↔ ∃ b bytes, w.store.slots (n, index) = some b ∧
      w.store.heap[b]? = some bytes ∧ bytes.length = len := by
  unfold fits
  rw [getElem?_view, if_pos in_range, Option.any_some]
  cases held : w.store.slots (n, index) with
  | none =>
    constructor
    · intro fitting
      cases fitting
    · rintro ⟨b, bytes, none_held, -⟩
      cases none_held
  | some b =>
    have b_lt := inv.sound.in_heap _ _ held
    have bytes_held := List.getElem?_eq_getElem b_lt
    simp only [Option.map_some, Option.any_some, beq_iff_eq, List.getD_eq_getElem?_getD, bytes_held,
      Option.getD_some]
    constructor
    · intro same
      exact ⟨b, _, rfl, bytes_held, same⟩
    · rintro ⟨b', bytes, same, held', length⟩
      obtain rfl := Option.some.inj same
      obtain rfl := Option.some.inj (held'.symm.trans bytes_held)
      exact length

/-- **Taking a slot.**  A slot that is handed out has a buffer of the length asked for that no
frame shares; none is handed out only if every slot's buffer is shared by a frame.  The buffers
of frames are left alone. -/
theorem take_spec (inv : PoolsSound w) (at_n : w.pools[n]? = some pool) (len : Nat) :
    PoolsSound (w.take n pool len) ∧
      (w.take n pool len).store.loans = w.store.loans ∧
      (∀ loan ∈ w.store.loans, (w.take n pool len).store.heap[loan.1]? = w.store.heap[loan.1]?) ∧
      ((∃ index cursor, (w.take n pool len).pools[n]? =
            some { pool with cursor := cursor, writing := some index } ∧
          ∃ b bytes, (w.take n pool len).store.slots (n, index) = some b ∧
            (w.take n pool len).store.heap[b]? = some bytes ∧ bytes.length = len ∧
            (w.take n pool len).store.Unshared b) ∨
        w.take n pool len = w ∧ ∀ i, i < pool.slot_count →
          ∃ b, w.store.slots (n, i) = some b ∧ ∃ loan ∈ w.store.loans, loan.1 = b) := by
  cases available : pool.available (w.view n) len with
  | none =>
    have unchanged : w.take n pool len = w := by
      unfold PoolWorld.take
      rw [available]
    rw [unchanged]
    refine ⟨inv, rfl, fun _ _ => rfl, Or.inr ⟨rfl, ?_⟩⟩
    intro i i_lt
    have seen := getElem?_view w n i
    rw [slot_count_of_pool at_n, if_pos i_lt] at seen
    obtain ⟨held, same, not_one⟩ := PoolState.refused_spec available i _ seen
    obtain ⟨b, held_b, rfl⟩ := Option.map_eq_some_iff.mp same
    refine ⟨b, held_b, ?_⟩
    by_contra unshared
    apply not_one
    rw [inv.sound.owners_eq_one_iff (nodup_keys w) (mem_keys_of_pool at_n i_lt) held_b]
    exact fun loan member same => unshared ⟨loan, member, same⟩
  | some taken =>
    obtain ⟨index, cursor⟩ := taken
    obtain ⟨slots', handed⟩ := PoolState.available_spec available
    obtain ⟨index_lt, unshared⟩ := unshared_of_handed inv at_n handed
    have in_range : index < w.slot_count n := by
      rw [slot_count_of_pool at_n]
      exact index_lt
    by_cases fitting : fits (w.view n) index len = true
    · have taken_eq : w.take n pool len =
          ⟨w.store, w.pools.set n { pool with cursor := cursor, writing := some index }⟩ := by
        unfold PoolWorld.take
        rw [available]
        simp only [if_pos fitting]
      obtain ⟨b, bytes, held, bytes_held, length⟩ := (fits_iff inv in_range).mp fitting
      rw [taken_eq]
      refine ⟨⟨inv.sound, ?_⟩, rfl, fun _ _ => rfl, Or.inl ⟨index, cursor, ?_, b, bytes, held,
        bytes_held, length, unshared b held⟩⟩
      · intro m pool' index' at_m writing
        rw [getElem?_set_pool at_n] at at_m
        split at at_m
        · rename_i same
          obtain rfl := Option.some.inj at_m
          obtain rfl := Option.some.inj writing
          rw [same]
          exact ⟨index_lt, b, held, unshared b held⟩
        · exact inv.writing m pool' index' at_m writing
      · rw [getElem?_set_pool at_n, if_pos rfl]
    · have taken_eq : w.take n pool len =
          ⟨w.store.refill (n, index) (List.replicate len 0),
            w.pools.set n { pool with cursor := cursor, writing := some index }⟩ := by
        unfold PoolWorld.take
        rw [available]
        simp only [if_neg fitting]
      have held := w.store.refill_slots_self (n, index) (List.replicate len 0)
      have new_bytes := w.store.refill_heap_new (n, index) (List.replicate len 0)
      have new_unshared : (w.store.refill (n, index) (List.replicate len (0 : Byte))).Unshared
          w.store.heap.length := Store.unshared_new inv.sound
      rw [taken_eq]
      refine ⟨⟨inv.sound.refill _ _, ?_⟩, rfl, ?_, Or.inl ⟨index, cursor, ?_, _, _, held,
        new_bytes, List.length_replicate, new_unshared⟩⟩
      · intro m pool' index' at_m writing
        rw [getElem?_set_pool at_n] at at_m
        split at at_m
        · rename_i same
          obtain rfl := Option.some.inj at_m
          obtain rfl := Option.some.inj writing
          rw [same]
          exact ⟨index_lt, _, held, new_unshared⟩
        · rename_i other
          obtain ⟨index'_lt, b, held', unshared'⟩ := inv.writing m pool' index' at_m writing
          refine ⟨index'_lt, b, ?_, unshared'⟩
          have other_key : (m, index') ≠ (n, index) := fun same => other (Prod.mk.inj same).1
          rw [Store.refill_slots_of_ne _ other_key]
          exact held'
      · intro loan member
        exact Store.refill_heap_of_lt _ (inv.sound.loan_lt member) _ _
      · rw [getElem?_set_pool at_n, if_pos rfl]

/-- The view of a pool whose slot was given a new buffer. -/
theorem view_refill (inv : PoolsSound w) (at_n : w.pools[n]? = some pool) {index : Nat}
    (in_range : index < pool.slot_count) (pool' : PoolState) (same_count : pool'.slot_count = pool.slot_count)
    (bytes : List Byte) :
    (PoolWorld.mk (w.store.refill (n, index) bytes) (w.pools.set n pool')).view n =
      (w.view n).set index (some ⟨1, bytes⟩) := by
  obtain ⟨same_keys, same_counts⟩ := @keys_set_pool w n pool (w.store.refill (n, index) bytes)
    pool' at_n same_count
  have refilled := inv.sound.refill (n, index) bytes
  apply List.ext_getElem?
  intro i
  rw [getElem?_view, same_counts, same_keys, List.getElem?_set, length_view,
    slot_count_of_pool at_n, getElem?_view, slot_count_of_pool at_n]
  by_cases here : index = i
  · subst here
    have held := w.store.refill_slots_self (n, index) bytes
    have one := (refilled.owners_eq_one_iff (nodup_keys w) (mem_keys_of_pool at_n in_range)
      held).mpr (Store.unshared_new inv.sound)
    rw [if_pos in_range, if_pos rfl, if_pos in_range, held, Option.map_some, one,
      List.getD_eq_getElem?_getD, Store.refill_heap_new, Option.getD_some]
  · rw [if_neg here]
    by_cases i_lt : i < pool.slot_count
    · rw [if_pos i_lt, if_pos i_lt]
      have other_key : (n, i) ≠ (n, index) := fun same => here (Prod.mk.inj same).2.symm
      rw [Store.refill_slots_of_ne _ other_key]
      cases held : w.store.slots (n, i) with
      | none => rfl
      | some b =>
        have b_lt := inv.sound.in_heap _ _ held
        have same_bytes : (w.store.refill (n, index) bytes).heap.getD b [] =
            w.store.heap.getD b [] := by
          rw [List.getD_eq_getElem?_getD, List.getD_eq_getElem?_getD,
            Store.refill_heap_of_lt _ b_lt]
        -- Neither the buffer that the slot had nor the one it is given is the buffer counted.
        have same_owners : (w.store.refill (n, index) bytes).owners w.keys b =
            w.store.owners w.keys b := by
          unfold Store.owners
          congr 1
          apply List.countP_congr
          intro k _
          rw [beq_iff_eq, beq_iff_eq]
          by_cases refilled_key : k = (n, index)
          · subst refilled_key
            constructor
            · intro new
              rw [Store.refill_slots_self] at new
              obtain rfl := Option.some.inj new
              exact absurd b_lt (Nat.lt_irrefl _)
            · intro old
              exact absurd (inv.sound.distinct _ _ _ held old) other_key
          · rw [Store.refill_slots_of_ne _ refilled_key]
        rw [Option.map_some, Option.map_some, same_owners, same_bytes]
    · rw [if_neg i_lt, if_neg i_lt]

/-- **The world follows the code.**  What `take` does to the buffers is what
`available_index` does to the slots of the pool. -/
theorem view_take (inv : PoolsSound w) (at_n : w.pools[n]? = some pool) {index cursor : Nat}
    (available : pool.available (w.view n) len = some (index, cursor))
    {slots' : List (Option PoolSlot)} (handed : Handed (w.view n) len index slots') :
    (w.take n pool len).view n = slots' := by
  have index_lt := (unshared_of_handed inv at_n handed).1
  unfold PoolWorld.take
  rw [available, handed.after]
  by_cases fitting : fits (w.view n) index len = true
  · simp only [if_pos fitting]
    obtain ⟨same_keys, same_counts⟩ := @keys_set_pool w n pool w.store
      { pool with cursor := cursor, writing := some index } at_n rfl
    apply List.ext_getElem?
    intro i
    rw [getElem?_view, getElem?_view, same_counts, same_keys]
  · simp only [if_neg fitting]
    exact view_refill inv at_n index_lt { pool with cursor := cursor, writing := some index } rfl _

/-- **One action** keeps the invariant, and the bytes of every frame that is live before it. -/
theorem step_sound (inv : PoolsSound w) {action : PoolAction} (stepped : w.step action = some w') :
    PoolsSound w' ∧ ∀ loan ∈ w.store.loans, w'.store.heap[loan.1]? = w.store.heap[loan.1]? := by
  cases action with
  | take n len =>
    obtain ⟨pool, at_n, taken⟩ := Option.bind_eq_some_iff.mp stepped
    split at taken
    · cases taken
    · obtain rfl := Option.some.inj taken
      obtain ⟨sound, -, kept, -⟩ := take_spec inv at_n len
      exact ⟨sound, kept⟩
  | fill n bytes =>
    obtain ⟨pool, at_n, filled⟩ := Option.bind_eq_some_iff.mp stepped
    obtain ⟨index, writing, filled⟩ := Option.bind_eq_some_iff.mp filled
    obtain ⟨b, held, filled⟩ := Option.bind_eq_some_iff.mp filled
    obtain ⟨old, -, filled⟩ := Option.bind_eq_some_iff.mp filled
    split at filled
    · obtain rfl := Option.some.inj filled
      obtain ⟨-, b', held', unshared⟩ := inv.writing n pool index at_n writing
      obtain rfl := Option.some.inj (held'.symm.trans held)
      refine ⟨⟨inv.sound.write unshared bytes, inv.writing⟩, ?_⟩
      intro loan member
      exact List.getElem?_set_ne (unshared loan member).symm
    · cases filled
  | fail n =>
    obtain ⟨pool, at_n, failed⟩ := Option.bind_eq_some_iff.mp stepped
    obtain rfl := Option.some.inj failed
    refine ⟨⟨inv.sound, ?_⟩, fun _ _ => rfl⟩
    intro m pool' index at_m writing
    rw [getElem?_set_pool at_n] at at_m
    split at at_m
    · obtain rfl := Option.some.inj at_m
      cases writing
    · exact inv.writing m pool' index at_m writing
  | publish n =>
    obtain ⟨pool, at_n, published⟩ := Option.bind_eq_some_iff.mp stepped
    obtain ⟨index, writing, published⟩ := Option.bind_eq_some_iff.mp published
    obtain ⟨b, held, published⟩ := Option.bind_eq_some_iff.mp published
    obtain rfl := Option.some.inj published
    refine ⟨⟨inv.sound.lend b, ?_⟩, fun _ _ => rfl⟩
    intro m pool' index' at_m writing'
    rw [getElem?_set_pool at_n] at at_m
    split at at_m
    · obtain rfl := Option.some.inj at_m
      cases writing'
    · rename_i other
      obtain ⟨index'_lt, b', held', unshared⟩ := inv.writing m pool' index' at_m writing'
      refine ⟨index'_lt, b', held', unshared.lend ?_⟩
      rintro rfl
      exact other (Prod.mk.inj (inv.sound.distinct _ _ _ held' held)).1
  | rebuild n =>
    obtain ⟨pool, at_n, rebuilt⟩ := Option.bind_eq_some_iff.mp stepped
    split at rebuilt
    · cases rebuilt
    · rename_i idle
      obtain rfl := Option.some.inj rebuilt
      refine ⟨⟨inv.sound.clear _, ?_⟩, fun _ _ => rfl⟩
      intro m pool' index at_m writing
      rw [getElem?_set_pool at_n] at at_m
      split at at_m
      · obtain rfl := Option.some.inj at_m
        exact absurd (Option.isSome_of_mem writing) idle
      · rename_i other
        obtain ⟨index_lt, b, held, unshared⟩ := inv.writing m pool' index at_m writing
        refine ⟨index_lt, b, ?_, unshared⟩
        simp only [Store.clear, beq_iff_eq, if_neg other]
        exact held
  | clone_frame i =>
    obtain rfl := Option.some.inj stepped
    refine ⟨⟨inv.sound.lend_again i, ?_⟩, fun _ _ => rfl⟩
    intro m pool index at_m writing
    obtain ⟨index_lt, b, held, unshared⟩ := inv.writing m pool index at_m writing
    exact ⟨index_lt, b, held, unshared.lend_again i⟩
  | drop_frame i =>
    obtain rfl := Option.some.inj stepped
    refine ⟨⟨inv.sound.give_back i, ?_⟩, fun _ _ => rfl⟩
    intro m pool index at_m writing
    obtain ⟨index_lt, b, held, unshared⟩ := inv.writing m pool index at_m writing
    exact ⟨index_lt, b, held, unshared.give_back i⟩

end Steps

/-! ## Runs -/

/-- The actions as a step relation. -/
def PoolStep (w : PoolWorld) (action : PoolAction) (w' : PoolWorld) : Prop :=
  w.step action = some w'

/-- The slot that is being written can be written: its pool is its only owner. -/
theorem get_mut_of_writing {w : PoolWorld} (inv : PoolsSound w) {n index : Nat} {pool : PoolState}
    (at_n : w.pools[n]? = some pool) (writing : pool.writing = some index) :
    ∃ bytes, (CpuBufferPool.mk (w.view n) pool.cursor).get_mut index = some bytes ∧
      (CompositeBufferPool.mk (w.view n) pool.cursor).get_mut index = some bytes := by
  obtain ⟨index_lt, b, held, unshared⟩ := inv.writing n pool index at_n writing
  have one := (inv.sound.owners_eq_one_iff (nodup_keys w) (mem_keys_of_pool at_n index_lt)
    held).mpr unshared
  have seen : (w.view n)[index]? = some (some ⟨1, w.store.heap.getD b []⟩) := by
    rw [getElem?_view, slot_count_of_pool at_n, if_pos index_lt, held, Option.map_some, one]
  refine ⟨w.store.heap.getD b [], ?_, ?_⟩
  · unfold CpuBufferPool.get_mut
    rw [seen]
    rfl
  · unfold CompositeBufferPool.get_mut
    rw [seen]
    rfl

/-- **Published pixels are never overwritten.**  In every run, with pools of either kind and of
any sizes: a slot that is handed out has a buffer of exactly the length asked for that no live
frame shares; no slot is handed out only where every slot's buffer is shared by a live frame;
a slot that was taken can be written; and every live frame has the bytes it was returned with,
which no action changes.
SRC: dxgi.rs:1848-1898, display_manager.rs:318-351 -/
theorem published_pixels_never_overwritten (kinds : List (PoolKind × Nat))
    {steps : List (Taken PoolWorld PoolAction)} {w : PoolWorld}
    (run : Run PoolStep (.start kinds) steps w) :
    (∀ frame ∈ w.store.loans, w.store.heap[frame.1]? = some frame.2) ∧
    (∀ n pool index, w.pools[n]? = some pool → pool.writing = some index →
      ∃ bytes, (CpuBufferPool.mk (w.view n) pool.cursor).get_mut index = some bytes ∧
        (CompositeBufferPool.mk (w.view n) pool.cursor).get_mut index = some bytes) ∧
    ∀ t ∈ steps,
      (∀ frame ∈ t.before.store.loans,
        t.after.store.heap[frame.1]? = t.before.store.heap[frame.1]?) ∧
      ∀ n len, t.event = .take n len → ∃ pool, t.before.pools[n]? = some pool ∧
        ((∃ index cursor, t.after.pools[n]? =
              some { pool with cursor := cursor, writing := some index } ∧
            ∃ b bytes, t.after.store.slots (n, index) = some b ∧
              t.after.store.heap[b]? = some bytes ∧ bytes.length = len ∧
              ∀ frame ∈ t.after.store.loans, frame.1 ≠ b) ∨
          t.after = t.before ∧ ∀ i, i < pool.slot_count →
            ∃ b, t.before.store.slots (n, i) = some b ∧
              ∃ frame ∈ t.before.store.loans, frame.1 = b) := by
  have always : ∀ {steps w}, Run PoolStep (.start kinds) steps w → PoolsSound w := by
    intro steps w run
    exact run.inv (fun _ _ _ inv stepped => (step_sound inv stepped).1) (start_sound kinds)
  have inv := always run
  refine ⟨inv.sound.kept, fun n pool index => get_mut_of_writing inv, ?_⟩
  intro t member
  obtain ⟨stepped, earlier, reached⟩ := run.of_mem member
  have before := always reached
  refine ⟨(step_sound before stepped).2, ?_⟩
  intro n len taking
  rw [taking] at stepped
  obtain ⟨pool, at_n, taken⟩ := Option.bind_eq_some_iff.mp stepped
  refine ⟨pool, at_n, ?_⟩
  split at taken
  · cases taken
  · rw [← Option.some.inj taken]
    exact (take_spec before at_n len).2.2.2

/-- A frame is returned, cloned and dropped once while the only slot is asked for again. -/
def one_slot_actions : List PoolAction :=
  [.take 0 4, .fill 0 [1, 2, 3, 4], .publish 0, .clone_frame 0, .drop_frame 0, .take 0 4,
    .rebuild 0, .take 0 8, .fill 0 [9, 9, 9, 9, 9, 9, 9, 9], .fail 0]

/-- A frame of a pool with one slot keeps its pixels while it is held. -/
theorem one_slot_frame_kept : ∃ steps w, steps.map Taken.event = one_slot_actions ∧
    Run PoolStep (.start [(.Cpu, 1)]) steps w ∧
    ∀ frame ∈ w.store.loans, w.store.heap[frame.1]? = some frame.2 := by
  obtain ⟨steps, events, run⟩ := @Run.of_foldlM _ _ PoolStep (.start [(.Cpu, 1)]) _ PoolWorld.step
    (fun _ _ _ stepped => stepped) one_slot_actions rfl
  exact ⟨steps, _, events, run, (published_pixels_never_overwritten [(.Cpu, 1)] run).1⟩

end Captastic.Analysis
