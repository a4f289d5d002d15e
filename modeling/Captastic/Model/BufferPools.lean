import Captastic.Library.Lending
import Captastic.Model.DisplayManager

/-!
# Buffer pools and the frames that share their buffers

The pools of `captastic-windows/src/dxgi.rs` and `captastic-windows/src/display_manager.rs`
together with the frames that were returned from them.  Buffers have identities here, so that
the counts `available_index` reads are those of the pools' slots and of the live frames
(`PoolWorld.view`).  Between taking a slot and publishing it the buffer is written any number
of times, other pools are used, and frames are cloned and dropped.
-/

set_option autoImplicit false

namespace Captastic.Model

open Captastic.Library

/-- Which of the two pools it is. -/
inductive PoolKind where
  | Cpu
  | Composite
deriving DecidableEq, Repr

/-- A pool besides its slots: `writing` is the slot that was taken and is not yet published. -/
structure PoolState where
  kind : PoolKind
  slot_count : Nat
  cursor : Nat
  writing : Option Nat
deriving DecidableEq, Repr

/-- The slot an `available_index` hands out, and the cursor after it. -/
def PoolState.available (pool : PoolState) (slots : List (Option PoolSlot)) (required_len : Nat) :
    Option (Nat × Nat) :=
  match pool.kind with
  | .Cpu =>
    ((CpuBufferPool.mk slots pool.cursor).available_index required_len).map fun taken =>
      (taken.1, taken.2.cursor)
  | .Composite =>
    ((CompositeBufferPool.mk slots pool.cursor).available_index required_len).map fun taken =>
      (taken.1, taken.2.cursor)

/-- The slot has a buffer of this length. -/
def fits (slots : List (Option PoolSlot)) (index len : Nat) : Bool :=
  (slots[index]?).any fun slot => slot.any fun slot => slot.bytes.length == len

/-- The buffers, each slot under the number of its pool and its index, and the pools. -/
structure PoolWorld where
  store : Store (Nat × Nat) (List Byte)
  pools : List PoolState

namespace PoolWorld

variable (w : PoolWorld)

/-- Pools as they are created, and no frames. -/
def start (kinds : List (PoolKind × Nat)) : PoolWorld where
  store := ⟨[], fun _ => none, []⟩
  pools := kinds.map fun kind => ⟨kind.1, kind.2, 0, none⟩

def slot_count (n : Nat) : Nat := (w.pools[n]?.map PoolState.slot_count).getD 0

/-- Every slot of every pool. -/
def keys : List (Nat × Nat) :=
  (List.range w.pools.length).flatMap fun n => (List.range (w.slot_count n)).map fun i => (n, i)

/-- The slots of a pool as the pool sees them. -/
def view (n : Nat) : List (Option PoolSlot) :=
  (List.range (w.slot_count n)).map fun i => (w.store.slots (n, i)).map fun b =>
    ⟨w.store.owners w.keys b, w.store.heap.getD b []⟩

/-- `available_index`, with its effect on the buffers.
SRC: dxgi.rs:1859-1880, display_manager.rs:331-350 -/
def take (n : Nat) (pool : PoolState) (len : Nat) : PoolWorld :=
  match pool.available (w.view n) len with
  | none => w
  | some (index, cursor) =>
    { store :=
        if fits (w.view n) index len then w.store
        else w.store.refill (n, index) (List.replicate len 0)
      pools := w.pools.set n { pool with cursor := cursor, writing := some index } }

/-- `Arc::get_mut` of the slot that was taken, filled with these bytes.
SRC: dxgi.rs:1295-1330, display_manager.rs:390-402 -/
def fill (n : Nat) (pool : PoolState) (bytes : List Byte) : Option PoolWorld := do
  let index ← pool.writing
  let b ← w.store.slots (n, index)
  let old ← w.store.heap[b]?
  if w.store.owners w.keys b = 1 ∧ bytes.length = old.length then
    some { w with store := w.store.write b bytes }
  else none

/-- The slot's `Arc` cloned into a frame that is returned.
SRC: dxgi.rs:1332-1335, display_manager.rs:404 -/
def publish (n : Nat) (pool : PoolState) : Option PoolWorld := do
  let index ← pool.writing
  let b ← w.store.slots (n, index)
  some ⟨w.store.lend b, w.pools.set n { pool with writing := none }⟩

end PoolWorld

inductive PoolAction where
  | take (n len : Nat)
  | fill (n : Nat) (bytes : List Byte)
  | fail (n : Nat)
  | publish (n : Nat)
  | rebuild (n : Nat)
  | clone_frame (i : Nat)
  | drop_frame (i : Nat)
deriving DecidableEq, Repr

/-- One action.  A pool is rebuilt, and a slot taken, only while no slot is being written: both
need the pool's owner to themselves.
SRC: dxgi.rs:1366-1393 -/
def PoolWorld.step (w : PoolWorld) : PoolAction → Option PoolWorld
  | .take n len => do
    let pool ← w.pools[n]?
    if pool.writing.isSome then none else some (w.take n pool len)
  | .fill n bytes => do
    let pool ← w.pools[n]?
    w.fill n pool bytes
  | .fail n => do
    let pool ← w.pools[n]?
    some { w with pools := w.pools.set n { pool with writing := none } }
  | .publish n => do
    let pool ← w.pools[n]?
    w.publish n pool
  | .rebuild n => do
    let pool ← w.pools[n]?
    if pool.writing.isSome then none
    else some ⟨w.store.clear (·.1 == n), w.pools.set n { pool with cursor := 0 }⟩
  | .clone_frame i => some { w with store := w.store.lend_again i }
  | .drop_frame i => some { w with store := w.store.give_back i }

end Captastic.Model
