/-
  iotex-core formalization — the store and the write buffer under `kvStoreWithBuffer`.

  * `Store` is the contents of a `db.KVStore`, `Store.applyBatch` what a committed batch
    makes of them (its writes applied in order), and `Store.writeBatch` the store's
    all-or-nothing `WriteBatch`;
  * `CachedBatch` is the write buffer of `db/batch` (outside this file set), modelled from the
    spec: an ordered write queue whose later entries shadow earlier ones, and a stack of
    snapshot markers into the queue's length.  The markers never exceed the queue and never
    decrease, and the structure carries both facts, so `RevertSnapshot` is a truncation to a
    prefix;
  * `applyBatch_eq_lookup`: the store overlaid with the queue answers, at each key, the last
    queued write for it, or the store.
-/
import IotexCore.Basic

namespace IotexCore

/-! ## Writes and stores -/

/-- `batch.WriteType`. -/
inductive WriteType where
  | put
  | delete
  deriving DecidableEq, Repr

/-- `batch.WriteInfo`: one queued write.  The error message it carries, read only by a store
    whose write fails, is left out. -/
structure WriteInfo where
  writeType : WriteType
  ns : String
  key : Bytes
  value : Bytes
  deriving DecidableEq, Repr

/-- The contents of a `db.KVStore`: the value under each namespace and key. -/
abbrev Store := String → Bytes → Option Bytes

/-- The value a write leaves under its key. -/
def WriteInfo.result (w : WriteInfo) : Option Bytes :=
  match w.writeType with
  | .put => some w.value
  | .delete => none

/-- Whether a write is to namespace `ns` and key `k`. -/
def WriteInfo.Hits (w : WriteInfo) (ns : String) (k : Bytes) : Prop := w.ns = ns ∧ w.key = k

instance (w : WriteInfo) (ns : String) (k : Bytes) : Decidable (w.Hits ns k) :=
  inferInstanceAs (Decidable (_ ∧ _))

/-- The contents with `v` under namespace `ns` and key `k` (`none`: nothing). -/
def Store.set (s : Store) (ns : String) (k : Bytes) (v : Option Bytes) : Store :=
  fun ns' k' => if ns' = ns ∧ k' = k then v else s ns' k'

/-- One write applied to the store's contents. -/
def WriteInfo.apply (w : WriteInfo) (s : Store) : Store := s.set w.ns w.key w.result

/-- The contents after the store commits a batch: its writes applied in order. -/
def Store.applyBatch (s : Store) (b : List WriteInfo) : Store := b.foldl (fun s w => w.apply s) s

/-- `KVStore.WriteBatch(b)` of a transactional store, whose answer to this call is `ans`:
    with `nil` the whole batch is committed, with an error none of it. -/
def Store.writeBatch (s : Store) (b : List WriteInfo) (ans : Option Err) : Store × Option Err :=
  match ans with
  | none => (s.applyBatch b, none)
  | some e => (s, some e)

/-- `KVStore.Get`: a missing key is `db.ErrNotExist`. -/
def Store.get (s : Store) (ns : String) (k : Bytes) : Except Err Bytes :=
  match s ns k with
  | some v => .ok v
  | none => .error .notExist

@[simp] theorem Store.applyBatch_nil (s : Store) : s.applyBatch [] = s := rfl

@[simp] theorem Store.applyBatch_append (s : Store) (b b' : List WriteInfo) :
    s.applyBatch (b ++ b') = (s.applyBatch b).applyBatch b' := List.foldl_append ..

@[simp] theorem Store.applyBatch_cons (s : Store) (w : WriteInfo) (b : List WriteInfo) :
    s.applyBatch (w :: b) = (w.apply s).applyBatch b := rfl

@[simp] theorem Store.writeBatch_none (s : Store) (b : List WriteInfo) :
    s.writeBatch b none = (s.applyBatch b, none) := rfl

@[simp] theorem Store.writeBatch_some (s : Store) (b : List WriteInfo) (e : Err) :
    s.writeBatch b (some e) = (s, some e) := rfl

theorem WriteInfo.apply_of_hits {w : WriteInfo} {ns : String} {k : Bytes} (h : w.Hits ns k)
    (s : Store) : w.apply s ns k = w.result := if_pos ⟨h.1.symm, h.2.symm⟩

theorem WriteInfo.apply_of_not_hits {w : WriteInfo} {ns : String} {k : Bytes} (h : ¬ w.Hits ns k)
    (s : Store) : w.apply s ns k = s ns k :=
  if_neg fun h' => h ⟨h'.1.symm, h'.2.symm⟩

/-- The last write of a queue to a key. -/
def lookup (q : List WriteInfo) (ns : String) (k : Bytes) : Option WriteInfo :=
  q.reverse.find? fun w => decide (w.Hits ns k)

@[simp] theorem lookup_nil (ns : String) (k : Bytes) : lookup [] ns k = none := rfl

theorem lookup_concat (q : List WriteInfo) (w : WriteInfo) (ns : String) (k : Bytes) :
    lookup (q ++ [w]) ns k = if w.Hits ns k then some w else lookup q ns k := by
  by_cases h : w.Hits ns k <;> simp [lookup, h]

/-- **Shadowing.**  The store overlaid with a queue holds, at each key, what the last queued
    write to it left, or what the store holds. -/
theorem applyBatch_eq_lookup (s : Store) (q : List WriteInfo) (ns : String) (k : Bytes) :
    s.applyBatch q ns k = ((lookup q ns k).map WriteInfo.result).getD (s ns k) := by
  induction q using List.reverseRecOn with
  | nil => rfl
  | append_singleton q w ih =>
    rw [Store.applyBatch_append, lookup_concat]
    by_cases h : w.Hits ns k
    · simp [WriteInfo.apply_of_hits h, h]
    · simp [WriteInfo.apply_of_not_hits h, h, ih]

/-! ## The write buffer -/

/-- Modelled from the spec: `batch.CachedBatch` (db/batch, outside this file set).  "An
    ordered, appendable log of (namespace, key, value-or-tombstone, write-order) entries" and
    the snapshot markers, "an integer checkpoint into the buffer's length": the marker of the
    snapshot with id `i` is `batchShots[i]`. -/
structure CachedBatch where
  writeQueue : List WriteInfo
  batchShots : List Nat
  shots_sorted : batchShots.Pairwise (· ≤ ·)
  shots_le : ∀ n ∈ batchShots, n ≤ writeQueue.length

namespace CachedBatch

/-- A buffer with no writes and no snapshots (`batch.NewCachedBatch`). -/
def empty : CachedBatch := ⟨[], [], .nil, fun _ h => absurd h (List.not_mem_nil _)⟩

/-- `Append(b)`: the batch's writes join the end of the queue. -/
def append (b : CachedBatch) (ws : List WriteInfo) : CachedBatch where
  writeQueue := b.writeQueue ++ ws
  batchShots := b.batchShots
  shots_sorted := b.shots_sorted
  shots_le n h := by have := b.shots_le n h; simp only [List.length_append]; omega

/-- `Put(ns, key, value)`. -/
def put (b : CachedBatch) (ns : String) (k v : Bytes) : CachedBatch :=
  b.append [⟨.put, ns, k, v⟩]

/-- `Delete(ns, key)`: a tombstone, whose value is `nil`. -/
def delete (b : CachedBatch) (ns : String) (k : Bytes) : CachedBatch :=
  b.append [⟨.delete, ns, k, []⟩]

/-- `Get(ns, key)`: the last queued write to the key decides; with none it is
    `batch.ErrNotExist`, and a tombstone is `batch.ErrAlreadyDeleted`. -/
def get (b : CachedBatch) (ns : String) (k : Bytes) : Except Err Bytes :=
  match lookup b.writeQueue ns k with
  | some ⟨.put, _, _, v⟩ => .ok v
  | some ⟨.delete, _, _, _⟩ => .error .alreadyDeleted
  | none => .error .batchNotExist

/-- `Size()`. -/
def size (b : CachedBatch) : Nat := b.writeQueue.length

/-- `Entry(i)`. -/
def entry (b : CachedBatch) (i : Nat) : Except Err WriteInfo :=
  match b.writeQueue[i]? with
  | some w => .ok w
  | none => .error .outOfBound

/-- `Snapshot()`: the new id is the number of live snapshots, its marker the queue's
    length. -/
def snapshot (b : CachedBatch) : Int × CachedBatch :=
  (b.batchShots.length, {
    writeQueue := b.writeQueue
    batchShots := b.batchShots ++ [b.writeQueue.length]
    shots_sorted := List.pairwise_append.2 ⟨b.shots_sorted, by simp,
      fun n hn m hm => by simp at hm; exact hm ▸ b.shots_le n hn⟩
    shots_le := fun n hn => by
      simp only [List.mem_append, List.mem_singleton] at hn
      exact hn.elim (b.shots_le n) le_of_eq })

theorem shot_le_shot (b : CachedBatch) {i j : Nat} (hij : i ≤ j) (hj : j < b.batchShots.length) :
    b.batchShots[i] ≤ b.batchShots[j] := by
  rcases Nat.eq_or_lt_of_le hij with rfl | hlt
  · exact le_rfl
  · exact List.pairwise_iff_getElem.1 b.shots_sorted i j (by omega) hj hlt

/-- The buffer as it was when snapshot `i` was taken: the queue cut back to the marker, and
    the snapshots after `i` dropped. -/
def revertTo (b : CachedBatch) (i : Nat) (hi : i < b.batchShots.length) : CachedBatch where
  writeQueue := b.writeQueue.take b.batchShots[i]
  batchShots := b.batchShots.take (i + 1)
  shots_sorted := b.shots_sorted.sublist (List.take_sublist _ _)
  shots_le n hn := by
    obtain ⟨j, hj, rfl⟩ := List.getElem_of_mem hn
    simp only [List.length_take, List.getElem_take] at hj ⊢
    have := b.shots_le _ (List.getElem_mem hi)
    have := b.shot_le_shot (i := j) (j := i) (by omega) hi
    omega

/-- `RevertSnapshot(sid)`: an id that is not live is `batch.ErrOutOfBound`. -/
def revertSnapshot (b : CachedBatch) (sid : Int) : Except Err CachedBatch :=
  if h : 0 ≤ sid ∧ sid.toNat < b.batchShots.length then .ok (b.revertTo sid.toNat h.2)
  else .error .outOfBound

/-- `ResetSnapshots()`. -/
def resetSnapshots (b : CachedBatch) : CachedBatch :=
  ⟨b.writeQueue, [], .nil, by simp⟩

/-- `Translate(wit)`: the queue as a batch, each write passed through `wit` when one is set
    (a `nil` result drops the write). -/
def translate (b : CachedBatch) (wit : Option (WriteInfo → Option WriteInfo)) : List WriteInfo :=
  match wit with
  | none => b.writeQueue
  | some f => b.writeQueue.filterMap f

/-- `ClearAndUnlock()`: the buffer is emptied. -/
def clear (_ : CachedBatch) : CachedBatch := empty

@[simp] theorem append_writeQueue (b : CachedBatch) (ws : List WriteInfo) :
    (b.append ws).writeQueue = b.writeQueue ++ ws := rfl

@[simp] theorem append_batchShots (b : CachedBatch) (ws : List WriteInfo) :
    (b.append ws).batchShots = b.batchShots := rfl

@[simp] theorem snapshot_fst (b : CachedBatch) : b.snapshot.1 = b.batchShots.length := rfl

@[simp] theorem snapshot_writeQueue (b : CachedBatch) : b.snapshot.2.writeQueue = b.writeQueue :=
  rfl

@[simp] theorem snapshot_batchShots (b : CachedBatch) :
    b.snapshot.2.batchShots = b.batchShots ++ [b.writeQueue.length] := rfl

@[simp] theorem revertTo_writeQueue (b : CachedBatch) (i : Nat) (hi : i < b.batchShots.length) :
    (b.revertTo i hi).writeQueue = b.writeQueue.take b.batchShots[i] := rfl

@[simp] theorem revertTo_batchShots (b : CachedBatch) (i : Nat) (hi : i < b.batchShots.length) :
    (b.revertTo i hi).batchShots = b.batchShots.take (i + 1) := rfl

@[simp] theorem resetSnapshots_writeQueue (b : CachedBatch) :
    b.resetSnapshots.writeQueue = b.writeQueue := rfl

@[simp] theorem clear_writeQueue (b : CachedBatch) : b.clear.writeQueue = [] := rfl

@[simp] theorem translate_none (b : CachedBatch) : b.translate none = b.writeQueue := rfl

/-- `Entry(i)` succeeds exactly below `Size()`, with the `i`-th queued write. -/
theorem entry_of_lt (b : CachedBatch) {i : Nat} (hi : i < b.size) :
    b.entry i = .ok b.writeQueue[i] := by
  simp [entry, List.getElem?_eq_getElem hi]

end CachedBatch

end IotexCore
