/-
  iotex-core formalization — `kvStoreWithBuffer` and its `flusher` (db/kvstore_impl), and the
  transactional map they implement.

  * `KVStoreWithBuffer.get` reads through the buffer: a queued write shadows the store, and a
    queued delete makes the key `NotExist`;
  * `TxMap` is the reference: one map, written in order, with the maps saved by the live
    snapshots, the one with id `i` at position `i`; a `RevertSnapshot` to the id a `Snapshot`
    returned restores what that snapshot saved (`TxMap.revert_snapshot`);
  * `abs` maps a buffered store to the reference, and `abs_exec` shows that every call of the
    wrapper is the same call on the reference and leaves the underlying store alone
    (`exec_store`), while `Snapshot` returns the reference's id (`snapshot_id_eq`);
  * `Flusher.flush` writes the buffer to the store in one batch, then clears it;
    `newKVStoreFlusher` builds a flusher over the store and buffer it is given.
-/
import IotexCore.Db.Batch

namespace IotexCore

/-! ## The buffered store -/

/-- `kvStoreWithBuffer`: a store, and the buffer of the writes not yet flushed to it. -/
structure KVStoreWithBuffer where
  store : Store
  buffer : CachedBatch

/-- What a `Get` tells its caller: the value, `NotExist` (`some none`, any error whose cause
    is `db.ErrNotExist`), or another error (`none`). -/
def observe : Except Err Bytes → Option (Option Bytes)
  | .ok v => some (some v)
  | .error e => if e.cause = .notExist then some none else none

namespace KVStoreWithBuffer

/-- `Get(ns, key)`: the buffer first; `batch.ErrNotExist` falls through to the store, and
    `batch.ErrAlreadyDeleted` becomes `db.ErrNotExist`. -/
def get (kvb : KVStoreWithBuffer) (ns : String) (k : Bytes) : Except Err Bytes :=
  let r := match kvb.buffer.get ns k with
    | .error e => if e.cause = Err.batchNotExist then kvb.store.get ns k else .error e
    | .ok v => .ok v
  match r with
  | .error e =>
    if e.cause = Err.alreadyDeleted then
      let h := k.hex
      .error (.wrap .notExist s!"failed to get key {h} in {ns}, deleted in buffer level")
    else .error e
  | .ok v => .ok v

/-- `WriteBatch(b)`, and the common step of the four single writes: the writes join the
    buffer, and the call returns `nil`. -/
def writeBatch (kvb : KVStoreWithBuffer) (b : List WriteInfo) : KVStoreWithBuffer × Option Err :=
  (⟨kvb.store, kvb.buffer.append b⟩, none)

/-- `MustPut(ns, key, value)`. -/
def mustPut (kvb : KVStoreWithBuffer) (ns : String) (k v : Bytes) : KVStoreWithBuffer :=
  ⟨kvb.store, kvb.buffer.put ns k v⟩

/-- `Put(ns, key, value)`. -/
def put (kvb : KVStoreWithBuffer) (ns : String) (k v : Bytes) : KVStoreWithBuffer × Option Err :=
  (kvb.mustPut ns k v, none)

/-- `MustDelete(ns, key)`. -/
def mustDelete (kvb : KVStoreWithBuffer) (ns : String) (k : Bytes) : KVStoreWithBuffer :=
  ⟨kvb.store, kvb.buffer.delete ns k⟩

/-- `Delete(ns, key)`. -/
def delete (kvb : KVStoreWithBuffer) (ns : String) (k : Bytes) : KVStoreWithBuffer × Option Err :=
  (kvb.mustDelete ns k, none)

/-- `Snapshot()`. -/
def snapshot (kvb : KVStoreWithBuffer) : Int × KVStoreWithBuffer :=
  (kvb.buffer.snapshot.1, ⟨kvb.store, kvb.buffer.snapshot.2⟩)

/-- `RevertSnapshot(sid)`: on an error the buffer is left as it was. -/
def revertSnapshot (kvb : KVStoreWithBuffer) (sid : Int) : KVStoreWithBuffer × Option Err :=
  match kvb.buffer.revertSnapshot sid with
  | .ok b => (⟨kvb.store, b⟩, none)
  | .error e => (kvb, some e)

/-- `ResetSnapshots()`. -/
def resetSnapshots (kvb : KVStoreWithBuffer) : KVStoreWithBuffer :=
  ⟨kvb.store, kvb.buffer.resetSnapshots⟩

/-- `Size()`. -/
def size (kvb : KVStoreWithBuffer) : Nat := kvb.buffer.size

end KVStoreWithBuffer

/-- The calls that change a buffered store. -/
inductive Op where
  | put (ns : String) (k v : Bytes)
  | mustPut (ns : String) (k v : Bytes)
  | delete (ns : String) (k : Bytes)
  | mustDelete (ns : String) (k : Bytes)
  | writeBatch (b : List WriteInfo)
  | snapshot
  | revertSnapshot (sid : Int)
  | resetSnapshots

/-- Calls that leave every live snapshot live: all but `RevertSnapshot` and `ResetSnapshots`. -/
def Op.keepsSnapshots : Op → Bool
  | .revertSnapshot _ | .resetSnapshots => false
  | _ => true

namespace KVStoreWithBuffer

/-- One call, its return value dropped. -/
def exec (kvb : KVStoreWithBuffer) : Op → KVStoreWithBuffer
  | .put ns k v => (kvb.put ns k v).1
  | .mustPut ns k v => kvb.mustPut ns k v
  | .delete ns k => (kvb.delete ns k).1
  | .mustDelete ns k => kvb.mustDelete ns k
  | .writeBatch b => (kvb.writeBatch b).1
  | .snapshot => kvb.snapshot.2
  | .revertSnapshot sid => (kvb.revertSnapshot sid).1
  | .resetSnapshots => kvb.resetSnapshots

/-- A sequence of calls. -/
def run (kvb : KVStoreWithBuffer) (ops : List Op) : KVStoreWithBuffer := ops.foldl exec kvb

end KVStoreWithBuffer

/-! ## The reference: a transactional map -/

/-- A map with nested transactions: the current map, and the maps the live snapshots saved,
    the snapshot with id `i` at position `i`. -/
structure TxMap where
  map : Store
  saved : List Store

namespace TxMap

/-- The reference map of a store with nothing written yet. -/
def init (s : Store) : TxMap := ⟨s, []⟩

/-- `Snapshot()` on the reference: the map is saved under the next id, the number of live
    snapshots, and that id is returned. -/
def snapshot (m : TxMap) : Int × TxMap := (m.saved.length, ⟨m.map, m.saved ++ [m.map]⟩)

/-- A call on the reference: writes change the map in order; `RevertSnapshot(s)` restores the
    map saved under `s` and forgets the snapshots after it, and does nothing for an id that is
    not live. -/
def exec (m : TxMap) : Op → TxMap
  | .put ns k v | .mustPut ns k v => ⟨m.map.set ns k (some v), m.saved⟩
  | .delete ns k | .mustDelete ns k => ⟨m.map.set ns k none, m.saved⟩
  | .writeBatch b => ⟨m.map.applyBatch b, m.saved⟩
  | .snapshot => m.snapshot.2
  | .revertSnapshot sid =>
    if h : 0 ≤ sid ∧ sid.toNat < m.saved.length then
      ⟨m.saved[sid.toNat], m.saved.take (sid.toNat + 1)⟩
    else m
  | .resetSnapshots => ⟨m.map, []⟩

/-- A sequence of calls on the reference. -/
def run (m : TxMap) (ops : List Op) : TxMap := ops.foldl exec m

@[simp] theorem run_nil (m : TxMap) : m.run [] = m := rfl

@[simp] theorem run_cons (m : TxMap) (op : Op) (ops : List Op) :
    m.run (op :: ops) = (m.exec op).run ops := rfl

theorem run_append (m : TxMap) (ops ops' : List Op) : m.run (ops ++ ops') = (m.run ops).run ops' :=
  List.foldl_append _ _ _ _

@[simp] theorem exec_snapshot (m : TxMap) : m.exec .snapshot = m.snapshot.2 := rfl

/-- A call that keeps the snapshots live only adds snapshots after the ones there. -/
theorem exec_saved_grows (m : TxMap) {op : Op} (h : op.keepsSnapshots) :
    m.saved <+: (m.exec op).saved := by
  cases op with
  | snapshot => exact List.prefix_append _ _
  | revertSnapshot | resetSnapshots => cases h
  | _ => exact List.prefix_refl _

theorem run_saved_grows (m : TxMap) {ops : List Op} (h : ∀ op ∈ ops, op.keepsSnapshots) :
    m.saved <+: (m.run ops).saved := by
  induction ops generalizing m with
  | nil => exact List.prefix_refl _
  | cons op ops ih =>
    exact (m.exec_saved_grows (h op (List.mem_cons_self _ _))).trans
      (ih _ fun o ho => h o (List.mem_cons_of_mem _ ho))

/-- **Revert undoes everything since its snapshot.**  `RevertSnapshot` to the id a `Snapshot`
    returned, with only writes and further snapshots in between, restores the map that
    snapshot saved and forgets the snapshots taken after it. -/
theorem revert_snapshot (m : TxMap) {ops : List Op} (h : ∀ op ∈ ops, op.keepsSnapshots) :
    (m.snapshot.2.run ops).exec (.revertSnapshot m.snapshot.1) = m.snapshot.2 := by
  obtain ⟨rest, hr⟩ := m.snapshot.2.run_saved_grows h
  generalize m.snapshot.2.run ops = m' at hr
  have hsaved : m'.saved = m.saved ++ m.map :: rest := by simp [← hr, snapshot]
  simp [exec, snapshot, hsaved, List.take_append_eq_append_take, List.getElem_append_right,
    Int.ofNat_zero_le, List.take_of_length_le (Nat.le_succ m.saved.length)]

end TxMap

/-- The reference state of a buffered store: the store overlaid with the queue, and with the
    queue cut at each snapshot marker. -/
def abs (kvb : KVStoreWithBuffer) : TxMap :=
  ⟨kvb.store.applyBatch kvb.buffer.writeQueue,
    kvb.buffer.batchShots.map fun n => kvb.store.applyBatch (kvb.buffer.writeQueue.take n)⟩

/-! ## Reads -/

/-- **Read through the buffer.**  `Get` answers the reference map: the value, or
    `NotExist` exactly when the map has none. -/
theorem observe_get (kvb : KVStoreWithBuffer) (ns : String) (k : Bytes) :
    observe (kvb.get ns k) = some ((abs kvb).map ns k) := by
  simp only [abs, applyBatch_eq_lookup, KVStoreWithBuffer.get, CachedBatch.get]
  rcases lookup kvb.buffer.writeQueue ns k with _ | ⟨_ | _, _, _, v⟩
  · cases h : kvb.store ns k <;> simp [Store.get, h, observe, Err.cause]
  · simp [observe, WriteInfo.result]
  · simp [observe, WriteInfo.result, Err.cause]

/-! ## Every call is the same call on the reference -/

theorem abs_append (kvb : KVStoreWithBuffer) (ws : List WriteInfo) :
    abs ⟨kvb.store, kvb.buffer.append ws⟩ =
      ⟨(abs kvb).map.applyBatch ws, (abs kvb).saved⟩ := by
  simp only [abs, CachedBatch.append_writeQueue, CachedBatch.append_batchShots,
    Store.applyBatch_append, TxMap.mk.injEq, true_and]
  exact List.map_congr_left fun n hn => by
    rw [List.take_append_of_le_length (kvb.buffer.shots_le n hn)]

theorem abs_revertTo (kvb : KVStoreWithBuffer) (i : Nat) (hi : i < kvb.buffer.batchShots.length) :
    abs ⟨kvb.store, kvb.buffer.revertTo i hi⟩ =
      ⟨(abs kvb).saved.get ⟨i, by simpa [abs] using hi⟩, (abs kvb).saved.take (i + 1)⟩ := by
  simp only [abs, CachedBatch.revertTo_writeQueue, CachedBatch.revertTo_batchShots,
    List.get_eq_getElem, List.getElem_map, ← List.map_take, TxMap.mk.injEq, true_and]
  refine List.map_congr_left fun n hn => ?_
  obtain ⟨j, hj, rfl⟩ := List.getElem_of_mem hn
  simp only [List.length_take, List.getElem_take] at hj ⊢
  rw [List.take_take, min_eq_left (kvb.buffer.shot_le_shot (by omega) hi)]

/-- **The buffered store refines the transactional map**, call by call. -/
theorem abs_exec (kvb : KVStoreWithBuffer) (op : Op) : abs (kvb.exec op) = (abs kvb).exec op := by
  cases op with
  | put ns k v | mustPut ns k v | delete ns k | mustDelete ns k | writeBatch b =>
    exact abs_append kvb _
  | snapshot =>
    simp [abs, KVStoreWithBuffer.exec, KVStoreWithBuffer.snapshot, TxMap.snapshot]
  | revertSnapshot sid =>
    simp only [KVStoreWithBuffer.exec, KVStoreWithBuffer.revertSnapshot,
      CachedBatch.revertSnapshot, TxMap.exec]
    have hlen : (abs kvb).saved.length = kvb.buffer.batchShots.length := by simp [abs]
    by_cases h : 0 ≤ sid ∧ sid.toNat < kvb.buffer.batchShots.length
    · simp only [dif_pos h, dif_pos (hlen ▸ h)]
      exact abs_revertTo kvb _ h.2
    · simp only [dif_neg h, dif_neg (hlen ▸ h)]
  | resetSnapshots => rfl

theorem exec_store (kvb : KVStoreWithBuffer) (op : Op) : (kvb.exec op).store = kvb.store := by
  cases op <;> simp only [KVStoreWithBuffer.exec, KVStoreWithBuffer.revertSnapshot] <;>
    first | rfl | split <;> rfl

/-- Runs of calls: the simulation of one call, step after step. -/
theorem abs_run (kvb : KVStoreWithBuffer) (ops : List Op) :
    abs (kvb.run ops) = (abs kvb).run ops ∧ (kvb.run ops).store = kvb.store := by
  induction ops generalizing kvb with
  | nil => exact ⟨rfl, rfl⟩
  | cons op ops ih =>
    obtain ⟨h1, h2⟩ := ih (kvb.exec op)
    exact ⟨h1.trans (congrArg (TxMap.run · ops) (abs_exec kvb op)), h2.trans (exec_store kvb op)⟩

/-- `Snapshot` returns the id the reference's `Snapshot` returns. -/
theorem snapshot_id_eq (kvb : KVStoreWithBuffer) : kvb.snapshot.1 = (abs kvb).snapshot.1 := by
  simp [KVStoreWithBuffer.snapshot, TxMap.snapshot, abs]

@[simp] theorem abs_empty (s : Store) : abs ⟨s, .empty⟩ = TxMap.init s := rfl

/-- **The buffered store is a transactional map.**  After any sequence of `Put`, `MustPut`,
    `Delete`, `MustDelete`, `WriteBatch`, `Snapshot`, `RevertSnapshot` and `ResetSnapshots`
    on a store `s` with an empty buffer, `Get` answers what the reference map built by the
    same calls from `s` holds (the value, or `NotExist`), `s` itself is untouched, and a
    `Snapshot` returns the reference's id.  So a `RevertSnapshot` to the id a `Snapshot`
    returned, with only writes and further snapshots in between, brings back every answer
    `Get` gave when that `Snapshot` was taken. -/
theorem get_run_eq_reference (s : Store) (ops : List Op) :
    (∀ ns k, observe (((⟨s, .empty⟩ : KVStoreWithBuffer).run ops).get ns k) =
        some (((TxMap.init s).run ops).map ns k)) ∧
      ((⟨s, .empty⟩ : KVStoreWithBuffer).run ops).store = s ∧
      ((⟨s, .empty⟩ : KVStoreWithBuffer).run ops).snapshot.1 = ((TxMap.init s).run ops).snapshot.1 ∧
      ∀ mid, (∀ op ∈ mid, op.keepsSnapshots) → ∀ ns k,
        observe (((⟨s, .empty⟩ : KVStoreWithBuffer).run (ops ++ .snapshot :: mid ++
            [.revertSnapshot ((⟨s, .empty⟩ : KVStoreWithBuffer).run ops).snapshot.1])).get ns k) =
          observe (((⟨s, .empty⟩ : KVStoreWithBuffer).run ops).get ns k) := by
  have hrun := fun ops => (abs_run ⟨s, .empty⟩ ops).1
  simp only [abs_empty] at hrun
  have hid : ((⟨s, .empty⟩ : KVStoreWithBuffer).run ops).snapshot.1 =
      ((TxMap.init s).run ops).snapshot.1 := by rw [snapshot_id_eq, hrun]
  refine ⟨fun ns k => by rw [observe_get, hrun], (abs_run _ ops).2, hid, fun mid hmid ns k => ?_⟩
  rw [observe_get, observe_get, hrun, hrun, hid]
  simp only [TxMap.run_append, List.cons_append, TxMap.run_cons, TxMap.exec_snapshot,
    TxMap.run_nil, TxMap.revert_snapshot _ hmid]
  rfl

/-! ## Flush -/

/-- `flusher`: the buffered store and the translation applied to the batch it flushes (the
    serialization options, used only by `SerializeQueue`, are left out). -/
structure Flusher where
  kvb : KVStoreWithBuffer
  flushTranslate : Option (WriteInfo → Option WriteInfo)

/-- `Flush()`, the store answering `ans` to the batch write: on an error the flusher returns
    it; on `nil` the buffer is cleared. -/
def Flusher.flush (f : Flusher) (ans : Option Err) : Flusher × Option Err :=
  match f.kvb.store.writeBatch (f.kvb.buffer.translate f.flushTranslate) ans with
  | (_, some e) => (f, some e)
  | (s, none) => (⟨⟨s, f.kvb.buffer.clear⟩, f.flushTranslate⟩, none)

/-- A `KVStoreFlusherOption`.  The serialization options set fields only `SerializeQueue`
    reads, so of them only whether their argument is nil is kept; a nil translation is
    `none`. -/
inductive FlusherOption where
  | serializeFilterOption (filterNil : Bool)
  | serializeOption (serializeNil : Bool)
  | flushTranslateOption (wit : Option (WriteInfo → Option WriteInfo))

/-- `opt(f)`: a nil argument is an error; `FlushTranslateOption` sets the translation. -/
def FlusherOption.apply : FlusherOption → Flusher → Except Err Flusher
  | .serializeFilterOption filterNil, f =>
    if filterNil then .error (.new "filter cannot be nil") else .ok f
  | .serializeOption serializeNil, f =>
    if serializeNil then .error (.new "serialize function cannot be nil") else .ok f
  | .flushTranslateOption none, _ => .error (.new "translate cannot be nil")
  | .flushTranslateOption (some wit), f => .ok { f with flushTranslate := some wit }

/-- `NewKVStoreFlusher(store, buffer, opts...)`: a nil store or buffer (`none`) is an error;
    the options apply in order, and the first error is wrapped and returned. -/
def newKVStoreFlusher (store : Option Store) (buffer : Option CachedBatch)
    (opts : List FlusherOption) : Except Err Flusher :=
  match store, buffer with
  | none, _ => .error (.new "store cannot be nil")
  | _, none => .error (.new "buffer cannot be nil")
  | some store, some buffer =>
    opts.foldlM (fun f opt => (opt.apply f).mapError fun err => .wrap err "failed to apply option")
      ⟨⟨store, buffer⟩, none⟩

/-- **Flush is atomic and invisible.**  With no translation set: if the store's batch write
    fails, `Flush` returns its error and changes nothing; if it succeeds, the buffer is empty
    and every key reads as it did before. -/
theorem flush_atomic (kvb : KVStoreWithBuffer) :
    (∀ e, (⟨kvb, none⟩ : Flusher).flush (some e) = (⟨kvb, none⟩, some e)) ∧
    ((⟨kvb, none⟩ : Flusher).flush none).2 = none ∧
    ((⟨kvb, none⟩ : Flusher).flush none).1.kvb.buffer.writeQueue = [] ∧
    ((⟨kvb, none⟩ : Flusher).flush none).1.kvb.size = 0 ∧
    ∀ ns k, observe (((⟨kvb, none⟩ : Flusher).flush none).1.kvb.get ns k) = observe (kvb.get ns k) :=
  ⟨fun _ => rfl, rfl, rfl, rfl, fun ns k => by
    rw [observe_get, observe_get]
    simp [abs, Flusher.flush]⟩

end IotexCore
