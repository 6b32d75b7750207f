/-
  iotex-core formalization — the contract staking indexer of blockindex/contractstaking.

  The indexer keeps a live cache of the staking contract's buckets, built one block at a time,
  and a store holding the merged state with the height it reached (the checkpoint).

  * `StakingOps` gathers what the indexer calls of the cache and the event handler, which sit
    outside this file set; `Faults` are the answers of `Merge`, `WriteBatch` and `LoadFromDB`
    to one call, so every result holds whatever they answer;
  * `putBlock` is `PutBlock`: the expected height (`expectHeight`), the loop handing the
    contract's logs in successful receipts to the handler (`handleReceipts`), and `commit`,
    which merges the delta, writes the batch with the checkpoint, and on a failure reloads the
    cache from the store, dropping the reload's own error (`reloadCache`);
  * `run` is a sequence of `PutBlock` calls.

  The indexer's own code is translated from blockindex/contractstaking/indexer.go, under src/;
  the line numbers below are that file's.  The cache, the event handler and the cache's
  `LoadFromDB` are in other files of the package, not under src/: they are modelled from the
  spec (§4.3, the incremental indexer) as the parameters `StakingOps` and the answers `Faults`.
-/
import IotexCore.Db.Batch
import IotexCore.Blockchain.Types

namespace IotexCore.ContractStaking

/-- `Config` (indexer.go:42), as far as `PutBlock` reads it. -/
structure Config where
  contractAddress : String
  contractDeployHeight : UInt64

/-- Modelled from the spec (§4.3: a per-call handler accumulates a cache delta and a write
    batch; the delta is merged into the live cache): the cache and the event handler, outside
    src/, through the calls the indexer makes.  `C` is the cache, `H` a handler with what it
    has accumulated, `D` a cache delta. -/
structure StakingOps (C H D : Type) where
  /-- `cache.Height()` -/
  height : C → UInt64
  /-- `newContractStakingCache(config)` -/
  newCache : C
  /-- `newContractStakingEventHandler(cache)` -/
  newHandler : C → H
  /-- `handler.HandleEvent(ctx, height, log)` -/
  handleEvent : H → UInt64 → Log → Except Err H
  /-- `handler.Result()`: the batch of store writes and the cache delta -/
  result : H → List WriteInfo × D
  /-- `cache.Merge(delta, height)`, when it succeeds -/
  merge : C → D → UInt64 → C
  /-- `cache.LoadFromDB(kvstore)` into a fresh cache, when it succeeds -/
  load : Store → C
  /-- `_StakingNS` -/
  stakingNS : String
  /-- `_stakingHeightKey` -/
  stakingHeightKey : Bytes

/-- Modelled from the spec (§4.3: "if either the merge or the write fails, the entire cache is
    discarded and reloaded from the store"): the answers to one `PutBlock` call, an error of
    `cache.Merge`, an error of the store's `WriteBatch`, and an error of a reload's
    `LoadFromDB`, with the cache it loaded so far. -/
structure Faults (C : Type) where
  merge : Option Err
  writeBatch : Option Err
  load : Option (Err × C)

/-- The answers of collaborators that all succeed. -/
def Faults.ok {C : Type} : Faults C := ⟨none, none, none⟩

/-- `Indexer` (indexer.go:34): the store, the live cache and the configuration, and (ghost) the
    heights whose checkpoint the store committed, in order. -/
structure Indexer (C : Type) where
  kvstore : Store
  cache : C
  config : Config
  checkpointed : List UInt64

/-- `uint64(iotextypes.ReceiptStatus_Success)`. -/
def receiptStatusSuccess : UInt64 := 1

namespace Indexer

variable {C H D : Type} (ops : StakingOps C H D)

/-! ## Loading -/

/-- `loadFromDB()` (indexer.go:250): `LoadFromDB` answering `load`; a failed load leaves the cache it loaded so
    far. -/
def loadFromDB (s : Indexer C) (load : Option (Err × C)) : Indexer C × Option Err :=
  match load with
  | none => ({ s with cache := ops.load s.kvstore }, none)
  | some (err, loaded) => ({ s with cache := loaded }, some err)

/-- `start` (indexer.go:95), once the store has started: the cache loaded from the store. -/
def start (s : Indexer C) (load : Option (Err × C)) : Indexer C × Option Err := s.loadFromDB ops load

/-- `reloadCache()` (indexer.go:245): a fresh cache, loaded from the store. -/
def reloadCache (s : Indexer C) (load : Option (Err × C)) : Indexer C × Option Err :=
  { s with cache := ops.newCache }.loadFromDB ops load

/-! ## `PutBlock` -/

/-- The height `PutBlock` expects (indexer.go:197-201): the one after the cache's, floored at
    the deploy height. -/
def expectHeight (s : Indexer C) : UInt64 :=
  let expectHeight := ops.height s.cache + 1
  if expectHeight < s.config.contractDeployHeight then s.config.contractDeployHeight
  else expectHeight

/-- The inner loop of `PutBlock`: the logs of one receipt emitted by `contract` go to the
    handler in order; the first error stops the loop. -/
def handleLogs (contract : String) (height : UInt64) (handler : H) : List Log → Except Err H
  | [] => .ok handler
  | log :: logs =>
    if log.address ≠ contract then handleLogs contract height handler logs
    else
      match ops.handleEvent handler height log with
      | .error err => .error err
      | .ok handler => handleLogs contract height handler logs

/-- The outer loop of `PutBlock`: receipts without success status are skipped. -/
def handleReceipts (contract : String) (height : UInt64) (handler : H) :
    List Receipt → Except Err H
  | [] => .ok handler
  | receipt :: receipts =>
    if receipt.status ≠ receiptStatusSuccess then handleReceipts contract height handler receipts
    else
      match handleLogs ops contract height handler receipt.logs with
      | .error err => .error err
      | .ok handler => handleReceipts contract height handler receipts

/-- The checkpoint write `commit` adds to the batch. -/
def checkpointWrite (height : UInt64) : WriteInfo :=
  ⟨.put, ops.stakingNS, ops.stakingHeightKey, uint64ToBytesBigEndian height⟩

/-- `commit(handler, height)` (indexer.go:229): merge the delta into the live cache, then write the batch and
    the checkpoint; on either failure reload the cache (ignoring the reload's error) and return
    the failure. -/
def commit (s : Indexer C) (handler : H) (height : UInt64) (f : Faults C) :
    Indexer C × Option Err :=
  let batch := (ops.result handler).1
  let delta := (ops.result handler).2
  match f.merge with
  | some err => ((s.reloadCache ops f.load).1, some err)
  | none =>
    let s := { s with cache := ops.merge s.cache delta height }
    match s.kvstore.writeBatch (batch ++ [checkpointWrite ops height]) f.writeBatch with
    | (_, some err) => ((s.reloadCache ops f.load).1, some err)
    | (kvstore, none) => ({ s with kvstore, checkpointed := s.checkpointed ++ [height] }, none)

/-- `PutBlock(ctx, blk)` (indexer.go:196), its collaborators answering `f`. -/
def putBlock (s : Indexer C) (blk : Block) (f : Faults C) : Indexer C × Option Err :=
  let expectHeight := s.expectHeight ops
  let h := blk.header.height
  if h < expectHeight then (s, none)
  else if h > expectHeight then (s, some (.new s!"invalid block height {h}, expect {expectHeight}"))
  else
    match handleReceipts ops s.config.contractAddress h (ops.newHandler s.cache) blk.receipts with
    | .error err => (s, some err)
    | .ok handler => s.commit ops handler h f

/-- A sequence of `PutBlock` calls, each with its block and its collaborators' answers: the
    final indexer and what each call returned. -/
def run : Indexer C → List (Block × Faults C) → Indexer C × List (Option Err)
  | s, [] => (s, [])
  | s, (blk, f) :: calls =>
    let r := s.putBlock ops blk f
    let rest := run r.1 calls
    (rest.1, r.2 :: rest.2)

@[simp] theorem run_nil (s : Indexer C) : s.run ops [] = (s, []) := rfl

@[simp] theorem run_cons (s : Indexer C) (blk : Block) (f : Faults C)
    (calls : List (Block × Faults C)) :
    s.run ops ((blk, f) :: calls) =
      (((s.putBlock ops blk f).1.run ops calls).1,
        (s.putBlock ops blk f).2 :: ((s.putBlock ops blk f).1.run ops calls).2) := rfl

end Indexer

end IotexCore.ContractStaking
