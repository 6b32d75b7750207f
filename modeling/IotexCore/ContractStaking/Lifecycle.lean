/-
  iotex-core formalization — the indexer's lifecycle: `Start`, `StartView` and `Stop`, the reads,
  and `PutBlock`, in any order.

  `lifecycle.Readiness` is one flag: `start` turns it on once the store has started and the
  cache has loaded, and `Stop` turns it off after dropping the cache.  `PutBlock` does not look
  at the flag, and the reads look only at the deploy height.

  * `Service`, `Request`, `Service.exec`, `Service.run`: the indexer with its flag, and its
    clients' calls with the answers of its collaborators;
  * `exec_readyInv`, `run_readyInv`, `ready_serves_store`: over any calls whose reloads load,
    a ready indexer's live cache is the store's, so `Height()` and every view `StartView`
    returns are at the store's checkpoint, and every read at or above the deploy height is
    answered from the store's cache (below it, empty);
  * `restart_reloads`: `Stop` then `Start` gives a ready indexer over the store's cache from
    any state, and gives back the same indexer when it was ready over the store's cache.

  The calls are translated from blockindex/contractstaking/indexer.go, under src/ (line numbers
  are that file's); `lifecycle.Readiness` (pkg/lifecycle), the view and the cache's reads are
  not under src/ and are modelled from the spec (§4.3).
-/
import IotexCore.ContractStaking.Consistency

namespace IotexCore.ContractStaking

/-- `Indexer` (indexer.go:34) with its embedded `lifecycle.Readiness`, modelled from the spec
    (§4.3: `Start` marks the indexer ready, `Stop` not ready) as one flag. -/
structure Service (C : Type) where
  indexer : Indexer C
  ready : Bool

/-- Modelled from the spec (§4.3: "an isolated, independent copy of the cache pinned at its
    current height"): `stakeView`, as `StartView` builds it, a copy of the cache and the
    cache's height. -/
structure StakeView (C : Type) where
  clean : C
  height : UInt64

/-- The calls of the indexer's clients, with the answers of its collaborators: the store's
    `Start` and `Stop`, `LoadFromDB`, and those of one `PutBlock`. -/
inductive Request (C : Type) where
  | start (kvStart : Option Err) (load : Option (Err × C))
  | startView (kvStart : Option Err) (load : Option (Err × C))
  | stop (kvStop : Option Err)
  | putBlock (blk : Block) (f : Faults C)

/-- The reloads of a call load: those of a `PutBlock`'s commit (the load of a start may fail). -/
def Request.ReloadsLoad {C : Type} : Request C → Prop
  | .putBlock _ f => f.load = none
  | _ => True

namespace Service

variable {C H D : Type} (ops : StakingOps C H D)

/-! ## The calls -/

/-- `NewContractStakingIndexer(kvStore, config)` (indexer.go:56): a nil store (`none`), a contract address
    `address.FromString` rejects (`fromString` answers its error), or a nil vote-weight
    function is an error; otherwise an indexer over the store with a fresh cache, not ready. -/
def newContractStakingIndexer (kvStore : Option Store) (config : Config)
    (fromString : String → Option Err) (calculateVoteWeightNil : Bool) : Except Err (Service C) :=
  match kvStore with
  | none => .error (.new "kv store is nil")
  | some kvStore =>
    match fromString config.contractAddress with
    | some err => .error (.wrap err ("invalid contract address " ++ config.contractAddress))
    | none =>
      if calculateVoteWeightNil then .error (.new "calculate vote weight function is nil")
      else .ok ⟨⟨kvStore, ops.newCache, config, []⟩, false⟩

/-- `start(ctx)` (indexer.go:95): the store's `Start` answering `kvStart`, then `loadFromDB`, then `TurnOn`. -/
def start (sv : Service C) (kvStart : Option Err) (load : Option (Err × C)) :
    Service C × Option Err :=
  match kvStart with
  | some err => (sv, some err)
  | none =>
    match sv.indexer.start ops load with
    | (indexer, some err) => (⟨indexer, sv.ready⟩, some err)
    | (indexer, none) => (⟨indexer, true⟩, none)

/-- `Start(ctx)` (indexer.go:74): nothing when ready. -/
def Start (sv : Service C) (kvStart : Option Err) (load : Option (Err × C)) :
    Service C × Option Err :=
  if sv.ready then (sv, none) else sv.start ops kvStart load

/-- `StartView(ctx)` (indexer.go:82): start when not ready (the body of `Start`), then a view of the cache at
    the cache's height. -/
def StartView (sv : Service C) (kvStart : Option Err) (load : Option (Err × C)) :
    Service C × Except Err (StakeView C) :=
  match sv.Start ops kvStart load with
  | (sv, some err) => (sv, .error err)
  | (sv, none) => (sv, .ok ⟨sv.indexer.cache, ops.height sv.indexer.cache⟩)

/-- `Stop(ctx)` (indexer.go:107): the store's `Stop` answering `kvStop`, then a fresh cache and `TurnOff`. -/
def Stop (sv : Service C) (kvStop : Option Err) : Service C × Option Err :=
  match kvStop with
  | some err => (sv, some err)
  | none => (⟨{ sv.indexer with cache := ops.newCache }, false⟩, none)

/-- `Height()` (indexer.go:117). -/
def Height (sv : Service C) : UInt64 := ops.height sv.indexer.cache

/-- `StartHeight()` (indexer.go:122). -/
def StartHeight (sv : Service C) : UInt64 := sv.indexer.config.contractDeployHeight

/-- `isIgnored(height)` (indexer.go:257): below the contract's deploy height. -/
def isIgnored (sv : Service C) (height : UInt64) : Bool :=
  height < sv.indexer.config.contractDeployHeight

/-- One call; the view `StartView` returns goes to its client. -/
def exec (sv : Service C) : Request C → Service C
  | .start kvStart load => (sv.Start ops kvStart load).1
  | .startView kvStart load => (sv.StartView ops kvStart load).1
  | .stop kvStop => (sv.Stop ops kvStop).1
  | .putBlock blk f => ⟨(sv.indexer.putBlock ops blk f).1, sv.ready⟩

/-- A sequence of calls. -/
def run (sv : Service C) (reqs : List (Request C)) : Service C := reqs.foldl (exec ops) sv

/-! ## The reads -/

section Reads

variable {α B BT : Type} (sv : Service C)

/-- The reads of the cache at a height (indexer.go:132-187): below the deploy height the empty
    answer, else what the cache's own read answers. -/
def read (empty : α) (cacheRead : C → UInt64 → Except Err α) (height : UInt64) : Except Err α :=
  if sv.isIgnored height then .ok empty else cacheRead sv.indexer.cache height

/-- `CandidateVotes(ctx, candidate, height)`. -/
def candidateVotes (cacheVotes : C → String → UInt64 → Except Err Int) (candidate : String)
    (height : UInt64) : Except Err Int :=
  sv.read 0 (fun c => cacheVotes c candidate) height

/-- `Buckets(height)`. -/
def buckets (cacheBuckets : C → UInt64 → Except Err (List B)) (height : UInt64) :
    Except Err (List B) :=
  sv.read [] cacheBuckets height

/-- `Bucket(id, height)`: the bucket, if any, and whether it was found. -/
def bucket (cacheBucket : C → UInt64 → UInt64 → Except Err (Option B × Bool)) (id height : UInt64) :
    Except Err (Option B × Bool) :=
  sv.read (none, false) (fun c => cacheBucket c id) height

/-- `BucketsByIndices(indices, height)`. -/
def bucketsByIndices (cacheBuckets : C → List UInt64 → UInt64 → Except Err (List B))
    (indices : List UInt64) (height : UInt64) : Except Err (List B) :=
  sv.read [] (fun c => cacheBuckets c indices) height

/-- `BucketsByCandidate(candidate, height)`. -/
def bucketsByCandidate (cacheBuckets : C → String → UInt64 → Except Err (List B))
    (candidate : String) (height : UInt64) : Except Err (List B) :=
  sv.read [] (fun c => cacheBuckets c candidate) height

/-- `TotalBucketCount(height)`. -/
def totalBucketCount (cacheCount : C → UInt64 → Except Err UInt64) (height : UInt64) :
    Except Err UInt64 :=
  sv.read 0 cacheCount height

/-- `BucketTypes(height)`: the cache's active bucket types by id, listed (in the map's order). -/
def bucketTypes (activeBucketTypes : C → UInt64 → Except Err (List (UInt64 × BT)))
    (height : UInt64) : Except Err (List BT) :=
  sv.read [] (fun c h => (activeBucketTypes c h).map fun btMap => btMap.map Prod.snd) height

end Reads

/-! ## While ready, the store's cache -/

/-- While ready, the live cache is the one `LoadFromDB` builds from the store. -/
def ReadyInv (sv : Service C) : Prop := sv.ready = true → sv.indexer.Consistent ops

variable {ops}

/-- A `start` of an indexer that is not ready leaves it not ready, or ready over the store's
    cache. -/
theorem start_readyInv {sv : Service C} (hi : ReadyInv ops sv) (hnr : sv.ready = false)
    (kvStart : Option Err) (load : Option (Err × C)) : ReadyInv ops (sv.start ops kvStart load).1 := by
  unfold start
  rcases kvStart with _ | err
  · rcases load with _ | ⟨err, loaded⟩
    · exact fun _ => rfl
    · exact fun h => absurd (hnr ▸ h) Bool.false_ne_true
  · exact hi

theorem Start_readyInv {sv : Service C} (hi : ReadyInv ops sv) (kvStart : Option Err)
    (load : Option (Err × C)) : ReadyInv ops (sv.Start ops kvStart load).1 := by
  unfold Start
  split_ifs with hr
  · exact hi
  · exact start_readyInv hi (Bool.eq_false_iff.mpr hr) kvStart load

theorem StartView_fst (sv : Service C) (kvStart : Option Err) (load : Option (Err × C)) :
    (sv.StartView ops kvStart load).1 = (sv.Start ops kvStart load).1 := by
  unfold StartView
  split <;> rename_i h <;> rw [h]

section Lawful

variable (hl : ops.Lawful)
include hl

/-- **One call keeps the invariant.** -/
theorem exec_readyInv {sv : Service C} (hi : ReadyInv ops sv) {req : Request C}
    (hr : req.ReloadsLoad) : ReadyInv ops (sv.exec ops req) := by
  cases req with
  | start kvStart load => exact Start_readyInv hi kvStart load
  | startView kvStart load =>
    simp only [exec, StartView_fst]
    exact Start_readyInv hi kvStart load
  | stop kvStop =>
    rcases kvStop with _ | err
    · intro h
      cases h
    · exact hi
  | putBlock blk f => exact fun h => Indexer.putBlock_consistent hl (hi h) blk hr

theorem run_readyInv {sv : Service C} (hi : ReadyInv ops sv) {reqs : List (Request C)}
    (hr : ∀ r ∈ reqs, r.ReloadsLoad) : ReadyInv ops (sv.run ops reqs) := by
  induction reqs generalizing sv with
  | nil => exact hi
  | cons req reqs ih =>
    exact ih (exec_readyInv hl hi (hr req (List.mem_cons_self _ _)))
      fun r h => hr r (List.mem_cons_of_mem _ h)

/-- **While ready, the indexer serves the store.**  From any indexer
    `NewContractStakingIndexer` returns, over any calls of `Start`, `StartView`, `Stop` and
    `PutBlock` in any order, whatever the store's `Start` and `Stop`, the loads at start and
    the handler, merge and write of each block answer, as long as each reload of a `PutBlock`
    loads: whenever the indexer is ready its live cache is the one `LoadFromDB` builds from the
    store, `Height()` is the store's checkpoint, and `StartView` returns a view of that cache at
    that height, changing nothing. -/
theorem ready_serves_store {kvStore : Option Store} {config : Config}
    {fromString : String → Option Err} {nilWeight : Bool} {sv : Service C}
    (hnew : newContractStakingIndexer ops kvStore config fromString nilWeight = .ok sv)
    {reqs : List (Request C)} (hr : ∀ r ∈ reqs, r.ReloadsLoad) (hready : (sv.run ops reqs).ready = true) :
    (sv.run ops reqs).indexer.cache = ops.load (sv.run ops reqs).indexer.kvstore ∧
      (sv.run ops reqs).Height ops =
        checkpointOf ops.stakingNS ops.stakingHeightKey (sv.run ops reqs).indexer.kvstore ∧
      (∀ kvStart load, (sv.run ops reqs).StartView ops kvStart load =
        (sv.run ops reqs, .ok ⟨ops.load (sv.run ops reqs).indexer.kvstore,
          checkpointOf ops.stakingNS ops.stakingHeightKey (sv.run ops reqs).indexer.kvstore⟩)) ∧
      ∀ {α : Type} (empty : α) (cacheRead : C → UInt64 → Except Err α) (height : UInt64),
        (sv.run ops reqs).read empty cacheRead height =
          if height < (sv.run ops reqs).StartHeight then .ok empty
          else cacheRead (ops.load (sv.run ops reqs).indexer.kvstore) height := by
  have h0 : ReadyInv ops sv := by
    unfold newContractStakingIndexer at hnew
    split at hnew
    · cases hnew
    · split at hnew
      · cases hnew
      · split_ifs at hnew
        cases hnew
        intro h
        cases h
  have hc : (sv.run ops reqs).indexer.Consistent ops := run_readyInv hl h0 hr hready
  refine ⟨hc, by rw [Height, hc, hl.height_load], fun kvStart load => ?_,
    fun empty cacheRead height => ?_⟩
  · rw [StartView, Start, if_pos hready, ← hc, ← hl.height_load, ← hc]
  · simp only [read, isIgnored, StartHeight, decide_eq_true_eq]
    rw [hc]

end Lawful

/-- A new indexer over an empty store, the contract deployed at height 3. -/
theorem newContractStakingIndexer_fresh :
    newContractStakingIndexer heightCache (some fun _ _ => none) ⟨"io1staking", 3⟩ (fun _ => none)
      false = .ok ⟨Indexer.fresh 3, false⟩ := rfl

/-- Start, block 3, `Stop`, `StartView`, block 4, every collaborator answering `nil`. -/
def restartRequests : List (Request UInt64) :=
  [.start none none, .putBlock (Block.atHeight 3 0) Faults.ok, .stop none, .startView none none,
    .putBlock (Block.atHeight 4 0) Faults.ok]

/-- Started, fed block 3, stopped, started again by `StartView` and fed block 4, the indexer is
    ready at height 4, the store's checkpoint. -/
theorem ready_serves_store_restarted :
    (∀ r ∈ restartRequests, r.ReloadsLoad) ∧
      ((⟨Indexer.fresh 3, false⟩ : Service UInt64).run heightCache restartRequests).ready = true ∧
      ((⟨Indexer.fresh 3, false⟩ : Service UInt64).run heightCache restartRequests).Height
        heightCache = 4 ∧
      ((⟨Indexer.fresh 3, false⟩ : Service UInt64).run heightCache restartRequests).Height
        heightCache = checkpointOf "staking" [0]
          ((⟨Indexer.fresh 3, false⟩ : Service UInt64).run heightCache restartRequests).indexer.kvstore := by
  have hr : ∀ r ∈ restartRequests, r.ReloadsLoad := by
    simp [restartRequests, Request.ReloadsLoad, Faults.ok]
  exact ⟨hr, rfl, rfl,
    (ready_serves_store heightCache_lawful newContractStakingIndexer_fresh hr rfl).2.1⟩

/-! ## Restart -/

/-- **A restart reloads the store.**  A `Stop` and a `Start` whose store calls and load succeed
    give, from any state, a ready indexer over the same store, checkpoints and configuration
    whose cache is the one `LoadFromDB` builds from the store; an indexer that was ready over
    the store's cache comes back unchanged. -/
theorem restart_reloads (sv : Service C) :
    ((sv.Stop ops none).1.Start ops none none).2 = none ∧
      ((sv.Stop ops none).1.Start ops none none).1 =
        ⟨{ sv.indexer with cache := ops.load sv.indexer.kvstore }, true⟩ ∧
      (sv.ready = true → sv.indexer.Consistent ops →
        ((sv.Stop ops none).1.Start ops none none).1 = sv) := by
  refine ⟨rfl, rfl, fun hr hc => ?_⟩
  obtain ⟨⟨kv, cache, config, cps⟩, ready⟩ := sv
  dsimp only [Indexer.Consistent] at hr hc
  subst hr hc
  rfl

/-- Restarting the indexer that a failed reload left at height 0 over a store at height 5
    brings back the store's cache. -/
example :
    (((⟨((Indexer.fresh 0).run heightCache
        ((List.range 5).map fun i => (Block.atHeight (UInt64.ofNat i + 1) 0, Faults.ok))).1.putBlock
          heightCache (Block.atHeight 6 0) mergeAndReloadFail |>.1, true⟩ : Service UInt64).Stop
        heightCache none).1.Start heightCache none none).1.indexer.cache = 5 := by
  decide

end Service

end IotexCore.ContractStaking
