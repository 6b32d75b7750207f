/-
  iotex-core formalization — commit-or-reload: the indexer's live cache against its store.

  `commit` merges a block's delta into the live cache and then writes the block's batch with
  the checkpoint; on either failure it reloads the cache from the store.  Given the cache's
  own laws (`StakingOps.Lawful`), the live cache stays the store's whenever every reload
  succeeds; the reload's error, though, is dropped, and a failed reload leaves a fresh cache
  live.

  * `putBlock_cases`: a call leaves the indexer, reloads its cache, or commits the block of the
    expected height;
  * `putBlock_consistent`, `run_consistent`, `commit_or_reload`: with reloads that succeed, the
    live cache is always the one the store loads, at the checkpoint's height;
  * `height_discipline`: then the cache height never decreases and the checkpoints written form
    one run of consecutive heights from the first expected one;
  * `reload_failure_leaves_stale_cache`, `reload_failure_reapplies_block`: one failed reload
    leaves a cache of height 0 over a store at height 5, and lets a block be indexed twice.

  `commit` and `reloadCache` are translated from blockindex/contractstaking/indexer.go:229-252,
  under src/; the laws of the cache (`StakingOps.Lawful`), which is not under src/, are modelled
  from the spec (§4.3, §7).
-/
import IotexCore.ContractStaking.Indexer

namespace IotexCore.ContractStaking

/-- The height a store's checkpoint under namespace `ns` and key `key` holds (0 if none). -/
def checkpointOf (ns : String) (key : Bytes) (st : Store) : UInt64 :=
  match st ns key with
  | some b => bytesToUint64BigEndian b
  | none => 0

variable {C H D : Type} (ops : StakingOps C H D)

/-- Modelled from the spec (§4.3: the store holds the merged state with its checkpoint, and
    `Start` loads the cache from it): what the indexer relies on of the cache and the handler.
    A loaded cache has the height of the store's checkpoint, and loading the store after a
    block's batch and checkpoint `h` were committed gives the cache loaded before, merged with
    the block's delta at `h`. -/
structure StakingOps.Lawful : Prop where
  height_load : ∀ st, ops.height (ops.load st) = checkpointOf ops.stakingNS ops.stakingHeightKey st
  load_commit : ∀ st handler h,
    ops.load (st.applyBatch ((ops.result handler).1 ++ [Indexer.checkpointWrite ops h])) =
      ops.merge (ops.load st) (ops.result handler).2 h

namespace Indexer

/-- The live cache is the one `LoadFromDB` builds from the store. -/
def Consistent (s : Indexer C) : Prop := s.cache = ops.load s.kvstore

/-- The indexer after `commit` wrote the block of height `h` with the handler's batch. -/
def committed (s : Indexer C) (handler : H) (h : UInt64) : Indexer C :=
  ⟨s.kvstore.applyBatch ((ops.result handler).1 ++ [checkpointWrite ops h]),
    ops.merge s.cache (ops.result handler).2 h, s.config, s.checkpointed ++ [h]⟩

variable {ops}

theorem checkpointOf_commit (st : Store) (batch : List WriteInfo) (h : UInt64) :
    checkpointOf ops.stakingNS ops.stakingHeightKey (st.applyBatch (batch ++ [checkpointWrite ops h])) = h := by
  rw [checkpointOf, Store.applyBatch_append, Store.applyBatch_cons, Store.applyBatch_nil,
    WriteInfo.apply_of_hits
      (show (checkpointWrite ops h).Hits ops.stakingNS ops.stakingHeightKey from ⟨rfl, rfl⟩)]
  exact bytesToUint64BigEndian_uint64ToBytesBigEndian h

theorem expectHeight_bounds (s : Indexer C) :
    s.config.contractDeployHeight.toNat ≤ (s.expectHeight ops).toNat ∧
      (ops.height s.cache + 1).toNat ≤ (s.expectHeight ops).toNat ∧
      ((s.expectHeight ops).toNat = s.config.contractDeployHeight.toNat ∨
        (s.expectHeight ops).toNat = (ops.height s.cache + 1).toNat) := by
  unfold expectHeight
  dsimp only
  split_ifs with h <;> rw [UInt64.lt_iff_toNat_lt] at h <;> omega

@[simp] theorem committed_config (s : Indexer C) (handler : H) (h : UInt64) :
    (s.committed ops handler h).config = s.config := rfl

/-- **What one `PutBlock` can do.**  Leave the indexer as it is (a block of another height, a
    handler error), reload the cache (a failed merge or write), or commit the block of the
    expected height, its merge and write succeeding. -/
theorem putBlock_cases (s : Indexer C) (blk : Block) (f : Faults C) :
    (s.putBlock ops blk f).1 = s ∨ (s.putBlock ops blk f).1 = (s.reloadCache ops f.load).1 ∨
      blk.header.height = s.expectHeight ops ∧ f.merge = none ∧ f.writeBatch = none ∧
        ∃ handler, handleReceipts ops s.config.contractAddress blk.header.height
          (ops.newHandler s.cache) blk.receipts = .ok handler ∧
          s.putBlock ops blk f = (s.committed ops handler blk.header.height, none) := by
  unfold putBlock
  dsimp only
  split_ifs with hlt hgt
  · exact .inl rfl
  · exact .inl rfl
  · have he : blk.header.height = s.expectHeight ops := by
      simp only [GT.gt, UInt64.lt_iff_toNat_lt] at hlt hgt
      exact UInt64.toNat_inj.mp (by omega)
    split
    · exact .inl rfl
    · next handler hh =>
      unfold commit
      cases hm : f.merge with
      | some err => exact .inr (.inl rfl)
      | none =>
        cases hw : f.writeBatch with
        | some err => exact .inr (.inl rfl)
        | none => exact .inr (.inr ⟨he, rfl, rfl, handler, hh, rfl⟩)

theorem reloadCache_config (s : Indexer C) (load : Option (Err × C)) :
    (s.reloadCache ops load).1.config = s.config := by
  cases load <;> rfl

theorem putBlock_config (s : Indexer C) (blk : Block) (f : Faults C) :
    (s.putBlock ops blk f).1.config = s.config := by
  rcases putBlock_cases s blk f with h | h | ⟨-, -, -, handler, -, h⟩ <;> rw [h]
  · exact reloadCache_config s f.load
  · rfl

/-- With a successful reload, a call from a consistent state leaves it, or commits the block of
    the expected height. -/
theorem putBlock_step {s : Indexer C} (hc : s.Consistent ops) (blk : Block) {f : Faults C}
    (hf : f.load = none) :
    (s.putBlock ops blk f).1 = s ∨ blk.header.height = s.expectHeight ops ∧
      ∃ handler, (s.putBlock ops blk f).1 = s.committed ops handler blk.header.height := by
  rcases putBlock_cases s blk f with h | h | ⟨he, -, -, handler, -, h⟩
  · exact .inl h
  · rw [hf] at h
    exact .inl (h.trans (congrArg (fun c => { s with cache := c }) hc.symm))
  · exact .inr ⟨he, handler, by rw [h]⟩

end Indexer

/-! ## A cache of heights -/

/-- A cache that holds only its height: a handler that accepts every event and writes
    nothing, a merge that moves to the block's height, and a load that reads the checkpoint. -/
def heightCache : StakingOps UInt64 Unit Unit where
  height := id
  newCache := 0
  newHandler _ := ()
  handleEvent _ _ _ := .ok ()
  result _ := ([], ())
  merge _ _ h := h
  load := checkpointOf "staking" [0]
  stakingNS := "staking"
  stakingHeightKey := [0]

theorem heightCache_lawful : heightCache.Lawful :=
  ⟨fun _ => rfl, fun st _ h => @Indexer.checkpointOf_commit _ _ _ heightCache st [] h⟩

/-- An indexer over an empty store, the contract deployed at height `deploy`, not yet started. -/
def Indexer.fresh (deploy : UInt64) : Indexer UInt64 :=
  ⟨fun _ _ => none, 0, ⟨"io1staking", deploy⟩, []⟩

/-- A call whose write fails, the reload succeeding. -/
def writeFails : Faults UInt64 := ⟨none, some (.new "write failed"), none⟩

/-- A call whose merge fails, and whose reload fails before loading anything. -/
def mergeAndReloadFail : Faults UInt64 :=
  ⟨some (.new "merge failed"), none, some (.new "load failed", heightCache.newCache)⟩

namespace Indexer

variable {ops}

/-! ## Commit or reload -/

section Lawful

variable (hl : ops.Lawful)
include hl

theorem committed_consistent {s : Indexer C} (hc : s.Consistent ops) (handler : H) (h : UInt64) :
    (s.committed ops handler h).Consistent ops := by
  unfold Consistent at hc ⊢
  rw [committed, hl.load_commit, ← hc]

/-- A call whose reload, if any, succeeds keeps the live cache the store's. -/
theorem putBlock_consistent {s : Indexer C} (hc : s.Consistent ops) (blk : Block) {f : Faults C}
    (hf : f.load = none) : (s.putBlock ops blk f).1.Consistent ops := by
  rcases putBlock_cases s blk f with h | h | ⟨-, -, -, handler, -, h⟩
  · rwa [h]
  · rw [h, hf]
    rfl
  · rw [h]
    exact committed_consistent hl hc handler _

theorem run_consistent {s : Indexer C} (hc : s.Consistent ops) {calls : List (Block × Faults C)}
    (hf : ∀ c ∈ calls, c.2.load = none) : (s.run ops calls).1.Consistent ops := by
  induction calls generalizing s with
  | nil => exact hc
  | cons c calls ih =>
    obtain ⟨blk, f⟩ := c
    exact ih (putBlock_consistent hl hc blk (hf _ (List.mem_cons_self _ _)))
      fun c h => hf c (List.mem_cons_of_mem _ h)

/-- **Commit or reload.**  After a successful `Start`, and any `PutBlock` calls whatever their
    handler, merge and write do, as long as every reload loads: the live cache is the one
    `LoadFromDB` builds from the store, and its height is the store's checkpoint. -/
theorem commit_or_reload (s : Indexer C) (calls : List (Block × Faults C))
    (hf : ∀ c ∈ calls, c.2.load = none) :
    let s' := ((s.start ops none).1.run ops calls).1
    s'.cache = ops.load s'.kvstore ∧
      ops.height s'.cache = checkpointOf ops.stakingNS ops.stakingHeightKey s'.kvstore := by
  have h0 : (s.start ops none).1.Consistent ops := rfl
  have h := run_consistent hl h0 hf
  exact ⟨h, by rw [h, hl.height_load]⟩

end Lawful

/-- Block 3, then block 4 whose write fails, on a fresh indexer: the reload restores the cache
    of the store, at height 3. -/
theorem commit_or_reload_fresh :
    heightCache.Lawful ∧
      (∀ c ∈ [(Block.atHeight 3 0, Faults.ok), (Block.atHeight 4 0, writeFails)], c.2.load = none) ∧
      (((fresh 3).start heightCache none).1.run heightCache
        [(Block.atHeight 3 0, Faults.ok), (Block.atHeight 4 0, writeFails)]).1.cache = 3 ∧
      heightCache.height (((fresh 3).start heightCache none).1.run heightCache
        [(Block.atHeight 3 0, Faults.ok), (Block.atHeight 4 0, writeFails)]).1.cache =
        checkpointOf "staking" [0] (((fresh 3).start heightCache none).1.run heightCache
          [(Block.atHeight 3 0, Faults.ok), (Block.atHeight 4 0, writeFails)]).1.kvstore :=
  ⟨heightCache_lawful, by decide, by decide,
    (commit_or_reload heightCache_lawful (fresh 3) _ (by decide)).2⟩

/-! ## Heights -/

section Lawful

variable (hl : ops.Lawful)
include hl

theorem committed_height {s : Indexer C} (hc : s.Consistent ops) (handler : H) (h : UInt64) :
    ops.height (s.committed ops handler h).cache = h := by
  rw [committed_consistent hl hc, hl.height_load, committed, checkpointOf_commit]

/-- Committing the expected height `h` moves the expected height to `h + 1`. -/
theorem expectHeight_committed {s : Indexer C} (hc : s.Consistent ops) (handler : H) {h : UInt64}
    (he : h = s.expectHeight ops) (hb : h.toNat + 1 < 2 ^ 64) :
    ((s.committed ops handler h).expectHeight ops).toNat = h.toNat + 1 := by
  have hd := (@expectHeight_bounds _ _ _ ops s).1
  have he₁ := @expectHeight_bounds _ _ _ ops (s.committed ops handler h)
  rw [← he] at hd
  rw [committed_height hl hc, UInt64.toNat_add_one hb, committed_config] at he₁
  omega

end Lawful

/-- A run of calls, one after another. -/
theorem run_append (s : Indexer C) (pre post : List (Block × Faults C)) :
    (s.run ops (pre ++ post)).1 = ((s.run ops pre).1.run ops post).1 := by
  induction pre generalizing s with
  | nil => rfl
  | cons c pre ih => exact ih _

section Lawful

variable (hl : ops.Lawful)
include hl

/-- The run invariant behind `height_discipline`: from a consistent state of height below the
    last, a run whose reloads succeed over blocks below the last height stays consistent and
    below it, never lowers the height, and writes the checkpoints `e, e + 1, …` from the
    expected height `e`, after which it expects the next one. -/
theorem run_heights {s : Indexer C} (hc : s.Consistent ops)
    (hs : (ops.height s.cache).toNat + 1 < 2 ^ 64) {calls : List (Block × Faults C)}
    (hf : ∀ c ∈ calls, c.2.load = none ∧ c.1.header.height.toNat + 1 < 2 ^ 64) :
    let s' := (s.run ops calls).1
    s'.Consistent ops ∧ (ops.height s'.cache).toNat + 1 < 2 ^ 64 ∧
      ops.height s.cache ≤ ops.height s'.cache ∧
      ∃ new, s'.checkpointed = s.checkpointed ++ new ∧
        new.map UInt64.toNat = List.range' (s.expectHeight ops).toNat new.length ∧
        (s'.expectHeight ops).toNat = (s.expectHeight ops).toNat + new.length := by
  induction calls generalizing s with
  | nil => exact ⟨hc, hs, UInt64.le_refl _, [], by simp⟩
  | cons c calls ih =>
    obtain ⟨blk, f⟩ := c
    obtain ⟨hload, hbound⟩ : f.load = none ∧ blk.header.height.toNat + 1 < 2 ^ 64 :=
      hf _ (List.mem_cons_self _ _)
    have hrest := fun c h => hf c (List.mem_cons_of_mem _ h)
    rcases putBlock_step hc blk hload with hstep | ⟨he, handler, hstep⟩
    · simpa only [run_cons, hstep] using ih hc hs hrest
    · -- the block of the expected height is committed
      have hh₁ := committed_height hl hc handler blk.header.height
      obtain ⟨hc', hs', hle, new, hnew, hr, hexp⟩ :=
        ih (committed_consistent hl hc handler _) (by rw [hh₁]; exact hbound) hrest
      have hnext := expectHeight_committed hl hc handler he hbound
      have he₀ := (@expectHeight_bounds _ _ _ ops s).2.1
      rw [UInt64.toNat_add_one hs, ← he] at he₀
      have he' := congrArg UInt64.toNat he
      rw [UInt64.le_iff_toNat_le, hh₁] at hle
      simp only [run_cons, hstep]
      refine ⟨hc', hs', ?_, blk.header.height :: new, ?_, ?_, by simp only [List.length_cons]; omega⟩
      · rw [UInt64.le_iff_toNat_le]
        omega
      · rw [hnew]
        simp only [committed, List.append_assoc, List.singleton_append]
      · rw [List.map_cons, hr, hnext, List.length_cons, List.range'_succ, ← he]

end Lawful

/-- **Height discipline.**  In every state, a block of a height below the expected one is
    ignored and one above it is refused with an error, both leaving the indexer as it is.  And
    with lawful collaborators, from a consistent state, over blocks of heights below the last,
    when every reload succeeds: the cache height never decreases from any point of the run to
    any later one, and the checkpoints written form the consecutive heights from the first
    expected one, `max(height + 1, ContractDeployHeight)`, with no gap and none twice. -/
theorem height_discipline :
    (∀ (s : Indexer C) blk f, blk.header.height < s.expectHeight ops →
      s.putBlock ops blk f = (s, none)) ∧
    (∀ (s : Indexer C) blk f, s.expectHeight ops < blk.header.height →
      ∃ e, s.putBlock ops blk f = (s, some e)) ∧
    (ops.Lawful → ∀ s : Indexer C, s.Consistent ops → (ops.height s.cache).toNat + 1 < 2 ^ 64 →
      ∀ calls : List (Block × Faults C),
        (∀ c ∈ calls, c.2.load = none ∧ c.1.header.height.toNat + 1 < 2 ^ 64) →
        (∀ pre post, calls = pre ++ post →
          ops.height (s.run ops pre).1.cache ≤ ops.height (s.run ops calls).1.cache) ∧
        ∃ new, (s.run ops calls).1.checkpointed = s.checkpointed ++ new ∧
          new.map UInt64.toNat = List.range' (s.expectHeight ops).toNat new.length) := by
  refine ⟨fun s blk f h => by simp only [putBlock, h, if_true],
    fun s blk f h => by
      simp only [putBlock, GT.gt, h, if_true, UInt64.lt_asymm h, if_false]
      exact ⟨_, rfl⟩,
    fun hl s hc hs calls hf => ⟨fun pre post hcalls => ?_, ?_⟩⟩
  · subst hcalls
    have hpre := run_heights hl hc hs fun c h => hf c (List.mem_append_left _ h)
    rw [run_append]
    exact (run_heights hl hpre.1 hpre.2.1 fun c h => hf c (List.mem_append_right _ h)).2.2.1
  · obtain ⟨-, -, -, new, hnew, hr, -⟩ := run_heights hl hc hs hf
    exact ⟨new, hnew, hr⟩

/-- Blocks 3, 5, 4 (its write failing) and 4 again on a fresh indexer deployed at 3: block 5
    is refused, and the checkpoints written are 3 and 4. -/
theorem height_discipline_fresh :
    heightCache.Lawful ∧ (fresh 3).Consistent heightCache ∧
      (heightCache.height (fresh 3).cache).toNat + 1 < 2 ^ 64 ∧
      (∀ c ∈ [(Block.atHeight 3 0, Faults.ok), (Block.atHeight 5 0, Faults.ok),
          (Block.atHeight 4 0, writeFails), (Block.atHeight 4 0, Faults.ok)],
        c.2.load = none ∧ c.1.header.height.toNat + 1 < 2 ^ 64) ∧
      ((fresh 3).run heightCache [(Block.atHeight 3 0, Faults.ok), (Block.atHeight 5 0, Faults.ok),
          (Block.atHeight 4 0, writeFails), (Block.atHeight 4 0, Faults.ok)]).1.checkpointed = [3, 4] ∧
      ∃ new, ((fresh 3).run heightCache [(Block.atHeight 3 0, Faults.ok),
          (Block.atHeight 5 0, Faults.ok), (Block.atHeight 4 0, writeFails),
          (Block.atHeight 4 0, Faults.ok)]).1.checkpointed = [] ++ new ∧
        new.map UInt64.toNat = List.range' 3 new.length :=
  ⟨heightCache_lawful, rfl, by decide, by decide, by decide,
    ((@height_discipline _ _ _ heightCache).2.2 heightCache_lawful (fresh 3) rfl (by decide) _
      (by decide)).2⟩

end Indexer

/-! ## A failed reload -/

/-- **A failed reload leaves a stale cache live.**  With lawful collaborators, an indexer fed
    blocks 1 to 5 is at height 5, its cache the store's; a `PutBlock` of block 6 whose merge
    fails and whose reload fails returns the merge error and leaves a cache of height 0 live,
    while the store's checkpoint, and the cache it loads, stay at 5. -/
theorem reload_failure_leaves_stale_cache :
    heightCache.Lawful ∧
      let s := ((Indexer.fresh 0).run heightCache
        ((List.range 5).map fun i => (Block.atHeight (UInt64.ofNat i + 1) 0, Faults.ok))).1
      let r := s.putBlock heightCache (Block.atHeight 6 0) mergeAndReloadFail
      s.cache = 5 ∧ s.cache = heightCache.load s.kvstore ∧ r.2 = some (.new "merge failed") ∧
        r.1.cache = 0 ∧ heightCache.load r.1.kvstore = 5 ∧ r.1.cache ≠ heightCache.load r.1.kvstore :=
  ⟨heightCache_lawful, by decide⟩

/-- **A failed reload lets a block be indexed twice.**  With lawful collaborators and the
    contract deployed at height 3, block 3 is committed; a `PutBlock` of block 4 whose merge and
    reload fail drops the cache height from 3 to 0; the indexer then expects block 3 again, and
    commits it a second time. -/
theorem reload_failure_reapplies_block :
    heightCache.Lawful ∧
      let s := Indexer.fresh 3
      let c₁ := (Block.atHeight 3 0, (Faults.ok : Faults UInt64))
      let c₂ := (Block.atHeight 4 0, mergeAndReloadFail)
      (s.run heightCache [c₁]).1.cache = 3 ∧ (s.run heightCache [c₁, c₂]).1.cache = 0 ∧
        (s.run heightCache [c₁, c₂, c₁]).1.checkpointed = [3, 3] :=
  ⟨heightCache_lawful, by decide⟩

end IotexCore.ContractStaking
