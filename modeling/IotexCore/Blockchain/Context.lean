/-
  iotex-core formalization — the three contexts the chain derives for a block.

  `ValidateBlock` hands a context to the block validator, `commitBlock` one to the archive's
  `PutBlock`, and `MintNewBlock` one to the minter.  Each is assembled on its own path; here
  they are shown to be one context:

  * `validateBlockCtx_ok`, `commitBlockCtx_ok`, `mintCtx_ok` say what each path builds;
  * `contexts_agree`: at the same archive state, for a block at the next height, the
    validator's context is the archive's up to `SkipSidecarValidation`, and the minter's is the
    archive's when the block carries what the minter put in it.
-/
import IotexCore.Blockchain.Chain

namespace IotexCore

/-- The context with the block context's `SkipSidecarValidation` set to `s`. -/
def Ctx.withSkip (c : Ctx) (s : Bool) : Ctx :=
  { c with blockCtx := c.blockCtx.map fun b => { b with skipSidecarValidation := s } }

namespace Blockchain

variable (P : Protocol) (bc : Blockchain)

/-- What `context` builds from the background at a tip. -/
def tipCtx (tip : TipInfo) : Ctx :=
  ⟨some ⟨tip, bc.config.id, bc.config.evmNetworkID, bc.dao.getBlockHash P, bc.getBlockTime⟩,
    some bc.genesis, some (P.featureWithHeightCtx bc.genesis), none, none⟩

theorem context_background (h : UInt64) :
    bc.context P Ctx.background h = (bc.tipInfo P h).map (bc.tipCtx P) := rfl

/-- The block context `commitBlock` and `contextWithBlock` build for a block. -/
def blockCtxOf (producer : Option String) (blk : Block) (skip : Bool) : BlockCtx :=
  ⟨blk.header.height, blk.header.timestamp, bc.genesis.blockGasLimitByHeight blk.header.height,
    producer, blk.header.baseFee, blk.header.excessBlobGas, skip⟩

variable {P bc}

theorem validateBlockCtx_ok {blk : Block} {opts : List (BlockValidationCfg → BlockValidationCfg)}
    {ctx : Ctx} (h : bc.validateBlockCtx P blk opts = .ok ctx) :
    ∃ tip a, bc.tipInfo P bc.dao.height = .ok tip ∧ bc.checkBlock P tip blk = none ∧
      P.address blk.header.pubkey = some a ∧
      ctx = withFeatureCtx P (withBlockCtx (bc.tipCtx P tip)
        (bc.blockCtxOf (some a) blk (BlockValidationCfg.ofOpts opts).skipSidecarValidation)) := by
  unfold validateBlockCtx at h
  dsimp only at h
  rcases ht : bc.tipInfo P bc.dao.height with _ | tip <;> rw [ht] at h
  · cases h
  · rcases hc : bc.checkBlock P tip blk with _ | _ <;> simp only [hc] at h
    · rcases ha : P.address blk.header.pubkey with _ | a <;> simp only [ha] at h
      · cases h
      · simp only [context_background, ht, Except.map, Except.ok.injEq] at h
        exact ⟨tip, a, rfl, hc, rfl, h.symm⟩
    · cases h

theorem commitBlockCtx_ok {blk : Block} {ctx : Ctx} (h : bc.commitBlockCtx P blk = .ok ctx) :
    ∃ tip, bc.tipInfo P bc.dao.height = .ok tip ∧
      ctx = withFeatureCtx P (withBlockCtx (bc.tipCtx P tip)
        (bc.blockCtxOf (P.address blk.header.pubkey) blk false)) := by
  unfold commitBlockCtx at h
  rw [context_background] at h
  rcases ht : bc.tipInfo P bc.dao.height with _ | tip <;>
    simp only [ht, Except.map, Except.ok.injEq, reduceCtorEq] at h
  exact ⟨tip, rfl, h.symm⟩

theorem mintCtx_ok {ts : Int} {opts : List (MintOptions → MintOptions)} {ctx : Ctx}
    {key : PrivateKey} (h : bc.mintCtx P ts opts = .ok (ctx, key)) :
    ∃ tip a, bc.tipInfo P bc.dao.height = .ok tip ∧ P.address key.publicKey = some a ∧
      ctx = withFeatureCtx P (bc.contextWithBlock (bc.tipCtx P tip) (some a) (bc.dao.height + 1) ts
        (P.calcBaseFee bc.genesis tip) (P.calcExcessBlobGas tip.excessBlobGas tip.blobGasUsed)) := by
  unfold mintCtx at h
  dsimp only at h
  rw [context_background] at h
  rcases ht : bc.tipInfo P bc.dao.height with _ | tip <;> simp only [ht, Except.map] at h
  · cases h
  · simp only [tipCtx] at h
    split at h
    · cases h
    · next k _ =>
      rcases ha : P.address k.publicKey with _ | a <;>
        simp only [ha, Except.ok.injEq, Prod.mk.injEq, reduceCtorEq] at h
      obtain ⟨rfl, rfl⟩ := h
      exact ⟨tip, a, rfl, ha, rfl⟩

/-- **Validate, commit and mint see one context.**  For a block at the height after the tip,
    the context `commitBlock` hands to the archive carries the tip `tipInfo(t)`, the chain
    ids, the genesis and the block's own height, timestamp, gas limit, producer address, base
    fee and excess blob gas; the context `ValidateBlock` hands to the validator is the same
    one with its own `SkipSidecarValidation`; and the context `MintNewBlock` hands to the
    minter is the same one whenever the block carries the timestamp, producer, base fee and
    excess blob gas the minter's context holds. -/
theorem contexts_agree (blk : Block) (hh : blk.header.height = bc.dao.height + 1) (ctxC : Ctx)
    (hc : bc.commitBlockCtx P blk = .ok ctxC) :
    (∃ tip, bc.tipInfo P bc.dao.height = .ok tip ∧
      ctxC.blockchainCtx =
        some ⟨tip, bc.config.id, bc.config.evmNetworkID, bc.dao.getBlockHash P, bc.getBlockTime⟩ ∧
      ctxC.genesis = some bc.genesis ∧
      ctxC.blockCtx = some (bc.blockCtxOf (P.address blk.header.pubkey) blk false) ∧
      ctxC.featureCtx = some (P.featureCtx bc.genesis blk.header.height)) ∧
    (∀ opts ctxV, bc.validateBlockCtx P blk opts = .ok ctxV →
      ctxV = ctxC.withSkip (BlockValidationCfg.ofOpts opts).skipSidecarValidation) ∧
    (∀ ts mopts ctxM key bM, bc.mintCtx P ts mopts = .ok (ctxM, key) → ctxM.blockCtx = some bM →
      blk.header.timestamp = bM.blockTimeStamp → P.address blk.header.pubkey = bM.producer →
      blk.header.baseFee = bM.baseFee → blk.header.excessBlobGas = bM.excessBlobGas →
      ctxM = ctxC) := by
  obtain ⟨tip, ht, rfl⟩ := commitBlockCtx_ok hc
  refine ⟨⟨tip, ht, rfl, rfl, rfl, rfl⟩, fun opts ctxV hv => ?_, ?_⟩
  · obtain ⟨tip', a, ht', -, ha, rfl⟩ := validateBlockCtx_ok hv
    obtain rfl : tip' = tip := Except.ok.inj (ht'.symm.trans ht)
    rw [ha]
    rfl
  · intro ts mopts ctxM key bM hm hb h1 h2 h3 h4
    obtain ⟨tip', a, ht', -, rfl⟩ := mintCtx_ok hm
    obtain rfl : tip' = tip := Except.ok.inj (ht'.symm.trans ht)
    simp only [withFeatureCtx, contextWithBlock, withBlockCtx, tipCtx, Option.some.injEq] at hb
    subst hb
    simp only [withFeatureCtx, contextWithBlock, withBlockCtx, blockCtxOf, hh, h1, h2, h3, h4]

/-- The first block on a chain at genesis: its commit context exists, and validation hands on
    the same context. -/
theorem contexts_agree_first_block :
    ∃ ctxC, (Block.atHeight 1 0).header.height = atGenesis.dao.height + 1 ∧
      atGenesis.commitBlockCtx Protocol.permissive (Block.atHeight 1 0) = .ok ctxC ∧
      ∀ opts ctxV, atGenesis.validateBlockCtx Protocol.permissive (Block.atHeight 1 0) opts =
        .ok ctxV → ctxV = ctxC.withSkip (BlockValidationCfg.ofOpts opts).skipSidecarValidation :=
  ⟨_, rfl, rfl,
    (@contexts_agree Protocol.permissive atGenesis (Block.atHeight 1 0) rfl _ rfl).2.1⟩

end Blockchain

end IotexCore
