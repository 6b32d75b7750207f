/-
  iotex-core formalization — the block a producer mints, validated and committed.

  `MintNewBlock` hands the minter (`BlockMinter.Mint`, the state factory outside this file set)
  the context of the next height over the tip; the producer commits the block it gets back
  without validating it, and the other nodes validate it first.  What the chain relies on of
  the minter is `BuildsOnCtx`: the block it builds has the context's height, links to the
  context's tip and is signed with the key it was handed.

  * `mintNewBlock_ok`: a minted block has the height after the archive's and links to the tip
    `tipInfo` reads;
  * `validateBlock_minted`: on a linked archive `ValidateBlock` rejects a minted block only for
    its content (base fee, signature, transaction root) or by the plugged-in validator;
  * `mintNewBlock_commit`: committing a minted block makes it the tip and keeps the archive
    linked;
  * `mintNewBlock_signer`: under a minter that signs with the key it is handed
    (`SignsWithKey`), a block minted with no key option carries the first key
    `ProducerPrivateKeys()` returns, one decoded from the configuration and whitelisted;
  * `Sys.handed`, `Sys.execMint`, `committed_chain_linked_with_minting`: clients that commit
    blocks they minted, as well as blocks a validation accepted, keep the archive linked under
    any interleaving.
-/
import IotexCore.Blockchain.Tip
import IotexCore.Blockchain.Linkage
import IotexCore.Blockchain.Config

namespace IotexCore

/-- A minter signs with the key it is handed: every block it builds carries that key's public
    key. -/
def SignsWithKey (bbf : Ctx → PrivateKey → Except Err Block) : Prop :=
  ∀ {ctx key blk}, bbf ctx key = .ok blk → blk.header.pubkey = key.publicKey

/-- What the chain relies on of its minter: a block built on a context with a tip and a block
    context has that block context's height, links to that tip, and carries the public key of
    the key it was handed. -/
structure BuildsOnCtx (bbf : Ctx → PrivateKey → Except Err Block) : Prop where
  height : ∀ {ctx key blk bk}, ctx.blockCtx = some bk → bbf ctx key = .ok blk →
    blk.header.height = bk.blockHeight
  link : ∀ {ctx key blk bcCtx}, ctx.blockchainCtx = some bcCtx → bbf ctx key = .ok blk →
    blk.header.prevBlockHash = bcCtx.tip.hash
  signer : SignsWithKey bbf

/-- A minter that builds an empty block on the context it is handed. -/
def emptyBlockMinter (ctx : Ctx) (key : PrivateKey) : Except Err Block :=
  match ctx.blockchainCtx, ctx.blockCtx with
  | some b, some k =>
    .ok ⟨⟨k.blockHeight, k.blockTimeStamp, b.tip.hash, 0, key.publicKey, [], 0, k.baseFee, 0,
      k.excessBlobGas⟩, [], []⟩
  | _, _ => .error (.new "no block context")

theorem emptyBlockMinter_ok {ctx : Ctx} {key : PrivateKey} {blk : Block}
    (h : emptyBlockMinter ctx key = .ok blk) :
    ∃ b k, ctx.blockchainCtx = some b ∧ ctx.blockCtx = some k ∧
      blk = ⟨⟨k.blockHeight, k.blockTimeStamp, b.tip.hash, 0, key.publicKey, [], 0, k.baseFee, 0,
        k.excessBlobGas⟩, [], []⟩ := by
  unfold emptyBlockMinter at h
  split at h
  · cases h
    exact ⟨_, _, ‹_›, ‹_›, rfl⟩
  · cases h

theorem emptyBlockMinter_buildsOnCtx : BuildsOnCtx emptyBlockMinter where
  height hk h := by
    obtain ⟨_, _, -, hk', rfl⟩ := emptyBlockMinter_ok h
    cases hk.symm.trans hk'
    rfl
  link hb h := by
    obtain ⟨_, _, hb', -, rfl⟩ := emptyBlockMinter_ok h
    cases hb.symm.trans hb'
    rfl
  signer h := by
    obtain ⟨_, _, -, -, rfl⟩ := emptyBlockMinter_ok h
    rfl

namespace Blockchain

/-- The chain at genesis with a minter that builds empty blocks. -/
def minting : Blockchain := { atGenesis with bbf := emptyBlockMinter }

theorem minting_linked : Linked Protocol.permissive minting.genesis minting.dao.blocks :=
  fun i b h => by simp [minting, atGenesis] at h

variable {P : Protocol} {bc : Blockchain}

/-! ## The minted block -/

/-- A block `MintNewBlock` returns has the height after the archive's, links to the tip
    `tipInfo` reads there, and its producer key has an address. -/
theorem mintNewBlock_ok (hb : BuildsOnCtx bc.bbf) {ts : Int} {opts : List (MintOptions → MintOptions)}
    {blk : Block} (h : bc.mintNewBlock P ts opts = .ok blk) :
    ∃ tip a, bc.tipInfo P bc.dao.height = .ok tip ∧ P.address blk.header.pubkey = some a ∧
      blk.header.height = bc.dao.height + 1 ∧ blk.header.prevBlockHash = tip.hash := by
  obtain ⟨⟨ctx, key⟩, hm, h⟩ := Except.bind_eq_ok.mp h
  obtain ⟨tip, a, ht, ha, rfl⟩ := mintCtx_ok hm
  dsimp only at h
  split at h
  · next blk' hk =>
    cases h
    exact ⟨tip, a, ht, by rw [hb.signer hk, ha], hb.height rfl hk, hb.link rfl hk⟩
  · cases h

/-- On a linked archive, a minted block passes `checkBlock`'s height and link checks. -/
theorem checkBlock_minted (hb : BuildsOnCtx bc.bbf) (hl : Linked P bc.genesis bc.dao.blocks)
    {ts : Int} {opts : List (MintOptions → MintOptions)} {blk : Block}
    (h : bc.mintNewBlock P ts opts = .ok blk) :
    ∃ tip a, bc.tipInfo P bc.dao.height = .ok tip ∧ P.address blk.header.pubkey = some a ∧
      bc.checkBlock P tip blk = bc.checkContent P tip blk := by
  obtain ⟨tip, a, ht, ha, hh, hp⟩ := mintNewBlock_ok hb h
  obtain ⟨htip, -⟩ := tipInfo_link hl ht
  rw [← htip] at hh
  exact ⟨tip, a, ht, ha, checkBlock_linked hh hp⟩

/-- **A minted block is rejected only for its content.**  On a linked archive, under a minter
    that builds on the context it is handed, `ValidateBlock` with any options returns for a
    block `MintNewBlock` returned what the content checks (base fee, signature, transaction
    root) return, and when they pass, what the plugged-in validator returns: the height, link
    and producer-address checks never reject it. -/
theorem validateBlock_minted (hb : BuildsOnCtx bc.bbf) (hl : Linked P bc.genesis bc.dao.blocks)
    {ts : Int} {opts : List (MintOptions → MintOptions)} {blk : Block}
    (h : bc.mintNewBlock P ts opts = .ok blk) (vopts : List (BlockValidationCfg → BlockValidationCfg)) :
    ∃ tip ctx, bc.tipInfo P bc.tipHeight = .ok tip ∧
      bc.validateBlock P (some blk) vopts =
        (bc.checkContent P tip blk <|> bc.blockValidator.bind fun v => v ctx blk) := by
  obtain ⟨tip, a, ht, ha, hc⟩ := checkBlock_minted hb hl h
  rcases hcc : bc.checkContent P tip blk with _ | err
  · refine ⟨tip, withFeatureCtx P (withBlockCtx (bc.tipCtx P tip)
      (bc.blockCtxOf (some a) blk (BlockValidationCfg.ofOpts vopts).skipSidecarValidation)), ht, ?_⟩
    simp only [validateBlock, validateBlockCtx, ht, hc, hcc, ha, context_background, Except.map]
    rfl
  · refine ⟨tip, Ctx.background, ht, ?_⟩
    simp only [validateBlock, validateBlockCtx, ht, hc, hcc]
    rfl

/-- At genesis the first block minted at time 0 is `Block.atHeight 1 0`; `ValidateBlock` returns
    what its content checks return. -/
theorem validateBlock_minted_first :
    minting.mintNewBlock Protocol.permissive 0 [] = .ok (Block.atHeight 1 0) ∧
      ∃ tip ctx, minting.tipInfo Protocol.permissive minting.tipHeight = .ok tip ∧
        minting.validateBlock Protocol.permissive (some (Block.atHeight 1 0)) [] =
          (minting.checkContent Protocol.permissive tip (Block.atHeight 1 0) <|>
            minting.blockValidator.bind fun v => v ctx (Block.atHeight 1 0)) :=
  ⟨rfl, validateBlock_minted emptyBlockMinter_buildsOnCtx minting_linked
    (show minting.mintNewBlock Protocol.permissive 0 [] = .ok (Block.atHeight 1 0) from rfl) []⟩

/-- **Committing a minted block makes it the tip.**  On a linked archive below the last
    height, under a minter that builds on the context it is handed, a chain that is not paused
    commits a block it minted when the archive stores it: `CommitBlock` returns `nil`, the
    archive stays linked, and `TipHeight()` and `TipHash()` are the block's height and hash. -/
theorem mintNewBlock_commit (hb : BuildsOnCtx bc.bbf) (hl : Linked P bc.genesis bc.dao.blocks)
    (hn : bc.dao.blocks.length + 1 < 2 ^ 64) (hp : bc.pause = false) {ts : Int}
    {opts : List (MintOptions → MintOptions)} {blk : Block} (h : bc.mintNewBlock P ts opts = .ok blk) :
    ∃ bc', bc.CommitBlock P blk none = (bc', none) ∧ Linked P bc'.genesis bc'.dao.blocks ∧
      bc'.tipHeight = blk.header.height ∧ bc'.tipHash P = P.hashHeader blk.header := by
  obtain ⟨tip, a, ht, -, hh, hprev⟩ := mintNewBlock_ok hb h
  obtain ⟨-, hhash⟩ := tipInfo_link hl ht
  have hlen := height_toNat hl
  have hh' : blk.header.height.toNat = bc.dao.blocks.length + 1 := by
    rw [hh, UInt64.toNat_add_one (by omega), hlen]
  obtain ⟨ctxC, hcc⟩ : ∃ ctx, bc.commitBlockCtx P blk = .ok ctx :=
    ⟨_, by rw [commitBlockCtx, context_background, ht]; rfl⟩
  obtain ⟨⟨hd, -⟩, hnone⟩ := (commitBlock_putBlock P hcc none).1 rfl
  have hg : (bc.commitBlock P blk none).1.genesis = bc.genesis := by rw [commitBlock, hcc]; rfl
  have hheight : (bc.commitBlock P blk none).1.tipHeight = blk.header.height := by
    rw [tipHeight, BlockDAO.height, hd, ← UInt64.toNat_inj, UInt64.toNat_ofNat_eq, hh',
      List.length_append, List.length_singleton, Nat.mod_eq_of_lt hn]
  refine ⟨_, by rw [CommitBlock, hp, if_neg Bool.false_ne_true]; exact Prod.ext rfl hnone, by
    rw [hg, hd]; exact hl.append hh' (hprev.trans hhash), hheight, ?_⟩
  have h0 : blk.header.height ≠ 0 := fun h0 => by rw [h0] at hh'; cases hh'
  rw [tipHeight] at hheight
  simp only [tipHash, hheight, BlockDAO.getBlockHash, h0, if_false, BlockDAO.headerByHeight, hh', hd,
    Nat.add_sub_cancel, List.getElem?_concat_length]
  rfl

/-- At genesis, committing the first minted block makes it the tip. -/
theorem mintNewBlock_commit_first :
    ∃ bc', minting.CommitBlock Protocol.permissive (Block.atHeight 1 0) none = (bc', none) ∧
      Linked Protocol.permissive bc'.genesis bc'.dao.blocks ∧ bc'.tipHeight = 1 ∧
      bc'.tipHash Protocol.permissive = Protocol.permissive.hashHeader (Block.atHeight 1 0).header :=
  mintNewBlock_commit emptyBlockMinter_buildsOnCtx minting_linked (by decide) rfl
    (show minting.mintNewBlock Protocol.permissive 0 [] = .ok (Block.atHeight 1 0) from rfl)

/-- `mintCtx` hands the minter the key `producerPrivateKey` chooses. -/
theorem mintCtx_key {ts : Int} {opts : List (MintOptions → MintOptions)} {ctx : Ctx}
    {key : PrivateKey} (h : bc.mintCtx P ts opts = .ok (ctx, key)) :
    bc.producerPrivateKey P (MintOptions.ofOpts opts) = .ok key := by
  unfold mintCtx at h
  dsimp only at h
  rw [context_background] at h
  rcases ht : bc.tipInfo P bc.dao.height with _ | tip <;> simp only [ht, Except.map] at h
  · cases h
  · simp only [tipCtx] at h
    split at h
    · cases h
    · next k hk =>
      rcases ha : P.address k.publicKey with _ | a <;>
        simp only [ha, Except.ok.injEq, Prod.mk.injEq, reduceCtorEq] at h
      rw [hk, h.2]

/-- With no key option, the key is the first `ProducerPrivateKeys()` returns. -/
theorem producerPrivateKey_ofOpts_nil {key : PrivateKey}
    (h : bc.producerPrivateKey P (MintOptions.ofOpts []) = .ok key) :
    ∃ keys, bc.config.producerPrivateKeys P.keyCodec = .ok keys ∧ keys.head? = some key := by
  have hnone : (MintOptions.ofOpts []).producerPrivateKey = none := rfl
  simp only [producerPrivateKey, hnone] at h
  rcases hk : bc.config.producerPrivateKeys P.keyCodec with _ | keys <;>
    simp only [hk, reduceCtorEq] at h
  refine ⟨keys, rfl, ?_⟩
  cases hh : keys.head? <;> simp only [hh, Except.ok.injEq, reduceCtorEq] at h
  rw [h]

/-- **A block minted without a key option is signed by the first configured key.**  Under a
    minter that signs with the key it is handed, a block `MintNewBlock` returns with no option
    carries the public key of the first key `ProducerPrivateKeys()` returns for the chain's
    configuration: a key decoded from `ProducerPrivKey`, of a whitelisted signature scheme. -/
theorem mintNewBlock_signer (hs : SignsWithKey bc.bbf) {ts : Int} {blk : Block}
    (h : bc.mintNewBlock P ts [] = .ok blk) :
    ∃ keys key decoded, bc.config.producerPrivateKeys P.keyCodec = .ok keys ∧
      keys.head? = some key ∧ blk.header.pubkey = key.publicKey ∧
      bc.config.decodeKeys P.keyCodec (Strings.split bc.config.producerPrivKey ',') =
        .ok decoded ∧ key ∈ decoded ∧
      bc.config.whitelistSignatureScheme P.keyCodec key = true := by
  obtain ⟨⟨ctx, key⟩, hm, h⟩ := Except.bind_eq_ok.mp h
  obtain ⟨keys, hk, hkey⟩ := producerPrivateKey_ofOpts_nil (mintCtx_key hm)
  dsimp only at h
  split at h
  · next blk' hbf =>
    cases h
    obtain ⟨decoded, hd, hi, -⟩ := KeyConfig.producerPrivateKeys_infix hk
    have hmem : key ∈ decoded := hi.subset (List.mem_of_mem_head? hkey)
    exact ⟨keys, key, decoded, hk, hkey, hs hbf, hd, hmem,
      KeyConfig.decodeKeys_whitelisted hd key hmem⟩
  · cases h

/-- `minting` configured with the keys of `threeKeys`, decoded by `secpCodec`. -/
def mintingThreeKeys : Blockchain := { minting with config := ⟨KeyConfig.threeKeys, 1, 1⟩ }

/-- `Protocol.permissive` decoding keys with `secpCodec`. -/
def Protocol.secp : Protocol := { Protocol.permissive with keyCodec := KeyConfig.secpCodec }

/-- With the keys of `threeKeys` and the range `[1:]`, the first block is signed with the second
    configured key, decoded and whitelisted. -/
theorem mintNewBlock_signer_threeKeys :
    SignsWithKey mintingThreeKeys.bbf ∧
      ∃ blk, mintingThreeKeys.mintNewBlock Protocol.secp 0 [] = .ok blk ∧
      ∃ keys key decoded,
        mintingThreeKeys.config.producerPrivateKeys Protocol.secp.keyCodec = .ok keys ∧
        keys.head? = some key ∧ blk.header.pubkey = key.publicKey ∧
        mintingThreeKeys.config.decodeKeys Protocol.secp.keyCodec
          (Strings.split mintingThreeKeys.config.producerPrivKey ',') = .ok decoded ∧
        key ∈ decoded ∧
        mintingThreeKeys.config.whitelistSignatureScheme Protocol.secp.keyCodec key = true :=
  ⟨emptyBlockMinter_buildsOnCtx.signer, _, rfl,
    @mintNewBlock_signer Protocol.secp mintingThreeKeys emptyBlockMinter_buildsOnCtx.signer 0 _ rfl⟩

theorem exec_bbf (bc : Blockchain) (c : Call) : (bc.exec P c).1.bbf = bc.bbf := by
  cases c with
  | commitBlock blk ans =>
    simp only [exec, CommitBlock, commitBlock]
    split_ifs
    · rfl
    · split
      · rfl
      · split
        · split_ifs <;> rfl
        · rfl
  | addSubscriber s => cases s <;> rfl
  | _ => rfl

/-- A minted block links below the archive it was minted on. -/
theorem mintNewBlock_linksBelow (hb : BuildsOnCtx bc.bbf) (hl : Linked P bc.genesis bc.dao.blocks)
    {ts : Int} {opts : List (MintOptions → MintOptions)} {blk : Block}
    (h : bc.mintNewBlock P ts opts = .ok blk) : LinksBelow P bc.genesis bc.dao.blocks blk := by
  obtain ⟨tip, a, ht, -, hh, hp⟩ := mintNewBlock_ok hb h
  obtain ⟨-, hhash⟩ := tipInfo_link hl ht
  have hlen := height_toNat hl
  have hlt := hl.length_lt
  rw [LinksBelow, hh, UInt64.toNat_add, hlen, hp, hhash, show (1 : UInt64).toNat = 1 from rfl]
  by_cases hn : bc.dao.blocks.length + 1 < UInt64.size
  · rw [Nat.mod_eq_of_lt hn, Nat.add_sub_cancel]
    exact .inr ⟨le_rfl, rfl⟩
  · left
    rw [show bc.dao.blocks.length + 1 = UInt64.size by rw [UInt64.size] at hn ⊢; omega]
    rfl

end Blockchain

/-! ## Producers and validators interleaved -/

namespace Sys

variable (P : Protocol)

/-- The blocks a call hands its client to commit: the block `MintNewBlock` returned, or the
    block a validation accepted. -/
def handed (bc : Blockchain) : Call → List Block
  | .mintNewBlock ts opts =>
    match bc.mintNewBlock P ts opts with
    | .ok blk => [blk]
    | .error _ => []
  | c => accepted P bc c

/-- One call of some client, producers among them, recording the blocks handed out. -/
def execMint (s : Sys) (c : Call) : Sys := ⟨(s.bc.exec P c).1, handed P s.bc c ++ s.validated⟩

/-- A schedule each of whose calls is allowed in the state it runs in: a client commits only a
    block it minted or some validation accepted. -/
def AdmissibleMint : Sys → List Call → Prop
  | _, [] => True
  | s, c :: cs => Allowed s c ∧ AdmissibleMint (s.execMint P c) cs

/-- A schedule of calls, producers among the clients. -/
def runMint (s : Sys) (calls : List Call) : Sys := calls.foldl (execMint P) s

variable {P}

theorem execMint_inv {s : Sys} {c : Call} (hb : BuildsOnCtx s.bc.bbf) (hi : Inv P s)
    (ha : Allowed s c) : Inv P (s.execMint P c) := by
  cases c with
  | mintNewBlock ts opts =>
    refine ⟨hi.1, fun b hb' => ?_⟩
    rcases List.mem_append.mp hb' with hb' | hb'
    · simp only [handed] at hb'
      split at hb'
      · exact List.mem_singleton.mp hb' ▸ Blockchain.mintNewBlock_linksBelow hb hi.1 ‹_›
      · cases hb'
    · exact hi.2 b hb'
  | _ => exact exec_inv hi ha

theorem runMint_inv {s : Sys} {calls : List Call} (hb : BuildsOnCtx s.bc.bbf) (hi : Inv P s)
    (ha : AdmissibleMint P s calls) : Inv P (s.runMint P calls) := by
  induction calls generalizing s with
  | nil => exact hi
  | cons c calls ih =>
    exact ih (by rwa [execMint, Blockchain.exec_bbf]) (execMint_inv hb hi ha.1) ha.2

end Sys

/-- **The committed chain stays linked when producers commit their own blocks.**  Start from a
    linked archive and a minter that builds on the context it is handed; let clients call
    `MintNewBlock`, `ValidateBlock`, `CommitBlock` and the other calls in any order, each
    committing only a block it minted or some validation accepted, against an archive that
    stores a block only at the height after its last.  Then every stored block at height `h`
    has height `h` and links to the block stored at `h - 1`, or to the genesis hash when
    `h = 1`. -/
theorem committed_chain_linked_with_minting (P : Protocol) (bc : Blockchain) (calls : List Call)
    (hb : BuildsOnCtx bc.bbf) (hl : Linked P bc.genesis bc.dao.blocks)
    (ha : Sys.AdmissibleMint P ⟨bc, []⟩ calls) :
    Linked P (Sys.runMint P ⟨bc, []⟩ calls).bc.genesis (Sys.runMint P ⟨bc, []⟩ calls).bc.dao.blocks :=
  (Sys.runMint_inv hb ⟨hl, fun _ hb => absurd hb (List.not_mem_nil _)⟩ ha).1

/-- At genesis, minting the first block and committing it without validation is allowed, and
    stores the block linked to the genesis. -/
theorem committed_chain_linked_with_minting_first :
    Sys.AdmissibleMint Protocol.permissive ⟨Blockchain.minting, []⟩
        [.mintNewBlock 0 [], .commitBlock (Block.atHeight 1 0) none] ∧
      (Sys.runMint Protocol.permissive ⟨Blockchain.minting, []⟩
        [.mintNewBlock 0 [], .commitBlock (Block.atHeight 1 0) none]).bc.dao.blocks =
        [Block.atHeight 1 0] ∧
      Linked Protocol.permissive
        (Sys.runMint Protocol.permissive ⟨Blockchain.minting, []⟩
          [.mintNewBlock 0 [], .commitBlock (Block.atHeight 1 0) none]).bc.genesis
        (Sys.runMint Protocol.permissive ⟨Blockchain.minting, []⟩
          [.mintNewBlock 0 [], .commitBlock (Block.atHeight 1 0) none]).bc.dao.blocks := by
  have ha : Sys.AdmissibleMint Protocol.permissive ⟨Blockchain.minting, []⟩
      [.mintNewBlock 0 [], .commitBlock (Block.atHeight 1 0) none] := by
    simp only [Sys.AdmissibleMint, Sys.Allowed, and_true]
    decide
  exact ⟨ha, rfl, committed_chain_linked_with_minting _ _ _ emptyBlockMinter_buildsOnCtx
    Blockchain.minting_linked ha⟩

end IotexCore
