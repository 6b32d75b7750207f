/-
  iotex-core formalization — the chain core of blockchain/blockchain.go.

  * `BlockDAO` is the block archive: the blocks stored at heights `1, 2, …`, read back by
    height (its reads of stored heights do not fail); its `PutBlock` answer is an input of each
    commit (stored, already there, failed);
  * `Config` extends the producer-key fields `KeyConfig`, so `MintNewBlock` calls
    `ProducerPrivateKeys()` on the chain's own configuration (`producerPrivateKey`);
  * `tipInfo`, `context` and `contextWithBlock` derive the execution context of a height;
  * `validateBlock`, `mintNewBlock` and `commitBlock` are split where they hand their context
    to a collaborator (the validator, the minter, the archive): `validateBlockCtx`,
    `mintCtx`, `commitBlockCtx` are everything before that call;
  * `Blockchain.exec` runs one public call; `CommitBlock` is the only one that changes the
    archive or notifies subscribers.
-/
import IotexCore.Blockchain.Config

namespace IotexCore

/-! ## The archive -/

/-- The block archive (`blockdao.BlockDAO`, outside this file set): the stored blocks, the one
    at height `i + 1` at index `i`, and the archive's answer to `GetBlockHash(0)`, which it does
    not store.  The archive answers `Height()` and every read of a stored height; only its
    answer at height 0 and its answer to `PutBlock` may be errors. -/
structure BlockDAO where
  blocks : List Block
  hashAtZero : Except Err Hash256

namespace BlockDAO

/-- `Height()`: the number of stored blocks. -/
def height (dao : BlockDAO) : UInt64 := UInt64.ofNat dao.blocks.length

/-- `HeaderByHeight(h)`. -/
def headerByHeight (dao : BlockDAO) (h : UInt64) : Except Err Header :=
  if h = 0 then .error .notExist
  else match dao.blocks[h.toNat - 1]? with
    | some b => .ok b.header
    | none => .error .notExist

/-- `GetBlockHash(h)`. -/
def getBlockHash (P : Protocol) (dao : BlockDAO) (h : UInt64) : Except Err Hash256 :=
  if h = 0 then dao.hashAtZero else (dao.headerByHeight h).map P.hashHeader

/-- `PutBlock(ctx, blk)`, the archive answering `ans`: with `nil` the block is stored; with
    an error (`ErrAlreadyExist` or another) nothing is. -/
def putBlock (dao : BlockDAO) (blk : Block) (ans : Option Err) : BlockDAO × Option Err :=
  match ans with
  | none => (⟨dao.blocks ++ [blk], dao.hashAtZero⟩, none)
  | some e => (dao, some e)

end BlockDAO

/-! ## The chain -/

/-- `Config`, as far as the chain reads it: the chain ids, and the producer key fields
    `ProducerPrivateKeys()` reads. -/
structure Config extends KeyConfig where
  id : UInt32
  evmNetworkID : UInt32

/-- The subscriber registry (`PubSubManager`): the listeners, and the blocks handed to
    `SendBlockToSubscribers`, in order. -/
structure PubSub where
  listeners : List Nat
  sent : List Block

/-- `blockchain`: the archive, configuration and collaborators, and the pause flag. -/
structure Blockchain where
  dao : BlockDAO
  config : Config
  genesis : Genesis
  blockValidator : Option (Ctx → Block → Option Err)
  pubSubManager : PubSub
  bbf : Ctx → PrivateKey → Except Err Block
  pause : Bool

/-- `BlockValidationCfg`. -/
structure BlockValidationCfg where
  skipSidecarValidation : Bool := false

/-- The configuration a list of validation options sets up. -/
def BlockValidationCfg.ofOpts (opts : List (BlockValidationCfg → BlockValidationCfg)) :
    BlockValidationCfg :=
  opts.foldl (fun c opt => opt c) {}

/-- `SkipSidecarValidationOption()`. -/
def skipSidecarValidationOption : BlockValidationCfg → BlockValidationCfg :=
  fun opts => { opts with skipSidecarValidation := true }

/-- `MintOptions`. -/
structure MintOptions where
  producerPrivateKey : Option PrivateKey := none

/-- The options a list of mint options sets up. -/
def MintOptions.ofOpts (opts : List (MintOptions → MintOptions)) : MintOptions :=
  opts.foldl (fun o opt => opt o) {}

/-- `WithProducerPrivateKey(pk)`. -/
def withProducerPrivateKey (pk : PrivateKey) : MintOptions → MintOptions :=
  fun options => { options with producerPrivateKey := pk }

namespace Blockchain

variable (P : Protocol)

/-- `tipInfo(tipHeight)`: height 0 is the genesis, any other height the stored header. -/
def tipInfo (bc : Blockchain) (tipHeight : UInt64) : Except Err TipInfo :=
  if tipHeight = 0 then .ok ⟨0, 0, bc.genesis.hash, bc.genesis.timestamp, none, 0, 0⟩
  else (bc.dao.headerByHeight tipHeight).map fun header =>
    ⟨tipHeight, header.gasUsed, P.hashHeader header, header.timestamp, header.baseFee,
      header.blobGasUsed, header.excessBlobGas⟩

/-- `getBlockTime(height)`. -/
def getBlockTime (bc : Blockchain) (height : UInt64) : Except Err Int :=
  if height = 0 then .ok bc.genesis.timestamp
  else (bc.dao.headerByHeight height).map Header.timestamp

/-- `context(ctx, height)`: the tip at `height`, the chain ids, the genesis and its
    height-indexed features. -/
def context (bc : Blockchain) (ctx : Ctx) (height : UInt64) : Except Err Ctx :=
  (bc.tipInfo P height).map fun tip =>
    withFeatureWithHeightCtx P (withGenesisContext (withBlockchainCtx ctx
      ⟨tip, bc.config.id, bc.config.evmNetworkID, bc.dao.getBlockHash P, bc.getBlockTime⟩)
      bc.genesis)

/-- `TipHeight()`. -/
def tipHeight (bc : Blockchain) : UInt64 := bc.dao.height

/-- `TipHash()`: the archive's hash of its own height; an archive error gives `ZeroHash256`. -/
def tipHash (bc : Blockchain) : Hash256 :=
  match bc.dao.getBlockHash P bc.dao.height with
  | .ok tipHash => tipHash
  | .error _ => ZeroHash256

/-- `BlockHeaderByHeight(height)`. -/
def blockHeaderByHeight (bc : Blockchain) (height : UInt64) : Except Err Header :=
  bc.dao.headerByHeight height

/-- `contextWithBlock(ctx, producer, height, timestamp, baseFee, blobgas)`. -/
def contextWithBlock (bc : Blockchain) (ctx : Ctx) (producer : Option String) (height : UInt64)
    (timestamp : Int) (baseFee : Option Int) (blobgas : UInt64) : Ctx :=
  withBlockCtx ctx ⟨height, timestamp, bc.genesis.blockGasLimitByHeight height, producer, baseFee,
    blobgas, false⟩

/-- The checks `ValidateBlock` makes of a block against the tip, in order; the first that
    fails gives the error: the height must follow the tip (height 0 is exempt), the block must
    link to the tip, a base fee must follow the EIP-1559 adjustment, and the signature and
    the transaction root must verify. -/
def checkBlock (bc : Blockchain) (tip : TipInfo) (blk : Block) : Option Err :=
  let h := blk.header.height
  let e := tip.height + 1
  let p := blk.header.prevBlockHash.hex
  let t := tip.hash.hex
  let k := blk.header.pubkey.bytes.hex
  (if h ≠ 0 ∧ h ≠ e then some (.wrap .invalidTipHeight s!"wrong block height {h}, expecting {e}")
    else none) <|>
  (if blk.header.prevBlockHash ≠ tip.hash then
      some (.wrap .invalidBlock s!"wrong prev hash {p}, expecting {t}")
    else none) <|>
  (if blk.header.baseFee.isSome then
      (P.verifyEIP1559Header bc.genesis tip blk.header).map fun err =>
        .wrap err "failed to verify EIP1559 header (baseFee adjustment)"
    else none) <|>
  (if !P.verifySignature blk.header then
      some (.new s!"failed to verify block's signature with public key: {k}")
    else none) <|>
  P.verifyTxRoot blk

/-- `ValidateBlock` on a non-nil block, up to the context it hands to the validator. -/
def validateBlockCtx (bc : Blockchain) (blk : Block)
    (opts : List (BlockValidationCfg → BlockValidationCfg)) : Except Err Ctx :=
  let tipHeight := bc.dao.height
  match bc.tipInfo P tipHeight with
  | .error err => .error err
  | .ok tip =>
    match bc.checkBlock P tip blk with
    | some err => .error err
    | none =>
      match P.address blk.header.pubkey with
      | none => .error (.new "failed to get address")
      | some producerAddr =>
        let cfg := BlockValidationCfg.ofOpts opts
        (bc.context P Ctx.background tipHeight).map fun ctx =>
          withFeatureCtx P (withBlockCtx ctx ⟨blk.header.height, blk.header.timestamp,
            bc.genesis.blockGasLimitByHeight blk.header.height, some producerAddr,
            blk.header.baseFee, blk.header.excessBlobGas, cfg.skipSidecarValidation⟩)

/-- `ValidateBlock(blk, opts...)`: a nil block is invalid; with no validator plugged in a block
    that passes the checks is accepted. -/
def validateBlock (bc : Blockchain) (blk : Option Block)
    (opts : List (BlockValidationCfg → BlockValidationCfg)) : Option Err :=
  match blk with
  | none => some .invalidBlock
  | some blk =>
    match bc.validateBlockCtx P blk opts with
    | .error err => some err
    | .ok ctx => bc.blockValidator.bind fun v => v ctx blk

/-- The key `MintNewBlock` signs with: the option's, else the first of
    `ProducerPrivateKeys()`, whose panics are `.panic`. -/
def producerPrivateKey (bc : Blockchain) (options : MintOptions) : Except Err PrivateKey :=
  match options.producerPrivateKey with
  | some producerPrivateKey => .ok producerPrivateKey
  | none =>
    match bc.config.producerPrivateKeys P.keyCodec with
    | .error err => .error err
    | .ok privateKeys =>
      match privateKeys.head? with
      | none => .error (.new "no producer private key available")
      | some producerPrivateKey => .ok producerPrivateKey

/-- `MintNewBlock` up to the minter's call: the context of the next height and the producer
    key (`producerPrivateKey`).  The tip and genesis are read back from the context (`MustGet…`,
    a panic if absent); a key without an address makes the log line panic. -/
def mintCtx (bc : Blockchain) (timestamp : Int) (opts : List (MintOptions → MintOptions)) :
    Except Err (Ctx × PrivateKey) :=
  let options := MintOptions.ofOpts opts
  let tipHeight := bc.dao.height
  match bc.context P Ctx.background tipHeight with
  | .error err => .error err
  | .ok ctx =>
    match ctx.blockchainCtx with
    | none => .error (.panic "no blockchain context")
    | some bcCtx =>
      match bc.producerPrivateKey P options with
      | .error err => .error err
      | .ok producerPrivateKey =>
        match P.address producerPrivateKey.publicKey, ctx.genesis with
        | none, _ => .error (.panic "nil minter address")
        | _, none => .error (.panic "no genesis context")
        | some minterAddress, some g =>
          .ok (withFeatureCtx P (bc.contextWithBlock ctx (some minterAddress) (tipHeight + 1)
            timestamp (P.calcBaseFee g bcCtx.tip)
            (P.calcExcessBlobGas bcCtx.tip.excessBlobGas bcCtx.tip.blobGasUsed)), producerPrivateKey)

/-- `MintNewBlock(timestamp, opts...)`. -/
def mintNewBlock (bc : Blockchain) (timestamp : Int) (opts : List (MintOptions → MintOptions)) :
    Except Err Block := do
  let (ctx, producerPrivateKey) ← bc.mintCtx P timestamp opts
  match bc.bbf ctx producerPrivateKey with
  | .ok blk => pure blk
  | .error err => throw (.wrap err "failed to create block")

/-- The context `commitBlock` hands to the archive's `PutBlock`. -/
def commitBlockCtx (bc : Blockchain) (blk : Block) : Except Err Ctx :=
  (bc.context P Ctx.background bc.dao.height).map fun ctx =>
    withFeatureCtx P (bc.contextWithBlock ctx (P.address blk.header.pubkey) blk.header.height
      blk.header.timestamp blk.header.baseFee blk.header.excessBlobGas)

/-- Whether an error is the archive's "already exists". -/
def IsAlreadyExist (e : Err) : Prop :=
  e.cause = .fileAlreadyExist ∨ e.cause = .daoAlreadyExist

instance (e : Err) : Decidable (IsAlreadyExist e) := inferInstanceAs (Decidable (_ ∨ _))

/-- `commitBlock(blk)`, the archive answering `ans` to `PutBlock`: "already exists" is a
    success that stores and emits nothing; on `nil` the block is handed to the subscribers. -/
def commitBlock (bc : Blockchain) (blk : Block) (ans : Option Err) : Blockchain × Option Err :=
  match bc.commitBlockCtx P blk with
  | .error err => (bc, some err)
  | .ok _ =>
    match bc.dao.putBlock blk ans with
    | (_, some err) => if IsAlreadyExist err then (bc, none) else (bc, some err)
    | (dao, none) =>
      let ps : PubSub := ⟨bc.pubSubManager.listeners, bc.pubSubManager.sent ++ [blk]⟩
      ({ bc with dao, pubSubManager := ps }, none)

/-- `CommitBlock(blk)`: refused while paused. -/
def CommitBlock (bc : Blockchain) (blk : Block) (ans : Option Err) : Blockchain × Option Err :=
  if bc.pause then
    let h := blk.header.height
    let x := (P.hashHeader blk.header).hex
    (bc, some (.wrap .paused s!"blockchain is paused, cannot commit block {h}, {x}"))
  else bc.commitBlock P blk ans

/-- `AddSubscriber(s)`; `none` is a nil subscriber. -/
def addSubscriber (bc : Blockchain) (s : Option Nat) : Blockchain × Option Err :=
  match s with
  | none => (bc, some (.new "subscriber could not be nil"))
  | some s =>
    let ps : PubSub := ⟨bc.pubSubManager.listeners ++ [s], bc.pubSubManager.sent⟩
    ({ bc with pubSubManager := ps }, none)

/-- `RemoveSubscriber(s)`. -/
def removeSubscriber (bc : Blockchain) (s : Nat) : Blockchain :=
  { bc with pubSubManager := ⟨bc.pubSubManager.listeners.erase s, bc.pubSubManager.sent⟩ }

end Blockchain

/-- The public calls of the chain, with the archive's answer to a commit's `PutBlock`. -/
inductive Call where
  | validateBlock (blk : Option Block) (opts : List (BlockValidationCfg → BlockValidationCfg))
  | mintNewBlock (timestamp : Int) (opts : List (MintOptions → MintOptions))
  | commitBlock (blk : Block) (ans : Option Err)
  | pause (p : Bool)
  | addSubscriber (s : Option Nat)
  | removeSubscriber (s : Nat)

namespace Blockchain

variable (P : Protocol)

/-- One call, and the error it returns (`Pause` returns none; `MintNewBlock` returns its
    error, or none with its block). -/
def exec (bc : Blockchain) : Call → Blockchain × Option Err
  | .validateBlock blk opts => (bc, bc.validateBlock P blk opts)
  | .mintNewBlock ts opts =>
    (bc, match bc.mintNewBlock P ts opts with | .ok _ => none | .error e => some e)
  | .commitBlock blk ans => bc.CommitBlock P blk ans
  | .pause p => ({ bc with pause := p }, none)
  | .addSubscriber s => bc.addSubscriber s
  | .removeSubscriber s => (bc.removeSubscriber s, none)

/-- A run of calls. -/
def run (bc : Blockchain) (calls : List Call) : Blockchain :=
  calls.foldl (fun bc c => (bc.exec P c).1) bc

end Blockchain

/-! ## A chain at genesis -/

/-- Collaborators under which every check passes, every key has an address, no fee is due, and
    every hex string decodes to the same secp256k1 key. -/
def Protocol.permissive : Protocol :=
  ⟨fun _ => 0, fun _ => some "io1", fun _ => true, fun _ => none, fun _ _ _ => none,
    fun _ _ => none, fun _ _ => 0, fun _ _ _ => true, fun _ _ _ => true,
    ⟨fun _ => .ok ⟨⟨[]⟩⟩, fun _ => .ecdsa⟩⟩

/-- A chain with nothing stored, one secp256k1 producer key and no validator plugged in. -/
def Blockchain.atGenesis : Blockchain :=
  ⟨⟨[], .ok 0⟩, ⟨⟨"00", "", "", [sigP256k1]⟩, 1, 1⟩, ⟨0, 0, fun _ => 0⟩, none, ⟨[], []⟩,
    fun _ _ => .error (.new "no builder"), false⟩

end IotexCore
