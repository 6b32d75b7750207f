/-
  iotex-core formalization — blocks, and the execution context the chain derives for them.

  * `Block` is the header (height, link to the previous block, producer key, fee fields), the
    sealed actions and the receipts with their logs;
  * `Ctx` holds the values the chain puts into a `context.Context`: the `BlockchainCtx` with
    the tip, the genesis, the feature flags, and the `BlockCtx` of the block at hand;
  * `Protocol` gathers the pure functions of other packages the chain calls (hashing,
    signatures, fee formulas, feature schedules, key decoding): every result holds for all of
    them.
-/
import IotexCore.Basic

namespace IotexCore

/-! ## Blocks -/

/-- A public key; the chain reads its bytes and its address. -/
structure PublicKey where
  bytes : Bytes
  deriving DecidableEq, Repr

/-- A private key, through its public key. -/
structure PrivateKey where
  publicKey : PublicKey
  deriving DecidableEq, Repr

/-- `action.Log`: the contract that emitted it, its topics and data. -/
structure Log where
  address : String
  topics : List Hash256
  data : Bytes
  deriving DecidableEq, Repr

/-- `action.Receipt`: the execution status and the logs. -/
structure Receipt where
  status : UInt64
  logs : List Log
  deriving DecidableEq, Repr

/-- `block.Header`. -/
structure Header where
  height : UInt64
  timestamp : Int
  prevBlockHash : Hash256
  txRoot : Hash256
  pubkey : PublicKey
  signature : Bytes
  gasUsed : UInt64
  baseFee : Option Int
  blobGasUsed : UInt64
  excessBlobGas : UInt64
  deriving DecidableEq, Repr

/-- `block.Block`: the header, the sealed actions, and the receipts. -/
structure Block where
  header : Header
  actions : List Bytes
  receipts : List Receipt
  deriving DecidableEq, Repr

/-- A block at height `h` linking to `prev`, with no actions and no receipts. -/
def Block.atHeight (h : UInt64) (prev : Hash256) : Block :=
  ⟨⟨h, 0, prev, 0, ⟨[]⟩, [], 0, none, 0, 0⟩, [], []⟩

/-! ## Genesis, tip and context -/

/-- `genesis.Genesis`, as far as the chain reads it: its hash, its timestamp (seconds) and
    the gas limit of each height. -/
structure Genesis where
  hash : Hash256
  timestamp : Int
  blockGasLimitByHeight : UInt64 → UInt64

/-- `protocol.TipInfo`: the last committed block as the chain's context carries it. -/
structure TipInfo where
  height : UInt64
  gasUsed : UInt64
  hash : Hash256
  timestamp : Int
  baseFee : Option Int
  blobGasUsed : UInt64
  excessBlobGas : UInt64
  deriving DecidableEq, Repr

/-- `protocol.BlockchainCtx`. -/
structure BlockchainCtx where
  tip : TipInfo
  chainID : UInt32
  evmNetworkID : UInt32
  getBlockHash : UInt64 → Except Err Hash256
  getBlockTime : UInt64 → Except Err Int

/-- `protocol.BlockCtx`; a nil producer address is `none`. -/
structure BlockCtx where
  blockHeight : UInt64
  blockTimeStamp : Int
  gasLimit : UInt64
  producer : Option String
  baseFee : Option Int
  excessBlobGas : UInt64
  skipSidecarValidation : Bool
  deriving DecidableEq, Repr

/-- Feature flags by name (`protocol.FeatureCtx`). -/
abbrev Features := String → Bool

/-- The values the chain stores in a `context.Context`, each under its own key
    (`none`: not set). -/
structure Ctx where
  blockchainCtx : Option BlockchainCtx
  genesis : Option Genesis
  featureWithHeightCtx : Option (String → UInt64 → Bool)
  blockCtx : Option BlockCtx
  featureCtx : Option Features

/-- `context.Background()`. -/
def Ctx.background : Ctx := ⟨none, none, none, none, none⟩

/-- The type of `sk.EcdsaPrivateKey()` that `whitelistSignatureScheme` switches on. -/
inductive KeyKind
  /-- `*ecdsa.PrivateKey` -/
  | ecdsa
  /-- `*crypto.P256sm2PrvKey` -/
  | p256sm2
  /-- any other type -/
  | other
  deriving DecidableEq, Repr

/-- The calls of the producer key helpers into package crypto. -/
structure KeyCodec where
  /-- `crypto.HexStringToPrivateKey(pk)` -/
  hexStringToPrivateKey : String → Except Err PrivateKey
  /-- the dynamic type of `sk.EcdsaPrivateKey()` -/
  kind : PrivateKey → KeyKind

/-- The pure functions of other packages that the chain calls. -/
structure Protocol where
  /-- `Header.HashBlock()` -/
  hashHeader : Header → Hash256
  /-- `PublicKey.Address()`; `none` is a nil address -/
  address : PublicKey → Option String
  /-- `Header.VerifySignature()` -/
  verifySignature : Header → Bool
  /-- `Block.VerifyTxRoot()` -/
  verifyTxRoot : Block → Option Err
  /-- `protocol.VerifyEIP1559Header(g.Blockchain, tip, header)` -/
  verifyEIP1559Header : Genesis → TipInfo → Header → Option Err
  /-- `protocol.CalcBaseFee(g.Blockchain, tip)` -/
  calcBaseFee : Genesis → TipInfo → Option Int
  /-- `protocol.CalcExcessBlobGas(excessBlobGas, blobGasUsed)` -/
  calcExcessBlobGas : UInt64 → UInt64 → UInt64
  /-- the flags `protocol.WithFeatureCtx` computes from the genesis and the block height -/
  featureCtx : Genesis → UInt64 → Features
  /-- the height-indexed flags of `protocol.WithFeatureWithHeightCtx` -/
  featureWithHeightCtx : Genesis → String → UInt64 → Bool
  /-- the key decoding `Config.ProducerPrivateKeys()` does through package crypto -/
  keyCodec : KeyCodec

variable (P : Protocol)

/-- `protocol.WithBlockchainCtx`. -/
def withBlockchainCtx (ctx : Ctx) (bcCtx : BlockchainCtx) : Ctx := { ctx with blockchainCtx := bcCtx }

/-- `genesis.WithGenesisContext`. -/
def withGenesisContext (ctx : Ctx) (g : Genesis) : Ctx := { ctx with genesis := g }

/-- `protocol.WithBlockCtx`. -/
def withBlockCtx (ctx : Ctx) (blkCtx : BlockCtx) : Ctx := { ctx with blockCtx := blkCtx }

/-- `protocol.WithFeatureWithHeightCtx`: flags from the genesis in the context (a context
    without one, where the code panics, gets none). -/
def withFeatureWithHeightCtx (ctx : Ctx) : Ctx :=
  { ctx with featureWithHeightCtx := ctx.genesis.map P.featureWithHeightCtx }

/-- `protocol.WithFeatureCtx`: flags from the genesis and the block height in the context. -/
def withFeatureCtx (ctx : Ctx) : Ctx :=
  { ctx with featureCtx := match ctx.genesis, ctx.blockCtx with
    | some g, some b => some (P.featureCtx g b.blockHeight)
    | _, _ => none }

end IotexCore
