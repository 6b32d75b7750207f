/-
  iotex-core formalization — the committed chain is hash-linked, under any interleaving of
  clients.

  `ValidateBlock` checks a block against the tip under the read lock and returns; a client
  commits the block later under the write lock, and `commitBlock` does not check it again.
  Clients are one schedule of atomic calls here, with the blocks validations accepted kept as
  ghost state; the archive's promise (it stores a block only at the height after its last one)
  is a condition on its answers.

  * `linkHash`, `Linked`: the hash the block at each height must link to, and the archive
    whose blocks all do;
  * `tipInfo_link`, `validateBlock_link`: the tip a validation reads is the archive's last
    block, so an accepted block has height 0 or the next height and links to that tip;
  * `LinksBelow`, `Sys.Inv`, `Sys.exec_inv`, `Sys.run_inv`: the archive stays linked, and each
    accepted block keeps linking to the block below its height, across every allowed call;
  * `committed_chain_linked`: every allowed schedule from a linked archive ends linked.
-/
import Mathlib
import IotexCore.Blockchain.Context
import IotexCore.Blockchain.Notify

namespace IotexCore

variable (P : Protocol)

/-! ## Linked archives -/

/-- The hash the block at height `n + 1` must link to: the genesis hash for the first block,
    else the hash of the block stored at height `n`. -/
def linkHash (g : Genesis) (blocks : List Block) : Nat → Hash256
  | 0 => g.hash
  | n + 1 =>
    match blocks[n]? with
    | some b => P.hashHeader b.header
    | none => ZeroHash256

/-- The archive's blocks form a hash chain from the genesis: the block at index `i` has height
    `i + 1` and links to `linkHash i`. -/
def Linked (g : Genesis) (blocks : List Block) : Prop :=
  ∀ i b, blocks[i]? = some b →
    b.header.height.toNat = i + 1 ∧ b.header.prevBlockHash = linkHash P g blocks i

/-- The block `b` has height 0, or links to the block below its height, which is stored or is
    the next to be. -/
def LinksBelow (g : Genesis) (blocks : List Block) (b : Block) : Prop :=
  b.header.height.toNat = 0 ∨
    b.header.height.toNat ≤ blocks.length + 1 ∧
      b.header.prevBlockHash = linkHash P g blocks (b.header.height.toNat - 1)

variable {P}

theorem linkHash_append {g : Genesis} {blocks : List Block} (more : List Block) :
    ∀ {i}, i ≤ blocks.length → linkHash P g (blocks ++ more) i = linkHash P g blocks i
  | 0, _ => rfl
  | n + 1, h => by simp only [linkHash, List.getElem?_append_left (by omega : n < blocks.length)]

theorem Linked.length_lt {g : Genesis} {blocks : List Block} (hl : Linked P g blocks) :
    blocks.length < 2 ^ 64 := by
  cases blocks using List.reverseRecOn with
  | nil => simp
  | append_singleton bs b =>
    have hb := (hl bs.length b (by simp)).1
    have := UInt64.toNat_lt b.header.height
    simp only [List.length_append, List.length_singleton]
    omega

/-- Appending the block of the next height that links to the last one keeps the archive
    linked. -/
theorem Linked.append {g : Genesis} {blocks : List Block} {b : Block} (hl : Linked P g blocks)
    (hh : b.header.height.toNat = blocks.length + 1)
    (hp : b.header.prevBlockHash = linkHash P g blocks blocks.length) :
    Linked P g (blocks ++ [b]) := by
  intro i c hc
  rcases Nat.lt_or_ge i blocks.length with hi | hi
  · rw [List.getElem?_append_left hi] at hc
    rw [linkHash_append _ hi.le]
    exact hl i c hc
  · rw [List.getElem?_append_right hi] at hc
    obtain rfl : i = blocks.length := by
      by_contra hne
      rw [List.getElem?_eq_none (by simp only [List.length_singleton]; omega)] at hc
      cases hc
    obtain rfl : b = c := by simpa using hc
    exact ⟨hh, hp.trans (linkHash_append _ le_rfl).symm⟩

theorem LinksBelow.append {g : Genesis} {blocks : List Block} {b : Block}
    (h : LinksBelow P g blocks b) (more : List Block) : LinksBelow P g (blocks ++ more) b :=
  h.imp_right fun ⟨hle, hp⟩ =>
    ⟨by simp only [List.length_append]; omega, by rw [hp, linkHash_append _ (by omega)]⟩

/-! ## What a validation accepts -/

namespace Blockchain

variable {bc : Blockchain}

theorem height_toNat (hl : Linked P bc.genesis bc.dao.blocks) :
    bc.dao.height.toNat = bc.dao.blocks.length := by
  rw [BlockDAO.height, UInt64.toNat_ofNat_eq, Nat.mod_eq_of_lt hl.length_lt]

/-- On a linked archive, the tip `tipInfo` reads at the archive's height is its last block (the
    genesis on an empty archive): the block of the next height must link to it. -/
theorem tipInfo_link {tip : TipInfo} (hl : Linked P bc.genesis bc.dao.blocks)
    (h : bc.tipInfo P bc.dao.height = .ok tip) :
    tip.height = bc.dao.height ∧
      tip.hash = linkHash P bc.genesis bc.dao.blocks bc.dao.blocks.length := by
  have hn := height_toNat hl
  unfold tipInfo at h
  split_ifs at h with h0
  · cases h
    rw [h0] at hn
    exact ⟨h0.symm, by rw [← hn]; rfl⟩
  · obtain ⟨n, hn'⟩ : ∃ n, bc.dao.blocks.length = n + 1 := by
      refine Nat.exists_eq_succ_of_ne_zero fun h => h0 ?_
      rw [← UInt64.toNat_inj, hn, h]
      rfl
    simp only [BlockDAO.headerByHeight, h0, if_false, hn, hn', Nat.add_sub_cancel] at h
    rcases hb : bc.dao.blocks[n]? with _ | b <;> simp only [hb, Except.map] at h
    · cases h
    · cases h
      exact ⟨rfl, by simp only [hn', linkHash, hb]⟩

/-- A block that passes `checkBlock` has height 0 or the height after the tip, and links to
    the tip. -/
theorem checkBlock_eq_none {tip : TipInfo} {blk : Block} (h : bc.checkBlock P tip blk = none) :
    (blk.header.height = 0 ∨ blk.header.height = tip.height + 1) ∧
      blk.header.prevBlockHash = tip.hash := by
  simp only [checkBlock, Option.orElse_eq_none, ite_eq_right_iff, reduceCtorEq, imp_false] at h
  obtain ⟨h1, h2, -⟩ := h
  exact ⟨by tauto, by simpa using h2⟩

/-- **What a validation accepts.**  On a linked archive, a block `ValidateBlock` accepts has
    height 0, or the archive's next height and a link to its last block. -/
theorem validateBlock_link {blk : Block} {opts : List (BlockValidationCfg → BlockValidationCfg)}
    (hl : Linked P bc.genesis bc.dao.blocks) (h : bc.validateBlock P (some blk) opts = none) :
    blk.header.height.toNat = 0 ∨
      blk.header.height.toNat = bc.dao.blocks.length + 1 ∧
        blk.header.prevBlockHash = linkHash P bc.genesis bc.dao.blocks bc.dao.blocks.length := by
  obtain ⟨ctx, hv⟩ : ∃ ctx, bc.validateBlockCtx P blk opts = .ok ctx := by
    simp only [validateBlock] at h
    split at h
    · cases h
    · exact ⟨_, ‹_›⟩
  obtain ⟨tip, -, ht, hc, -, -⟩ := validateBlockCtx_ok hv
  obtain ⟨hh, hp⟩ := checkBlock_eq_none hc
  obtain ⟨htip, hhash⟩ := tipInfo_link hl ht
  have hn := height_toNat hl
  rcases hh with hh | hh
  · exact .inl (by rw [hh]; rfl)
  · rw [hh, htip, UInt64.toNat_add, hn, hp, hhash]
    by_cases hlt : bc.dao.blocks.length + 1 < 2 ^ 64
    · exact .inr ⟨Nat.mod_eq_of_lt hlt, rfl⟩
    · left
      have := hl.length_lt
      rw [show bc.dao.blocks.length + (1 : UInt64).toNat = 2 ^ 64 by
        rw [show (1 : UInt64).toNat = 1 from rfl]; omega]
      rfl

end Blockchain

/-! ## Clients and the archive -/

/-- The chain, with the blocks some `ValidateBlock` call accepted so far (ghost state: every
    client's own accepted blocks are among them). -/
structure Sys where
  bc : Blockchain
  validated : List Block

namespace Sys

variable (P)

/-- The block a call's validation accepts, if it is a validation that returns `nil`. -/
def accepted (bc : Blockchain) : Call → List Block
  | .validateBlock (some blk) opts => if bc.validateBlock P (some blk) opts = none then [blk] else []
  | _ => []

/-- One call of some client. -/
def exec (s : Sys) (c : Call) : Sys := ⟨(s.bc.exec P c).1, accepted P s.bc c ++ s.validated⟩

/-- What a call promises: a client commits only a block some validation accepted, and the
    archive answers `nil` (stores the block) only at the height after its last block. -/
def Allowed (s : Sys) : Call → Prop
  | .commitBlock blk ans =>
    blk ∈ s.validated ∧ (ans = none → blk.header.height.toNat = s.bc.dao.blocks.length + 1)
  | _ => True

/-- A schedule each of whose calls is allowed in the state it runs in. -/
def Admissible : Sys → List Call → Prop
  | _, [] => True
  | s, c :: cs => Allowed s c ∧ Admissible (s.exec P c) cs

/-- A schedule of calls. -/
def run (s : Sys) (calls : List Call) : Sys := calls.foldl (exec P) s

/-- The archive is linked, and every accepted block links below its height. -/
def Inv (s : Sys) : Prop :=
  Linked P s.bc.genesis s.bc.dao.blocks ∧ ∀ b ∈ s.validated, LinksBelow P s.bc.genesis s.bc.dao.blocks b

variable {P}

theorem mem_accepted {bc : Blockchain} {c : Call} {b : Block} (h : b ∈ accepted P bc c) :
    ∃ opts, bc.validateBlock P (some b) opts = none := by
  unfold accepted at h
  split at h
  · split_ifs at h with hv
    · exact ⟨_, List.mem_singleton.mp h ▸ hv⟩
    · cases h
  · cases h

theorem accepted_linksBelow {bc : Blockchain} (hl : Linked P bc.genesis bc.dao.blocks) {c : Call}
    {b : Block} (hb : b ∈ accepted P bc c) : LinksBelow P bc.genesis bc.dao.blocks b := by
  obtain ⟨opts, hv⟩ := mem_accepted hb
  rcases Blockchain.validateBlock_link hl hv with h | ⟨hh, hp⟩
  · exact .inl h
  · exact .inr ⟨hh.le, by rw [hh, Nat.add_sub_cancel, hp]⟩

/-- **One allowed call keeps the invariant.** -/
theorem exec_inv {s : Sys} {c : Call} (hi : Inv P s) (ha : Allowed s c) : Inv P (s.exec P c) := by
  obtain ⟨hg, hd⟩ := Blockchain.exec_cases P s.bc c
  rcases hd with ⟨hd, -⟩ | ⟨blk, ctx, rfl, -, -, hd, -⟩
  · -- the archive is unchanged
    rw [List.append_nil] at hd
    refine ⟨by simpa only [exec, hg, hd] using hi.1, fun b hb => ?_⟩
    simp only [exec, hg, hd, List.mem_append] at hb ⊢
    exact hb.elim (accepted_linksBelow hi.1) (hi.2 b)
  · -- the committed block is stored
    obtain ⟨hmem, hh⟩ := ha
    have hh := hh rfl
    have hp : blk.header.prevBlockHash =
        linkHash P s.bc.genesis s.bc.dao.blocks s.bc.dao.blocks.length := by
      rcases hi.2 blk hmem with h0 | ⟨-, hp⟩
      · omega
      · rwa [hh, Nat.add_sub_cancel] at hp
    refine ⟨by simpa only [exec, hg, hd] using hi.1.append hh hp, fun b hb => ?_⟩
    simp only [exec, hg, hd, accepted, List.nil_append] at hb ⊢
    exact (hi.2 b hb).append _

theorem run_inv {s : Sys} {calls : List Call} (hi : Inv P s) (ha : Admissible P s calls) :
    Inv P (s.run P calls) := by
  induction calls generalizing s with
  | nil => exact hi
  | cons c calls ih => exact ih (exec_inv hi ha.1) ha.2

end Sys

/-- **The committed chain is hash-linked under any interleaving.**  Start from an archive whose
    blocks are linked (the empty archive is), with no validation yet; let clients call
    `ValidateBlock`, `CommitBlock`, `Pause` and the other calls in any order, committing only
    blocks some validation accepted, against an archive that stores a block only at the height
    after its last.  Then every stored block at height `h` has height `h` and links to the
    block stored at `h - 1`, or to the genesis hash when `h = 1`. -/
theorem committed_chain_linked (bc : Blockchain) (calls : List Call)
    (hl : Linked P bc.genesis bc.dao.blocks) (ha : Sys.Admissible P ⟨bc, []⟩ calls) :
    Linked P (Sys.run P ⟨bc, []⟩ calls).bc.genesis (Sys.run P ⟨bc, []⟩ calls).bc.dao.blocks :=
  (Sys.run_inv ⟨hl, fun _ hb => absurd hb (List.not_mem_nil _)⟩ ha).1

namespace Sys

/-- On a chain at genesis, validating the first block and committing it is allowed, and stores
    the block linked to the genesis. -/
theorem committed_chain_linked_first_block :
    Linked Protocol.permissive Blockchain.atGenesis.genesis Blockchain.atGenesis.dao.blocks ∧
      Admissible Protocol.permissive ⟨Blockchain.atGenesis, []⟩
        [.validateBlock (some (Block.atHeight 1 0)) [], .commitBlock (Block.atHeight 1 0) none] ∧
      (run Protocol.permissive ⟨Blockchain.atGenesis, []⟩
        [.validateBlock (some (Block.atHeight 1 0)) [], .commitBlock (Block.atHeight 1 0) none]).bc.dao.blocks =
        [Block.atHeight 1 0] ∧
      Linked Protocol.permissive
        (run Protocol.permissive ⟨Blockchain.atGenesis, []⟩
          [.validateBlock (some (Block.atHeight 1 0)) [], .commitBlock (Block.atHeight 1 0) none]).bc.genesis
        (run Protocol.permissive ⟨Blockchain.atGenesis, []⟩
          [.validateBlock (some (Block.atHeight 1 0)) [], .commitBlock (Block.atHeight 1 0) none]).bc.dao.blocks := by
  have hl : Linked Protocol.permissive Blockchain.atGenesis.genesis Blockchain.atGenesis.dao.blocks :=
    fun i b h => by simp [Blockchain.atGenesis] at h
  have ha : Admissible Protocol.permissive ⟨Blockchain.atGenesis, []⟩
      [.validateBlock (some (Block.atHeight 1 0)) [], .commitBlock (Block.atHeight 1 0) none] := by
    simp only [Admissible, Allowed, and_true]
    decide
  exact ⟨hl, ha, rfl, committed_chain_linked _ _ hl ha⟩

end Sys

end IotexCore
