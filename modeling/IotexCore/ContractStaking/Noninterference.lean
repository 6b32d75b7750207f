/-
  iotex-core formalization — what `PutBlock` reads of a block.

  `PutBlock` reads a block's height and, through its two loops, the logs the staking contract
  emitted in receipts of success status; nothing else of the block reaches the cache or the
  store.

  * `relevantLogs`, `handleReceipts_eq`: the loops hand the handler exactly the relevant logs,
    in order;
  * `putBlock_congr`: two blocks of one height whose relevant logs agree, or that lie below the
    deploy height, make `PutBlock` do the same;
  * `run_noninterference`: two runs of deliveries that agree on heights and, from the deploy
    height on, on relevant logs return the same results and end in the same indexer.

  `PutBlock` is translated from blockindex/contractstaking/indexer.go:196-227, under src/; the
  handler it feeds is modelled from the spec (§4.3) as `StakingOps`.
-/
import IotexCore.ContractStaking.Consistency

namespace IotexCore.ContractStaking

/-- The logs `PutBlock` hands to the handler: those `contract` emitted, in receipts of success
    status, in order. -/
def relevantLogs (contract : String) (receipts : List Receipt) : List Log :=
  (receipts.filter fun r => r.status = receiptStatusSuccess).flatMap fun r =>
    r.logs.filter fun log => log.address = contract

namespace Indexer

variable {C H D : Type} (ops : StakingOps C H D)

/-! ## The loops -/

theorem handleLogs_eq (contract : String) (height : UInt64) :
    ∀ (handler : H) (logs : List Log), handleLogs ops contract height handler logs =
      (logs.filter fun log => log.address = contract).foldlM
        (fun h log => ops.handleEvent h height log) handler
  | _, [] => rfl
  | handler, log :: logs => by
    by_cases h : log.address = contract
    · rw [List.filter_cons_of_pos (by simpa using h), List.foldlM_cons]
      simp only [handleLogs, h, ne_eq, not_true_eq_false, if_false]
      cases ops.handleEvent handler height log with
      | error err => rfl
      | ok handler => exact handleLogs_eq contract height handler logs
    · rw [List.filter_cons_of_neg (by simpa using h)]
      simp only [handleLogs, ne_eq, h, not_false_eq_true, if_true]
      exact handleLogs_eq contract height handler logs

/-- The two loops of `PutBlock` fold the handler over the relevant logs. -/
theorem handleReceipts_eq (contract : String) (height : UInt64) :
    ∀ (handler : H) (receipts : List Receipt), handleReceipts ops contract height handler receipts =
      (relevantLogs contract receipts).foldlM (fun h log => ops.handleEvent h height log) handler
  | _, [] => rfl
  | handler, r :: rs => by
    by_cases h : r.status = receiptStatusSuccess
    · rw [relevantLogs, List.filter_cons_of_pos (by simpa using h), List.flatMap_cons,
        List.foldlM_append, ← relevantLogs, ← handleLogs_eq]
      simp only [handleReceipts, h, ne_eq, not_true_eq_false, if_false]
      cases handleLogs ops contract height handler r.logs with
      | error err => rfl
      | ok handler => exact handleReceipts_eq contract height handler rs
    · rw [relevantLogs, List.filter_cons_of_neg (by simpa using h), ← relevantLogs]
      simp only [handleReceipts, ne_eq, h, not_false_eq_true, if_true]
      exact handleReceipts_eq contract height handler rs

/-! ## One call -/

variable {ops}

/-- `PutBlock` reads of a block its height and, when the block is not below the deploy height,
    its relevant logs. -/
theorem putBlock_congr (s : Indexer C) (f : Faults C) {blk blk' : Block}
    (hh : blk.header.height = blk'.header.height)
    (hl : s.config.contractDeployHeight ≤ blk.header.height →
      relevantLogs s.config.contractAddress blk.receipts =
        relevantLogs s.config.contractAddress blk'.receipts) :
    s.putBlock ops blk f = s.putBlock ops blk' f := by
  have hd : s.config.contractDeployHeight ≤ s.expectHeight ops :=
    UInt64.le_iff_toNat_le.mpr (expectHeight_bounds s).1
  unfold putBlock
  dsimp only
  rw [← hh]
  split_ifs with h₁ h₂
  · rfl
  · rfl
  · rw [handleReceipts_eq, handleReceipts_eq, hl (UInt64.le_trans hd (UInt64.not_lt.mp h₁))]

/-! ## Runs -/

/-- Two deliveries agree on what `PutBlock` can read under configuration `cfg`: the same
    answers of the collaborators, the same height, and, from the deploy height on, the same
    relevant logs. -/
def Agree (cfg : Config) (c c' : Block × Faults C) : Prop :=
  c.2 = c'.2 ∧ c.1.header.height = c'.1.header.height ∧
    (cfg.contractDeployHeight ≤ c.1.header.height →
      relevantLogs cfg.contractAddress c.1.receipts = relevantLogs cfg.contractAddress c'.1.receipts)

theorem run_congr {cfg : Config} {calls calls' : List (Block × Faults C)}
    (h : List.Forall₂ (Agree cfg) calls calls') :
    ∀ s : Indexer C, s.config = cfg → s.run ops calls = s.run ops calls' := by
  induction h with
  | nil => exact fun _ _ => rfl
  | @cons c c' calls calls' hc _ ih =>
    intro s hs
    obtain ⟨blk, f⟩ := c
    obtain ⟨blk', f'⟩ := c'
    obtain ⟨rfl, hh, hl⟩ := hc
    have hstep : s.putBlock ops blk f = s.putBlock ops blk' f := putBlock_congr s f hh (hs ▸ hl)
    simp only [run_cons, hstep, ih _ ((putBlock_config s blk' f).trans hs)]

/-- **Irrelevant input never influences the index.**  Two runs of `PutBlock` from one indexer,
    whose deliveries agree on every block's height, on the collaborators' answers, and, for
    every block from the deploy height on, on the logs the contract emitted in successful
    receipts, return the same results and end with the same cache and the same store. -/
theorem run_noninterference (s : Indexer C) (calls calls' : List (Block × Faults C))
    (h : List.Forall₂ (Agree s.config) calls calls') : s.run ops calls = s.run ops calls' :=
  run_congr h s rfl

/-- A block of the deploy height, delivered once with a failed receipt of the contract's log
    and once with another contract's log instead, and a block below the deploy height with
    different logs: the fresh indexer ends the same. -/
theorem run_noninterference_fresh :
    List.Forall₂ (@Agree UInt64 (Indexer.fresh 3).config)
      [({ Block.atHeight 2 0 with receipts := [⟨1, [⟨"io1staking", [], [7]⟩]⟩] }, Faults.ok),
        ({ Block.atHeight 3 0 with receipts := [⟨1, [⟨"io1staking", [], [1]⟩]⟩,
          ⟨0, [⟨"io1staking", [], [9]⟩]⟩] }, Faults.ok)]
      [(Block.atHeight 2 0, Faults.ok),
        ({ Block.atHeight 3 0 with receipts := [⟨1, [⟨"io1other", [], [2]⟩,
          ⟨"io1staking", [], [1]⟩]⟩] }, Faults.ok)] ∧
    (Indexer.fresh 3).run heightCache
      [({ Block.atHeight 2 0 with receipts := [⟨1, [⟨"io1staking", [], [7]⟩]⟩] }, Faults.ok),
        ({ Block.atHeight 3 0 with receipts := [⟨1, [⟨"io1staking", [], [1]⟩]⟩,
          ⟨0, [⟨"io1staking", [], [9]⟩]⟩] }, Faults.ok)] =
    (Indexer.fresh 3).run heightCache
      [(Block.atHeight 2 0, Faults.ok),
        ({ Block.atHeight 3 0 with receipts := [⟨1, [⟨"io1other", [], [2]⟩,
          ⟨"io1staking", [], [1]⟩]⟩] }, Faults.ok)] := by
  refine ⟨?_, run_noninterference _ _ _ ?_⟩ <;>
    exact .cons ⟨rfl, rfl, fun h => absurd h (by decide)⟩ (.cons ⟨rfl, rfl, fun _ => by decide⟩ .nil)

end Indexer

end IotexCore.ContractStaking
