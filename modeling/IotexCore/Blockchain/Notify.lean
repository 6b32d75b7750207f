/-
  iotex-core formalization — the blocks the archive stores and the blocks subscribers are sent.

  `commitBlock` hands a block to `SendBlockToSubscribers` right after the archive's `PutBlock`
  stored it, and at no other time.  Over any run of public calls the two streams are one:

  * `commitBlock_putBlock`, `exec_cases`: a call stores and sends nothing, or (a commit the
    archive answered `nil`) the committed block;
  * `exec_streams`, `run_streams`: so every call, and every run of calls, stores and sends the
    same blocks;
  * `commit_notify_streams`: the run law, with what each kind of call returns and leaves.
-/
import IotexCore.Blockchain.Chain

namespace IotexCore

namespace Blockchain

variable (P : Protocol)

/-- From `bc` to `bc'` the archive newly stored `new`, in order, and the subscribers were sent
    `new`, in order. -/
def Streams (bc bc' : Blockchain) (new : List Block) : Prop :=
  bc'.dao.blocks = bc.dao.blocks ++ new ∧ bc'.pubSubManager.sent = bc.pubSubManager.sent ++ new

theorem Streams.of_eq {bc bc' : Blockchain} (hd : bc'.dao.blocks = bc.dao.blocks)
    (hs : bc'.pubSubManager.sent = bc.pubSubManager.sent) : Streams bc bc' [] := by
  simp [Streams, hd, hs]

theorem Streams.trans {bc₁ bc₂ bc₃ : Blockchain} {n m : List Block} (h₁ : Streams bc₁ bc₂ n)
    (h₂ : Streams bc₂ bc₃ m) : Streams bc₁ bc₃ (n ++ m) := by
  simp only [Streams, h₂.1, h₁.1, h₂.2, h₁.2, List.append_assoc, and_self]

/-! ## One call -/

/-- A stored block is sent at once; an "already exists" answer returns `nil`; any other
    answer is returned; only the first changes the archive or the subscribers' stream. -/
theorem commitBlock_putBlock {bc : Blockchain} {blk : Block} {ctx : Ctx}
    (hc : bc.commitBlockCtx P blk = .ok ctx) (ans : Option Err) :
    (ans = none → Streams bc (bc.commitBlock P blk ans).1 [blk] ∧ (bc.commitBlock P blk ans).2 = none) ∧
    ∀ e, ans = some e → (bc.commitBlock P blk ans).1 = bc ∧
      (bc.commitBlock P blk ans).2 = if IsAlreadyExist e then none else some e := by
  unfold commitBlock
  rw [hc]
  refine ⟨fun h => ?_, fun e h => ?_⟩ <;> subst h
  · exact ⟨⟨rfl, rfl⟩, rfl⟩
  · dsimp only [BlockDAO.putBlock]
    split_ifs <;> exact ⟨rfl, rfl⟩

/-- What one call can do: keep the genesis, and either store and send nothing, or (a
    `CommitBlock`, not paused, whose context exists and that the archive answered `nil`) store
    the committed block and send it. -/
theorem exec_cases (bc : Blockchain) (c : Call) :
    (bc.exec P c).1.genesis = bc.genesis ∧
    (Streams bc (bc.exec P c).1 [] ∨ ∃ blk ctx, c = .commitBlock blk none ∧ bc.pause = false ∧
      bc.commitBlockCtx P blk = .ok ctx ∧ Streams bc (bc.exec P c).1 [blk]) := by
  cases c with
  | commitBlock blk ans =>
    dsimp only [exec]
    unfold CommitBlock
    split_ifs with hp
    · exact ⟨rfl, .inl (Streams.of_eq rfl rfl)⟩
    rcases hc : bc.commitBlockCtx P blk with err | ctx
    · rw [commitBlock, hc]
      exact ⟨rfl, .inl (Streams.of_eq rfl rfl)⟩
    have h := commitBlock_putBlock P hc ans
    cases ans with
    | none =>
      exact ⟨by rw [commitBlock, hc]; rfl, .inr ⟨blk, ctx, rfl, by simpa using hp, hc, (h.1 rfl).1⟩⟩
    | some e =>
      rw [(h.2 e rfl).1]
      exact ⟨rfl, .inl (Streams.of_eq rfl rfl)⟩
  | addSubscriber s => cases s <;> exact ⟨rfl, .inl (Streams.of_eq rfl rfl)⟩
  | _ => exact ⟨rfl, .inl (Streams.of_eq rfl rfl)⟩

theorem exec_streams (bc : Blockchain) (c : Call) : ∃ new, Streams bc (bc.exec P c).1 new :=
  (exec_cases P bc c).2.elim (⟨[], ·⟩) fun ⟨blk, _, _, _, _, h⟩ => ⟨[blk], h⟩

/-! ## Runs -/

theorem run_streams (bc : Blockchain) (calls : List Call) :
    ∃ new, Streams bc (bc.run P calls) new := by
  induction calls generalizing bc with
  | nil => exact ⟨[], Streams.of_eq rfl rfl⟩
  | cons c calls ih =>
    obtain ⟨n, hn⟩ := exec_streams P bc c
    obtain ⟨m, hm⟩ := ih (bc.exec P c).1
    exact ⟨n ++ m, hn.trans hm⟩

/-- **Commit and notification streams coincide.**  Over any run of calls, the blocks sent to
    the subscribers are the blocks the archive newly stored, in the same order.  A commit while
    paused returns `ErrPaused` and changes nothing; when the archive answers "already exists"
    a commit returns `nil`, and on any other error returns it, in both cases storing and
    sending nothing; a commit the archive stores sends exactly that block; validating and
    minting change nothing. -/
theorem commit_notify_streams (bc : Blockchain) :
    (∀ calls, ∃ new, (bc.run P calls).dao.blocks = bc.dao.blocks ++ new ∧
      (bc.run P calls).pubSubManager.sent = bc.pubSubManager.sent ++ new) ∧
    (bc.pause = true → ∀ blk ans, (bc.CommitBlock P blk ans).1 = bc ∧
      ∃ e, (bc.CommitBlock P blk ans).2 = some e ∧ e.cause = .paused) ∧
    (bc.pause = false → ∀ blk ctx, bc.commitBlockCtx P blk = .ok ctx →
      ((bc.CommitBlock P blk none).1.dao.blocks = bc.dao.blocks ++ [blk] ∧
        (bc.CommitBlock P blk none).1.pubSubManager.sent = bc.pubSubManager.sent ++ [blk] ∧
        (bc.CommitBlock P blk none).2 = none) ∧
      ∀ e, (bc.CommitBlock P blk (some e)).1 = bc ∧
        (bc.CommitBlock P blk (some e)).2 = if IsAlreadyExist e then none else some e) ∧
    (∀ blk opts, (bc.exec P (.validateBlock blk opts)).1 = bc) ∧
    (∀ ts opts, (bc.exec P (.mintNewBlock ts opts)).1 = bc) := by
  refine ⟨run_streams P bc, fun hp blk ans => ?_, fun hp blk ctx hc => ?_, fun _ _ => rfl,
    fun _ _ => rfl⟩
  · rw [CommitBlock, if_pos hp]
    exact ⟨rfl, _, rfl, rfl⟩
  · have h := commitBlock_putBlock P hc
    obtain ⟨⟨hd, hs⟩, hr⟩ := (h none).1 rfl
    simp only [CommitBlock, hp]
    exact ⟨⟨hd, hs, hr⟩, fun e => (h (some e)).2 e rfl⟩

end Blockchain

end IotexCore
