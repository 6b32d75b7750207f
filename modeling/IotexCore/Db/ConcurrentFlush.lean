/-
  iotex-core formalization — one `Flush` racing writers on the same buffered store.

  `Flush` takes three atomic steps: it translates the buffer into a batch (under the
  buffer's lock), hands the batch to the store (holding no lock), and then clears the buffer
  (`Lock`, `ClearAndUnlock`).  Every buffer method of a writer is one atomic step between them.

  * `run_flush_alone`: with no writer in between, the three steps are `Flusher.flush`;
  * `flush_drops_racing_writes`: whatever the writers do, the store receives the buffer as it
    was at the first step, and the buffer is empty after the last, so the writes landing
    between the two are in neither.
-/
import IotexCore.Db.KVStoreWithBuffer

namespace IotexCore

/-- Where one `Flush` call is: not started; holding the batch it translated; past the store's
    write of that batch; returned, with the batch it handed to the store. -/
inductive FlushPc where
  | start
  | translated (batch : List WriteInfo)
  | written (batch : List WriteInfo)
  | returned (batch : List WriteInfo) (err : Option Err)
  deriving DecidableEq

/-- A `Flush` in progress on a flusher shared with writers. -/
structure Racing where
  f : Flusher
  pc : FlushPc

/-- A step of a schedule: the next atomic step of `Flush`, or one call of a writer. -/
inductive Sched where
  | flush
  | writer (op : Op)

namespace Racing

/-- One step, the store answering `ans` to `Flush`'s batch write. -/
def step (ans : Option Err) (r : Racing) : Sched → Racing
  | .writer op => ⟨⟨r.f.kvb.exec op, r.f.flushTranslate⟩, r.pc⟩
  | .flush =>
    match r.pc with
    | .start => ⟨r.f, .translated (r.f.kvb.buffer.translate r.f.flushTranslate)⟩
    | .translated b =>
      match r.f.kvb.store.writeBatch b ans with
      | (_, some e) => ⟨r.f, .returned b (some e)⟩
      | (s, none) => ⟨⟨⟨s, r.f.kvb.buffer⟩, r.f.flushTranslate⟩, .written b⟩
    | .written b => ⟨⟨⟨r.f.kvb.store, r.f.kvb.buffer.clear⟩, r.f.flushTranslate⟩, .returned b none⟩
    | .returned .. => r

/-- A schedule. -/
def run (ans : Option Err) (r : Racing) (sch : List Sched) : Racing := sch.foldl (step ans) r

@[simp] theorem run_nil (ans : Option Err) (r : Racing) : r.run ans [] = r := rfl

@[simp] theorem run_append (ans : Option Err) (r : Racing) (s t : List Sched) :
    r.run ans (s ++ t) = (r.run ans s).run ans t := List.foldl_append ..

@[simp] theorem run_cons (ans : Option Err) (r : Racing) (x : Sched) (s : List Sched) :
    r.run ans (x :: s) = (r.step ans x).run ans s := rfl

/-- Writers alone run their calls on the buffered store and leave `Flush` where it is. -/
theorem run_writers (ans : Option Err) (r : Racing) (ops : List Op) :
    r.run ans (ops.map .writer) = ⟨⟨r.f.kvb.run ops, r.f.flushTranslate⟩, r.pc⟩ := by
  induction ops generalizing r with
  | nil => rfl
  | cons op ops ih => exact ih _

end Racing

/-- **The atomic steps are `Flush`.**  With no writer in between, the three steps of `Flush`
    end where `Flusher.flush` does, and return its error. -/
theorem run_flush_alone (f : Flusher) (ans : Option Err) :
    ((⟨f, .start⟩ : Racing).run ans [.flush, .flush, .flush]).f = (f.flush ans).1 ∧
      ∃ b, ((⟨f, .start⟩ : Racing).run ans [.flush, .flush, .flush]).pc =
        .returned b (f.flush ans).2 := by
  cases ans <;> exact ⟨rfl, _, rfl⟩

/-- **Writes racing `Flush` are lost.**  For any writers' calls `pre` before `Flush` starts,
    and `mid₁`, `mid₂` between its steps, a successful `Flush` hands the store the buffer as
    `pre` left it and returns with an empty buffer: nothing of `mid₁` or `mid₂` reaches the
    store or stays buffered. -/
theorem flush_drops_racing_writes (f : Flusher) (pre mid₁ mid₂ : List Op) :
    let r := (⟨f, .start⟩ : Racing).run none (pre.map .writer ++ [.flush] ++ mid₁.map .writer ++
      [.flush] ++ mid₂.map .writer ++ [.flush])
    r.pc = .returned ((f.kvb.run pre).buffer.translate f.flushTranslate) none ∧
      r.f.kvb.buffer.writeQueue = [] := by
  simp only [Racing.run_append, Racing.run_writers, Racing.run_cons, Racing.run_nil]
  exact ⟨rfl, rfl⟩

/-- **A racing `Put` is lost.**  On an empty buffer, a `Put` landing after `Flush` translated
    the buffer is not in the batch the store receives, and not in the buffer `Flush` leaves. -/
theorem racing_put_lost (s : Store) :
    let r := (⟨⟨⟨s, .empty⟩, none⟩, .start⟩ : Racing).run none
      [.flush, .writer (.put "n" [1] [2]), .flush, .flush]
    r.pc = .returned [] none ∧ r.f.kvb.buffer.writeQueue = [] :=
  ⟨rfl, rfl⟩

end IotexCore
