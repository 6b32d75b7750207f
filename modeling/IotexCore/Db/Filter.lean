/-
  iotex-core formalization — `kvStoreWithBuffer.Filter`, the range query that merges the
  store's answer with the buffer.

  * `FilterResult m ns cond minKey maxKey fk fv`: the aligned lists `fk`, `fv` hold, with no
    key twice, exactly the pairs of `m` in `ns` and in range whose value satisfies `cond`.  The
    underlying store's `Filter` is assumed to answer so for its own contents;
  * `filter_spec`: the loop over the buffer keeps the invariant that the lists are the
    filter of the store overlaid with the buffered writes seen so far *that satisfy `cond`*:
    a write whose key and value fail `cond` is skipped whole, so it neither overrides nor
    removes the store's pair for its key.
-/
import IotexCore.Db.KVStoreWithBuffer
import Mathlib.Data.List.Nodup

namespace IotexCore

/-! ## Keys in range -/

/-- `bytes.Compare`: lexicographic, a proper prefix first. -/
def bytesCompare : Bytes → Bytes → Int
  | [], [] => 0
  | [], _ :: _ => -1
  | _ :: _, [] => 1
  | a :: as, b :: bs => if a < b then -1 else if b < a then 1 else bytesCompare as bs

/-- The range test of `Filter`: an empty bound is not checked. -/
def InRange (minKey maxKey k : Bytes) : Prop :=
  ¬ (minKey.length > 0 ∧ bytesCompare k minKey = -1) ∧
    ¬ (maxKey.length > 0 ∧ bytesCompare k maxKey = 1)

instance (minKey maxKey k : Bytes) : Decidable (InRange minKey maxKey k) :=
  inferInstanceAs (Decidable (_ ∧ _))

/-- Exactly the pairs of `m` in namespace `ns`, with key in range and value accepted by
    `cond`, as two aligned lists with no key twice. -/
def FilterResult (m : Store) (ns : String) (cond : Bytes → Bytes → Bool) (minKey maxKey : Bytes)
    (fk fv : List Bytes) : Prop :=
  fk.length = fv.length ∧ fk.Nodup ∧
    ∀ k v, (k, v) ∈ fk.zip fv ↔ InRange minKey maxKey k ∧ m ns k = some v ∧ cond k v = true

/-! ## The loop -/

/-- The inner loop `for i := range fk`: the first pair with key `k` is cut from both lists
    (the lists are aligned, so the cut is at the same index in both). -/
def removeKey (k : Bytes) : List Bytes → List Bytes → List Bytes × List Bytes
  | k' :: ks, v' :: vs =>
    if k' = k then (ks, vs) else ((removeKey k ks vs).1.cons k', (removeKey k ks vs).2.cons v')
  | ks, vs => (ks, vs)

/-- One buffered write in the loop of `Filter`: skipped when it is in another namespace, out of
    range, or rejected by `cond`; otherwise a put replaces the pair for its key and a delete
    removes it. -/
def filterEntry (ns : String) (cond : Bytes → Bytes → Bool) (minKey maxKey : Bytes)
    (acc : List Bytes × List Bytes) (e : WriteInfo) : List Bytes × List Bytes :=
  if e.ns ≠ ns then acc
  else if minKey.length > 0 ∧ bytesCompare e.key minKey = -1 then acc
  else if maxKey.length > 0 ∧ bytesCompare e.key maxKey = 1 then acc
  else if cond e.key e.value then
    match e.writeType with
    | .put => ((removeKey e.key acc.1 acc.2).1 ++ [e.key], (removeKey e.key acc.1 acc.2).2 ++ [e.value])
    | .delete => removeKey e.key acc.1 acc.2
  else acc

/-- `Filter(ns, cond, minKey, maxKey)`, the store having answered `fromStore` to the same
    query: its error is returned (Go returns the store's lists along with it; they are dropped
    here); otherwise each buffered write `Entry(i)`, `i < Size()`, is merged in order. -/
def KVStoreWithBuffer.filter (kvb : KVStoreWithBuffer) (ns : String) (cond : Bytes → Bytes → Bool)
    (minKey maxKey : Bytes) (fromStore : Except Err (List Bytes × List Bytes)) :
    Except Err (List Bytes × List Bytes) := do
  let acc ← fromStore
  (List.range kvb.buffer.size).foldlM (fun acc i => do
    let e ← kvb.buffer.entry i
    pure (filterEntry ns cond minKey maxKey acc e)) acc

/-- The loop over indices is the loop over the queue: `Entry(i)` never fails below
    `Size()`. -/
theorem foldlM_entry (b : CachedBatch) (f : List Bytes × List Bytes → WriteInfo → List Bytes × List Bytes)
    (init : List Bytes × List Bytes) :
    ∀ n, n ≤ b.size → (List.range n).foldlM (fun acc i => do
      let e ← b.entry i
      pure (f acc e)) init = .ok ((b.writeQueue.take n).foldl f init)
  | 0, _ => rfl
  | n + 1, hn => by
    have hn' : n < b.size := by omega
    rw [List.range_succ, List.foldlM_append, foldlM_entry b f init n (by omega),
      List.take_succ, List.getElem?_eq_getElem hn', Option.toList_some, List.foldl_append]
    simp only [List.foldlM_cons, List.foldlM_nil, CachedBatch.entry_of_lt b hn']
    rfl

theorem filter_ok (kvb : KVStoreWithBuffer) (ns : String) (cond : Bytes → Bytes → Bool)
    (minKey maxKey : Bytes) (fk fv : List Bytes) :
    kvb.filter ns cond minKey maxKey (.ok (fk, fv)) =
      .ok (kvb.buffer.writeQueue.foldl (filterEntry ns cond minKey maxKey) (fk, fv)) := by
  show (List.range kvb.buffer.size).foldlM _ (fk, fv) = _
  rw [foldlM_entry _ _ _ _ le_rfl, CachedBatch.size, List.take_length]

/-! ## Removing a key -/

section removeKey
variable (k : Bytes)

theorem removeKey_length : ∀ {fk fv : List Bytes}, fk.length = fv.length →
    (removeKey k fk fv).1.length = (removeKey k fk fv).2.length
  | [], [], _ => rfl
  | k' :: ks, v' :: vs, h => by
    unfold removeKey; split
    · simpa using h
    · simpa using removeKey_length (by simpa using h)

theorem removeKey_sublist : ∀ (fk fv : List Bytes), (removeKey k fk fv).1.Sublist fk
  | [], _ => by simp [removeKey]
  | _ :: _, [] => by simp [removeKey]
  | k' :: ks, v' :: vs => by
    unfold removeKey; split
    · exact List.sublist_cons_self _ _
    · exact (removeKey_sublist ks vs).cons₂ _

theorem mem_zip_removeKey : ∀ {fk fv : List Bytes}, fk.Nodup → ∀ a b,
    (a, b) ∈ (removeKey k fk fv).1.zip (removeKey k fk fv).2 ↔ a ≠ k ∧ (a, b) ∈ fk.zip fv
  | [], _, _, a, b => by simp [removeKey]
  | _ :: _, [], _, a, b => by simp [removeKey]
  | k' :: ks, v' :: vs, hnd, a, b => by
    obtain ⟨hk', hks⟩ := List.nodup_cons.1 hnd
    unfold removeKey; split
    · next h =>
      subst h
      simp only [List.zip_cons_cons, List.mem_cons, Prod.mk.injEq]
      constructor
      · intro hm; exact ⟨fun ha => hk' (ha ▸ List.of_mem_zip hm).1, Or.inr hm⟩
      · rintro ⟨ha, ⟨rfl, -⟩ | hm⟩
        · exact absurd rfl ha
        · exact hm
    · next h =>
      simp only [List.zip_cons_cons, List.mem_cons, Prod.mk.injEq, mem_zip_removeKey hks]
      constructor
      · rintro (⟨rfl, rfl⟩ | ⟨ha, hm⟩)
        · exact ⟨h, Or.inl ⟨rfl, rfl⟩⟩
        · exact ⟨ha, Or.inr hm⟩
      · rintro ⟨ha, ⟨rfl, rfl⟩ | hm⟩
        · exact Or.inl ⟨rfl, rfl⟩
        · exact Or.inr ⟨ha, hm⟩

theorem not_mem_removeKey : ∀ {fk fv : List Bytes}, fk.length = fv.length → fk.Nodup →
    k ∉ (removeKey k fk fv).1
  | [], _, _, _ => by simp [removeKey]
  | k' :: ks, v' :: vs, hl, hnd => by
    obtain ⟨hk', hks⟩ := List.nodup_cons.1 hnd
    unfold removeKey; split
    · next h => exact h ▸ hk'
    · next h =>
      simp only [List.mem_cons, not_or]
      exact ⟨fun e => h e.symm, not_mem_removeKey (by simpa using hl) hks⟩

end removeKey

/-! ## The invariant of the loop -/

section invariant
variable {m : Store} {ns : String} {cond : Bytes → Bytes → Bool} {minKey maxKey : Bytes}

/-- The query's answer is unchanged by a write to another namespace or out of range. -/
theorem FilterResult.of_frame {m' : Store} {fk fv : List Bytes}
    (h : FilterResult m ns cond minKey maxKey fk fv)
    (hm : ∀ k, InRange minKey maxKey k → m' ns k = m ns k) :
    FilterResult m' ns cond minKey maxKey fk fv :=
  ⟨h.1, h.2.1, fun k v => by
    rw [h.2.2]
    exact ⟨fun ⟨hr, hv, hc⟩ => ⟨hr, (hm k hr).trans hv, hc⟩,
      fun ⟨hr, hv, hc⟩ => ⟨hr, (hm k hr).symm.trans hv, hc⟩⟩⟩

/-- Removing a key from the answer is the answer of the map without it. -/
theorem FilterResult.delete {fk fv : List Bytes} (h : FilterResult m ns cond minKey maxKey fk fv)
    (k : Bytes) :
    FilterResult (m.set ns k none) ns cond minKey maxKey (removeKey k fk fv).1 (removeKey k fk fv).2 :=
  ⟨removeKey_length k h.1, h.2.1.sublist (removeKey_sublist k fk fv), fun a b => by
    rw [mem_zip_removeKey k h.2.1, h.2.2]
    by_cases ha : a = k <;> simp [Store.set, ha]⟩

/-- Appending a pair for a key just removed is the answer of the map with it. -/
theorem FilterResult.put {fk fv : List Bytes} (h : FilterResult m ns cond minKey maxKey fk fv)
    {k v : Bytes} (hr : InRange minKey maxKey k) (hc : cond k v = true) :
    FilterResult (m.set ns k (some v)) ns cond minKey maxKey
      ((removeKey k fk fv).1 ++ [k]) ((removeKey k fk fv).2 ++ [v]) := by
  have h' := h.delete k
  refine ⟨by simp [h'.1], List.nodup_append.2 ⟨h'.2.1, List.nodup_singleton k, ?_⟩, fun a b => ?_⟩
  · simpa using not_mem_removeKey k h.1 h.2.1
  · rw [List.zip_append h'.1, List.mem_append, h'.2.2]
    by_cases ha : a = k
    · subst ha
      simp [Store.set]
      exact ⟨fun hb => ⟨hr, hb.symm, hb ▸ hc⟩, fun h => h.2.1.symm⟩
    · simp [Store.set, ha]

/-- The map the loop has merged: the store with the writes that satisfy `cond`. -/
def condOverlay (s : Store) (cond : Bytes → Bytes → Bool) (q : List WriteInfo) : Store :=
  s.applyBatch (q.filter fun e => cond e.key e.value)

theorem condOverlay_concat (s : Store) (q : List WriteInfo) (e : WriteInfo) :
    condOverlay s cond (q ++ [e]) =
      if cond e.key e.value then e.apply (condOverlay s cond q) else condOverlay s cond q := by
  by_cases h : cond e.key e.value <;> simp [condOverlay, List.filter_append, h]

/-- **One write of the loop.**  Merging a buffered write keeps the lists the answer over the
    store with the `cond`-accepted writes so far. -/
theorem FilterResult.filterEntry {s : Store} {q : List WriteInfo} {acc : List Bytes × List Bytes}
    (h : FilterResult (condOverlay s cond q) ns cond minKey maxKey acc.1 acc.2) (e : WriteInfo) :
    FilterResult (condOverlay s cond (q ++ [e])) ns cond minKey maxKey
      (filterEntry ns cond minKey maxKey acc e).1 (filterEntry ns cond minKey maxKey acc e).2 := by
  rw [condOverlay_concat]
  have frame : ¬ (e.ns = ns ∧ InRange minKey maxKey e.key) →
      ∀ k, InRange minKey maxKey k → e.apply (condOverlay s cond q) ns k = condOverlay s cond q ns k :=
    fun hn k hk => WriteInfo.apply_of_not_hits (fun ⟨h1, h2⟩ => hn ⟨h1, h2 ▸ hk⟩) _
  unfold IotexCore.filterEntry
  by_cases hns : e.ns = ns
  · by_cases hr : InRange minKey maxKey e.key
    · have hr' := hr
      simp only [InRange] at hr'
      simp only [hns, ne_eq, not_true_eq_false, if_false, hr'.1, hr'.2]
      by_cases hc : cond e.key e.value
      · simp only [hc, if_true]
        rcases e with ⟨_ | _, ens, k, v⟩ <;> simp only at hns hr hc ⊢ <;> subst hns
        · exact h.put hr hc
        · exact h.delete k
      · simpa [hc] using h
    · split_ifs <;> first
        | exact h.of_frame (frame fun hh => hr hh.2)
        | exact h
        | exact absurd ⟨by assumption, by assumption⟩ hr
  · split_ifs <;> first | exact h.of_frame (frame fun hh => hns hh.1) | exact h

/-- **What `Filter` computes.**  If the store answers its own query truthfully, the buffered
    `Filter` answers the same query over the store overlaid with the buffered writes whose key
    and value satisfy `cond`. -/
theorem filter_spec (kvb : KVStoreWithBuffer) (fk fv : List Bytes)
    (hs : FilterResult kvb.store ns cond minKey maxKey fk fv) :
    ∃ rk rv, kvb.filter ns cond minKey maxKey (.ok (fk, fv)) = .ok (rk, rv) ∧
      FilterResult (condOverlay kvb.store cond kvb.buffer.writeQueue) ns cond minKey maxKey rk rv := by
  refine ⟨_, _, filter_ok .., ?_⟩
  induction kvb.buffer.writeQueue using List.reverseRecOn with
  | nil => exact hs
  | append_singleton q e ih => rw [List.foldl_append]; exact ih.filterEntry e

/-- Where every buffered write to a key passes `cond`, the `cond`-filtered overlay is the
    overlay. -/
theorem condOverlay_eq (s : Store) (q : List WriteInfo) (k : Bytes)
    (hc : ∀ e ∈ q, e.Hits ns k → cond e.key e.value = true) :
    condOverlay s cond q ns k = s.applyBatch q ns k := by
  induction q using List.reverseRecOn with
  | nil => rfl
  | append_singleton q e ih =>
    have ih' := ih fun e' he' => hc e' (List.mem_append_left _ he')
    rw [condOverlay_concat, Store.applyBatch_append, Store.applyBatch_cons, Store.applyBatch_nil]
    by_cases he : e.Hits ns k
    · rw [if_pos (hc e (by simp) he), WriteInfo.apply_of_hits he, WriteInfo.apply_of_hits he]
    · rw [WriteInfo.apply_of_not_hits he, ← ih']
      split_ifs
      · exact WriteInfo.apply_of_not_hits he _
      · rfl

/-- **`Filter` agrees with `Get` when `cond` accepts the buffer.**  If every buffered write in
    namespace `ns` and in range satisfies `cond`, `Filter` returns exactly the pairs `(k, v)` in
    range such that `k` holds `v` in the overlaid map (what `Get` reads) and `cond k v`. -/
theorem filter_eq_overlay (kvb : KVStoreWithBuffer) (fk fv : List Bytes)
    (hs : FilterResult kvb.store ns cond minKey maxKey fk fv)
    (hc : ∀ e ∈ kvb.buffer.writeQueue, e.ns = ns → InRange minKey maxKey e.key →
      cond e.key e.value = true) :
    ∃ rk rv, kvb.filter ns cond minKey maxKey (.ok (fk, fv)) = .ok (rk, rv) ∧
      FilterResult (abs kvb).map ns cond minKey maxKey rk rv := by
  obtain ⟨rk, rv, h, hr⟩ := filter_spec kvb fk fv hs
  exact ⟨rk, rv, h, hr.of_frame fun k hk => (condOverlay_eq _ _ k fun e he hh =>
    hc e he hh.1 (hh.2 ▸ hk)).symm⟩

end invariant

/-- The store of the failing input: `k1 = [1]` holds `v1 = [1]` in namespace `"n"`. -/
def staleStore : Store := fun ns k => if ns = "n" ∧ k = [1] then some [1] else none

/-- The store answers the query for values equal to `v1` truthfully: just `(k1, v1)`. -/
theorem staleStore_filter :
    FilterResult staleStore "n" (fun _ v => v == [1]) [] [] [[1]] [[1]] := by
  refine ⟨rfl, by simp, fun k v => ?_⟩
  by_cases hk : k = [1]
  · subst hk
    simpa [staleStore, InRange] using Eq.symm
  · simp [staleStore, hk]

/-- A buffered `Put` of a value the predicate accepts: `Filter` answers the overlaid store. -/
theorem filter_eq_overlay_staleStore :
    FilterResult staleStore "n" (fun _ v => v == [1]) [] [] [[1]] [[1]] ∧
      (∀ e ∈ (CachedBatch.empty.put "n" [2] [1]).writeQueue, e.ns = "n" → InRange [] [] e.key →
        (e.value == [1]) = true) ∧
      ∃ rk rv, (⟨staleStore, CachedBatch.empty.put "n" [2] [1]⟩ : KVStoreWithBuffer).filter "n"
          (fun _ v => v == [1]) [] [] (.ok ([[1]], [[1]])) = .ok (rk, rv) ∧
        FilterResult (abs ⟨staleStore, CachedBatch.empty.put "n" [2] [1]⟩).map "n"
          (fun _ v => v == [1]) [] [] rk rv :=
  ⟨staleStore_filter, by decide, filter_eq_overlay _ _ _ staleStore_filter (by decide)⟩

/-- **A stale pair survives `Filter`.**  After `Put(n, k1, v2)` with `v2 = [2]`, `Get` reads `v2`,
    which the predicate rejects, yet `Filter` still reports the store's old pair `(k1, v1)`. -/
theorem filter_reports_stale_pair :
    (⟨staleStore, CachedBatch.empty.put "n" [1] [2]⟩ : KVStoreWithBuffer).filter "n"
        (fun _ v => v == [1]) [] [] (.ok ([[1]], [[1]])) = .ok ([[1]], [[1]]) ∧
      (⟨staleStore, CachedBatch.empty.put "n" [1] [2]⟩ : KVStoreWithBuffer).get "n" [1] = .ok [2] := by
  constructor <;> rfl

end IotexCore
