/-
  iotex-core formalization — `Productivity`, the number of blocks each delegate produced over a
  range of heights.

  * `Stats` is the `map[string]uint64` it returns, its keys kept distinct; `Stats.incr` is
    `stats[producer]++`, a read that defaults to 0 and a write;
  * `productivityLoop` is the loop `for i := startHeight; i <= endHeight; i++` with a fuel
    bound: at `endHeight = 2^64 - 1` every `i` passes the test and the counter wraps;
  * `heights`, `Stats.tally`: what `Productivity` is for — read the headers of the heights in
    order, stopping at the first error, and count the producers they name;
  * `productivityLoop_eq`: with enough fuel the loop is that, from any height and any counts
    (its invariant: `stats` counts the heights from `startHeight` below `i`);
  * `productivity_counts`: for `endHeight < 2^64 - 1` `Productivity` returns, with a header at
    every height, each producer's count, and otherwise the error of the lowest missing height.
-/
import Mathlib.Data.List.Nodup
import IotexCore.Blockchain.Chain

namespace IotexCore

/-! ## The counts map -/

/-- `m[key] = value` on a map's entries: the key's entry takes the value; a key without one
    gets a new entry at the end. -/
def setEntries (key : String) (value : UInt64) : List (String × UInt64) → List (String × UInt64)
  | [] => [(key, value)]
  | (k, v) :: rest => if k = key then (key, value) :: rest else (k, v) :: setEntries key value rest

/-- The sum of the counts of a map's entries. -/
def sumCounts : List (String × UInt64) → Nat
  | [] => 0
  | (_, v) :: rest => v.toNat + sumCounts rest

section Entries

variable (key : String) (value : UInt64)

theorem lookup_cons_ite (a k : String) (v : UInt64) (l : List (String × UInt64)) :
    ((k, v) :: l).lookup a = if a = k then some v else l.lookup a := by
  by_cases h : a = k
  · simp [h]
  · simp [List.lookup_cons, h, beq_eq_false_iff_ne.mpr h]

theorem keys_setEntries : ∀ l : List (String × UInt64),
    (setEntries key value l).map Prod.fst =
      if key ∈ l.map Prod.fst then l.map Prod.fst else l.map Prod.fst ++ [key]
  | [] => rfl
  | (k, v) :: rest => by
    by_cases hk : k = key
    · simp [setEntries, hk]
    · simp only [setEntries, hk, if_false, List.map_cons, keys_setEntries rest, List.mem_cons,
        Ne.symm hk, false_or]
      split_ifs <;> rfl

theorem lookup_setEntries (a : String) : ∀ l : List (String × UInt64),
    (setEntries key value l).lookup a = if a = key then some value else l.lookup a
  | [] => lookup_cons_ite a key value []
  | (k, v) :: rest => by
    by_cases hk : k = key
    · subst hk
      simp only [setEntries, if_true, lookup_cons_ite]
      split_ifs <;> rfl
    · simp only [setEntries, hk, if_false, lookup_cons_ite, lookup_setEntries a rest]
      by_cases ha : a = k <;> simp [ha, hk]

/-- Writing `value` under `key` trades the key's old count for `value` in the sum. -/
theorem sum_setEntries : ∀ l : List (String × UInt64),
    sumCounts (setEntries key value l) + ((l.lookup key).getD 0).toNat =
      sumCounts l + value.toNat
  | [] => by simp [setEntries, sumCounts]
  | (k, v) :: rest => by
    have ih := sum_setEntries rest
    by_cases hk : k = key
    · subst hk
      simp only [setEntries, if_true, sumCounts, lookup_cons_ite, Option.getD_some]
      omega
    · simp only [setEntries, hk, if_false, sumCounts, lookup_cons_ite, Ne.symm hk]
      omega

theorem lookup_le_sum : ∀ l : List (String × UInt64),
    ((l.lookup key).getD 0).toNat ≤ sumCounts l
  | [] => Nat.zero_le _
  | (k, v) :: rest => by
    have ih := lookup_le_sum rest
    simp only [lookup_cons_ite, sumCounts]
    split_ifs
    · simp
    · omega

end Entries

/-- A Go `map[string]uint64`: its entries, one per key. -/
structure Stats where
  entries : List (String × UInt64)
  nodup : (entries.map Prod.fst).Nodup

namespace Stats

/-- `make(map[string]uint64)`. -/
def empty : Stats := ⟨[], List.nodup_nil⟩

/-- The keys of the map. -/
def keys (s : Stats) : List String := s.entries.map Prod.fst

/-- `m[key]`: the zero value for a missing key. -/
def get (s : Stats) (key : String) : UInt64 := (s.entries.lookup key).getD 0

/-- The sum of the counts. -/
def total (s : Stats) : Nat := sumCounts s.entries

/-- `m[key] = value`. -/
def set (s : Stats) (key : String) (value : UInt64) : Stats :=
  ⟨setEntries key value s.entries, by
    rw [keys_setEntries]
    split_ifs with h
    · exact s.nodup
    · exact s.nodup.append (List.nodup_singleton key) (List.disjoint_singleton.mpr h)⟩

/-- `m[key]++`. -/
def incr (s : Stats) (key : String) : Stats := s.set key (s.get key + 1)

/-- The counts after `m[p]++` for each `p` of `producers`, in order. -/
def tally (s : Stats) (producers : List String) : Stats := producers.foldl incr s

variable (s : Stats) (key a : String)

@[simp] theorem get_empty : empty.get key = 0 := rfl

@[simp] theorem keys_empty : empty.keys = [] := rfl

@[simp] theorem total_empty : empty.total = 0 := rfl

@[simp] theorem tally_nil : s.tally [] = s := rfl

@[simp] theorem tally_cons (p : String) (ps : List String) :
    s.tally (p :: ps) = (s.incr p).tally ps := rfl

theorem get_set (value : UInt64) : (s.set key value).get a = if a = key then value else s.get a := by
  simp only [get, set, lookup_setEntries]
  split_ifs <;> rfl

theorem mem_keys_set (value : UInt64) : a ∈ (s.set key value).keys ↔ a = key ∨ a ∈ s.keys := by
  simp only [keys, set, keys_setEntries]
  split_ifs with h
  · exact ⟨Or.inr, fun h' => h'.elim (· ▸ h) id⟩
  · simp only [List.mem_append, List.mem_singleton, or_comm]

theorem get_le_total : (s.get key).toNat ≤ s.total := lookup_le_sum key s.entries

theorem total_incr (h : s.total + 1 < 2 ^ 64) : (s.incr key).total = s.total + 1 := by
  have hsum := sum_setEntries key (s.get key + 1) s.entries
  have hle := s.get_le_total key
  have hone : (s.get key + 1).toNat = (s.get key).toNat + 1 := UInt64.toNat_add_one (by omega)
  simp only [incr, set, total, get] at *
  omega

/-! ### Over a run of increments -/

theorem total_tally : ∀ (s : Stats) (producers : List String),
    s.total + producers.length < 2 ^ 64 → (s.tally producers).total = s.total + producers.length
  | _, [], _ => rfl
  | s, p :: ps, h => by
    rw [List.length_cons] at h
    have hs : (s.incr p).total = s.total + 1 := s.total_incr p (by omega)
    rw [tally_cons, total_tally (s.incr p) ps (by omega), hs, List.length_cons]
    omega

theorem get_tally : ∀ (s : Stats) (producers : List String),
    s.total + producers.length < 2 ^ 64 →
      ((s.tally producers).get a).toNat = (s.get a).toNat + producers.count a
  | _, [], _ => rfl
  | s, p :: ps, h => by
    rw [List.length_cons] at h
    have hs : (s.incr p).total = s.total + 1 := s.total_incr p (by omega)
    rw [tally_cons, get_tally (s.incr p) ps (by omega), incr, get_set, List.count_cons]
    by_cases ha : a = p
    · subst ha
      have hle := s.get_le_total a
      rw [if_pos rfl, UInt64.toNat_add_one (by omega), beq_self_eq_true, if_pos rfl]
      omega
    · simp [ha, Ne.symm ha]

theorem mem_keys_tally : ∀ (s : Stats) (producers : List String),
    a ∈ (s.tally producers).keys ↔ a ∈ s.keys ∨ a ∈ producers
  | _, [] => by simp
  | s, p :: ps => by
    rw [tally_cons, mem_keys_tally (s.incr p) ps, incr, mem_keys_set, List.mem_cons]
    tauto

end Stats

/-! ## The heights of a range -/

/-- The heights `startHeight, …, endHeight`, in increasing order (none when
    `endHeight < startHeight`). -/
def heights (startHeight endHeight : UInt64) : List UInt64 :=
  (List.range' startHeight.toNat (endHeight.toNat + 1 - startHeight.toNat)).map UInt64.ofNat

section Heights

variable {i startHeight endHeight : UInt64}

theorem heights_of_lt (h : endHeight < i) : heights i endHeight = [] := by
  have : endHeight.toNat + 1 - i.toNat = 0 := by rw [UInt64.lt_iff_toNat_lt] at h; omega
  rw [heights, this]
  rfl

theorem heights_of_le (h : i ≤ endHeight) (hend : endHeight.toNat < 2 ^ 64 - 1) :
    heights i endHeight = i :: heights (i + 1) endHeight := by
  rw [UInt64.le_iff_toNat_le] at h
  have hi : (i + 1).toNat = i.toNat + 1 := UInt64.toNat_add_one (by omega)
  have hn : endHeight.toNat + 1 - i.toNat = (endHeight.toNat + 1 - (i + 1).toNat) + 1 := by omega
  rw [heights, hn, List.range'_succ, List.map_cons, UInt64.ofNat_toNat_eq, heights, hi]

theorem length_heights : (heights startHeight endHeight).length =
    endHeight.toNat + 1 - startHeight.toNat := by
  simp [heights]

theorem mem_heights : i ∈ heights startHeight endHeight ↔ startHeight ≤ i ∧ i ≤ endHeight := by
  simp only [heights, List.mem_map, List.mem_range'_1, UInt64.le_iff_toNat_le]
  constructor
  · rintro ⟨n, hn, rfl⟩
    have : endHeight.toNat < 2 ^ 64 := endHeight.toNat_lt_size
    rw [UInt64.toNat_ofNat_eq, Nat.mod_eq_of_lt (by omega)]
    omega
  · intro h
    exact ⟨i.toNat, by omega, UInt64.ofNat_toNat_eq i⟩

theorem heights_pairwise : (heights startHeight endHeight).Pairwise (· < ·) := by
  rw [heights, List.pairwise_map]
  refine (List.pairwise_lt_range' _ _).imp_of_mem fun ha hb hab => ?_
  simp only [List.mem_range'_1] at ha hb
  have : endHeight.toNat < 2 ^ 64 := endHeight.toNat_lt_size
  rw [UInt64.lt_iff_toNat_lt, UInt64.toNat_ofNat_eq, UInt64.toNat_ofNat_eq,
    Nat.mod_eq_of_lt (by omega), Nat.mod_eq_of_lt (by omega)]
  exact hab

end Heights

/-! ## `Productivity` -/

section Loop

variable (blockHeaderByHeight : UInt64 → Except Err Header) (producerAddress : Header → String)

/-- The loop of `Productivity` from height `i` with the counts `stats` so far, `fuel` bounding
    its iterations (`none`: the fuel ran out). -/
def productivityLoop (endHeight : UInt64) : Nat → UInt64 → Stats → Option (Except Err Stats)
  | 0, _, _ => none
  | fuel + 1, i, stats =>
    if i ≤ endHeight then
      match blockHeaderByHeight i with
      | .error err => some (.error err)
      | .ok header =>
        productivityLoop endHeight fuel (i + 1) (stats.incr (producerAddress header))
    else some (.ok stats)

/-- `Productivity(bc, startHeight, endHeight)`, where `bc.BlockHeaderByHeight` is
    `blockHeaderByHeight` and `Header.ProducerAddress()` is `producerAddress`. -/
def productivity (startHeight endHeight : UInt64) (fuel : Nat) : Option (Except Err Stats) :=
  productivityLoop blockHeaderByHeight producerAddress endHeight fuel startHeight Stats.empty

/-- The number of heights from `startHeight` to `endHeight` whose header names `producer`. -/
def blocksProducedBy (startHeight endHeight : UInt64) (producer : String) : Nat :=
  (heights startHeight endHeight).countP fun i =>
    (blockHeaderByHeight i).toOption.map producerAddress = some producer

variable {blockHeaderByHeight producerAddress} {endHeight : UInt64}

/-- **The loop reads the remaining headers and counts their producers.**  From any height `i`
    and counts `stats`, with fuel beyond the number of heights left, the loop returns the
    first error of `BlockHeaderByHeight` over `i, …, endHeight`, or `stats` with the producers
    of all their headers counted. -/
theorem productivityLoop_eq (hend : endHeight.toNat < 2 ^ 64 - 1) :
    ∀ (fuel : Nat) (i : UInt64) (stats : Stats), endHeight.toNat + 1 - i.toNat < fuel →
      productivityLoop blockHeaderByHeight producerAddress endHeight fuel i stats =
        some (((heights i endHeight).mapM blockHeaderByHeight).map fun headers =>
          stats.tally (headers.map producerAddress))
  | 0, _, _, h => absurd h (Nat.not_lt_zero _)
  | fuel + 1, i, stats, h => by
    rw [productivityLoop]
    split_ifs with hi
    · have hle : i.toNat ≤ endHeight.toNat := hi
      rw [heights_of_le hi hend, List.mapM_cons]
      cases hb : blockHeaderByHeight i with
      | error err => rfl
      | ok header =>
        have hi' : (i + 1).toNat = i.toNat + 1 := UInt64.toNat_add_one (by omega)
        dsimp only
        rw [productivityLoop_eq hend fuel (i + 1) _ (by omega)]
        cases (heights (i + 1) endHeight).mapM blockHeaderByHeight <;> rfl
    · rw [heights_of_lt (UInt64.not_le.mp hi)]
      rfl

/-- With a header at every height of `l`, reading them succeeds, and each producer is named by
    as many of the headers read as heights of `l` whose header names it. -/
theorem mapM_headers_ok : ∀ l : List UInt64,
    (∀ i ∈ l, ∃ header, blockHeaderByHeight i = .ok header) →
    ∃ headers, l.mapM blockHeaderByHeight = .ok headers ∧ headers.length = l.length ∧
      ∀ producer, l.countP (fun i =>
        (blockHeaderByHeight i).toOption.map producerAddress = some producer) =
          (headers.map producerAddress).count producer
  | [], _ => ⟨[], rfl, rfl, fun _ => rfl⟩
  | i :: l, h => by
    obtain ⟨header, hi⟩ := h i (List.mem_cons_self _ _)
    obtain ⟨headers, hl, hlen, hc⟩ := mapM_headers_ok l fun j hj => h j (List.mem_cons_of_mem _ hj)
    refine ⟨header :: headers, ?_, by simp [hlen], fun producer => ?_⟩
    · rw [List.mapM_cons, hi, hl]
      rfl
    · rw [List.countP_cons, hc, List.map_cons, List.count_cons, hi]
      simp [Except.toOption]

/-- Reading the headers of increasing heights fails with the error of the lowest height
    without a header. -/
theorem mapM_headers_error {i : UInt64} {err : Err} (hi : blockHeaderByHeight i = .error err) :
    ∀ l : List UInt64, l.Pairwise (· < ·) → i ∈ l →
      (∀ j ∈ l, j < i → ∃ header, blockHeaderByHeight j = .ok header) →
      l.mapM blockHeaderByHeight = .error err
  | [], _, hm, _ => absurd hm (List.not_mem_nil _)
  | j :: l, hs, hm, hb => by
    rw [List.pairwise_cons] at hs
    rcases List.mem_cons.mp hm with rfl | hm
    · rw [List.mapM_cons, hi]
      rfl
    · obtain ⟨header, hj⟩ := hb j (List.mem_cons_self _ _) (hs.1 i hm)
      rw [List.mapM_cons, hj, mapM_headers_error hi l hs.2 hm fun k hk => hb k (List.mem_cons_of_mem _ hk)]
      rfl

variable (blockHeaderByHeight producerAddress)

/-- **`Productivity` counts producers exactly.**  For `endHeight < 2^64 - 1` and fuel beyond
    the number of heights: if every height from `startHeight` to `endHeight` has a header,
    `Productivity` returns the map sending each producer to the number of those heights whose
    header names it and holding no other key, its counts summing to
    `endHeight - startHeight + 1`, and empty when `endHeight < startHeight`; otherwise it
    returns the error of the lowest height without a header. -/
theorem productivity_counts (startHeight endHeight : UInt64)
    (hend : endHeight.toNat < 2 ^ 64 - 1) :
    ((∀ i, startHeight ≤ i → i ≤ endHeight → ∃ header, blockHeaderByHeight i = .ok header) →
      ∃ stats, (∀ fuel, endHeight.toNat + 1 - startHeight.toNat < fuel →
          productivity blockHeaderByHeight producerAddress startHeight endHeight fuel =
            some (.ok stats)) ∧
        (∀ producer, (stats.get producer).toNat =
            blocksProducedBy blockHeaderByHeight producerAddress startHeight endHeight producer ∧
          (producer ∈ stats.keys ↔
            0 < blocksProducedBy blockHeaderByHeight producerAddress startHeight endHeight producer)) ∧
        stats.total = endHeight.toNat + 1 - startHeight.toNat ∧
        (endHeight < startHeight → stats = Stats.empty)) ∧
    ∀ i err, startHeight ≤ i → i ≤ endHeight → blockHeaderByHeight i = .error err →
      (∀ j, startHeight ≤ j → j < i → ∃ header, blockHeaderByHeight j = .ok header) →
      ∀ fuel, endHeight.toNat + 1 - startHeight.toNat < fuel →
        productivity blockHeaderByHeight producerAddress startHeight endHeight fuel =
          some (.error err) := by
  refine ⟨fun hall => ?_, fun i err hs he hi hbelow fuel hf => ?_⟩
  · obtain ⟨headers, hm, hl, hc⟩ := mapM_headers_ok (heights startHeight endHeight) fun i hi =>
      hall i (mem_heights.mp hi).1 (mem_heights.mp hi).2
    have hsmall : Stats.empty.total + (headers.map producerAddress).length < 2 ^ 64 := by
      rw [Stats.total_empty, List.length_map, hl, length_heights]
      omega
    refine ⟨Stats.empty.tally (headers.map producerAddress), fun fuel hf => ?_,
      fun producer => ⟨?_, ?_⟩, ?_, fun hlt => ?_⟩
    · rw [productivity, productivityLoop_eq hend fuel _ _ hf, hm]
      rfl
    · rw [Stats.get_tally _ _ _ hsmall, blocksProducedBy, hc, Stats.get_empty]
      exact Nat.zero_add _
    · rw [Stats.mem_keys_tally, blocksProducedBy, hc, List.count_pos_iff, Stats.keys_empty]
      exact or_iff_right (List.not_mem_nil _)
    · rw [Stats.total_tally _ _ hsmall, List.length_map, hl, length_heights, Stats.total_empty,
        Nat.zero_add]
    · obtain rfl : headers = [] := List.length_eq_zero.mp (by rw [hl, heights_of_lt hlt]; rfl)
      rfl
  · rw [productivity, productivityLoop_eq hend fuel _ _ hf,
      mapM_headers_error hi _ heights_pairwise (mem_heights.mpr ⟨hs, he⟩)
        fun j hj hji => hbelow j (mem_heights.mp hj).1 hji]
    rfl

/-- Heights 1 to 3, the odd ones produced by `io1a` and the even one by `io1b`: `io1a` is
    counted twice. -/
theorem productivity_counts_three_heights :
    (3 : UInt64).toNat < 2 ^ 64 - 1 ∧
      ∃ stats, productivity (fun i => .ok (Block.atHeight i 0).header)
          (fun h => if h.height % 2 = 1 then "io1a" else "io1b") 1 3 4 = some (.ok stats) ∧
        (stats.get "io1a").toNat = 2 ∧ stats.total = 3 := by
  obtain ⟨stats, hrun, hget, htotal, -⟩ :=
    (productivity_counts (fun i => .ok (Block.atHeight i 0).header)
      (fun h => if h.height % 2 = 1 then "io1a" else "io1b") 1 3 (by decide)).1
      fun _ _ _ => ⟨_, rfl⟩
  exact ⟨by decide, stats, hrun 4 (by decide), (hget "io1a").1.trans (by decide), htotal⟩

/-- **At `endHeight = 2^64 - 1` `Productivity` never returns** while every height has a header:
    every `i` passes the test `i <= endHeight`, and `i++` wraps to 0 after it. -/
theorem productivity_never_returns_at_max (hall : ∀ i, ∃ header, blockHeaderByHeight i = .ok header)
    (endHeight : UInt64) (hend : endHeight.toNat = 2 ^ 64 - 1) (startHeight : UInt64)
    (fuel : Nat) :
    productivity blockHeaderByHeight producerAddress startHeight endHeight fuel = none := by
  suffices h : ∀ fuel i stats,
      productivityLoop blockHeaderByHeight producerAddress endHeight fuel i stats = none from h _ _ _
  intro fuel
  induction fuel with
  | zero => exact fun _ _ => rfl
  | succ fuel ih =>
    intro i stats
    have hi : i ≤ endHeight := show i.toNat ≤ endHeight.toNat by
      have : i.toNat < 2 ^ 64 := i.toNat_lt_size
      omega
    obtain ⟨header, hh⟩ := hall i
    rw [productivityLoop, if_pos hi, hh]
    exact ih _ _

/-- Every header read and the loop run to `2^64 - 1` from height 0, with fuel to spare: no
    result. -/
theorem productivity_never_returns_at_max_all_headers :
    (∀ i : UInt64, ∃ header, (Except.ok (Block.atHeight i 0).header : Except Err Header) = .ok header) ∧
      (18446744073709551615 : UInt64).toNat = 2 ^ 64 - 1 ∧
      productivity (fun i => .ok (Block.atHeight i 0).header) (fun _ => "io1") 0
        18446744073709551615 100 = none :=
  ⟨fun _ => ⟨_, rfl⟩, rfl,
    productivity_never_returns_at_max (fun i => .ok (Block.atHeight i 0).header) (fun _ => "io1")
      (fun _ => ⟨_, rfl⟩) 18446744073709551615 rfl 0 100⟩

end Loop

/-! ## Over a chain's archive -/

/-- The archive answers `HeaderByHeight` at the heights `k + 1, …, k + m` with the headers of
    its blocks from index `k` on, when those are all it holds past `k`. -/
theorem mapM_headerByHeight (dao : BlockDAO) (hlen : dao.blocks.length < 2 ^ 64) :
    ∀ m k, k + m = dao.blocks.length →
      ((List.range' (k + 1) m).map UInt64.ofNat).mapM dao.headerByHeight =
        .ok ((dao.blocks.drop k).map Block.header)
  | 0, k, h => by
    rw [List.drop_eq_nil_of_le (by omega)]
    rfl
  | m + 1, k, h => by
    have hk : k < dao.blocks.length := by omega
    have hn : (UInt64.ofNat (k + 1)).toNat = k + 1 := by
      rw [UInt64.toNat_ofNat_eq, Nat.mod_eq_of_lt (by omega)]
    have hne : UInt64.ofNat (k + 1) ≠ 0 := fun h0 => by rw [h0] at hn; cases hn
    have hh : dao.headerByHeight (UInt64.ofNat (k + 1)) = .ok dao.blocks[k].header := by
      rw [BlockDAO.headerByHeight, if_neg hne, hn, Nat.add_sub_cancel, List.getElem?_eq_getElem hk]
    rw [List.range'_succ, List.map_cons, List.mapM_cons, hh, mapM_headerByHeight dao hlen m (k + 1)
      (by omega), List.drop_eq_getElem_cons hk, List.map_cons]
    rfl

/-- **Over the stored heights `Productivity` counts the stored blocks.**  On a chain whose
    archive holds fewer than `2^64 - 1` blocks, `Productivity` from height 1 to `TipHeight()`
    reads a header at every height and returns the counts of the producers of the stored
    blocks. -/
theorem productivity_stored_blocks (bc : Blockchain) (producerAddress : Header → String)
    (hlen : bc.dao.blocks.length < 2 ^ 64 - 1) (fuel : Nat) (hf : bc.dao.blocks.length < fuel) :
    productivity bc.blockHeaderByHeight producerAddress 1 bc.tipHeight fuel =
      some (.ok (Stats.empty.tally (bc.dao.blocks.map fun b => producerAddress b.header))) := by
  have htip : bc.tipHeight.toNat = bc.dao.blocks.length := by
    rw [Blockchain.tipHeight, BlockDAO.height, UInt64.toNat_ofNat_eq, Nat.mod_eq_of_lt (by omega)]
  have hheights : heights 1 bc.tipHeight = (List.range' (0 + 1) bc.dao.blocks.length).map UInt64.ofNat := by
    rw [heights, htip]
    rfl
  have hread : bc.blockHeaderByHeight = bc.dao.headerByHeight := rfl
  rw [productivity, productivityLoop_eq (by omega) fuel 1 Stats.empty (by rw [htip]; exact hf),
    hheights, hread, mapM_headerByHeight bc.dao (by omega) _ 0 (by omega), List.drop_zero]
  simp only [Except.map, List.map_map]
  rfl

/-- A chain that stored two blocks. -/
def Blockchain.twoBlocks : Blockchain :=
  { Blockchain.atGenesis with dao := ⟨[Block.atHeight 1 0, Block.atHeight 2 0], .ok 0⟩ }

/-- Over the two stored heights of `twoBlocks`, both produced by `io1`, `io1` is counted
    twice. -/
theorem productivity_stored_blocks_two :
    Blockchain.twoBlocks.dao.blocks.length < 2 ^ 64 - 1 ∧
      Blockchain.twoBlocks.dao.blocks.length < 3 ∧
      productivity Blockchain.twoBlocks.blockHeaderByHeight (fun _ => "io1") 1
          Blockchain.twoBlocks.tipHeight 3 = some (.ok (Stats.empty.tally ["io1", "io1"])) :=
  ⟨by decide, by decide, productivity_stored_blocks _ _ (by decide) 3 (by decide)⟩

end IotexCore
