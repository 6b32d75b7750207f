/-
  iotex-core formalization — the producer keys of the chain's `Config` (blockchain/config.go).

  `ProducerPrivateKeys` reads the keys from the comma-separated `ProducerPrivKey`, checks each
  against the signature-scheme whitelist, and keeps the slice `ProducerPrivKeyRange` names,
  written `[start:end]` with either end optional; every failure is a panic.

  * `Strings.split`, `Strings.trim`, `Strconv.atoi` are the Go library calls it makes, on the
    string's characters (the separators and the cutset are ASCII);
  * `atoi_toString`: `Atoi` reads back every integer of Go's `int` that `toString` writes;
  * `producerPrivateKeys_slice`: every successful result is a contiguous run of the decoded
    keys, all of whitelisted schemes;
  * `producerPrivateKeys_range`: a range written from two optional integers selects exactly
    that slice of the decoded keys, or panics as out of bounds;
  * `defaultConfig_producerPrivateKeys`: `DefaultConfig` passes its own checks, whatever key
    `GenerateRandomKey` returns.
-/
import Mathlib.Data.List.Basic
import Mathlib.Data.List.DropRight
import Mathlib.Data.List.Infix
import IotexCore.Blockchain.Types

namespace IotexCore

/-! ## Go's `strings` and `strconv` -/

namespace Strings

/-- `strings.Split(s, string(sep))` for a one-character separator: the pieces between the
    separators, one more than there are separators. -/
def split (s : String) (sep : Char) : List String := (s.toList.splitOn sep).map String.mk

/-- `strings.Trim(s, cutset)`: `s` without its leading and trailing characters of `cutset`. -/
def trim (s : String) (cutset : List Char) : String :=
  String.mk ((s.toList.dropWhile (· ∈ cutset)).rdropWhile (· ∈ cutset))

theorem split_ne_nil (s : String) (sep : Char) : split s sep ≠ [] := by
  simpa [split] using List.splitOnP_ne_nil _ s.toList

/-- `Split` gives one piece more than the separators. -/
theorem length_split (s : String) (sep : Char) :
    (split s sep).length = s.toList.count sep + 1 := by
  suffices h : ∀ l : List Char, (l.splitOnP (· == sep)).length = l.count sep + 1 by
    simpa [split, List.splitOn] using h s.toList
  intro l
  induction l with
  | nil => rfl
  | cons c l ih =>
    rw [List.splitOnP_cons, List.count_cons]
    by_cases hc : c = sep
    · simp [hc, ih]
    · simp [hc, ih, List.length_modifyHead]

end Strings

namespace Strconv

/-- The value of decimal digits, most significant first: the loop `n = n*10 + int(ch - '0')`
    of `Atoi`. -/
def digitsValue (ds : List Char) : Nat := ds.foldl (fun n c => n * 10 + (c.toNat - 48)) 0

/-- The sign `Atoi` reads: a leading `-` or `+`, and the rest. -/
def readSign : List Char → Bool × List Char
  | '-' :: ds => (true, ds)
  | '+' :: ds => (false, ds)
  | ds => (false, ds)

/-- `math.MinInt64`, the least Go `int` (64 bits). -/
def minInt64 : Int := -9223372036854775808

/-- `math.MaxInt64`, the greatest Go `int`. -/
def maxInt64 : Int := 9223372036854775807

/-- `strconv.Atoi(s)`: an optional sign, then one or more decimal digits whose value fits a
    Go `int`; any other string is an error (`none`). -/
def atoi (s : String) : Option Int :=
  let sd := readSign s.toList
  if sd.2 ≠ [] ∧ sd.2.all Char.isDigit then
    let v : Int := if sd.1 then -(digitsValue sd.2 : Int) else digitsValue sd.2
    if minInt64 ≤ v ∧ v ≤ maxInt64 then some v else none
  else none

theorem digitsValue_concat (ds : List Char) (c : Char) :
    digitsValue (ds ++ [c]) = digitsValue ds * 10 + (c.toNat - 48) := by
  rw [digitsValue, List.foldl_append]
  rfl

theorem digitChar_digit : ∀ d, d < 10 →
    (Nat.digitChar d).isDigit ∧ (Nat.digitChar d).toNat - 48 = d := by
  decide

theorem toDigitsCore_succ (f n : Nat) (ds : List Char) :
    Nat.toDigitsCore 10 (f + 1) n ds =
      if n / 10 = 0 then Nat.digitChar (n % 10) :: ds
      else Nat.toDigitsCore 10 f (n / 10) (Nat.digitChar (n % 10) :: ds) := rfl

/-- `toDigitsCore` puts its digits in front of its accumulator. -/
theorem toDigitsCore_acc : ∀ (f n : Nat) (ds : List Char),
    Nat.toDigitsCore 10 f n ds = Nat.toDigitsCore 10 f n [] ++ ds
  | 0, _, _ => rfl
  | f + 1, n, ds => by
    simp only [toDigitsCore_succ]
    split_ifs
    · rfl
    · rw [toDigitsCore_acc f _ (_ :: ds), toDigitsCore_acc f _ [_], List.append_assoc]
      rfl

/-- With fuel beyond `n`, `toDigitsCore` writes `n` as decimal digits that read back to `n`. -/
theorem toDigitsCore_digits : ∀ (f n : Nat), n < f →
    (∀ c ∈ Nat.toDigitsCore 10 f n [], c.isDigit) ∧ Nat.toDigitsCore 10 f n [] ≠ [] ∧
      digitsValue (Nat.toDigitsCore 10 f n []) = n
  | 0, _, h => absurd h (Nat.not_lt_zero _)
  | f + 1, n, h => by
    have hd := digitChar_digit (n % 10) (Nat.mod_lt _ (by decide))
    simp only [toDigitsCore_succ]
    split_ifs with h0
    · refine ⟨by simpa using hd.1, List.cons_ne_nil _ _, ?_⟩
      show 0 * 10 + ((Nat.digitChar (n % 10)).toNat - 48) = n
      omega
    · obtain ⟨hall, -, hval⟩ := toDigitsCore_digits f (n / 10) (by omega)
      rw [toDigitsCore_acc]
      refine ⟨fun c hc => ?_, by simp, ?_⟩
      · rcases List.mem_append.mp hc with hc | hc
        · exact hall c hc
        · rw [List.mem_singleton.mp hc]
          exact hd.1
      · rw [digitsValue_concat, hval, hd.2]
        omega

theorem readSign_digit {c : Char} (hc : c.isDigit) (cs : List Char) :
    readSign (c :: cs) = (false, c :: cs) := by
  have h1 : c ≠ '-' := by rintro rfl; exact absurd hc (by decide)
  have h2 : c ≠ '+' := by rintro rfl; exact absurd hc (by decide)
  simp [readSign, h1, h2]

/-- **`Atoi` reads back what `toString` writes**, for every integer of a Go `int`. -/
theorem atoi_toString {a : Int} (h₁ : minInt64 ≤ a) (h₂ : a ≤ maxInt64) :
    atoi (toString a) = some a := by
  cases a with
  | ofNat m =>
    obtain ⟨hall, hne, hval⟩ := toDigitsCore_digits (m + 1) m (Nat.lt_succ_self m)
    have hs : (toString (Int.ofNat m)).toList = Nat.toDigitsCore 10 (m + 1) m [] := rfl
    obtain ⟨c, cs, hcs⟩ := List.exists_cons_of_ne_nil hne
    rw [atoi, hs, hcs, readSign_digit (hall c (hcs ▸ List.mem_cons_self _ _))]
    rw [← hcs]
    simp only [ne_eq, hne, not_false_eq_true, List.all_eq_true, true_and, hval, Bool.false_eq_true,
      if_false]
    rw [if_pos hall, if_pos ⟨by unfold minInt64; omega, h₂⟩]
    rfl
  | negSucc m =>
    obtain ⟨hall, hne, hval⟩ := toDigitsCore_digits (m + 2) (m + 1) (Nat.lt_succ_self _)
    have hs : (toString (Int.negSucc m)).toList = '-' :: Nat.toDigitsCore 10 (m + 2) (m + 1) [] :=
      rfl
    rw [atoi, hs]
    simp only [readSign, ne_eq, hne, not_false_eq_true, List.all_eq_true, true_and, hval, if_true]
    rw [Int.negSucc_eq] at h₁
    rw [if_pos hall, if_pos ⟨h₁, by unfold maxInt64; omega⟩]
    rfl

/-- What `toString` writes of an integer: decimal digits, after a `-` when it is negative. -/
theorem toString_digits (a : Int) :
    (toString a).toList ≠ [] ∧ ∀ c ∈ (toString a).toList, c.isDigit ∨ c = '-' := by
  cases a with
  | ofNat m =>
    obtain ⟨hall, hne, -⟩ := toDigitsCore_digits (m + 1) m (Nat.lt_succ_self m)
    exact ⟨hne, fun c hc => .inl (hall c hc)⟩
  | negSucc m =>
    obtain ⟨hall, -, -⟩ := toDigitsCore_digits (m + 2) (m + 1) (Nat.lt_succ_self _)
    have hs : (toString (Int.negSucc m)).toList = '-' :: Nat.toDigitsCore 10 (m + 2) (m + 1) [] :=
      rfl
    rw [hs]
    refine ⟨List.cons_ne_nil _ _, fun c hc => ?_⟩
    rcases List.mem_cons.mp hc with rfl | hc
    · exact .inr rfl
    · exact .inl (hall c hc)

end Strconv

/-! ## The producer keys -/

/-- `SigP256k1`. -/
def sigP256k1 : String := "secp256k1"

/-- `SigP256sm2`. -/
def sigP256sm2 : String := "p256sm2"

/-- `Config`, as far as its producer key helpers read it. -/
structure KeyConfig where
  producerPrivKey : String
  producerPrivKeySchema : String
  producerPrivKeyRange : String
  signatureScheme : List String

namespace KeyConfig

variable (codec : KeyCodec) (cfg : KeyConfig)

/-- `whitelistSignatureScheme(sk)`: the key's scheme is known and listed in `SignatureScheme`. -/
def whitelistSignatureScheme (sk : PrivateKey) : Bool :=
  let sigScheme := match codec.kind sk with
    | .ecdsa => sigP256k1
    | .p256sm2 => sigP256sm2
    | .other => ""
  if sigScheme = "" then false else cfg.signatureScheme.any fun e => sigScheme == e

/-- The loop of `ProducerPrivateKeys` over the comma-separated keys: each is decoded and checked
    against the whitelist, the first failure a panic. -/
def decodeKeys : List String → Except Err (List PrivateKey)
  | [] => .ok []
  | pk :: pks =>
    match codec.hexStringToPrivateKey pk with
    | .error _ => .error (.panic "Error when decoding private key")
    | .ok sk =>
      if !cfg.whitelistSignatureScheme codec sk then
        .error (.panic "The private key's signature scheme is not whitelisted")
      else (decodeKeys pks).map (sk :: ·)

/-- A bound of `ProducerPrivKeyRange`: `Atoi` of the part, or the default when it is empty. -/
def parseBound (part : String) (dflt : Int) : Option Int :=
  if part ≠ "" then Strconv.atoi part else some dflt

/-- `ProducerPrivateKeys()`; a panic is `.panic`. -/
def producerPrivateKeys : Except Err (List PrivateKey) :=
  let pks := Strings.split cfg.producerPrivKey ','
  if pks.length = 0 then .error (.panic "Error when decoding private key") else
  match cfg.decodeKeys codec pks with
  | .error err => .error err
  | .ok privateKeys =>
    if cfg.producerPrivKeyRange = "" then .ok privateKeys else
    match Strings.split (Strings.trim cfg.producerPrivKeyRange ['[', ']']) ':' with
    | [part0, part1] =>
      match parseBound part0 0, parseBound part1 privateKeys.length with
      | none, _ => .error (.panic "invalid start")
      | _, none => .error (.panic "invalid end")
      | some start, some endIndex =>
        if start < 0 ∨ endIndex > privateKeys.length ∨ start > endIndex then
          .error (.panic "ProducerPrivKeyRange out of bounds")
        else .ok ((privateKeys.drop start.toNat).take (endIndex - start).toNat)
    | _ => .error (.panic "invalid format")

/-- `ProducerAddress()`: the address of each producer key; a key without one panics. -/
def producerAddress (P : Protocol) : Except Err (List String) :=
  (cfg.producerPrivateKeys codec).bind fun keys => keys.mapM fun sk =>
    match P.address sk.publicKey with
    | some addr => .ok addr
    | none => .error (.panic "Error when constructing producer address")

/-- `SetProducerPrivKey()`: `hex` and the empty schema keep the key; `hashiCorpVault` replaces it
    by the one `loadVaultKey` reads from the vault the file `ProducerPrivKey` names (the YAML
    loading and the vault client are outside this file set); any other schema is a config
    error. -/
def setProducerPrivKey (loadVaultKey : String → Except Err String) : Except Err KeyConfig :=
  if cfg.producerPrivKeySchema = "hex" ∨ cfg.producerPrivKeySchema = "" then .ok cfg
  else if cfg.producerPrivKeySchema = "hashiCorpVault" then
    (loadVaultKey cfg.producerPrivKey).map fun key => { cfg with producerPrivKey := key }
  else .error (.wrap (.new "config error") "invalid private key schema")

/-- `GenerateRandomKey(scheme)`: the hex string of a fresh key of the scheme, `secpHex` or
    `sm2Hex` being what the two key generators of package crypto return this time; any other
    scheme gives the empty string. -/
def generateRandomKey (secpHex sm2Hex : String) (scheme : String) : String :=
  if scheme = sigP256k1 then secpHex else if scheme = sigP256sm2 then sm2Hex else ""

/-- `DefaultConfig`, as far as the producer key helpers read it: a key of
    `GenerateRandomKey(SigP256k1)`, no schema, no range, and the secp256k1 scheme. -/
def defaultConfig (secpHex sm2Hex : String) : KeyConfig :=
  ⟨generateRandomKey secpHex sm2Hex sigP256k1, "", "", [sigP256k1]⟩

/-! ### A configuration of three keys -/

/-- A codec that decodes every non-empty string to a secp256k1 key. -/
def secpCodec : KeyCodec :=
  ⟨fun pk => if pk = "" then .error (.new "empty key") else .ok ⟨⟨pk.toList.map fun c => c.toNat.toUInt8⟩⟩,
    fun _ => .ecdsa⟩

/-- Three secp256k1 producer keys, of which the range keeps those from the second on. -/
def threeKeys : KeyConfig := ⟨"a1,b2,c3", "hex", "[1:]", [sigP256k1]⟩

variable {codec cfg}

/-! ### What a successful call returns -/

/-- Every key the loop returns passed the whitelist. -/
theorem decodeKeys_whitelisted : ∀ {pks : List String} {keys : List PrivateKey},
    cfg.decodeKeys codec pks = .ok keys → ∀ k ∈ keys, cfg.whitelistSignatureScheme codec k = true
  | [], _, h => by cases h; simp
  | pk :: pks, keys, h => by
    simp only [decodeKeys] at h
    split at h
    · cases h
    · next sk _ =>
      by_cases hw : cfg.whitelistSignatureScheme codec sk = true
      · simp only [hw, Bool.not_true, Bool.false_eq_true, if_false] at h
        rcases hrest : cfg.decodeKeys codec pks with _ | rest <;> rw [hrest] at h
        · cases h
        · cases h
          intro k hk
          rcases List.mem_cons.mp hk with rfl | hk
          · exact hw
          · exact decodeKeys_whitelisted hrest k hk
      · simp only [hw, Bool.not_false, if_true] at h
        cases h

/-- A successful `ProducerPrivateKeys` returns a contiguous run of the decoded keys, all of
    them when the range is empty. -/
theorem producerPrivateKeys_infix {keys : List PrivateKey}
    (h : cfg.producerPrivateKeys codec = .ok keys) :
    ∃ decoded, cfg.decodeKeys codec (Strings.split cfg.producerPrivKey ',') = .ok decoded ∧
      keys <:+: decoded ∧ (cfg.producerPrivKeyRange = "" → keys = decoded) := by
  have hlen : (Strings.split cfg.producerPrivKey ',').length ≠ 0 :=
    fun h0 => Strings.split_ne_nil _ _ (List.length_eq_zero.mp h0)
  unfold producerPrivateKeys at h
  simp only [hlen, if_false] at h
  rcases hd : cfg.decodeKeys codec (Strings.split cfg.producerPrivKey ',') with _ | decoded <;>
    rw [hd] at h
  · cases h
  dsimp only at h
  split_ifs at h with hr
  · cases h
    exact ⟨keys, rfl, List.infix_refl _, fun _ => rfl⟩
  · refine ⟨decoded, rfl, ?_, fun h' => absurd h' hr⟩
    split at h
    · split at h
      · cases h
      · cases h
      · split_ifs at h
        cases h
        exact (List.take_prefix _ _).isInfix.trans (List.drop_suffix _ _).isInfix
    · cases h

/-- **The producer keys are a whitelisted run of the configured ones.**  Whatever the
    configuration, a successful `ProducerPrivateKeys` returns a contiguous run of the keys
    decoded from `ProducerPrivKey`, in order, each of a whitelisted signature scheme, and all
    of them when `ProducerPrivKeyRange` is empty. -/
theorem producerPrivateKeys_slice {keys : List PrivateKey}
    (h : cfg.producerPrivateKeys codec = .ok keys) :
    ∃ decoded, cfg.decodeKeys codec (Strings.split cfg.producerPrivKey ',') = .ok decoded ∧
      keys <:+: decoded ∧ (∀ k ∈ keys, cfg.whitelistSignatureScheme codec k = true) ∧
      (cfg.producerPrivKeyRange = "" → keys = decoded) :=
  let ⟨decoded, hd, hi, he⟩ := producerPrivateKeys_infix h
  ⟨decoded, hd, hi, fun k hk => decodeKeys_whitelisted hd k (hi.subset hk), he⟩

/-- The three keys decode, and the range `[1:]` keeps the last two. -/
theorem producerPrivateKeys_slice_threeKeys :
    ∃ keys, threeKeys.producerPrivateKeys secpCodec = .ok keys ∧
      ∃ decoded, threeKeys.decodeKeys secpCodec (Strings.split threeKeys.producerPrivKey ',') =
        .ok decoded ∧ keys <:+: decoded ∧
        (∀ k ∈ keys, threeKeys.whitelistSignatureScheme secpCodec k = true) ∧
        (threeKeys.producerPrivKeyRange = "" → keys = decoded) :=
  ⟨_, rfl, producerPrivateKeys_slice rfl⟩

/-! ### The default configuration -/

theorem Strings.split_of_not_mem {s : String} {sep : Char} (h : sep ∉ s.toList) :
    Strings.split s sep = [s] := by
  show (s.toList.splitOnP (· == sep)).map String.mk = [s]
  rw [List.splitOnP_eq_single _ _ fun c hc hsep => h (by rwa [eq_of_beq hsep] at hc)]
  rfl

/-- **The default configuration passes its own checks.**  Whatever secp256k1 key the generator
    returns, written in hex without a comma and decoded by the codec to a key of that scheme,
    `ProducerPrivateKeys()` of `DefaultConfig` returns exactly that key, `SetProducerPrivKey()`
    keeps the configuration, and `ProducerAddress()` returns the key's address when it has
    one. -/
theorem defaultConfig_producerPrivateKeys {secpHex sm2Hex : String} {sk : PrivateKey}
    (hcomma : ',' ∉ secpHex.toList) (hdec : codec.hexStringToPrivateKey secpHex = .ok sk)
    (hkind : codec.kind sk = .ecdsa) :
    (defaultConfig secpHex sm2Hex).producerPrivateKeys codec = .ok [sk] ∧
      (∀ loadVaultKey, (defaultConfig secpHex sm2Hex).setProducerPrivKey loadVaultKey =
        .ok (defaultConfig secpHex sm2Hex)) ∧
      ∀ (P : Protocol) addr, P.address sk.publicKey = some addr →
        (defaultConfig secpHex sm2Hex).producerAddress codec P = .ok [addr] := by
  have hkey : (defaultConfig secpHex sm2Hex).producerPrivKey = secpHex :=
    show generateRandomKey secpHex sm2Hex sigP256k1 = secpHex from if_pos rfl
  have hw : (defaultConfig secpHex sm2Hex).whitelistSignatureScheme codec sk = true := by
    unfold whitelistSignatureScheme
    rw [hkind]
    rfl
  have hd : (defaultConfig secpHex sm2Hex).decodeKeys codec [secpHex] = .ok [sk] := by
    simp only [decodeKeys, hdec, hw, Bool.not_true, Bool.false_eq_true, if_false]
    rfl
  have hp : (defaultConfig secpHex sm2Hex).producerPrivateKeys codec = .ok [sk] := by
    unfold producerPrivateKeys
    simp only [hkey, Strings.split_of_not_mem hcomma, hd]
    rfl
  refine ⟨hp, fun _ => if_pos (.inr rfl), fun P addr ha => ?_⟩
  rw [producerAddress, hp]
  simp only [Except.bind, List.mapM_cons, List.mapM_nil, ha]
  rfl

/-! ### Ranges written from integers -/

/-- `ProducerPrivKeyRange` written `[start:end]` from optional integers, an absent end left
    empty. -/
def rangeString (start stop : Option Int) : String :=
  "[" ++ (start.map toString).getD "" ++ ":" ++ (stop.map toString).getD "" ++ "]"

/-- A digit or a minus sign is neither a bracket nor a colon. -/
theorem not_special {c : Char} (h : c.isDigit ∨ c = '-') : c ∉ ['[', ']'] ∧ c ≠ ':' := by
  rcases h with h | rfl
  · refine ⟨fun hm => ?_, ?_⟩
    · simp only [List.mem_cons, List.mem_singleton, List.not_mem_nil, or_false] at hm
      rcases hm with rfl | rfl <;> exact absurd h (by decide)
    · rintro rfl
      exact absurd h (by decide)
  · decide

theorem bound_chars (b : Option Int) :
    ∀ c ∈ ((b.map toString).getD "").toList, c ∉ ['[', ']'] ∧ c ≠ ':' := by
  cases b with
  | none => intro c hc; cases hc
  | some a => exact fun c hc => not_special ((Strconv.toString_digits a).2 c hc)

/-- `Trim` takes off the brackets and nothing of what they enclose. -/
theorem trim_brackets (x y : List Char) (hx : ∀ c ∈ x, c ∉ ['[', ']'] ∧ c ≠ ':')
    (hy : ∀ c ∈ y, c ∉ ['[', ']'] ∧ c ≠ ':') :
    Strings.trim ⟨'[' :: ((x ++ ':' :: y) ++ [']'])⟩ ['[', ']'] = ⟨x ++ ':' :: y⟩ := by
  have hA : ∀ c ∈ x ++ ':' :: y, c ∉ ['[', ']'] := by
    intro c hc
    rcases List.mem_append.mp hc with hc | hc
    · exact (hx c hc).1
    · rcases List.mem_cons.mp hc with rfl | hc
      · decide
      · exact (hy c hc).1
  obtain ⟨a, as, has⟩ := List.exists_cons_of_ne_nil (by simp : x ++ ':' :: y ≠ [])
  rw [has] at hA
  have ha : a ∉ ['[', ']'] := hA a (List.mem_cons_self _ _)
  unfold Strings.trim
  congr 1
  show ((('[' :: ((x ++ ':' :: y) ++ [']'])).dropWhile _).rdropWhile _) = _
  rw [List.dropWhile_cons_of_pos (by decide), has, List.cons_append,
    List.dropWhile_cons_of_neg (by simpa using ha), ← List.cons_append,
    List.rdropWhile_concat_pos _ _ ']' (by decide), List.rdropWhile_eq_self_iff.mpr fun hl => by
      simpa using hA _ (List.getLast_mem hl)]

/-- `Split` on the colon cuts `x:y` into `x` and `y` when neither holds a colon. -/
theorem split_colon (x y : List Char) (hx : ∀ c ∈ x, c ≠ ':') (hy : ∀ c ∈ y, c ≠ ':') :
    Strings.split ⟨x ++ ':' :: y⟩ ':' = [⟨x⟩, ⟨y⟩] := by
  have hx' : ∀ c ∈ x, ¬(c == ':') = true := fun c hc => by simpa using hx c hc
  have hy' : ∀ c ∈ y, ¬(c == ':') = true := fun c hc => by simpa using hy c hc
  show (List.splitOnP (· == ':') (x ++ ':' :: y)).map String.mk = _
  rw [List.splitOnP_first _ x hx' ':' (by decide), List.splitOnP_eq_single _ y hy']
  rfl

theorem parseBound_bound {b : Option Int} (hb : ∀ a ∈ b, Strconv.minInt64 ≤ a ∧ a ≤ Strconv.maxInt64)
    (dflt : Int) : parseBound ((b.map toString).getD "") dflt = some (b.getD dflt) := by
  cases b with
  | none => rfl
  | some a =>
    obtain ⟨h₁, h₂⟩ := hb a rfl
    have hne : toString a ≠ "" := fun h => (Strconv.toString_digits a).1 (by rw [h]; rfl)
    simp only [Option.map_some', Option.getD_some, parseBound, ne_eq, hne, not_false_eq_true,
      if_true]
    exact Strconv.atoi_toString h₁ h₂

/-- **A range written from integers selects exactly that slice.**  When the keys of
    `ProducerPrivKey` decode, a `ProducerPrivKeyRange` written `[start:end]` from integers of
    Go's `int`, either end left empty for the first key or past the last one, makes
    `ProducerPrivateKeys` return the decoded keys from `start` up to `end`; a negative start,
    an end past the last key or a start after the end panics as out of bounds. -/
theorem producerPrivateKeys_range {decoded : List PrivateKey} {start stop : Option Int}
    (hr : cfg.producerPrivKeyRange = rangeString start stop)
    (hd : cfg.decodeKeys codec (Strings.split cfg.producerPrivKey ',') = .ok decoded)
    (hs : ∀ a ∈ start, Strconv.minInt64 ≤ a ∧ a ≤ Strconv.maxInt64)
    (he : ∀ b ∈ stop, Strconv.minInt64 ≤ b ∧ b ≤ Strconv.maxInt64) :
    cfg.producerPrivateKeys codec =
      if start.getD 0 < 0 ∨ (decoded.length : Int) < stop.getD decoded.length ∨
          stop.getD decoded.length < start.getD 0 then
        .error (.panic "ProducerPrivKeyRange out of bounds")
      else .ok ((decoded.drop (start.getD 0).toNat).take
        (stop.getD decoded.length - start.getD 0).toNat) := by
  have hlen : (Strings.split cfg.producerPrivKey ',').length ≠ 0 :=
    fun h0 => Strings.split_ne_nil _ _ (List.length_eq_zero.mp h0)
  have hsx := bound_chars start
  have hsy := bound_chars stop
  have hl : cfg.producerPrivKeyRange = ⟨'[' :: ((((start.map toString).getD "").toList ++
      ':' :: ((stop.map toString).getD "").toList) ++ [']'])⟩ := by
    rw [hr, rangeString]
    simp [String.ext_iff]
  have hne : cfg.producerPrivKeyRange ≠ "" :=
    fun h => List.cons_ne_nil _ _ (congrArg String.data (hl.symm.trans h))
  have hparts : Strings.split (Strings.trim cfg.producerPrivKeyRange ['[', ']']) ':' =
      [(start.map toString).getD "", (stop.map toString).getD ""] := by
    rw [hl, trim_brackets _ _ hsx hsy, split_colon _ _ (fun c hc => (hsx c hc).2)
      (fun c hc => (hsy c hc).2)]
    rfl
  unfold producerPrivateKeys
  simp only [hlen, if_false, hd, hne, hparts, parseBound_bound hs, parseBound_bound he, gt_iff_lt]

/-- The range `[1:]`, written from the integer 1 and no end, keeps the last two of the three
    keys. -/
theorem producerPrivateKeys_range_threeKeys :
    threeKeys.producerPrivKeyRange = rangeString (some 1) none ∧
      ∃ decoded, threeKeys.decodeKeys secpCodec (Strings.split threeKeys.producerPrivKey ',') =
        .ok decoded ∧ threeKeys.producerPrivateKeys secpCodec = .ok (decoded.drop 1) :=
  ⟨rfl, _, rfl, (@producerPrivateKeys_range secpCodec threeKeys _ (some 1) none rfl rfl
    (fun a ha => by cases ha; decide) (fun _ hb => by cases hb)).trans rfl⟩

end KeyConfig

end IotexCore
