/-
  iotex-core formalization — the values the three components share: byte strings and their
  `%x` rendering, 256-bit hashes, the errors the code tells apart with `errors.Cause`,
  `uint64` arithmetic, and the big-endian encoding of the staking checkpoint height.

  * `Err.cause` is `errors.Cause`: it strips every `errors.Wrap(f)` layer;
  * `uint64ToBytesBigEndian` and `bytesToUint64BigEndian` round-trip
    (`bytesToUint64BigEndian_uint64ToBytesBigEndian`).
-/
import Mathlib.Data.List.Basic
import Mathlib.Algebra.Order.Group.Nat

namespace IotexCore

/-! ## Bytes and hashes -/

/-- A Go `[]byte`. -/
abbrev Bytes := List UInt8

/-- `hash.Hash256`, a `[32]byte`. -/
abbrev Hash256 := BitVec 256

/-- `hash.ZeroHash256`. -/
def ZeroHash256 : Hash256 := 0

/-- `n` lowercase hex digits of `v`, zero-padded on the left. -/
def padHex (n v : Nat) : String :=
  let d := Nat.toDigits 16 v
  String.mk (List.replicate (n - d.length) '0' ++ d)

/-- `fmt.Sprintf("%x", b)` of a byte slice. -/
def Bytes.hex (b : Bytes) : String := String.join (b.map fun x => padHex 2 x.toNat)

/-- `fmt.Sprintf("%x", h)` of a hash. -/
def Hash256.hex (h : Hash256) : String := padHex 64 h.toNat

example : Bytes.hex [0x0a, 0xff] = "0aff" := by decide

/-! ## Errors -/

/-- The errors of the modelled code: the sentinels it compares with `errors.Cause`, the
    ones it creates with `errors.New`/`errors.Errorf` (by their text), and `errors.Wrap(f)`
    layers around a cause. -/
inductive Err where
  /-- `db.ErrNotExist` -/
  | notExist
  /-- `batch.ErrNotExist` -/
  | batchNotExist
  /-- `batch.ErrAlreadyDeleted` -/
  | alreadyDeleted
  /-- `batch.ErrOutOfBound` -/
  | outOfBound
  /-- `ErrInvalidTipHeight` -/
  | invalidTipHeight
  /-- `ErrInvalidBlock` -/
  | invalidBlock
  /-- `ErrPaused` -/
  | paused
  /-- `filedao.ErrAlreadyExist` -/
  | fileAlreadyExist
  /-- `blockdao.ErrAlreadyExist` -/
  | daoAlreadyExist
  /-- `errors.New(msg)` or `errors.Errorf(...)` -/
  | new (msg : String)
  /-- a runtime panic -/
  | panic (msg : String)
  /-- `errors.Wrap(cause, msg)` -/
  | wrap (cause : Err) (msg : String)
  deriving DecidableEq, Repr

/-- `errors.Cause`: the error under all wrapping layers. -/
def Err.cause : Err → Err
  | .wrap e _ => e.cause
  | e => e

@[simp] theorem Err.cause_wrap (e : Err) (msg : String) : (Err.wrap e msg).cause = e.cause := rfl

/-- A computation that goes on after a step succeeds only when the step did. -/
theorem Except.bind_eq_ok {ε α β : Type} {x : Except ε α} {f : α → Except ε β} {b : β} :
    x >>= f = .ok b ↔ ∃ a, x = .ok a ∧ f a = .ok b := by
  cases x <;> simp [bind, Except.bind]

/-! ## `uint64` -/

theorem UInt64.lt_iff_toNat_lt {a b : UInt64} : a < b ↔ a.toNat < b.toNat := Iff.rfl

theorem UInt64.le_iff_toNat_le {a b : UInt64} : a ≤ b ↔ a.toNat ≤ b.toNat := Iff.rfl

theorem UInt64.toNat_inj {a b : UInt64} : a.toNat = b.toNat ↔ a = b :=
  ⟨fun h => UInt64.eq_of_val_eq (Fin.ext h), congrArg _⟩

theorem UInt64.toNat_add_one {a : UInt64} (h : a.toNat + 1 < 2 ^ 64) : (a + 1).toNat = a.toNat + 1 :=
  show (a.toNat + 1) % 2 ^ 64 = a.toNat + 1 from Nat.mod_eq_of_lt h

theorem UInt64.toNat_ofNat_eq (n : Nat) : (UInt64.ofNat n).toNat = n % 2 ^ 64 := rfl

theorem UInt64.ofNat_toNat_eq (a : UInt64) : UInt64.ofNat a.toNat = a :=
  UInt64.toNat_inj.mp ((UInt64.toNat_ofNat_eq _).trans (Nat.mod_eq_of_lt a.toNat_lt_size))

/-! ## Big-endian heights -/

/-- The `n` low bytes of `v`, most significant first (`binary.BigEndian`). -/
def encodeBE : Nat → Nat → Bytes
  | 0, _ => []
  | n + 1, v => encodeBE n (v / 256) ++ [UInt8.ofNat (v % 256)]

/-- The number a big-endian byte string denotes. -/
def decodeBE (b : Bytes) : Nat := b.foldl (fun acc x => acc * 256 + x.toNat) 0

theorem decodeBE_append (b : Bytes) (x : UInt8) :
    decodeBE (b ++ [x]) = decodeBE b * 256 + x.toNat := by
  simp [decodeBE]

theorem decodeBE_encodeBE : ∀ n v, decodeBE (encodeBE n v) = v % 256 ^ n
  | 0, v => by simp [decodeBE, encodeBE, Nat.mod_one]
  | n + 1, v => by
    have hx : (UInt8.ofNat (v % 256)).toNat = v % 256 % 256 := rfl
    rw [encodeBE, decodeBE_append, decodeBE_encodeBE n, hx, Nat.pow_succ', Nat.mod_mul,
      Nat.mod_mod]
    omega

/-- Modelled from the spec: `byteutil.Uint64ToBytesBigEndian` (pkg/util, outside this file
    set), the value the indexer stores under its checkpoint key. -/
def uint64ToBytesBigEndian (v : UInt64) : Bytes := encodeBE 8 v.toNat

/-- Modelled from the spec: `byteutil.BytesToUint64BigEndian`, how a checkpoint is read
    back. -/
def bytesToUint64BigEndian (b : Bytes) : UInt64 := UInt64.ofNat (decodeBE b)

/-- **The checkpoint encoding round-trips.** -/
theorem bytesToUint64BigEndian_uint64ToBytesBigEndian (v : UInt64) :
    bytesToUint64BigEndian (uint64ToBytesBigEndian v) = v := by
  have hv : v.toNat < 2 ^ 64 := v.toNat_lt_size
  rw [← UInt64.toNat_inj, bytesToUint64BigEndian, uint64ToBytesBigEndian, UInt64.toNat_ofNat_eq,
    decodeBE_encodeBE]
  omega

example : uint64ToBytesBigEndian 258 = [0, 0, 0, 0, 0, 0, 1, 2] := by decide

end IotexCore
