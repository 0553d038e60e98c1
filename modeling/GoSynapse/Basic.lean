import Mathlib.Data.Finset.Card
import Mathlib.Data.List.Sort
import Mathlib.Data.Rat.Floor
import Mathlib.Data.String.Basic

/-! # Go values shared by the modelled packages

An `error` is its text and the error it wraps with `%w`; a sentinel from `errors.New` also
carries an identity, which `errors.Is` compares. A `uint64` is a `UInt64`; an `int64` is an
`Int` passed through `wrap64` after each operation that can leave its range. -/

theorem UInt64.toNat_add_one_of_lt {c : UInt64} (h : c.toNat + 1 < 2 ^ 64) :
    (c + 1).toNat = c.toNat + 1 := by
  rw [UInt64.toNat_add]
  exact Nat.mod_eq_of_lt h

theorem UInt64.lt_add_one_iff_le {x c : UInt64} (h : c.toNat + 1 < 2 ^ 64) :
    x < c + 1 ↔ x ≤ c := by
  show x.toNat < (c + 1).toNat ↔ x.toNat ≤ c.toNat
  rw [UInt64.toNat_add_one_of_lt h]
  omega

theorem UInt64.le_add_one_of_le {p c : UInt64} (h : c.toNat + 1 < 2 ^ 64) (hp : p ≤ c) :
    p ≤ c + 1 := by
  show p.toNat ≤ (c + 1).toNat
  rw [UInt64.toNat_add_one_of_lt h]
  exact Nat.le_succ_of_le hp

theorem UInt64.le_of_lt' {x c : UInt64} (h : x < c) : x ≤ c := Nat.le_of_lt h

theorem UInt64.zero_le' (c : UInt64) : 0 ≤ c := Nat.zero_le _

theorem UInt64.add_one_add_toUInt64 (c : UInt64) (i : Nat) :
    c + 1 + i.toUInt64 = c + (i + 1).toUInt64 := by
  apply UInt64.ext
  simp only [UInt64.toNat_add]
  show ((c.toNat + 1 % 2 ^ 64) % 2 ^ 64 + i % 2 ^ 64) % 2 ^ 64 = (c.toNat + (i + 1) % 2 ^ 64) % 2 ^ 64
  omega

theorem UInt64.add_toUInt64_zero (c : UInt64) : c + (0 : Nat).toUInt64 = c := by
  apply UInt64.ext
  simp only [UInt64.toNat_add]
  show (c.toNat + 0 % 2 ^ 64) % 2 ^ 64 = c.toNat
  have := c.toNat_lt
  omega

instance UInt64.instIsTotalLe : IsTotal UInt64 (· ≤ ·) := ⟨UInt64.le_total⟩
instance UInt64.instIsTransLe : IsTrans UInt64 (· ≤ ·) := ⟨fun _ _ _ => UInt64.le_trans⟩
instance UInt64.instIsAntisymmLe : IsAntisymm UInt64 (· ≤ ·) := ⟨fun _ _ => UInt64.le_antisymm⟩

namespace GoSynapse

inductive GoError where
  /-- A sentinel from `errors.New`, compared by identity. -/
  | sentinel (id : Nat) (text : String)
  /-- Any other error that wraps nothing: `fmt.Errorf` without `%w`, an RPC error. -/
  | plain (text : String)
  | wrap (text : String) (inner : GoError)
  deriving DecidableEq, Repr

namespace GoError

def error : GoError → String
  | sentinel _ t => t
  | plain t => t
  | wrap t _ => t

/-- `fmt.Errorf("<context>: %w", e)`. -/
def wrapf (context : String) (e : GoError) : GoError := wrap (context ++ ": " ++ e.error) e

/-- `errors.Is(e, target)`: `e` or an error on its `%w` chain is `target`. -/
def is (e target : GoError) : Bool :=
  e == target ||
    match e with
    | wrap _ inner => inner.is target
    | _ => false

@[simp] theorem wrapf_is (c : String) (e t : GoError) :
    (wrapf c e).is t = (wrapf c e == t || e.is t) := by
  simp [wrapf, is]

end GoError

/-- Two's-complement wrap of an exact integer result onto `int64`. -/
def wrap64 (x : Int) : Int :=
  (x + 9223372036854775808) % 18446744073709551616 - 9223372036854775808

theorem wrap64_of_mem {x : Int} (h1 : -9223372036854775808 ≤ x) (h2 : x < 9223372036854775808) :
    wrap64 x = x := by
  unfold wrap64; omega

@[simp] theorem wrap64_add_wrap64 (x y : Int) : wrap64 (wrap64 x + y) = wrap64 (x + y) := by
  unfold wrap64; omega

@[simp] theorem wrap64_sub_wrap64 (x y : Int) : wrap64 (wrap64 x - y) = wrap64 (x - y) := by
  unfold wrap64; omega

@[simp] theorem wrap64_add_wrap64_right (x y : Int) : wrap64 (x + wrap64 y) = wrap64 (x + y) := by
  unfold wrap64; omega

/-- `int64(x)` or `time.Duration(x)` of a `float64`: the fraction is dropped, and a value
out of range gives `outOfRange x`, which Go leaves to the implementation. -/
def int64OfFloat (outOfRange : ℚ → Int) (x : ℚ) : Int :=
  let t := if 0 ≤ x then ⌊x⌋ else ⌈x⌉
  if -9223372036854775808 ≤ t ∧ t < 9223372036854775808 then t else outOfRange x

theorem int64OfFloat_of_nonneg {outOfRange : ℚ → Int} {x : ℚ} (h0 : 0 ≤ x)
    (h : x < 9223372036854775808) : int64OfFloat outOfRange x = ⌊x⌋ := by
  have h1 : 0 ≤ ⌊x⌋ := Int.floor_nonneg.mpr h0
  have h2 : ⌊x⌋ < 9223372036854775808 := Int.floor_lt.mpr (by exact_mod_cast h)
  simp only [int64OfFloat, if_pos h0]
  exact if_pos ⟨by omega, h2⟩

def contextCanceled : GoError := .sentinel 4 "context canceled"

/-- How a `select` on `ctx.Done()` and a timer ends. -/
inductive Wake where
  | elapsed
  | done (ctxErr : GoError)
  deriving DecidableEq, Repr

end GoSynapse
