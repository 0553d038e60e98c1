import GoSynapse.Basic

/-! # `EstimateGasWithBuffer` in package `txutil`

The buffer is computed in `big.Int` from `int64(gasLimit)`, divided by `100` with
`big.Int.Div`, and read back with `Uint64()`; the sum is a `uint64` sum. -/

namespace Txutil

open GoSynapse

/-- `big.Int.Uint64`: the low 64 bits of `|x|`. -/
def bigIntUint64 (x : Int) : UInt64 := x.natAbs.toUInt64

theorem uint64_size : UInt64.size = 2 ^ 64 := rfl

theorem toNat_bigIntUint64 (x : Int) : (bigIntUint64 x).toNat = x.natAbs % 2 ^ 64 := rfl

def estimateGasWithBuffer (estimateGas : Except GoError UInt64) (bufferPercent : Int) :
    Except GoError UInt64 :=
  if bufferPercent < 0 ∨ bufferPercent > 100 then
    .error (.plain "buffer percent must be between 0 and 100")
  else
    match estimateGas with
    | .error err => .error (err.wrapf "failed to estimate gas")
    | .ok gasLimit =>
      if bufferPercent > 0 then
        .ok (gasLimit + bigIntUint64 (wrap64 gasLimit.toNat * bufferPercent / 100))
      else .ok gasLimit

section Buffer

variable {gasLimit : UInt64} {bufferPercent : Int}

theorem estimateGasWithBuffer_ok (h0 : 0 ≤ bufferPercent) (h100 : bufferPercent ≤ 100) :
    estimateGasWithBuffer (.ok gasLimit) bufferPercent =
      .ok (gasLimit + bigIntUint64 (wrap64 gasLimit.toNat * bufferPercent / 100)) := by
  unfold estimateGasWithBuffer
  rw [if_neg (by omega)]
  split_ifs with hp
  · rfl
  · obtain rfl : bufferPercent = 0 := by omega
    refine congrArg Except.ok (UInt64.ext ?_)
    rw [UInt64.toNat_add, toNat_bigIntUint64, Int.mul_zero, Int.zero_ediv, uint64_size]
    have := gasLimit.toNat_lt
    omega

/-- Below `2⁶³` the buffered estimate is the estimate plus `bufferPercent` percent of it, rounded
down. -/
theorem estimateGasWithBuffer_of_lt (h0 : 0 ≤ bufferPercent) (h100 : bufferPercent ≤ 100)
    (hg : gasLimit.toNat < 2 ^ 63) :
    ∃ r, estimateGasWithBuffer (.ok gasLimit) bufferPercent = .ok r ∧
      r.toNat = gasLimit.toNat + gasLimit.toNat * bufferPercent.toNat / 100 := by
  refine ⟨_, estimateGasWithBuffer_ok h0 h100, ?_⟩
  obtain ⟨q, rfl⟩ := Int.eq_ofNat_of_zero_le h0
  have hw : wrap64 gasLimit.toNat = gasLimit.toNat := wrap64_of_mem (by omega) (by omega)
  have hq := Nat.mul_le_mul_left gasLimit.toNat (show q ≤ 100 by omega)
  rw [UInt64.toNat_add, toNat_bigIntUint64, hw, Int.toNat_ofNat, uint64_size]
  omega

theorem estimateGasWithBuffer_transfer :
    (0 : Int) ≤ 10 ∧ (10 : Int) ≤ 100 ∧ (21000 : UInt64).toNat < 2 ^ 63 ∧
      ∃ r, estimateGasWithBuffer (.ok 21000) 10 = .ok r ∧ r.toNat = 23100 :=
  ⟨by decide, by decide, by decide,
    let ⟨r, hr, hn⟩ := estimateGasWithBuffer_of_lt (by decide : (0 : Int) ≤ 10) (by decide)
      (by decide : (21000 : UInt64).toNat < 2 ^ 63)
    ⟨r, hr, hn.trans (by decide)⟩⟩

/-- From `2⁶³` on, `int64(gasLimit)` is negative, the buffer is taken from `2⁶⁴ - gasLimit`
rounded up, and the sum wraps. -/
theorem estimateGasWithBuffer_of_ge (h0 : 0 < bufferPercent) (h100 : bufferPercent ≤ 100)
    (hg : 2 ^ 63 ≤ gasLimit.toNat) :
    ∃ r, estimateGasWithBuffer (.ok gasLimit) bufferPercent = .ok r ∧
      r.toNat = (gasLimit.toNat + ((2 ^ 64 - gasLimit.toNat) * bufferPercent.toNat + 99) / 100)
        % 2 ^ 64 := by
  refine ⟨_, estimateGasWithBuffer_ok h0.le h100, ?_⟩
  obtain ⟨q, rfl⟩ := Int.eq_ofNat_of_zero_le h0.le
  have hlt := gasLimit.toNat_lt
  have hw : wrap64 gasLimit.toNat * q = -((2 ^ 64 - gasLimit.toNat) * q : Nat) := by
    rw [show wrap64 gasLimit.toNat = -((2 ^ 64 - gasLimit.toNat : Nat) : Int) by
      unfold wrap64; omega]
    push_cast
    ring
  rw [UInt64.toNat_add, toNat_bigIntUint64, hw, Int.toNat_ofNat, uint64_size]
  omega

theorem estimateGasWithBuffer_max_wraps :
    (0 : Int) < 100 ∧ (100 : Int) ≤ 100 ∧ 2 ^ 63 ≤ (18446744073709551615 : UInt64).toNat ∧
      ∃ r, estimateGasWithBuffer (.ok 18446744073709551615) 100 = .ok r ∧ r.toNat = 0 :=
  ⟨by decide, by decide, by decide,
    let ⟨r, hr, hn⟩ := estimateGasWithBuffer_of_ge (by decide : (0 : Int) < 100) (by decide)
      (by decide : 2 ^ 63 ≤ (18446744073709551615 : UInt64).toNat)
    ⟨r, hr, hn.trans (by decide)⟩⟩

end Buffer

end Txutil
