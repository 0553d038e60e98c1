import GoSynapse.Basic
import Mathlib.Data.Int.Log

/-! # `float64` products of durations

`time.Duration(float64(d) * multiplier)` rounds `d` and the product to the nearest `float64`,
ties to even, and drops the fraction. The exponent is unbounded: a subnormal product
truncates to `0` either way, and an overflowing one is out of `int64`'s range. -/

namespace GoSynapse

def roundHalfEven (x : ℚ) : Int :=
  if x - ⌊x⌋ < 1 / 2 then ⌊x⌋
  else if 1 / 2 < x - ⌊x⌋ then ⌊x⌋ + 1
  else if ⌊x⌋ % 2 = 0 then ⌊x⌋ else ⌊x⌋ + 1

/-- The `float64` nearest to `x`: its significand at its binade rounded to 53 bits. -/
def roundFloat64 (x : ℚ) : ℚ :=
  roundHalfEven (x / 2 ^ (Int.log 2 |x| - 52)) * 2 ^ (Int.log 2 |x| - 52)

/-- `next := time.Duration(float64(d) * multiplier)`, then `if next > max { next = max }`. -/
def growDuration (outOfRange : ℚ → Int) (multiplier : ℚ) (max d : Int) : Int :=
  let next := int64OfFloat outOfRange (roundFloat64 (roundFloat64 d * multiplier))
  if next > max then max else next

theorem roundHalfEven_intCast (n : Int) : roundHalfEven n = n := by
  simp [roundHalfEven]

theorem roundHalfEven_mono {x y : ℚ} (h : x ≤ y) : roundHalfEven x ≤ roundHalfEven y := by
  have hx := Int.floor_le x
  have hy := Int.lt_floor_add_one y
  unfold roundHalfEven
  rcases (Int.floor_mono h).lt_or_eq with hlt | heq
  · split_ifs <;> omega
  · rw [← heq]
    split_ifs <;> first | omega | (exfalso; linarith)

theorem two_pow_mul_binade (n : Nat) (a : Int) :
    (2 : ℚ) ^ n * 2 ^ (a - 52) = 2 ^ (a + n - 52) := by
  rw [← zpow_natCast, ← zpow_add₀ two_ne_zero]; ring_nf

theorem significand_mem {x : ℚ} (hx : 0 < x) :
    2 ^ 52 ≤ x / 2 ^ (Int.log 2 x - 52) ∧ x / 2 ^ (Int.log 2 x - 52) < 2 ^ 53 := by
  have hlo := Int.zpow_log_le_self (b := 2) one_lt_two hx
  have hhi := Int.lt_zpow_succ_log_self (b := 2) one_lt_two x
  have hp : (0 : ℚ) < 2 ^ (Int.log 2 x - 52) := zpow_pos two_pos _
  push_cast at hlo hhi
  rw [le_div_iff₀ hp, div_lt_iff₀ hp, two_pow_mul_binade, two_pow_mul_binade]
  exact ⟨(le_of_eq (by congr 1; push_cast; ring)).trans hlo,
    hhi.trans_eq (by congr 1; push_cast; ring)⟩

theorem roundFloat64_nonneg {x : ℚ} (h : 0 ≤ x) : 0 ≤ roundFloat64 x := by
  have hp : (0 : ℚ) < 2 ^ (Int.log 2 |x| - 52) := zpow_pos two_pos _
  have hr : roundHalfEven 0 ≤ roundHalfEven (x / 2 ^ (Int.log 2 |x| - 52)) :=
    roundHalfEven_mono (div_nonneg h hp.le)
  rw [show (0 : ℚ) = ((0 : Int) : ℚ) by simp, roundHalfEven_intCast] at hr
  exact mul_nonneg (by exact_mod_cast hr) hp.le

theorem roundFloat64_of_significand {x : ℚ} {m : Int}
    (h : x / 2 ^ (Int.log 2 |x| - 52) = m) : roundFloat64 x = x := by
  have hp : (2 : ℚ) ^ (Int.log 2 |x| - 52) ≠ 0 := zpow_ne_zero _ two_ne_zero
  rw [roundFloat64, h, roundHalfEven_intCast, ← h, div_mul_cancel₀ _ hp]

theorem roundFloat64_two_zpow (k : Int) : roundFloat64 (2 ^ k) = 2 ^ k := by
  have hk : Int.log 2 ((2 : ℚ) ^ k) = k := by exact_mod_cast Int.log_zpow (R := ℚ) one_lt_two k
  refine roundFloat64_of_significand (m := 2 ^ 52) ?_
  rw [abs_of_pos (zpow_pos two_pos k), hk, ← zpow_sub₀ two_ne_zero]
  norm_num

theorem roundFloat64_intCast {n : Int} (h0 : 0 ≤ n) (h : n ≤ 2 ^ 53) : roundFloat64 n = n := by
  rcases h0.lt_or_eq with hn | rfl
  · have hx : (0 : ℚ) < n := by exact_mod_cast hn
    rcases h.lt_or_eq with hlt | rfl
    · have he : Int.log 2 (n : ℚ) < 53 :=
        (Int.lt_zpow_iff_log_lt one_lt_two hx).mp (by exact_mod_cast hlt)
      obtain ⟨k, hk⟩ : ∃ k : Nat, Int.log 2 (n : ℚ) - 52 = -k :=
        ⟨(52 - Int.log 2 (n : ℚ)).toNat, by omega⟩
      refine roundFloat64_of_significand (m := n * 2 ^ k) ?_
      rw [abs_of_pos hx, hk, zpow_neg, zpow_natCast, div_inv_eq_mul]
      push_cast
      rfl
    · exact_mod_cast roundFloat64_two_zpow 53
  · simp [roundFloat64, roundHalfEven]

theorem roundHalfEven_le_two_pow {x : ℚ} {n : Nat} (h : x ≤ 2 ^ n) :
    roundHalfEven x ≤ 2 ^ n := by
  have h' : x ≤ ((2 ^ n : Int) : ℚ) := by exact_mod_cast h
  simpa only [roundHalfEven_intCast] using roundHalfEven_mono h'

theorem two_pow_le_roundHalfEven {x : ℚ} {n : Nat} (h : 2 ^ n ≤ x) :
    2 ^ n ≤ roundHalfEven x := by
  have h' : ((2 ^ n : Int) : ℚ) ≤ x := by exact_mod_cast h
  simpa only [roundHalfEven_intCast] using roundHalfEven_mono h'

/-- Rounding is monotone: within a binade it rounds the significand, and a larger binade
starts where a smaller one's roundings end. -/
theorem roundFloat64_mono {x y : ℚ} (h0 : 0 ≤ x) (h : x ≤ y) :
    roundFloat64 x ≤ roundFloat64 y := by
  rcases h0.lt_or_eq with hx | rfl
  swap
  · simpa [roundFloat64, roundHalfEven] using roundFloat64_nonneg h
  have hy := hx.trans_le h
  have hpy : (0 : ℚ) < 2 ^ (Int.log 2 y - 52) := zpow_pos two_pos _
  unfold roundFloat64
  rw [abs_of_pos hx, abs_of_pos hy]
  rcases (Int.log_mono_right (b := 2) hx h).lt_or_eq with hlt | heq
  · have hpx : (0 : ℚ) < 2 ^ (Int.log 2 x - 52) := zpow_pos two_pos _
    have hrx := roundHalfEven_le_two_pow (significand_mem hx).2.le
    have hry := two_pow_le_roundHalfEven (significand_mem hy).1
    calc (roundHalfEven (x / 2 ^ (Int.log 2 x - 52)) : ℚ) * 2 ^ (Int.log 2 x - 52)
        ≤ 2 ^ 53 * 2 ^ (Int.log 2 x - 52) :=
          mul_le_mul_of_nonneg_right (by exact_mod_cast hrx) hpx.le
      _ ≤ 2 ^ 52 * 2 ^ (Int.log 2 y - 52) := by
          rw [two_pow_mul_binade, two_pow_mul_binade]
          exact zpow_le_zpow_right₀ one_le_two (by push_cast; omega)
      _ ≤ roundHalfEven (y / 2 ^ (Int.log 2 y - 52)) * 2 ^ (Int.log 2 y - 52) :=
          mul_le_mul_of_nonneg_right (by exact_mod_cast hry) hpy.le
  · rw [heq]
    exact mul_le_mul_of_nonneg_right
      (by exact_mod_cast roundHalfEven_mono (div_le_div_of_nonneg_right h hpy.le)) hpy.le

/-- Growing a duration of `[0, max]` never shrinks it and never passes `max`, while `max` is
a `float64` and the product stays far from `int64`'s range. -/
theorem growDuration_mem {outOfRange : ℚ → Int} {m : ℚ} {max d : Int} (hm : 1 ≤ m)
    (hmax : max ≤ 2 ^ 53) (hfit : (max : ℚ) * m ≤ 2 ^ 62) (h0 : 0 ≤ d) (hd : d ≤ max) :
    d ≤ growDuration outOfRange m max d ∧ growDuration outOfRange m max d ≤ max := by
  have hd0 : (0 : ℚ) ≤ d := by exact_mod_cast h0
  have hexact : roundFloat64 d = d := roundFloat64_intCast h0 (hd.trans hmax)
  have hle : (d : ℚ) ≤ d * m := le_mul_of_one_le_right hd0 hm
  have hprod : (d : ℚ) * m ≤ 2 ^ 62 :=
    (mul_le_mul_of_nonneg_right (by exact_mod_cast hd) (by linarith)).trans hfit
  have h62 : roundFloat64 (2 ^ 62) = 2 ^ 62 := by exact_mod_cast roundFloat64_two_zpow 62
  have hlo : (d : ℚ) ≤ roundFloat64 (d * m) := by
    simpa only [hexact] using roundFloat64_mono hd0 hle
  have hhi : roundFloat64 (d * m) ≤ 2 ^ 62 := h62 ▸ roundFloat64_mono (hd0.trans hle) hprod
  have hfl : d ≤ ⌊roundFloat64 (d * m)⌋ := Int.le_floor.mpr hlo
  simp only [growDuration, hexact, int64OfFloat_of_nonneg (hd0.trans hlo) (hhi.trans_lt (by norm_num))]
  split_ifs <;> omega

section Schedule

variable {outOfRange : ℚ → Int} {m : ℚ} {max d : Int} (hm : 1 ≤ m) (hmax : max ≤ 2 ^ 53)
  (hfit : (max : ℚ) * m ≤ 2 ^ 62) (h0 : 0 ≤ d) (hd : d ≤ max)
include hm hmax hfit h0 hd

theorem growDuration_iterate_mem (k : Nat) :
    d ≤ (growDuration outOfRange m max)^[k] d ∧ (growDuration outOfRange m max)^[k] d ≤ max := by
  induction k with
  | zero => exact ⟨le_rfl, hd⟩
  | succ k ih =>
    rw [Function.iterate_succ_apply']
    have hk := @growDuration_mem outOfRange _ _ _ hm hmax hfit (h0.trans ih.1) ih.2
    exact ⟨ih.1.trans hk.1, hk.2⟩

/-- The waits of a loop that starts at `d` and grows after each wait: sorted, within
`[d, max]`. -/
theorem growDuration_schedule (n : Nat) :
    List.Sorted (· ≤ ·) ((List.range n).map fun k => (growDuration outOfRange m max)^[k] d) ∧
      ∀ x ∈ (List.range n).map fun k => (growDuration outOfRange m max)^[k] d, d ≤ x ∧ x ≤ max := by
  have hmono : Monotone fun k => (growDuration outOfRange m max)^[k] d :=
    monotone_nat_of_le_succ fun k => by
      have hk := @growDuration_iterate_mem outOfRange _ _ _ hm hmax hfit h0 hd k
      simpa only [Function.iterate_succ_apply'] using
        (growDuration_mem hm hmax hfit (h0.trans hk.1) hk.2).1
  refine ⟨List.pairwise_map.mpr ((List.pairwise_lt_range n).imp fun h => hmono h.le), ?_⟩
  simp only [List.mem_map, List.mem_range]
  rintro _ ⟨k, -, rfl⟩
  exact growDuration_iterate_mem hm hmax hfit h0 hd k

end Schedule

end GoSynapse
