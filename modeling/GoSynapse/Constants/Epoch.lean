import GoSynapse.Basic

/-! # Epochs and wall-clock time in package `constants`

An epoch lasts 30 seconds from the chain's genesis. `EpochToTime` reads the epoch with
`Int64()` and computes in `int64`; `TimeToEpoch` divides the seconds since genesis by 30. A
`time.Time` is compared by its `int64` seconds since year 1, then its nanoseconds. -/

namespace Constants

open GoSynapse

def chainIDMainnet : Int := 314
def chainIDCalibration : Int := 314159

def genesisTimestampsByChainID (chainID : Int) : Option Int :=
  if chainID = chainIDMainnet then some 1598306400
  else if chainID = chainIDCalibration then some 1667326380
  else none

def epochDurationSeconds : Int := 30

/-- The seconds from January 1 of year 1 to January 1, 1970. -/
def unixToInternal : Int := 62135596800

/-- A `time.Time` with no monotonic reading. -/
structure Time where
  sec : Int
  nsec : Nat
  nsec_lt : nsec < 1000000000

def Time.before (t u : Time) : Bool := t.sec < u.sec || (t.sec == u.sec && t.nsec < u.nsec)

instance : LT Time := ⟨fun t u => t.before u = true⟩

instance : LE Time := ⟨fun t u => u.before t = false⟩

instance (t u : Time) : Decidable (t < u) := inferInstanceAs (Decidable (t.before u = true))
instance (t u : Time) : Decidable (t ≤ u) := inferInstanceAs (Decidable (u.before t = false))

theorem Time.lt_iff {t u : Time} : t < u ↔ t.sec < u.sec ∨ t.sec = u.sec ∧ t.nsec < u.nsec := by
  show t.before u = true ↔ _
  simp [Time.before]

theorem Time.le_iff {t u : Time} : t ≤ u ↔ t.sec < u.sec ∨ t.sec = u.sec ∧ t.nsec ≤ u.nsec := by
  show u.before t = false ↔ _
  simp [Time.before]
  omega

def Time.zero : Time := ⟨0, 0, by decide⟩

def timeUnix (sec : Int) : Time := ⟨wrap64 (sec + unixToInternal), 0, by decide⟩

def Time.unix (t : Time) : Int := wrap64 (t.sec - unixToInternal)

/-- `x.Int64()`: the low 64 bits of `|x|` as an `int64`, negated for a negative `x`. -/
def bigIntInt64 (x : Int) : Int :=
  let v := wrap64 (x.natAbs % 18446744073709551616 : Nat)
  if x < 0 then wrap64 (-v) else v

def epochToTime (chainID : Int) (epoch : Int) : Time :=
  match genesisTimestampsByChainID chainID with
  | none => Time.zero
  | some genesis =>
    let epochSeconds := wrap64 (bigIntInt64 epoch * epochDurationSeconds)
    timeUnix (wrap64 (genesis + epochSeconds))

def timeToEpoch (chainID : Int) (t : Time) : Int :=
  match genesisTimestampsByChainID chainID with
  | none => 0
  | some genesis => (wrap64 (t.unix - genesis)).tdiv epochDurationSeconds

theorem bigIntInt64_eq (x : Int) : bigIntInt64 x = wrap64 x := by
  simp only [bigIntInt64, wrap64]
  split <;> omega

theorem genesisTimestampsByChainID_bounds {chainID genesis : Int}
    (h : genesisTimestampsByChainID chainID = some genesis) :
    0 ≤ genesis ∧ genesis ≤ 1667326380 := by
  unfold genesisTimestampsByChainID at h
  split_ifs at h <;> cases h <;> decide

section Chain

variable {chainID genesis : Int} (hg : genesisTimestampsByChainID chainID = some genesis)
include hg

theorem epochToTime_sec (e : Int) :
    (epochToTime chainID e).sec = wrap64 (genesis + e * 30 + 62135596800) := by
  simp only [epochToTime, hg, timeUnix, bigIntInt64_eq, epochDurationSeconds, unixToInternal]
  unfold wrap64
  omega

theorem epochToTime_nsec (e : Int) : (epochToTime chainID e).nsec = 0 := by
  simp only [epochToTime, hg, timeUnix]

theorem timeToEpoch_eq (t : Time) :
    timeToEpoch chainID t = (wrap64 (t.sec - 62135596800 - genesis)).tdiv 30 := by
  simp only [timeToEpoch, hg, Time.unix, wrap64_sub_wrap64, epochDurationSeconds, unixToInternal]

theorem timeToEpoch_epochToTime {e : Int} (h0 : 0 ≤ e) (hfit : e * 30 < 9223372036854775808) :
    timeToEpoch chainID (epochToTime chainID e) = e := by
  have hwrap : wrap64 (wrap64 (genesis + e * 30 + 62135596800) - 62135596800 - genesis) =
      e * 30 := by
    unfold wrap64; omega
  rw [timeToEpoch_eq hg, epochToTime_sec hg, hwrap, Int.tdiv_eq_ediv (by omega) (by decide)]
  omega

/-- From genesis on, `TimeToEpoch` is the floor inverse of `EpochToTime`. -/
theorem epochToTime_le_lt {t : Time} (ht : epochToTime chainID 0 ≤ t)
    (hend : t.sec + 30 < 9223372036854775808) :
    epochToTime chainID (timeToEpoch chainID t) ≤ t ∧
      t < epochToTime chainID (timeToEpoch chainID t + 1) := by
  obtain ⟨hg0, hg1⟩ := genesisTimestampsByChainID_bounds hg
  have hs : genesis + 62135596800 ≤ t.sec := by
    rw [Time.le_iff, epochToTime_sec hg, wrap64_of_mem (by omega) (by omega)] at ht
    omega
  have hq : timeToEpoch chainID t = (t.sec - 62135596800 - genesis) / 30 := by
    rw [timeToEpoch_eq hg, wrap64_of_mem (by omega) (by omega),
      Int.tdiv_eq_ediv (by omega) (by decide)]
  rw [Time.le_iff, Time.lt_iff, epochToTime_sec hg, epochToTime_sec hg, epochToTime_nsec hg, hq,
    wrap64_of_mem (by omega) (by omega), wrap64_of_mem (by omega) (by omega)]
  omega

theorem epochToTime_mono {e₁ e₂ : Int} (h0 : 0 ≤ e₁) (h12 : e₁ ≤ e₂)
    (hend : genesis + e₂ * 30 + 62135596800 < 9223372036854775808) :
    epochToTime chainID e₁ ≤ epochToTime chainID e₂ := by
  obtain ⟨hg0, -⟩ := genesisTimestampsByChainID_bounds hg
  rw [Time.le_iff, epochToTime_sec hg, epochToTime_sec hg, epochToTime_nsec hg, epochToTime_nsec hg,
    wrap64_of_mem (by omega) (by omega), wrap64_of_mem (by omega) (by omega)]
  omega

/-- For a supported chain and within the `int64` range: the round trip from an epoch, the
floor inverse from a time, and monotonicity of `EpochToTime`. -/
theorem epoch_time_conversions :
    (∀ e, 0 ≤ e → e * 30 < 9223372036854775808 →
      timeToEpoch chainID (epochToTime chainID e) = e) ∧
    (∀ t : Time, epochToTime chainID 0 ≤ t → t.sec + 30 < 9223372036854775808 →
      epochToTime chainID (timeToEpoch chainID t) ≤ t ∧
        t < epochToTime chainID (timeToEpoch chainID t + 1)) ∧
    (∀ e₁ e₂, 0 ≤ e₁ → e₁ ≤ e₂ → genesis + e₂ * 30 + 62135596800 < 9223372036854775808 →
      epochToTime chainID e₁ ≤ epochToTime chainID e₂) :=
  ⟨fun _ h0 hfit => timeToEpoch_epochToTime hg h0 hfit,
    fun _ ht hend => epochToTime_le_lt hg ht hend,
    fun _ _ h0 h12 hend => epochToTime_mono hg h0 h12 hend⟩

end Chain

theorem epoch_time_conversions_mainnet :
    genesisTimestampsByChainID 314 = some 1598306400 ∧
      timeToEpoch 314 (epochToTime 314 100000) = 100000 :=
  ⟨rfl, (epoch_time_conversions (rfl : genesisTimestampsByChainID 314 = some 1598306400)).1
    100000 (by decide) (by decide)⟩

/-- Past the `int64` range, epoch `2^64` reads as `0`, and the epoch after the last second a
`time.Time` holds starts at a negative second. -/
theorem epoch_round_trip_wraps :
    timeToEpoch 314 (epochToTime 314 18446744073709551616) = 0 ∧
      epochToTime 314 18446744073709551616 < epochToTime 314 1 ∧
      epochToTime 314 0 ≤ ⟨9223372036854775807, 0, by decide⟩ ∧
      ¬ (⟨9223372036854775807, 0, by decide⟩ : Time) <
        epochToTime 314 (timeToEpoch 314 ⟨9223372036854775807, 0, by decide⟩ + 1) := by
  decide

end Constants
