import GoSynapse.Float64

/-! # `Do` in package `internal/retry`

`Do` calls `fn` until it returns nil or call `MaxRetries` has failed, waiting a growing
interval after each failed call but the last. Call `k` returns `fn k`; the context answers
`ctx.err k` before it and `ctx.wake k` for the wait after it. -/

namespace Retry

open GoSynapse

structure Config where
  maxRetries : Int
  initialInterval : Int
  maxInterval : Int
  multiplier : ℚ

def defaultConfig : Config := ⟨10, 1000000000, 30 * 1000000000, 3 / 2⟩

/-- What the context answers before call `k` and during the wait after it. -/
structure Context where
  err : Nat → Option GoError
  wake : Nat → Wake

def Context.background : Context := ⟨fun _ => none, fun _ => .elapsed⟩

@[simp] theorem Context.background_err (k : Nat) : Context.background.err k = none := rfl

@[simp] theorem Context.background_wake (k : Nat) : Context.background.wake k = .elapsed := rfl

inductive Action where
  | call
  | sleep (interval : Int)
  deriving DecidableEq, Repr

/-- The interval after a wait: multiplied by `Multiplier` in `float64`, capped. -/
def Config.nextInterval (cfg : Config) (outOfRange : ℚ → Int) (interval : Int) : Int :=
  growDuration outOfRange cfg.multiplier cfg.maxInterval interval

section Loop

variable (cfg : Config) (outOfRange : ℚ → Int) (ctx : Context) (fn : Nat → Option GoError)

def doLoop : Nat → Nat → Int → Option GoError → List Action × Option GoError
  | 0, _, _, lastErr => ([], lastErr)
  | left + 1, attempt, interval, _ =>
    match ctx.err attempt with
    | some err => ([], some err)
    | none =>
      match fn attempt with
      | none => ([.call], none)
      | some err =>
        if (attempt : Int) = cfg.maxRetries then ([.call], some err)
        else
          match ctx.wake attempt with
          | .done ctxErr => ([.call, .sleep interval], some ctxErr)
          | .elapsed =>
            let r := doLoop left (attempt + 1) (cfg.nextInterval outOfRange interval) (some err)
            (.call :: .sleep interval :: r.1, r.2)

def «do» : List Action × Option GoError :=
  doLoop cfg outOfRange ctx fn (cfg.maxRetries + 1).toNat 0 cfg.initialInterval none

end Loop

section Background

variable (cfg : Config) (outOfRange : ℚ → Int) (fn : Nat → Option GoError)

theorem doLoop_background : ∀ {m a : Nat} {i : Int} {l : Option GoError},
    (a + m : Int) = cfg.maxRetries + 1 → 0 < m →
    ∃ k < m, (doLoop cfg outOfRange .background fn m a i l).1.count .call = k + 1 ∧
      (doLoop cfg outOfRange .background fn m a i l).1.getLast? = some .call ∧
      (doLoop cfg outOfRange .background fn m a i l).2 = fn (a + k) ∧
      (∀ j < k, fn (a + j) ≠ none) ∧ (fn (a + k) = none ∨ k + 1 = m)
  | m + 1, a, i, l, hm, _ => by
    cases hf : fn a with
    | none =>
      have hrun : doLoop cfg outOfRange .background fn (m + 1) a i l = ([.call], none) := by
        simp [doLoop, hf]
      rw [hrun]
      exact ⟨0, Nat.succ_pos m, rfl, rfl, hf.symm, fun _ h => absurd h (Nat.not_lt_zero _), .inl hf⟩
    | some err =>
      by_cases hlast : (a : Int) = cfg.maxRetries
      · obtain rfl : m = 0 := by omega
        simp only [doLoop, Context.background_err, hf, hlast, if_true]
        exact ⟨0, Nat.one_pos, rfl, rfl, hf.symm, fun _ h => absurd h (Nat.not_lt_zero _), .inr rfl⟩
      · obtain ⟨k, hk, hcount, hend, hres, hbefore, hstop⟩ :=
          doLoop_background (m := m) (a := a + 1) (i := cfg.nextInterval outOfRange i)
            (l := some err) (by push_cast; omega) (by omega)
        rw [Nat.add_right_comm] at hres hstop
        simp only [doLoop, Context.background_err, Context.background_wake, hf, hlast, if_false]
        refine ⟨k + 1, by omega, by simp [hcount], ?_, hres, ?_, hstop.imp_right (by omega)⟩
        · rw [List.getLast?_cons_cons, List.getLast?_cons, hend]
          rfl
        · intro j hj
          cases j with
          | zero => simp [hf]
          | succ j => simpa [Nat.add_right_comm] using hbefore j (by omega)

/-- Under a context never cancelled, `Do` ends on call `k ≤ MaxRetries` and returns what it
returned, every earlier call having failed, and stops early only at a nil. -/
theorem do_background (h0 : 0 ≤ cfg.maxRetries) :
    ∃ k ≤ cfg.maxRetries.toNat, («do» cfg outOfRange .background fn).1.count .call = k + 1 ∧
      («do» cfg outOfRange .background fn).1.getLast? = some .call ∧
      («do» cfg outOfRange .background fn).2 = fn k ∧
      (∀ j < k, fn j ≠ none) ∧ (fn k = none ∨ k = cfg.maxRetries.toNat) := by
  have hn : (cfg.maxRetries + 1).toNat = cfg.maxRetries.toNat + 1 := by omega
  obtain ⟨k, hk, h⟩ := doLoop_background cfg outOfRange fn (m := cfg.maxRetries.toNat + 1)
    (a := 0) (i := cfg.initialInterval) (l := none) (by push_cast; omega) (Nat.succ_pos _)
  exact ⟨k, Nat.le_of_lt_succ hk, by simpa [«do», hn] using h⟩

theorem do_background_ends_on_call :
    0 ≤ defaultConfig.maxRetries ∧
      («do» defaultConfig (fun _ => 0) .background fun _ => some contextCanceled).1.getLast? =
        some .call :=
  ⟨by decide, (do_background defaultConfig (fun _ => 0) (fun _ => some contextCanceled)
    (by decide)).choose_spec.2.2.1⟩

end Background

section Schedule

variable (cfg : Config) (outOfRange : ℚ → Int) (ctx : Context) (fn : Nat → Option GoError)

def Action.interval? : Action → Option Int
  | .call => none
  | .sleep interval => some interval

theorem doLoop_sleeps : ∀ (m a : Nat) (i : Int) (l : Option GoError), ∃ n,
    (doLoop cfg outOfRange ctx fn m a i l).1.filterMap Action.interval? =
      (List.range n).map fun k => (cfg.nextInterval outOfRange)^[k] i
  | 0, _, _, _ => ⟨0, rfl⟩
  | m + 1, a, i, l => by
    simp only [doLoop]
    split
    · exact ⟨0, rfl⟩
    split
    · exact ⟨0, rfl⟩
    next err _ =>
    split
    · exact ⟨0, rfl⟩
    split
    · exact ⟨1, rfl⟩
    obtain ⟨n, hn⟩ := doLoop_sleeps m (a + 1) (cfg.nextInterval outOfRange i) (some err)
    refine ⟨n + 1, ?_⟩
    simp only [List.filterMap_cons, Action.interval?, hn, List.range_succ_eq_map, List.map_cons,
      List.map_map]
    rfl

/-- The interval `Do` waits after its `k`-th failed call. -/
def Config.intervals (k : Nat) : Int :=
  (cfg.nextInterval outOfRange)^[k] cfg.initialInterval

variable {cfg}

/-- `Do`'s waits are the first intervals of the schedule; they never shrink and stay within
`[InitialInterval, MaxInterval]`. -/
theorem do_sleeps (hm : 1 ≤ cfg.multiplier) (hmax : cfg.maxInterval ≤ 2 ^ 53)
    (hfit : (cfg.maxInterval : ℚ) * cfg.multiplier ≤ 2 ^ 62)
    (h0 : 0 ≤ cfg.initialInterval) (h1 : cfg.initialInterval ≤ cfg.maxInterval) :
    ∃ n, («do» cfg outOfRange ctx fn).1.filterMap Action.interval? =
        (List.range n).map (cfg.intervals outOfRange) ∧
      List.Sorted (· ≤ ·) ((«do» cfg outOfRange ctx fn).1.filterMap Action.interval?) ∧
      ∀ d ∈ («do» cfg outOfRange ctx fn).1.filterMap Action.interval?,
        cfg.initialInterval ≤ d ∧ d ≤ cfg.maxInterval := by
  obtain ⟨n, hn⟩ := doLoop_sleeps cfg outOfRange ctx fn (cfg.maxRetries + 1).toNat 0
    cfg.initialInterval none
  refine ⟨n, hn, ?_⟩
  rw [«do», hn]
  exact growDuration_schedule hm hmax hfit h0 h1 n

theorem do_sleeps_default :
    1 ≤ defaultConfig.multiplier ∧ defaultConfig.maxInterval ≤ 2 ^ 53 ∧
      (defaultConfig.maxInterval : ℚ) * defaultConfig.multiplier ≤ 2 ^ 62 ∧
      0 ≤ defaultConfig.initialInterval ∧ defaultConfig.initialInterval ≤ defaultConfig.maxInterval ∧
      ∀ d ∈ («do» defaultConfig (fun _ => 0) .background fun _ => some contextCanceled).1.filterMap
        Action.interval?, 1000000000 ≤ d ∧ d ≤ 30000000000 :=
  ⟨by norm_num [defaultConfig], by norm_num [defaultConfig], by norm_num [defaultConfig],
    by decide, by decide,
    (@do_sleeps defaultConfig (fun _ => 0) .background (fun _ => some contextCanceled)
      (by norm_num [defaultConfig]) (by norm_num [defaultConfig]) (by norm_num [defaultConfig])
      (by decide) (by decide)).choose_spec.2.2⟩

end Schedule

section AnyContext

variable (cfg : Config) (outOfRange : ℚ → Int) (ctx : Context) (fn : Nat → Option GoError)

theorem doLoop_calls : ∀ (m a : Nat) (i : Int) (l : Option GoError),
    (doLoop cfg outOfRange ctx fn m a i l).1.count .call ≤ m ∧
    (∀ j < (doLoop cfg outOfRange ctx fn m a i l).1.count .call, ctx.err (a + j) = none) ∧
    ((0 < m ∨ l ≠ none) → (doLoop cfg outOfRange ctx fn m a i l).2 = none →
      ∃ k, (doLoop cfg outOfRange ctx fn m a i l).1.count .call = k + 1 ∧ fn (a + k) = none)
  | 0, _, _, _ =>
    ⟨le_rfl, fun _ h => absurd h (Nat.not_lt_zero _),
      fun h h' => (h.resolve_left (lt_irrefl 0) h').elim⟩
  | m + 1, a, i, l => by
    simp only [doLoop]
    split
    · simp
    next herr =>
    split
    · next hf => exact ⟨by simp, by simp [herr], fun _ _ => ⟨0, rfl, hf⟩⟩
    next err _ =>
    split
    · exact ⟨by simp, by simp [herr], by simp⟩
    split
    · exact ⟨by simp, by simp [herr], by simp⟩
    obtain ⟨hc, hctx, hnil⟩ := doLoop_calls m (a + 1) (cfg.nextInterval outOfRange i) (some err)
    refine ⟨by simp; omega, fun j hj => ?_, fun _ h => ?_⟩
    · cases j with
      | zero => exact herr
      | succ j => simpa [Nat.add_right_comm] using hctx j (by simpa using hj)
    · obtain ⟨k, hk, hfk⟩ := hnil (.inr (Option.some_ne_none _)) h
      exact ⟨k + 1, by simp [hk], by simpa [Nat.add_right_comm] using hfk⟩

/-- Under any context, `Do` calls `fn` at most `MaxRetries + 1` times, never after `ctx.Err()`
answered an error, and returns nil only after a call that did. -/
theorem do_calls (h0 : 0 ≤ cfg.maxRetries) :
    («do» cfg outOfRange ctx fn).1.count .call ≤ cfg.maxRetries.toNat + 1 ∧
    (∀ j < («do» cfg outOfRange ctx fn).1.count .call, ctx.err j = none) ∧
    ((«do» cfg outOfRange ctx fn).2 = none →
      ∃ k, («do» cfg outOfRange ctx fn).1.count .call = k + 1 ∧ fn k = none) := by
  have hn : (cfg.maxRetries + 1).toNat = cfg.maxRetries.toNat + 1 := by omega
  obtain ⟨hc, hctx, hnil⟩ := doLoop_calls cfg outOfRange ctx fn (cfg.maxRetries.toNat + 1) 0
    cfg.initialInterval none
  simp only [Nat.zero_add] at hctx hnil
  exact ⟨by rw [«do», hn]; exact hc, by rw [«do», hn]; exact hctx,
    by rw [«do», hn]; exact hnil (.inl (Nat.succ_pos _))⟩

theorem do_calls_cancelled :
    0 ≤ defaultConfig.maxRetries ∧
      («do» defaultConfig (fun _ => 0) ⟨fun k => if k = 3 then some contextCanceled else none,
        fun _ => .elapsed⟩ fun _ => some (.plain "connection refused")).1.count .call ≤ 11 :=
  ⟨by decide, (do_calls defaultConfig (fun _ => 0)
    ⟨fun k => if k = 3 then some contextCanceled else none, fun _ => .elapsed⟩
    (fun _ => some (.plain "connection refused")) (by decide)).1⟩

end AnyContext


/-- With a negative `MaxRetries`, `Do` returns nil without calling `fn`. -/
theorem do_negative_max_retries_never_calls (n : Nat) (cfg : Config) (outOfRange : ℚ → Int)
    (ctx : Context) (fn : Nat → Option GoError) :
    «do» { cfg with maxRetries := Int.negSucc n } outOfRange ctx fn = ([], none) := by
  have h : (Int.negSucc n + 1).toNat = 0 := by
    have := Int.negSucc_lt_zero n
    omega
  simp only [«do», h, doLoop]

end Retry
