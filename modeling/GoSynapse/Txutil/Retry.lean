import GoSynapse.Float64

/-! # Retrying a send in package `txutil`

`SendTransactionWithRetry` sends one signed transaction until a call succeeds, an error is
not retryable, or `MaxRetries + 1` calls have failed, with a growing backoff before every call
but the first. Call `k` answers `send k`; the wait before it ends as `wake k`. -/

namespace Txutil

open GoSynapse

structure RetryConfig where
  maxRetries : Int
  initialBackoff : Int
  maxBackoff : Int
  backoffMultiple : ℚ

def defaultRetryConfig : RetryConfig := ⟨3, 1000000000, 30 * 1000000000, 2⟩

/-- `unicode.ToLower` on the runes whose lower case is ASCII, `İ` and the Kelvin sign among
them; every other rune lowers outside ASCII, where no retryable text reads. -/
def toLowerRune (c : Char) : Char :=
  if c = '\u0130' then 'i' else if c = '\u212A' then 'k' else c.toLower

def toLower (s : String) : List Char := s.toList.map toLowerRune

def contains (sub : List Char) : List Char → Bool
  | [] => sub.isPrefixOf []
  | c :: cs => sub.isPrefixOf (c :: cs) || contains sub cs

def retryableErrors : List String :=
  ["nonce too low", "replacement transaction underpriced", "already known", "timeout",
    "connection refused", "connection reset", "broken pipe", "i/o timeout"]

/-- `IsRetryableError` of a non-nil error (of nil it is `false`; the loop never asks). -/
def isRetryableError (err : GoError) : Bool :=
  retryableErrors.any fun retryable => contains retryable.toList (toLower err.error)

theorem contains_map (f : Char → Char) {sub s : List Char} (h : contains sub s = true) :
    contains (sub.map f) (s.map f) = true := by
  induction s with
  | nil => simp_all [contains, List.isPrefixOf_iff_prefix]
  | cons c cs ih =>
    simp only [contains, Bool.or_eq_true, List.isPrefixOf_iff_prefix, List.map_cons] at h ⊢
    rcases h with h | h
    · exact .inl (by simpa using h.map f)
    · exact .inr (ih h)

theorem isRetryableError_of_contains {err : GoError} {r : String} (hr : r ∈ retryableErrors)
    (h : contains r.toList err.error.toList = true) : isRetryableError err = true := by
  have hlow : ∀ r ∈ retryableErrors, r.toList.map toLowerRune = r.toList := by decide
  have := contains_map toLowerRune h
  rw [hlow r hr] at this
  exact List.any_eq_true.mpr ⟨r, hr, this⟩

example : isRetryableError (.plain "already \u212Anown") = true := by decide

inductive RetryAction (Tx : Type) where
  | send (tx : Tx)
  | wait (backoff : Int)
  deriving DecidableEq, Repr

def RetryAction.isSend {Tx : Type} : RetryAction Tx → Bool
  | .send _ => true
  | .wait _ => false

def RetryAction.backoff? {Tx : Type} : RetryAction Tx → Option Int
  | .send _ => none
  | .wait backoff => some backoff

def callCount {Tx : Type} (acts : List (RetryAction Tx)) : Nat :=
  (acts.filter RetryAction.isSend).length

@[simp] theorem callCount_nil {Tx : Type} : callCount ([] : List (RetryAction Tx)) = 0 := rfl

@[simp] theorem callCount_cons_send {Tx : Type} (tx : Tx) (acts : List (RetryAction Tx)) :
    callCount (.send tx :: acts) = callCount acts + 1 := by
  simp [callCount, RetryAction.isSend]

@[simp] theorem callCount_cons_wait {Tx : Type} (b : Int) (acts : List (RetryAction Tx)) :
    callCount (.wait b :: acts) = callCount acts := by
  simp [callCount, RetryAction.isSend]

/-- Before any call `lastErr` is nil, which `%w` prints as `%!w(<nil>)`. -/
def maxRetriesExceeded : Option GoError → GoError
  | some e => e.wrapf "max retries exceeded"
  | none => .plain "max retries exceeded: %!w(<nil>)"

/-- The backoff after a wait: multiplied by `BackoffMultiple` in `float64`, capped. -/
def RetryConfig.nextBackoff (config : RetryConfig) (outOfRange : ℚ → Int) (backoff : Int) :
    Int :=
  growDuration outOfRange config.backoffMultiple config.maxBackoff backoff

inductive BodyEnd where
  | ret (result : Except GoError Unit)
  | next (backoff : Int) (lastErr : GoError)

/-- A node's answer for a transaction it holds: known, or, once mined, nonce too low. -/
def IsKnown (e : GoError) : Prop :=
  contains "already known".toList e.error.toList = true ∨
    contains "nonce too low".toList e.error.toList = true

theorem IsKnown.retryable {e : GoError} (h : IsKnown e) : isRetryableError e = true :=
  h.elim (isRetryableError_of_contains (by decide)) (isRetryableError_of_contains (by decide))

/-- A node never drops the transaction, takes it on a nil answer and maybe on an error, and
answers "known" once it holds it; `holds k` is before call `k`. -/
structure Network (send : Nat → Option GoError) (holds : Nat → Bool) : Prop where
  keeps : ∀ k, holds k = true → holds (k + 1) = true
  takes : ∀ k, send k = none → holds (k + 1) = true
  known : ∀ k, holds k = true → ∃ e, send k = some e ∧ IsKnown e

section Loop

variable {Tx : Type} (config : RetryConfig) (outOfRange : ℚ → Int) (tx : Tx)
  (send : Nat → Option GoError) (wake : Nat → Wake)

def sendCall (attempt : Nat) (backoff : Int) : List (RetryAction Tx) × BodyEnd :=
  match send attempt with
  | none => ([.send tx], .ret (.ok ()))
  | some err =>
    if isRetryableError err then ([.send tx], .next backoff err)
    else ([.send tx], .ret (.error (err.wrapf "non-retryable error")))

def sendBody (attempt : Nat) (backoff : Int) : List (RetryAction Tx) × BodyEnd :=
  if attempt = 0 then sendCall tx send attempt backoff
  else
    match wake attempt with
    | .done ctxErr => ([.wait backoff], .ret (.error ctxErr))
    | .elapsed =>
      let r := sendCall tx send attempt (config.nextBackoff outOfRange backoff)
      (.wait backoff :: r.1, r.2)

def sendLoop : Nat → Nat → Int → Option GoError → List (RetryAction Tx) × Except GoError Unit
  | 0, _, _, lastErr => ([], .error (maxRetriesExceeded lastErr))
  | left + 1, attempt, backoff, _ =>
    match sendBody config outOfRange tx send wake attempt backoff with
    | (acts, .ret result) => (acts, result)
    | (acts, .next backoff lastErr) =>
      let r := sendLoop left (attempt + 1) backoff (some lastErr)
      (acts ++ r.1, r.2)

/-- `SendTransactionWithRetry`: the actions, and `.ok ()` for `tx.Hash(), nil` or the error. -/
def sendTransactionWithRetry : List (RetryAction Tx) × Except GoError Unit :=
  sendLoop config outOfRange tx send wake (config.maxRetries + 1).toNat 0 config.initialBackoff
    none

@[simp] theorem sendCall_fst (a : Nat) (b : Int) : (sendCall tx send a b).1 = [.send tx] := by
  unfold sendCall; split <;> [rfl; split <;> rfl]

theorem sendLoop_ret {m a : Nat} {b : Int} {l : Option GoError} {acts} {r}
    (h : sendBody config outOfRange tx send wake a b = (acts, .ret r)) :
    sendLoop config outOfRange tx send wake (m + 1) a b l = (acts, r) := by
  simp only [sendLoop, h]

theorem sendLoop_next {m a : Nat} {b b' : Int} {l : Option GoError} {acts} {e : GoError}
    (h : sendBody config outOfRange tx send wake a b = (acts, .next b' e)) :
    sendLoop config outOfRange tx send wake (m + 1) a b l =
      (acts ++ (sendLoop config outOfRange tx send wake m (a + 1) b' (some e)).1,
        (sendLoop config outOfRange tx send wake m (a + 1) b' (some e)).2) := by
  simp only [sendLoop, h]

theorem sendCall_next {a : Nat} {b b' : Int} {e : GoError}
    (h : (sendCall tx send a b).2 = .next b' e) : b' = b := by
  unfold sendCall at h
  split at h
  · cases h
  · split at h <;> cases h
    rfl

theorem sendBody_waits {a : Nat} {b : Int} {acts : List (RetryAction Tx)} {r : BodyEnd}
    (h : sendBody config outOfRange tx send wake a b = (acts, r)) :
    acts.filterMap RetryAction.backoff? = (if a = 0 then [] else [b]) ∧
      ∀ b' e, r = .next b' e → b' = if a = 0 then b else config.nextBackoff outOfRange b := by
  unfold sendBody at h
  by_cases ha : a = 0
  · rw [if_pos ha] at h
    have hacts : acts = [.send tx] := by rw [← sendCall_fst tx send a b, h]
    subst hacts
    exact ⟨by simp [ha, RetryAction.backoff?], fun b' e hr => by
      rw [if_pos ha]; exact sendCall_next tx send (by rw [h, hr])⟩
  · rw [if_neg ha] at h
    split at h <;> obtain ⟨rfl, rfl⟩ := Prod.mk.inj h
    · simp [ha, RetryAction.backoff?]
    · exact ⟨by simp [ha, RetryAction.backoff?], fun b' e hr => by
        rw [if_neg ha]; exact sendCall_next tx send hr⟩

theorem sendLoop_waits : ∀ (m a : Nat) (b : Int) (l : Option GoError), ∃ n,
    (sendLoop config outOfRange tx send wake m a b l).1.filterMap RetryAction.backoff? =
      (List.range n).map fun k => (config.nextBackoff outOfRange)^[k] b
  | 0, _, _, _ => ⟨0, rfl⟩
  | m + 1, a, b, l => by
    rcases h : sendBody config outOfRange tx send wake a b with ⟨acts, r | ⟨b', e⟩⟩
    · rw [sendLoop_ret config outOfRange tx send wake h,
        (sendBody_waits config outOfRange tx send wake h).1]
      split_ifs
      · exact ⟨0, rfl⟩
      · exact ⟨1, rfl⟩
    · obtain ⟨hw, hb⟩ := sendBody_waits config outOfRange tx send wake h
      obtain ⟨n, hn⟩ := sendLoop_waits m (a + 1) b' (some e)
      rw [sendLoop_next config outOfRange tx send wake h, List.filterMap_append, hw, hn,
        hb b' e rfl]
      split_ifs
      · exact ⟨n, rfl⟩
      · refine ⟨n + 1, ?_⟩
        simp only [List.range_succ_eq_map, List.map_cons, List.map_map]
        rfl

/-- The waits are the first backoffs of the schedule; they never shrink and stay within
`[InitialBackoff, MaxBackoff]`. -/
theorem sendTransactionWithRetry_waits (hm : 1 ≤ config.backoffMultiple)
    (hmax : config.maxBackoff ≤ 2 ^ 53)
    (hfit : (config.maxBackoff : ℚ) * config.backoffMultiple ≤ 2 ^ 62)
    (h0 : 0 ≤ config.initialBackoff) (h1 : config.initialBackoff ≤ config.maxBackoff) :
    ∃ n, (sendTransactionWithRetry config outOfRange tx send wake).1.filterMap
          RetryAction.backoff? =
        (List.range n).map (fun k => (config.nextBackoff outOfRange)^[k] config.initialBackoff) ∧
      List.Sorted (· ≤ ·) ((sendTransactionWithRetry config outOfRange tx send wake).1.filterMap
        RetryAction.backoff?) ∧
      ∀ d ∈ (sendTransactionWithRetry config outOfRange tx send wake).1.filterMap
        RetryAction.backoff?, config.initialBackoff ≤ d ∧ d ≤ config.maxBackoff := by
  obtain ⟨n, hn⟩ := sendLoop_waits config outOfRange tx send wake (config.maxRetries + 1).toNat 0
    config.initialBackoff none
  refine ⟨n, hn, ?_⟩
  rw [sendTransactionWithRetry, hn]
  exact growDuration_schedule hm hmax hfit h0 h1 n

end Loop

theorem sendTransactionWithRetry_waits_default :
    1 ≤ defaultRetryConfig.backoffMultiple ∧ defaultRetryConfig.maxBackoff ≤ 2 ^ 53 ∧
      (defaultRetryConfig.maxBackoff : ℚ) * defaultRetryConfig.backoffMultiple ≤ 2 ^ 62 ∧
      0 ≤ defaultRetryConfig.initialBackoff ∧
      defaultRetryConfig.initialBackoff ≤ defaultRetryConfig.maxBackoff ∧
      ∀ d ∈ (sendTransactionWithRetry defaultRetryConfig (fun _ => 0) ()
        (fun _ => some (.plain "connection reset by peer")) (fun _ => .elapsed)).1.filterMap
          RetryAction.backoff?, 1000000000 ≤ d ∧ d ≤ 30000000000 :=
  ⟨by norm_num [defaultRetryConfig], by norm_num [defaultRetryConfig],
    by norm_num [defaultRetryConfig], by decide, by decide,
    (sendTransactionWithRetry_waits defaultRetryConfig (fun _ => 0) ()
      (fun _ => some (.plain "connection reset by peer")) (fun _ => .elapsed)
      (by norm_num [defaultRetryConfig]) (by norm_num [defaultRetryConfig])
      (by norm_num [defaultRetryConfig]) (by decide) (by decide)).choose_spec.2.2⟩

def secureRandomInt64n (n : Int) (random : Option UInt64) : Int :=
  if n ≤ 0 then 0
  else
    match random with
    | none => 0
    | some u => (u.toNat % n.toNat : Nat)

/-- `CalculateBackoff`, with `initialBackoff * multiplier ^ attempt` taken exact: capped, then
half of it plus a jitter in `[0, half]`. -/
def calculateBackoff (outOfRange : ℚ → Int) (random : Option UInt64) (attempt : Nat)
    (initialBackoff maxBackoff : Int) (multiplier : ℚ) : Int :=
  let backoff := int64OfFloat outOfRange (initialBackoff * multiplier ^ attempt)
  let backoff := if backoff > maxBackoff then maxBackoff else backoff
  let halfBackoff := backoff.tdiv 2
  let jitter := secureRandomInt64n (halfBackoff + 1) random
  halfBackoff + jitter

theorem secureRandomInt64n_mem (n : Int) (random : Option UInt64) :
    0 ≤ secureRandomInt64n n random ∧ (0 < n → secureRandomInt64n n random < n) := by
  unfold secureRandomInt64n
  split
  · omega
  · cases random with
    | none => exact ⟨le_rfl, id⟩
    | some u =>
      have := Nat.mod_lt u.toNat (show 0 < n.toNat by omega)
      refine ⟨Int.natCast_nonneg _, fun _ => ?_⟩
      show ((u.toNat % n.toNat : Nat) : Int) < n
      omega

/-- While the exact product stays below `2^63` ns, the result lies between `b / 2` and
`2 * (b / 2) ≤ b`, `b` being the capped backoff in whole nanoseconds. -/
theorem calculateBackoff_mem (outOfRange : ℚ → Int) (random : Option UInt64) (attempt : Nat)
    {initialBackoff maxBackoff : Int} {multiplier : ℚ} (h0 : 0 < initialBackoff)
    (hmax : initialBackoff ≤ maxBackoff) (hm : 1 ≤ multiplier)
    (hfit : initialBackoff * multiplier ^ attempt < 9223372036854775808) {b : Int}
    (hb : b = min ⌊(initialBackoff * multiplier ^ attempt : ℚ)⌋ maxBackoff) :
    calculateBackoff outOfRange random attempt initialBackoff maxBackoff multiplier ∈
        Set.Icc (b / 2) (2 * (b / 2)) ∧ 2 * (b / 2) ≤ b ∧
      calculateBackoff outOfRange random attempt initialBackoff maxBackoff multiplier ∈
        Set.Icc 0 maxBackoff := by
  have hp : (initialBackoff : ℚ) ≤ initialBackoff * multiplier ^ attempt :=
    le_mul_of_one_le_right (by exact_mod_cast h0.le) (one_le_pow₀ hm)
  have hfloor : initialBackoff ≤ ⌊(initialBackoff * multiplier ^ attempt : ℚ)⌋ :=
    Int.le_floor.mpr hp
  have hcap : (if ⌊(initialBackoff * multiplier ^ attempt : ℚ)⌋ > maxBackoff then maxBackoff
      else ⌊(initialBackoff * multiplier ^ attempt : ℚ)⌋) = b := by
    split <;> omega
  have hd : calculateBackoff outOfRange random attempt initialBackoff maxBackoff multiplier =
      b / 2 + secureRandomInt64n (b / 2 + 1) random := by
    simp only [calculateBackoff, hcap,
      int64OfFloat_of_nonneg ((Int.cast_nonneg.mpr h0.le).trans hp) hfit,
      Int.tdiv_eq_ediv (show 0 ≤ b by omega) (by decide : (0 : Int) ≤ 2)]
  obtain ⟨hj0, hj1⟩ := secureRandomInt64n_mem (b / 2 + 1) random
  have := hj1 (by omega)
  simp only [hd, Set.mem_Icc]
  omega

theorem calculateBackoff_mem_default :
    0 < (1000000000 : Int) ∧ (1000000000 : Int) ≤ 30000000000 ∧ (1 : ℚ) ≤ 2 ∧
      ((1000000000 : Int) : ℚ) * 2 ^ 1 < 9223372036854775808 ∧
      (2000000000 : Int) = min ⌊((1000000000 : Int) * (2 : ℚ) ^ 1 : ℚ)⌋ 30000000000 ∧
      calculateBackoff (fun _ => 0) none 1 1000000000 30000000000 2 ∈
        Set.Icc 1000000000 2000000000 :=
  ⟨by decide, by decide, by norm_num, by norm_num, by norm_num,
    (calculateBackoff_mem (fun _ => 0) none 1 (by decide) (by decide) (by norm_num)
      (by norm_num) (b := 2000000000) (by norm_num)).1⟩

/-- A backoff of `3` ns gives `1 < 3 / 2`, and attempt `64` overflows `int64` before the cap. -/
theorem backoff_rounds_down_and_overflows :
    calculateBackoff (fun _ => 0) (some 0) 0 3 3 1 = 1 ∧
      (1 : ℚ) < min ((3 : Int) * (1 : ℚ) ^ 0) 3 / 2 ∧
      calculateBackoff (fun _ => -9223372036854775808) (some 0) 64 1000000000 30000000000 2 =
        -4611686018427387904 := by
  refine ⟨?_, by norm_num, ?_⟩
  · norm_num [calculateBackoff, int64OfFloat, secureRandomInt64n]
    decide
  · norm_num [calculateBackoff, int64OfFloat, secureRandomInt64n]
    decide

end Txutil
