import GoSynapse.Basic

/-! # Receipt polling in package `txutil`

Each wake-up of the `select` is one event: a tick with what the RPC calls answer on that
poll, or the context's `Done`. The event list stands for the poll interval and the timeout. -/

namespace Txutil

open GoSynapse

structure Receipt where
  status : UInt64
  blockNumber : Nat
  deriving DecidableEq, Repr

def receiptStatusSuccessful : UInt64 := 1

def notFound : GoError := .sentinel 0 "not found"
def errReceiptTimeout : GoError := .sentinel 1 "timeout waiting for transaction receipt"
def errReceiptRPCFailure : GoError :=
  .sentinel 2 "receipt fetch failed due to repeated RPC errors"

inductive WaitEvent (α : Type) where
  | done (ctxErr : GoError)
  | tick (answer : α)

abbrev WaitResult := Option Receipt × Option GoError

def txFailedError (r : Receipt) : GoError :=
  .plain ("transaction failed with status " ++ toString r.status.toNat)

def receiptResult (r : Receipt) : WaitResult :=
  (some r, if r.status ≠ receiptStatusSuccessful then some (txFailedError r) else none)

structure ReceiptWaitConfig where
  timeout : Int
  pollInterval : Int
  maxConsecutiveErrors : Int

def defaultReceiptWaitConfig : ReceiptWaitConfig := ⟨5 * 60 * 1000000000, 1000000000, 5⟩

def ReceiptWaitConfig.maxErrors (c : ReceiptWaitConfig) : Int :=
  if c.maxConsecutiveErrors = 0 then 5 else c.maxConsecutiveErrors

/-- `lastErr` is formatted with `%v`, so only the sentinel is wrapped. -/
def rpcFailureError (consecutiveErrors pollCount : Nat) (lastErr : GoError) : GoError :=
  .wrap (errReceiptRPCFailure.error ++ ": " ++ toString consecutiveErrors ++
    " consecutive errors after " ++ toString pollCount ++ " polls, last error: " ++ lastErr.error)
    errReceiptRPCFailure

def receiptTimeoutError (pollCount : Nat) (ctxErr : GoError) : GoError :=
  .wrap (errReceiptTimeout.error ++ " after " ++ toString pollCount ++ " polls: " ++ ctxErr.error)
    errReceiptTimeout

/-- The `for`/`select` loop from `consecutiveErrors` and `pollCount`. -/
def receiptLoop (maxErrors : Int) :
    Nat → Nat → List (WaitEvent (Except GoError Receipt)) → Option WaitResult
  | _, _, [] => none
  | _, pollCount, .done e :: _ => some (none, some (receiptTimeoutError pollCount e))
  | consecutiveErrors, pollCount, .tick answer :: events =>
    match answer with
    | .error err =>
      if err.is notFound then receiptLoop maxErrors 0 (pollCount + 1) events
      else if maxErrors ≤ (consecutiveErrors + 1 : Nat) then
        some (none, some (rpcFailureError (consecutiveErrors + 1) (pollCount + 1) err))
      else receiptLoop maxErrors (consecutiveErrors + 1) (pollCount + 1) events
    | .ok r => some (receiptResult r)

def waitForReceiptWithConfig (config : ReceiptWaitConfig)
    (events : List (WaitEvent (Except GoError Receipt))) : Option WaitResult :=
  receiptLoop config.maxErrors 0 0 events

def waitForReceipt (timeout : Int) (events : List (WaitEvent (Except GoError Receipt))) :
    Option WaitResult :=
  waitForReceiptWithConfig
    (if 0 < timeout then { defaultReceiptWaitConfig with timeout := timeout }
      else defaultReceiptWaitConfig) events

theorem receiptLoop_result {m : Int} {ce pc : Nat} {events} {w : WaitResult}
    (h : receiptLoop m ce pc events = some w) :
    (w.1 = none ∧ w.2.isSome) ∨ ∃ r, w = receiptResult r := by
  induction events generalizing ce pc with
  | nil => cases h
  | cons ev events ih =>
    cases ev with
    | done e => cases h; exact .inl ⟨rfl, rfl⟩
    | tick a =>
      cases a with
      | ok r => cases h; exact .inr ⟨r, rfl⟩
      | error err =>
        simp only [receiptLoop] at h
        split at h
        · exact ih h
        · split at h
          · cases h; exact .inl ⟨rfl, rfl⟩
          · exact ih h

theorem waitForReceipt_ok {t : Int} {events} {w : WaitResult}
    (h : waitForReceipt t events = some w) (hw : w.2 = none) :
    ∃ r, w = (some r, none) ∧ r.status = receiptStatusSuccessful := by
  rcases receiptLoop_result h with ⟨-, he⟩ | ⟨r, rfl⟩
  · simp [hw] at he
  · refine ⟨r, ?_, ?_⟩ <;> by_cases hs : r.status = receiptStatusSuccessful <;>
      simp_all [receiptResult]

structure Poll where
  receipt : Except GoError Receipt
  head : Except GoError UInt64

def confirmationFailureError (consecutiveErrors : Nat) (lastErr : GoError) : GoError :=
  .wrap (errReceiptRPCFailure.error ++ ": " ++ toString consecutiveErrors ++
    " consecutive errors, last error: " ++ lastErr.error) errReceiptRPCFailure

/-- A returned receipt resets `consecutiveErrors` before the head is asked. -/
def confirmationLoop (confirmations : UInt64) :
    Nat → List (WaitEvent Poll) → Option WaitResult
  | _, [] => none
  | _, .done e :: _ => some (none, some e)
  | consecutiveErrors, .tick p :: events =>
    match p.receipt with
    | .error err =>
      if err.is notFound then confirmationLoop confirmations 0 events
      else if 5 ≤ consecutiveErrors + 1 then
        some (none, some (confirmationFailureError (consecutiveErrors + 1) err))
      else confirmationLoop confirmations (consecutiveErrors + 1) events
    | .ok r =>
      let consecutiveErrors := 0
      if r.status ≠ receiptStatusSuccessful then some (some r, some (txFailedError r))
      else if confirmations = 0 then some (some r, none)
      else
        match p.head with
        | .error err =>
          if 5 ≤ consecutiveErrors + 1 then
            some (none, some (confirmationFailureError (consecutiveErrors + 1) err))
          else confirmationLoop confirmations (consecutiveErrors + 1) events
        | .ok currentBlock =>
          if r.blockNumber.toUInt64 + confirmations ≤ currentBlock then some (some r, none)
          else confirmationLoop confirmations 0 events

def waitForConfirmation (confirmations : UInt64) (events : List (WaitEvent Poll)) :
    Option WaitResult :=
  confirmationLoop confirmations 0 events

def isLookupError : Except GoError Receipt → Bool
  | .error e => !e.is notFound
  | .ok _ => false

def isReceipt : Except GoError Receipt → Bool
  | .ok _ => true
  | .error _ => false

def trailingErrors (l : List (Except GoError Receipt)) : Nat :=
  (l.reverse.takeWhile isLookupError).length

/-- Poll `i` ends the wait by the specification: a receipt, or `k` trailing lookup errors. -/
def StopsAt (k : Nat) (outs : List (Except GoError Receipt)) (i : Nat) : Prop :=
  outs[i]?.any isReceipt = true ∨ k ≤ trailingErrors (outs.take (i + 1))

instance (k : Nat) (outs : List (Except GoError Receipt)) (i : Nat) :
    Decidable (StopsAt k outs i) :=
  inferInstanceAs (Decidable (_ ∨ _))

def stopResult (k i : Nat) : Except GoError Receipt → WaitResult
  | .ok r => receiptResult r
  | .error e => (none, some (rpcFailureError k (i + 1) e))

theorem trailingErrors_concat (l : List (Except GoError Receipt)) (x : Except GoError Receipt) :
    trailingErrors (l ++ [x]) = if isLookupError x then trailingErrors l + 1 else 0 := by
  by_cases hx : isLookupError x <;> simp [trailingErrors, List.takeWhile_cons, hx]

theorem stopsAt_take {k i j : Nat} {outs : List (Except GoError Receipt)} (hj : j < i) :
    StopsAt k (outs.take i) j ↔ StopsAt k outs j := by
  simp only [StopsAt, List.getElem?_take_of_lt hj, List.take_take, Nat.min_eq_left hj]

theorem receiptLoop_prefix {k : Nat} {pre : List (Except GoError Receipt)}
    (h : ∀ j < pre.length, ¬ StopsAt k pre j) (rest : List (WaitEvent (Except GoError Receipt))) :
    receiptLoop k 0 0 (pre.map .tick ++ rest) =
      receiptLoop k (trailingErrors pre) pre.length rest := by
  induction pre using List.reverseRecOn generalizing rest with
  | nil => rfl
  | append_singleton l x ih =>
    have hl : ∀ j < l.length, ¬ StopsAt k l j := fun j hj hs => h j (by simp; omega)
      (by simpa [hj] using (@stopsAt_take k l.length j (l ++ [x]) hj).mp (by simpa using hs))
    have hx := h l.length (by simp)
    rw [StopsAt, List.take_of_length_le (by simp), List.getElem?_concat_length, not_or] at hx
    rw [List.map_append, List.append_assoc, ih hl, List.length_append, List.length_singleton]
    cases x with
    | ok r => exact absurd rfl hx.1
    | error e =>
      have hk := hx.2
      by_cases hn : e.is notFound
      · simp [receiptLoop, trailingErrors_concat, isLookupError, hn]
      · simp only [trailingErrors_concat, isLookupError, hn, Bool.not_false, if_true] at hk ⊢
        simp only [List.map_cons, List.map_nil, List.singleton_append, receiptLoop, hn]
        have hk' : ¬ ((k : Int) ≤ ((trailingErrors l + 1 : Nat) : Int)) := by exact_mod_cast hk
        simp only [hk', if_false]
        rfl

theorem trailingErrors_lt_of_first {k i : Nat} {outs : List (Except GoError Receipt)}
    (hk : 1 ≤ k) (hfirst : ∀ j < i, ¬ StopsAt k outs j) : trailingErrors (outs.take i) < k := by
  cases i with
  | zero => simpa [trailingErrors] using hk
  | succ i => exact Nat.lt_of_not_le fun h => hfirst i (Nat.lt_succ_self i) (.inr h)

theorem receiptLoop_stop {k : Nat} {pre : List (Except GoError Receipt)} {x : Except GoError Receipt}
    (hlt : trailingErrors pre < k) (hs : isReceipt x = true ∨ k ≤ trailingErrors (pre ++ [x]))
    (rest : List (WaitEvent (Except GoError Receipt))) :
    receiptLoop k (trailingErrors pre) pre.length (.tick x :: rest) =
      some (stopResult k pre.length x) := by
  cases x with
  | ok r => rfl
  | error e =>
    simp only [isReceipt, Bool.false_eq_true, false_or, trailingErrors_concat, isLookupError] at hs
    by_cases hn : e.is notFound
    · simp [hn] at hs; omega
    · simp only [hn, Bool.not_false, if_true] at hs
      have heq : trailingErrors pre + 1 = k := by omega
      simp [receiptLoop, hn, stopResult, heq]

/-- The wait stops at the first poll that answers a receipt or ends `k` lookup errors, with
the receipt or the repeated-failure error, and otherwise times out. -/
theorem waitForReceiptWithConfig_stops_at_first (config : ReceiptWaitConfig)
    (hk : 1 ≤ config.maxErrors) (outs : List (Except GoError Receipt)) (ctxErr : GoError) :
    (∀ i (hi : i < outs.length), StopsAt config.maxErrors.toNat outs i →
      (∀ j < i, ¬ StopsAt config.maxErrors.toNat outs j) →
      waitForReceiptWithConfig config (outs.map .tick ++ [.done ctxErr]) =
        some (stopResult config.maxErrors.toNat i outs[i])) ∧
    ((∀ i < outs.length, ¬ StopsAt config.maxErrors.toNat outs i) →
      waitForReceiptWithConfig config (outs.map .tick ++ [.done ctxErr]) =
        some (none, some (receiptTimeoutError outs.length ctxErr))) := by
  obtain ⟨k, hkk⟩ : ∃ k : Nat, config.maxErrors = k := ⟨_, (Int.toNat_of_nonneg (by omega)).symm⟩
  have hk1 : 1 ≤ k := by omega
  simp only [hkk, Int.toNat_ofNat, waitForReceiptWithConfig]
  constructor
  · intro i hi hs hfirst
    have hpre : ∀ j < (outs.take i).length, ¬ StopsAt k (outs.take i) j := fun j hj h =>
      hfirst j (by simp at hj; omega) ((stopsAt_take (by simp at hj; omega)).mp h)
    have hlen : (outs.take i).length = i := by simp; omega
    rw [StopsAt, List.getElem?_eq_getElem hi, List.take_succ, List.getElem?_eq_getElem hi,
      Option.toList_some, Option.any_some] at hs
    conv_lhs => rw [← List.take_append_drop i outs, List.drop_eq_getElem_cons hi]
    rw [List.map_append, List.append_assoc, receiptLoop_prefix hpre, List.map_cons,
      List.cons_append, receiptLoop_stop (trailingErrors_lt_of_first hk1 hfirst) hs, hlen]
  · intro hnone
    have h := receiptLoop_prefix hnone [.done ctxErr]
    rw [h]
    rfl

theorem waitForReceiptWithConfig_stops_at_first_example :
    1 ≤ defaultReceiptWaitConfig.maxErrors ∧
      waitForReceiptWithConfig defaultReceiptWaitConfig
        ([.error notFound, .error (.plain "connection reset"), .ok ⟨1, 7⟩].map .tick ++
          [.done (.plain "context deadline exceeded")]) = some (receiptResult ⟨1, 7⟩) :=
  ⟨by decide, (waitForReceiptWithConfig_stops_at_first defaultReceiptWaitConfig (by decide)
    [.error notFound, .error (.plain "connection reset"), .ok ⟨1, 7⟩]
    (.plain "context deadline exceeded")).1 2 (by decide) (by decide) (by decide)⟩

/-- The fifth lookup error is formatted into the text, not wrapped. -/
theorem rpc_failure_wraps_sentinel_not_last_error :
    waitForReceiptWithConfig defaultReceiptWaitConfig
        (List.replicate 5 (.tick (.error (.plain "connection reset"))) ++
          [.done (.plain "context deadline exceeded")]) =
      some (none, some (rpcFailureError 5 5 (.plain "connection reset"))) ∧
    (rpcFailureError 5 5 (.plain "connection reset")).is errReceiptRPCFailure = true ∧
    (rpcFailureError 5 5 (.plain "connection reset")).is (.plain "connection reset") = false := by
  refine ⟨rfl, by decide, by decide⟩

theorem confirmationLoop_head_outage {confirmations : UInt64} (hc : confirmations ≠ 0)
    {r : Receipt} (hr : r.status = receiptStatusSuccessful) (err : GoError) (n ce : Nat) :
    confirmationLoop confirmations ce (List.replicate n (.tick ⟨.ok r, .error err⟩)) = none := by
  induction n generalizing ce with
  | zero => rfl
  | succ n ih => simp [List.replicate_succ, confirmationLoop, hr, hc, ih]

/-- A successful receipt with a head query that keeps failing: the wait never returns. -/
theorem waitForConfirmation_head_outage_never_fails (n : Nat) :
    waitForConfirmation 1
      (List.replicate n (.tick ⟨.ok ⟨1, 100⟩, .error (.plain "connection refused")⟩)) = none :=
  confirmationLoop_head_outage (by decide) rfl _ n 0

/-- A nil error comes with a successful receipt and a head from the same poll at least its block
plus `confirmations`, in `uint64`. -/
theorem confirmationLoop_ok {confirmations : UInt64} {ce : Nat} {events : List (WaitEvent Poll)}
    {r : Receipt} (h : confirmationLoop confirmations ce events = some (some r, none)) :
    r.status = receiptStatusSuccessful ∧ (confirmations = 0 ∨
      ∃ head, .tick ⟨.ok r, .ok head⟩ ∈ events ∧ r.blockNumber.toUInt64 + confirmations ≤ head) := by
  induction events generalizing ce with
  | nil => cases h
  | cons ev events ih =>
    have step : ∀ {ce'}, confirmationLoop confirmations ce' events = some (some r, none) →
        r.status = receiptStatusSuccessful ∧ (confirmations = 0 ∨ ∃ head,
          .tick ⟨.ok r, .ok head⟩ ∈ ev :: events ∧ r.blockNumber.toUInt64 + confirmations ≤ head) :=
      fun h' => (ih h').imp_right (Or.imp_right fun ⟨hd, hm, hle⟩ => ⟨hd, .tail _ hm, hle⟩)
    rcases ev with e | ⟨_ | r', hd⟩
    · cases h
    · simp only [confirmationLoop] at h
      split at h
      · exact step h
      split at h
      · cases h
      · exact step h
    · simp only [confirmationLoop] at h
      split at h
      · cases h
      split at h
      · cases h
        exact ⟨not_not.mp ‹_›, .inl ‹_›⟩
      rcases hd with err | head <;> simp only at h <;> split at h
      · cases h
      · exact step h
      · cases h
        exact ⟨not_not.mp ‹_›, .inr ⟨head, .head _, ‹_›⟩⟩
      · exact step h

theorem confirmationLoop_ok_second_poll :
    confirmationLoop 2 0 [.tick ⟨.ok ⟨1, 100⟩, .ok 101⟩, .tick ⟨.ok ⟨1, 100⟩, .ok 102⟩] =
        some (some ⟨1, 100⟩, none) ∧
      (⟨1, 100⟩ : Receipt).status = receiptStatusSuccessful ∧ ((2 : UInt64) = 0 ∨
        ∃ head, .tick ⟨.ok ⟨1, 100⟩, .ok head⟩ ∈
            [WaitEvent.tick (⟨.ok ⟨1, 100⟩, .ok 101⟩ : Poll), .tick ⟨.ok ⟨1, 100⟩, .ok 102⟩] ∧
          (100 : Nat).toUInt64 + 2 ≤ head) :=
  ⟨rfl, @confirmationLoop_ok 2 0 _ _ rfl⟩

/-- With `2^64 - 1` confirmations, block `100` and head `200`, the `uint64` sum wraps to `99`
and the first poll returns the receipt with a nil error. -/
theorem waitForConfirmation_depth_wraps :
    waitForConfirmation 18446744073709551615 [.tick ⟨.ok ⟨1, 100⟩, .ok 200⟩] =
        some (some ⟨1, 100⟩, none) ∧
      200 < 100 + (18446744073709551615 : Nat) := ⟨rfl, by decide⟩

end Txutil
