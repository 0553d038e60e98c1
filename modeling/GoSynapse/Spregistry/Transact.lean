import GoSynapse.Txutil.NonceRun

/-! # Nonces of `spregistry.Contract.transact`

One counter behind `nonceMu`, loaded by `PendingNonceAt` for the first sender that asks.
`transact` takes the next nonce before five fallible steps, none of which gives it back. -/

namespace Spregistry

open GoSynapse Txutil

/-- The nonce fields of `Contract`; its address, ABI and client only shape RPC answers. -/
structure Contract where
  nonce : UInt64
  nonceLoaded : Bool
  deriving DecidableEq, Repr

def newContract : Contract := ⟨0, false⟩

/-- What the node and the signer answer one call, `none` for success. -/
structure TransactAnswers where
  pendingNonceAt : Except GoError UInt64
  chainID : Option GoError
  suggestGasTipCap : Option GoError
  headerByNumber : Option GoError
  estimateGas : Option GoError
  signer : Option GoError
  sendTransaction : Option GoError

def TransactAnswers.steps (a : TransactAnswers) : List (Option GoError × String) :=
  [(a.chainID, "failed to get chain ID"), (a.suggestGasTipCap, "failed to get gas tip cap"),
    (a.headerByNumber, "failed to get latest block header"),
    (a.estimateGas, "failed to estimate gas"), (a.signer, "failed to sign transaction"),
    (a.sendTransaction, "failed to send transaction")]

def firstError : List (Option GoError × String) → Option GoError
  | [] => none
  | (some e, context) :: _ => some (e.wrapf context)
  | (none, _) :: rest => firstError rest

namespace Contract

def getNextNonce (c : Contract) (pendingNonceAt : Except GoError UInt64) :
    Contract × Except GoError UInt64 :=
  match c.nonceLoaded, pendingNonceAt with
  | true, _ => ({ c with nonce := c.nonce + 1 }, .ok c.nonce)
  | false, .error e => (c, .error e)
  | false, .ok p => (⟨p + 1, true⟩, .ok p)

def transact (c : Contract) (a : TransactAnswers) : Contract × Except GoError UInt64 :=
  match c.getNextNonce a.pendingNonceAt with
  | (c', .error e) => (c', .error (e.wrapf "failed to get nonce"))
  | (c', .ok nonce) =>
    (c', match firstError a.steps with
      | some e => .error e
      | none => .ok nonce)

def run (c : Contract) : List TransactAnswers → Contract × List (Except GoError UInt64)
  | [] => (c, [])
  | a :: as => ((c.transact a).1.run as |>.1, (c.transact a).2 :: ((c.transact a).1.run as).2)

theorem transact_loaded {c : Contract} (h : c.nonceLoaded) (a : TransactAnswers) :
    c.transact a = (⟨c.nonce + 1, true⟩, match firstError a.steps with
      | some e => .error e
      | none => .ok c.nonce) := by
  obtain ⟨n, l⟩ := c
  cases h
  rfl

/-- Once loaded, every call uses up one nonce whether or not it is sent: the call at
position `i` can only be sent with the counter plus `i`. -/
theorem run_loaded {c : Contract} (h : c.nonceLoaded) (as : List TransactAnswers) :
    (c.run as).1 = ⟨c.nonce + as.length.toUInt64, true⟩ ∧
      ∀ (i : Nat) (n : UInt64), (c.run as).2[i]? = some (.ok n) → n = c.nonce + i.toUInt64 := by
  induction as generalizing c with
  | nil => exact ⟨by simp [run, UInt64.add_toUInt64_zero, ← h], by simp [run]⟩
  | cons a as ih =>
    obtain ⟨ih1, ih2⟩ := @ih ⟨c.nonce + 1, true⟩ rfl
    simp only [run, transact_loaded h, List.length_cons]
    refine ⟨by rw [ih1, UInt64.add_one_add_toUInt64], fun i n hi => ?_⟩
    cases i with
    | zero =>
      simp only [List.getElem?_cons_zero, Option.some.injEq] at hi
      split at hi <;> simp_all [UInt64.add_toUInt64_zero]
    | succ i => rw [ih2 i n (by simpa using hi), UInt64.add_one_add_toUInt64]

theorem run_loaded_two_calls :
    (⟨6, true⟩ : Contract).nonceLoaded = true ∧
      ((⟨6, true⟩ : Contract).run [⟨.ok 0, some (.plain "connection refused"), none, none, none,
        none, none⟩, ⟨.ok 0, none, none, none, none, none, none⟩]).1 = ⟨6 + (2 : Nat).toUInt64, true⟩ :=
  ⟨rfl, (run_loaded rfl _).1⟩

/-- Sender `A`, whose pending nonce is `5`, has its first call fail at `ChainID` and its
second sent with `6`; a call for sender `B`, whose pending nonce is `0`, is sent with `7`. -/
theorem failed_call_skips_nonce :
    (newContract.run [⟨.ok 5, some (.plain "connection refused"), none, none, none, none, none⟩,
      ⟨.ok 5, none, none, none, none, none, none⟩, ⟨.ok 0, none, none, none, none, none, none⟩]).2 =
      [.error ((GoError.plain "connection refused").wrapf "failed to get chain ID"), .ok 6, .ok 7] :=
  rfl

end Contract

end Spregistry
