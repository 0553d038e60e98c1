import GoSynapse.Txutil.Nonce

/-! # The second `NonceManager` of `nonce.go`

`nonce.go` holds a second `NonceManager`, with no `MarkFailed` and no pool. Forgetting the
first manager's pool maps its runs without `MarkFailed` onto runs of the second. -/

namespace Txutil

namespace Simple

open GoSynapse

structure NonceManager where
  nonce : Option UInt64
  pendingTxs : Finset UInt64
  deriving DecidableEq

def newNonceManager : NonceManager := ⟨none, ∅⟩

namespace NonceManager

def loadNonce (nm : NonceManager) (fetch : Fetch) : Fetch :=
  match nm.nonce with
  | some c => .ok c
  | none => fetch

def getNonce (nm : NonceManager) (fetch : Fetch) : NonceManager × Except GoError UInt64 :=
  match nm.loadNonce fetch with
  | .error e => (nm, .error (e.wrapf "failed to get pending nonce"))
  | .ok c => (⟨some (c + 1), insert c nm.pendingTxs⟩, .ok c)

def markConfirmed (nm : NonceManager) (n : UInt64) : NonceManager :=
  { nm with pendingTxs := nm.pendingTxs.erase n }

def reset (nm : NonceManager) (fetch : Fetch) : NonceManager × Option GoError :=
  match fetch with
  | .error e => (nm, some (e.wrapf "failed to reset nonce"))
  | .ok p => (⟨some p, ∅⟩, none)

def getPendingCount (nm : NonceManager) : Nat := nm.pendingTxs.card

end NonceManager

inductive Call where
  | getNonce (fetch : Fetch)
  | markConfirmed (n : UInt64)
  | reset (fetch : Fetch)
  | getPendingCount

inductive Answer where
  | nonce (r : Except GoError UInt64)
  | reset (r : Option GoError)
  | count (n : Nat)
  | done

def NonceManager.call (nm : NonceManager) : Call → NonceManager × Answer
  | .getNonce f => ((nm.getNonce f).1, .nonce (nm.getNonce f).2)
  | .markConfirmed n => (nm.markConfirmed n, .done)
  | .reset f => ((nm.reset f).1, .reset (nm.reset f).2)
  | .getPendingCount => (nm, .count nm.getPendingCount)

def NonceManager.run (nm : NonceManager) : List Call → NonceManager × List Answer
  | [] => (nm, [])
  | c :: cs => (((nm.call c).1.run cs).1, (nm.call c).2 :: ((nm.call c).1.run cs).2)

def pooledCall (nm : Txutil.NonceManager) : Call → Txutil.NonceManager × Answer
  | .getNonce f => ((nm.getNonce f).1, .nonce (nm.getNonce f).2)
  | .markConfirmed n => (nm.markConfirmed n, .done)
  | .reset f => ((nm.reset f).1, .reset (nm.reset f).2)
  | .getPendingCount => (nm, .count nm.getPendingCount)

def pooledRun (nm : Txutil.NonceManager) : List Call → Txutil.NonceManager × List Answer
  | [] => (nm, [])
  | c :: cs => ((pooledRun (pooledCall nm c).1 cs).1,
      (pooledCall nm c).2 :: (pooledRun (pooledCall nm c).1 cs).2)

/-- The first manager's state without its pool. -/
def forget (nm : Txutil.NonceManager) : NonceManager := ⟨nm.nonce, nm.pendingTxs⟩

/-- With an empty pool, each method of the first manager is the second's on the state without it. -/
theorem pooledCall_forget {nm : Txutil.NonceManager} (h : nm.reclaimable = []) (c : Call) :
    (pooledCall nm c).1.reclaimable = [] ∧ forget (pooledCall nm c).1 = ((forget nm).call c).1 ∧
      (pooledCall nm c).2 = ((forget nm).call c).2 := by
  have hsort : sortNonces nm.reclaimable = [] := by rw [h]; rfl
  have hload : ∀ f, nm.loadNonce f = (forget nm).loadNonce f := fun _ => rfl
  cases c with
  | getNonce f =>
    simp only [pooledCall, NonceManager.call, Txutil.NonceManager.getNonce, hsort,
      NonceManager.getNonce, hload]
    cases (forget nm).loadNonce f <;> exact ⟨h, rfl, rfl⟩
  | markConfirmed n => exact ⟨h, rfl, rfl⟩
  | reset f => cases f <;> exact ⟨by simp [pooledCall, Txutil.NonceManager.reset, h], rfl, rfl⟩
  | getPendingCount => exact ⟨h, rfl, rfl⟩

/-- From an empty pool, the first manager answers any calls as the second does, and its state
stays the second's plus an empty pool. -/
theorem pooledRun_forget {nm : Txutil.NonceManager} (h : nm.reclaimable = []) (cs : List Call) :
    (pooledRun nm cs).2 = ((forget nm).run cs).2 ∧
      forget (pooledRun nm cs).1 = ((forget nm).run cs).1 ∧ (pooledRun nm cs).1.reclaimable = [] := by
  induction cs generalizing nm with
  | nil => exact ⟨rfl, rfl, h⟩
  | cons c cs ih =>
    obtain ⟨hr, hf, ha⟩ := pooledCall_forget h c
    obtain ⟨ih1, ih2, ih3⟩ := ih hr
    simp only [pooledRun, NonceManager.run, ih1, ih2, ih3, hf, ha, and_self]

theorem pooledRun_forget_new :
    Txutil.newNonceManager.reclaimable = [] ∧
      forget (pooledRun Txutil.newNonceManager [.getNonce (.ok 7), .markConfirmed 7,
        .getPendingCount]).1 = ((forget Txutil.newNonceManager).run [.getNonce (.ok 7),
          .markConfirmed 7, .getPendingCount]).1 :=
  ⟨rfl, (pooledRun_forget rfl _).2.1⟩

end Simple

end Txutil
