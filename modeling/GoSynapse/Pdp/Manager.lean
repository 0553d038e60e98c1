import GoSynapse.Txutil.Nonce
import GoSynapse.Txutil.Receipt

/-! # The nonce discipline of `pdp.Manager`

`CreateProofSet`, `AddRoots` and `DeleteProofSet` share one body around `GetNonce`, a
deferred `MarkFailed` guarded by `txSent`, the send, `WaitForReceipt` and `MarkConfirmed`.
Calls run concurrently; only their `NonceManager` steps, each under the lock, share state. -/

namespace Pdp

open GoSynapse Txutil NonceManager

/-- The fallible steps of one method, each with the context its error is wrapped in. -/
structure Orchestration where
  guard : Option GoError
  beforeNonce : List (Option String)
  beforeSend : List (Option String)
  send : String
  afterConfirm : List (Option String)

def createProofSet : Orchestration :=
  ⟨none, [], [none, some "failed to estimate gas for createDataSet"], "failed to create data set",
    [some "failed to extract proof set ID"]⟩

def addRoots (rootCount : Nat) : Orchestration :=
  ⟨if rootCount = 0 then some (.plain "no roots provided") else none,
    [some "failed to get proof set"], [none, some "failed to estimate gas for addPieces"],
    "failed to add pieces", [some "failed to extract piece IDs"]⟩

def deleteProofSet : Orchestration :=
  ⟨none, [], [none], "failed to delete data set", []⟩

def wrapIn : Option String → GoError → GoError
  | none, e => e
  | some context, e => e.wrapf context

/-- `txutil.DefaultRetryConfig().MaxBackoff*3`. -/
def receiptTimeout : Int := 3 * 30 * 1000000000

inductive Pc where
  | idle
  | beforeNonce (k : Nat)
  | beforeSend (k : Nat)
  | waiting
  | confirming
  | afterConfirm (k : Nat)
  | deferred
  | returned
  deriving DecidableEq, Repr

/-- One call: its body, position and locals, and what it did to the manager. -/
structure Call where
  orch : Orchestration
  pc : Pc
  nonce : Option UInt64
  txSent : Bool
  err : Option GoError
  waitResult : Option WaitResult
  markedFailed : Nat
  markedConfirmed : Nat

def Call.idle : Call := ⟨deleteProofSet, .idle, none, false, none, none, 0, 0⟩

inductive Label where
  | internal
  | gotNonce (n : UInt64)
  | nonceError (e : GoError)
  | sent (n : UInt64) (accepted : Bool)
  | markConfirmed (n : UInt64)
  | markFailed (n : UInt64)

inductive CallStep : Call → Label → Call → Prop where
  | invoke {c} (o : Orchestration) : c.pc = .idle →
      CallStep c .internal
        { c with orch := o, pc := if o.guard.isSome then .returned else .beforeNonce 0, err := o.guard }
  | beforeNonceOk {c k} : c.pc = .beforeNonce k → k < c.orch.beforeNonce.length →
      CallStep c .internal { c with pc := .beforeNonce (k + 1) }
  | beforeNonceFail {c k} (e : GoError) (h : c.pc = .beforeNonce k)
      (hk : k < c.orch.beforeNonce.length) :
      CallStep c .internal { c with pc := .returned, err := some (wrapIn c.orch.beforeNonce[k] e) }
  | gotNonce {c} (n : UInt64) : c.pc = .beforeNonce c.orch.beforeNonce.length →
      CallStep c (.gotNonce n) { c with pc := .beforeSend 0, nonce := some n }
  | nonceError {c} (e : GoError) : c.pc = .beforeNonce c.orch.beforeNonce.length →
      CallStep c (.nonceError e) { c with pc := .returned, err := some (e.wrapf "failed to get nonce") }
  | beforeSendOk {c k} : c.pc = .beforeSend k → k < c.orch.beforeSend.length →
      CallStep c .internal { c with pc := .beforeSend (k + 1) }
  | beforeSendFail {c k} (e : GoError) (h : c.pc = .beforeSend k)
      (hk : k < c.orch.beforeSend.length) :
      CallStep c .internal { c with pc := .deferred, err := some (wrapIn c.orch.beforeSend[k] e) }
  | sendOk {c n} (accepted : Bool) : c.pc = .beforeSend c.orch.beforeSend.length →
      c.nonce = some n → CallStep c (.sent n accepted) { c with pc := .waiting, txSent := true }
  | sendFail {c n} (accepted : Bool) (e : GoError) : c.pc = .beforeSend c.orch.beforeSend.length →
      c.nonce = some n →
      CallStep c (.sent n accepted) { c with pc := .deferred, err := some (e.wrapf c.orch.send) }
  | wait {c w} (events : List (WaitEvent (Except GoError Receipt))) : c.pc = .waiting →
      waitForReceipt receiptTimeout events = some w →
      CallStep c .internal
        { c with pc := if w.2.isSome then .deferred else .confirming,
                 err := w.2.map (·.wrapf "failed to wait for receipt"), waitResult := some w }
  | confirm {c n} : c.pc = .confirming → c.nonce = some n →
      CallStep c (.markConfirmed n)
        { c with pc := .afterConfirm 0, markedConfirmed := c.markedConfirmed + 1 }
  | afterConfirmOk {c k} : c.pc = .afterConfirm k → k < c.orch.afterConfirm.length →
      CallStep c .internal { c with pc := .afterConfirm (k + 1) }
  | afterConfirmFail {c k} (e : GoError) (h : c.pc = .afterConfirm k)
      (hk : k < c.orch.afterConfirm.length) :
      CallStep c .internal { c with pc := .deferred, err := some (wrapIn c.orch.afterConfirm[k] e) }
  | finish {c} : c.pc = .afterConfirm c.orch.afterConfirm.length →
      CallStep c .internal { c with pc := .deferred, err := none }
  | deferSent {c} : c.pc = .deferred → c.txSent = true →
      CallStep c .internal { c with pc := .returned }
  | deferRelease {c n} : c.pc = .deferred → c.txSent = false → c.nonce = some n →
      CallStep c (.markFailed n) { c with pc := .returned, markedFailed := c.markedFailed + 1 }

structure System where
  nm : NonceManager
  calls : Nat → Call
  accepted : Finset UInt64

def System.initial : System := ⟨newNonceManager, fun _ => Call.idle, ∅⟩

/-- One step of call `i`. `allowed` filters the counter fetches and wraps the run allows. -/
inductive Step (allowed : NonceManager → Fetch → Prop) : System → System → Prop where
  | internal {s i c'} : CallStep (s.calls i) .internal c' →
      Step allowed s { s with calls := Function.update s.calls i c' }
  | getNonce {s i f nm' n c'} : allowed s.nm f → s.nm.getNonce f = (nm', .ok n) →
      CallStep (s.calls i) (.gotNonce n) c' →
      Step allowed s ⟨nm', Function.update s.calls i c', s.accepted⟩
  | nonceError {s i f nm' e c'} : s.nm.getNonce f = (nm', .error e) →
      CallStep (s.calls i) (.nonceError e) c' →
      Step allowed s ⟨nm', Function.update s.calls i c', s.accepted⟩
  | send {s i n acc c'} : CallStep (s.calls i) (.sent n acc) c' →
      Step allowed s ⟨s.nm, Function.update s.calls i c',
        if acc then insert n s.accepted else s.accepted⟩
  | markConfirmed {s i n c'} : CallStep (s.calls i) (.markConfirmed n) c' →
      Step allowed s ⟨s.nm.markConfirmed n, Function.update s.calls i c', s.accepted⟩
  | markFailed {s i n c'} : CallStep (s.calls i) (.markFailed n) c' →
      Step allowed s ⟨s.nm.markFailed n, Function.update s.calls i c', s.accepted⟩

inductive Reachable (allowed : NonceManager → Fetch → Prop) : System → Prop where
  | initial : Reachable allowed System.initial
  | step {s s'} : Reachable allowed s → Step allowed s s' → Reachable allowed s'

end Pdp
