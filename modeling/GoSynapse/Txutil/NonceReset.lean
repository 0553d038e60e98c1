import GoSynapse.Txutil.NonceRun

/-! # `Reset` among operations in flight

An operation that obtained its nonce before the latest `Reset` is stale, and the ledger
follows only the others: `Reset` forgets `pendingTxs` and the pool, so it protects no stale
operation. -/

namespace Txutil

open GoSynapse NonceManager

inductive OpCall where
  | getNonce (fetch : Fetch)
  | markConfirmed (n : UInt64) (stale : Bool)
  | markFailed (n : UInt64) (stale : Bool)
  | reset (fetch : Fetch)

/-- The manager, the nonces held and confirmed since the latest `Reset`, and what it fetched. -/
structure Fenced where
  nm : NonceManager
  fresh : Finset UInt64
  retired : Finset UInt64
  floor : UInt64

namespace Fenced

def initial : Fenced := ⟨newNonceManager, ∅, ∅, 0⟩

def next (s : Fenced) : OpCall → Fenced
  | .getNonce f =>
    match s.nm.getNonce f with
    | (nm', .ok n) => { s with nm := nm', fresh := insert n s.fresh }
    | (nm', .error _) => { s with nm := nm' }
  | .markConfirmed n true => { s with nm := s.nm.markConfirmed n }
  | .markConfirmed n false =>
    { s with nm := s.nm.markConfirmed n, fresh := s.fresh.erase n, retired := insert n s.retired }
  | .markFailed n _ => { s with nm := s.nm.markFailed n, fresh := s.fresh.erase n }
  | .reset f =>
    match f with
    | .ok p => ⟨(s.nm.reset f).1, ∅, ∅, p⟩
    | .error _ => { s with nm := (s.nm.reset f).1 }

def Admissible (s : Fenced) : OpCall → Prop
  | .getNonce f => s.nm.NoWrap f
  | .markConfirmed n stale => stale = false → n ∈ s.fresh
  | .markFailed n stale => stale = false ∧ n ∈ s.fresh
  | .reset _ => True

inductive Reachable : Fenced → Prop
  | initial : Reachable initial
  | step {s c} : Reachable s → Admissible s c → Reachable (s.next c)

def Inv (s : Fenced) : Prop := Fresh s.nm (· ∈ s.fresh) (· ∈ s.retired) s.floor

theorem inv_next {s : Fenced} {c : OpCall} (h : s.Inv) (ha : s.Admissible c) : (s.next c).Inv := by
  cases c with
  | getNonce f =>
    rcases hg : s.nm.getNonce f with ⟨nm', e | n⟩
    · simpa [next, hg, getNonce_error hg] using h
    · simp only [next, hg]
      exact (h.getNonce hg ha).congr (fun _ => Finset.mem_insert.symm) (fun _ => Iff.rfl)
  | markConfirmed n stale =>
    cases stale
    · exact (h.markConfirmed (ha rfl)).congr (fun _ => Finset.mem_erase.symm)
        (fun _ => Finset.mem_insert.symm)
    · exact h.markConfirmed_any n
  | markFailed n stale =>
    exact (h.markFailed ha.2).congr (fun _ => Finset.mem_erase.symm) (fun _ => Iff.rfl)
  | reset f =>
    cases f with
    | ok p => exact (fresh_reset p).congr (fun _ => by simp [next]) (fun _ => by simp [next])
    | error e => exact h

theorem reachable_inv {s : Fenced} (h : s.Reachable) : s.Inv := by
  induction h with
  | initial => exact (tracks_new.toFresh).congr (fun _ => by simp [initial]) (fun _ => by simp [initial])
  | step _ ha ih => exact inv_next ih ha

/-- With Resets interleaved, `GetNonce` returns neither a nonce held since the latest `Reset`
nor one below what it fetched, while no stale operation calls `MarkFailed`. -/
theorem getNonce_fresh_since_reset {s : Fenced} (h : s.Reachable) (f : Fetch) (n : UInt64)
    (hn : (s.nm.getNonce f).2 = .ok n) : n ∉ s.fresh ∧ s.floor ≤ n := by
  have hf := (reachable_inv h).getNonce_fresh
    (show s.nm.getNonce f = ((s.nm.getNonce f).1, .ok n) by rw [← hn])
  exact ⟨hf.1, hf.2.2⟩

theorem getNonce_fresh_since_reset_example :
    let s := (initial.next (.getNonce (.ok 4))).next (.reset (.ok 9))
    s.Reachable ∧ (s.nm.getNonce (.ok 0)).2 = .ok 9 ∧ 9 ∉ s.fresh ∧ s.floor ≤ 9 :=
  have h : ((initial.next (.getNonce (.ok 4))).next (.reset (.ok 9))).Reachable :=
    .step (.step .initial (fun _ c hc => by cases hc; decide)) trivial
  ⟨h, rfl, getNonce_fresh_since_reset h (.ok 0) 9 rfl⟩

end Fenced

/-- A `Reset` to `0` lets `GetNonce` return A's held `0`, and after a `Reset` to `6`, A's stale
`MarkFailed` lets it return `5`. -/
theorem reset_reissues_held_nonce :
    (newNonceManager.getNonce (.ok 0)).2 = .ok 0 ∧
      (((newNonceManager.getNonce (.ok 0)).1.reset (.ok 0)).1.getNonce (.ok 0)).2 = .ok 0 ∧
      (((((newNonceManager.getNonce (.ok 5)).1.reset (.ok 6)).1.markFailed 5).getNonce
        (.ok 6)).2 = .ok 5) :=
  ⟨rfl, rfl, rfl⟩

end Txutil
