import GoSynapse.Txutil.Nonce

/-! # Runs of the nonce manager

A run is any sequence of calls on one manager, beside its callers' ledger of outstanding
and retired nonces; `MarkFailed` is called only on an outstanding nonce, as documented. -/

namespace Txutil

open GoSynapse NonceManager

inductive Call where
  | getNonce (fetch : Fetch)
  | markConfirmed (n : UInt64)
  | markFailed (n : UInt64)

namespace NonceManager

def call (nm : NonceManager) : Call → NonceManager × Option UInt64
  | .getNonce f => ((nm.getNonce f).1, (nm.getNonce f).2.toOption)
  | .markConfirmed n => (nm.markConfirmed n, none)
  | .markFailed n => (nm.markFailed n, none)

def run (nm : NonceManager) : List Call → NonceManager × List UInt64
  | [] => (nm, [])
  | c :: cs =>
    let r := (nm.call c).1.run cs
    (r.1, (nm.call c).2.toList ++ r.2)

end NonceManager

structure Tracked where
  nm : NonceManager
  outstanding : Finset UInt64
  retired : Finset UInt64

namespace Tracked

def initial : Tracked := ⟨newNonceManager, ∅, ∅⟩

def next (s : Tracked) (c : Call) : Tracked :=
  match c, s.nm.call c with
  | .getNonce _, (nm', some n) => ⟨nm', insert n s.outstanding, s.retired⟩
  | .getNonce _, (nm', none) => { s with nm := nm' }
  | .markConfirmed n, (nm', _) =>
    if n ∈ s.outstanding then ⟨nm', s.outstanding.erase n, insert n s.retired⟩
    else { s with nm := nm' }
  | .markFailed n, (nm', _) => ⟨nm', s.outstanding.erase n, s.retired⟩

/-- `MarkFailed` only of an outstanding nonce, and no `GetNonce` that wraps the counter. -/
def Admissible (s : Tracked) : Call → Prop
  | .getNonce f => s.nm.NoWrap f
  | .markConfirmed _ => True
  | .markFailed n => n ∈ s.outstanding

inductive Reachable : Tracked → Prop
  | initial : Reachable initial
  | step {s c} : Reachable s → Admissible s c → Reachable (s.next c)

def Inv (s : Tracked) : Prop := Tracks s.nm (· ∈ s.outstanding) (· ∈ s.retired)


theorem inv_initial : initial.Inv :=
  tracks_new.congr (fun _ => by simp [initial]) (fun _ => by simp [initial])

theorem next_markConfirmed_of_not_mem {s : Tracked} {n : UInt64} (h : s.Inv)
    (hn : n ∉ s.outstanding) : s.next (.markConfirmed n) = s := by
  have hp : n ∉ s.nm.pendingTxs := fun hp => hn ((h.pending n).mp hp)
  simp [next, call, hn, markConfirmed_of_not_mem hp]

theorem inv_next {s : Tracked} {c : Call} (h : s.Inv) (ha : s.Admissible c) : (s.next c).Inv := by
  cases c with
  | getNonce f =>
    rcases hg : s.nm.getNonce f with ⟨nm', e | n⟩
    · simpa [next, call, hg, Except.toOption, getNonce_error hg] using h
    · simp only [next, call, hg, Except.toOption]
      exact (h.getNonce hg ha).congr (fun _ => Finset.mem_insert.symm) (fun _ => Iff.rfl)
  | markConfirmed n =>
    by_cases hn : n ∈ s.outstanding
    · simp only [next, call, hn, if_true]
      exact (h.markConfirmed hn).congr (fun _ => Finset.mem_erase.symm)
        (fun _ => Finset.mem_insert.symm)
    · rwa [next_markConfirmed_of_not_mem h hn]
  | markFailed n =>
    exact (h.markFailed ha).congr (fun _ => Finset.mem_erase.symm) (fun _ => Iff.rfl)

theorem reachable_inv {s : Tracked} (h : s.Reachable) : s.Inv := by
  induction h with
  | initial => exact inv_initial
  | step _ ha ih => exact inv_next ih ha

/-- Over every run, `GetNonce` returns neither an outstanding nor a retired nonce, and
`pendingTxs` is the outstanding set. -/
theorem nonce_manager_run_invariant {s : Tracked} (h : s.Reachable) :
    (∀ f n, (s.nm.getNonce f).2 = .ok n → n ∉ s.outstanding ∧ n ∉ s.retired) ∧
    s.nm.pendingTxs = s.outstanding ∧ s.nm.getPendingCount = s.outstanding.card ∧
    s.nm.reclaimable.Nodup ∧
    (∀ r ∈ s.nm.reclaimable,
      r ∉ s.outstanding ∧ r ∉ s.retired ∧ ∃ c, s.nm.nonce = some c ∧ r < c) ∧
    (∀ n, n ∉ s.outstanding → s.next (.markConfirmed n) = s) := by
  have T := reachable_inv h
  have hp : s.nm.pendingTxs = s.outstanding := Finset.ext T.pending
  refine ⟨fun f n hn => ?_, hp, congrArg Finset.card hp, T.nodup,
    fun r hr => ⟨(T.pool_fresh r hr).1, (T.pool_fresh r hr).2, T.below r (.inr (.inr hr))⟩,
    fun n => next_markConfirmed_of_not_mem T⟩
  have hf := T.getNonce_fresh (show s.nm.getNonce f = ((s.nm.getNonce f).1, .ok n) by rw [← hn])
  exact ⟨hf.1, hf.2.1⟩

theorem nonce_manager_run_invariant_after_first_call :
    let s := initial.next (.getNonce (.ok 7))
    s.Reachable ∧
    ((∀ f n, (s.nm.getNonce f).2 = .ok n → n ∉ s.outstanding ∧ n ∉ s.retired) ∧
    s.nm.pendingTxs = s.outstanding ∧ s.nm.getPendingCount = s.outstanding.card ∧
    s.nm.reclaimable.Nodup ∧
    (∀ r ∈ s.nm.reclaimable,
      r ∉ s.outstanding ∧ r ∉ s.retired ∧ ∃ c, s.nm.nonce = some c ∧ r < c) ∧
    (∀ n, n ∉ s.outstanding → s.next (.markConfirmed n) = s)) :=
  have h : (initial.next (.getNonce (.ok 7))).Reachable :=
    .step .initial (fun _ c hc => by cases hc; decide)
  ⟨h, nonce_manager_run_invariant h⟩

end Tracked

def Call.isGet : Call → Bool
  | .getNonce _ => true
  | _ => false

def Call.isFail : Call → Bool
  | .markFailed _ => true
  | _ => false

/-- `c, c+1, …, c+k-1`, as `*nm.nonce++` produces them. -/
def counterRun (c : UInt64) (k : Nat) : List UInt64 := (List.range k).map (c + ·.toUInt64)

theorem counterRun_succ (c : UInt64) (k : Nat) :
    counterRun c (k + 1) = c :: counterRun (c + 1) k := by
  simp only [counterRun, List.range_succ_eq_map, List.map_cons, List.map_map,
    UInt64.add_toUInt64_zero, List.cons.injEq, true_and]
  exact List.map_congr_left fun i _ => (UInt64.add_one_add_toUInt64 c i).symm

namespace NonceManager

@[simp] theorem run_nil (nm : NonceManager) : nm.run [] = (nm, []) := rfl

theorem run_cons (nm : NonceManager) (c : Call) (cs : List Call) :
    nm.run (c :: cs) = (((nm.call c).1.run cs).1, (nm.call c).2.toList ++ ((nm.call c).1.run cs).2) :=
  rfl

theorem run_pool_first {nm : NonceManager} {L : List UInt64} {c : UInt64}
    (hL : sortNonces nm.reclaimable = L) (hc : nm.nonce = some c) (calls : List Call)
    (hcalls : ∀ x ∈ calls, x.isFail = false) :
    (nm.run calls).2 = L.take (calls.countP Call.isGet) ++
        counterRun c (calls.countP Call.isGet - L.length) ∧
      (nm.run calls).1.nonce = some (c + (calls.countP Call.isGet - L.length).toUInt64) ∧
      sortNonces (nm.run calls).1.reclaimable = L.drop (calls.countP Call.isGet) := by
  induction calls generalizing nm L c with
  | nil => simp [hc, hL, counterRun, UInt64.add_toUInt64_zero]
  | cons x cs ih =>
    have hcs : ∀ x ∈ cs, x.isFail = false := fun y hy => hcalls y (.tail _ hy)
    cases x with
    | getNonce f =>
      rw [run_cons, List.countP_cons_of_pos _ _ rfl]
      cases L with
      | cons r rest =>
        have hg : nm.getNonce f =
            ({ nm with reclaimable := rest, pendingTxs := insert r nm.pendingTxs }, .ok r) := by
          simp [getNonce, hL]
        have hsorted : rest.Sorted (· ≤ ·) := (hL ▸ sorted_sortNonces _ : (r :: rest).Sorted _).of_cons
        obtain ⟨h1, h2, h3⟩ := @ih { nm with reclaimable := rest, pendingTxs := insert r nm.pendingTxs }
          rest c (sortNonces_of_sorted hsorted) hc hcs
        simp only [call, hg, Except.toOption] at h1 h2 h3 ⊢
        refine ⟨by simp [h1, Nat.add_sub_add_right], by simp [h2, Nat.add_sub_add_right],
          by simpa using h3⟩
      | nil =>
        have hp : nm.reclaimable = [] := sortNonces_eq_nil.mp hL
        have hg : nm.getNonce f =
            ({ nm with nonce := some (c + 1), pendingTxs := insert c nm.pendingTxs }, .ok c) := by
          simp [getNonce, hL, loadNonce_some hc]
        obtain ⟨h1, h2, h3⟩ := @ih
          { nm with nonce := some (c + 1), pendingTxs := insert c nm.pendingTxs } [] (c + 1)
          (by simpa using hp) rfl hcs
        simp only [call, hg, Except.toOption] at h1 h2 h3 ⊢
        refine ⟨by simp [h1, counterRun_succ], by simp [h2, UInt64.add_one_add_toUInt64],
          by simpa using h3⟩
    | markConfirmed n =>
      rw [run_cons]
      simpa [call] using @ih (nm.markConfirmed n) L c hL hc hcs
    | markFailed n => simp [Call.isFail] at hcalls

/-- With no `MarkFailed`, calls hand out the pool `r₁ < … < r_k` in order and only then the
counter `c, c+1, …`, each nonce moving into `pendingTxs`. -/
theorem getNonce_reclaims_in_order {nm : NonceManager} {c : UInt64} {rs : List UInt64}
    (hc : nm.nonce = some c) (hrs : rs.Perm nm.reclaimable) (hsorted : rs.Sorted (· < ·))
    (calls : List Call) (hcalls : ∀ x ∈ calls, x.isFail = false) :
    (nm.run calls).2 = rs.take (calls.countP Call.isGet) ++
        counterRun c (calls.countP Call.isGet - rs.length) ∧
      (nm.run calls).1.nonce = some (c + (calls.countP Call.isGet - rs.length).toUInt64) ∧
      sortNonces (nm.run calls).1.reclaimable = rs.drop (calls.countP Call.isGet) ∧
      ∀ f nm' n, (nm.run calls).1.getNonce f = (nm', .ok n) →
        nm'.pendingTxs = insert n (nm.run calls).1.pendingTxs := by
  have hL : sortNonces nm.reclaimable = rs :=
    List.eq_of_perm_of_sorted ((perm_sortNonces _).trans hrs.symm) (sorted_sortNonces _)
      (hsorted.imp UInt64.le_of_lt')
  exact ⟨(run_pool_first hL hc calls hcalls).1, (run_pool_first hL hc calls hcalls).2.1,
    (run_pool_first hL hc calls hcalls).2.2, fun _ _ _ => getNonce_pendingTxs⟩

/-- Failures of `3` then `1`, a confirmation in between: `1, 3`, then the counter `5`. -/
theorem getNonce_reclaims_in_order_example :
    let calls := [Call.getNonce (.ok 0), .markConfirmed 1, .getNonce (.ok 0), .getNonce (.ok 0)]
    (⟨some 5, ∅, [3, 1]⟩ : NonceManager).nonce = some 5 ∧ [1, 3].Perm [3, 1] ∧
      [(1 : UInt64), 3].Sorted (· < ·) ∧ (∀ x ∈ calls, x.isFail = false) ∧
      ((⟨some 5, ∅, [3, 1]⟩ : NonceManager).run calls).2 = [1, 3, 5] :=
  have hs : [(1 : UInt64), 3].Sorted (· < ·) := by decide
  have hf : ∀ x ∈ [Call.getNonce (.ok 0), .markConfirmed 1, .getNonce (.ok 0),
      .getNonce (.ok 0)], x.isFail = false := by decide
  ⟨rfl, by decide, hs, hf,
    (@getNonce_reclaims_in_order ⟨some 5, ∅, [3, 1]⟩ 5 [1, 3] rfl (by decide) hs _ hf).1.trans
      (by decide)⟩

end NonceManager

end Txutil
