import GoSynapse.Pdp.Manager

/-! # Runs of concurrent `pdp.Manager` calls

Schedules are built one step of one call at a time. -/

namespace Pdp

open GoSynapse Txutil NonceManager Function

variable {allowed : NonceManager → Fetch → Prop} {nm : NonceManager} {calls : Nat → Call}
  {acc : Finset UInt64} {j : Nat} {c c' : Call}

theorem Reachable.internal_at (h : Reachable allowed ⟨nm, update calls j c, acc⟩)
    (hc : CallStep c .internal c') : Reachable allowed ⟨nm, update calls j c', acc⟩ := by
  simpa using h.step (@Step.internal allowed _ j c' (by simpa using hc))

theorem Reachable.getNonce_at {f : Fetch} {nm' : NonceManager} {n : UInt64}
    (h : Reachable allowed ⟨nm, update calls j c, acc⟩) (ha : allowed nm f)
    (hg : nm.getNonce f = (nm', .ok n)) (hc : CallStep c (.gotNonce n) c') :
    Reachable allowed ⟨nm', update calls j c', acc⟩ := by
  simpa using h.step (@Step.getNonce allowed _ j f nm' n c' ha hg (by simpa using hc))

theorem Reachable.send_at {n : UInt64} {b : Bool} (h : Reachable allowed ⟨nm, update calls j c, acc⟩)
    (hc : CallStep c (.sent n b) c') :
    Reachable allowed ⟨nm, update calls j c', if b then insert n acc else acc⟩ := by
  simpa using h.step (@Step.send allowed _ j n b c' (by simpa using hc))

theorem Reachable.markConfirmed_at {n : UInt64} (h : Reachable allowed ⟨nm, update calls j c, acc⟩)
    (hc : CallStep c (.markConfirmed n) c') :
    Reachable allowed ⟨nm.markConfirmed n, update calls j c', acc⟩ := by
  simpa using h.step (@Step.markConfirmed allowed _ j n c' (by simpa using hc))

theorem Reachable.markFailed_at {n : UInt64} (h : Reachable allowed ⟨nm, update calls j c, acc⟩)
    (hc : CallStep c (.markFailed n) c') :
    Reachable allowed ⟨nm.markFailed n, update calls j c', acc⟩ := by
  simpa using h.step (@Step.markFailed allowed _ j n c' (by simpa using hc))

theorem Reachable.at_idle (h : Reachable allowed ⟨nm, calls, acc⟩) (hj : calls j = Call.idle) :
    Reachable allowed ⟨nm, update calls j Call.idle, acc⟩ := by
  rwa [← hj, update_eq_self]

theorem noWrap_new {p : UInt64} (hp : p.toNat + 1 < 2 ^ 64) : newNonceManager.NoWrap (.ok p) :=
  fun _ c hc => by cases hc; exact hp

def minedAtOnce : List (WaitEvent (Except GoError Receipt)) := [.tick (.ok ⟨1, 0⟩)]

/-- A `DeleteProofSet` call that is mined at once leaves the manager one counter further on. -/
theorem Reachable.mined_delete {cnt : UInt64} {P : Finset UInt64} (ha : ∀ nm f, allowed nm f)
    (h : Reachable allowed ⟨⟨some cnt, P, []⟩, calls, acc⟩) (hj : calls j = Call.idle)
    (hP : cnt ∉ P) : ∃ c', c'.nonce = some cnt ∧
      Reachable allowed ⟨⟨some (cnt + 1), P, []⟩, update calls j c', insert cnt acc⟩ := by
  have hsent := ((((h.at_idle hj).internal_at (.invoke deleteProofSet rfl)).getNonce_at
    (ha _ (.ok 0)) rfl (.gotNonce cnt rfl)).internal_at (.beforeSendOk rfl Nat.one_pos)).send_at
    (.sendOk true rfl rfl)
  have hconf := ((hsent.internal_at (.wait minedAtOnce rfl rfl)).markConfirmed_at
    (.confirm rfl rfl))
  have hret := (hconf.internal_at (.finish rfl)).internal_at (.deferSent rfl rfl)
  exact ⟨_, rfl, by simpa [markConfirmed, Finset.erase_insert hP] using hret⟩

/-- Call `0` sends nonce `0` and waits while calls `1 … m` are mined: the counter is
`m + 1` modulo `2^64`. -/
theorem Reachable.counter_after_mined (ha : ∀ nm f, allowed nm f) (m : Nat) (hm : m < 2 ^ 64) :
    ∃ cnt calls acc, cnt.toNat = (m + 1) % 2 ^ 64 ∧
      Reachable allowed ⟨⟨some cnt, {0}, []⟩, calls, acc⟩ ∧
      (calls 0).nonce = some 0 ∧ (calls 0).txSent = true ∧ (calls 0).markedFailed = 0 ∧
      ∀ k, m < k → calls k = Call.idle := by
  induction m with
  | zero =>
    have h := ((((@Reachable.at_idle allowed _ _ _ 0 .initial rfl).internal_at
      (.invoke deleteProofSet rfl)).getNonce_at
      (ha _ (.ok 0)) rfl (.gotNonce 0 rfl)).internal_at (.beforeSendOk rfl Nat.one_pos)).send_at
      (.sendOk true rfl rfl)
    refine ⟨1, _, _, rfl, by simpa using h, rfl, rfl, rfl, fun k hk => ?_⟩
    simp [update_noteq (Nat.pos_iff_ne_zero.mp hk), System.initial]
  | succ m ih =>
    obtain ⟨cnt, calls, acc, hcnt, h, h0, ht, hf, hidle⟩ := ih (Nat.lt_of_succ_lt hm)
    have hP : cnt ∉ ({0} : Finset UInt64) := fun h0 => by
      rw [Finset.mem_singleton.mp h0] at hcnt
      rw [Nat.mod_eq_of_lt hm] at hcnt
      exact absurd hcnt (by simp)
    obtain ⟨c', -, h'⟩ := h.mined_delete ha (hidle (m + 1) (Nat.lt_succ_self m)) hP
    refine ⟨cnt + 1, _, _, ?_, h', by simpa [update_noteq] using h0, by simpa [update_noteq] using ht,
      by simpa [update_noteq] using hf, fun k hk => ?_⟩
    · rw [UInt64.toNat_add, hcnt]
      show ((m + 1) % 2 ^ 64 + 1) % 2 ^ 64 = (m + 1 + 1) % 2 ^ 64
      omega
    · rw [update_noteq (by omega)]
      exact hidle k (by omega)

end Pdp
