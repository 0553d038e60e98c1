import GoSynapse.Basic

/-! # `Poll` in package `internal/retry`

`Poll` calls `fn` at once and at each tick until `fn` fails or is done, or the context ends.
Call `k` returns `fn k` and the wait after it ends as `wake k`; the model is given how many
waits it may make. -/

namespace Retry

open GoSynapse

/-- What `Poll` makes of one answer of `fn`: the error, nil when done, or `none` to go on. -/
def pollAnswer : Bool × Option GoError → Option (Option GoError)
  | (_, some err) => some (some err)
  | (true, none) => some none
  | (false, none) => none

@[simp] theorem pollAnswer_eq_none {a : Bool × Option GoError} :
    pollAnswer a = none ↔ a = (false, none) := by
  rcases a with ⟨_ | _, _ | _⟩ <;> simp [pollAnswer]

theorem pollAnswer_eq_some_none {a : Bool × Option GoError} :
    pollAnswer a = some none ↔ a = (true, none) := by
  rcases a with ⟨_ | _, _ | _⟩ <;> simp [pollAnswer]

section Loop

variable (fn : Nat → Bool × Option GoError) (wake : Nat → Wake)

def pollLoop : Nat → Nat → Option (Nat × Option GoError)
  | 0, _ => none
  | fuel + 1, k =>
    match wake k with
    | .done ctxErr => some (k + 1, some ctxErr)
    | .elapsed =>
      match pollAnswer (fn (k + 1)) with
      | some r => some (k + 2, r)
      | none => pollLoop fuel (k + 1)

def poll (fuel : Nat) : Option (Nat × Option GoError) :=
  match pollAnswer (fn 0) with
  | some r => some (1, r)
  | none => pollLoop fn wake fuel 0

/-- Call `j` answered "not yet" and the wait after it ended on a tick. -/
def Pending (j : Nat) : Prop := fn j = (false, none) ∧ wake j = .elapsed

/-- Call `n` ends `Poll` with `r`, by its answer or by the context during the wait after it. -/
def StopsAt (n : Nat) (r : Option GoError) : Prop :=
  pollAnswer (fn n) = some r ∨ fn n = (false, none) ∧ ∃ e, wake n = .done e ∧ r = some e

def EndsAt (n : Nat) (r : Option GoError) : Prop :=
  (∀ j < n, Pending fn wake j) ∧ StopsAt fn wake n r

theorem pollLoop_endsAt : ∀ {m k c : Nat} {r : Option GoError}, fn k = (false, none) →
    pollLoop fn wake m k = some (c, r) →
    ∃ n, k ≤ n ∧ c = n + 1 ∧ (∀ j, k ≤ j → j < n → Pending fn wake j) ∧ StopsAt fn wake n r
  | m + 1, k, c, r, hk, h => by
    unfold pollLoop at h
    split at h
    · next e hw =>
      cases h
      exact ⟨k, le_rfl, rfl, fun j h1 h2 => absurd h2 (by omega), .inr ⟨hk, e, hw, rfl⟩⟩
    · next hw =>
      split at h
      · next r' hr =>
        cases h
        refine ⟨k + 1, Nat.le_succ k, rfl, fun j h1 h2 => ?_, .inl hr⟩
        obtain rfl : j = k := by omega
        exact ⟨hk, hw⟩
      · next hr =>
        obtain ⟨n, hkn, rfl, hp, hs⟩ := pollLoop_endsAt (pollAnswer_eq_none.mp hr) h
        refine ⟨n, by omega, rfl, fun j h1 h2 => ?_, hs⟩
        rcases Nat.eq_or_lt_of_le h1 with rfl | h1
        · exact ⟨hk, hw⟩
        · exact hp j h1 h2

theorem pollLoop_of_endsAt : ∀ {d k : Nat} {r : Option GoError}, fn k = (false, none) →
    (∀ j, k ≤ j → j < k + d → Pending fn wake j) → StopsAt fn wake (k + d) r →
    ∀ m, d < m → pollLoop fn wake m k = some (k + d + 1, r)
  | 0, k, r, hk, _, hs, m + 1, _ => by
    rw [Nat.add_zero] at hs ⊢
    obtain hr | ⟨-, e, hw, rfl⟩ := hs
    · rw [hk] at hr; cases hr
    · simp [pollLoop, hw]
  | d + 1, k, r, hk, hp, hs, m + 1, hm => by
    have hw : wake k = .elapsed := (hp k le_rfl (by omega)).2
    cases hr : pollAnswer (fn (k + 1)) with
    | none =>
      have := pollLoop_of_endsAt (d := d) (pollAnswer_eq_none.mp hr)
        (fun j h1 h2 => hp j (by omega) (by omega)) (by rwa [Nat.add_right_comm, Nat.add_assoc])
        m (by omega)
      simp only [pollLoop, hw, hr]
      rw [this]
      congr 2
      omega
    | some r' =>
      obtain rfl : d = 0 := by
        by_contra hd
        have := (hp (k + 1) (by omega) (by omega)).1
        rw [this] at hr; cases hr
      obtain hr' | ⟨hf, -⟩ := hs
      · rw [hr] at hr'
        cases hr'
        simp [pollLoop, hw, hr]
      · rw [hf] at hr; cases hr

theorem poll_endsAt {m c : Nat} {r : Option GoError} (h : poll fn wake m = some (c, r)) :
    ∃ n, c = n + 1 ∧ EndsAt fn wake n r := by
  unfold poll at h
  split at h
  · next r' hr =>
    cases h
    exact ⟨0, rfl, fun j hj => absurd hj (Nat.not_lt_zero j), .inl hr⟩
  · next hr =>
    obtain ⟨n, -, rfl, hp, hs⟩ := pollLoop_endsAt fn wake (pollAnswer_eq_none.mp hr) h
    exact ⟨n, rfl, fun j hj => hp j (Nat.zero_le j) hj, hs⟩

theorem poll_of_endsAt {n : Nat} {r : Option GoError} (h : EndsAt fn wake n r) {m : Nat}
    (hm : n < m) : poll fn wake m = some (n + 1, r) := by
  unfold poll
  cases hr : pollAnswer (fn 0) with
  | some r' =>
    rcases Nat.eq_zero_or_pos n with rfl | hn
    · obtain hs | ⟨hf, -⟩ := h.2
      · rw [hr] at hs; cases hs; rfl
      · rw [hf] at hr; cases hr
    · rw [(h.1 0 hn).1] at hr; cases hr
  | none =>
    simpa using pollLoop_of_endsAt fn wake (d := n) (k := 0) (pollAnswer_eq_none.mp hr)
      (fun j _ hj => h.1 j (by omega)) (by simpa using h.2) m hm

theorem exists_endsAt {N : Nat} {e : GoError} (hN : wake N = .done e) :
    ∃ n ≤ N, ∃ r, EndsAt fn wake n r := by
  classical
  have hex : ∃ n, ¬ Pending fn wake n := ⟨N, fun h => by rw [h.2] at hN; cases hN⟩
  refine ⟨Nat.find hex, Nat.find_min' hex (fun h => by rw [h.2] at hN; cases hN), ?_⟩
  have hstop := Nat.find_spec hex
  cases hr : pollAnswer (fn (Nat.find hex)) with
  | some r => exact ⟨r, fun j hj => not_not.mp (Nat.find_min hex hj), .inl hr⟩
  | none =>
    have hf := pollAnswer_eq_none.mp hr
    cases hw : wake (Nat.find hex) with
    | elapsed => exact absurd ⟨hf, hw⟩ hstop
    | done e' =>
      exact ⟨some e', fun j hj => not_not.mp (Nat.find_min hex hj), .inr ⟨hf, e', hw, rfl⟩⟩

/-- `Poll` returns exactly the runs `EndsAt` describes, given enough waits, and returns by call
`N + 1` when the context ends during wait `N`. -/
theorem poll_spec :
    (∀ m c r, poll fn wake m = some (c, r) → ∃ n, c = n + 1 ∧ EndsAt fn wake n r) ∧
    (∀ n r, EndsAt fn wake n r → ∀ m, n < m → poll fn wake m = some (n + 1, r)) ∧
    (∀ N e, wake N = .done e → ∃ n ≤ N, ∃ r, ∀ m, N < m → poll fn wake m = some (n + 1, r)) :=
  ⟨fun _ _ _ h => poll_endsAt fn wake h, fun _ _ h _ hm => poll_of_endsAt fn wake h hm,
    fun _ _ hN => by
      obtain ⟨n, hn, r, h⟩ := exists_endsAt fn wake hN
      exact ⟨n, hn, r, fun m hm => poll_of_endsAt fn wake h (by omega)⟩⟩

/-- `Poll` returns nil only after calls that all answered "not yet" and a last one that is done. -/
theorem poll_nil {m n : Nat} (h : poll fn wake m = some (n + 1, none)) :
    (∀ j < n, Pending fn wake j) ∧ fn n = (true, none) := by
  obtain ⟨n', hn, hp, hs⟩ := poll_endsAt fn wake h
  obtain rfl : n = n' := by omega
  refine ⟨hp, ?_⟩
  obtain hs | ⟨-, e, -, he⟩ := hs
  · exact pollAnswer_eq_some_none.mp hs
  · cases he

end Loop

end Retry
