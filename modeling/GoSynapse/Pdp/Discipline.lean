import GoSynapse.Pdp.Runs

/-! # Invariants of concurrent `pdp.Manager` calls

Each call keeps its own books (`Call.Wf`); together they keep the manager's ledger: a nonce
is outstanding while a call holds it unconfirmed, retired once confirmed, and held by at most
one call. Runs exclude a counter that wraps past `2^64 - 1`. -/

namespace Pdp

open GoSynapse Txutil NonceManager

def Call.waitFailed (c : Call) : Prop :=
  c.txSent = true → c.markedConfirmed = 0 → ∃ w, c.waitResult = some w ∧ w.2.isSome

/-- What a call's position says about its nonce and its manager calls. -/
def Call.AtPc (c : Call) : Prop :=
  match c.pc with
  | .idle | .beforeNonce _ => c.nonce = none
  | .beforeSend _ => c.nonce.isSome ∧ c.txSent = false ∧ c.markedFailed = 0
  | .waiting => c.nonce.isSome ∧ c.txSent = true ∧ c.markedFailed = 0 ∧ c.markedConfirmed = 0
  | .confirming => c.nonce.isSome ∧ c.txSent = true ∧ c.markedFailed = 0 ∧
      c.markedConfirmed = 0 ∧ ∃ r, c.waitResult = some (some r, none)
  | .afterConfirm _ => c.nonce.isSome ∧ c.markedConfirmed = 1
  | .deferred => c.nonce.isSome ∧ c.markedFailed = 0 ∧ c.waitFailed
  | .returned => (c.nonce.isSome → c.txSent = false → c.markedFailed = 1) ∧ c.waitFailed

structure Call.Wf (c : Call) : Prop where
  failed_le : c.markedFailed ≤ 1
  confirmed_le : c.markedConfirmed ≤ 1
  failed_unsent : c.markedFailed = 1 → c.txSent = false ∧ c.markedConfirmed = 0
  confirmed_waited : c.markedConfirmed = 1 → c.txSent = true ∧ ∃ r, c.waitResult = some (some r, none)
  no_nonce : c.nonce = none → c.txSent = false ∧ c.markedFailed = 0 ∧ c.markedConfirmed = 0
  at_pc : c.AtPc

theorem Call.wf_idle : Call.idle.Wf := ⟨by decide, by decide, by simp [Call.idle],
  by simp [Call.idle], by simp [Call.idle], rfl⟩

theorem Call.Wf.failed_eq_zero {c : Call} (hc : c.Wf) (ht : c.txSent = true) :
    c.markedFailed = 0 := by
  rcases Nat.le_one_iff_eq_zero_or_eq_one.mp hc.failed_le with h | h
  · exact h
  · simp [(hc.failed_unsent h).1] at ht

theorem Call.Wf.confirmed_eq_zero {c : Call} (hc : c.Wf) (ht : c.txSent = false) :
    c.markedConfirmed = 0 := by
  rcases Nat.le_one_iff_eq_zero_or_eq_one.mp hc.confirmed_le with h | h
  · exact h
  · simp [(hc.confirmed_waited h).1] at ht

theorem CallStep.wf {c c' : Call} {l : Label} (h : CallStep c l c') (hc : c.Wf) : c'.Wf := by
  have h6 := hc.at_pc
  cases h with
  | invoke o hp =>
    simp only [Call.AtPc, hp] at h6
    refine { hc with at_pc := ?_ }
    by_cases hg : o.guard.isSome <;> simp [Call.AtPc, Call.waitFailed, hg, h6, (hc.no_nonce h6).1]
  | beforeNonceOk hp _ => exact { hc with at_pc := by simpa [Call.AtPc, hp] using h6 }
  | beforeNonceFail e hp _ =>
    simp only [Call.AtPc, hp] at h6
    exact { hc with at_pc := by simp [Call.AtPc, Call.waitFailed, h6, (hc.no_nonce h6).1] }
  | gotNonce n hp =>
    simp only [Call.AtPc, hp] at h6
    obtain ⟨ht, hf, -⟩ := hc.no_nonce h6
    exact { hc with no_nonce := by simp, at_pc := by simp [Call.AtPc, ht, hf] }
  | nonceError e hp =>
    simp only [Call.AtPc, hp] at h6
    exact { hc with at_pc := by simp [Call.AtPc, Call.waitFailed, h6, (hc.no_nonce h6).1] }
  | beforeSendOk hp _ => exact { hc with at_pc := by simpa [Call.AtPc, hp] using h6 }
  | beforeSendFail e hp _ =>
    simp only [Call.AtPc, hp] at h6
    exact { hc with at_pc := by simp [Call.AtPc, Call.waitFailed, h6] }
  | sendOk acc hp hn =>
    simp only [Call.AtPc, hp] at h6
    have hcf := hc.confirmed_eq_zero h6.2.1
    exact { hc with failed_unsent := by simp [h6], confirmed_waited := by simp [hcf],
                    no_nonce := by simp [hn], at_pc := by simp [Call.AtPc, hn, h6, hcf] }
  | sendFail acc e hp hn =>
    simp only [Call.AtPc, hp] at h6
    exact { hc with at_pc := by simp [Call.AtPc, Call.waitFailed, h6] }
  | wait events hp hw =>
    simp only [Call.AtPc, hp] at h6
    refine { hc with confirmed_waited := by simp [h6], at_pc := ?_ }
    rename_i w
    by_cases he : w.2.isSome
    · simp [Call.AtPc, Call.waitFailed, he, h6]
    · obtain ⟨r, rfl, -⟩ := waitForReceipt_ok hw (by simpa using he)
      simp [Call.AtPc, h6]
  | confirm hp hn =>
    simp only [Call.AtPc, hp] at h6
    obtain ⟨-, ht, hf, hcf, hw⟩ := h6
    exact { hc with confirmed_le := by simp [hcf], failed_unsent := by simp [hf],
                    confirmed_waited := fun _ => ⟨ht, hw⟩, no_nonce := by simp [hn],
                    at_pc := by simp [Call.AtPc, hn, hcf] }
  | afterConfirmOk hp _ => exact { hc with at_pc := by simpa [Call.AtPc, hp] using h6 }
  | afterConfirmFail e hp _ =>
    simp only [Call.AtPc, hp] at h6
    have hf := hc.failed_eq_zero (hc.confirmed_waited h6.2).1
    exact { hc with at_pc := by simp [Call.AtPc, Call.waitFailed, h6, hf] }
  | finish hp =>
    simp only [Call.AtPc, hp] at h6
    have hf := hc.failed_eq_zero (hc.confirmed_waited h6.2).1
    exact { hc with at_pc := by simp [Call.AtPc, Call.waitFailed, h6, hf] }
  | deferSent hp ht =>
    simp only [Call.AtPc, hp] at h6
    exact { hc with at_pc := by simpa [Call.AtPc, ht, Call.waitFailed] using h6.2.2 }
  | deferRelease hp ht hn =>
    simp only [Call.AtPc, hp] at h6
    exact { hc with failed_le := by simp [h6.2.1],
                    failed_unsent := fun _ => ⟨ht, hc.confirmed_eq_zero ht⟩, no_nonce := by simp [hn],
                    at_pc := by simp [Call.AtPc, Call.waitFailed, h6.2.1, ht] }

theorem CallStep.internal_keeps {c c' : Call} (h : CallStep c .internal c') :
    c'.nonce = c.nonce ∧ c'.markedFailed = c.markedFailed ∧ c'.markedConfirmed = c.markedConfirmed := by
  cases h <;> simp

theorem CallStep.gotNonce_inv {c c' : Call} {n : UInt64} (h : CallStep c (.gotNonce n) c') :
    c.pc = .beforeNonce c.orch.beforeNonce.length ∧ c'.nonce = some n ∧
      c'.markedFailed = c.markedFailed ∧ c'.markedConfirmed = c.markedConfirmed := by
  cases h with
  | gotNonce _ hp => exact ⟨hp, rfl, rfl, rfl⟩

theorem CallStep.nonceError_keeps {c c' : Call} {e : GoError} (h : CallStep c (.nonceError e) c') :
    c'.nonce = c.nonce ∧ c'.markedFailed = c.markedFailed ∧ c'.markedConfirmed = c.markedConfirmed := by
  cases h; simp

theorem CallStep.sent_keeps {c c' : Call} {n : UInt64} {acc : Bool} (h : CallStep c (.sent n acc) c') :
    c'.nonce = c.nonce ∧ c'.markedFailed = c.markedFailed ∧ c'.markedConfirmed = c.markedConfirmed := by
  cases h <;> simp

theorem CallStep.markConfirmed_inv {c c' : Call} {n : UInt64} (h : CallStep c (.markConfirmed n) c') :
    c.pc = .confirming ∧ c.nonce = some n ∧ c'.nonce = c.nonce ∧
      c'.markedFailed = c.markedFailed ∧ c'.markedConfirmed = c.markedConfirmed + 1 := by
  cases h with
  | confirm hp hn => exact ⟨hp, hn, rfl, rfl, rfl⟩

theorem CallStep.markFailed_inv {c c' : Call} {n : UInt64} (h : CallStep c (.markFailed n) c') :
    c.pc = .deferred ∧ c.txSent = false ∧ c.nonce = some n ∧ c'.nonce = c.nonce ∧
      c'.markedFailed = c.markedFailed + 1 ∧ c'.markedConfirmed = c.markedConfirmed := by
  cases h with
  | deferRelease hp ht hn => exact ⟨hp, ht, hn, rfl, rfl, rfl⟩

/-- The call holds `n`: it obtained it and has not given it back with `MarkFailed`. -/
def Call.holds (c : Call) (n : UInt64) : Prop := c.nonce = some n ∧ c.markedFailed = 0

def Call.outstanding (c : Call) (n : UInt64) : Prop := c.holds n ∧ c.markedConfirmed = 0

def Call.retired (c : Call) (n : UInt64) : Prop := c.nonce = some n ∧ c.markedConfirmed = 1

def Outstanding (calls : Nat → Call) (n : UInt64) : Prop := ∃ i, (calls i).outstanding n

def Retired (calls : Nat → Call) (n : UInt64) : Prop := ∃ i, (calls i).retired n

structure System.Inv (s : System) : Prop where
  tracks : Tracks s.nm (Outstanding s.calls) (Retired s.calls)
  unique : ∀ i j n, (s.calls i).holds n → (s.calls j).holds n → i = j
  wf : ∀ i, (s.calls i).Wf

theorem System.inv_initial : System.initial.Inv where
  tracks := tracks_new.congr
    (fun _ => by simp [Outstanding, System.initial, Call.outstanding, Call.holds, Call.idle])
    (fun _ => by simp [Retired, System.initial, Call.retired, Call.idle])
  unique := by simp [System.initial, Call.holds, Call.idle]
  wf _ := Call.wf_idle

section Update

variable {calls : Nat → Call} {i : Nat} {c' : Call}

theorem outstanding_update (n : UInt64) : Outstanding (Function.update calls i c') n ↔
    c'.outstanding n ∨ ∃ j ≠ i, (calls j).outstanding n :=
  Function.exists_update_iff calls fun _ c => c.outstanding n

theorem outstanding_split (i : Nat) (n : UInt64) :
    Outstanding calls n ↔ (calls i).outstanding n ∨ ∃ j ≠ i, (calls j).outstanding n := by
  simpa using @outstanding_update calls i (calls i) n

theorem retired_update (n : UInt64) : Retired (Function.update calls i c') n ↔
    c'.retired n ∨ ∃ j ≠ i, (calls j).retired n :=
  Function.exists_update_iff calls fun _ c => c.retired n

theorem retired_split (i : Nat) (n : UInt64) :
    Retired calls n ↔ (calls i).retired n ∨ ∃ j ≠ i, (calls j).retired n := by
  simpa using @retired_update calls i (calls i) n

theorem wf_update (hw : ∀ j, (calls j).Wf) (hc : c'.Wf) (j : Nat) :
    (Function.update calls i c' j).Wf := by
  by_cases hj : j = i
  · subst hj; simpa using hc
  · simpa [Function.update_noteq hj] using hw j

theorem unique_update (hu : ∀ a b n, (calls a).holds n → (calls b).holds n → a = b)
    (hnew : ∀ n, c'.holds n → ∀ j ≠ i, ¬ (calls j).holds n) (a b : Nat) (n : UInt64) :
    (Function.update calls i c' a).holds n → (Function.update calls i c' b).holds n → a = b := by
  by_cases ha : a = i <;> by_cases hb : b = i
  · exact fun _ _ => ha.trans hb.symm
  · subst ha
    rw [Function.update_same, Function.update_noteq hb]
    exact fun h h' => absurd h' (hnew n h b hb)
  · subst hb
    rw [Function.update_same, Function.update_noteq ha]
    exact fun h' h => absurd h' (hnew n h a ha)
  · rw [Function.update_noteq ha, Function.update_noteq hb]
    exact hu a b n

theorem unique_update_of_holds (hu : ∀ a b n, (calls a).holds n → (calls b).holds n → a = b)
    (hh : ∀ n, c'.holds n → (calls i).holds n) :
    ∀ a b n, (Function.update calls i c' a).holds n → (Function.update calls i c' b).holds n →
      a = b :=
  unique_update hu fun n h j hj h' => hj (hu j i n h' (hh n h))

theorem outstanding_update_release (hu : ∀ a b n, (calls a).holds n → (calls b).holds n → a = b)
    {n : UInt64} (hi : (calls i).holds n) (hgone : ∀ x, ¬ c'.outstanding x) (x : UInt64) :
    (x ≠ n ∧ Outstanding calls x) ↔ Outstanding (Function.update calls i c') x := by
  rw [outstanding_update, outstanding_split i]
  constructor
  · rintro ⟨hx, ⟨⟨h1, -⟩, -⟩ | h⟩
    · exact absurd (Option.some_injective _ (hi.1.symm.trans h1)).symm hx
    · exact .inr h
  · rintro (h | ⟨j, hj, hjx, hjc⟩)
    · exact absurd h (hgone x)
    · exact ⟨fun e => hj (hu j i n (e ▸ hjx) hi), .inr ⟨j, hj, hjx, hjc⟩⟩

theorem holds_ledger (hw : ∀ j, (calls j).Wf) {j : Nat} {n : UInt64} (h : (calls j).holds n) :
    Outstanding calls n ∨ Retired calls n := by
  rcases Nat.le_one_iff_eq_zero_or_eq_one.mp (hw j).confirmed_le with hc | hc
  · exact .inl ⟨j, h, hc⟩
  · exact .inr ⟨j, h.1, hc⟩

end Update

namespace System.Inv

variable {s : System} {i : Nat} {c' : Call}

theorem keeps (hs : s.Inv) (hc : c'.Wf)
    (hk : c'.nonce = (s.calls i).nonce ∧ c'.markedFailed = (s.calls i).markedFailed ∧
      c'.markedConfirmed = (s.calls i).markedConfirmed) (acc : Finset UInt64) :
    System.Inv ⟨s.nm, Function.update s.calls i c', acc⟩ where
  tracks := hs.tracks.congr
    (fun x => by
      rw [outstanding_update, outstanding_split i]
      simp only [Call.outstanding, Call.holds, hk.1, hk.2.1, hk.2.2])
    (fun x => by
      rw [retired_update, retired_split i]
      simp only [Call.retired, hk.1, hk.2.2])
  unique := unique_update_of_holds hs.unique fun _ h => by rwa [Call.holds, ← hk.1, ← hk.2.1]
  wf := wf_update hs.wf hc

theorem gotNonce (hs : s.Inv) {f : Fetch} {nm' : NonceManager} {n : UInt64}
    (ha : s.nm.NoWrap f) (hg : s.nm.getNonce f = (nm', .ok n))
    (hc : CallStep (s.calls i) (.gotNonce n) c') (acc : Finset UInt64) :
    System.Inv ⟨nm', Function.update s.calls i c', acc⟩ := by
  obtain ⟨hp, hn, hf, hcf⟩ := hc.gotNonce_inv
  have hnone : (s.calls i).nonce = none := by simpa [Call.AtPc, hp] using (hs.wf i).at_pc
  obtain ⟨-, hf0, hc0⟩ := (hs.wf i).no_nonce hnone
  have hfresh := hs.tracks.toFresh.getNonce_fresh hg
  refine ⟨(hs.tracks.getNonce hg ha).congr (fun x => ?_) (fun x => ?_),
    unique_update hs.unique fun x hx j _ hj => ?_, wf_update hs.wf (hc.wf (hs.wf i))⟩
  · rw [outstanding_update, outstanding_split i]
    simp [Call.outstanding, Call.holds, hnone, hn, hf, hf0, hcf, hc0, eq_comm]
  · rw [retired_update, retired_split i]
    simp [Call.retired, hnone, hcf, hc0]
  · obtain rfl : x = n := by simpa [Call.holds, hn] using hx.1.symm
    exact (holds_ledger hs.wf hj).elim hfresh.1 hfresh.2.1

theorem markConfirmed (hs : s.Inv) {n : UInt64} (hc : CallStep (s.calls i) (.markConfirmed n) c') :
    System.Inv ⟨s.nm.markConfirmed n, Function.update s.calls i c', s.accepted⟩ := by
  obtain ⟨hp, hn, hn', hf', hc'⟩ := hc.markConfirmed_inv
  have hat := (hs.wf i).at_pc
  simp only [Call.AtPc, hp] at hat
  obtain ⟨-, -, hf0, hc0, -⟩ := hat
  refine ⟨(hs.tracks.markConfirmed ⟨i, ⟨hn, hf0⟩, hc0⟩).congr
    (outstanding_update_release hs.unique ⟨hn, hf0⟩ fun x h => by simp [Call.outstanding, hc'] at h)
    (fun x => ?_),
    unique_update_of_holds hs.unique fun x h => by rwa [Call.holds, ← hn', ← hf'],
    wf_update hs.wf (hc.wf (hs.wf i))⟩
  rw [retired_update, retired_split i]
  simp [Call.retired, hn, hn', hc', hc0, eq_comm]

theorem markFailed (hs : s.Inv) {n : UInt64} (hc : CallStep (s.calls i) (.markFailed n) c') :
    System.Inv ⟨s.nm.markFailed n, Function.update s.calls i c', s.accepted⟩ := by
  obtain ⟨hp, ht, hn, hn', hf', hc'⟩ := hc.markFailed_inv
  have hat := (hs.wf i).at_pc
  simp only [Call.AtPc, hp] at hat
  have hc0 := (hs.wf i).confirmed_eq_zero ht
  refine ⟨(hs.tracks.markFailed ⟨i, ⟨hn, hat.2.1⟩, hc0⟩).congr
    (outstanding_update_release hs.unique ⟨hn, hat.2.1⟩ fun x h => by
      simp [Call.outstanding, Call.holds, hf'] at h)
    (fun x => ?_), unique_update hs.unique fun x h => by simp [Call.holds, hf'] at h,
    wf_update hs.wf (hc.wf (hs.wf i))⟩
  rw [retired_update, retired_split i]
  simp [Call.retired, hc', hc0]

end System.Inv

/-- Every step keeps the invariant, as long as no fetch lets the counter wrap. -/
theorem Step.inv {s s' : System} (h : Step NoWrap s s') (hs : s.Inv) : s'.Inv := by
  cases h with
  | internal hc => exact hs.keeps (hc.wf (hs.wf _)) hc.internal_keeps _
  | getNonce ha hg hc => exact hs.gotNonce ha hg hc _
  | nonceError hg hc =>
    obtain rfl := getNonce_error hg
    exact hs.keeps (hc.wf (hs.wf _)) hc.nonceError_keeps _
  | send hc => exact hs.keeps (hc.wf (hs.wf _)) hc.sent_keeps _
  | markConfirmed hc => exact hs.markConfirmed hc
  | markFailed hc => exact hs.markFailed hc

theorem Reachable.inv {s : System} (h : Reachable NoWrap s) : s.Inv := by
  induction h with
  | initial => exact System.inv_initial
  | step _ hst ih => exact hst.inv ih

theorem System.Inv.getNonce_ne {s : System} (hs : s.Inv) {i : Nat} {n : UInt64}
    (hh : (s.calls i).holds n) (f : Fetch) : (s.nm.getNonce f).2 ≠ .ok n := fun hg =>
  have hfresh := hs.tracks.toFresh.getNonce_fresh (Prod.ext rfl hg)
  (holds_ledger hs.wf hh).elim hfresh.1 hfresh.2.1

/-- How calls use `MarkFailed` and `MarkConfirmed`, and what that gives them together. -/
structure System.NonceDiscipline (s : System) : Prop where
  failed_at_most_once : ∀ i, (s.calls i).markedFailed ≤ 1
  failed_only_unsent : ∀ i, (s.calls i).txSent = true → (s.calls i).markedFailed = 0
  failed_by_return : ∀ i, (s.calls i).pc = .returned → (s.calls i).nonce.isSome →
    (s.calls i).txSent = false → (s.calls i).markedFailed = 1
  confirmed_at_most_once : ∀ i, (s.calls i).markedConfirmed ≤ 1
  confirmed_after_receipt : ∀ i, (s.calls i).markedConfirmed = 1 →
    ∃ r, (s.calls i).waitResult = some (some r, none)
  not_both : ∀ i, ¬ ((s.calls i).markedFailed = 1 ∧ (s.calls i).markedConfirmed = 1)
  unique_holder : ∀ i j n, (s.calls i).holds n → (s.calls j).holds n → i = j
  sent_not_reissued : ∀ i n f, (s.calls i).nonce = some n → (s.calls i).txSent = true →
    (s.nm.getNonce f).2 ≠ .ok n

/-- Every run whose counter never wraps keeps the defer discipline. -/
theorem Reachable.nonce_discipline {s : System} (h : Reachable NoWrap s) : s.NonceDiscipline := by
  have hs := h.inv
  refine ⟨fun i => (hs.wf i).failed_le, fun i => (hs.wf i).failed_eq_zero, fun i hp hn ht => ?_,
    fun i => (hs.wf i).confirmed_le, fun i hc => ((hs.wf i).confirmed_waited hc).2,
    fun i ⟨hf, hc⟩ => by simp [((hs.wf i).failed_unsent hf).2] at hc, hs.unique,
    fun i n f hn ht => hs.getNonce_ne ⟨hn, (hs.wf i).failed_eq_zero ht⟩ f⟩
  have hat := (hs.wf i).at_pc
  simp only [Call.AtPc, hp] at hat
  exact hat.1 hn ht

/-- Call `0` sends with nonce `7` and waits; call `1` takes `8`, fails before it sends and
releases `8` to the pool. -/
theorem Reachable.nonce_discipline_sent_and_released : ∃ s, Reachable NoWrap s ∧
    (s.calls 0).nonce = some 7 ∧ (s.calls 0).txSent = true ∧ (s.calls 1).nonce = some 8 ∧
    (s.calls 1).markedFailed = 1 ∧ s.nm.reclaimable = [8] ∧ s.NonceDiscipline := by
  have h0 := ((((@Reachable.at_idle NoWrap _ _ _ 0 .initial rfl).internal_at
    (.invoke deleteProofSet rfl)).getNonce_at (noWrap_new (by decide)) rfl (.gotNonce 7 rfl)).internal_at
    (.beforeSendOk rfl Nat.one_pos)).send_at (.sendOk true rfl rfl)
  have h1 := (((h0.at_idle (j := 1) rfl).internal_at (.invoke deleteProofSet rfl)).getNonce_at
    (f := .ok 0) (fun _ c hc => by cases (loadNonce_some rfl _).symm.trans hc; decide) rfl
    (.gotNonce 8 rfl)).internal_at (.beforeSendFail (.plain "connection refused") rfl (by decide))
  have h2 := h1.markFailed_at (.deferRelease rfl rfl rfl)
  exact ⟨_, h2, rfl, rfl, rfl, rfl, rfl, Reachable.nonce_discipline h2⟩

/-- Once `2^64 - 1` further calls are mined, the counter wraps to `0` and `GetNonce` hands
call `2^64` the nonce that call `0` sent and still waits on. -/
theorem counter_wrap_reissues_sent_nonce : ∃ s, Reachable (fun _ _ => True) s ∧
    (s.calls 0).holds 0 ∧ (s.calls 0).txSent = true ∧ (s.calls (2 ^ 64)).holds 0 := by
  obtain ⟨cnt, calls, acc, hcnt, h, h0, ht, hf, hidle⟩ :=
    Reachable.counter_after_mined (fun _ _ => trivial) (2 ^ 64 - 1) (by decide)
  obtain rfl : cnt = 0 := UInt64.ext (by simpa using hcnt)
  have h' := @Reachable.getNonce_at _ _ _ _ _ _ _ (.ok 0) _ _
    ((h.at_idle (hidle (2 ^ 64) (by decide))).internal_at (.invoke deleteProofSet rfl)) trivial rfl
    (.gotNonce 0 rfl)
  refine ⟨_, h', ?_, ?_, ?_⟩ <;> simp [Function.update_noteq, Call.holds, h0, ht, hf, Call.idle]

/-- A `DeleteProofSet` call takes nonce `7`; the network accepts its transaction, but the
send returns an error, so `txSent` stays false and the deferred `MarkFailed` pools `7`. -/
theorem accepted_send_error_reissues_nonce : ∃ s, Reachable NoWrap s ∧ 7 ∈ s.accepted ∧
    ∀ f, (s.nm.getNonce f).2 = .ok 7 := by
  have h := ((((@Reachable.at_idle NoWrap _ _ _ 0 .initial rfl).internal_at
    (.invoke deleteProofSet rfl)).getNonce_at (noWrap_new (by decide)) rfl (.gotNonce 7 rfl)).internal_at
    (.beforeSendOk rfl Nat.one_pos)).send_at (.sendFail true (.plain "connection reset by peer") rfl rfl)
  exact ⟨_, h.markFailed_at (.deferRelease rfl rfl rfl), by simp, fun _ => rfl⟩

/-- Once every call has returned, `pendingTxs` holds exactly the nonces whose transaction
was sent and whose receipt wait returned an error. -/
theorem Reachable.pendingTxs_of_returned {s : System} (h : Reachable NoWrap s)
    (hr : ∀ i, (s.calls i).pc = .idle ∨ (s.calls i).pc = .returned) (n : UInt64) :
    n ∈ s.nm.pendingTxs ↔ ∃ i, (s.calls i).nonce = some n ∧ (s.calls i).txSent = true ∧
      ∃ w, (s.calls i).waitResult = some w ∧ w.2.isSome := by
  have hs := h.inv
  rw [hs.tracks.pending]
  constructor
  · rintro ⟨i, ⟨hn, hf⟩, hc⟩
    have hat := (hs.wf i).at_pc
    rcases hr i with hp | hp <;> simp only [Call.AtPc, hp] at hat
    · simp [hat] at hn
    · have ht : (s.calls i).txSent = true := by
        cases ht : (s.calls i).txSent
        · simp [hat.1 (by simp [hn]) ht] at hf
        · rfl
      exact ⟨i, hn, ht, hat.2 ht hc⟩
  · rintro ⟨i, hn, ht, w, hw, he⟩
    refine ⟨i, ⟨hn, (hs.wf i).failed_eq_zero ht⟩, ?_⟩
    rcases Nat.le_one_iff_eq_zero_or_eq_one.mp (hs.wf i).confirmed_le with hc | hc
    · exact hc
    · obtain ⟨r, hr'⟩ := ((hs.wf i).confirmed_waited hc).2
      cases hw.symm.trans hr'
      simp at he

/-- A `DeleteProofSet` call whose receipt arrives with a failed status returns the wait's
error and never calls `MarkConfirmed`: its nonce stays in `pendingTxs` for good. -/
theorem failed_receipt_stays_pending : ∃ s, Reachable NoWrap s ∧
    (∀ i, (s.calls i).pc = .idle ∨ (s.calls i).pc = .returned) ∧ (s.calls 0).nonce = some 7 ∧
    (∃ r e, (s.calls 0).waitResult = some (some r, some e) ∧ r.status ≠ receiptStatusSuccessful) ∧
    7 ∈ s.nm.pendingTxs := by
  have h := ((((((@Reachable.at_idle NoWrap _ _ _ 0 .initial rfl).internal_at
    (.invoke deleteProofSet rfl)).getNonce_at (noWrap_new (by decide)) rfl (.gotNonce 7 rfl)).internal_at
    (.beforeSendOk rfl Nat.one_pos)).send_at (.sendOk true rfl rfl)).internal_at
    (.wait [.tick (.ok ⟨0, 0⟩)] rfl rfl)).internal_at (.deferSent rfl rfl)
  refine ⟨_, h, ?returned, rfl, ⟨_, _, rfl, by decide⟩,
    (h.pendingTxs_of_returned ?returned 7).mpr ⟨0, rfl, rfl, _, rfl, rfl⟩⟩
  intro i
  by_cases hi : i = 0
  · subst hi; simp
  · simp [Function.update_noteq hi, System.initial, Call.idle]

end Pdp
