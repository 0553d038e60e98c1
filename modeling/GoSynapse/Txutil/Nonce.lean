import GoSynapse.Basic

/-! # `txutil.NonceManager`

One mutex guards the manager, so each method is one atomic step. `GetNonce` takes the
smallest nonce of the reclaimable pool, else the counter, loaded on first use from
`PendingNonceAt`, whose answer is a parameter of the step. -/

namespace Txutil

open GoSynapse

/-- `pendingTxs` is a `map[uint64]bool` whose values are only ever `true`. -/
structure NonceManager where
  nonce : Option UInt64
  pendingTxs : Finset UInt64
  reclaimable : List UInt64
  deriving DecidableEq

def newNonceManager : NonceManager := ⟨none, ∅, []⟩

abbrev Fetch := Except GoError UInt64

/-- `sort.Slice(nm.reclaimable, less)`: every sort yields this list of numbers. -/
def sortNonces (l : List UInt64) : List UInt64 := l.insertionSort (· ≤ ·)

theorem perm_sortNonces (l : List UInt64) : (sortNonces l).Perm l := List.perm_insertionSort _ _

theorem sorted_sortNonces (l : List UInt64) : (sortNonces l).Sorted (· ≤ ·) :=
  List.sorted_insertionSort _ _

theorem sortNonces_of_sorted {l : List UInt64} (h : l.Sorted (· ≤ ·)) : sortNonces l = l :=
  List.Sorted.insertionSort_eq h

@[simp] theorem sortNonces_eq_nil {l : List UInt64} : sortNonces l = [] ↔ l = [] := by
  rw [← List.length_eq_zero, (perm_sortNonces l).length_eq, List.length_eq_zero]

namespace NonceManager

def loadNonce (nm : NonceManager) (fetch : Fetch) : Fetch :=
  match nm.nonce with
  | some c => .ok c
  | none => fetch

def getNonce (nm : NonceManager) (fetch : Fetch) : NonceManager × Except GoError UInt64 :=
  match sortNonces nm.reclaimable with
  | r :: rest => ({ nm with reclaimable := rest, pendingTxs := insert r nm.pendingTxs }, .ok r)
  | [] =>
    match nm.loadNonce fetch with
    | .error e => (nm, .error (e.wrapf "failed to get pending nonce"))
    | .ok c => ({ nm with nonce := some (c + 1), pendingTxs := insert c nm.pendingTxs }, .ok c)

def markConfirmed (nm : NonceManager) (n : UInt64) : NonceManager :=
  { nm with pendingTxs := nm.pendingTxs.erase n }

def markFailed (nm : NonceManager) (n : UInt64) : NonceManager :=
  { nm with pendingTxs := nm.pendingTxs.erase n, reclaimable := nm.reclaimable ++ [n] }

def reset (nm : NonceManager) (fetch : Fetch) : NonceManager × Option GoError :=
  match fetch with
  | .error e => (nm, some (e.wrapf "failed to reset nonce"))
  | .ok p => (⟨some p, ∅, []⟩, none)

def getPendingCount (nm : NonceManager) : Nat := nm.pendingTxs.card

@[simp] theorem loadNonce_some {nm : NonceManager} {c : UInt64} (h : nm.nonce = some c)
    (f : Fetch) : nm.loadNonce f = .ok c := by
  simp [loadNonce, h]

@[simp] theorem markConfirmed_nonce (nm : NonceManager) (n : UInt64) :
    (nm.markConfirmed n).nonce = nm.nonce := rfl
@[simp] theorem markConfirmed_reclaimable (nm : NonceManager) (n : UInt64) :
    (nm.markConfirmed n).reclaimable = nm.reclaimable := rfl
@[simp] theorem markConfirmed_pendingTxs (nm : NonceManager) (n : UInt64) :
    (nm.markConfirmed n).pendingTxs = nm.pendingTxs.erase n := rfl
@[simp] theorem markFailed_nonce (nm : NonceManager) (n : UInt64) :
    (nm.markFailed n).nonce = nm.nonce := rfl
@[simp] theorem markFailed_reclaimable (nm : NonceManager) (n : UInt64) :
    (nm.markFailed n).reclaimable = nm.reclaimable ++ [n] := rfl
@[simp] theorem markFailed_pendingTxs (nm : NonceManager) (n : UInt64) :
    (nm.markFailed n).pendingTxs = nm.pendingTxs.erase n := rfl

/-- One `GetNonce` pops the pool's minimum, mints from the counter, or fails and changes nothing. -/
theorem getNonce_cases {nm nm' : NonceManager} {f : Fetch} {res : Except GoError UInt64}
    (h : nm.getNonce f = (nm', res)) :
    (∃ r rest, sortNonces nm.reclaimable = r :: rest ∧ res = .ok r ∧
      nm' = { nm with reclaimable := rest, pendingTxs := insert r nm.pendingTxs }) ∨
    (nm.reclaimable = [] ∧ ∃ c, nm.loadNonce f = .ok c ∧ res = .ok c ∧
      nm' = { nm with nonce := some (c + 1), pendingTxs := insert c nm.pendingTxs }) ∨
    (nm.reclaimable = [] ∧ ∃ e, nm.loadNonce f = .error e ∧
      res = .error (e.wrapf "failed to get pending nonce") ∧ nm' = nm) := by
  unfold getNonce at h
  split at h
  · next r rest hs => exact .inl ⟨r, rest, hs, (Prod.mk.inj h).2.symm, (Prod.mk.inj h).1.symm⟩
  · next hs =>
    have hp : nm.reclaimable = [] := sortNonces_eq_nil.mp hs
    split at h
    · next e he => exact .inr (.inr ⟨hp, e, he, (Prod.mk.inj h).2.symm, (Prod.mk.inj h).1.symm⟩)
    · next c hc => exact .inr (.inl ⟨hp, c, hc, (Prod.mk.inj h).2.symm, (Prod.mk.inj h).1.symm⟩)

/-- `*nm.nonce++` does not wrap: the counter minted is below `2^64 - 1`. -/
def NoWrap (nm : NonceManager) (f : Fetch) : Prop :=
  nm.reclaimable = [] → ∀ c, nm.loadNonce f = .ok c → c.toNat + 1 < 2 ^ 64

theorem getNonce_pendingTxs {nm nm' : NonceManager} {f : Fetch} {n : UInt64}
    (h : nm.getNonce f = (nm', .ok n)) : nm'.pendingTxs = insert n nm.pendingTxs := by
  obtain ⟨r, rest, -, hr, rfl⟩ | ⟨-, c, -, hr, rfl⟩ | ⟨-, e, -, hr, -⟩ := getNonce_cases h
  · cases hr; rfl
  · cases hr; rfl
  · cases hr

theorem getNonce_error {nm nm' : NonceManager} {f : Fetch} {e : GoError}
    (h : nm.getNonce f = (nm', .error e)) : nm' = nm := by
  obtain ⟨_, _, _, hr, _⟩ | ⟨_, _, _, hr, _⟩ | ⟨_, _, _, _, h⟩ := getNonce_cases h
  · cases hr
  · cases hr
  · exact h

theorem markConfirmed_of_not_mem {nm : NonceManager} {n : UInt64} (h : n ∉ nm.pendingTxs) :
    nm.markConfirmed n = nm := by
  simp [markConfirmed, Finset.erase_eq_of_not_mem h]

/-- What keeps `GetNonce` fresh: the pool holds no outstanding (`O`) or retired (`R`) nonce, each
once, all in `[p, counter)`, `p` being the value of the last `Reset`. -/
structure Fresh (nm : NonceManager) (O R : UInt64 → Prop) (p : UInt64) : Prop where
  nodup : nm.reclaimable.Nodup
  pool_fresh : ∀ r ∈ nm.reclaimable, ¬ O r ∧ ¬ R r
  disjoint : ∀ n, O n → ¬ R n
  below : ∀ x, O x ∨ R x ∨ x ∈ nm.reclaimable → ∃ c, nm.nonce = some c ∧ x < c
  floor : ∀ x, O x ∨ R x ∨ x ∈ nm.reclaimable → p ≤ x
  counter_floor : ∀ f c, nm.loadNonce f = .ok c → p ≤ c

/-- `Fresh` since creation, and `pendingTxs` is exactly the set of outstanding nonces. -/
structure Tracks (nm : NonceManager) (O R : UInt64 → Prop) extends Fresh nm O R 0 : Prop where
  pending : ∀ n, n ∈ nm.pendingTxs ↔ O n

variable {nm nm' : NonceManager} {O R : UInt64 → Prop} {p n : UInt64} {f : Fetch}

theorem tracks_new : Tracks newNonceManager (fun _ => False) (fun _ => False) where
  nodup := List.nodup_nil
  pool_fresh := by simp [newNonceManager]
  disjoint := by simp
  below := by simp [newNonceManager]
  floor := by simp [newNonceManager]
  counter_floor _ c _ := UInt64.zero_le' c
  pending := by simp [newNonceManager]

theorem fresh_reset (p : UInt64) : Fresh ⟨some p, ∅, []⟩ (fun _ => False) (fun _ => False) p where
  nodup := List.nodup_nil
  pool_fresh := by simp
  disjoint := by simp
  below := by simp
  floor := by simp
  counter_floor _ c h := by cases h; exact UInt64.le_refl p

theorem Fresh.getNonce_fresh (F : Fresh nm O R p) (h : nm.getNonce f = (nm', .ok n)) :
    ¬ O n ∧ ¬ R n ∧ p ≤ n := by
  obtain ⟨r, rest, hs, hr, -⟩ | ⟨-, c, hc, hr, -⟩ | ⟨-, e, -, hr, -⟩ := getNonce_cases h
  · cases hr
    have hm : n ∈ nm.reclaimable := (perm_sortNonces _).mem_iff.mp (hs ▸ List.mem_cons_self _ _)
    exact ⟨(F.pool_fresh n hm).1, (F.pool_fresh n hm).2, F.floor n (.inr (.inr hm))⟩
  · cases hr
    have hlt : ∀ x, O x ∨ R x → x < n := fun x hx => by
      obtain ⟨c0, h0, hx⟩ := F.below x (hx.elim .inl (.inr ∘ .inl))
      rw [loadNonce_some h0, Except.ok.injEq] at hc
      exact hc ▸ hx
    exact ⟨fun ho => UInt64.lt_irrefl n (hlt n (.inl ho)),
      fun hr => UInt64.lt_irrefl n (hlt n (.inr hr)), F.counter_floor f n hc⟩
  · cases hr

theorem Fresh.getNonce (F : Fresh nm O R p) (h : nm.getNonce f = (nm', .ok n))
    (hw : nm.NoWrap f) : Fresh nm' (fun x => x = n ∨ O x) R p := by
  have hn := F.getNonce_fresh h
  obtain ⟨r, rest, hs, hr, rfl⟩ | ⟨hp, c, hc, hr, rfl⟩ | ⟨-, e, -, hr, -⟩ := getNonce_cases h
  · cases hr
    have hperm : (n :: rest).Perm nm.reclaimable := hs ▸ perm_sortNonces _
    have hnd := hperm.nodup_iff.mpr F.nodup
    have hold : ∀ x, (x = n ∨ O x) ∨ R x ∨ x ∈ rest → O x ∨ R x ∨ x ∈ nm.reclaimable := by
      rintro x ((rfl | hx) | hx | hx)
      exacts [.inr (.inr (hperm.subset (.head _))), .inl hx, .inr (.inl hx),
        .inr (.inr (hperm.subset (.tail _ hx)))]
    refine ⟨hnd.of_cons, fun x hx => ?_, ?_, fun x hx => F.below x (hold x hx),
      fun x hx => F.floor x (hold x hx), F.counter_floor⟩
    · have hm := hperm.subset (.tail _ hx)
      exact ⟨not_or.mpr ⟨fun e => (List.nodup_cons.mp hnd).1 (e ▸ hx), (F.pool_fresh x hm).1⟩,
        (F.pool_fresh x hm).2⟩
    · rintro x (rfl | hx)
      exacts [hn.2.1, F.disjoint x hx]
  · cases hr
    have hw' := hw hp n hc
    have hlt : ∀ x, O x ∨ R x → x < n + 1 := fun x hx => by
      obtain ⟨c0, h0, hx⟩ := F.below x (hx.elim .inl (.inr ∘ .inl))
      rw [loadNonce_some h0, Except.ok.injEq] at hc
      exact (UInt64.lt_add_one_iff_le hw').mpr (UInt64.le_of_lt' (hc ▸ hx))
    refine ⟨by simp [hp], by simp [hp], ?_, ?_, ?_, ?_⟩
    · rintro x (rfl | hx)
      exacts [hn.2.1, F.disjoint x hx]
    · rintro x ((rfl | hx) | hx | hx)
      · exact ⟨_, rfl, (UInt64.lt_add_one_iff_le hw').mpr (UInt64.le_refl x)⟩
      · exact ⟨_, rfl, hlt x (.inl hx)⟩
      · exact ⟨_, rfl, hlt x (.inr hx)⟩
      · simp [hp] at hx
    · rintro x ((rfl | hx) | hx | hx)
      exacts [hn.2.2, F.floor x (.inl hx), F.floor x (.inr (.inl hx)), by simp [hp] at hx]
    · rintro f' c' hc'
      cases hc'
      exact UInt64.le_add_one_of_le hw' hn.2.2
  · cases hr

theorem Fresh.markConfirmed (F : Fresh nm O R p) (hn : O n) :
    Fresh (nm.markConfirmed n) (fun x => x ≠ n ∧ O x) (fun x => x = n ∨ R x) p where
  nodup := F.nodup
  pool_fresh r hr := by
    have := F.pool_fresh r hr
    exact ⟨fun h => this.1 h.2, fun h => h.elim (fun e => this.1 (e ▸ hn)) this.2⟩
  disjoint x hx := fun h => h.elim hx.1 (F.disjoint x hx.2)
  below x hx := F.below x (by rcases hx with hx | (rfl | hx) | hx <;> simp_all)
  floor x hx := F.floor x (by rcases hx with hx | (rfl | hx) | hx <;> simp_all)
  counter_floor := F.counter_floor

theorem Fresh.markConfirmed_any (F : Fresh nm O R p) (n : UInt64) :
    Fresh (nm.markConfirmed n) O R p :=
  ⟨F.nodup, F.pool_fresh, F.disjoint, F.below, F.floor, F.counter_floor⟩

theorem Fresh.markFailed (F : Fresh nm O R p) (hn : O n) :
    Fresh (nm.markFailed n) (fun x => x ≠ n ∧ O x) R p :=
  have hold : ∀ x, (x ≠ n ∧ O x) ∨ R x ∨ x ∈ nm.reclaimable ++ [n] →
      O x ∨ R x ∨ x ∈ nm.reclaimable := by
    rintro x (hx | hx | hx)
    · exact .inl hx.2
    · exact .inr (.inl hx)
    · rcases List.mem_append.mp hx with hx | hx
      · exact .inr (.inr hx)
      · exact .inl (List.mem_singleton.mp hx ▸ hn)
  { nodup := List.nodup_append.mpr ⟨F.nodup, List.nodup_singleton n,
      fun x hx hy => (F.pool_fresh x hx).1 ((List.mem_singleton.mp hy) ▸ hn)⟩
    pool_fresh := fun r hr => by
      rcases List.mem_append.mp hr with hr | hr
      · exact ⟨fun h => (F.pool_fresh r hr).1 h.2, (F.pool_fresh r hr).2⟩
      · rw [List.mem_singleton.mp hr]; exact ⟨fun h => h.1 rfl, F.disjoint n hn⟩
    disjoint := fun x hx => F.disjoint x hx.2
    below := fun x hx => F.below x (hold x hx)
    floor := fun x hx => F.floor x (hold x hx)
    counter_floor := F.counter_floor }

theorem Tracks.getNonce (T : Tracks nm O R) (h : nm.getNonce f = (nm', .ok n))
    (hw : nm.NoWrap f) : Tracks nm' (fun x => x = n ∨ O x) R :=
  { T.toFresh.getNonce h hw with
    pending := fun x => by rw [getNonce_pendingTxs h, Finset.mem_insert, T.pending] }

theorem Tracks.markConfirmed (T : Tracks nm O R) (hn : O n) :
    Tracks (nm.markConfirmed n) (fun x => x ≠ n ∧ O x) (fun x => x = n ∨ R x) :=
  { T.toFresh.markConfirmed hn with
    pending := fun x => by simp [Finset.mem_erase, T.pending] }

theorem Tracks.markFailed (T : Tracks nm O R) (hn : O n) :
    Tracks (nm.markFailed n) (fun x => x ≠ n ∧ O x) R :=
  { T.toFresh.markFailed hn with
    pending := fun x => by simp [Finset.mem_erase, T.pending] }

theorem Tracks.congr {O' R' : UInt64 → Prop} (T : Tracks nm O R) (hO : ∀ x, O x ↔ O' x)
    (hR : ∀ x, R x ↔ R' x) : Tracks nm O' R' := by
  obtain rfl : O = O' := funext fun x => propext (hO x)
  obtain rfl : R = R' := funext fun x => propext (hR x)
  exact T

theorem Fresh.congr {O' R' : UInt64 → Prop} (F : Fresh nm O R p) (hO : ∀ x, O x ↔ O' x)
    (hR : ∀ x, R x ↔ R' x) : Fresh nm O' R' p := by
  obtain rfl : O = O' := funext fun x => propext (hO x)
  obtain rfl : R = R' := funext fun x => propext (hR x)
  exact F

end NonceManager

end Txutil
