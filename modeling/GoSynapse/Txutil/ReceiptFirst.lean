import GoSynapse.Txutil.Receipt

/-! # The first versions of `WaitForReceipt` and `WaitForConfirmation`

In the first versions every RPC error means "not yet". The second versions add a limit on
consecutive errors and change the timeout's text, and otherwise refine the first. -/

namespace Txutil

open GoSynapse

namespace First

def waitForReceipt : List (WaitEvent (Except GoError Receipt)) → Option WaitResult
  | [] => none
  | .done e :: _ => some (none, some (e.wrapf "timeout waiting for transaction receipt"))
  | .tick (.ok r) :: _ => some (receiptResult r)
  | .tick (.error _) :: events => waitForReceipt events

def waitForConfirmation (confirmations : UInt64) : List (WaitEvent Poll) → Option WaitResult
  | [] => none
  | .done e :: _ => some (none, some e)
  | .tick p :: events =>
    match p.receipt with
    | .error _ => waitForConfirmation confirmations events
    | .ok r =>
      if r.status ≠ receiptStatusSuccessful then some (some r, some (txFailedError r))
      else if confirmations = 0 then some (some r, none)
      else
        match p.head with
        | .error _ => waitForConfirmation confirmations events
        | .ok currentBlock =>
          if r.blockNumber.toUInt64 + confirmations ≤ currentBlock then some (some r, none)
          else waitForConfirmation confirmations events

end First

/-- A wait gives up with `w` after exactly the polls `pre`: without the last of them it is
still polling, and after them it returns `w` whatever follows. -/
def GivesUpAfter {α : Type} (wait : List (WaitEvent α) → Option WaitResult)
    (pre : List (WaitEvent α)) (w : WaitResult) : Prop :=
  pre ≠ [] ∧ wait pre.dropLast = none ∧ ∀ rest, wait (pre ++ rest) = some w

theorem GivesUpAfter.single {α : Type} {wait : List (WaitEvent α) → Option WaitResult}
    {ev : WaitEvent α} {w : WaitResult} (h0 : wait [] = none)
    (h : ∀ rest, wait (ev :: rest) = some w) : GivesUpAfter wait [ev] w :=
  ⟨List.cons_ne_nil _ _, h0, h⟩

theorem GivesUpAfter.cons {α : Type} {wait wait' : List (WaitEvent α) → Option WaitResult}
    {ev : WaitEvent α} {pre : List (WaitEvent α)} {w : WaitResult}
    (hstep : ∀ rest, wait (ev :: rest) = wait' rest) (h : GivesUpAfter wait' pre w) :
    GivesUpAfter wait (ev :: pre) w :=
  ⟨List.cons_ne_nil _ _, by rw [List.dropLast_cons_of_ne_nil h.1, hstep]; exact h.2.1,
    fun rest => by rw [List.cons_append, hstep]; exact h.2.2 rest⟩

/-- What the configurable wait returns, against the first version: a receipt or a timeout the
first returns too, or a give-up right after a run of RPC errors the first polls past. -/
def RefinesFirst (wait : List (WaitEvent (Except GoError Receipt)) → Option WaitResult)
    (events : List (WaitEvent (Except GoError Receipt))) (w : WaitResult) : Prop :=
  (∃ r, w = receiptResult r ∧ First.waitForReceipt events = some w) ∨
  (∃ n e, w = (none, some (receiptTimeoutError n e)) ∧
    First.waitForReceipt events =
      some (none, some (e.wrapf "timeout waiting for transaction receipt"))) ∨
  (∃ n m err, w = (none, some (rpcFailureError n m err)) ∧ ∃ errs : List GoError, ∃ rest,
    events = errs.map (fun e => .tick (.error e)) ++ rest ∧
    GivesUpAfter wait (errs.map fun e => .tick (.error e)) w ∧
    ∀ rest', First.waitForReceipt (errs.map (fun e => .tick (.error e)) ++ rest') =
      First.waitForReceipt rest')

theorem RefinesFirst.cons_error {wait wait' : List (WaitEvent (Except GoError Receipt)) →
    Option WaitResult} {events} {w : WaitResult} {err : GoError}
    (hstep : ∀ rest, wait (.tick (.error err) :: rest) = wait' rest)
    (h : RefinesFirst wait' events w) : RefinesFirst wait (.tick (.error err) :: events) w := by
  rcases h with ⟨r, hw, h1⟩ | ⟨n, e, hw, h1⟩ | ⟨n, m, e, hw, errs, rest, rfl, hgive, hskip⟩
  · exact Or.inl ⟨r, hw, h1⟩
  · exact Or.inr (Or.inl ⟨n, e, hw, h1⟩)
  · exact Or.inr (Or.inr ⟨n, m, e, hw, err :: errs, rest, rfl, hgive.cons hstep, hskip⟩)

theorem receiptLoop_refinesFirst {k : Int} :
    ∀ {ce pc : Nat} {events} {w : WaitResult}, receiptLoop k ce pc events = some w →
      RefinesFirst (receiptLoop k ce pc) events w
  | _, _, [], _, h => by cases h
  | _, pc, .done e :: _, _, h => by
    cases h
    exact Or.inr (Or.inl ⟨pc, e, rfl, rfl⟩)
  | _, _, .tick (.ok r) :: _, _, h => by
    cases h
    exact Or.inl ⟨r, rfl, rfl⟩
  | ce, pc, .tick (.error err) :: events, w, h => by
    simp only [receiptLoop] at h
    split_ifs at h with hn hk
    · exact (receiptLoop_refinesFirst h).cons_error fun _ => by simp only [receiptLoop, if_pos hn]
    · cases h
      exact Or.inr (Or.inr ⟨_, _, _, rfl, [err], events, rfl,
        .single rfl fun _ => by simp only [receiptLoop, if_neg hn, if_pos hk], fun _ => rfl⟩)
    · exact (receiptLoop_refinesFirst h).cons_error fun _ => by
        simp only [receiptLoop, if_neg hn, if_neg hk]

theorem receiptLoop_none_first {k : Int} :
    ∀ {ce pc : Nat} {events}, receiptLoop k ce pc events = none →
      First.waitForReceipt events = none
  | _, _, [], _ => rfl
  | _, _, .done _ :: _, h => by cases h
  | _, _, .tick (.ok _) :: _, h => by cases h
  | ce, pc, .tick (.error err) :: events, h => by
    show First.waitForReceipt events = none
    simp only [receiptLoop] at h
    split_ifs at h <;> first | cases h | exact receiptLoop_none_first h

/-- `WaitForReceiptWithConfig` refines the first `WaitForReceipt` on the same events, and has
not returned only where neither has the first. -/
theorem waitForReceiptWithConfig_refinesFirst (config : ReceiptWaitConfig)
    (events : List (WaitEvent (Except GoError Receipt))) :
    (∀ w, waitForReceiptWithConfig config events = some w →
      RefinesFirst (waitForReceiptWithConfig config) events w) ∧
      (waitForReceiptWithConfig config events = none → First.waitForReceipt events = none) :=
  ⟨fun _ => receiptLoop_refinesFirst, receiptLoop_none_first⟩

/-- What the second `WaitForConfirmation` returns, against the first: the same result, or a
give-up right after polls the first polls past. -/
def ConfirmsFirst (wait : List (WaitEvent Poll) → Option WaitResult) (confirmations : UInt64)
    (events : List (WaitEvent Poll)) (w : WaitResult) : Prop :=
  First.waitForConfirmation confirmations events = some w ∨
  ∃ n err, w = (none, some (confirmationFailureError n err)) ∧ ∃ pre rest,
    events = pre ++ rest ∧ GivesUpAfter wait pre w ∧
    ∀ rest', First.waitForConfirmation confirmations (pre ++ rest') =
      First.waitForConfirmation confirmations rest'

theorem ConfirmsFirst.cons {wait wait' : List (WaitEvent Poll) → Option WaitResult}
    {confirmations : UInt64} {events} {w : WaitResult} {ev : WaitEvent Poll}
    (hstep : ∀ rest, wait (ev :: rest) = wait' rest)
    (hev : ∀ rest, First.waitForConfirmation confirmations (ev :: rest) =
      First.waitForConfirmation confirmations rest)
    (h : ConfirmsFirst wait' confirmations events w) :
    ConfirmsFirst wait confirmations (ev :: events) w := by
  rcases h with h | ⟨n, err, hw, pre, rest, rfl, hgive, hskip⟩
  · exact .inl ((hev _).trans h)
  · exact .inr ⟨n, err, hw, ev :: pre, rest, rfl, hgive.cons hstep,
      fun rest' => (hev _).trans (hskip rest')⟩

theorem confirmationLoop_confirmsFirst {confirmations : UInt64} :
    ∀ {ce : Nat} {events} {w : WaitResult}, confirmationLoop confirmations ce events = some w →
      ConfirmsFirst (confirmationLoop confirmations ce) confirmations events w
  | _, [], _, h => by cases h
  | _, .done _ :: _, _, h => by cases h; exact .inl rfl
  | ce, .tick p :: events, w, h => by
    rcases p with ⟨_ | r, _ | currentBlock⟩ <;> simp only [confirmationLoop] at h <;>
      split_ifs at h <;>
      first
      | exact (confirmationLoop_confirmsFirst h).cons (fun _ => by simp_all [confirmationLoop])
          (fun _ => by simp_all [First.waitForConfirmation])
      | (cases h; exact .inr ⟨_, _, rfl, [_], events, rfl,
          .single rfl fun _ => by simp_all [confirmationLoop],
          fun _ => by simp_all [First.waitForConfirmation]⟩)
      | (cases h; exact .inl (by simp_all [First.waitForConfirmation]))

theorem confirmationLoop_none_first {confirmations : UInt64} :
    ∀ {ce : Nat} {events}, confirmationLoop confirmations ce events = none →
      First.waitForConfirmation confirmations events = none
  | _, [], _ => rfl
  | _, .done _ :: _, h => by cases h
  | ce, .tick p :: events, h => by
    rcases p with ⟨_ | r, _ | currentBlock⟩ <;> simp only [confirmationLoop] at h <;>
      split_ifs at h <;>
      first
      | cases h
      | exact (by simp_all [First.waitForConfirmation] :
          First.waitForConfirmation confirmations (_ :: events) =
            First.waitForConfirmation confirmations events).trans (confirmationLoop_none_first h)

/-- The second `WaitForConfirmation` refines the first on the same events, and has not returned
only where neither has the first. -/
theorem waitForConfirmation_confirmsFirst (confirmations : UInt64)
    (events : List (WaitEvent Poll)) :
    (∀ w, waitForConfirmation confirmations events = some w →
      ConfirmsFirst (waitForConfirmation confirmations) confirmations events w) ∧
      (waitForConfirmation confirmations events = none →
        First.waitForConfirmation confirmations events = none) :=
  ⟨fun _ => confirmationLoop_confirmsFirst, confirmationLoop_none_first⟩

end Txutil
