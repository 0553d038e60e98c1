import GoSynapse.Basic

/-! # `GetRailsAsPayer` in package `payments`

The payer's rails come a hundred at a time. The loop stops at a short page or a next offset
of `0`, and otherwise asks again from the offset the contract gave. -/

namespace Payments

open GoSynapse

/-- A `RailInfo`: the three fields `getRailsForPayerAndToken` returns for a rail. -/
structure RailInfo where
  railID : Int
  isTerminated : Bool
  endEpoch : Int
  deriving DecidableEq, Repr

section Rails

variable (getRailsForPayerAndToken : Int → Int → Except GoError (List RailInfo × Int))

def railsLoop : Nat → Int → List RailInfo → Option (Except GoError (List RailInfo))
  | 0, _, _ => none
  | fuel + 1, offset, allRails =>
    match getRailsForPayerAndToken offset 100 with
    | .error err => some (.error (err.wrapf "failed to get rails"))
    | .ok (results, nextOffset) =>
      let allRails := allRails ++ results
      if nextOffset = 0 ∨ results.length < 100 then some (.ok allRails)
      else railsLoop fuel nextOffset allRails

def getRailsAsPayer (fuel : Nat) : Option (Except GoError (List RailInfo)) :=
  railsLoop getRailsForPayerAndToken fuel 0 []

/-- A contract that serves `L` as consecutive slices, with the end of the slice, or `0` at
the end, as the next offset. -/
def Paged (L : List RailInfo) : Prop :=
  ∀ o : Nat, ∃ next : Int, getRailsForPayerAndToken o 100 = .ok ((L.drop o).take 100, next) ∧
    (next = o + 100 ∨ L.length ≤ o + 100 ∧ next = 0)

theorem railsLoop_paged {L : List RailInfo} (h : Paged getRailsForPayerAndToken L) :
    ∀ {fuel o : Nat} (acc : List RailInfo), (L.length - o) / 100 < fuel →
      railsLoop getRailsForPayerAndToken fuel o acc = some (.ok (acc ++ L.drop o))
  | fuel + 1, o, acc, hf => by
    obtain ⟨next, hpage, hnext⟩ := h o
    have hlen : ((L.drop o).take 100).length = min 100 (L.length - o) := by simp
    simp only [railsLoop, hpage]
    split_ifs with hstop
    · rw [List.take_of_length_le (by rw [List.length_drop]; omega)]
    · obtain rfl : next = o + 100 := hnext.resolve_right fun h' => hstop (.inl h'.2)
      rw [show (o : Int) + 100 = ((o + 100 : Nat) : Int) by push_cast; rfl,
        railsLoop_paged h _ (by omega), List.append_assoc, ← List.drop_drop, List.take_append_drop]

/-- Paging returns exactly `L`, in order, within `⌊|L| / 100⌋ + 1` pages. -/
theorem getRailsAsPayer_paged {L : List RailInfo} (h : Paged getRailsForPayerAndToken L)
    {fuel : Nat} (hf : L.length / 100 < fuel) :
    getRailsAsPayer getRailsForPayerAndToken fuel = some (.ok L) := by
  simpa using railsLoop_paged getRailsForPayerAndToken h (o := 0) [] (by simpa using hf)

end Rails

def servedRails (L : List RailInfo) (offset _limit : Int) : Except GoError (List RailInfo × Int) :=
  .ok ((L.drop offset.toNat).take 100,
    if offset.toNat + 100 < L.length then offset + 100 else 0)

theorem servedRails_paged (L : List RailInfo) : Paged (servedRails L) L := fun o =>
  ⟨if o + 100 < L.length then (o : Int) + 100 else 0, by simp [servedRails], by
    split_ifs with h
    · exact .inl rfl
    · exact .inr ⟨by omega, rfl⟩⟩

theorem getRailsAsPayer_paged_one :
    Paged (servedRails [⟨7, false, 0⟩]) [⟨7, false, 0⟩] ∧ [(⟨7, false, 0⟩ : RailInfo)].length / 100 < 1 ∧
      getRailsAsPayer (servedRails [⟨7, false, 0⟩]) 1 = some (.ok [⟨7, false, 0⟩]) :=
  ⟨servedRails_paged _, by decide, getRailsAsPayer_paged _ (servedRails_paged _) (by decide)⟩

end Payments
