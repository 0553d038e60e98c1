import GoSynapse.Retry.Poll
import GoSynapse.Txutil.Retry

/-! # The provider's HTTP API in package `pdp`

The calls the storage flow makes of a provider, and the waits built on `retry.Poll`. An
exchange is the environment: the client fails, or a response comes back with its status
code, `Location` header and body; JSON decoding is a parameter. -/

namespace Pdp

open GoSynapse Retry

inductive Reply where
  | failed (err : GoError)
  | response (statusCode : Nat) (location : String) (body : String)

def unexpectedStatus (statusCode : Nat) (body : String) : GoError :=
  .plain ("unexpected status " ++ toString statusCode ++ ": " ++ body)

/-- `parts[len(parts)-1]` of `strings.Split(location, "/")`: the text after the last `/`. -/
def lastSegment (location : String) : String :=
  ⟨(location.toList.reverse.takeWhile (· ≠ '/')).reverse⟩

def hasPrefix (s pre : String) : Bool := pre.toList.isPrefixOf s.toList

def createDataSet (baseURL : String) : Reply → Except GoError (String × String)
  | .failed err => .error (err.wrapf "request failed")
  | .response statusCode location body =>
    if statusCode ≠ 201 ∧ statusCode ≠ 202 then .error (unexpectedStatus statusCode body)
    else if location = "" then .error (.plain "missing Location header")
    else if ¬ hasPrefix (lastSegment location) "0x" then
      .error (.plain ("invalid txHash in Location header: " ++ lastSegment location))
    else .ok (lastSegment location, baseURL ++ location)

def addPieces (baseURL : String) : Reply → Except GoError (String × String)
  | .failed err => .error (err.wrapf "request failed")
  | .response statusCode location body =>
    if statusCode ≠ 201 ∧ statusCode ≠ 202 then .error (unexpectedStatus statusCode body)
    else if location = "" then .error (.plain "missing Location header")
    else .ok (lastSegment location, baseURL ++ location)

def findPiece (pieceCID : String) : Reply → Option GoError
  | .failed err => some (err.wrapf "request failed")
  | .response statusCode _ body =>
    if statusCode = 404 then some (.plain ("piece not found: " ++ pieceCID))
    else if statusCode ≠ 200 then some (unexpectedStatus statusCode body)
    else none

/-- The `fn` of `WaitForPiece`: an error whose text holds "piece not found" means not yet. -/
def pieceFound (pieceCID : String) (reply : Reply) : Bool × Option GoError :=
  match findPiece pieceCID reply with
  | some err =>
    if Txutil.contains "piece not found".toList err.error.toList then (false, none)
    else (false, some err)
  | none => (true, none)

def waitForPiece (pieceCID : String) (replies : Nat → Reply) (wake : Nat → Wake) (fuel : Nat) :
    Option (Nat × Option GoError) :=
  poll (fun k => pieceFound pieceCID (replies k)) wake fuel

theorem findPiece_eq_none {pieceCID : String} {reply : Reply} :
    findPiece pieceCID reply = none ↔ ∃ location body, reply = .response 200 location body := by
  cases reply with
  | failed err => simp [findPiece]
  | response statusCode location body =>
    simp only [findPiece]
    split_ifs <;> simp_all

theorem pieceFound_eq_true {pieceCID : String} {reply : Reply} :
    pieceFound pieceCID reply = (true, none) ↔
      ∃ location body, reply = .response 200 location body := by
  rw [← @findPiece_eq_none pieceCID]
  unfold pieceFound
  cases findPiece pieceCID reply with
  | none => simp
  | some err => simp only [reduceCtorEq, iff_false]; split <;> simp

/-- `WaitForPiece` returns nil exactly when some poll finds the piece with a `200`, after polls
that all kept it waiting, each followed by a tick. -/
theorem waitForPiece_nil_iff {pieceCID : String} {replies : Nat → Reply} {wake : Nat → Wake}
    {n : Nat} :
    (∃ m, waitForPiece pieceCID replies wake m = some (n + 1, none)) ↔
      (∀ j < n, pieceFound pieceCID (replies j) = (false, none) ∧ wake j = .elapsed) ∧
        ∃ location body, replies n = .response 200 location body := by
  constructor
  · rintro ⟨m, h⟩
    obtain ⟨hp, hn⟩ := poll_nil _ wake h
    exact ⟨hp, pieceFound_eq_true.mp hn⟩
  · rintro ⟨hp, hn⟩
    refine ⟨n + 1, poll_of_endsAt _ wake ⟨hp, .inl ?_⟩ (Nat.lt_succ_self n)⟩
    show pollAnswer (pieceFound pieceCID (replies n)) = some none
    rw [pieceFound_eq_true.mpr hn]
    rfl

structure DataSetCreationStatus where
  dataSetCreated : Bool
  dataSetId : Option Int
  deriving DecidableEq, Repr

structure PieceAdditionStatus where
  addMessageOK : Option Bool
  confirmedPieceIds : List Int
  deriving DecidableEq, Repr

section Status

variable {α : Type} (decode : String → Except GoError α)

/-- `GetDataSetCreationStatus` and `GetPieceAdditionStatus`, by the endpoint's not-found text. -/
def getStatus (notFound : String) : Reply → Except GoError α
  | .failed err => .error (err.wrapf "request failed")
  | .response statusCode _ body =>
    if statusCode = 404 then .error (.plain notFound)
    else if statusCode ≠ 200 then .error (unexpectedStatus statusCode body)
    else match decode body with
      | .error err => .error (err.wrapf "failed to decode response")
      | .ok status => .ok status

def statusAnswer (get : Reply → Except GoError α) (done : α → Bool) (reply : Reply) :
    Bool × Option GoError :=
  match get reply with
  | .error err => (false, some err)
  | .ok status => (done status, none)

/-- `WaitForDataSetCreation` and `WaitForPieceAddition`: poll until done, then return the
status the last poll read. -/
def waitForStatus (get : Reply → Except GoError α) (done : α → Bool) (replies : Nat → Reply)
    (wake : Nat → Wake) (fuel : Nat) : Option (Except GoError α) :=
  (poll (fun k => statusAnswer get done (replies k)) wake fuel).map fun r =>
    match r.2 with
    | some err => .error err
    | none => get (replies (r.1 - 1))

theorem statusAnswer_eq_none {get : Reply → Except GoError α} {done : α → Bool} {reply : Reply}
    {b : Bool} : statusAnswer get done reply = (b, none) ↔ ∃ s, get reply = .ok s ∧ done s = b := by
  unfold statusAnswer
  split <;> simp_all

/-- A status wait returns a status only when it is done, after polls that read one not yet
done. -/
theorem waitForStatus_ok {get : Reply → Except GoError α} {done : α → Bool}
    {replies : Nat → Reply} {wake : Nat → Wake} {m : Nat} {s : α}
    (h : waitForStatus get done replies wake m = some (.ok s)) :
    done s = true ∧ ∃ n, get (replies n) = .ok s ∧
      ∀ j < n, (∃ s', get (replies j) = .ok s' ∧ done s' = false) ∧ wake j = .elapsed := by
  obtain ⟨⟨c, r⟩, hp, hr⟩ := Option.map_eq_some'.mp h
  cases r with
  | some err => cases hr
  | none =>
    obtain ⟨n, rfl, -⟩ := poll_endsAt _ wake hp
    obtain ⟨hpend, hn⟩ := poll_nil _ wake hp
    obtain ⟨s', hs', hd⟩ := statusAnswer_eq_none.mp hn
    simp only [Nat.add_sub_cancel, hs', Except.ok.injEq] at hr
    subst hr
    exact ⟨hd, n, hs', fun j hj => ⟨statusAnswer_eq_none.mp (hpend j hj).1, (hpend j hj).2⟩⟩

theorem waitForStatus_ok_created :
    waitForStatus (getStatus (fun _ => .ok (⟨true, some 7⟩ : DataSetCreationStatus)) "not found")
        (·.dataSetCreated) (fun _ => .response 200 "" "created") (fun _ => .elapsed) 0 =
        some (.ok ⟨true, some 7⟩) ∧
      (⟨true, some 7⟩ : DataSetCreationStatus).dataSetCreated = true := by
  have h : waitForStatus (getStatus (fun _ => .ok (⟨true, some 7⟩ : DataSetCreationStatus))
      "not found") (·.dataSetCreated) (fun _ => .response 200 "" "created") (fun _ => .elapsed) 0 =
      some (.ok ⟨true, some 7⟩) := rfl
  exact ⟨h, (waitForStatus_ok h).1⟩

/-- A `404` at the first poll that does not read a pending status ends the wait at once. -/
theorem waitForStatus_notFound {notFound : String} {done : α → Bool} {replies : Nat → Reply}
    {wake : Nat → Wake} {n : Nat} {location body : String}
    (hp : ∀ j < n, Pending (fun k => statusAnswer (getStatus decode notFound) done (replies k)) wake j)
    (h404 : replies n = .response 404 location body) {m : Nat} (hm : n < m) :
    waitForStatus (getStatus decode notFound) done replies wake m = some (.error (.plain notFound)) := by
  have hs : StopsAt (fun k => statusAnswer (getStatus decode notFound) done (replies k)) wake n
      (some (.plain notFound)) :=
    .inl (by simp [statusAnswer, getStatus, h404, pollAnswer])
  simp [waitForStatus, poll_of_endsAt _ wake ⟨hp, hs⟩ hm]

theorem waitForStatus_notFound_second_poll :
    waitForStatus (getStatus (fun _ => .ok (⟨false, none⟩ : DataSetCreationStatus)) "not found")
        (·.dataSetCreated) (fun k => if k = 0 then .response 200 "" "pending" else .response 404 "" "")
        (fun _ => .elapsed) 2 =
      some (.error (.plain "not found")) :=
  waitForStatus_notFound _ (n := 1) (fun j hj => by obtain rfl : j = 0 := (by omega); exact ⟨rfl, rfl⟩)
    rfl (by decide)

end Status

def getDataSetCreationStatus (decode : String → Except GoError DataSetCreationStatus)
    (txHash : String) : Reply → Except GoError DataSetCreationStatus :=
  getStatus decode ("data set creation not found for txHash: " ++ txHash)

def getPieceAdditionStatus (decode : String → Except GoError PieceAdditionStatus)
    (txHash : String) : Reply → Except GoError PieceAdditionStatus :=
  getStatus decode ("piece addition not found for txHash: " ++ txHash)

def waitForDataSetCreation (decode : String → Except GoError DataSetCreationStatus)
    (txHash : String) (replies : Nat → Reply) (wake : Nat → Wake) (fuel : Nat) :
    Option (Except GoError DataSetCreationStatus) :=
  waitForStatus (getDataSetCreationStatus decode txHash) (·.dataSetCreated) replies wake fuel

def waitForPieceAddition (decode : String → Except GoError PieceAdditionStatus)
    (txHash : String) (replies : Nat → Reply) (wake : Nat → Wake) (fuel : Nat) :
    Option (Except GoError PieceAdditionStatus) :=
  waitForStatus (getPieceAdditionStatus decode txHash) (fun s => s.addMessageOK == some true)
    replies wake fuel

end Pdp
