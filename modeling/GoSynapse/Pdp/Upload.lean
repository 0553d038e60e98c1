import GoSynapse.Pdp.Server

/-! # `UploadPiece` in package `pdp`

A `POST` creates a session named in the `Location` header, a `PUT` sends the data, and a
`POST` finalizes it. The session's UUID is the first group of the leftmost match of
`/pdp/piece/uploads/([a-fA-F0-9-]+)`. -/

namespace Pdp

open GoSynapse

/-- `[a-fA-F0-9-]`. -/
def isUUIDChar (c : Char) : Bool :=
  ('a' ≤ c && c ≤ 'f') || ('A' ≤ c && c ≤ 'F') || ('0' ≤ c && c ≤ '9') || c == '-'

def uploadsPath : List Char := "/pdp/piece/uploads/".toList

def matchesAt (l : List Char) : Bool :=
  uploadsPath.isPrefixOf l && (l.drop uploadsPath.length).head?.any isUUIDChar

/-- `uuidRegex.FindStringSubmatch(location)[1]`: leftmost match, longest run. -/
def findUploadUUID : List Char → Option (List Char)
  | [] => none
  | l@(_ :: rest) =>
    if matchesAt l then some ((l.drop uploadsPath.length).takeWhile isUUIDChar)
    else findUploadUUID rest

theorem findUploadUUID_cons (c : Char) (l : List Char) :
    findUploadUUID (c :: l) = if matchesAt (c :: l) then
      some (((c :: l).drop uploadsPath.length).takeWhile isUUIDChar) else findUploadUUID l :=
  rfl

theorem findUploadUUID_of_matchesAt {l : List Char} (h : matchesAt l = true) :
    findUploadUUID l = some ((l.drop uploadsPath.length).takeWhile isUUIDChar) := by
  cases l with
  | nil => cases h
  | cons c rest => rw [findUploadUUID_cons, if_pos h]

theorem findUploadUUID_append {l : List Char} :
    ∀ {p : List Char}, (∀ i < p.length, matchesAt ((p ++ l).drop i) = false) →
      findUploadUUID (p ++ l) = findUploadUUID l
  | [], _ => rfl
  | c :: p, hp => by
    have h0 : matchesAt (c :: (p ++ l)) = false := hp 0 (Nat.succ_pos _)
    rw [List.cons_append, findUploadUUID_cons, h0, if_neg Bool.false_ne_true]
    exact findUploadUUID_append fun i hi => hp (i + 1) (by simp; omega)

theorem matchesAt_path {u s : List Char} {c : Char} (hc : isUUIDChar c = true) :
    matchesAt (uploadsPath ++ c :: u ++ s) = true := by
  simp [matchesAt, List.isPrefixOf_iff_prefix, hc]

theorem drop_path (t : List Char) : (uploadsPath ++ t).drop uploadsPath.length = t :=
  List.drop_left _ _

/-- The parser has the pattern's leftmost-first, greedy semantics: `u` is the maximal run of
UUID characters after the first occurrence of the path that starts a match. -/
theorem findUploadUUID_eq_some_iff {l u : List Char} :
    findUploadUUID l = some u ↔ ∃ p s, l = p ++ uploadsPath ++ u ++ s ∧ u ≠ [] ∧
      (∀ c ∈ u, isUUIDChar c = true) ∧ s.head?.all (fun c => !isUUIDChar c) ∧
      ∀ i < p.length, matchesAt (l.drop i) = false := by
  constructor
  · intro h
    induction l with
    | nil => cases h
    | cons c rest ih =>
      by_cases hm : matchesAt (c :: rest) = true
      · rw [findUploadUUID_of_matchesAt hm, Option.some.injEq] at h
        subst h
        obtain ⟨hpre, hhd⟩ := Bool.and_eq_true_iff.mp hm
        refine ⟨[], ((c :: rest).drop uploadsPath.length).dropWhile isUUIDChar, ?_, ?_,
          fun _ => List.mem_takeWhile_imp, ?_, fun _ h => absurd h (Nat.not_lt_zero _)⟩
        · rw [List.nil_append, List.append_assoc, List.takeWhile_append_dropWhile]
          exact (List.prefix_iff_eq_append.mp (List.isPrefixOf_iff_prefix.mp hpre)).symm
        · cases hd : ((c :: rest).drop uploadsPath.length) with
          | nil => rw [hd] at hhd; cases hhd
          | cons d ds =>
            rw [hd] at hhd
            simp_all [List.takeWhile_cons]
        · have := List.head?_dropWhile_not isUUIDChar ((c :: rest).drop uploadsPath.length)
          cases hdw : (((c :: rest).drop uploadsPath.length).dropWhile isUUIDChar).head? with
          | none => rfl
          | some x => rw [hdw] at this; simp [this]
      · rw [findUploadUUID_cons, if_neg hm] at h
        obtain ⟨p, s, rfl, hu, hc, hs, hp⟩ := ih h
        refine ⟨c :: p, s, rfl, hu, hc, hs, fun i hi => ?_⟩
        cases i with
        | zero => simpa using hm
        | succ i => exact hp i (by simpa using hi)
  · rintro ⟨p, s, rfl, hu, hc, hs, hp⟩
    rw [List.append_assoc, List.append_assoc, findUploadUUID_append
      (by simpa only [List.append_assoc] using hp)]
    obtain ⟨d, ds, rfl⟩ := List.exists_cons_of_ne_nil hu
    rw [← List.append_assoc, findUploadUUID_of_matchesAt (matchesAt_path (hc d (.head _))),
      List.append_assoc, drop_path, List.takeWhile_append_of_pos hc]
    cases s with
    | nil => simp
    | cons e es => simp_all [List.takeWhile_cons]

example : findUploadUUID "https://sp.example/pdp/piece/uploads/0b5e-77aF?x=1".toList =
    some "0b5e-77aF".toList := by decide

/-- The requests `UploadPiece` sends, with what the model reads of each. -/
inductive UploadRequest where
  | createSession (url : String)
  | upload (url : String) (contentLength : Option Int)
  | finalize (url : String) (pieceCid : String)
  deriving DecidableEq, Repr

structure UploadPieceResponse where
  pieceCID : String
  size : Int
  deriving DecidableEq, Repr

def statusError (step : String) (statusCode : Nat) (body : String) : GoError :=
  .plain (step ++ ": status " ++ toString statusCode ++ ": " ++ body)

def uploadPiece (baseURL : String) (size : Int) (pieceCID : String)
    (create upload finalize : Reply) : List UploadRequest × Except GoError UploadPieceResponse :=
  let createReq := UploadRequest.createSession (baseURL ++ "/pdp/piece/uploads")
  match create with
  | .failed err => ([createReq], .error (err.wrapf "failed to create upload session"))
  | .response statusCode location body =>
    if statusCode ≠ 201 then
      ([createReq], .error (statusError "failed to create upload session" statusCode body))
    else if location = "" then
      ([createReq], .error (.plain "missing Location header in upload session response"))
    else
      match findUploadUUID location.toList with
      | none => ([createReq], .error (.plain ("invalid Location header format: " ++ location)))
      | some uploadUUID =>
        let url := baseURL ++ "/pdp/piece/uploads/" ++ ⟨uploadUUID⟩
        let uploadReq := UploadRequest.upload url (if size > 0 then some size else none)
        match upload with
        | .failed err => ([createReq, uploadReq], .error (err.wrapf "upload failed"))
        | .response statusCode _ body =>
          if statusCode ≠ 204 then
            ([createReq, uploadReq], .error (statusError "upload failed" statusCode body))
          else
            let finalizeReq := UploadRequest.finalize url pieceCID
            match finalize with
            | .failed err =>
              ([createReq, uploadReq, finalizeReq], .error (err.wrapf "finalize failed"))
            | .response statusCode _ body =>
              if statusCode ≠ 200 then
                ([createReq, uploadReq, finalizeReq],
                  .error (statusError "finalize failed" statusCode body))
              else ([createReq, uploadReq, finalizeReq], .ok ⟨pieceCID, size⟩)

end Pdp
