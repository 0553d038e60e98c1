import GoSynapse.Pdp.Server

/-! # `storage.Manager`

`Upload` makes sure the manager has a data set, uploads the piece, waits until the provider
has parked it, and adds it. Given no data set, the manager creates one with a random client
data set ID; given one, it takes the ID from an option or reads it through its fetcher. What
the provider, the chain, the signer and the random source answer is the environment `Env`. -/

namespace Storage

open GoSynapse

/-- The fields of `storage.Manager` that its methods read or write. -/
structure Manager where
  clientAddress : String
  warmStorageAddress : String
  dataSetID : Int
  clientDataSetID : Int
  hasDataSetInfoFetcher : Bool
  clientDataSetIDLoaded : Bool
  deriving DecidableEq, Repr

inductive ManagerOption where
  | withDataSetInfoFetcher
  | withClientDataSetID (clientDataSetID : Int)

def ManagerOption.apply (m : Manager) : ManagerOption → Manager
  | .withDataSetInfoFetcher => { m with hasDataSetInfoFetcher := true }
  | .withClientDataSetID c => { m with clientDataSetID := c, clientDataSetIDLoaded := true }

/-- `NewManager`: the client data set ID starts at `big.NewInt(0)`, then each option applies. -/
def newManager (clientAddress warmStorageAddress : String) (dataSetID : Int)
    (opts : List ManagerOption) : Manager :=
  opts.foldl ManagerOption.apply ⟨clientAddress, warmStorageAddress, dataSetID, 0, false, false⟩

structure Env where
  /-- The error of `io.ReadAll(data)`. -/
  readAll : Option GoError
  /-- `DataSetInfoFetcher.GetDataSet`: the data set's `ClientDataSetID`. -/
  getDataSet : Int → Except GoError Int
  /-- `randomBigInt()` in `ensureDataSet`. -/
  clientDataSetIDDraw : Int
  signCreateDataSet : Option GoError
  encodeDataSetCreateData : Option GoError
  /-- `CreateDataSet`: the transaction hash. -/
  createDataSet : Except GoError String
  waitForDataSetCreation : Except GoError Pdp.DataSetCreationStatus
  uploadPiece : Option GoError
  waitForPiece : Option GoError
  /-- `randomBigInt()` in `addPieceToDataSet`. -/
  nonceDraw : Int
  signAddPieces : Option GoError
  encodeAddPiecesExtraData : Option GoError
  /-- `AddPieces`: the transaction hash. -/
  addPieces : Except GoError String
  waitForPieceAddition : Except GoError Pdp.PieceAdditionStatus

/-- What the manager asks of the chain and of the provider, with the IDs each is signed with. -/
inductive Request where
  | getDataSet (dataSetID : Int)
  | createDataSet (recordKeeper payer : String) (clientDataSetID : Int)
  | uploadPiece (pieceCID : String) (size : Int)
  | addPieces (dataSetID clientDataSetID nonce : Int) (pieceCID : String)
      (metadata : List (String × String))
  deriving DecidableEq, Repr

structure UploadOptions where
  metadata : List (String × String)
  pieceCID : String
  size : Int

def UploadOptions.empty : UploadOptions := ⟨[], "", 0⟩

structure UploadResult where
  pieceCID : String
  size : Int
  pieceID : Int
  dataSetID : Int

def ensureClientDataSetID (m : Manager) (env : Env) : Manager × List Request × Option GoError :=
  if m.clientDataSetIDLoaded then (m, [], none)
  else if !m.hasDataSetInfoFetcher then
    (m, [], some (.plain ("cannot add pieces to existing dataset " ++ toString m.dataSetID ++
      ": no DataSetInfoFetcher configured (use WithDataSetInfoFetcher option)")))
  else
    match env.getDataSet m.dataSetID with
    | .error err => (m, [.getDataSet m.dataSetID],
        some (err.wrapf ("failed to fetch dataset info for dataset " ++ toString m.dataSetID)))
    | .ok c => ({ m with clientDataSetID := c, clientDataSetIDLoaded := true },
        [.getDataSet m.dataSetID], none)

/-- `ensureDataSet`. The new client data set ID is stored before the creation is tried. -/
def ensureDataSet (m : Manager) (env : Env) : Manager × List Request × Option GoError :=
  if m.dataSetID ≠ 0 then ensureClientDataSetID m env
  else
    let m := { m with clientDataSetID := env.clientDataSetIDDraw, clientDataSetIDLoaded := true }
    match env.signCreateDataSet, env.encodeDataSetCreateData with
    | some err, _ => (m, [], some (err.wrapf "failed to sign create data set"))
    | none, some err => (m, [], some (err.wrapf "failed to encode extra data"))
    | none, none =>
      let create := [Request.createDataSet m.warmStorageAddress m.clientAddress m.clientDataSetID]
      match env.createDataSet, env.waitForDataSetCreation with
      | .error err, _ => (m, create, some (err.wrapf "failed to create data set"))
      | .ok _, .error err => (m, create, some (err.wrapf "failed waiting for data set creation"))
      | .ok _, .ok status =>
        match status.dataSetId with
        | none => (m, create, some (.plain "data set created but no ID returned"))
        | some id => ({ m with dataSetID := id }, create, none)

def addPieceToDataSet (m : Manager) (env : Env) (pieceCID : String)
    (metadata : List (String × String)) : List Request × Except GoError Int :=
  match env.signAddPieces, env.encodeAddPiecesExtraData with
  | some err, _ => ([], .error (err.wrapf "failed to sign add pieces"))
  | none, some err => ([], .error (err.wrapf "failed to encode extra data"))
  | none, none =>
    let add := [Request.addPieces m.dataSetID m.clientDataSetID env.nonceDraw pieceCID metadata]
    match env.addPieces, env.waitForPieceAddition with
    | .error err, _ => (add, .error (err.wrapf "failed to add pieces"))
    | .ok _, .error err => (add, .error (err.wrapf "failed waiting for piece addition"))
    | .ok _, .ok status =>
      match status.confirmedPieceIds with
      | [] => (add, .error (.plain "no piece IDs returned"))
      | pieceID :: _ => (add, .ok pieceID)

/-- The steps `UploadBytes` and `uploadStream` share once the piece CID and size are known. -/
def storePiece (m : Manager) (env : Env) (pieceCID : String) (size : Int)
    (metadata : List (String × String)) : Manager × List Request × Except GoError UploadResult :=
  match ensureDataSet m env with
  | (m, rs, some err) => (m, rs, .error (err.wrapf "failed to ensure data set"))
  | (m, rs, none) =>
    let rs := rs ++ [.uploadPiece pieceCID size]
    match env.uploadPiece, env.waitForPiece with
    | some err, _ => (m, rs, .error (err.wrapf "failed to upload piece"))
    | none, some err => (m, rs, .error (err.wrapf "failed waiting for piece"))
    | none, none =>
      match addPieceToDataSet m env pieceCID metadata with
      | (adds, .error err) => (m, rs ++ adds, .error (err.wrapf "failed to add piece to data set"))
      | (adds, .ok pieceID) => (m, rs ++ adds, .ok ⟨pieceCID, size, pieceID, m.dataSetID⟩)

section Upload

variable (calculatePieceCID : List UInt8 → Except GoError String)

def uploadBytes (m : Manager) (env : Env) (data : List UInt8) (opts : Option UploadOptions) :
    Manager × List Request × Except GoError UploadResult :=
  let opts := opts.getD .empty
  if opts.pieceCID = "" then
    match calculatePieceCID data with
    | .error err => (m, [], .error (err.wrapf "failed to calculate PieceCID"))
    | .ok pieceCID => storePiece m env pieceCID data.length opts.metadata
  else storePiece m env opts.pieceCID data.length opts.metadata

def uploadStream (m : Manager) (env : Env) (opts : UploadOptions) :
    Manager × List Request × Except GoError UploadResult :=
  storePiece m env opts.pieceCID opts.size opts.metadata

def upload (m : Manager) (env : Env) (data : List UInt8) (opts : Option UploadOptions) :
    Manager × List Request × Except GoError UploadResult :=
  let opts := opts.getD .empty
  if opts.pieceCID ≠ "" ∧ opts.size > 0 then uploadStream m env opts
  else
    match env.readAll with
    | some err => (m, [], .error (err.wrapf "failed to read data"))
    | none => uploadBytes calculatePieceCID m env data (some opts)

end Upload

variable {m m' : Manager} {env : Env} {rs : List Request} {e : Option GoError}

theorem ensureDataSet_of_ne_zero (h0 : m.dataSetID ≠ 0) :
    ensureDataSet m env = ensureClientDataSetID m env := if_pos h0

theorem ensureClientDataSetID_spec (h : ensureClientDataSetID m env = (m', rs, e)) :
    m'.dataSetID = m.dataSetID ∧ rs ⊆ [.getDataSet m.dataSetID] ∧
      (m.clientDataSetIDLoaded = true → m' = m ∧ rs = [] ∧ e = none) ∧
      (m' = m ∨ ∃ c, env.getDataSet m.dataSetID = .ok c ∧
        m' = { m with clientDataSetID := c, clientDataSetIDLoaded := true }) ∧
      (e = none → m'.clientDataSetIDLoaded = true) := by
  unfold ensureClientDataSetID at h
  split_ifs at h with hl hf
  · cases h; simp [hl]
  · cases h; simp [hl]
  · split at h
    · cases h; simp [hl]
    · next c hc => cases h; simp [hl, hc]

/-- Without a data set, `ensureDataSet` stores a fresh draw, takes a data set ID only from a
creation whose wait reports it, and sends one creation signed with that draw. -/
theorem ensureDataSet_of_zero (h0 : m.dataSetID = 0) (h : ensureDataSet m env = (m', rs, e)) :
    (∃ d, m' = { m with
        dataSetID := d, clientDataSetID := env.clientDataSetIDDraw, clientDataSetIDLoaded := true } ∧
      (d = 0 ∨ ∃ st, env.waitForDataSetCreation = .ok st ∧ st.dataSetId = some d)) ∧
    rs = (if env.signCreateDataSet = none ∧ env.encodeDataSetCreateData = none then
      [.createDataSet m.warmStorageAddress m.clientAddress env.clientDataSetIDDraw] else []) ∧
    (e = none → ∃ st, env.waitForDataSetCreation = .ok st ∧ st.dataSetId = some m'.dataSetID) := by
  have hm : m = { m with dataSetID := 0 } := by cases m; simp_all
  simp only [ensureDataSet, h0, ne_eq, not_true_eq_false, if_false] at h
  split at h
  · next err hs => cases h; exact ⟨⟨0, by rw [hm], .inl rfl⟩, by simp [hs], by simp⟩
  · next err he => cases h; exact ⟨⟨0, by rw [hm], .inl rfl⟩, by simp [he], by simp⟩
  · next hs he =>
    split at h
    · cases h; exact ⟨⟨0, by rw [hm], .inl rfl⟩, by simp [hs, he], by simp⟩
    · cases h; exact ⟨⟨0, by rw [hm], .inl rfl⟩, by simp [hs, he], by simp⟩
    · next _ st _ hw =>
      split at h
      · cases h; exact ⟨⟨0, by rw [hm], .inl rfl⟩, by simp [hs, he], by simp⟩
      · next id hid =>
        cases h
        exact ⟨⟨id, rfl, .inr ⟨st, hw, hid⟩⟩, by simp [hs, he], fun _ => ⟨st, hw, hid⟩⟩

theorem addPieceToDataSet_requests {pieceCID : String} {md : List (String × String)}
    {adds : List Request} {r : Except GoError Int}
    (h : addPieceToDataSet m env pieceCID md = (adds, r)) :
    adds ⊆ [.addPieces m.dataSetID m.clientDataSetID env.nonceDraw pieceCID md] ∧
      ∀ id, r = .ok id → adds = [.addPieces m.dataSetID m.clientDataSetID env.nonceDraw pieceCID md] := by
  unfold addPieceToDataSet at h
  split at h
  · cases h; simp
  · cases h; simp
  · split at h
    · cases h; simp
    · cases h; simp
    · split at h <;> cases h <;> simp

/-- `storePiece` changes the manager only through `ensureDataSet`, and uploads and adds the
piece only after it succeeded, signed with the client data set ID then in force. -/
theorem storePiece_spec {pieceCID : String} {size : Int} {md : List (String × String)}
    {res : Except GoError UploadResult} (h : storePiece m env pieceCID size md = (m', rs, res)) :
    ∃ rs₀ e, ensureDataSet m env = (m', rs₀, e) ∧ ∃ tail, rs = rs₀ ++ tail ∧
      (e ≠ none → tail = []) ∧
      tail ⊆ [.uploadPiece pieceCID size,
        .addPieces m'.dataSetID m'.clientDataSetID env.nonceDraw pieceCID md] ∧
      ∀ r, res = .ok r → e = none ∧ r.dataSetID = m'.dataSetID ∧
        .addPieces m'.dataSetID m'.clientDataSetID env.nonceDraw pieceCID md ∈ tail := by
  unfold storePiece at h
  rcases hens : ensureDataSet m env with ⟨m₁, rs₀, _ | err⟩ <;> rw [hens] at h
  · simp only at h
    split at h
    · cases h; exact ⟨rs₀, none, rfl, _, rfl, by simp, by simp, by simp⟩
    · cases h; exact ⟨rs₀, none, rfl, _, rfl, by simp, by simp, by simp⟩
    · split at h
      · next adds err' hadd =>
        cases h
        refine ⟨rs₀, none, rfl, _, List.append_assoc _ _ _, by simp, ?_, by simp⟩
        exact List.cons_subset.mpr ⟨by simp, (addPieceToDataSet_requests hadd).1.trans (by simp)⟩
      · next adds id hadd =>
        cases h
        rw [(addPieceToDataSet_requests hadd).2 id rfl]
        refine ⟨rs₀, none, rfl, _, List.append_assoc _ _ _, by simp, by simp, ?_⟩
        rintro r ⟨⟩
        simp
  · cases h
    exact ⟨rs, some err, rfl, [], by simp, fun _ => rfl, by simp, by simp⟩

end Storage
