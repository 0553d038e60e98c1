import GoSynapse.Storage.Manager

/-! # Runs of uploads on one `storage.Manager`

A run is a sequence of `Upload` and `UploadBytes` calls, each with its own environment.
`B d c` says the chain binds data set `d` to client data set ID `c`. -/

namespace Storage

open GoSynapse

inductive Op where
  | upload (data : List UInt8) (opts : Option UploadOptions)
  | uploadBytes (data : List UInt8) (opts : Option UploadOptions)

def Request.isCreate : Request → Bool
  | .createDataSet .. => true
  | _ => false

/-- The manager's client data set ID, once loaded for a data set, is the one it is bound to. -/
def Consistent (B : Int → Int → Prop) (m : Manager) : Prop :=
  m.dataSetID ≠ 0 → m.clientDataSetIDLoaded = true → B m.dataSetID m.clientDataSetID

structure Env.Agrees (B : Int → Int → Prop) (env : Env) : Prop where
  created : ∀ st d, env.waitForDataSetCreation = .ok st → st.dataSetId = some d → d ≠ 0 →
    B d env.clientDataSetIDDraw
  fetched : ∀ d c, env.getDataSet d = .ok c → B d c

/-- The manager `Client.Storage` builds. -/
def clientStorage (address warmStorageAddress : String) (dataSetID : Int) : Manager :=
  newManager address warmStorageAddress dataSetID
    (if dataSetID ≠ 0 then [.withDataSetInfoFetcher] else [])

section Run

variable (calculatePieceCID : List UInt8 → Except GoError String)

def Op.exec (m : Manager) (env : Env) : Op → Manager × List Request × Except GoError UploadResult
  | .upload data opts => Storage.upload calculatePieceCID m env data opts
  | .uploadBytes data opts => Storage.uploadBytes calculatePieceCID m env data opts

def run (m : Manager) : List (Op × Env) → Manager × List Request
  | [] => (m, [])
  | (op, env) :: rest =>
    let r := op.exec calculatePieceCID m env
    let s := run r.1 rest
    (s.1, r.2.1 ++ s.2)

def Op.prepare (op : Op) (env : Env) : Except GoError (String × Int × List (String × String)) :=
  let bytesPiece (data : List UInt8) (opts : UploadOptions) :=
    if opts.pieceCID = "" then
      match calculatePieceCID data with
      | .error err => .error (err.wrapf "failed to calculate PieceCID")
      | .ok pieceCID => .ok (pieceCID, (data.length : Int), opts.metadata)
    else .ok (opts.pieceCID, data.length, opts.metadata)
  match op with
  | .upload data opts =>
    let opts := opts.getD .empty
    if opts.pieceCID ≠ "" ∧ opts.size > 0 then .ok (opts.pieceCID, opts.size, opts.metadata)
    else
      match env.readAll with
      | some err => .error (err.wrapf "failed to read data")
      | none => bytesPiece data opts
  | .uploadBytes data opts => bytesPiece data (opts.getD .empty)

/-- A call fails before `ensureDataSet`, or is `storePiece` of the piece it prepared. -/
theorem Op.exec_eq (op : Op) (m : Manager) (env : Env) :
    op.exec calculatePieceCID m env =
      match op.prepare calculatePieceCID env with
      | .error err => (m, [], .error err)
      | .ok (pieceCID, size, md) => storePiece m env pieceCID size md := by
  cases op with
  | upload data opts =>
    simp only [Op.exec, Op.prepare, Storage.upload, uploadStream, Storage.uploadBytes,
      Option.getD_some]
    split_ifs <;> cases env.readAll <;> cases calculatePieceCID data <;> rfl
  | uploadBytes data opts =>
    simp only [Op.exec, Op.prepare, Storage.uploadBytes]
    split_ifs <;> cases calculatePieceCID data <;> rfl

@[simp] theorem run_nil (m : Manager) : run calculatePieceCID m [] = (m, []) := rfl

theorem run_cons (m : Manager) (op : Op) (env : Env) (ops : List (Op × Env)) :
    run calculatePieceCID m ((op, env) :: ops) =
      ((run calculatePieceCID (op.exec calculatePieceCID m env).1 ops).1,
        (op.exec calculatePieceCID m env).2.1 ++
          (run calculatePieceCID (op.exec calculatePieceCID m env).1 ops).2) := rfl

variable {B : Int → Int → Prop} {m m' : Manager} {env : Env} {rs : List Request}
  {e : Option GoError}

theorem ensureDataSet_consistent (hc : Consistent B m) (ha : env.Agrees B)
    (h : ensureDataSet m env = (m', rs, e)) :
    Consistent B m' ∧ (e = none → m'.clientDataSetIDLoaded = true) := by
  by_cases h0 : m.dataSetID = 0
  · obtain ⟨⟨d, rfl, hd⟩, -, -⟩ := ensureDataSet_of_zero h0 h
    refine ⟨fun hd0 _ => ?_, fun _ => rfl⟩
    rcases hd with rfl | ⟨st, hw, hid⟩
    · exact absurd rfl hd0
    · exact ha.created st d hw hid hd0
  · rw [ensureDataSet_of_ne_zero h0] at h
    obtain ⟨-, -, -, hm | ⟨c, hc', rfl⟩, hl⟩ := ensureClientDataSetID_spec h
    · exact ⟨hm ▸ hc, hl⟩
    · exact ⟨fun _ _ => ha.fetched _ _ hc', hl⟩

theorem ensureDataSet_requests (h : ensureDataSet m env = (m', rs, e)) :
    ∀ r ∈ rs, r = .getDataSet m.dataSetID ∨ ∃ w c k, r = .createDataSet w c k := by
  by_cases h0 : m.dataSetID = 0
  · obtain ⟨-, rfl, -⟩ := ensureDataSet_of_zero h0 h
    split_ifs <;> simp
  · rw [ensureDataSet_of_ne_zero h0] at h
    exact fun r hr => .inl (List.mem_singleton.mp ((ensureClientDataSetID_spec h).2.1 hr))

theorem Op.exec_consistent (op : Op) (hc : Consistent B m) (ha : env.Agrees B) :
    Consistent B (op.exec calculatePieceCID m env).1 ∧
      ∀ d c n p md, .addPieces d c n p md ∈ (op.exec calculatePieceCID m env).2.1 → d ≠ 0 →
        B d c := by
  rw [Op.exec_eq]
  split
  · exact ⟨hc, by simp⟩
  · next pieceCID size md _ =>
    rcases hst : storePiece m env pieceCID size md with ⟨m', rs, res⟩
    obtain ⟨rs₀, e, hens, tail, rfl, htail, hsub, -⟩ := storePiece_spec hst
    obtain ⟨hc', hl⟩ := ensureDataSet_consistent hc ha hens
    refine ⟨hc', fun d c n p md' hmem hd => ?_⟩
    rcases List.mem_append.mp hmem with hr | hr
    · rcases ensureDataSet_requests hens _ hr with h | ⟨_, _, _, h⟩ <;> cases h
    · have he : e = none := by
        by_contra hne
        rw [htail hne] at hr
        cases hr
      rcases List.mem_pair.mp (hsub hr) with h | h <;> cases h
      exact hc' hd (hl he)

theorem run_consistent {ops : List (Op × Env)} (hc : Consistent B m)
    (ha : ∀ p ∈ ops, p.2.Agrees B) :
    Consistent B (run calculatePieceCID m ops).1 ∧
      ∀ d c n p md, .addPieces d c n p md ∈ (run calculatePieceCID m ops).2 → d ≠ 0 → B d c := by
  induction ops generalizing m with
  | nil => exact ⟨hc, by simp⟩
  | cons q ops ih =>
    obtain ⟨op, env⟩ := q
    obtain ⟨hc', hadd⟩ := op.exec_consistent calculatePieceCID hc (ha _ (.head _))
    obtain ⟨hc'', hadd'⟩ := ih hc' fun q hq => ha q (.tail _ hq)
    rw [run_cons]
    refine ⟨hc'', fun d c n p md hmem hd => ?_⟩
    rcases List.mem_append.mp hmem with h | h
    exacts [hadd d c n p md h hd, hadd' d c n p md h hd]

theorem clientStorage_consistent (B : Int → Int → Prop) (address warmStorageAddress : String)
    (dataSetID : Int) : Consistent B (clientStorage address warmStorageAddress dataSetID) := by
  unfold clientStorage newManager
  split_ifs <;> simp [Consistent, ManagerOption.apply]

/-- Over any run on the manager `Client.Storage` builds, with answers that agree with the chain,
every `AddPieces` is signed with the client data set ID the chain binds its data set to. -/
theorem clientStorage_addPieces_bound (address warmStorageAddress : String) (dataSetID : Int)
    {ops : List (Op × Env)} (ha : ∀ p ∈ ops, p.2.Agrees B) :
    ∀ d c n p md, .addPieces d c n p md ∈
      (run calculatePieceCID (clientStorage address warmStorageAddress dataSetID) ops).2 →
        d ≠ 0 → B d c :=
  (run_consistent calculatePieceCID (clientStorage_consistent B _ _ _) ha).2

end Run

/-- Answers under which every call succeeds. -/
def Env.happy (dataSetID clientDataSetID : Int) : Env :=
  ⟨none, fun _ => .ok clientDataSetID, clientDataSetID, none, none, .ok "0xc0",
    .ok ⟨true, some dataSetID⟩, none, none, 1, none, none, .ok "0xa0", .ok ⟨some true, [0]⟩⟩

theorem Env.happy_agrees (dataSetID clientDataSetID : Int) :
    (Env.happy dataSetID clientDataSetID).Agrees fun _ c => c = clientDataSetID :=
  ⟨fun _ _ _ _ _ => rfl, fun _ _ h => (Except.ok.inj h).symm⟩

theorem clientStorage_addPieces_bound_fresh :
    (∀ p ∈ [(Op.uploadBytes [1, 2, 3] none, Env.happy 5 42)], p.2.Agrees fun _ c => c = 42) ∧
      ∀ d c n p md, Request.addPieces d c n p md ∈ (run (fun _ => .ok "baga")
        (clientStorage "0xc1" "0xw" 0) [(Op.uploadBytes [1, 2, 3] none, Env.happy 5 42)]).2 →
        d ≠ 0 → c = 42 := by
  have ha : ∀ p ∈ [(Op.uploadBytes [1, 2, 3] none, Env.happy 5 42)], p.2.Agrees
      fun _ c => c = 42 := by
    simpa using Env.happy_agrees 5 42
  exact ⟨ha, clientStorage_addPieces_bound (fun _ => .ok "baga") "0xc1" "0xw" 0 ha⟩

section Run

variable (calculatePieceCID : List UInt8 → Except GoError String)
variable {B : Int → Int → Prop} {m m' : Manager} {env : Env} {rs : List Request}
  {e : Option GoError}

def Env.NoDataSet (env : Env) : Prop :=
  ∀ st d, env.waitForDataSetCreation = .ok st → st.dataSetId = some d → d = 0

/-- A call that reaches the creation. -/
def Op.ReachesCreation (op : Op) (env : Env) : Bool :=
  (op.prepare calculatePieceCID env).isOk && env.signCreateDataSet.isNone &&
    env.encodeDataSetCreateData.isNone

theorem Op.exec_without_dataSet (op : Op) (h0 : m.dataSetID = 0) (hw : env.NoDataSet) :
    (op.exec calculatePieceCID m env).1.dataSetID = 0 ∧
      (op.exec calculatePieceCID m env).1.warmStorageAddress = m.warmStorageAddress ∧
      (op.exec calculatePieceCID m env).1.clientAddress = m.clientAddress ∧
      (op.exec calculatePieceCID m env).2.1.filter Request.isCreate =
        if op.ReachesCreation calculatePieceCID env then
          [.createDataSet m.warmStorageAddress m.clientAddress env.clientDataSetIDDraw]
        else [] := by
  rw [Op.exec_eq]
  unfold Op.ReachesCreation
  split
  · next err hp => rw [hp]; exact ⟨h0, rfl, rfl, by simp [Except.isOk, Except.toBool]⟩
  · next pieceCID size md hp =>
    rcases hst : storePiece m env pieceCID size md with ⟨m', rs, res⟩
    obtain ⟨rs₀, e, hens, tail, rfl, -, hsub, -⟩ := storePiece_spec hst
    obtain ⟨⟨d, rfl, hd⟩, hrs, -⟩ := ensureDataSet_of_zero h0 hens
    obtain rfl : d = 0 := hd.elim id fun ⟨st, hw', hid⟩ => hw st d hw' hid
    have htail : tail.filter Request.isCreate = [] :=
      List.filter_eq_nil_iff.mpr fun r hr => by
        rcases List.mem_pair.mp (hsub hr) with rfl | rfl <;> simp [Request.isCreate]
    refine ⟨rfl, rfl, rfl, ?_⟩
    rw [hp, List.filter_append, htail, List.append_nil, hrs]
    cases env.signCreateDataSet <;> cases env.encodeDataSetCreateData <;>
      simp [Request.isCreate, Except.isOk, Except.toBool]

/-- Until a creation reports a data set, the manager has none, and every call that reaches the
creation sends its own, signed with its own draw. -/
theorem run_without_dataSet {ops : List (Op × Env)} (h0 : m.dataSetID = 0)
    (hw : ∀ p ∈ ops, p.2.NoDataSet) :
    (run calculatePieceCID m ops).1.dataSetID = 0 ∧
      (run calculatePieceCID m ops).2.filter Request.isCreate =
        (ops.filter fun p => p.1.ReachesCreation calculatePieceCID p.2).map fun p =>
          .createDataSet m.warmStorageAddress m.clientAddress p.2.clientDataSetIDDraw := by
  induction ops generalizing m with
  | nil => simpa using h0
  | cons q ops ih =>
    obtain ⟨op, env⟩ := q
    obtain ⟨h0', hw', hc', hcreate⟩ :=
      op.exec_without_dataSet calculatePieceCID h0 (hw _ (.head _))
    obtain ⟨ih1, ih2⟩ := ih h0' fun p hp => hw p (.tail _ hp)
    rw [run_cons, List.filter_append, hcreate, ih2, hw', hc']
    refine ⟨ih1, ?_⟩
    simp only [List.filter_cons]
    split <;> simp_all

def Env.creationTimesOut : Env :=
  { Env.happy 5 42 with waitForDataSetCreation := .error (.plain "context deadline exceeded") }

theorem run_without_dataSet_timeout :
    (clientStorage "0xc1" "0xw" 0).dataSetID = 0 ∧
      (∀ p ∈ [(Op.uploadBytes [1] none, Env.creationTimesOut),
        (Op.uploadBytes [2] none, Env.creationTimesOut)], p.2.NoDataSet) ∧
      (run (fun _ => .ok "baga") (clientStorage "0xc1" "0xw" 0)
        [(Op.uploadBytes [1] none, Env.creationTimesOut),
          (Op.uploadBytes [2] none, Env.creationTimesOut)]).1.dataSetID = 0 := by
  have hw : ∀ p ∈ [(Op.uploadBytes [1] none, Env.creationTimesOut),
      (Op.uploadBytes [2] none, Env.creationTimesOut)], p.2.NoDataSet := by
    simp only [List.mem_cons, List.mem_singleton, List.not_mem_nil, or_false, forall_eq_or_imp,
      forall_eq, and_self]
    exact fun _ _ h => by cases h
  exact ⟨rfl, hw, (run_without_dataSet (fun _ => .ok "baga") rfl hw).1⟩

end Run

end Storage
