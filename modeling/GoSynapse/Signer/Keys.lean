import GoSynapse.Spregistry.Capabilities

/-! # Keys of package `signer`

A signer is built from raw key bytes, from a parsed ECDSA key, or from a `lotus wallet
export` string. The secp256k1 constructor left-pads a short key to 32 bytes. What the
libraries compute (JSON, the curves, hashing and signing) is a parameter. -/

namespace Signer

open GoSynapse Spregistry

/-- A `[32]byte` secp256k1 scalar, big-endian. -/
@[ext]
structure Scalar where
  bytes : Bytes
  length_eq : bytes.length = 32
  deriving DecidableEq

structure LotusKeyInfo where
  type : String
  privateKey : Bytes

/-- The library calls of the package, over ECDSA keys, BLS keys and Filecoin addresses. -/
structure Library (K S F : Type) where
  /-- `json.Unmarshal` into a `lotusKeyInfo`. -/
  unmarshal : Bytes → Except GoError LotusKeyInfo
  /-- `ethcrypto.ToECDSA`. -/
  toECDSA : Bytes → Except GoError K
  /-- `ethcrypto.FromECDSA`, always 32 bytes. -/
  fromECDSA : K → Scalar
  /-- `address.NewSecp256k1Address` of the uncompressed public key of
  `dcrdsecp.PrivKeyFromBytes(raw)`. -/
  secp256k1Address : Scalar → Except GoError F
  /-- `ethcrypto.PubkeyToAddress`. -/
  pubkeyToAddress : K → Address
  /-- `new(blst.SecretKey).Deserialize`, `nil` as `none`. -/
  blsDeserialize : Bytes → Option S
  /-- `address.NewBLSAddress` of the compressed public key. -/
  blsAddress : S → Except GoError F
  /-- `blake2b.Sum256`. -/
  blake2b256 : Bytes → Bytes
  /-- `dcrdecdsa.SignCompact` with an uncompressed key: `V|R|S`, where `V` is `27` plus the
  recovery id. -/
  signCompact : Scalar → Bytes → Bytes

structure Secp256k1Signer (K F : Type) where
  raw : Scalar
  ecdsaKey : K
  filAddr : F
  ethAddr : Address

structure BLSSigner (S F : Type) where
  raw : Bytes
  sk : S
  filAddr : F

set_option linter.dupNamespace false in
inductive Signer (K S F : Type) where
  | secp256k1 (s : Secp256k1Signer K F)
  | bls (s : BLSSigner S F)

inductive SigType where
  | secp256k1
  | bls
  deriving DecidableEq

structure Signature where
  type : SigType
  data : Bytes

/-- `copy(padded[32-len(raw):], raw)` into a zeroed `[32]byte`. -/
def leftPad (raw : Bytes) (h : raw.length ≤ 32) : Scalar :=
  ⟨List.replicate (32 - raw.length) 0 ++ raw, by
    rw [List.length_append, List.length_replicate]
    omega⟩

@[simp] theorem leftPad_bytes (raw : Bytes) (h : raw.length ≤ 32) :
    (leftPad raw h).bytes = List.replicate (32 - raw.length) 0 ++ raw := rfl

/-- The type assertion `s.(EVMSigner)`: only a secp256k1 signer has the methods. -/
def asEVM {K S F : Type} : Signer K S F → Option (Secp256k1Signer K F)
  | .secp256k1 s => some s
  | .bls _ => none

section Build

variable {K S F : Type} (lib : Library K S F)

def newFromECDSA (ecdsaKey : K) (raw : Scalar) : Except GoError (Secp256k1Signer K F) :=
  match lib.secp256k1Address raw with
  | .error err => .error (err.wrapf "deriving filecoin address")
  | .ok filAddr => .ok ⟨raw, ecdsaKey, filAddr, lib.pubkeyToAddress ecdsaKey⟩

def newSecp256k1Signer (raw : Bytes) : Except GoError (Secp256k1Signer K F) :=
  if h : raw.length = 0 ∨ raw.length > 32 then
    .error (.plain ("invalid key length: " ++ toString raw.length))
  else
    let padded := leftPad raw (by omega)
    match lib.toECDSA padded.bytes with
    | .error err => .error (err.wrapf "invalid secp256k1 key")
    | .ok ecdsaKey => newFromECDSA lib ecdsaKey padded

def newSecp256k1SignerFromECDSA : Option K → Except GoError (Secp256k1Signer K F)
  | none => .error (.plain "nil private key")
  | some key => newFromECDSA lib key (lib.fromECDSA key)

def decodeLotusKey (exported : Bytes) : Except GoError LotusKeyInfo :=
  match decodeHex exported with
  | .error err => .error (err.toGoError.wrapf "decoding hex")
  | .ok raw =>
    match lib.unmarshal raw with
    | .error err => .error (err.wrapf "unmarshaling key")
    | .ok ki => .ok ki

def newSecp256k1SignerFromLotusExport (exported : Bytes) :
    Except GoError (Secp256k1Signer K F) :=
  match decodeLotusKey lib exported with
  | .error err => .error err
  | .ok ki =>
    if ki.type ≠ "secp256k1" then .error (.plain ("expected secp256k1 key, got " ++ ki.type))
    else newSecp256k1Signer lib ki.privateKey

def newBLSSigner (raw : Bytes) : Except GoError (BLSSigner S F) :=
  match lib.blsDeserialize raw with
  | none => .error (.plain "invalid BLS secret key")
  | some sk =>
    match lib.blsAddress sk with
    | .error err => .error (err.wrapf "deriving BLS address")
    | .ok filAddr => .ok ⟨raw, sk, filAddr⟩

def newBLSSignerFromLotusExport (exported : Bytes) : Except GoError (BLSSigner S F) :=
  match decodeLotusKey lib exported with
  | .error err => .error err
  | .ok ki =>
    if ki.type ≠ "bls" then .error (.plain ("expected bls key, got " ++ ki.type))
    else newBLSSigner lib ki.privateKey

def fromLotusExport (exported : Bytes) : Except GoError (Signer K S F) :=
  match decodeLotusKey lib exported with
  | .error err => .error err
  | .ok ki =>
    if ki.type = "secp256k1" then (newSecp256k1Signer lib ki.privateKey).map .secp256k1
    else if ki.type = "bls" then (newBLSSigner lib ki.privateKey).map .bls
    else .error (.plain ("unsupported key type: " ++ ki.type))

/-- `Secp256k1Signer.Sign`: the compact signature of the message's hash, rotated from `V|R|S`
to `R|S|V` with the bare recovery id. -/
def Secp256k1Signer.sign (s : Secp256k1Signer K F) (msg : Bytes) : Signature :=
  let sig := lib.signCompact s.raw (lib.blake2b256 msg)
  ⟨.secp256k1, sig.tail ++ [sig.headD 0 - 27]⟩

end Build

def scalarLibrary : Library Scalar Unit Bytes where
  unmarshal _ := .error (.plain "unexpected end of JSON input")
  toECDSA b := if h : b.length = 32 then .ok ⟨b, h⟩ else .error (.plain "invalid length")
  fromECDSA key := key
  secp256k1Address raw := .ok raw.bytes
  pubkeyToAddress _ := Address.zero
  blsDeserialize _ := none
  blsAddress _ := .ok []
  blake2b256 msg := msg
  signCompact _ hash := hash

theorem setBytes_replicate_zero_append (n : Nat) (v : Bytes) :
    setBytes (List.replicate n 0 ++ v) = setBytes v := by
  induction n with
  | zero => rfl
  | succ n ih => simpa [setBytes] using ih

theorem eq_of_setBytes_eq {v w : Bytes} (hl : v.length = w.length)
    (h : setBytes v = setBytes w) : v = w := by
  induction v using List.reverseRecOn generalizing w with
  | nil => exact (List.length_eq_zero.mp hl.symm).symm
  | append_singleton v b ih =>
    obtain rfl | ⟨w, c, rfl⟩ := w.eq_nil_or_concat
    · simp at hl
    have hb := b.toNat_lt
    have hc := c.toNat_lt
    rw [List.concat_eq_append] at h ⊢
    rw [setBytes_concat, setBytes_concat] at h
    rw [ih (by simpa using hl) (by omega), UInt8.toNat.inj (by omega : b.toNat = c.toNat)]

section Spec

variable {K S F : Type} {lib : Library K S F}

/-- A key without its leading zero bytes, as `big.Int.Bytes()` gives it, builds the signer
`NewSecp256k1SignerFromECDSA` builds, when `ToECDSA` reads back what `FromECDSA` writes. -/
theorem newSecp256k1Signer_eq_fromECDSA {raw : Bytes} {key : K}
    (hk : lib.toECDSA (lib.fromECDSA key).bytes = .ok key) (h0 : 0 < raw.length)
    (h32 : raw.length ≤ 32) (hv : setBytes raw = setBytes (lib.fromECDSA key).bytes) :
    newSecp256k1Signer lib raw = newSecp256k1SignerFromECDSA lib (some key) := by
  have hp : leftPad raw h32 = lib.fromECDSA key :=
    Scalar.ext (eq_of_setBytes_eq (by rw [(leftPad raw h32).length_eq, Scalar.length_eq])
      (by rw [leftPad_bytes, setBytes_replicate_zero_append, hv]))
  rw [newSecp256k1Signer, dif_neg (by omega)]
  simp only [hp, hk]
  rfl

theorem newSecp256k1Signer_one_byte :
    newSecp256k1Signer scalarLibrary [1] =
      newSecp256k1SignerFromECDSA scalarLibrary
        (some ⟨List.replicate 31 0 ++ [1], by decide⟩) :=
  newSecp256k1Signer_eq_fromECDSA rfl (by decide) (by decide) rfl

end Spec

end Signer
