import GoSynapse.Basic
import Mathlib.Data.Nat.Digits

/-! # Capability lists of `spregistry`

A PDP product's capabilities travel as two parallel lists, keys and values. A `string` or
`[]byte` is its bytes, a `*big.Int` is `none` for `nil`, and a Go map is a list of entries
with distinct keys in the order `range` visits them. -/

namespace Spregistry

open GoSynapse

abbrev Bytes := List UInt8

def ascii (s : String) : Bytes := s.toList.map fun c => c.toNat.toUInt8

/-- `common.Address`: twenty bytes. -/
structure Address where
  bytes : Bytes
  length_eq : bytes.length = 20
  deriving DecidableEq

def Address.zero : Address := ⟨List.replicate 20 0, List.length_replicate _ _⟩

def Address.ofLast (v : Bytes) (h : 20 ≤ v.length) : Address :=
  ⟨v.drop (v.length - 20), by rw [List.length_drop]; omega⟩

structure PDPOffering where
  serviceURL : Bytes
  minPieceSizeInBytes : Option Int
  maxPieceSizeInBytes : Option Int
  ipniPiece : Bool
  ipniIPFS : Bool
  storagePricePerTiBPerDay : Option Int
  minProvingPeriodInEpochs : Option Int
  location : Bytes
  paymentTokenAddress : Address
  deriving DecidableEq

def capServiceURL : Bytes := ascii "serviceURL"
def capMinPieceSize : Bytes := ascii "minPieceSizeInBytes"
def capMaxPieceSize : Bytes := ascii "maxPieceSizeInBytes"
def capIPNIPiece : Bytes := ascii "ipniPiece"
def capIPNIIPFS : Bytes := ascii "ipniIpfs"
def capStoragePrice : Bytes := ascii "storagePricePerTibPerDay"
def capMinProvingPeriod : Bytes := ascii "minProvingPeriodInEpochs"
def capLocation : Bytes := ascii "location"
def capPaymentToken : Bytes := ascii "paymentTokenAddress"

abbrev Capabilities := Bytes → Option Bytes

/-- `new(big.Int).SetBytes(v)`: `v` read as a big-endian unsigned number. -/
def setBytes (v : Bytes) : Nat := v.foldl (fun acc b => acc * 256 + b.toNat) 0

/-- A decoded integer field: `big.NewInt(0)` unless the key is present. -/
def decodeInt (v : Option Bytes) : Option Int := some (v.elim 0 fun b => (setBytes b : Int))

def decodePDPCapabilities (capabilities : Capabilities) : PDPOffering where
  serviceURL := (capabilities capServiceURL).getD []
  minPieceSizeInBytes := decodeInt (capabilities capMinPieceSize)
  maxPieceSizeInBytes := decodeInt (capabilities capMaxPieceSize)
  ipniPiece := (capabilities capIPNIPiece).isSome
  ipniIPFS := (capabilities capIPNIIPFS).isSome
  storagePricePerTiBPerDay := decodeInt (capabilities capStoragePrice)
  minProvingPeriodInEpochs := decodeInt (capabilities capMinProvingPeriod)
  location := (capabilities capLocation).getD []
  paymentTokenAddress :=
    match capabilities capPaymentToken with
    | some v => if h : 20 ≤ v.length then Address.ofLast v h else Address.zero
    | none => Address.zero

/-- `n.Bytes()`: the absolute value, big-endian, with no leading zero byte. -/
def bigIntBytes (n : Int) : Bytes := ((Nat.digits 256 n.natAbs).map Nat.toUInt8).reverse

def bigIntToBytes : Option Int → Bytes
  | none => [0]
  | some n =>
    match bigIntBytes n with
    | [] => [0]
    | b => b

def fromHexChar (c : UInt8) : Option UInt8 :=
  if 48 ≤ c ∧ c ≤ 57 then some (c - 48)
  else if 97 ≤ c ∧ c ≤ 102 then some (c - 87)
  else if 65 ≤ c ∧ c ≤ 70 then some (c - 55)
  else none

inductive HexError where
  | errLength
  | invalidByte (b : UInt8)
  deriving DecidableEq

/-- `hex.DecodeString`: a bad digit is reported before an odd length. -/
def decodeHex : Bytes → Except HexError Bytes
  | [] => .ok []
  | [p] => .error (if (fromHexChar p).isSome then .errLength else .invalidByte p)
  | p :: q :: rest =>
    match fromHexChar p, fromHexChar q with
    | none, _ => .error (.invalidByte p)
    | some _, none => .error (.invalidByte q)
    | some a, some b => (decodeHex rest).map ((a * 16 + b) :: ·)

def upperHexDigit (n : Nat) : Char := if n < 10 then Char.ofNat (48 + n) else Char.ofNat (55 + n)

def isPrintByte (b : UInt8) : Bool := (0x20 ≤ b && b ≤ 0x7E) || (0xA1 ≤ b && b != 0xAD)

def formatRune (b : UInt8) : String :=
  "U+00" ++ String.mk [upperHexDigit (b.toNat / 16), upperHexDigit (b.toNat % 16)] ++
    if isPrintByte b then " '" ++ String.mk [Char.ofNat b.toNat] ++ "'" else ""

def HexError.toGoError : HexError → GoError
  | .errLength => .sentinel 3 "encoding/hex: odd length hex string"
  | .invalidByte b => .plain ("encoding/hex: invalid byte: " ++ formatRune b)

def quoteKey (k : Bytes) : String := "\"" ++ String.mk (k.map fun b => Char.ofNat b.toNat) ++ "\""

def encodeExtra (k v : Bytes) : Except GoError Bytes :=
  if v = [] then .ok [0x01]
  else if v.take 2 = ascii "0x" then
    match decodeHex (v.drop 2) with
    | .ok decoded => .ok decoded
    | .error e => .error (e.toGoError.wrapf ("invalid hex value for capability " ++ quoteKey k))
  else .ok v

def encodeExtras : List (Bytes × Bytes) → Except GoError (List (Bytes × Bytes))
  | [] => .ok []
  | (k, v) :: rest => do
    let value ← encodeExtra k v
    let entries ← encodeExtras rest
    pure ((k, value) :: entries)

def offeringEntries (o : PDPOffering) : List (Bytes × Bytes) :=
  [(capServiceURL, o.serviceURL), (capMinPieceSize, bigIntToBytes o.minPieceSizeInBytes),
    (capMaxPieceSize, bigIntToBytes o.maxPieceSizeInBytes)] ++
  (if o.ipniPiece then [(capIPNIPiece, [0x01])] else []) ++
  (if o.ipniIPFS then [(capIPNIIPFS, [0x01])] else []) ++
  [(capStoragePrice, bigIntToBytes o.storagePricePerTiBPerDay),
    (capMinProvingPeriod, bigIntToBytes o.minProvingPeriodInEpochs),
    (capLocation, o.location), (capPaymentToken, o.paymentTokenAddress.bytes)]

/-- A Go `map[string]string`: distinct keys, listed in iteration order. -/
structure StringMap where
  entries : List (Bytes × Bytes)
  nodup : (entries.map Prod.fst).Nodup

def encodePDPCapabilities (offering : PDPOffering) (extraCapabilities : StringMap) :
    Except GoError (List Bytes × List Bytes) :=
  (encodeExtras extraCapabilities.entries).map fun extras =>
    ((offeringEntries offering ++ extras).map Prod.fst,
      (offeringEntries offering ++ extras).map Prod.snd)

def setEntry (m : Capabilities) (e : Bytes × Bytes) : Capabilities := Function.update m e.1 (some e.2)

def capabilitiesListToMap (keys values : List Bytes) : Capabilities :=
  (keys.zip values).foldl setEntry fun _ => none

@[simp] theorem setBytes_concat (v : Bytes) (b : UInt8) :
    setBytes (v ++ [b]) = setBytes v * 256 + b.toNat := by
  simp [setBytes, List.foldl_append]

theorem setBytes_reverse_digits (ds : List Nat) (h : ∀ d ∈ ds, d < 256) :
    setBytes (ds.map Nat.toUInt8).reverse = Nat.ofDigits 256 ds := by
  induction ds with
  | nil => rfl
  | cons d ds ih =>
    rw [List.map_cons, List.reverse_cons, setBytes_concat, ih fun x hx => h x (.tail _ hx),
      Nat.ofDigits_cons]
    have hd : (UInt8.ofNat d).toNat = d := UInt8.toNat_ofNat_of_lt (h d (.head _))
    show _ + (UInt8.ofNat d).toNat = _
    omega

theorem setBytes_bigIntBytes (n : Int) : setBytes (bigIntBytes n) = n.natAbs := by
  rw [bigIntBytes, setBytes_reverse_digits _ fun d hd => Nat.digits_lt_base (by decide) hd,
    Nat.ofDigits_digits]

theorem setBytes_bigIntToBytes (x : Option Int) : setBytes (bigIntToBytes x) = (x.getD 0).natAbs := by
  cases x with
  | none => rfl
  | some n =>
    simp only [bigIntToBytes]
    split
    · next h =>
      have := setBytes_bigIntBytes n
      rw [h] at this
      exact this
    · exact setBytes_bigIntBytes n

/-- What `hex.DecodeString` accepts: an even number of hex digits. -/
def IsHex (s : Bytes) : Prop := s.length % 2 = 0 ∧ ∀ c ∈ s, (fromHexChar c).isSome

theorem decodeHex_ok_iff (s : Bytes) : (∃ d, decodeHex s = .ok d) ↔ IsHex s := by
  induction s using decodeHex.induct with
  | case1 => simp [decodeHex, IsHex]
  | case2 p => simp [decodeHex, IsHex]
  | case3 p q rest hp => simp [decodeHex, IsHex, hp]
  | case4 p q rest a hq hp => simp [decodeHex, IsHex, hp, hq]
  | case5 p q rest a b hq hp ih =>
    have hstep : (∃ d, decodeHex (p :: q :: rest) = .ok d) ↔ ∃ d, decodeHex rest = .ok d := by
      simp only [decodeHex, hp, hq]
      cases decodeHex rest <;> simp [Except.map]
    have hlen : (rest.length + 1 + 1) % 2 = rest.length % 2 := by omega
    rw [hstep, ih]
    simp only [IsHex, List.length_cons, hlen, List.mem_cons, forall_eq_or_imp, hp, hq,
      Option.isSome_some, true_and]

theorem foldl_setEntry_of_not_mem {es : List (Bytes × Bytes)} {x : Bytes}
    (h : x ∉ es.map Prod.fst) (m : Capabilities) : es.foldl setEntry m x = m x := by
  induction es generalizing m with
  | nil => rfl
  | cons e es ih =>
    simp only [List.map_cons, List.mem_cons, not_or] at h
    rw [List.foldl_cons, ih h.2, setEntry, Function.update_noteq h.1]

theorem foldl_setEntry_of_mem {es : List (Bytes × Bytes)} (hnd : (es.map Prod.fst).Nodup)
    {x v : Bytes} (h : (x, v) ∈ es) (m : Capabilities) : es.foldl setEntry m x = some v := by
  induction es generalizing m with
  | nil => cases h
  | cons e es ih =>
    rw [List.map_cons, List.nodup_cons] at hnd
    rcases List.mem_cons.mp h with rfl | h
    · rw [List.foldl_cons, foldl_setEntry_of_not_mem hnd.1, setEntry, Function.update_same]
    · exact ih hnd.2 h _

theorem capabilitiesListToMap_entries (es : List (Bytes × Bytes)) :
    capabilitiesListToMap (es.map Prod.fst) (es.map Prod.snd) = es.foldl setEntry fun _ => none := by
  rw [capabilitiesListToMap, ← List.unzip_fst, ← List.unzip_snd, List.zip_unzip]

theorem ascii_0x : ascii "0x" = [48, 120] := rfl

theorem ne_nil_of_take_eq_0x {v : Bytes} (h : v.take 2 = ascii "0x") : v ≠ [] := by
  rintro rfl
  simp [ascii_0x] at h

theorem encodeExtra_ok_iff (k v : Bytes) :
    (∃ w, encodeExtra k v = .ok w) ↔ (v.take 2 = ascii "0x" → IsHex (v.drop 2)) := by
  unfold encodeExtra
  by_cases hp : v.take 2 = ascii "0x"
  · simp only [ne_nil_of_take_eq_0x hp, hp, if_false, if_true, ← decodeHex_ok_iff, true_implies]
    cases decodeHex (v.drop 2) <;> simp
  · split <;> simp [hp]

theorem encodeExtra_eq_ok {k v w : Bytes} (h : encodeExtra k v = .ok w) :
    (v = [] → w = [0x01]) ∧ (v.take 2 = ascii "0x" → decodeHex (v.drop 2) = .ok w) ∧
      (v ≠ [] → v.take 2 ≠ ascii "0x" → w = v) := by
  unfold encodeExtra at h
  by_cases h0 : v = []
  · simp only [h0, if_true, Except.ok.injEq] at h
    exact ⟨fun _ => h.symm, fun hp => absurd h0 (ne_nil_of_take_eq_0x hp), fun h' => absurd h0 h'⟩
  · by_cases hp : v.take 2 = ascii "0x"
    · simp only [h0, hp, if_false, if_true] at h
      split at h <;> simp_all
    · simp only [h0, hp, if_false, Except.ok.injEq] at h
      exact ⟨fun h' => absurd h' h0, fun h' => absurd h' hp, fun _ _ => h.symm⟩

theorem encodeExtras_ok_iff (es : List (Bytes × Bytes)) :
    (∃ es', encodeExtras es = .ok es') ↔ ∀ kv ∈ es, kv.2.take 2 = ascii "0x" → IsHex (kv.2.drop 2) := by
  induction es using encodeExtras.induct with
  | case1 => simp [encodeExtras]
  | case2 k v rest ih =>
    rw [List.forall_mem_cons, ← encodeExtra_ok_iff k v, ← ih]
    simp only [encodeExtras]
    cases encodeExtra k v <;> cases encodeExtras rest <;> simp [bind, Except.bind, pure, Except.pure]

theorem encodeExtras_spec {es es' : List (Bytes × Bytes)} (h : encodeExtras es = .ok es') :
    es'.map Prod.fst = es.map Prod.fst ∧
      ∀ k v, (k, v) ∈ es → ∃ w, encodeExtra k v = .ok w ∧ (k, w) ∈ es' := by
  induction es using encodeExtras.induct generalizing es' with
  | case1 => simp_all [encodeExtras]
  | case2 k v rest ih =>
    simp only [encodeExtras] at h
    cases hv : encodeExtra k v <;> cases hr : encodeExtras rest <;>
      simp [hv, hr, bind, Except.bind, pure, Except.pure] at h
    subst h
    obtain ⟨hk, hm⟩ := ih hr
    refine ⟨by simp [hk], fun k' v' hkv => ?_⟩
    rcases List.mem_cons.mp hkv with hkv | hkv
    · cases hkv
      exact ⟨_, hv, List.mem_cons_self _ _⟩
    · obtain ⟨w, hw, hmem⟩ := hm k' v' hkv
      exact ⟨w, hw, List.mem_cons_of_mem _ hmem⟩

def reservedKeys : List Bytes :=
  [capServiceURL, capMinPieceSize, capMaxPieceSize, capIPNIPiece, capIPNIIPFS, capStoragePrice,
    capMinProvingPeriod, capLocation, capPaymentToken]

theorem decode_congr {m m' : Capabilities} (h : ∀ k ∈ reservedKeys, m k = m' k) :
    decodePDPCapabilities m = decodePDPCapabilities m' := by
  simp only [reservedKeys, List.mem_cons, List.not_mem_nil, or_false, forall_eq_or_imp,
    forall_eq] at h
  obtain ⟨h1, h2, h3, h4, h5, h6, h7, h8, h9⟩ := h
  simp only [decodePDPCapabilities, h1, h2, h3, h4, h5, h6, h7, h8, h9]

theorem map_fst_offeringEntries (o : PDPOffering) : (offeringEntries o).map Prod.fst =
    [capServiceURL, capMinPieceSize, capMaxPieceSize] ++
      (if o.ipniPiece then [capIPNIPiece] else []) ++ (if o.ipniIPFS then [capIPNIIPFS] else []) ++
      [capStoragePrice, capMinProvingPeriod, capLocation, capPaymentToken] := by
  simp only [offeringEntries, List.map_append]
  split <;> split <;> rfl

theorem nodup_offeringEntries (o : PDPOffering) : ((offeringEntries o).map Prod.fst).Nodup := by
  rw [map_fst_offeringEntries]
  split <;> split <;> decide

theorem lookup_ipniPiece (o : PDPOffering) :
    (offeringEntries o).foldl setEntry (fun _ => none) capIPNIPiece =
      if o.ipniPiece then some [0x01] else none := by
  obtain ⟨u, a, b, p, q, c, d, l, t⟩ := o
  cases p
  · exact foldl_setEntry_of_not_mem (by rw [map_fst_offeringEntries]; dsimp only; cases q <;> decide) _
  · exact foldl_setEntry_of_mem (nodup_offeringEntries _) (by simp [offeringEntries]) _

theorem lookup_ipniIPFS (o : PDPOffering) :
    (offeringEntries o).foldl setEntry (fun _ => none) capIPNIIPFS =
      if o.ipniIPFS then some [0x01] else none := by
  obtain ⟨u, a, b, p, q, c, d, l, t⟩ := o
  cases q
  · exact foldl_setEntry_of_not_mem (by rw [map_fst_offeringEntries]; dsimp only; cases p <;> decide) _
  · exact foldl_setEntry_of_mem (nodup_offeringEntries _) (by simp [offeringEntries]) _

theorem Address.ofLast_bytes (a : Address) (h : 20 ≤ a.bytes.length) : Address.ofLast a.bytes h = a := by
  obtain ⟨b, hb⟩ := a
  simp only [Address.ofLast, Address.mk.injEq, hb, Nat.sub_self, List.drop_zero]

/-- Decoding the offering's own entries gives it back, its integers by absolute value. -/
theorem decode_offeringEntries (o : PDPOffering) :
    decodePDPCapabilities ((offeringEntries o).foldl setEntry fun _ => none) =
      { o with
        minPieceSizeInBytes := some (o.minPieceSizeInBytes.getD 0).natAbs
        maxPieceSizeInBytes := some (o.maxPieceSizeInBytes.getD 0).natAbs
        storagePricePerTiBPerDay := some (o.storagePricePerTiBPerDay.getD 0).natAbs
        minProvingPeriodInEpochs := some (o.minProvingPeriodInEpochs.getD 0).natAbs } := by
  have get : ∀ {k v}, (k, v) ∈ offeringEntries o →
      (offeringEntries o).foldl setEntry (fun _ => none) k = some v :=
    fun h => foldl_setEntry_of_mem (nodup_offeringEntries o) h _
  simp only [decodePDPCapabilities,
    get (by simp [offeringEntries] : (capServiceURL, o.serviceURL) ∈ _),
    get (by simp [offeringEntries] : (capMinPieceSize, bigIntToBytes o.minPieceSizeInBytes) ∈ _),
    get (by simp [offeringEntries] : (capMaxPieceSize, bigIntToBytes o.maxPieceSizeInBytes) ∈ _),
    get (by simp [offeringEntries] :
      (capStoragePrice, bigIntToBytes o.storagePricePerTiBPerDay) ∈ _),
    get (by simp [offeringEntries] :
      (capMinProvingPeriod, bigIntToBytes o.minProvingPeriodInEpochs) ∈ _),
    get (by simp [offeringEntries] : (capLocation, o.location) ∈ _),
    get (by simp [offeringEntries] : (capPaymentToken, o.paymentTokenAddress.bytes) ∈ _),
    lookup_ipniPiece,
    lookup_ipniIPFS, decodeInt, Option.elim, setBytes_bigIntToBytes, Address.length_eq, le_refl,
    dite_true, Address.ofLast_bytes]
  obtain ⟨u, a, b, p, q, c, d, l, t⟩ := o
  cases p <;> cases q <;> rfl

/-- How offerings are compared: each `*big.Int` by value, `nil` read as `0`. -/
def PDPOffering.readByValue (o : PDPOffering) : PDPOffering :=
  { o with
    minPieceSizeInBytes := some (o.minPieceSizeInBytes.getD 0)
    maxPieceSizeInBytes := some (o.maxPieceSizeInBytes.getD 0)
    storagePricePerTiBPerDay := some (o.storagePricePerTiBPerDay.getD 0)
    minProvingPeriodInEpochs := some (o.minProvingPeriodInEpochs.getD 0) }

def PDPOffering.Nonneg (o : PDPOffering) : Prop :=
  0 ≤ o.minPieceSizeInBytes.getD 0 ∧ 0 ≤ o.maxPieceSizeInBytes.getD 0 ∧
    0 ≤ o.storagePricePerTiBPerDay.getD 0 ∧ 0 ≤ o.minProvingPeriodInEpochs.getD 0

instance (o : PDPOffering) : Decidable o.Nonneg := inferInstanceAs (Decidable (_ ∧ _ ∧ _ ∧ _))

theorem encodePDPCapabilities_ok {o : PDPOffering} {extras : StringMap} {keys values : List Bytes}
    (h : encodePDPCapabilities o extras = .ok (keys, values)) :
    ∃ es, encodeExtras extras.entries = .ok es ∧
      capabilitiesListToMap keys values =
        es.foldl setEntry ((offeringEntries o).foldl setEntry fun _ => none) := by
  simp only [encodePDPCapabilities] at h
  cases hx : encodeExtras extras.entries <;> simp only [hx, Except.map, Except.ok.injEq,
    Prod.mk.injEq, reduceCtorEq] at h
  rw [← h.1, ← h.2, capabilitiesListToMap_entries, List.foldl_append]
  exact ⟨_, rfl, rfl⟩

/-- `EncodePDPCapabilities` fails only on a `0x` extra that is not hex, sends each extra key to
its encoded value, and decodes back to the offering under the claim's side conditions. -/
theorem encodePDPCapabilities_round_trip (o : PDPOffering) (extras : StringMap) :
    ((∃ r, encodePDPCapabilities o extras = .ok r) ↔
      ∀ kv ∈ extras.entries, kv.2.take 2 = ascii "0x" → IsHex (kv.2.drop 2)) ∧
    ∀ keys values, encodePDPCapabilities o extras = .ok (keys, values) →
      (o.Nonneg → (∀ k ∈ extras.entries.map Prod.fst, k ∉ reservedKeys) →
        decodePDPCapabilities (capabilitiesListToMap keys values) = o.readByValue) ∧
      ∀ k v, (k, v) ∈ extras.entries →
        (v = [] → capabilitiesListToMap keys values k = some [0x01]) ∧
        (v.take 2 = ascii "0x" →
          ∃ d, decodeHex (v.drop 2) = .ok d ∧ capabilitiesListToMap keys values k = some d) ∧
        (v ≠ [] → v.take 2 ≠ ascii "0x" → capabilitiesListToMap keys values k = some v) := by
  refine ⟨?_, fun keys values h => ?_⟩
  · rw [← encodeExtras_ok_iff, encodePDPCapabilities]
    cases encodeExtras extras.entries <;> simp [Except.map]
  · obtain ⟨es, hes, hmap⟩ := encodePDPCapabilities_ok h
    obtain ⟨hkeys, hmem⟩ := encodeExtras_spec hes
    have hnd : (es.map Prod.fst).Nodup := hkeys ▸ extras.nodup
    rw [hmap]
    refine ⟨fun hn hres => ?_, fun k v hkv => ?_⟩
    · rw [decode_congr fun k hk => foldl_setEntry_of_not_mem (fun h' => hres k (hkeys ▸ h') hk) _,
        decode_offeringEntries]
      obtain ⟨h1, h2, h3, h4⟩ := hn
      simp only [PDPOffering.readByValue, Int.natAbs_of_nonneg h1, Int.natAbs_of_nonneg h2,
        Int.natAbs_of_nonneg h3, Int.natAbs_of_nonneg h4]
    · obtain ⟨w, hw, hkw⟩ := hmem k v hkv
      obtain ⟨e1, e2, e3⟩ := encodeExtra_eq_ok hw
      rw [foldl_setEntry_of_mem hnd hkw]
      exact ⟨fun h0 => by rw [e1 h0], fun hp => ⟨w, e2 hp, rfl⟩, fun h0 hp => by rw [e3 h0 hp]⟩

theorem encodePDPCapabilities_round_trip_example :
    ∃ keys values, encodePDPCapabilities
      ⟨ascii "https://provider.example.com", some 1024, some 1073741824, false, false, some 1000000,
        some 2880, ascii "US-EAST", Address.zero⟩
      ⟨[(ascii "customKey", ascii "customValue"), (ascii "emptyValue", []),
        (ascii "hexValue", ascii "0xabcd")], by decide⟩ = .ok (keys, values) ∧
      decodePDPCapabilities (capabilitiesListToMap keys values) =
        PDPOffering.readByValue ⟨ascii "https://provider.example.com", some 1024, some 1073741824,
          false, false, some 1000000, some 2880, ascii "US-EAST", Address.zero⟩ :=
  ⟨_, _, rfl, ((encodePDPCapabilities_round_trip _ ⟨[(ascii "customKey", ascii "customValue"),
    (ascii "emptyValue", []), (ascii "hexValue", ascii "0xabcd")], by decide⟩).2 _ _ rfl).1
    (by decide) (by decide)⟩

/-- An extra keyed `serviceURL` replaces the offering's URL, and a negative integer comes
back as its absolute value. -/
theorem reserved_key_and_negative_break_round_trip :
    (∃ keys values, encodePDPCapabilities ⟨[], none, none, false, false, none, none, [], Address.zero⟩
        ⟨[(capServiceURL, ascii "x")], by decide⟩ = .ok (keys, values) ∧
      (decodePDPCapabilities (capabilitiesListToMap keys values)).serviceURL = ascii "x") ∧
    (∃ keys values, encodePDPCapabilities ⟨[], some (-1), none, false, false, none, none, [], Address.zero⟩
        ⟨[], by decide⟩ = .ok (keys, values) ∧
      (decodePDPCapabilities (capabilitiesListToMap keys values)).minPieceSizeInBytes = some 1) :=
  ⟨⟨_, _, rfl, by decide⟩, ⟨_, _, rfl, by
    rw [capabilitiesListToMap_entries, List.append_nil, decode_offeringEntries]
    rfl⟩⟩

end Spregistry
