import GoSynapse.Spregistry.Capabilities
import GoSynapse.Constants.Epoch

/-! # Reading providers through `spregistry.Service`

`GetProvider` turns one contract answer into a `ProviderInfo`; `GetAllActiveProviders` pages
through the active provider IDs fifty at a time and reads each, skipping failed reads and
empty slots. The contract's answers are the environment. -/

namespace Spregistry

open GoSynapse

structure RawProviderInfo where
  serviceProvider : Address
  payee : Address
  name : Bytes
  description : Bytes
  isActive : Bool

structure RawProduct where
  capabilityKeys : List Bytes
  isActive : Bool

structure GetProviderWithProductResult where
  providerInfo : RawProviderInfo
  product : RawProduct
  productCapabilityValues : List Bytes

structure ServiceProduct where
  type : Bytes
  isActive : Bool
  capabilities : Capabilities
  data : PDPOffering

/-- `ProviderInfo`; of its `Products` map, the only key the service writes, `"PDP"`. -/
structure ProviderInfo where
  id : Int
  serviceProvider : Address
  payee : Address
  name : Bytes
  description : Bytes
  active : Bool
  pdp : Option ServiceProduct

structure PDPServiceInfo where
  offering : PDPOffering
  capabilities : Capabilities
  isActive : Bool

def convertToProviderInfo (providerID : Int) (result : GetProviderWithProductResult) :
    ProviderInfo :=
  let pdp :=
    if result.product.isActive then
      let capabilities :=
        capabilitiesListToMap result.product.capabilityKeys result.productCapabilityValues
      some ⟨ascii "PDP", result.product.isActive, capabilities, decodePDPCapabilities capabilities⟩
    else none
  ⟨providerID, result.providerInfo.serviceProvider, result.providerInfo.payee,
    result.providerInfo.name, result.providerInfo.description, result.providerInfo.isActive, pdp⟩

section Read

variable (getProviderWithProduct : Int → Except GoError GetProviderWithProductResult)

def getProvider (providerID : Int) : Except GoError (Option ProviderInfo) :=
  match getProviderWithProduct providerID with
  | .error err => .error err
  | .ok result =>
    if result.providerInfo.serviceProvider = Address.zero then .ok none
    else .ok (some (convertToProviderInfo providerID result))

def getPDPService (providerID : Int) : Except GoError (Option PDPServiceInfo) :=
  match getProviderWithProduct providerID with
  | .error err => .error err
  | .ok result =>
    if !result.product.isActive then .ok none
    else
      let capabilities :=
        capabilitiesListToMap result.product.capabilityKeys result.productCapabilityValues
      .ok (some ⟨decodePDPCapabilities capabilities, capabilities, result.product.isActive⟩)

/-- `GetProviders`: the providers read, in order; a failed read or an empty slot is skipped. -/
def getProviders (providerIDs : List Int) : List ProviderInfo :=
  providerIDs.filterMap fun id =>
    match getProvider getProviderWithProduct id with
    | .ok (some provider) => some provider
    | _ => none

variable (getAllActiveProvidersPage : Int → Int → Except GoError (List Int × Bool))

/-- The loop of `GetAllActiveProviders` at `offset`, with `fuel` pages left. -/
def activeProvidersLoop : Nat → Int → List ProviderInfo → Option (Except GoError (List ProviderInfo))
  | 0, _, _ => none
  | fuel + 1, offset, allProviders =>
    match getAllActiveProvidersPage offset 50 with
    | .error err => some (.error err)
    | .ok (providerIDs, hasMore) =>
      let allProviders :=
        allProviders ++ getProviders getProviderWithProduct (providerIDs.map Constants.bigIntInt64)
      if hasMore then activeProvidersLoop fuel (offset + 50) allProviders
      else some (.ok allProviders)

def getAllActiveProviders (fuel : Nat) : Option (Except GoError (List ProviderInfo)) :=
  activeProvidersLoop getProviderWithProduct getAllActiveProvidersPage fuel 0 []

/-- A registry that serves its active IDs `L` as consecutive pages of fifty. -/
def Paged (L : List Int) : Prop :=
  ∀ o : Nat, getAllActiveProvidersPage o 50 = .ok ((L.drop o).take 50, o + 50 < L.length)

theorem getProviders_append (l₁ l₂ : List Int) :
    getProviders getProviderWithProduct (l₁ ++ l₂) =
      getProviders getProviderWithProduct l₁ ++ getProviders getProviderWithProduct l₂ :=
  List.filterMap_append _ _ _

theorem activeProvidersLoop_paged {L : List Int} (h : Paged getAllActiveProvidersPage L) :
    ∀ {fuel o : Nat} (acc : List ProviderInfo), (L.length - o) / 50 < fuel →
      activeProvidersLoop getProviderWithProduct getAllActiveProvidersPage fuel o acc =
        some (.ok (acc ++
          getProviders getProviderWithProduct ((L.drop o).map Constants.bigIntInt64)))
  | fuel + 1, o, acc, hf => by
    simp only [activeProvidersLoop, h o]
    split_ifs with hmore <;> simp only [decide_eq_true_eq] at hmore
    · rw [show (o : Int) + 50 = ((o + 50 : Nat) : Int) by push_cast; rfl,
        activeProvidersLoop_paged h _ (by omega)]
      conv_rhs => rw [← List.take_append_drop 50 (L.drop o), List.drop_drop]
      simp only [List.map_append, getProviders_append, List.append_assoc]
    · rw [List.take_of_length_le (by rw [List.length_drop]; omega)]

/-- Paging reads each ID of `L` once, in order, within `⌊|L| / 50⌋ + 1` pages. -/
theorem getAllActiveProviders_paged {L : List Int} (h : Paged getAllActiveProvidersPage L)
    {fuel : Nat} (hf : L.length / 50 < fuel) :
    getAllActiveProviders getProviderWithProduct getAllActiveProvidersPage fuel =
      some (.ok (getProviders getProviderWithProduct (L.map Constants.bigIntInt64))) := by
  simpa using activeProvidersLoop_paged getProviderWithProduct getAllActiveProvidersPage h
    (o := 0) [] (by simpa using hf)

theorem getAllActiveProviders_paged_sixty :
    Paged (fun o _ => .ok ((((List.range' 1 60).map Int.ofNat).drop o.toNat).take 50,
        decide (o.toNat + 50 < 60))) ((List.range' 1 60).map Int.ofNat) ∧
      ((List.range' 1 60).map Int.ofNat).length / 50 < 2 ∧
      getAllActiveProviders
          (fun _ => .ok ⟨⟨⟨List.replicate 20 1, rfl⟩, Address.zero, [], [], true⟩, ⟨[], false⟩, []⟩)
          (fun o _ => .ok ((((List.range' 1 60).map Int.ofNat).drop o.toNat).take 50,
            decide (o.toNat + 50 < 60))) 2 =
        some (.ok (getProviders
          (fun _ => .ok ⟨⟨⟨List.replicate 20 1, rfl⟩, Address.zero, [], [], true⟩, ⟨[], false⟩, []⟩)
          (((List.range' 1 60).map Int.ofNat).map Constants.bigIntInt64))) := by
  have h : Paged (fun o _ => .ok ((((List.range' 1 60).map Int.ofNat).drop o.toNat).take 50,
      decide (o.toNat + 50 < 60))) ((List.range' 1 60).map Int.ofNat) := fun o => by simp
  exact ⟨h, by simp, getAllActiveProviders_paged _ _ h (by simp)⟩

end Read

end Spregistry
