import GoSynapse.Constants.Epoch
import GoSynapse.Spregistry.Capabilities

/-! # Networks and their chain IDs

A `Network` is its name. `ExpectedChainID` and `GetPDPVerifierAddress` read maps keyed by it;
the root package's `NetworkFromChainID` switches on `chainID.Int64()`. -/

namespace Constants

open GoSynapse Spregistry

abbrev Network := String

def networkMainnet : Network := "mainnet"
def networkCalibration : Network := "calibration"

def networkChainIDs (network : Network) : Option Int :=
  if network = networkMainnet then some chainIDMainnet
  else if network = networkCalibration then some chainIDCalibration
  else none

def expectedChainID (network : Network) : Int × Bool :=
  match networkChainIDs network with
  | some chainID => (chainID, true)
  | none => (0, false)

def pdpVerifierMainnet : Address :=
  ⟨[0xBA, 0xDD, 0x0B, 0x92, 0xC1, 0xC7, 0x1D, 0x02, 0xE7, 0xD5, 0x20, 0xF6, 0x4C, 0x08, 0x76,
    0x53, 0x8F, 0xA2, 0x55, 0x7F], rfl⟩

def pdpVerifierCalibration : Address :=
  ⟨[0x85, 0xE3, 0x66, 0xCF, 0x9D, 0xD2, 0xC0, 0xAE, 0x37, 0xE9, 0x63, 0xD9, 0x55, 0x6F, 0x5F,
    0x47, 0x18, 0xD6, 0x41, 0x7C], rfl⟩

def pdpVerifierAddresses (network : Network) : Option Address :=
  if network = networkMainnet then some pdpVerifierMainnet
  else if network = networkCalibration then some pdpVerifierCalibration
  else none

def getPDPVerifierAddress (network : Network) : Address :=
  match pdpVerifierAddresses network with
  | some addr => addr
  | none => Address.zero

/-- `NetworkFromChainID` of the root package: the network, and the chain ID as an `int64`. -/
def networkFromChainID (chainID : Int) : Except GoError (Network × Int) :=
  let id := bigIntInt64 chainID
  if id = chainIDMainnet then .ok (networkMainnet, id)
  else if id = chainIDCalibration then .ok (networkCalibration, id)
  else .error (.plain ("unsupported chain ID: " ++ toString id ++ " (expected " ++
    toString chainIDMainnet ++ " for mainnet or " ++ toString chainIDCalibration ++
    " for calibration)"))

end Constants
