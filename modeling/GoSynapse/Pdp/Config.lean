import GoSynapse.Constants.Network

/-! # `NewManagerWithConfig` in package `pdp`

The constructor checks the signer, the network, the RPC's chain ID, the gas buffer and the
contract address, in that order. `DefaultManagerConfig()` is not among the sources: it is a
parameter. -/

namespace Pdp

open GoSynapse Constants Spregistry

structure ManagerConfig where
  gasBufferPercent : Int
  contractAddress : Address

/-- The fields of `Manager` that `NewManagerWithConfig` computes. -/
structure Manager where
  contractAddr : Address
  chainID : Int
  config : ManagerConfig

def contractAddrFor (network : Network) (config : ManagerConfig) : Option Address :=
  if config.contractAddress = Address.zero then
    if getPDPVerifierAddress network = Address.zero then none
    else some (getPDPVerifierAddress network)
  else some config.contractAddress

def newManagerWithConfig (defaultManagerConfig : ManagerConfig) (hasSigner : Bool)
    (network : Network) (rpcChainID : Except GoError Int) (newPDPVerifier : Option GoError)
    (config : Option ManagerConfig) : Except GoError Manager :=
  if !hasSigner then .error (.plain "signer is required") else
  match expectedChainID network with
  | (_, false) => .error (.plain ("unknown network: " ++ network))
  | (expected, true) =>
    match rpcChainID with
    | .error err => .error (err.wrapf "failed to get chain ID")
    | .ok chainID =>
      if bigIntInt64 chainID ≠ expected then
        .error (.plain ("chain ID mismatch: RPC returned " ++ toString (bigIntInt64 chainID) ++
          " but network " ++ network ++ " expects " ++ toString expected))
      else
        let config := config.getD defaultManagerConfig
        if config.gasBufferPercent < 0 ∨ config.gasBufferPercent > 100 then
          .error (.plain ("gas buffer percent must be between 0 and 100, got " ++
            toString config.gasBufferPercent))
        else
          match contractAddrFor network config with
          | none => .error (.plain ("no PDPVerifier address for network " ++ network))
          | some contractAddr =>
            match newPDPVerifier with
            | some err => .error (err.wrapf "failed to create contract instance")
            | none => .ok ⟨contractAddr, chainID, config⟩

end Pdp
