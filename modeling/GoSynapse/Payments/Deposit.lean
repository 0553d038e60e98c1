import GoSynapse.Spregistry.Capabilities

/-! # `Deposit` and `Withdraw` in package `payments`

`Deposit` approves the amount when the allowance it reads is short, then deposits;
`Withdraw` submits only when the available funds cover the amount. A call is the
transactions it submits, in order, and its result; the chain's answers are the environment. -/

namespace Payments

open GoSynapse Spregistry

abbrev Token := String

def tokenUSDFC : Token := "USDFC"
def tokenFIL : Token := "FIL"

abbrev Hash := Bytes

/-- The fields of `Service` the two calls read. -/
structure Service where
  address : Address
  paymentsAddress : Address
  usdfcAddress : Address

structure AccountInfo where
  funds : Int
  lockupCurrent : Int
  lockupRate : Int
  lockupLastSettled : Int
  fundedUntilEpoch : Int
  availableFunds : Int
  currentLockupRate : Int

structure DepositOptions where
  «to» : Address

inductive Tx where
  | approve (token spender : Address) (amount : Int)
  | deposit (token «to» : Address) (amount : Int)
  | withdraw (token : Address) (amount : Int)
  deriving DecidableEq

/-- What the chain answers the service. -/
structure Chain where
  /-- `contracts.NewERC20Contract` at a token address: its error, if any. -/
  newERC20Contract : Address → Option GoError
  /-- `Allowance(owner, spender)` of the token at an address. -/
  allowance : Address → Address → Address → Except GoError Int
  /-- `Accounts(token, owner)`: funds, current lockup, lockup rate, last settled epoch. -/
  accounts : Address → Address → Except GoError (Int × Int × Int × Int)
  /-- `GetAccountInfoIfSettled(token, owner)`: funded-until epoch, current funds, available
  funds, current lockup rate. -/
  accountInfoIfSettled : Address → Address → Except GoError (Int × Int × Int × Int)
  /-- `bind.NewKeyedTransactorWithChainID`: its error, if any. -/
  newKeyedTransactor : Option GoError
  /-- A binding's transaction call: the transaction's hash, or the call's error. -/
  submit : Tx → Except GoError Hash

namespace Service

variable (s : Service) (chain : Chain) (hexToAddress : String → Address)

def tokenAddress (token : Token) : Address :=
  if token = tokenUSDFC then s.usdfcAddress
  else if token = tokenFIL then Address.zero
  else hexToAddress token

def transactOpts : Option GoError :=
  chain.newKeyedTransactor.map (·.wrapf "failed to create transactor")

def allowance (token : Token) : Except GoError Int :=
  let tokenAddr := s.tokenAddress hexToAddress token
  match chain.newERC20Contract tokenAddr with
  | some err => .error (err.wrapf "failed to create token contract")
  | none => chain.allowance tokenAddr s.address s.paymentsAddress

def approve (amount : Int) (token : Token) : List Tx × Except GoError Hash :=
  let tokenAddr := s.tokenAddress hexToAddress token
  match chain.newERC20Contract tokenAddr with
  | some err => ([], .error (err.wrapf "failed to create token contract"))
  | none =>
    match transactOpts chain with
    | some err => ([], .error err)
    | none =>
      let tx := Tx.approve tokenAddr s.paymentsAddress amount
      match chain.submit tx with
      | .error err => ([tx], .error (err.wrapf "failed to approve"))
      | .ok hash => ([tx], .ok hash)

/-- The options' `To`, unless the options are `nil` or it is the zero address. -/
def depositTo : Option DepositOptions → Address
  | some opts => if opts.«to» ≠ Address.zero then opts.«to» else s.address
  | none => s.address

def deposit (amount : Int) (token : Token) (opts : Option DepositOptions) :
    List Tx × Except GoError Hash :=
  let tokenAddr := s.tokenAddress hexToAddress token
  let send : List Tx × Except GoError Hash :=
    match transactOpts chain with
    | some err => ([], .error err)
    | none =>
      let tx := Tx.deposit tokenAddr (s.depositTo opts) amount
      match chain.submit tx with
      | .error err => ([tx], .error (err.wrapf "failed to deposit"))
      | .ok hash => ([tx], .ok hash)
  match s.allowance chain hexToAddress token with
  | .error err => ([], .error (err.wrapf "failed to check allowance"))
  | .ok allowance =>
    if allowance < amount then
      match s.approve chain hexToAddress amount token with
      | (txs, .error err) => (txs, .error (err.wrapf "failed to approve"))
      | (txs, .ok _) => (txs ++ send.1, send.2)
    else send

def accountInfo (token : Token) : Except GoError AccountInfo :=
  let tokenAddr := s.tokenAddress hexToAddress token
  match chain.accounts tokenAddr s.address with
  | .error err => .error (err.wrapf "failed to get account")
  | .ok (funds, lockupCurrent, lockupRate, lockupLastSettled) =>
    match chain.accountInfoIfSettled tokenAddr s.address with
    | .error err => .error (err.wrapf "failed to get settled account info")
    | .ok (fundedUntilEpoch, _, availableFunds, currentLockupRate) =>
      .ok ⟨funds, lockupCurrent, lockupRate, lockupLastSettled, fundedUntilEpoch, availableFunds,
        currentLockupRate⟩

def withdraw (amount : Int) (token : Token) : List Tx × Except GoError Hash :=
  let tokenAddr := s.tokenAddress hexToAddress token
  match s.accountInfo chain hexToAddress token with
  | .error err => ([], .error (err.wrapf "failed to get account info"))
  | .ok info =>
    if info.availableFunds < amount then
      ([], .error (.plain ("insufficient available funds: have " ++ toString info.availableFunds ++
        ", want " ++ toString amount)))
    else
      match transactOpts chain with
      | some err => ([], .error err)
      | none =>
        let tx := Tx.withdraw tokenAddr amount
        match chain.submit tx with
        | .error err => ([tx], .error (err.wrapf "failed to withdraw"))
        | .ok hash => ([tx], .ok hash)

end Service

end Payments
