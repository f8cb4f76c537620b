import Mathlib.Algebra.Ring.Nat
import Mathlib.Logic.Function.Basic

/-!
# The oracle contract's records and messages

`data.rs` and `msg.rs`. The fixed-width types of the source keep their bounds:
a `String` and a `Vec<u8>` have a length below `isize::MAX`, a `Uint128` is
below `2 ^ 128`.
-/

namespace Relayd.Contract
set_option autoImplicit false

/-- A Rust `String`. -/
abbrev RString := { s : String // s.utf8ByteSize < 2 ^ 63 }

/-- `cosmwasm_std::Uint128`. -/
abbrev Uint128 := { n : Nat // n < 2 ^ 128 }

/-- `cosmwasm_std::HumanAddr`. -/
abbrev HumanAddr := String

/-- `cosmwasm_std::CanonicalAddr`, an address in bytes. The bound keeps its
base64 text within a Rust `String`. -/
abbrev CanonicalAddr := { b : List UInt8 // b.length < 2 ^ 60 }

/-- The empty string, `String::default()`. -/
def RString.default : RString := ⟨"", by decide⟩

inductive OracleStatus
  | Testing
  | Running
  | Stopped
  deriving DecidableEq

inductive OracleType
  | PriceFeed
  | Other
  deriving DecidableEq

/-- `secret_toolkit::snip20::TokenInfo`. -/
structure TokenInfo where
  name : RString
  symbol : RString
  decimals : UInt8
  totalSupply : Option Uint128
  deriving DecidableEq

structure CurrencyPair where
  base : TokenInfo
  quote : TokenInfo
  deriving DecidableEq

/-- Oracle config. -/
structure OracleConfig where
  oracleName : RString
  oracleDescription : RString
  oracleStatus : OracleStatus
  oracleType : OracleType
  oracleValueDecimals : Int8
  oraclePricePair : Option CurrencyPair
  dataSource : RString
  dataSourceId : RString
  owner : CanonicalAddr
  deriving DecidableEq

/-- Latest round data for an oracle of type Aggregator. -/
structure LatestRoundData where
  current : Uint128
  updatedAt : Uint128
  deriving DecidableEq

structure InitMsg where
  oracleName : RString
  oracleDescription : Option RString
  oracleStatus : Option OracleStatus
  oracleType : Option OracleType
  dataSource : RString
  dataSourceId : Option RString
  oracleValueDecimals : Int8
  oraclePricePair : Option CurrencyPair

inductive HandleMsg
  | SetLatestRoundData (data : LatestRoundData)
  | SetOracleStatus (status : OracleStatus)
  deriving DecidableEq

inductive ResponseStatus
  | Success
  | Failure
  deriving DecidableEq

inductive HandleAnswer
  | SetLatestRoundData (status : ResponseStatus)
  | SetOracleStatus (status : ResponseStatus)
  deriving DecidableEq

inductive QueryMsg
  | GetLatestRoundData
  | GetOracleConfig
  deriving DecidableEq

inductive QueryAnswer
  | LatestRoundData (data : LatestRoundData) (status : ResponseStatus)
  | OracleStatus (data : OracleStatus) (status : ResponseStatus)
  | OracleConfig (data : OracleConfig) (status : ResponseStatus)
  deriving DecidableEq

/-- The variants of `cosmwasm_std::StdError` that the contract meets. -/
inductive StdError
  | GenericErr (msg : String)
  | NotFound (kind : String)
  | ParseErr (target : String)
  | Unauthorized
  deriving DecidableEq

abbrev StdResult (α : Type) := Except StdError α

/-- The configuration that `OracleConfig::init` fills in from the message. -/
def OracleConfig.ofMsg (msg : InitMsg) (ownerAddr : CanonicalAddr) : OracleConfig where
  oracleName := msg.oracleName
  oracleDescription := msg.oracleDescription.getD RString.default
  oracleStatus := msg.oracleStatus.getD .Testing
  oracleType := msg.oracleType.getD .PriceFeed
  dataSource := msg.dataSource
  dataSourceId := msg.dataSourceId.getD RString.default
  oracleValueDecimals := msg.oracleValueDecimals
  oraclePricePair := msg.oraclePricePair
  owner := ownerAddr

/-- `OracleConfig::init`: no check is made, so it never fails. -/
def OracleConfig.init (msg : InitMsg) (ownerAddr : CanonicalAddr) : StdResult OracleConfig :=
  .ok (OracleConfig.ofMsg msg ownerAddr)

/-- Both tokens of the price pair, when there is one, state their total supply. -/
def SuppliesListed (pair : Option CurrencyPair) : Prop :=
  ∀ p, pair = some p → p.base.totalSupply.isSome ∧ p.quote.totalSupply.isSome

theorem suppliesListed_none : SuppliesListed none := nofun

end Relayd.Contract
