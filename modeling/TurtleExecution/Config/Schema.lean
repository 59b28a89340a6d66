/-
The configuration of the engine, and the ranges that are documented for it.
-/

import TurtleExecution.Foundation.Dict
import TurtleExecution.Foundation.FloatOrder
import TurtleExecution.Foundation.PyText

set_option autoImplicit false

namespace TurtleExecution

namespace Config

structure TomlFloat where
  value : FloatValue
  isRounded : value.IsRounded

inductive Toml
  | text (value : String)
  | integer (value : Int)
  | float (value : TomlFloat)
  | boolean (value : Bool)
  | moment (value : String)
  | array (items : List Toml)
  | table (entries : List (String × Toml))

abbrev Table : Type := Dict String Toml

inductive PyError
  | typeError
  | overflowError
  | valueError
  | recursionError
  deriving DecidableEq

structure Builtins where
  /-- `repr(value)`, where `none` is `None`.  It raises where a whole number has too many
  digits for a text, or where the nesting is too deep. -/
  repr : Option Toml → Except PyError String
  str : PyNumber → Except PyError String
  upper : String → String

/-- `isinstance(value, (int, float)) and not isinstance(value, bool)` -/
def number? : Option Toml → Option PyNumber
  | some (.integer value) => some (.int value)
  | some (.float number) => some (.float number.value)
  | _ => none

/-- `isinstance(value, int) and not isinstance(value, bool)` -/
def integer? : Option Toml → Option Int
  | some (.integer value) => some value
  | _ => none

def boolean? : Option Toml → Option Bool
  | some (.boolean value) => some value
  | _ => none

def filledText? : Option Toml → Option String
  | some (.text value) => if PyText.isBlank value then none else some value
  | _ => none

/-- `value in supported`, where arrays and tables have no hash. -/
def isMember (value : Option Toml) (supported : List String) : Except PyError Bool :=
  match value with
  | some (.text text) => .ok (decide (text ∈ supported))
  | some (.array _) => .error .typeError
  | some (.table _) => .error .typeError
  | _ => .ok false

def tableAt (raw : Table) (name : String) : Option Table :=
  match Dict.get? raw name with
  | some (.table entries) => some entries
  | _ => none

end Config

namespace PyNumber

def isFraction (number : PyNumber) : Bool := (PyNumber.int 0).lt number && number.le (.int 1)

def isPositive (number : PyNumber) : Bool := (PyNumber.int 0).lt number

def isZero (number : PyNumber) : Bool := (PyNumber.int 0).le number && number.le (.int 0)

def isNonnegative (number : PyNumber) : Bool := (PyNumber.int 0).le number

def isInside (number : PyNumber) : Bool := (PyNumber.int 0).lt number && number.lt (.int 1)

end PyNumber

end TurtleExecution

namespace TurtleExecution.Config

def supportedExchanges : List String := ["hyperliquid"]

def supportedNetworks : List String := ["mainnet", "testnet"]

def supportedEnvironments : List String := ["live", "paper"]

def supportedRiskProfileNames : List String := ["BALANCED", "CAPITAL_PRESERVATION", "GROWTH"]

def supportedSizingModes : List String := ["conviction_weighted", "fixed", "vol_targeted"]

def supportedLogLevels : List String := ["CRITICAL", "DEBUG", "ERROR", "INFO", "WARNING"]

structure ExchangeConfig where
  name : String
  network : String

structure UniverseConfig where
  symbols : List String

structure RiskProfileParams where
  riskPctPerTrade : FloatValue
  maxPositions : Int
  sizingMode : String
  heatCap : FloatValue
  ruinThreshold : FloatValue

structure RiskConfig where
  activeProfile : String
  profiles : Dict String RiskProfileParams
  maxDailyLossPct : FloatValue
  maxDrawdownFromPeakPct : FloatValue
  autoFlattenEnabled : Bool
  autoFlattenConfirmationSeconds : FloatValue

structure OperationalConfig where
  maxRetries : Int
  retryBaseDelaySeconds : FloatValue
  retryMaxDelaySeconds : FloatValue
  clockDriftToleranceMs : FloatValue
  dataStalenessPriceMs : FloatValue
  dataStalenessOrderbookMs : FloatValue
  dataStalenessPositionMs : FloatValue

structure SecretsConfig where
  signingKeyRef : String
  telegramBotTokenRef : String
  walletKeyRef : Option String

structure TelegramConfig where
  enabled : Bool
  chatId : Toml

structure LoggingConfig where
  level : String
  directory : String

structure EngineConfig where
  environment : String
  exchange : ExchangeConfig
  symbolUniverse : UniverseConfig
  risk : RiskConfig
  operational : OperationalConfig
  secrets : SecretsConfig
  telegram : TelegramConfig
  logging : LoggingConfig

def isHexDigit (c : Char) : Bool :=
  c.isDigit || (decide ('a' ≤ c) && decide (c ≤ 'f')) || (decide ('A' ≤ c) && decide (c ≤ 'F'))

/-- `^0x[0-9a-fA-F]{64}$`, which also matches in front of a last line break. -/
def isRawHexKey (value : String) : Bool :=
  match value.toList with
  | '0' :: 'x' :: rest =>
      (rest.take 64).length = 64 && (rest.take 64).all isHexDigit &&
        (decide (rest.drop 64 = []) || decide (rest.drop 64 = ['\n']))
  | _ => false

def maxPlausibleRefLength : Nat := 100

def looksLikeRawSecret (value : String) : Bool :=
  isRawHexKey value || decide (maxPlausibleRefLength < value.length)

def IsReference (value : String) : Prop :=
  PyText.isBlank value = false ∧ looksLikeRawSecret value = false

structure RiskProfileParams.Documented (params : RiskProfileParams) : Prop where
  riskPctPerTrade : (PyNumber.float params.riskPctPerTrade).isFraction = true
  maxPositions : 1 ≤ params.maxPositions
  sizingMode : params.sizingMode ∈ supportedSizingModes
  heatCap : (PyNumber.float params.heatCap).isFraction = true
  ruinThreshold : (PyNumber.float params.ruinThreshold).isInside = true
  headroom : ∃ required, (PyNumber.int params.maxPositions).mul? (.float params.riskPctPerTrade) =
    some required ∧ required.lt (.float params.heatCap) = true

structure UniverseConfig.Documented (builtins : Builtins) (symbolUniverse : UniverseConfig) :
    Prop where
  nonempty : symbolUniverse.symbols ≠ []
  filled : ∀ symbol ∈ symbolUniverse.symbols, PyText.isBlank symbol = false
  distinct : symbolUniverse.symbols.Nodup
  uppercase : ∀ symbol ∈ symbolUniverse.symbols, symbol = builtins.upper symbol

structure RiskConfig.Documented (risk : RiskConfig) : Prop where
  activeProfile : risk.activeProfile ∈ supportedRiskProfileNames
  isDefined : (Dict.get? risk.profiles risk.activeProfile).isSome = true
  profiles : ∀ item ∈ risk.profiles, item.2.Documented
  maxDailyLossPct : (PyNumber.float risk.maxDailyLossPct).isFraction = true
  maxDrawdownFromPeakPct : (PyNumber.float risk.maxDrawdownFromPeakPct).isFraction = true
  confirmation : (PyNumber.float risk.autoFlattenConfirmationSeconds).isNonnegative = true
  sustained : risk.autoFlattenEnabled = true →
    (PyNumber.float risk.autoFlattenConfirmationSeconds).isPositive = true

structure OperationalConfig.Documented (operational : OperationalConfig) : Prop where
  maxRetries : 0 ≤ operational.maxRetries
  retryBaseDelaySeconds : (PyNumber.float operational.retryBaseDelaySeconds).isPositive = true
  retryMaxDelaySeconds : (PyNumber.float operational.retryMaxDelaySeconds).isPositive = true
  ordered : (PyNumber.float operational.retryBaseDelaySeconds).le
    (.float operational.retryMaxDelaySeconds) = true
  clockDriftToleranceMs : (PyNumber.float operational.clockDriftToleranceMs).isPositive = true
  dataStalenessPriceMs : (PyNumber.float operational.dataStalenessPriceMs).isPositive = true
  dataStalenessOrderbookMs : (PyNumber.float operational.dataStalenessOrderbookMs).isPositive = true
  dataStalenessPositionMs : (PyNumber.float operational.dataStalenessPositionMs).isPositive = true

structure EngineConfig.Documented (builtins : Builtins) (config : EngineConfig) : Prop where
  environment : config.environment ∈ supportedEnvironments
  exchangeName : config.exchange.name ∈ supportedExchanges
  network : config.exchange.network ∈ supportedNetworks
  symbolUniverse : config.symbolUniverse.Documented builtins
  risk : config.risk.Documented
  operational : config.operational.Documented
  signingKeyRef : IsReference config.secrets.signingKeyRef
  telegramBotTokenRef : IsReference config.secrets.telegramBotTokenRef
  walletKeyRef : ∀ reference, config.secrets.walletKeyRef = some reference → IsReference reference
  chatId : config.telegram.enabled = true →
    ∃ chat, config.telegram.chatId = .text chat ∧ PyText.isBlank chat = false
  level : config.logging.level ∈ supportedLogLevels
  directory : PyText.isBlank config.logging.directory = false

end TurtleExecution.Config
