/-
`load_config` of a parsed document: overrides, validation, conversion.

The validation collects every issue; what a check raises ends it.
-/

import Mathlib.Data.List.Dedup
import TurtleExecution.Config.Schema

set_option autoImplicit false

namespace TurtleExecution.Config

/-- `{**raw.get(section, {}), field: env[name]}`, where the name is set; nothing but a table
can be spread. -/
def overrideField (env : Dict String String) (name sectionName field : String) (raw : Table) :
    Except PyError Table :=
  match Dict.get? env name with
  | none => .ok raw
  | some value =>
      match (Dict.get? raw sectionName).getD (.table []) with
      | .table entries =>
          .ok (Dict.set raw sectionName (.table (Dict.set entries field (.text value))))
      | _ => .error .typeError

def applyEnvOverrides (raw : Table) (env : Dict String String) : Except PyError Table := do
  let raw ← overrideField env "TURTLE_EXEC_MODE" "environment" "mode" raw
  let raw ← overrideField env "TURTLE_EXEC_SIGNING_KEY_REF" "secrets" "signing_key_ref" raw
  let raw ← overrideField env "TURTLE_EXEC_TELEGRAM_BOT_TOKEN_REF" "secrets"
    "telegram_bot_token_ref" raw
  overrideField env "TURTLE_EXEC_WALLET_KEY_REF" "secrets" "wallet_key_ref" raw

abbrev Issues : Type := Except PyError (List String)

def issue (text : String) : Issues := .ok [text]

def issueIf (isIssue : Bool) (text : String) : Issues := if isIssue then issue text else .ok []

def collect : List Issues → Issues
  | [] => .ok []
  | check :: later => do
      let issues ← check
      let others ← collect later
      return issues ++ others

def inSection (raw : Table) (name : String) (check : Table → Issues) : Issues :=
  match tableAt raw name with
  | none => issue (name ++ ": section is required")
  | some entries => check entries

/-- An issue that shows the value, where the value is not what the field must be. -/
def require (builtins : Builtins) (path requirement : String) (holds : Bool)
    (value : Option Toml) : Issues :=
  if holds then .ok []
  else do
    let shown ← builtins.repr value
    issue (path ++ ": must be " ++ requirement ++ ", got " ++ shown)

def sortedText (supported : List String) : String :=
  "[" ++ String.intercalate ", " (supported.map fun name => "'" ++ name ++ "'") ++ "]"

def requireChoice (builtins : Builtins) (path note : String) (supported : List String)
    (value : Option Toml) : Issues := do
  let isKnown ← isMember value supported
  if isKnown then return []
  else
    let shown ← builtins.repr value
    issue (path ++ ": must be one of " ++ sortedText supported ++ ", got " ++ shown ++ note)

def isFraction (value : Option Toml) : Bool := (number? value).any PyNumber.isFraction

def isPositiveNumber (value : Option Toml) : Bool := (number? value).any PyNumber.isPositive

def isNonnegativeNumber (value : Option Toml) : Bool := (number? value).any PyNumber.isNonnegative

def checkEnvironment (builtins : Builtins) (environment : Table) : Issues :=
  requireChoice builtins "environment.mode" "" supportedEnvironments
    (Dict.get? environment "mode")

def validateEnvironment (builtins : Builtins) (raw : Table) : Issues :=
  inSection raw "environment" (checkEnvironment builtins)

def checkExchange (builtins : Builtins) (exchange : Table) : Issues :=
  collect [
    requireChoice builtins "exchange.name"
      (" (an exchange without an implemented, production Exchange Adapter " ++
        "must never be selectable in config)") supportedExchanges (Dict.get? exchange "name"),
    requireChoice builtins "exchange.network" "" supportedNetworks
      (Dict.get? exchange "network")]

def validateExchange (builtins : Builtins) (raw : Table) : Issues :=
  inSection raw "exchange" (checkExchange builtins)

def entries? : Option Toml → Option (List Toml)
  | some (.array []) => none
  | some (.array items) => some items
  | _ => none

def checkUniverse (builtins : Builtins) (symbolUniverse : Table) : Issues :=
  match entries? (Dict.get? symbolUniverse "symbols") with
  | none => issue "universe.symbols: must be a non-empty list of symbol strings"
  | some items =>
      match items.mapM fun item => filledText? (some item) with
      | none => issue "universe.symbols: every entry must be a non-empty string"
      | some symbols =>
          collect [
            issueIf (symbols.dedup.length != symbols.length)
              "universe.symbols: duplicate symbols are not allowed",
            issueIf (symbols.any fun symbol => symbol != builtins.upper symbol)
              "universe.symbols: symbols must be uppercase"]

def validateUniverse (builtins : Builtins) (raw : Table) : Issues :=
  inSection raw "universe" (checkUniverse builtins)

def checkHeadroom (builtins : Builtins) (path : String) (heatCap riskPct : PyNumber)
    (maxPositions : Int) : Issues :=
  match (PyNumber.int maxPositions).mul? riskPct with
  | none => .error .overflowError
  | some requiredHeadroom =>
      if heatCap.le requiredHeadroom then do
        let cap ← builtins.str heatCap
        let required ← builtins.str requiredHeadroom
        issue (path ++ ".heat_cap (" ++ cap ++ ") leaves no real headroom over " ++
          "max_positions * risk_pct_per_trade (" ++ required ++ ") -- this is the exact " ++
          "zero-headroom misconfiguration " ++
          "documented as the GROWTH profile's root-cause defect in the frozen Research " ++
          "Engine (AI_CONTEXT.md C6 summary). heat_cap must leave real headroom above " ++
          "a fully-open book.")
      else .ok []

def checkHeatCap (builtins : Builtins) (path : String) (params : Table) : Issues :=
  let riskPct := Dict.get? params "risk_pct_per_trade"
  let maxPositions := Dict.get? params "max_positions"
  let heatCap := Dict.get? params "heat_cap"
  if isFraction heatCap then
    match number? heatCap, number? riskPct, integer? maxPositions with
    | some cap, some risk, some positions =>
        if risk.isFraction && decide (1 ≤ positions) then
          checkHeadroom builtins path cap risk positions
        else .ok []
    | _, _, _ => .ok []
  else require builtins (path ++ ".heat_cap") "a number in (0, 1]" false heatCap

def checkRiskProfileParams (builtins : Builtins) (path : String) (params : Table) : Issues :=
  let riskPct := Dict.get? params "risk_pct_per_trade"
  let maxPositions := Dict.get? params "max_positions"
  let ruinThreshold := Dict.get? params "ruin_threshold"
  collect [
    require builtins (path ++ ".risk_pct_per_trade") "a number in (0, 1]" (isFraction riskPct)
      riskPct,
    require builtins (path ++ ".max_positions") "a positive integer"
      ((integer? maxPositions).any fun positions => 1 ≤ positions) maxPositions,
    requireChoice builtins (path ++ ".sizing_mode") "" supportedSizingModes
      (Dict.get? params "sizing_mode"),
    checkHeatCap builtins path params,
    require builtins (path ++ ".ruin_threshold") "a number in (0, 1)"
      ((number? ruinThreshold).any PyNumber.isInside) ruinThreshold]

def checkProfile (builtins : Builtins) (name : String) : Toml → Issues
  | .table params => checkRiskProfileParams builtins ("risk.profiles." ++ name) params
  | _ => issue ("risk.profiles." ++ name ++ ": must be a table")

def profilesOf (risk : Table) : Table := (tableAt risk "profiles").getD []

def checkSelected (risk : Table) : Issues :=
  match Dict.get? risk "profile" with
  | some (.text active) =>
      issueIf (decide (active ∈ supportedRiskProfileNames) &&
          (Dict.get? (profilesOf risk) active).isNone)
        ("risk.profile: '" ++ active ++ "' selected but risk.profiles." ++ active ++
          " is not defined")
  | _ => .ok []

def checkConfirmation (builtins : Builtins) (risk : Table) : Issues :=
  let autoFlatten := Dict.get? risk "auto_flatten_enabled"
  let confirmSeconds := Dict.get? risk "auto_flatten_confirmation_seconds"
  if isNonnegativeNumber confirmSeconds then
    issueIf (decide (boolean? autoFlatten = some true) &&
        (number? confirmSeconds).any PyNumber.isZero)
      ("risk.auto_flatten_confirmation_seconds: must be greater than 0 when " ++
        "auto_flatten_enabled is true -- auto-flatten must never fire on an " ++
        "instantaneous, unconfirmed breach (see Kill Switch: Hard Kill requires " ++
        "a sustained, confirmed trigger, never a single transient signal)")
  else
    require builtins "risk.auto_flatten_confirmation_seconds" "a non-negative number" false
      confirmSeconds

def checkRisk (builtins : Builtins) (risk : Table) : Issues :=
  let maxDailyLoss := Dict.get? risk "max_daily_loss_pct"
  let maxDrawdown := Dict.get? risk "max_drawdown_from_peak_pct"
  let autoFlatten := Dict.get? risk "auto_flatten_enabled"
  collect [
    requireChoice builtins "risk.profile" "" supportedRiskProfileNames (Dict.get? risk "profile"),
    issueIf (profilesOf risk).isEmpty
      "risk.profiles: must define at least one risk profile table",
    collect ((profilesOf risk).map fun item => checkProfile builtins item.1 item.2),
    checkSelected risk,
    require builtins "risk.max_daily_loss_pct" "a number in (0, 1]" (isFraction maxDailyLoss)
      maxDailyLoss,
    require builtins "risk.max_drawdown_from_peak_pct" "a number in (0, 1]"
      (isFraction maxDrawdown) maxDrawdown,
    require builtins "risk.auto_flatten_enabled" "a boolean" (boolean? autoFlatten).isSome
      autoFlatten,
    checkConfirmation builtins risk]

def validateRisk (builtins : Builtins) (raw : Table) : Issues :=
  inSection raw "risk" (checkRisk builtins)

def operationalMillis : List String :=
  ["clock_drift_tolerance_ms", "data_staleness_price_ms", "data_staleness_orderbook_ms",
    "data_staleness_position_ms"]

/-- The first delay is not above the greatest one, where both are delays. -/
def checkDelays (operational : Table) : Issues :=
  match number? (Dict.get? operational "retry_base_delay_seconds"),
      number? (Dict.get? operational "retry_max_delay_seconds") with
  | some baseDelay, some maxDelay =>
      issueIf (baseDelay.isPositive && maxDelay.isPositive && maxDelay.lt baseDelay)
        ("operational.retry_base_delay_seconds must not exceed " ++
          "operational.retry_max_delay_seconds")
  | _, _ => .ok []

def checkPositive (builtins : Builtins) (operational : Table) (field : String) : Issues :=
  require builtins ("operational." ++ field) "a positive number"
    (isPositiveNumber (Dict.get? operational field)) (Dict.get? operational field)

def checkOperational (builtins : Builtins) (operational : Table) : Issues :=
  let maxRetries := Dict.get? operational "max_retries"
  collect ([
    require builtins "operational.max_retries" "a non-negative integer"
      ((integer? maxRetries).any fun retries => 0 ≤ retries) maxRetries,
    checkPositive builtins operational "retry_base_delay_seconds",
    checkPositive builtins operational "retry_max_delay_seconds",
    checkDelays operational] ++
    operationalMillis.map (checkPositive builtins operational))

def validateOperational (builtins : Builtins) (raw : Table) : Issues :=
  inSection raw "operational" (checkOperational builtins)

def rawSecretIssue (field : String) : String :=
  "secrets." ++ field ++ ": value looks like raw key material, not a reference " ++
    "name. The Configuration System must only ever hold references resolved " ++
    "later by the Secrets/Signing Boundary -- never the secret itself."

def checkReference (secrets : Table) (field : String) : Issues :=
  match filledText? (Dict.get? secrets field) with
  | none => issue ("secrets." ++ field ++ ": must be a non-empty string reference")
  | some value => issueIf (looksLikeRawSecret value) (rawSecretIssue field)

def checkWalletKeyRef (secrets : Table) : Issues :=
  match Dict.get? secrets "wallet_key_ref" with
  | none => .ok []
  | some walletKeyRef =>
      match filledText? (some walletKeyRef) with
      | none => issue "secrets.wallet_key_ref: must be a non-empty string reference if provided"
      | some value => issueIf (looksLikeRawSecret value) (rawSecretIssue "wallet_key_ref")

def checkSecrets (secrets : Table) : Issues :=
  collect [checkReference secrets "signing_key_ref",
    checkReference secrets "telegram_bot_token_ref", checkWalletKeyRef secrets]

def validateSecrets (raw : Table) : Issues := inSection raw "secrets" checkSecrets

def checkTelegram (builtins : Builtins) (telegram : Table) : Issues :=
  let enabled := Dict.get? telegram "enabled"
  collect [
    require builtins "telegram.enabled" "a boolean" (boolean? enabled).isSome enabled,
    issueIf (decide (boolean? enabled = some true) &&
        (filledText? (Dict.get? telegram "chat_id")).isNone)
      "telegram.chat_id: must be a non-empty string when telegram.enabled is true"]

def validateTelegram (builtins : Builtins) (raw : Table) : Issues :=
  inSection raw "telegram" (checkTelegram builtins)

def checkLogging (builtins : Builtins) (logging : Table) : Issues :=
  collect [
    requireChoice builtins "logging.level" "" supportedLogLevels (Dict.get? logging "level"),
    issueIf (filledText? (Dict.get? logging "directory")).isNone
      "logging.directory: must be a non-empty string path"]

def validateLogging (builtins : Builtins) (raw : Table) : Issues :=
  inSection raw "logging" (checkLogging builtins)

def validate (builtins : Builtins) (raw : Table) : Issues :=
  collect [validateEnvironment builtins raw, validateExchange builtins raw,
    validateUniverse builtins raw, validateRisk builtins raw, validateOperational builtins raw,
    validateSecrets raw, validateTelegram builtins raw, validateLogging builtins raw]

def tableOf (raw : Table) (name : String) : Except PyError Table :=
  match tableAt raw name with
  | some entries => .ok entries
  | none => .error .typeError

def textOf : Option Toml → Except PyError String
  | some (.text value) => .ok value
  | _ => .error .typeError

def floatOf (value : Option Toml) : Except PyError FloatValue :=
  match number? value with
  | some number =>
      match number.float? with
      | some converted => .ok converted
      | none => .error .overflowError
  | none => .error .typeError

def intOf (value : Option Toml) : Except PyError Int :=
  match integer? value with
  | some number => .ok number
  | none => .error .typeError

def boolOf (value : Option Toml) : Except PyError Bool :=
  match boolean? value with
  | some holds => .ok holds
  | none => .error .typeError

def buildParams (params : Table) : Except PyError RiskProfileParams := do
  let riskPctPerTrade ← floatOf (Dict.get? params "risk_pct_per_trade")
  let maxPositions ← intOf (Dict.get? params "max_positions")
  let sizingMode ← textOf (Dict.get? params "sizing_mode")
  let heatCap ← floatOf (Dict.get? params "heat_cap")
  let ruinThreshold ← floatOf (Dict.get? params "ruin_threshold")
  return { riskPctPerTrade, maxPositions, sizingMode, heatCap, ruinThreshold }

def buildProfile (item : String × Toml) : Except PyError (String × RiskProfileParams) :=
  match item.2 with
  | .table params => do
      let built ← buildParams params
      return (item.1, built)
  | _ => .error .typeError

def buildExchange (exchange : Table) : Except PyError ExchangeConfig := do
  let name ← textOf (Dict.get? exchange "name")
  let network ← textOf (Dict.get? exchange "network")
  return { name, network }

def buildUniverse (symbolUniverse : Table) : Except PyError UniverseConfig := do
  match entries? (Dict.get? symbolUniverse "symbols") with
  | some items => do
      let symbols ← items.mapM fun item => textOf (some item)
      return { symbols }
  | none => .error .typeError

def buildRisk (risk : Table) : Except PyError RiskConfig := do
  let profiles ← (profilesOf risk).mapM buildProfile
  let activeProfile ← textOf (Dict.get? risk "profile")
  let maxDailyLossPct ← floatOf (Dict.get? risk "max_daily_loss_pct")
  let maxDrawdownFromPeakPct ← floatOf (Dict.get? risk "max_drawdown_from_peak_pct")
  let autoFlattenEnabled ← boolOf (Dict.get? risk "auto_flatten_enabled")
  let autoFlattenConfirmationSeconds ←
    floatOf (Dict.get? risk "auto_flatten_confirmation_seconds")
  return { activeProfile, profiles, maxDailyLossPct, maxDrawdownFromPeakPct, autoFlattenEnabled,
           autoFlattenConfirmationSeconds }

def buildOperational (operational : Table) : Except PyError OperationalConfig := do
  let maxRetries ← intOf (Dict.get? operational "max_retries")
  let retryBaseDelaySeconds ← floatOf (Dict.get? operational "retry_base_delay_seconds")
  let retryMaxDelaySeconds ← floatOf (Dict.get? operational "retry_max_delay_seconds")
  let clockDriftToleranceMs ← floatOf (Dict.get? operational "clock_drift_tolerance_ms")
  let dataStalenessPriceMs ← floatOf (Dict.get? operational "data_staleness_price_ms")
  let dataStalenessOrderbookMs ← floatOf (Dict.get? operational "data_staleness_orderbook_ms")
  let dataStalenessPositionMs ← floatOf (Dict.get? operational "data_staleness_position_ms")
  return { maxRetries, retryBaseDelaySeconds, retryMaxDelaySeconds, clockDriftToleranceMs,
           dataStalenessPriceMs, dataStalenessOrderbookMs, dataStalenessPositionMs }

def walletKeyRefOf : Option Toml → Except PyError (Option String)
  | none => .ok none
  | some value => (textOf (some value)).map some

def buildSecrets (secrets : Table) : Except PyError SecretsConfig := do
  let signingKeyRef ← textOf (Dict.get? secrets "signing_key_ref")
  let telegramBotTokenRef ← textOf (Dict.get? secrets "telegram_bot_token_ref")
  let walletKeyRef ← walletKeyRefOf (Dict.get? secrets "wallet_key_ref")
  return { signingKeyRef, telegramBotTokenRef, walletKeyRef }

def isTruthy : Toml → Bool
  | .text value => value != ""
  | .integer value => value != 0
  | .float number => number.value != .finite 0
  | .boolean value => value
  | .moment _ => true
  | .array items => !items.isEmpty
  | .table entries => !entries.isEmpty

def orEmpty : Option Toml → Toml
  | some value => if isTruthy value then value else .text ""
  | none => .text ""

def buildTelegram (telegram : Table) : Except PyError TelegramConfig := do
  let enabled ← boolOf (Dict.get? telegram "enabled")
  return { enabled, chatId := orEmpty (Dict.get? telegram "chat_id") }

def buildLogging (logging : Table) : Except PyError LoggingConfig := do
  let level ← textOf (Dict.get? logging "level")
  let directory ← textOf (Dict.get? logging "directory")
  return { level, directory }

def build (raw : Table) : Except PyError EngineConfig := do
  let environment ← textOf (Dict.get? (← tableOf raw "environment") "mode")
  let exchange ← buildExchange (← tableOf raw "exchange")
  let symbolUniverse ← buildUniverse (← tableOf raw "universe")
  let risk ← buildRisk (← tableOf raw "risk")
  let operational ← buildOperational (← tableOf raw "operational")
  let secrets ← buildSecrets (← tableOf raw "secrets")
  let telegram ← buildTelegram (← tableOf raw "telegram")
  let logging ← buildLogging (← tableOf raw "logging")
  return { environment, exchange, symbolUniverse, risk, operational, secrets, telegram, logging }

inductive LoadError
  | configValidation (issues : List String)
  | escaped (error : PyError)
  deriving DecidableEq

def loadConfig (builtins : Builtins) (raw : Table) (env : Dict String String) :
    Except LoadError EngineConfig := do
  let overridden ← (applyEnvOverrides raw env).mapError .escaped
  let issues ← (validate builtins overridden).mapError .escaped
  if issues ≠ [] then .error (.configValidation issues)
  else (build overridden).mapError .escaped

end TurtleExecution.Config
