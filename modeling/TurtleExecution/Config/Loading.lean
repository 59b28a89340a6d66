/-
Exactly when loading a parsed document ends in one of its own ways.

The overrides spread sections, the validation looks up and shows values, and the conversion
makes floats of whole numbers.  Each of the three may raise an exception of Python.
-/

import TurtleExecution.Config.Checking
import TurtleExecution.Config.Conversion

set_option autoImplicit false

namespace TurtleExecution.Config

variable {builtins : Builtins}

def CanSpread (raw : Table) (sectionName : String) : Prop :=
  Dict.get? raw sectionName = none ∨
    ∃ entries, Dict.get? raw sectionName = some (.table entries)

def withField (env : Dict String String) (name sectionName field : String) (raw : Table) : Table :=
  match Dict.get? env name with
  | none => raw
  | some value =>
      Dict.set raw sectionName
        (.table (Dict.set ((tableAt raw sectionName).getD []) field (.text value)))

variable {env : Dict String String} {raw : Table}

private theorem overrideField_ok {name sectionName field : String} {raw after : Table} :
    overrideField env name sectionName field raw = .ok after ↔
      ((Dict.get? env name).isSome = true → CanSpread raw sectionName) ∧
        after = withField env name sectionName field raw := by
  unfold overrideField withField CanSpread tableAt
  cases Dict.get? env name with
  | none => simp [eq_comm]
  | some value =>
      cases Dict.get? raw sectionName with
      | none => simp [eq_comm]
      | some known => cases known <;> simp [eq_comm]

private theorem canSpread_withField {name sectionName field other : String}
    (spreads : (Dict.get? env name).isSome = true → CanSpread raw sectionName) :
    CanSpread (withField env name sectionName field raw) other ↔ CanSpread raw other := by
  unfold withField
  cases isSet : Dict.get? env name with
  | none => exact Iff.rfl
  | some value =>
      dsimp only
      by_cases same : other = sectionName
      · subst same
        refine ⟨fun _ => spreads (by rw [isSet]; rfl), fun _ => .inr ⟨_, Dict.get?_set_self _ _ _⟩⟩
      · unfold CanSpread
        rw [Dict.get?_set_of_ne _ _ same]

def secretOverrides : List String :=
  ["TURTLE_EXEC_SIGNING_KEY_REF", "TURTLE_EXEC_TELEGRAM_BOT_TOKEN_REF",
    "TURTLE_EXEC_WALLET_KEY_REF"]

structure Spreadable (raw : Table) (env : Dict String String) : Prop where
  environment : (Dict.get? env "TURTLE_EXEC_MODE").isSome = true → CanSpread raw "environment"
  secrets : ∀ name ∈ secretOverrides, (Dict.get? env name).isSome = true →
    CanSpread raw "secrets"

def overridden (raw : Table) (env : Dict String String) : Table :=
  withField env "TURTLE_EXEC_WALLET_KEY_REF" "secrets" "wallet_key_ref"
    (withField env "TURTLE_EXEC_TELEGRAM_BOT_TOKEN_REF" "secrets" "telegram_bot_token_ref"
      (withField env "TURTLE_EXEC_SIGNING_KEY_REF" "secrets" "signing_key_ref"
        (withField env "TURTLE_EXEC_MODE" "environment" "mode" raw)))

private theorem applyEnvOverrides_ok {raw after : Table} :
    applyEnvOverrides raw env = .ok after ↔ Spreadable raw env ∧ after = overridden raw env := by
  constructor
  · intro computed
    obtain ⟨_, isMode, rest⟩ := ok_of_bind computed
    obtain ⟨_, isSigning, rest⟩ := ok_of_bind rest
    obtain ⟨_, isToken, isWallet⟩ := ok_of_bind rest
    obtain ⟨mode, rfl⟩ := overrideField_ok.mp isMode
    obtain ⟨signing, rfl⟩ := overrideField_ok.mp isSigning
    obtain ⟨token, rfl⟩ := overrideField_ok.mp isToken
    obtain ⟨wallet, rfl⟩ := overrideField_ok.mp isWallet
    rw [canSpread_withField token] at wallet
    rw [canSpread_withField signing] at token wallet
    rw [canSpread_withField mode] at signing token wallet
    refine ⟨⟨mode, ?_⟩, rfl⟩
    simp only [secretOverrides, List.forall_mem_cons]
    exact ⟨signing, token, wallet, by simp⟩
  · rintro ⟨⟨mode, secrets⟩, rfl⟩
    simp only [secretOverrides, List.forall_mem_cons] at secrets
    obtain ⟨signing, token, wallet, _⟩ := secrets
    rw [← canSpread_withField mode] at signing token wallet
    rw [← canSpread_withField signing] at token wallet
    rw [← canSpread_withField token] at wallet
    rw [applyEnvOverrides, bind_of_ok (overrideField_ok.mpr ⟨mode, rfl⟩),
      bind_of_ok (overrideField_ok.mpr ⟨signing, rfl⟩),
      bind_of_ok (overrideField_ok.mpr ⟨token, rfl⟩)]
    exact overrideField_ok.mpr ⟨wallet, rfl⟩

/-- The loading returns a documented configuration or raises a `ConfigValidationError`, and
builds what passes the validation. -/
structure LoadsInItsOwnWay (builtins : Builtins) (raw : Table) (env : Dict String String) :
    Prop where
  outcome : (∃ config, loadConfig builtins raw env = .ok config ∧ config.Documented builtins) ∨
    ∃ issues, loadConfig builtins raw env = .error (.configValidation issues)
  builds : ∀ after, applyEnvOverrides raw env = .ok after → validate builtins after = .ok [] →
    ∃ config, build after = .ok config

/-- The overrides spread tables, the checks look up and show what can be looked up and shown,
and a document without issues has no number that is too large for a float. -/
structure Loadable (builtins : Builtins) (raw : Table) (env : Dict String String) : Prop where
  spreadable : Spreadable raw env
  checkable : Checkable builtins (overridden raw env)
  convertible : Valid builtins (overridden raw env) → Convertible (overridden raw env)

private theorem loadConfig_of_quiet {raw after : Table} {issues : List String}
    (applied : applyEnvOverrides raw env = .ok after) (found : validate builtins after = .ok issues) :
    loadConfig builtins raw env =
      if issues ≠ [] then .error (.configValidation issues)
      else (build after).mapError .escaped := by
  rw [loadConfig, applied, Except.mapError, bind_of_ok rfl, found, Except.mapError, bind_of_ok rfl]

private theorem quiet_of_outcome
    (outcome : (∃ config, loadConfig builtins raw env = .ok config) ∨
      ∃ issues, loadConfig builtins raw env = .error (.configValidation issues)) :
    ∃ after issues, applyEnvOverrides raw env = .ok after ∧
      validate builtins after = .ok issues := by
  cases applied : applyEnvOverrides raw env with
  | error error =>
      rw [loadConfig, applied] at outcome
      rcases outcome with ⟨_, impossible⟩ | ⟨_, impossible⟩
      · cases impossible
      · cases impossible
  | ok after =>
      cases found : validate builtins after with
      | ok issues => exact ⟨after, issues, rfl, found⟩
      | error error =>
          rw [loadConfig, applied, Except.mapError, bind_of_ok rfl, found] at outcome
          rcases outcome with ⟨_, impossible⟩ | ⟨_, impossible⟩
          · cases impossible
          · cases impossible

theorem loadsInItsOwnWay_iff (builtins : Builtins) (raw : Table) (env : Dict String String) :
    LoadsInItsOwnWay builtins raw env ↔ Loadable builtins raw env := by
  constructor
  · intro ownWay
    obtain ⟨after, issues, applied, found⟩ :=
      quiet_of_outcome (ownWay.outcome.imp_left fun ⟨config, loaded, _⟩ => ⟨config, loaded⟩)
    obtain ⟨spreadable, rfl⟩ := applyEnvOverrides_ok.mp applied
    refine ⟨spreadable, validate_quiet.mp ⟨issues, found⟩, fun valid => ?_⟩
    obtain ⟨config, built⟩ := ownWay.builds _ applied (validate_eq_nil.mpr valid)
    exact convertible_of_build built
  · intro loadable
    have applied := applyEnvOverrides_ok.mpr ⟨loadable.spreadable, rfl⟩
    have built (noIssues : validate builtins (overridden raw env) = .ok []) :
        ∃ config, build (overridden raw env) = .ok config ∧ config.Documented builtins :=
      build_ok (validate_eq_nil.mp noIssues) (loadable.convertible (validate_eq_nil.mp noIssues))
    constructor
    · obtain ⟨issues, found⟩ := validate_quiet.mpr loadable.checkable
      rw [loadConfig_of_quiet applied found]
      by_cases noIssues : issues = []
      · subst noIssues
        obtain ⟨config, isConfig, documented⟩ := built found
        refine .inl ⟨config, ?_, documented⟩
        rw [if_neg (by simp), isConfig]
        rfl
      · exact .inr ⟨issues, if_pos noIssues⟩
    · intro after isAfter noIssues
      obtain ⟨_, rfl⟩ := applyEnvOverrides_ok.mp isAfter
      obtain ⟨config, isConfig, _⟩ := built noIssues
      exact ⟨config, isConfig⟩

def raised? {Value : Type} : Except LoadError Value → Option LoadError
  | .error error => some error
  | .ok _ => none

private theorem not_loadsInItsOwnWay {error : PyError}
    (escapes : raised? (loadConfig builtins raw env) = some (.escaped error)) :
    ¬LoadsInItsOwnWay builtins raw env := by
  intro ownWay
  rcases ownWay.outcome with ⟨config, loaded, _⟩ | ⟨issues, raised⟩
  · rw [loaded] at escapes
    cases escapes
  · rw [raised] at escapes
    cases escapes

def plainBuiltins : Builtins where
  repr _ := .ok ""
  str _ := .ok ""
  upper text := String.ofList (text.toList.map Char.toUpper)

def half : Toml := .float ⟨.finite (1 / 2), by decide +kernel⟩

def document (mode maxDelay : Toml) : Table := [
  ("environment", .table [("mode", mode)]),
  ("exchange", .table [("name", .text "hyperliquid"), ("network", .text "testnet")]),
  ("universe", .table [("symbols", .array [.text "BTC"])]),
  ("risk", .table [
    ("profile", .text "BALANCED"),
    ("profiles", .table [("BALANCED", .table [("risk_pct_per_trade", half),
      ("max_positions", .integer 1), ("sizing_mode", .text "fixed"), ("heat_cap", .integer 1),
      ("ruin_threshold", half)])]),
    ("max_daily_loss_pct", half), ("max_drawdown_from_peak_pct", half),
    ("auto_flatten_enabled", .boolean true),
    ("auto_flatten_confirmation_seconds", .integer 30)]),
  ("operational", .table [("max_retries", .integer 3), ("retry_base_delay_seconds", half),
    ("retry_max_delay_seconds", maxDelay), ("clock_drift_tolerance_ms", .integer 500),
    ("data_staleness_price_ms", .integer 5000), ("data_staleness_orderbook_ms", .integer 5000),
    ("data_staleness_position_ms", .integer 5000)]),
  ("secrets", .table [("signing_key_ref", .text "SIGNING_KEY"),
    ("telegram_bot_token_ref", .text "BOT_TOKEN")]),
  ("telegram", .table [("enabled", .boolean false)]),
  ("logging", .table [("level", .text "INFO"), ("directory", .text "logs")])]

/-- A list has no hash, a number cannot be spread, and a delay of four hundred digits passes the
validation but is too large for a float. -/
theorem document_escapes :
    (raised? (loadConfig plainBuiltins (document (.array []) (.integer 30)) []) =
        some (.escaped .typeError) ∧
      ¬LoadsInItsOwnWay plainBuiltins (document (.array []) (.integer 30)) []) ∧
    (raised? (loadConfig plainBuiltins [("environment", .integer 1)]
        [("TURTLE_EXEC_MODE", "paper")]) = some (.escaped .typeError) ∧
      ¬LoadsInItsOwnWay plainBuiltins [("environment", .integer 1)]
        [("TURTLE_EXEC_MODE", "paper")]) ∧
    validate plainBuiltins (document (.text "paper") (.integer (10 ^ 400))) = .ok [] ∧
    raised? (loadConfig plainBuiltins (document (.text "paper") (.integer (10 ^ 400))) []) =
        some (.escaped .overflowError) ∧
    ¬LoadsInItsOwnWay plainBuiltins (document (.text "paper") (.integer (10 ^ 400))) [] := by
  have lookup : raised? (loadConfig plainBuiltins (document (.array []) (.integer 30)) []) =
      some (.escaped .typeError) := by decide +kernel
  have spread : raised? (loadConfig plainBuiltins [("environment", .integer 1)]
      [("TURTLE_EXEC_MODE", "paper")]) = some (.escaped .typeError) := by decide +kernel
  have tooLarge : raised? (loadConfig plainBuiltins
      (document (.text "paper") (.integer (10 ^ 400))) []) =
      some (.escaped .overflowError) := by decide +kernel
  exact ⟨⟨lookup, not_loadsInItsOwnWay lookup⟩, ⟨spread, not_loadsInItsOwnWay spread⟩,
    by decide +kernel, tooLarge, not_loadsInItsOwnWay tooLarge⟩

end TurtleExecution.Config
