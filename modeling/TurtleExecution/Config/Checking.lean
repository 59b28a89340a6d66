/-
The documents whose validation raises nothing.

A check raises where it looks up a choice that has no hash, where a message shows a value
that has no text, and where the risk of a full book is too large for a float.
-/

import TurtleExecution.Config.Validation

set_option autoImplicit false

namespace TurtleExecution.Config

variable {builtins : Builtins}

def EnvironmentCheckable (builtins : Builtins) (environment : Table) : Prop :=
  Selectable builtins supportedEnvironments (Dict.get? environment "mode")

structure ExchangeCheckable (builtins : Builtins) (exchange : Table) : Prop where
  name : Selectable builtins supportedExchanges (Dict.get? exchange "name")
  network : Selectable builtins supportedNetworks (Dict.get? exchange "network")

/-- The risk of a full book is a number, and a message can show it next to a cap that it
reaches. -/
def HeadroomCheckable (builtins : Builtins) (heatCap riskPct : PyNumber) (maxPositions : Int) :
    Prop :=
  ∃ required, (PyNumber.int maxPositions).mul? riskPct = some required ∧
    (heatCap.le required = true →
      (∃ cap, builtins.str heatCap = .ok cap) ∧ ∃ shown, builtins.str required = .ok shown)

/-- The headroom of a profile is checked where the other numbers are what they must be. -/
structure ProfileCheckable (builtins : Builtins) (params : Table) : Prop where
  riskPct : Displayable builtins (isFraction (Dict.get? params "risk_pct_per_trade"))
    (Dict.get? params "risk_pct_per_trade")
  maxPositions : Displayable builtins
    ((integer? (Dict.get? params "max_positions")).any fun positions => 1 ≤ positions)
    (Dict.get? params "max_positions")
  sizingMode : Selectable builtins supportedSizingModes (Dict.get? params "sizing_mode")
  heatCap : Displayable builtins (isFraction (Dict.get? params "heat_cap"))
    (Dict.get? params "heat_cap")
  ruinThreshold : Displayable builtins
    ((number? (Dict.get? params "ruin_threshold")).any PyNumber.isInside)
    (Dict.get? params "ruin_threshold")
  headroom : ∀ cap risk positions, number? (Dict.get? params "heat_cap") = some cap →
    number? (Dict.get? params "risk_pct_per_trade") = some risk →
    integer? (Dict.get? params "max_positions") = some positions →
    cap.isFraction = true → risk.isFraction = true → 1 ≤ positions →
    HeadroomCheckable builtins cap risk positions

structure RiskCheckable (builtins : Builtins) (risk : Table) : Prop where
  profile : Selectable builtins supportedRiskProfileNames (Dict.get? risk "profile")
  profiles : ∀ item ∈ profilesOf risk, ∀ params, item.2 = .table params →
    ProfileCheckable builtins params
  maxDailyLoss : Displayable builtins (isFraction (Dict.get? risk "max_daily_loss_pct"))
    (Dict.get? risk "max_daily_loss_pct")
  maxDrawdown : Displayable builtins (isFraction (Dict.get? risk "max_drawdown_from_peak_pct"))
    (Dict.get? risk "max_drawdown_from_peak_pct")
  autoFlatten : Displayable builtins (boolean? (Dict.get? risk "auto_flatten_enabled")).isSome
    (Dict.get? risk "auto_flatten_enabled")
  confirmation : Displayable builtins
    (isNonnegativeNumber (Dict.get? risk "auto_flatten_confirmation_seconds"))
    (Dict.get? risk "auto_flatten_confirmation_seconds")

structure OperationalCheckable (builtins : Builtins) (operational : Table) : Prop where
  maxRetries : Displayable builtins
    ((integer? (Dict.get? operational "max_retries")).any fun retries => 0 ≤ retries)
    (Dict.get? operational "max_retries")
  positive : ∀ field ∈ "retry_base_delay_seconds" :: "retry_max_delay_seconds" ::
    operationalMillis, Displayable builtins (isPositiveNumber (Dict.get? operational field))
      (Dict.get? operational field)

def TelegramCheckable (builtins : Builtins) (telegram : Table) : Prop :=
  Displayable builtins (boolean? (Dict.get? telegram "enabled")).isSome
    (Dict.get? telegram "enabled")

def LoggingCheckable (builtins : Builtins) (logging : Table) : Prop :=
  Selectable builtins supportedLogLevels (Dict.get? logging "level")

private theorem checkExchange_quiet {exchange : Table} :
    Quiet (checkExchange builtins exchange) ↔ ExchangeCheckable builtins exchange := by
  simp only [checkExchange, collect_quiet, List.forall_mem_cons, requireChoice_quiet]
  exact ⟨fun all => ⟨all.1, all.2.1⟩, fun checkable => ⟨checkable.name, checkable.network, by simp⟩⟩

private theorem checkUniverse_quiet {symbolUniverse : Table} :
    Quiet (checkUniverse builtins symbolUniverse) := by
  unfold checkUniverse
  split
  · exact issue_quiet
  · split
    · exact issue_quiet
    · simp only [collect_quiet, List.forall_mem_cons]
      exact ⟨issueIf_quiet, issueIf_quiet, by simp⟩

variable {path : String} {risk : Table}

private theorem checkHeadroom_quiet {heatCap riskPct : PyNumber} {maxPositions : Int} :
    Quiet (checkHeadroom builtins path heatCap riskPct maxPositions) ↔
      HeadroomCheckable builtins heatCap riskPct maxPositions := by
  unfold checkHeadroom HeadroomCheckable
  cases (PyNumber.int maxPositions).mul? riskPct with
  | none => simp [Quiet]
  | some required =>
      dsimp only
      constructor
      · rintro ⟨issues, computed⟩
        refine ⟨required, rfl, fun reaches => ?_⟩
        rw [if_pos reaches] at computed
        obtain ⟨cap, isCap, rest⟩ := ok_of_bind computed
        obtain ⟨shown, isShown, _⟩ := ok_of_bind rest
        exact ⟨⟨cap, isCap⟩, shown, isShown⟩
      · rintro ⟨_, same, texts⟩
        cases same
        split
        · rename_i reaches
          obtain ⟨⟨cap, isCap⟩, shown, isShown⟩ := texts reaches
          rw [bind_of_ok isCap, bind_of_ok isShown]
          exact issue_quiet
        · exact ⟨[], rfl⟩

/-- The cap is shown where it is no fraction, and compared where all three numbers are what
they must be. -/
theorem checkHeatCap_quiet {params : Table} :
    Quiet (checkHeatCap builtins path params) ↔
      Displayable builtins (isFraction (Dict.get? params "heat_cap"))
        (Dict.get? params "heat_cap") ∧
      ∀ cap risk positions, number? (Dict.get? params "heat_cap") = some cap →
        number? (Dict.get? params "risk_pct_per_trade") = some risk →
        integer? (Dict.get? params "max_positions") = some positions →
        cap.isFraction = true → risk.isFraction = true → 1 ≤ positions →
        HeadroomCheckable builtins cap risk positions := by
  unfold checkHeatCap
  dsimp only
  by_cases isCap : isFraction (Dict.get? params "heat_cap") = true
  · rw [if_pos isCap]
    have displayable : Displayable builtins (isFraction (Dict.get? params "heat_cap"))
        (Dict.get? params "heat_cap") := .inl isCap
    obtain ⟨cap, isHeat, capFraction⟩ := number_of_any isCap
    rw [and_iff_right displayable, isHeat]
    cases number? (Dict.get? params "risk_pct_per_trade") with
    | none => simp [Quiet]
    | some risk =>
        cases integer? (Dict.get? params "max_positions") with
        | none => simp [Quiet]
        | some positions =>
            dsimp only
            by_cases inRange : (risk.isFraction && decide (1 ≤ positions)) = true
            · rw [if_pos inRange, checkHeadroom_quiet]
              rw [Bool.and_eq_true, decide_eq_true_iff] at inRange
              constructor
              · rintro checkable _ _ _ ⟨⟩ ⟨⟩ ⟨⟩ _ _ _
                exact checkable
              · exact fun all => all cap risk positions rfl rfl rfl capFraction inRange.1 inRange.2
            · rw [if_neg inRange]
              refine ⟨fun _ => ?_, fun _ => ⟨[], rfl⟩⟩
              rintro _ _ _ ⟨⟩ ⟨⟩ ⟨⟩ _ fraction enough
              exact absurd (by simp [fraction, enough]) inRange
  · rw [if_neg isCap, require_quiet, Bool.eq_false_iff.mpr isCap]
    refine ⟨fun displayable => ⟨displayable, ?_⟩, fun both => both.1⟩
    intro cap risk positions isHeat _ _ capFraction
    rw [isFraction, isHeat] at isCap
    exact absurd capFraction isCap

private theorem checkRiskProfileParams_quiet {params : Table} :
    Quiet (checkRiskProfileParams builtins path params) ↔ ProfileCheckable builtins params := by
  simp only [checkRiskProfileParams, collect_quiet, List.forall_mem_cons, require_quiet,
    requireChoice_quiet, checkHeatCap_quiet]
  constructor
  · rintro ⟨riskPct, maxPositions, sizingMode, ⟨heatCap, headroom⟩, ruinThreshold, _⟩
    exact ⟨riskPct, maxPositions, sizingMode, heatCap, ruinThreshold, headroom⟩
  · intro checkable
    exact ⟨checkable.riskPct, checkable.maxPositions, checkable.sizingMode,
      ⟨checkable.heatCap, checkable.headroom⟩, checkable.ruinThreshold, by simp⟩

private theorem checkProfile_quiet {name : String} {profile : Toml} :
    Quiet (checkProfile builtins name profile) ↔
      ∀ params, profile = .table params → ProfileCheckable builtins params := by
  by_cases isTable : ∃ params, profile = .table params
  · obtain ⟨params, rfl⟩ := isTable
    rw [checkProfile, checkRiskProfileParams_quiet]
    constructor
    · rintro checkable _ ⟨⟩
      exact checkable
    · exact fun all => all params rfl
  · rw [checkProfile_of_not_table isTable]
    exact ⟨fun _ params same => absurd ⟨params, same⟩ isTable, fun _ => issue_quiet⟩

private theorem checkSelected_quiet : Quiet (checkSelected risk) := by
  unfold checkSelected
  split
  · exact issueIf_quiet
  · exact ⟨[], rfl⟩

private theorem checkConfirmation_quiet :
    Quiet (checkConfirmation builtins risk) ↔ Displayable builtins
      (isNonnegativeNumber (Dict.get? risk "auto_flatten_confirmation_seconds"))
      (Dict.get? risk "auto_flatten_confirmation_seconds") := by
  unfold checkConfirmation
  dsimp only
  by_cases nonnegative :
      isNonnegativeNumber (Dict.get? risk "auto_flatten_confirmation_seconds") = true
  · rw [if_pos nonnegative]
    exact ⟨fun _ => .inl nonnegative, fun _ => issueIf_quiet⟩
  · rw [if_neg nonnegative, require_quiet, Bool.eq_false_iff.mpr nonnegative]

private theorem checkRisk_quiet : Quiet (checkRisk builtins risk) ↔ RiskCheckable builtins risk := by
  simp only [checkRisk, collect_quiet, List.forall_mem_cons, List.forall_mem_map,
    requireChoice_quiet, require_quiet, checkProfile_quiet, checkConfirmation_quiet]
  constructor
  · rintro ⟨profile, _, profiles, _, daily, drawdown, autoFlatten, confirmation, _⟩
    exact ⟨profile, profiles, daily, drawdown, autoFlatten, confirmation⟩
  · intro checkable
    exact ⟨checkable.profile, issueIf_quiet, checkable.profiles, checkSelected_quiet,
      checkable.maxDailyLoss, checkable.maxDrawdown, checkable.autoFlatten,
      checkable.confirmation, by simp⟩

private theorem checkDelays_quiet {operational : Table} : Quiet (checkDelays operational) := by
  unfold checkDelays
  split
  · exact issueIf_quiet
  · exact ⟨[], rfl⟩

private theorem checkOperational_quiet {operational : Table} :
    Quiet (checkOperational builtins operational) ↔
      OperationalCheckable builtins operational := by
  simp only [checkOperational, collect_quiet, List.forall_mem_append, List.forall_mem_cons,
    List.forall_mem_map, checkPositive, require_quiet]
  constructor
  · rintro ⟨⟨maxRetries, base, greatest, _, _⟩, millis⟩
    refine ⟨maxRetries, ?_⟩
    rw [List.forall_mem_cons, List.forall_mem_cons]
    exact ⟨base, greatest, millis⟩
  · intro checkable
    have positive := checkable.positive
    rw [List.forall_mem_cons, List.forall_mem_cons] at positive
    obtain ⟨base, greatest, millis⟩ := positive
    exact ⟨⟨checkable.maxRetries, base, greatest, checkDelays_quiet, by simp⟩, millis⟩

private theorem checkSecrets_quiet {secrets : Table} : Quiet (checkSecrets secrets) := by
  have reference (field : String) : Quiet (checkReference secrets field) := by
    unfold checkReference
    split
    · exact issue_quiet
    · exact issueIf_quiet
  simp only [checkSecrets, collect_quiet, List.forall_mem_cons]
  refine ⟨reference _, reference _, ?_, by simp⟩
  unfold checkWalletKeyRef
  split
  · exact ⟨[], rfl⟩
  · split
    · exact issue_quiet
    · exact issueIf_quiet

private theorem checkTelegram_quiet {telegram : Table} :
    Quiet (checkTelegram builtins telegram) ↔ TelegramCheckable builtins telegram := by
  simp only [checkTelegram, collect_quiet, List.forall_mem_cons, require_quiet]
  exact ⟨fun all => all.1, fun checkable => ⟨checkable, issueIf_quiet, by simp⟩⟩

private theorem checkLogging_quiet {logging : Table} :
    Quiet (checkLogging builtins logging) ↔ LoggingCheckable builtins logging := by
  simp only [checkLogging, collect_quiet, List.forall_mem_cons, requireChoice_quiet]
  exact ⟨fun all => all.1, fun checkable => ⟨checkable, issueIf_quiet, by simp⟩⟩

/-- A document whose validation raises nothing; the universe and the secrets never raise. -/
structure Checkable (builtins : Builtins) (raw : Table) : Prop where
  environment : ∀ entries, tableAt raw "environment" = some entries →
    EnvironmentCheckable builtins entries
  exchange : ∀ entries, tableAt raw "exchange" = some entries →
    ExchangeCheckable builtins entries
  risk : ∀ entries, tableAt raw "risk" = some entries → RiskCheckable builtins entries
  operational : ∀ entries, tableAt raw "operational" = some entries →
    OperationalCheckable builtins entries
  telegram : ∀ entries, tableAt raw "telegram" = some entries →
    TelegramCheckable builtins entries
  logging : ∀ entries, tableAt raw "logging" = some entries → LoggingCheckable builtins entries

theorem validate_quiet {raw : Table} : Quiet (validate builtins raw) ↔ Checkable builtins raw := by
  simp only [validate, collect_quiet, List.forall_mem_cons, validateEnvironment,
    validateExchange, validateUniverse, validateRisk, validateOperational, validateSecrets,
    validateTelegram, validateLogging, inSection_quiet, checkEnvironment, requireChoice_quiet,
    checkExchange_quiet, checkRisk_quiet, checkOperational_quiet, checkTelegram_quiet,
    checkLogging_quiet]
  constructor
  · rintro ⟨environment, exchange, _, risk, operational, _, telegram, logging, _⟩
    exact ⟨environment, exchange, risk, operational, telegram, logging⟩
  · intro checkable
    exact ⟨checkable.environment, checkable.exchange, fun _ _ => checkUniverse_quiet,
      checkable.risk, checkable.operational, fun _ _ => checkSecrets_quiet, checkable.telegram,
      checkable.logging, by simp⟩

end TurtleExecution.Config
