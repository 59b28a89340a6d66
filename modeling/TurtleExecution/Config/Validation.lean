/-
The documents in which the validation finds no issue.
-/

import TurtleExecution.Config.Loader

set_option autoImplicit false

namespace TurtleExecution.Config

variable {builtins : Builtins}

def Quiet (check : Issues) : Prop := ∃ issues, check = .ok issues

def Printable (builtins : Builtins) (value : Option Toml) : Prop :=
  ∃ shown, builtins.repr value = .ok shown

def Hashable (value : Option Toml) : Prop :=
  (∀ items, value ≠ some (.array items)) ∧ ∀ entries, value ≠ some (.table entries)

def IsChoice (supported : List String) (value : Option Toml) : Prop :=
  ∃ text ∈ supported, value = some (.text text)

def Displayable (builtins : Builtins) (holds : Bool) (value : Option Toml) : Prop :=
  holds = true ∨ Printable builtins value

/-- The value can be looked up, and it is a choice or it can be shown. -/
def Selectable (builtins : Builtins) (supported : List String) (value : Option Toml) : Prop :=
  Hashable value ∧ (IsChoice supported value ∨ Printable builtins value)

private theorem collect_eq_nil {checks : List Issues} :
    collect checks = .ok [] ↔ ∀ check ∈ checks, check = .ok [] := by
  induction checks with
  | nil => simp [collect]
  | cons check later ih =>
      rw [collect, List.forall_mem_cons, ← ih]
      constructor
      · intro computed
        obtain ⟨issues, isCheck, rest⟩ := ok_of_bind computed
        obtain ⟨others, isLater, same⟩ := ok_of_bind rest
        obtain ⟨rfl, rfl⟩ := List.append_eq_nil_iff.mp (Except.ok.inj same)
        exact ⟨isCheck, isLater⟩
      · intro both
        rw [bind_of_ok both.1, bind_of_ok both.2]
        rfl

theorem collect_quiet {checks : List Issues} :
    Quiet (collect checks) ↔ ∀ check ∈ checks, Quiet check := by
  induction checks with
  | nil => simp [collect, Quiet]
  | cons check later ih =>
      rw [List.forall_mem_cons, ← ih]
      constructor
      · rintro ⟨all, computed⟩
        rw [collect] at computed
        obtain ⟨issues, isCheck, rest⟩ := ok_of_bind computed
        obtain ⟨others, isLater, _⟩ := ok_of_bind rest
        exact ⟨⟨issues, isCheck⟩, others, isLater⟩
      · rintro ⟨⟨issues, isCheck⟩, others, isLater⟩
        refine ⟨issues ++ others, ?_⟩
        rw [collect, bind_of_ok isCheck, bind_of_ok isLater]
        rfl

variable {value : Option Toml} {text : String}

private theorem issue_ne_nil : issue text ≠ .ok [] := by
  intro impossible
  cases impossible

theorem issue_quiet : Quiet (issue text) := ⟨[text], rfl⟩

private theorem issueIf_eq_nil {isIssue : Bool} : issueIf isIssue text = .ok
    [] ↔ isIssue = false := by
  cases isIssue with
  | false => exact ⟨fun _ => rfl, fun _ => rfl⟩
  | true => exact ⟨fun impossible => absurd impossible issue_ne_nil, fun impossible => by
      cases impossible⟩

theorem issueIf_quiet {isIssue : Bool} : Quiet (issueIf isIssue text) := by
  cases isIssue with
  | false => exact ⟨[], rfl⟩
  | true => exact issue_quiet

private theorem require_eq_nil {path requirement : String} {holds : Bool} :
    require builtins path requirement holds value = .ok [] ↔ holds = true := by
  cases holds with
  | true => exact ⟨fun _ => rfl, fun _ => rfl⟩
  | false =>
      constructor
      · intro computed
        obtain ⟨shown, _, impossible⟩ := ok_of_bind computed
        exact absurd impossible issue_ne_nil
      · intro impossible
        cases impossible

theorem require_quiet {path requirement : String} {holds : Bool} :
    Quiet (require builtins path requirement holds value) ↔ Displayable builtins holds value := by
  cases holds with
  | true => exact ⟨fun _ => .inl rfl, fun _ => ⟨[], rfl⟩⟩
  | false =>
      constructor
      · rintro ⟨issues, computed⟩
        obtain ⟨shown, isShown, _⟩ := ok_of_bind computed
        exact .inr ⟨shown, isShown⟩
      · rintro (impossible | ⟨shown, isShown⟩)
        · cases impossible
        · change Quiet (builtins.repr value >>= _)
          rw [bind_of_ok isShown]
          exact issue_quiet

private theorem isMember_cases (value : Option Toml) (supported : List String) :
    (isMember value supported = .error .typeError ∧ ¬Hashable value) ∨
      (isMember value supported = .ok true ∧ IsChoice supported value ∧ Hashable value) ∨
        isMember value supported = .ok false ∧ ¬IsChoice supported value ∧ Hashable value := by
  unfold isMember
  split
  · rename_i text
    have hashable : Hashable (some (.text text)) := by simp [Hashable]
    by_cases isSupported : text ∈ supported
    · refine .inr (.inl ⟨?_, ⟨text, isSupported, rfl⟩, hashable⟩)
      rw [decide_eq_true isSupported]
    · refine .inr (.inr ⟨?_, ?_, hashable⟩)
      · rw [decide_eq_false isSupported]
      · rintro ⟨_, member, same⟩
        cases same
        exact isSupported member
  · rename_i items
    exact .inl ⟨rfl, fun hashable => hashable.1 items rfl⟩
  · rename_i entries
    exact .inl ⟨rfl, fun hashable => hashable.2 entries rfl⟩
  · rename_i noText noArray noTable
    refine .inr (.inr ⟨rfl, ?_, noArray, noTable⟩)
    rintro ⟨text, _, isText⟩
    exact noText text isText

private theorem requireChoice_eq_nil {path note : String} {supported : List String} :
    requireChoice builtins path note supported value = .ok [] ↔ IsChoice supported value := by
  unfold requireChoice
  rcases isMember_cases value supported with ⟨raised, notHashable⟩ | ⟨found, isChoice, _⟩ |
    ⟨missed, notChoice, _⟩
  · rw [raised]
    constructor
    · intro impossible
      cases impossible
    · rintro ⟨text, _, rfl⟩
      exact absurd (by simp [Hashable]) notHashable
  · rw [bind_of_ok found]
    exact ⟨fun _ => isChoice, fun _ => rfl⟩
  · rw [bind_of_ok missed]
    constructor
    · intro computed
      obtain ⟨shown, _, impossible⟩ := ok_of_bind computed
      exact absurd impossible issue_ne_nil
    · exact fun isChoice => absurd isChoice notChoice

theorem requireChoice_quiet {path note : String} {supported : List String} :
    Quiet (requireChoice builtins path note supported value) ↔
      Selectable builtins supported value := by
  unfold requireChoice Selectable
  rcases isMember_cases value supported with ⟨raised, notHashable⟩ | ⟨found, isChoice, hashable⟩ |
    ⟨missed, notChoice, hashable⟩
  · rw [raised]
    constructor
    · rintro ⟨issues, impossible⟩
      cases impossible
    · exact fun both => absurd both.1 notHashable
  · rw [bind_of_ok found]
    exact ⟨fun _ => ⟨hashable, .inl isChoice⟩, fun _ => ⟨[], rfl⟩⟩
  · rw [bind_of_ok missed]
    constructor
    · rintro ⟨issues, computed⟩
      obtain ⟨shown, isShown, _⟩ := ok_of_bind computed
      exact ⟨hashable, .inr ⟨shown, isShown⟩⟩
    · rintro ⟨_, isChoice | ⟨shown, isShown⟩⟩
      · exact absurd isChoice notChoice
      · change Quiet (builtins.repr value >>= _)
        rw [bind_of_ok isShown]
        exact issue_quiet

variable {secrets : Table} {risk : Table} {raw : Table}

variable {value : Option Toml} {name : String}

private theorem inSection_eq_nil {check : Table → Issues} :
    inSection raw name check = .ok [] ↔
      ∃ entries, tableAt raw name = some entries ∧ check entries = .ok [] := by
  unfold inSection
  cases tableAt raw name with
  | none => simp [issue]
  | some entries => simp

theorem inSection_quiet {check : Table → Issues} :
    Quiet (inSection raw name check) ↔
      ∀ entries, tableAt raw name = some entries → Quiet (check entries) := by
  unfold inSection
  cases tableAt raw name with
  | none => simp [issue_quiet]
  | some entries => simp

def EnvironmentValid (environment : Table) : Prop :=
  IsChoice supportedEnvironments (Dict.get? environment "mode")

structure ExchangeValid (exchange : Table) : Prop where
  name : IsChoice supportedExchanges (Dict.get? exchange "name")
  network : IsChoice supportedNetworks (Dict.get? exchange "network")

/-- The symbols are different texts in upper case, and there is one. -/
def UniverseValid (builtins : Builtins) (symbolUniverse : Table) : Prop :=
  ∃ items symbols, entries? (Dict.get? symbolUniverse "symbols") = some items ∧
    (items.mapM fun item => filledText? (some item)) = some symbols ∧ symbols.Nodup ∧
    ∀ symbol ∈ symbols, symbol = builtins.upper symbol

def HasHeadroom (heatCap riskPct : PyNumber) (maxPositions : Int) : Prop :=
  ∃ required, (PyNumber.int maxPositions).mul? riskPct = some required ∧
    heatCap.le required = false

structure ProfileValid (params : Table) : Prop where
  riskPct : isFraction (Dict.get? params "risk_pct_per_trade") = true
  maxPositions : ∃ positions, integer? (Dict.get? params "max_positions") = some positions ∧
    1 ≤ positions
  sizingMode : IsChoice supportedSizingModes (Dict.get? params "sizing_mode")
  heatCap : isFraction (Dict.get? params "heat_cap") = true
  ruinThreshold : (number? (Dict.get? params "ruin_threshold")).any PyNumber.isInside = true
  headroom : ∀ cap risk positions, number? (Dict.get? params "heat_cap") = some cap →
    number? (Dict.get? params "risk_pct_per_trade") = some risk →
    integer? (Dict.get? params "max_positions") = some positions → HasHeadroom cap risk positions

structure RiskValid (risk : Table) : Prop where
  profile : IsChoice supportedRiskProfileNames (Dict.get? risk "profile")
  nonempty : profilesOf risk ≠ []
  profiles : ∀ item ∈ profilesOf risk, ∃ params, item.2 = .table params ∧ ProfileValid params
  selected : ∀ active, Dict.get? risk "profile" = some (.text active) →
    (Dict.get? (profilesOf risk) active).isSome = true
  maxDailyLoss : isFraction (Dict.get? risk "max_daily_loss_pct") = true
  maxDrawdown : isFraction (Dict.get? risk "max_drawdown_from_peak_pct") = true
  autoFlatten : (boolean? (Dict.get? risk "auto_flatten_enabled")).isSome = true
  confirmation :
    isNonnegativeNumber (Dict.get? risk "auto_flatten_confirmation_seconds") = true
  sustained : boolean? (Dict.get? risk "auto_flatten_enabled") = some true →
    (number? (Dict.get? risk "auto_flatten_confirmation_seconds")).any PyNumber.isZero = false

structure OperationalValid (operational : Table) : Prop where
  maxRetries : ∃ retries, integer? (Dict.get? operational "max_retries") = some retries ∧
    0 ≤ retries
  positive : ∀ field ∈ "retry_base_delay_seconds" :: "retry_max_delay_seconds" ::
    operationalMillis, isPositiveNumber (Dict.get? operational field) = true
  ordered : ∀ baseDelay maxDelay,
    number? (Dict.get? operational "retry_base_delay_seconds") = some baseDelay →
    number? (Dict.get? operational "retry_max_delay_seconds") = some maxDelay →
    maxDelay.lt baseDelay = false

def ReferenceValid (value : Option Toml) : Prop :=
  ∃ reference, value = some (.text reference) ∧ IsReference reference

structure SecretsValid (secrets : Table) : Prop where
  signingKeyRef : ReferenceValid (Dict.get? secrets "signing_key_ref")
  telegramBotTokenRef : ReferenceValid (Dict.get? secrets "telegram_bot_token_ref")
  walletKeyRef : Dict.get? secrets "wallet_key_ref" = none ∨
    ReferenceValid (Dict.get? secrets "wallet_key_ref")

structure TelegramValid (telegram : Table) : Prop where
  enabled : (boolean? (Dict.get? telegram "enabled")).isSome = true
  chatId : boolean? (Dict.get? telegram "enabled") = some true →
    (filledText? (Dict.get? telegram "chat_id")).isSome = true

structure LoggingValid (logging : Table) : Prop where
  level : IsChoice supportedLogLevels (Dict.get? logging "level")
  directory : (filledText? (Dict.get? logging "directory")).isSome = true

private theorem checkExchange_eq_nil {exchange : Table} :
    checkExchange builtins exchange = .ok [] ↔ ExchangeValid exchange := by
  simp only [checkExchange, collect_eq_nil, List.forall_mem_cons, requireChoice_eq_nil]
  exact ⟨fun all => ⟨all.1, all.2.1⟩, fun valid => ⟨valid.name, valid.network, by simp⟩⟩

private theorem checkUniverse_eq_nil {symbolUniverse : Table} :
    checkUniverse builtins symbolUniverse = .ok [] ↔ UniverseValid builtins symbolUniverse := by
  unfold checkUniverse UniverseValid
  cases isEntries : entries? (Dict.get? symbolUniverse "symbols") with
  | none => simp [issue]
  | some items =>
      cases areTexts : items.mapM fun item => filledText? (some item) with
      | none => simp [issue, areTexts]
      | some symbols =>
          dsimp only
          rw [areTexts]
          simp only [collect_eq_nil, List.forall_mem_cons, issueIf_eq_nil, bne_eq_false_iff_eq,
            List.any_eq_false, bne_iff_ne, ne_eq, not_not, Option.some.injEq]
          have distinct : symbols.dedup.length = symbols.length ↔ symbols.Nodup := by
            rw [← List.dedup_eq_self]
            exact ⟨(List.dedup_sublist symbols).eq_of_length, fun same => by rw [same]⟩
          rw [distinct]
          constructor
          · exact fun all => ⟨items, symbols, rfl, areTexts, all.1, all.2.1⟩
          · rintro ⟨_, others, rfl, same, isDistinct, uppercase⟩
            rw [areTexts] at same
            cases same
            exact ⟨isDistinct, uppercase, by simp⟩

private theorem checkHeadroom_eq_nil {path : String} {heatCap riskPct : PyNumber}
    {maxPositions : Int} :
    checkHeadroom builtins path heatCap riskPct maxPositions = .ok [] ↔
      HasHeadroom heatCap riskPct maxPositions := by
  unfold checkHeadroom HasHeadroom
  cases (PyNumber.int maxPositions).mul? riskPct with
  | none => simp
  | some required =>
      dsimp only
      constructor
      · intro computed
        refine ⟨required, rfl, ?_⟩
        by_contra reaches
        rw [Bool.not_eq_false] at reaches
        rw [if_pos reaches] at computed
        obtain ⟨cap, _, rest⟩ := ok_of_bind computed
        obtain ⟨shown, _, impossible⟩ := ok_of_bind rest
        exact issue_ne_nil impossible
      · rintro ⟨_, same, below⟩
        cases same
        rw [below]
        rfl

theorem number_of_any {holds : PyNumber → Bool} (isNumber : (number? value).any holds = true) :
    ∃ number, number? value = some number ∧ holds number = true := by
  cases found : number? value with
  | none =>
      rw [found] at isNumber
      cases isNumber
  | some number =>
      rw [found] at isNumber
      exact ⟨number, rfl, isNumber⟩

private theorem checkRiskProfileParams_eq_nil {path : String} {params : Table} :
    checkRiskProfileParams builtins path params = .ok [] ↔ ProfileValid params := by
  have positive : (integer? (Dict.get? params "max_positions")).any
      (fun positions => decide (1 ≤ positions)) = true ↔
      ∃ positions, integer? (Dict.get? params "max_positions") = some positions ∧
        1 ≤ positions := by
    simp [Option.any_eq_true]
  simp only [checkRiskProfileParams, collect_eq_nil, List.forall_mem_cons, require_eq_nil,
    requireChoice_eq_nil, positive]
  constructor
  · rintro ⟨riskPct, maxPositions, sizingMode, heat, ruinThreshold, _⟩
    unfold checkHeatCap at heat
    have isCap : isFraction (Dict.get? params "heat_cap") = true := by
      by_contra noFraction
      rw [if_neg noFraction, require_eq_nil] at heat
      cases heat
    refine ⟨riskPct, maxPositions, sizingMode, isCap, ruinThreshold, ?_⟩
    intro cap risk positions isHeat isRisk arePositions
    obtain ⟨_, samePositions, enough⟩ := maxPositions
    obtain ⟨_, sameRisk, fraction⟩ := number_of_any riskPct
    rw [arePositions] at samePositions
    rw [isRisk] at sameRisk
    cases samePositions
    cases sameRisk
    rw [if_pos isCap, isHeat, isRisk, arePositions] at heat
    simp only [fraction, enough, decide_true, Bool.and_self, if_true] at heat
    exact checkHeadroom_eq_nil.mp heat
  · intro valid
    refine ⟨valid.riskPct, valid.maxPositions, valid.sizingMode, ?_, valid.ruinThreshold, by simp⟩
    obtain ⟨positions, arePositions, enough⟩ := valid.maxPositions
    obtain ⟨risk, isRisk, fraction⟩ := number_of_any valid.riskPct
    obtain ⟨cap, isHeat, _⟩ := number_of_any valid.heatCap
    unfold checkHeatCap
    rw [if_pos valid.heatCap, isHeat, isRisk, arePositions]
    simp only [fraction, enough, decide_true, Bool.and_self, if_true]
    exact checkHeadroom_eq_nil.mpr (valid.headroom cap risk positions isHeat isRisk arePositions)

theorem checkProfile_of_not_table {profile : Toml} (notTable : ¬∃ params, profile = .table params) :
    checkProfile builtins name profile = issue ("risk.profiles." ++ name ++ ": must be a table") := by
  unfold checkProfile
  split
  · rename_i params
    exact absurd ⟨params, rfl⟩ notTable
  · rfl

private theorem checkProfile_eq_nil {profile : Toml} :
    checkProfile builtins name profile = .ok [] ↔
      ∃ params, profile = .table params ∧ ProfileValid params := by
  constructor
  · intro computed
    by_cases isTable : ∃ params, profile = .table params
    · obtain ⟨params, rfl⟩ := isTable
      exact ⟨params, rfl, checkRiskProfileParams_eq_nil.mp computed⟩
    · rw [checkProfile_of_not_table isTable] at computed
      exact absurd computed issue_ne_nil
  · rintro ⟨params, rfl, valid⟩
    exact checkRiskProfileParams_eq_nil.mpr valid

private theorem checkSelected_eq_nil
    (isChoice : IsChoice supportedRiskProfileNames (Dict.get? risk "profile")) :
    checkSelected risk = .ok [] ↔ ∀ active, Dict.get? risk "profile" = some (.text active) →
      (Dict.get? (profilesOf risk) active).isSome = true := by
  obtain ⟨active, isSupported, isActive⟩ := isChoice
  unfold checkSelected
  rw [isActive]
  simp only [issueIf_eq_nil, isSupported, decide_true, Bool.true_and, Option.isNone_eq_false_iff,
    Option.some.injEq, Toml.text.injEq, forall_eq']

private theorem checkConfirmation_eq_nil :
    checkConfirmation builtins risk = .ok [] ↔
      isNonnegativeNumber (Dict.get? risk "auto_flatten_confirmation_seconds") = true ∧
        (boolean? (Dict.get? risk "auto_flatten_enabled") = some true →
          (number? (Dict.get? risk "auto_flatten_confirmation_seconds")).any PyNumber.isZero =
            false) := by
  unfold checkConfirmation
  dsimp only
  by_cases nonnegative :
      isNonnegativeNumber (Dict.get? risk "auto_flatten_confirmation_seconds") = true
  · rw [if_pos nonnegative, issueIf_eq_nil, Bool.and_eq_false_imp, decide_eq_true_iff]
    exact ⟨fun sustained => ⟨nonnegative, sustained⟩, fun both => both.2⟩
  · rw [if_neg nonnegative, require_eq_nil]
    exact ⟨fun impossible => (by cases impossible), fun both => absurd both.1 nonnegative⟩

private theorem checkRisk_eq_nil : checkRisk builtins risk = .ok [] ↔ RiskValid risk := by
  simp only [checkRisk, collect_eq_nil, List.forall_mem_cons, List.forall_mem_map,
    requireChoice_eq_nil, require_eq_nil, issueIf_eq_nil, checkProfile_eq_nil,
    checkConfirmation_eq_nil, List.isEmpty_eq_false_iff]
  constructor
  · rintro ⟨profile, nonempty, profiles, selected, daily, drawdown, autoFlatten, confirmation, _⟩
    exact ⟨profile, nonempty, profiles, (checkSelected_eq_nil profile).mp selected, daily,
      drawdown, autoFlatten, confirmation.1, confirmation.2⟩
  · intro valid
    exact ⟨valid.profile, valid.nonempty, valid.profiles,
      (checkSelected_eq_nil valid.profile).mpr valid.selected, valid.maxDailyLoss,
      valid.maxDrawdown, valid.autoFlatten, ⟨valid.confirmation, valid.sustained⟩, by simp⟩

private theorem checkDelays_eq_nil {operational : Table}
    (base : isPositiveNumber (Dict.get? operational "retry_base_delay_seconds") = true)
    (greatest : isPositiveNumber (Dict.get? operational "retry_max_delay_seconds") = true) :
    checkDelays operational = .ok [] ↔ ∀ baseDelay maxDelay,
      number? (Dict.get? operational "retry_base_delay_seconds") = some baseDelay →
      number? (Dict.get? operational "retry_max_delay_seconds") = some maxDelay →
      maxDelay.lt baseDelay = false := by
  obtain ⟨baseDelay, isBase, basePositive⟩ := number_of_any base
  obtain ⟨maxDelay, isMax, maxPositive⟩ := number_of_any greatest
  unfold checkDelays
  rw [isBase, isMax]
  simp only [issueIf_eq_nil, basePositive, maxPositive, Bool.true_and, Option.some.injEq]
  constructor
  · rintro ordered _ _ rfl rfl
    exact ordered
  · exact fun ordered => ordered baseDelay maxDelay rfl rfl

private theorem checkOperational_eq_nil {operational : Table} :
    checkOperational builtins operational = .ok [] ↔ OperationalValid operational := by
  have retries : (integer? (Dict.get? operational "max_retries")).any
      (fun retries => decide (0 ≤ retries)) = true ↔
      ∃ retries, integer? (Dict.get? operational "max_retries") = some retries ∧ 0 ≤ retries := by
    simp [Option.any_eq_true]
  simp only [checkOperational, collect_eq_nil, List.forall_mem_append, List.forall_mem_cons,
    List.forall_mem_map, checkPositive, require_eq_nil, retries]
  constructor
  · rintro ⟨⟨maxRetries, base, greatest, delays, _⟩, millis⟩
    refine ⟨maxRetries, ?_, (checkDelays_eq_nil base greatest).mp delays⟩
    rw [List.forall_mem_cons, List.forall_mem_cons]
    exact ⟨base, greatest, millis⟩
  · intro valid
    have positive := valid.positive
    rw [List.forall_mem_cons, List.forall_mem_cons] at positive
    obtain ⟨base, greatest, millis⟩ := positive
    exact ⟨⟨valid.maxRetries, base, greatest, (checkDelays_eq_nil base greatest).mpr valid.ordered,
      by simp⟩, millis⟩

theorem filledText_some {text : String} :
    filledText? value = some text ↔ value = some (.text text) ∧ PyText.isBlank text = false := by
  constructor
  · intro filled
    unfold filledText? at filled
    split at filled
    · split at filled
      · cases filled
      · rename_i notBlank
        cases filled
        exact ⟨rfl, Bool.eq_false_iff.mpr notBlank⟩
    · cases filled
  · rintro ⟨rfl, notBlank⟩
    rw [filledText?, notBlank]
    rfl

private theorem referenceValid_of_filled {text issueText : String}
    (filled : filledText? value = some text) :
    issueIf (looksLikeRawSecret text) issueText = .ok [] ↔ ReferenceValid value := by
  obtain ⟨rfl, notBlank⟩ := filledText_some.mp filled
  rw [issueIf_eq_nil]
  constructor
  · exact fun notRaw => ⟨text, rfl, notBlank, notRaw⟩
  · rintro ⟨_, same, _, notRaw⟩
    cases same
    exact notRaw

private theorem not_referenceValid (notFilled : filledText? value = none) :
    ¬ReferenceValid value := by
  rintro ⟨text, isText, notBlank, _⟩
  rw [filledText_some.mpr ⟨isText, notBlank⟩] at notFilled
  cases notFilled

private theorem checkReference_eq_nil {field : String} :
    checkReference secrets field = .ok [] ↔ ReferenceValid (Dict.get? secrets field) := by
  unfold checkReference
  cases filled : filledText? (Dict.get? secrets field) with
  | none =>
      exact ⟨fun impossible => absurd impossible issue_ne_nil,
        fun valid => absurd valid (not_referenceValid filled)⟩
  | some text => exact referenceValid_of_filled filled

private theorem checkWalletKeyRef_eq_nil :
    checkWalletKeyRef secrets = .ok [] ↔ Dict.get? secrets "wallet_key_ref" = none ∨
      ReferenceValid (Dict.get? secrets "wallet_key_ref") := by
  unfold checkWalletKeyRef
  cases Dict.get? secrets "wallet_key_ref" with
  | none => simp
  | some value =>
      dsimp only
      rw [or_iff_right (by simp)]
      cases filled : filledText? (some value) with
      | none =>
          exact ⟨fun impossible => absurd impossible issue_ne_nil,
            fun valid => absurd valid (not_referenceValid filled)⟩
      | some text => exact referenceValid_of_filled filled

private theorem checkSecrets_eq_nil : checkSecrets secrets = .ok [] ↔ SecretsValid secrets := by
  simp only [checkSecrets, collect_eq_nil, List.forall_mem_cons, checkReference_eq_nil,
    checkWalletKeyRef_eq_nil]
  exact ⟨fun all => ⟨all.1, all.2.1, all.2.2.1⟩,
    fun valid => ⟨valid.signingKeyRef, valid.telegramBotTokenRef, valid.walletKeyRef, by simp⟩⟩

private theorem checkTelegram_eq_nil {telegram : Table} :
    checkTelegram builtins telegram = .ok [] ↔ TelegramValid telegram := by
  simp only [checkTelegram, collect_eq_nil, List.forall_mem_cons, require_eq_nil, issueIf_eq_nil,
    Bool.and_eq_false_imp, decide_eq_true_iff, Option.isNone_eq_false_iff]
  exact ⟨fun all => ⟨all.1, all.2.1⟩, fun valid => ⟨valid.enabled, valid.chatId, by simp⟩⟩

private theorem checkLogging_eq_nil {logging : Table} :
    checkLogging builtins logging = .ok [] ↔ LoggingValid logging := by
  simp only [checkLogging, collect_eq_nil, List.forall_mem_cons, requireChoice_eq_nil,
    issueIf_eq_nil, Option.isNone_eq_false_iff]
  exact ⟨fun all => ⟨all.1, all.2.1⟩, fun valid => ⟨valid.level, valid.directory, by simp⟩⟩

structure Valid (builtins : Builtins) (raw : Table) : Prop where
  environment : ∃ entries, tableAt raw "environment" = some entries ∧ EnvironmentValid entries
  exchange : ∃ entries, tableAt raw "exchange" = some entries ∧ ExchangeValid entries
  symbolUniverse : ∃ entries, tableAt raw "universe" = some entries ∧
    UniverseValid builtins entries
  risk : ∃ entries, tableAt raw "risk" = some entries ∧ RiskValid entries
  operational : ∃ entries, tableAt raw "operational" = some entries ∧ OperationalValid entries
  secrets : ∃ entries, tableAt raw "secrets" = some entries ∧ SecretsValid entries
  telegram : ∃ entries, tableAt raw "telegram" = some entries ∧ TelegramValid entries
  logging : ∃ entries, tableAt raw "logging" = some entries ∧ LoggingValid entries

theorem validate_eq_nil : validate builtins raw = .ok [] ↔ Valid builtins raw := by
  simp only [validate, collect_eq_nil, List.forall_mem_cons, validateEnvironment,
    validateExchange, validateUniverse, validateRisk, validateOperational, validateSecrets,
    validateTelegram, validateLogging, inSection_eq_nil, checkEnvironment, requireChoice_eq_nil,
    checkExchange_eq_nil, checkUniverse_eq_nil, checkRisk_eq_nil, checkOperational_eq_nil,
    checkSecrets_eq_nil, checkTelegram_eq_nil, checkLogging_eq_nil]
  constructor
  · rintro ⟨environment, exchange, symbolUniverse, risk, operational, secrets, telegram, logging, _⟩
    exact ⟨environment, exchange, symbolUniverse, risk, operational, secrets, telegram, logging⟩
  · intro valid
    exact ⟨valid.environment, valid.exchange, valid.symbolUniverse, valid.risk,
      valid.operational, valid.secrets, valid.telegram, valid.logging, by simp⟩

end TurtleExecution.Config
