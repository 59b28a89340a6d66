/-
What the conversion builds of a document without issues.

A number that is a fraction is a float already, or it is one.  The other numbers have no
upper bound, and a whole number may be too large for a float.
-/

import TurtleExecution.Config.Validation
import TurtleExecution.Foundation.Pairs

set_option autoImplicit false

namespace TurtleExecution

namespace PyNumber

private theorem isPositive_int {value : Int} : (PyNumber.int value).isPositive = true ↔ 0 < value :=
  lt_int

private theorem isPositive_finite {value : ℚ} :
    (PyNumber.float (.finite value)).isPositive = true ↔ 0 < value := by
  simp [isPositive, lt, compares, extended]

private theorem isNonnegative_int {value : Int} :
    (PyNumber.int value).isNonnegative = true ↔ 0 ≤ value :=
  le_int

private theorem isNonnegative_finite {value : ℚ} :
    (PyNumber.float (.finite value)).isNonnegative = true ↔ 0 ≤ value := by
  simp [isNonnegative, le, compares, extended]

private theorem isFraction_int {value : Int} :
    (PyNumber.int value).isFraction = true ↔ value = 1 := by
  rw [isFraction, Bool.and_eq_true, lt_int, le_int]
  omega

private theorem isFraction_finite {value : ℚ} :
    (PyNumber.float (.finite value)).isFraction = true ↔ 0 < value ∧ value ≤ 1 := by
  simp [isFraction, lt, le, compares, extended]

private theorem not_isInside_int {value : Int} : (PyNumber.int value).isInside ≠ true := by
  rw [isInside, ne_eq, Bool.and_eq_true, lt_int, lt_int]
  omega

variable {number : PyNumber} {converted : FloatValue}

private theorem isPositive_of_isNonnegative (nonnegative : number.isNonnegative = true)
    (notZero : number.isZero = false) : number.isPositive = true := by
  rw [isZero, Bool.and_eq_false_imp] at notZero
  obtain ⟨low, high, isLow, isHigh, _⟩ := le_iff.mp nonnegative
  exact lt_of_le_eq_false isLow isHigh (notZero nonnegative)

private theorem holds_float? {holds : PyNumber → Bool}
    (kept : ∀ value : Int, holds (.int value) = true →
      holds (.float (.finite (Binary64.format.nearest (value : ℚ)))) = true)
    (made : number.float? = some converted) (isHolding : holds number = true) :
    holds (.float converted) = true := by
  cases number with
  | int value =>
      rw [FloatValue.ofInt?_some made]
      exact kept value isHolding
  | float value =>
      cases made
      exact isHolding

private theorem isPositive_float? (made : number.float? = some converted)
    (positive : number.isPositive = true) : (PyNumber.float converted).isPositive = true := by
  refine holds_float? (fun value isPositive => ?_) made positive
  have one : (1 : ℚ) ≤ value := by exact_mod_cast isPositive_int.mp isPositive
  have kept := FloatValue.nearest_two_pow 0
  rw [pow_zero] at kept
  have above := @NumberFormat.nearest_mono _ _ _ _ _ Binary64.format _ _ one
  rw [kept] at above
  exact isPositive_finite.mpr (zero_lt_one.trans_le above)

private theorem isNonnegative_float? (made : number.float? = some converted)
    (nonnegative : number.isNonnegative = true) :
    (PyNumber.float converted).isNonnegative = true := by
  refine holds_float? (fun value isNonnegative => ?_) made nonnegative
  have above : (0 : ℚ) ≤ value := by exact_mod_cast isNonnegative_int.mp isNonnegative
  exact isNonnegative_finite.mpr (Binary64.format.nearest_nonneg above)

private theorem float?_of_isFraction (fraction : number.isFraction = true) :
    ∃ value : ℚ, number.float? = some (.finite value) ∧
      (PyNumber.float (.finite value)).extended = number.extended ∧ 0 < value ∧ value ≤ 1 := by
  cases number with
  | int value =>
      rw [isFraction_int.mp fraction]
      refine ⟨1, FloatValue.ofInt?_one, ?_, zero_lt_one, le_refl 1⟩
      simp [extended]
  | float value =>
      cases value with
      | finite value => exact ⟨value, rfl, rfl, isFraction_finite.mp fraction⟩
      | infinity negative => cases negative <;> cases fraction
      | nan => cases fraction

private theorem float?_of_isInside (inside : number.isInside = true) :
    ∃ value, number.float? = some value ∧ (PyNumber.float value).isInside = true := by
  cases number with
  | int value => exact absurd inside not_isInside_int
  | float value => exact ⟨value, rfl, inside⟩

private theorem extended_mul? {value : Int} {other : ℚ} {product : PyNumber}
    (multiplied : (PyNumber.int value).mul? (.float (.finite other)) = some product) :
    ∃ place, product.extended = some place := by
  cases isFloat : FloatValue.ofInt? value with
  | none => simp [mul?, float?, isFloat] at multiplied
  | some converted =>
      simp only [mul?, float?, isFloat, Option.bind_eq_bind, Option.bind_some] at multiplied
      rw [FloatValue.ofInt?_some isFloat] at multiplied
      cases multiplied
      exact extended_round _

private theorem headroom_float? {cap risk : PyNumber} {positions : Int}
    {capValue riskValue : FloatValue}
    (capFraction : cap.isFraction = true) (riskFraction : risk.isFraction = true)
    (enough : 1 ≤ positions) (hasHeadroom : ∃ required,
      (PyNumber.int positions).mul? risk = some required ∧ cap.le required = false)
    (isCap : cap.float? = some capValue) (isRisk : risk.float? = some riskValue) :
    ∃ required, (PyNumber.int positions).mul? (.float riskValue) = some required ∧
      required.lt (.float capValue) = true := by
  obtain ⟨capRational, sameCap, sameExtended, _, capBelow⟩ := float?_of_isFraction capFraction
  rw [isCap] at sameCap
  cases sameCap
  obtain ⟨required, multiplied, notBelow⟩ := hasHeadroom
  cases risk with
  | int value =>
      -- a whole risk of one already fills the book
      rw [isFraction_int.mp riskFraction] at multiplied
      cases multiplied
      have reaches : cap.le (.int (positions * 1)) = true := by
        refine le_iff.mpr ⟨_, _, sameExtended.symm, rfl, ?_⟩
        rw [WithBot.coe_le_coe, WithTop.coe_le_coe]
        have above : (1 : ℚ) ≤ ((positions * 1 : Int) : ℚ) := by
          rw [mul_one]
          exact_mod_cast enough
        exact capBelow.trans above
      rw [reaches] at notBelow
      cases notBelow
  | float value =>
      cases isRisk
      refine ⟨required, multiplied, ?_⟩
      obtain ⟨riskRational, sameRisk, _⟩ := float?_of_isFraction riskFraction
      cases sameRisk
      obtain ⟨place, isPlace⟩ := extended_mul? multiplied
      have below := lt_of_le_eq_false isPlace sameExtended.symm notBelow
      obtain ⟨low, high, isLow, isHigh, ordered⟩ := lt_iff.mp below
      exact lt_iff.mpr ⟨low, high, isLow, sameExtended.trans isHigh, ordered⟩

end PyNumber

namespace Config

variable {builtins : Builtins}

variable {value : Option Toml} {number : PyNumber} {converted : FloatValue}

private theorem number?_isRounded (isNumber : number? value = some number) : number.IsRounded := by
  unfold number? at isNumber
  split at isNumber
  · cases isNumber
    trivial
  · rename_i known
    cases isNumber
    exact known.isRounded
  · cases isNumber

def HasFloat (value : Option Toml) : Prop :=
  ∀ number, number? value = some number → ∃ converted, number.float? = some converted

private theorem floatOf_ok :
    floatOf value = .ok converted ↔
      ∃ number, number? value = some number ∧ number.float? = some converted := by
  unfold floatOf
  cases number? value with
  | none => simp
  | some number =>
      cases made : number.float? with
      | none => simp [made]
      | some known => simp [made]

private theorem hasFloat_of_floatOf (computed : floatOf value = .ok converted) : HasFloat value := by
  intro number isNumber
  obtain ⟨known, sameNumber, made⟩ := floatOf_ok.mp computed
  rw [isNumber] at sameNumber
  cases sameNumber
  exact ⟨converted, made⟩

private theorem floatOf_fraction (fraction : isFraction value = true) :
    ∃ converted, floatOf value = .ok converted ∧
      (PyNumber.float converted).isFraction = true := by
  obtain ⟨number, isNumber, inRange⟩ := number_of_any fraction
  obtain ⟨converted, made, _, range⟩ := PyNumber.float?_of_isFraction inRange
  exact ⟨_, floatOf_ok.mpr ⟨number, isNumber, made⟩, PyNumber.isFraction_finite.mpr range⟩

private theorem floatOf_inside (inside : (number? value).any PyNumber.isInside = true) :
    ∃ converted, floatOf value = .ok converted ∧ (PyNumber.float converted).isInside = true := by
  obtain ⟨number, isNumber, inRange⟩ := number_of_any inside
  obtain ⟨converted, made, range⟩ := PyNumber.float?_of_isInside inRange
  exact ⟨converted, floatOf_ok.mpr ⟨number, isNumber, made⟩, range⟩

private theorem floatOf_positive (positive : isPositiveNumber value = true)
    (hasFloat : HasFloat value) :
    ∃ converted, floatOf value = .ok converted ∧
      (PyNumber.float converted).isPositive = true := by
  obtain ⟨number, isNumber, inRange⟩ := number_of_any positive
  obtain ⟨converted, made⟩ := hasFloat number isNumber
  exact ⟨converted, floatOf_ok.mpr ⟨number, isNumber, made⟩,
    PyNumber.isPositive_float? made inRange⟩

private theorem textOf_choice {supported : List String} (isChoice : IsChoice supported value) :
    ∃ text, textOf value = .ok text ∧ text ∈ supported := by
  obtain ⟨text, member, rfl⟩ := isChoice
  exact ⟨text, rfl, member⟩

private theorem intOf_ok {number : Int} (isNumber : integer? value = some number) :
    intOf value = .ok number := by
  rw [intOf, isNumber]

private theorem boolOf_ok (isBoolean : (boolean? value).isSome = true) :
    ∃ holds, boolOf value = .ok holds ∧ boolean? value = some holds := by
  obtain ⟨holds, found⟩ := Option.isSome_iff_exists.mp isBoolean
  exact ⟨holds, by rw [boolOf, found], found⟩

private theorem buildParams_ok {params : Table} (valid : ProfileValid params) :
    ∃ built, buildParams params = .ok built ∧ built.Documented := by
  obtain ⟨riskPct, isRisk, riskRange⟩ := floatOf_fraction valid.riskPct
  obtain ⟨positions, arePositions, enough⟩ := valid.maxPositions
  obtain ⟨mode, isMode, modeSupported⟩ := textOf_choice valid.sizingMode
  obtain ⟨heatCap, isCap, capRange⟩ := floatOf_fraction valid.heatCap
  obtain ⟨ruin, isRuin, ruinRange⟩ := floatOf_inside valid.ruinThreshold
  refine ⟨⟨riskPct, positions, mode, heatCap, ruin⟩, ?_, riskRange, enough, modeSupported,
    capRange, ruinRange, ?_⟩
  · rw [buildParams, bind_of_ok isRisk, bind_of_ok (intOf_ok arePositions), bind_of_ok isMode,
      bind_of_ok isCap, bind_of_ok isRuin]
    rfl
  · obtain ⟨risk, riskNumber, riskMade⟩ := floatOf_ok.mp isRisk
    obtain ⟨cap, capNumber, capMade⟩ := floatOf_ok.mp isCap
    obtain ⟨_, sameRisk, riskFraction⟩ := number_of_any valid.riskPct
    obtain ⟨_, sameCap, capFraction⟩ := number_of_any valid.heatCap
    rw [riskNumber] at sameRisk
    rw [capNumber] at sameCap
    cases sameRisk
    cases sameCap
    exact PyNumber.headroom_float? capFraction riskFraction enough
      (valid.headroom cap risk positions capNumber riskNumber arePositions) capMade riskMade

private theorem buildProfiles_ok {profiles : Table}
    (valid : ∀ item ∈ profiles, ∃ params, item.2 = .table params ∧ ProfileValid params) :
    ∃ built, profiles.mapM buildProfile = .ok built ∧ Dict.keys built = Dict.keys profiles ∧
      ∀ item ∈ built, item.2.Documented := by
  induction profiles with
  | nil => exact ⟨[], rfl, rfl, by simp⟩
  | cons item later ih =>
      rw [List.forall_mem_cons] at valid
      obtain ⟨⟨params, isTable, paramsValid⟩, laterValid⟩ := valid
      obtain ⟨first, isFirst, firstDocumented⟩ := buildParams_ok paramsValid
      obtain ⟨others, areOthers, sameKeys, documented⟩ := ih laterValid
      have builtFirst : buildProfile item = .ok (item.1, first) := by
        rw [buildProfile, isTable]
        dsimp only
        rw [bind_of_ok isFirst]
        rfl
      refine ⟨(item.1, first) :: others, ?_, ?_, ?_⟩
      · rw [List.mapM_cons, bind_of_ok builtFirst, bind_of_ok areOthers]
        rfl
      · exact congrArg (item.1 :: ·) sameKeys
      · exact List.forall_mem_cons.mpr ⟨firstDocumented, documented⟩

private theorem buildExchange_ok {exchange : Table} (valid : ExchangeValid exchange) :
    ∃ built, buildExchange exchange = .ok built ∧ built.name ∈ supportedExchanges ∧
      built.network ∈ supportedNetworks := by
  obtain ⟨name, isName, nameSupported⟩ := textOf_choice valid.name
  obtain ⟨network, isNetwork, networkSupported⟩ := textOf_choice valid.network
  refine ⟨⟨name, network⟩, ?_, nameSupported, networkSupported⟩
  rw [buildExchange, bind_of_ok isName, bind_of_ok isNetwork]
  rfl

private theorem texts_of_filled {items : List Toml} {symbols : List String}
    (filled : (items.mapM fun item => filledText? (some item)) = some symbols) :
    (items.mapM fun item => textOf (some item)) = .ok symbols ∧
      symbols.length = items.length ∧ ∀ symbol ∈ symbols, PyText.isBlank symbol = false := by
  induction items generalizing symbols with
  | nil =>
      cases filled
      exact ⟨rfl, rfl, by simp⟩
  | cons item later ih =>
      rw [List.mapM_cons] at filled
      obtain ⟨symbol, isSymbol, rest⟩ := Option.bind_eq_some_iff.mp filled
      obtain ⟨others, areOthers, same⟩ := Option.bind_eq_some_iff.mp rest
      cases same
      obtain ⟨sameText, notBlank⟩ := filledText_some.mp isSymbol
      cases sameText
      obtain ⟨texts, sameLength, notBlanks⟩ := ih areOthers
      refine ⟨?_, congrArg (· + 1) sameLength, List.forall_mem_cons.mpr ⟨notBlank, notBlanks⟩⟩
      have first : textOf (some (.text symbol)) = .ok symbol := rfl
      rw [List.mapM_cons, bind_of_ok first, bind_of_ok texts]
      rfl

private theorem entries?_ne_nil {items : List Toml} (isEntries : entries? value = some items) :
    items ≠ [] := by
  rintro rfl
  unfold entries? at isEntries
  split at isEntries
  · cases isEntries
  · rename_i nonempty
    cases isEntries
    exact nonempty rfl
  · cases isEntries

private theorem buildUniverse_ok {symbolUniverse : Table}
    (valid : UniverseValid builtins symbolUniverse) :
    ∃ built, buildUniverse symbolUniverse = .ok built ∧ built.Documented builtins := by
  obtain ⟨items, symbols, isEntries, areTexts, distinct, uppercase⟩ := valid
  obtain ⟨texts, sameLength, filled⟩ := texts_of_filled areTexts
  refine ⟨⟨symbols⟩, ?_, ?_, filled, distinct, uppercase⟩
  · rw [buildUniverse, isEntries]
    dsimp only
    rw [bind_of_ok texts]
    rfl
  · rw [← List.length_pos_iff, sameLength, List.length_pos_iff]
    exact entries?_ne_nil isEntries

private theorem buildRisk_ok {risk : Table} (valid : RiskValid risk)
    (hasFloat : HasFloat (Dict.get? risk "auto_flatten_confirmation_seconds")) :
    ∃ built, buildRisk risk = .ok built ∧ built.Documented := by
  obtain ⟨profiles, areProfiles, sameKeys, documented⟩ := buildProfiles_ok valid.profiles
  obtain ⟨active, isActive, activeSupported⟩ := textOf_choice valid.profile
  obtain ⟨daily, isDaily, dailyRange⟩ := floatOf_fraction valid.maxDailyLoss
  obtain ⟨drawdown, isDrawdown, drawdownRange⟩ := floatOf_fraction valid.maxDrawdown
  obtain ⟨autoFlatten, isAutoFlatten, autoFlattenFound⟩ := boolOf_ok valid.autoFlatten
  obtain ⟨seconds, isSeconds, nonnegative⟩ := number_of_any valid.confirmation
  obtain ⟨confirmation, made⟩ := hasFloat seconds isSeconds
  have isConfirmation := floatOf_ok.mpr ⟨seconds, isSeconds, made⟩
  refine ⟨⟨active, profiles, daily, drawdown, autoFlatten, confirmation⟩, ?_, activeSupported, ?_,
    documented, dailyRange, drawdownRange, PyNumber.isNonnegative_float? made nonnegative, ?_⟩
  · rw [buildRisk, bind_of_ok areProfiles, bind_of_ok isActive, bind_of_ok isDaily,
      bind_of_ok isDrawdown, bind_of_ok isAutoFlatten, bind_of_ok isConfirmation]
    rfl
  · obtain ⟨text, _, isText⟩ := valid.profile
    have sameText : textOf (Dict.get? risk "profile") = .ok text := by rw [isText]; rfl
    rw [isActive] at sameText
    cases sameText
    have selected := valid.selected active isText
    rw [Option.isSome_iff_ne_none, ne_eq, Dict.get?_eq_none_iff] at selected ⊢
    rw [sameKeys]
    exact selected
  · intro enabled
    rw [show autoFlatten = true from enabled] at autoFlattenFound
    have notZero := valid.sustained autoFlattenFound
    rw [isSeconds] at notZero
    exact PyNumber.isPositive_float? made (PyNumber.isPositive_of_isNonnegative nonnegative notZero)

private theorem hasFloat_of_buildRisk {risk : Table} {built : RiskConfig}
    (computed : buildRisk risk = .ok built) :
    HasFloat (Dict.get? risk "auto_flatten_confirmation_seconds") := by
  obtain ⟨profiles, _, rest⟩ := ok_of_bind computed
  obtain ⟨active, _, rest⟩ := ok_of_bind rest
  obtain ⟨daily, _, rest⟩ := ok_of_bind rest
  obtain ⟨drawdown, _, rest⟩ := ok_of_bind rest
  obtain ⟨autoFlatten, _, rest⟩ := ok_of_bind rest
  obtain ⟨confirmation, isConfirmation, _⟩ := ok_of_bind rest
  exact hasFloat_of_floatOf isConfirmation

def operationalFloats : List String :=
  "retry_base_delay_seconds" :: "retry_max_delay_seconds" :: operationalMillis

private theorem buildOperational_ok {operational : Table} (valid : OperationalValid operational)
    (hasFloat : ∀ field ∈ operationalFloats, HasFloat (Dict.get? operational field)) :
    ∃ built, buildOperational operational = .ok built ∧ built.Documented := by
  have positive (field : String) (member : field ∈ operationalFloats) :
      ∃ converted, floatOf (Dict.get? operational field) = .ok converted ∧
        (PyNumber.float converted).isPositive = true :=
    floatOf_positive (valid.positive field member) (hasFloat field member)
  obtain ⟨retries, areRetries, nonnegative⟩ := valid.maxRetries
  obtain ⟨baseDelay, isBase, basePositive⟩ := positive "retry_base_delay_seconds" (by decide)
  obtain ⟨maxDelay, isMax, maxPositive⟩ := positive "retry_max_delay_seconds" (by decide)
  obtain ⟨drift, isDrift, driftPositive⟩ := positive "clock_drift_tolerance_ms" (by decide)
  obtain ⟨price, isPrice, pricePositive⟩ := positive "data_staleness_price_ms" (by decide)
  obtain ⟨book, isBook, bookPositive⟩ := positive "data_staleness_orderbook_ms" (by decide)
  obtain ⟨position, isPosition, positionPositive⟩ :=
    positive "data_staleness_position_ms" (by decide)
  refine ⟨⟨retries, baseDelay, maxDelay, drift, price, book, position⟩, ?_, nonnegative,
    basePositive, maxPositive, ?_, driftPositive, pricePositive, bookPositive, positionPositive⟩
  · rw [buildOperational, bind_of_ok (intOf_ok areRetries), bind_of_ok isBase, bind_of_ok isMax,
      bind_of_ok isDrift, bind_of_ok isPrice, bind_of_ok isBook, bind_of_ok isPosition]
    rfl
  · obtain ⟨base, baseNumber, baseMade⟩ := floatOf_ok.mp isBase
    obtain ⟨greatest, maxNumber, maxMade⟩ := floatOf_ok.mp isMax
    have notBelow := valid.ordered base greatest baseNumber maxNumber
    obtain ⟨_, sameBase, baseInRange⟩ :=
      number_of_any (valid.positive "retry_base_delay_seconds" (by decide))
    obtain ⟨_, sameMax, maxInRange⟩ :=
      number_of_any (valid.positive "retry_max_delay_seconds" (by decide))
    rw [baseNumber] at sameBase
    rw [maxNumber] at sameMax
    cases sameBase
    cases sameMax
    obtain ⟨_, low, _, isLow, _⟩ := PyNumber.lt_iff.mp baseInRange
    obtain ⟨_, high, _, isHigh, _⟩ := PyNumber.lt_iff.mp maxInRange
    exact PyNumber.le_float? (number?_isRounded baseNumber) (number?_isRounded maxNumber) baseMade
      maxMade (PyNumber.le_of_lt_eq_false isLow isHigh notBelow)

private theorem hasFloat_of_buildOperational {operational : Table} {built : OperationalConfig}
    (computed : buildOperational operational = .ok built) :
    ∀ field ∈ operationalFloats, HasFloat (Dict.get? operational field) := by
  obtain ⟨retries, _, rest⟩ := ok_of_bind computed
  obtain ⟨baseDelay, isBase, rest⟩ := ok_of_bind rest
  obtain ⟨maxDelay, isMax, rest⟩ := ok_of_bind rest
  obtain ⟨drift, isDrift, rest⟩ := ok_of_bind rest
  obtain ⟨price, isPrice, rest⟩ := ok_of_bind rest
  obtain ⟨book, isBook, rest⟩ := ok_of_bind rest
  obtain ⟨position, isPosition, _⟩ := ok_of_bind rest
  simp only [operationalFloats, operationalMillis, List.forall_mem_cons]
  exact ⟨hasFloat_of_floatOf isBase, hasFloat_of_floatOf isMax, hasFloat_of_floatOf isDrift,
    hasFloat_of_floatOf isPrice, hasFloat_of_floatOf isBook, hasFloat_of_floatOf isPosition,
    by simp⟩

private theorem textOf_reference (valid : ReferenceValid value) :
    ∃ reference, value = some (.text reference) ∧ textOf value = .ok reference ∧
      IsReference reference := by
  obtain ⟨reference, rfl, isReference⟩ := valid
  exact ⟨reference, rfl, rfl, isReference⟩

private theorem buildSecrets_ok {secrets : Table} (valid : SecretsValid secrets) :
    ∃ built, buildSecrets secrets = .ok built ∧ IsReference built.signingKeyRef ∧
      IsReference built.telegramBotTokenRef ∧
      ∀ reference, built.walletKeyRef = some reference → IsReference reference := by
  obtain ⟨signing, _, isSigning, signingReference⟩ := textOf_reference valid.signingKeyRef
  obtain ⟨token, _, isToken, tokenReference⟩ := textOf_reference valid.telegramBotTokenRef
  obtain ⟨wallet, isWallet, walletReference⟩ :
      ∃ wallet, walletKeyRefOf (Dict.get? secrets "wallet_key_ref") = .ok wallet ∧
        ∀ reference, wallet = some reference → IsReference reference := by
    rcases valid.walletKeyRef with absent | present
    · rw [absent]
      exact ⟨none, rfl, fun _ impossible => (by cases impossible)⟩
    · obtain ⟨reference, isText, _, isReference⟩ := textOf_reference present
      rw [isText]
      refine ⟨some reference, rfl, ?_⟩
      rintro _ ⟨⟩
      exact isReference
  refine ⟨⟨signing, token, wallet⟩, ?_, signingReference, tokenReference, walletReference⟩
  rw [buildSecrets, bind_of_ok isSigning, bind_of_ok isToken, bind_of_ok isWallet]
  rfl

private theorem buildTelegram_ok {telegram : Table} (valid : TelegramValid telegram) :
    ∃ built, buildTelegram telegram = .ok built ∧ (built.enabled = true →
      ∃ chat, built.chatId = .text chat ∧ PyText.isBlank chat = false) := by
  obtain ⟨enabled, isEnabled, enabledFound⟩ := boolOf_ok valid.enabled
  refine ⟨⟨enabled, orEmpty (Dict.get? telegram "chat_id")⟩, ?_, ?_⟩
  · rw [buildTelegram, bind_of_ok isEnabled]
    rfl
  · intro isOn
    rw [show enabled = true from isOn] at enabledFound
    obtain ⟨chat, filled⟩ := Option.isSome_iff_exists.mp (valid.chatId enabledFound)
    obtain ⟨isText, notBlank⟩ := filledText_some.mp filled
    refine ⟨chat, ?_, notBlank⟩
    have truthy : isTruthy (.text chat) = true := by
      rw [isTruthy, bne_iff_ne]
      rintro rfl
      cases notBlank
    rw [isText, orEmpty, if_pos truthy]

private theorem buildLogging_ok {logging : Table} (valid : LoggingValid logging) :
    ∃ built, buildLogging logging = .ok built ∧ built.level ∈ supportedLogLevels ∧
      PyText.isBlank built.directory = false := by
  obtain ⟨level, isLevel, levelSupported⟩ := textOf_choice valid.level
  obtain ⟨directory, filled⟩ := Option.isSome_iff_exists.mp valid.directory
  obtain ⟨isText, notBlank⟩ := filledText_some.mp filled
  have isDirectory : textOf (Dict.get? logging "directory") = .ok directory := by
    rw [isText]
    rfl
  refine ⟨⟨level, directory⟩, ?_, levelSupported, notBlank⟩
  rw [buildLogging, bind_of_ok isLevel, bind_of_ok isDirectory]
  rfl

structure Convertible (raw : Table) : Prop where
  risk : ∀ entries, tableAt raw "risk" = some entries →
    HasFloat (Dict.get? entries "auto_flatten_confirmation_seconds")
  operational : ∀ entries, tableAt raw "operational" = some entries →
    ∀ field ∈ operationalFloats, HasFloat (Dict.get? entries field)

private theorem tableOf_ok {raw entries : Table} {name : String} :
    tableOf raw name = .ok entries ↔ tableAt raw name = some entries := by
  unfold tableOf
  cases tableAt raw name with
  | none => simp
  | some known => simp

theorem build_ok {raw : Table} (valid : Valid builtins raw) (convertible : Convertible raw) :
    ∃ config, build raw = .ok config ∧ config.Documented builtins := by
  obtain ⟨environmentTable, atEnvironment, environmentValid⟩ := valid.environment
  obtain ⟨exchangeTable, atExchange, exchangeValid⟩ := valid.exchange
  obtain ⟨universeTable, atUniverse, universeValid⟩ := valid.symbolUniverse
  obtain ⟨riskTable, atRisk, riskValid⟩ := valid.risk
  obtain ⟨operationalTable, atOperational, operationalValid⟩ := valid.operational
  obtain ⟨secretsTable, atSecrets, secretsValid⟩ := valid.secrets
  obtain ⟨telegramTable, atTelegram, telegramValid⟩ := valid.telegram
  obtain ⟨loggingTable, atLogging, loggingValid⟩ := valid.logging
  obtain ⟨mode, isMode, modeSupported⟩ := textOf_choice environmentValid
  obtain ⟨exchange, isExchange, name, network⟩ := buildExchange_ok exchangeValid
  obtain ⟨symbolUniverse, isUniverse, universeDocumented⟩ := buildUniverse_ok universeValid
  obtain ⟨risk, isRisk, riskDocumented⟩ := buildRisk_ok riskValid (convertible.risk _ atRisk)
  obtain ⟨operational, isOperational, operationalDocumented⟩ :=
    buildOperational_ok operationalValid (convertible.operational _ atOperational)
  obtain ⟨secrets, isSecrets, signing, token, wallet⟩ := buildSecrets_ok secretsValid
  obtain ⟨telegram, isTelegram, chat⟩ := buildTelegram_ok telegramValid
  obtain ⟨logging, isLogging, level, directory⟩ := buildLogging_ok loggingValid
  refine ⟨⟨mode, exchange, symbolUniverse, risk, operational, secrets, telegram, logging⟩, ?_,
    ⟨modeSupported, name, network, universeDocumented, riskDocumented, operationalDocumented,
      signing, token, wallet, chat, level, directory⟩⟩
  rw [build, bind_of_ok (tableOf_ok.mpr atEnvironment), bind_of_ok isMode,
    bind_of_ok (tableOf_ok.mpr atExchange), bind_of_ok isExchange,
    bind_of_ok (tableOf_ok.mpr atUniverse), bind_of_ok isUniverse,
    bind_of_ok (tableOf_ok.mpr atRisk), bind_of_ok isRisk,
    bind_of_ok (tableOf_ok.mpr atOperational), bind_of_ok isOperational,
    bind_of_ok (tableOf_ok.mpr atSecrets), bind_of_ok isSecrets,
    bind_of_ok (tableOf_ok.mpr atTelegram), bind_of_ok isTelegram,
    bind_of_ok (tableOf_ok.mpr atLogging), bind_of_ok isLogging]
  rfl

theorem convertible_of_build {raw : Table} {config : EngineConfig}
    (computed : build raw = .ok config) : Convertible raw := by
  obtain ⟨_, _, rest⟩ := ok_of_bind computed
  obtain ⟨_, _, rest⟩ := ok_of_bind rest
  obtain ⟨_, _, rest⟩ := ok_of_bind rest
  obtain ⟨_, _, rest⟩ := ok_of_bind rest
  obtain ⟨_, _, rest⟩ := ok_of_bind rest
  obtain ⟨_, _, rest⟩ := ok_of_bind rest
  obtain ⟨riskTable, atRisk, rest⟩ := ok_of_bind rest
  obtain ⟨_, isRisk, rest⟩ := ok_of_bind rest
  obtain ⟨operationalTable, atOperational, rest⟩ := ok_of_bind rest
  obtain ⟨_, isOperational, _⟩ := ok_of_bind rest
  constructor
  · intro entries atEntries
    rw [tableOf_ok.mp atRisk] at atEntries
    cases atEntries
    exact hasFloat_of_buildRisk isRisk
  · intro entries atEntries
    rw [tableOf_ok.mp atOperational] at atEntries
    cases atEntries
    exact hasFloat_of_buildOperational isOperational

end Config

end TurtleExecution
