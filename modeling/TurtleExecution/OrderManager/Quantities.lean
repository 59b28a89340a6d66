/-
Quantities and states of orders.

A fill raises the filled quantity and an amendment changes the quantity.  A fill chooses
its trigger by comparing the two; an amendment compares nothing.
-/

import TurtleExecution.OrderManager.Runs

set_option autoImplicit false

namespace TurtleExecution.OrderManager

open ExchangeAdapter SharedStore Process Runs

section

variable {Number Stored : Type}

abbrev Amending (Number : Type) := Option (String × Number)

def StandsStill (amending : Amending Number) (memory : Memory Number) : Prop :=
  ∀ clientOrderId filled, amending = some (clientOrderId, filled) →
    ∀ snapshot, memory.snapshots.get? clientOrderId = some snapshot → snapshot.filledQuantity = filled

theorem StandsStill.patch {amending : Amending Number} {memory : Memory Number}
    {patch : Patch Number} (still : StandsStill amending memory)
    (patched : ∀ snapshot filled, patch.snapshot = some snapshot →
      amending = some (patch.clientOrderId, filled) → snapshot.filledQuantity = filled) :
    StandsStill amending (memory.patch patch) := by
  intro clientOrderId filled isAmending snapshot tracked
  rw [Memory.patch_snapshots] at tracked
  split at tracked
  · rename_i both
    rw [both.1] at isAmending
    exact patched snapshot filled tracked isAmending
  · exact still clientOrderId filled isAmending snapshot tracked

theorem StandsStill.patch_same {amending : Amending Number} {memory : Memory Number}
    {patch : Patch Number} {existing : OrderSnapshot Number}
    (still : StandsStill amending memory)
    (tracked : memory.snapshots.get? patch.clientOrderId = some existing)
    (same : ∀ snapshot, patch.snapshot = some snapshot →
      snapshot.filledQuantity = existing.filledQuantity) :
    StandsStill amending (memory.patch patch) := by
  apply still.patch
  intro snapshot filled built isAmending
  rw [same snapshot built]
  exact still _ filled isAmending existing tracked

variable [Arithmetic Number]

/-- A filled order has its quantity, and every other order has less. -/
structure Measured (snapshot : OrderSnapshot Number) : Prop where
  filled : snapshot.lifecycleState = .filled →
    Arithmetic.le snapshot.quantity snapshot.filledQuantity = .ok true
  unfilled : snapshot.lifecycleState ≠ .filled →
    Arithmetic.le snapshot.quantity snapshot.filledQuantity = .ok false

def AllMeasured (memory : Memory Number) : Prop :=
  ∀ clientOrderId snapshot, memory.snapshots.get? clientOrderId = some snapshot → Measured snapshot

/-- An order is submitted with a positive quantity and amended to more than is filled;
an amendment to zero keeps the quantity. -/
def Fitting (amending : Amending Number) (payload : Payload Number) : Prop :=
  match payload.action with
  | .submit => amending = none ∧ ∀ quantity, payload.details.quantity = some quantity →
      Arithmetic.le quantity (Arithmetic.zero : Number) = .ok false
  | .fill => amending = none
  | .amend => ∀ quantity, payload.details.newQuantity = some quantity →
      Arithmetic.isZero quantity = true ∨
        ∃ filled, amending = some (payload.clientOrderId, filled) ∧
          Arithmetic.le quantity filled = .ok false
  | _ => True

theorem AllMeasured.patch {memory : Memory Number} {patch : Patch Number}
    (measured : AllMeasured memory)
    (patched : ∀ snapshot, patch.snapshot = some snapshot → Measured snapshot) :
    AllMeasured (memory.patch patch) := by
  intro clientOrderId snapshot tracked
  rw [Memory.patch_snapshots] at tracked
  split at tracked
  · exact patched snapshot tracked
  · exact measured clientOrderId snapshot tracked

variable {state target : OrderLifecycleState}

variable {trigger : OrderLifecycleTrigger} {existing : OrderSnapshot Number}

private theorem not_filled_of_status {durable : Nat → Prop} {nextSeq order : Nat} {seq : Option Nat}
    {key : MutationKey} (keyed : StatusKey durable nextSeq order state trigger seq key)
    (legal : nextState? state trigger = some target) : target ≠ .filled := by
  have leads : ∀ trigger, trigger ≠ .fullFill →
      TransitionTable.LeadsTo transitionTable trigger fun state => state ≠ .filled := by
    intro trigger
    cases trigger <;> decide
  apply (leads trigger ?_).nextState? legal
  intro isFull
  subst isFull
  cases keyed with
  | status status trigger reported => cases status <;> cases reported

private theorem filled_of_fullFill (legal : nextState? state .fullFill = some target) :
    target = .filled := by
  have leads : TransitionTable.LeadsTo transitionTable .fullFill fun state => state = .filled := by
    decide
  exact leads.nextState? legal

private theorem not_filled_of_partialFill (legal : nextState? state .partialFill = some target) :
    target ≠ .filled := by
  have leads : TransitionTable.LeadsTo transitionTable .partialFill fun state => state ≠ .filled := by
    decide
  exact leads.nextState? legal

private theorem ne_filled_of_nextState? (legal : nextState? state trigger = some target) :
    state ≠ .filled := by
  intro filled
  have terminal := not_isTerminal_of_nextState? legal
  rw [filled] at terminal
  cases terminal

private theorem measured_of_fill {newFilled : Number} {now : String} {toState : OrderLifecycleState}
    (triggered : fillTrigger newFilled existing.quantity = .ok trigger)
    (legal : nextState? existing.lifecycleState trigger = some toState) :
    Measured { existing with
      lifecycleState := toState, filledQuantity := newFilled, updatedAtUtc := now } := by
  unfold fillTrigger at triggered
  split at triggered
  · cases triggered
  · rename_i reached
    cases triggered
    have isFilled := filled_of_fullFill legal
    exact { filled := fun _ => reached, unfilled := fun other => absurd isFilled other }
  · rename_i below
    cases triggered
    have notFilled := not_filled_of_partialFill legal
    exact { filled := fun other => absurd other notFilled, unfilled := fun _ => below }

private theorem measured_of_amend (event : Event Stored) {payload : Payload Number}
    (measured : Measured existing)
    (amendable : existing.lifecycleState = .acknowledged ∨
      existing.lifecycleState = .partiallyFilled)
    (fits : ∀ quantity, payload.details.newQuantity = some quantity →
      Arithmetic.isZero quantity = true ∨
        Arithmetic.le quantity existing.filledQuantity = .ok false) :
    Measured (amendedSnapshot event payload existing) := by
  have notFilled : existing.lifecycleState ≠ .filled := by
    intro isFilled
    rw [isFilled] at amendable
    rcases amendable with impossible | impossible <;> cases impossible
  refine { filled := fun impossible => absurd impossible notFilled, unfilled := fun _ => ?_ }
  have below := measured.unfilled notFilled
  unfold amendedSnapshot
  dsimp only
  split
  · rename_i quantity amended
    split
    · exact below
    · rename_i nonzero
      exact (fits quantity amended).resolve_left nonzero
  · exact below

variable [Sources Stored Number] {omId : String}

private theorem measured_record {exact : Prop} {amending : Amending Number}
    {core : Core Stored Number}
    {key : MutationKey} {payload : Payload Number} (reached : Reachable exact omId core)
    (measured : AllMeasured core.memory) (still : StandsStill amending core.memory)
    (recorded : Recorded omId (Durable Number omId core.log) core.memory key payload)
    (fitting : Fitting amending payload) (now : String) :
    AllMeasured (core.memory.applyEvent (recordedEvent omId core.log key payload now) payload).2 ∧
      StandsStill amending
        (core.memory.applyEvent (recordedEvent omId core.log key payload now) payload).2 := by
  have fresh := reached.eventId_fresh key payload now
  cases recorded with
  | submit arguments =>
      rw [patches_submit core.memory.snapshots _ omId core.memory.nextSeq arguments core.memory rfl
        fresh]
      obtain ⟨notAmending, positive⟩ := fitting
      constructor
      · apply measured.patch
        intro snapshot built
        cases built
        exact
          { filled := fun impossible => nomatch impossible
            unfilled := fun _ => positive arguments.quantity rfl }
      · intro clientOrderId filled isAmending
        rw [notAmending] at isAmending
        cases isAmending
  | amendRequested order existing tracked details =>
      rw [patches_intent core.memory.snapshots _ (Or.inl rfl) core.memory rfl fresh]
      exact ⟨measured.patch (fun _ absent => nomatch absent),
        still.patch (fun _ _ absent => nomatch absent)⟩
  | cancelAllRequested details =>
      rw [patches_intent core.memory.snapshots _ (Or.inr rfl) core.memory rfl fresh]
      exact ⟨measured.patch (fun _ absent => nomatch absent),
        still.patch (fun _ _ absent => nomatch absent)⟩
  | amendApplied order request existing known tracked amendable details =>
      rw [patches_amend _ rfl tracked core.memory rfl fresh]
      constructor
      · apply measured.patch
        intro snapshot built
        cases built
        apply measured_of_amend _ (measured _ existing tracked) amendable
        intro quantity amended
        refine (fitting quantity amended).imp_right ?_
        rintro ⟨filled, isAmending, fits⟩
        rw [still _ filled isAmending existing tracked]
        exact fits
      · apply still.patch_same tracked
        intro snapshot built
        cases built
        rfl
  | statusUpdate order existing trigger toState seq key details tracked legal keyed =>
      rw [patches_statusUpdate _ omId (placeId omId order) seq details tracked legal core.memory rfl
        fresh]
      constructor
      · apply measured.patch
        intro snapshot built
        cases built
        exact
          { filled := fun isFilled => absurd isFilled (not_filled_of_status keyed legal)
            unfilled := fun _ =>
              (measured _ existing tracked).unfilled (ne_filled_of_nextState? legal) }
      · apply still.patch_same tracked
        intro snapshot built
        cases built
        rfl
  | fill order existing fill newFilled trigger toState tracked unknown sum triggered legal =>
      rw [patches_fill _ omId (placeId omId order) fill tracked legal sum core.memory rfl fresh]
      constructor
      · apply measured.patch
        intro snapshot built
        cases built
        exact measured_of_fill triggered legal
      · intro clientOrderId filled isAmending
        rw [show amending = none from fitting] at isAmending
        cases isAmending

def Watch.quantities (omId : String) (Stored : Type) [Sources Stored Number]
    (amending : Amending Number) : Watch omId Stored Number :=
  { exact := False
    permitted := fun _ => Fitting amending
    kept := fun core => AllMeasured core.memory ∧ StandsStill amending core.memory
    keeps := by
      intro before after reached kept move
      obtain ⟨measured, still⟩ := kept
      cases move with
      | record log key payload now recorded allowed unused entries =>
          exact measured_record reached measured still recorded allowed now
      | burn allowed => exact ⟨measured, still⟩
      | hand request seq suffix identified durable fresh => exact ⟨measured, still⟩
      | foreign log added entries => exact ⟨measured, still⟩
      | lateFill clientOrderId fillId existing tracked terminal => exact ⟨measured, still⟩
      | restart memory constructed =>
          have agrees := reached.restarted constructed
          unfold AllMeasured StandsStill
          dsimp only
          rw [agrees.snapshots]
          exact ⟨measured, still⟩ }

/-- The order that a call amends, and what is filled of it; an order that is not tracked
or not open for amendments is not amended. -/
def amendingOf (memory : Memory Number) (call : Call Number) : Amending Number :=
  match call with
  | .amend clientOrderId _ _ =>
      match memory.snapshots.get? clientOrderId with
      | some existing =>
          if existing.lifecycleState = .acknowledged ∨ existing.lifecycleState = .partiallyFilled then
            some (clientOrderId, existing.filledQuantity)
          else none
      | none => none
  | _ => none

/-- The quantities of a call fit: an order is placed with a positive quantity, and what
the adapter answers to an amendment is zero or more than is filled. -/
def CallFits (world : World Stored Number) (call : Call Number) : Prop :=
  match call with
  | .place arguments => Arithmetic.le arguments.quantity (Arithmetic.zero : Number) = .ok false
  | .amend clientOrderId newQuantity newLimitPrice => ∀ filled report,
      amendingOf world.memory (.amend clientOrderId newQuantity newLimitPrice) =
        some (clientOrderId, filled) →
      (world.answer (.amend clientOrderId newQuantity newLimitPrice)).order = .ok report →
      Arithmetic.isZero report.quantity = true ∨
        Arithmetic.le report.quantity filled = .ok false
  | _ => True

def StepFits (system : System Stored Number) (step : Step omId Stored Number) : Prop :=
  ∀ call, step = .call call → system.alive = true → CallFits system.world call

variable {newQuantity newLimitPrice : Option Number} {system : System Stored Number}

omit [Arithmetic Number] [Sources Stored Number] in
private theorem amendingOf_amend {memory : Memory Number} {clientOrderId : String}
    (amends : amendingOf memory (.amend clientOrderId newQuantity newLimitPrice) ≠ none) :
    ∃ existing, memory.snapshots.get? clientOrderId = some existing ∧
      amendingOf memory (.amend clientOrderId newQuantity newLimitPrice) =
        some (clientOrderId, existing.filledQuantity) := by
  unfold amendingOf at amends ⊢
  dsimp only at amends ⊢
  cases found : memory.snapshots.get? clientOrderId with
  | none =>
      rw [found] at amends
      exact absurd rfl amends
  | some existing =>
      rw [found] at amends
      dsimp only at amends ⊢
      split at amends
      · rename_i amendable
        exact ⟨existing, rfl, if_pos amendable⟩
      · exact absurd rfl amends

omit [Arithmetic Number] [Sources Stored Number] in
private theorem standsStill_amendingOf (memory : Memory Number) (call : Call Number) :
    StandsStill (amendingOf memory call) memory := by
  intro clientOrderId filled isAmending snapshot tracked
  cases call with
  | amend amended newQuantity newLimitPrice =>
      obtain ⟨existing, found, same⟩ := amendingOf_amend (by rw [isAmending]; exact nofun)
      rw [same] at isAmending
      cases isAmending
      rw [found] at tracked
      cases tracked
      rfl
  | _ => cases isAmending

variable (omId) in
private theorem amendOrder_refused {world : World Stored Number} {clientOrderId : String}
    (refused : amendingOf world.memory (.amend clientOrderId newQuantity newLimitPrice) = none) :
    ∃ error, amendOrder omId clientOrderId newQuantity newLimitPrice world = (.raised error, world) := by
  unfold amendOrder
  split
  · exact ⟨_, rfl⟩
  · unfold amendingOf at refused
    dsimp only at refused
    cases found : world.memory.snapshots.get? clientOrderId with
    | none =>
        have untracked : trackedOrder clientOrderId world =
            (.raised (.orderNotFound clientOrderId), world) := by rw [trackedOrder_eq, found]
        exact ⟨_, bind_raised untracked⟩
    | some existing =>
        rw [found] at refused
        have tracked : trackedOrder clientOrderId world = (.returned existing, world) := by
          rw [trackedOrder_eq, found]
        rw [bind_returned tracked]
        split
        · exact ⟨_, rfl⟩
        · rename_i amendable
          rw [not_and_or, not_ne_iff, not_ne_iff] at amendable
          dsimp only at refused
          rw [if_pos amendable] at refused
          cases refused

private theorem permits_quantities {world : World Stored Number} {call : Call Number}
    (fits : CallFits world call)
    (amends : ∀ clientOrderId newQuantity newLimitPrice,
      call = .amend clientOrderId newQuantity newLimitPrice → amendingOf world.memory call ≠ none) :
    Permits (Watch.quantities omId Stored (amendingOf world.memory call)) world call := by
  intro key payload caused
  cases caused with
  | submit arguments =>
      refine ⟨rfl, ?_⟩
      intro quantity isQuantity
      cases isQuantity
      exact fits
  | fill order fill existing newFilled trigger toState => exact (rfl : (none : Amending Number) = none)
  | amended order newQuantity newLimitPrice report answered =>
      intro quantity isQuantity
      cases isQuantity
      obtain ⟨existing, _, amending⟩ := amendingOf_amend (amends _ _ _ rfl)
      rcases fits _ report amending answered with zero | more
      · exact Or.inl zero
      · exact Or.inr ⟨_, amending, more⟩
  | _ => trivial

theorem System.Sound.weaken {first second : Watch omId Stored Number} (sound : system.Sound first)
    (exact : second.exact ↔ first.exact) (weaker : ∀ core, first.kept core → second.kept core) :
    system.Sound second := by
  obtain ⟨appends, memory, reached, kept⟩ := sound.recoverable
  constructor
  · refine ⟨fun isExact => appends (exact.mp isExact), memory, ?_, weaker _ kept⟩
    rw [propext exact]
    exact reached
  · intro alive
    have ready := sound.ready alive
    refine { reachable := ?_, kept := weaker _ ready.kept, appends := ?_ }
    · rw [propext exact]
      exact ready.reachable
    · intro isExact
      exact ready.appends (exact.mp isExact)

theorem System.Sound.fits {step : Step omId Stored Number}
    (sound : system.Sound (Watch.quantities omId Stored none)) (fits : StepFits system step) :
    (system.step step).Sound (Watch.quantities omId Stored none) := by
  have atCall : ∀ call, step = .call call → system.alive = true →
      (system.step step).Sound (Watch.quantities omId Stored none) := by
    intro call isCall alive
    have ready := sound.ready alive
    by_cases amends : ∀ clientOrderId newQuantity newLimitPrice,
        call = .amend clientOrderId newQuantity newLimitPrice →
          amendingOf system.world.memory call ≠ none
    · have watched : system.Sound
          (Watch.quantities omId Stored (amendingOf system.world.memory call)) :=
        .ofReady
          { reachable := ready.reachable
            kept := ⟨ready.kept.1, standsStill_amendingOf _ call⟩
            appends := ready.appends }
      have stepped := watched.step step (by
        intro other isOther _
        rw [isCall] at isOther
        cases isOther
        exact permits_quantities (fits call isCall alive) amends)
      exact stepped.weaken (show False ↔ False from Iff.rfl)
        fun core kept => ⟨kept.1, fun _ _ absent => nomatch absent⟩
    · simp only [not_forall, not_not] at amends
      obtain ⟨clientOrderId, newQuantity, newLimitPrice, isAmend, refused⟩ := amends
      subst isAmend
      obtain ⟨error, ran⟩ := amendOrder_refused omId refused
      have called : (Call.amend clientOrderId newQuantity newLimitPrice).operation omId
          system.world = (.raised error, system.world) := bind_raised ran
      have same : system.step step = { world := system.world, alive := true } := by
        rw [isCall, System.step, if_pos alive, called]
      rw [same]
      exact .ofReady ready
  cases step with
  | call call =>
      cases alive : system.alive with
      | true => exact atCall call rfl alive
      | false =>
          have same : system.step (.call call : Step omId Stored Number) = system := by
            unfold System.step
            dsimp only
            rw [alive, if_neg Bool.false_ne_true]
          rw [same]
          exact sound
  | foreign added => exact sound.step (.foreign added) fun _ absent => nomatch absent
  | kill => exact sound.step .kill fun _ absent => nomatch absent
  | restart machine => exact sound.step (.restart machine) fun _ absent => nomatch absent

/-- In a run whose steps fit, an order is filled exactly where its filled quantity has
reached its quantity, and an open order has less. -/
theorem run_measured {memory : Memory Number}
    (constructed : construct omId (Ledger.empty : Log Stored) = .ok memory)
    (machine : ExecutionStateMachine.Machine) (environment : Nat → Answer Number)
    (steps : List (Step omId Stored Number))
    (fits : Along System.step StepFits
      (System.start memory machine environment : System Stored Number) steps) :
    let final := (System.start memory machine environment : System Stored Number).run steps
    final.alive = true → ∀ clientOrderId snapshot,
      final.world.memory.snapshots.get? clientOrderId = some snapshot →
      (snapshot.lifecycleState = .filled ↔
        Arithmetic.le snapshot.quantity snapshot.filledQuantity = .ok true) ∧
      (isTerminal snapshot.lifecycleState = false →
        Arithmetic.le snapshot.quantity snapshot.filledQuantity = .ok false) := by
  intro final alive clientOrderId snapshot tracked
  have started : (System.start memory machine environment : System Stored Number).Sound
      (Watch.quantities omId Stored none) := by
    refine .ofReady
      { reachable := .start memory constructed
        kept := ⟨?_, fun _ _ absent => nomatch absent⟩
        appends := fun impossible => impossible.elim }
    change AllMeasured memory
    rw [construct_empty constructed]
    intro _ _ absent
    cases absent
  have sound : final.Sound (Watch.quantities omId Stored none) :=
    fits.keeps (fun system => system.Sound (Watch.quantities omId Stored none))
      (fun _ _ before holds => before.fits holds) started
  have measured := (sound.ready alive).kept.1 clientOrderId snapshot tracked
  constructor
  · constructor
    · exact measured.filled
    · intro reached
      by_contra other
      rw [measured.unfilled other] at reached
      cases reached
  · intro isOpen
    apply measured.unfilled
    intro isFilled
    rw [isFilled] at isOpen
    cases isOpen

end

def acceptingEnvironment : Nat → Answer ℚ := fun _ =>
  acceptingAnswer (acknowledgedOrder "main" 1)

def placeTwo : Step "main" OrderStored ℚ :=
  .call (.place marketBuy)

def fillOne : Step "main" OrderStored ℚ :=
  .call (.reportFill (placeId "main" 1) (fillOf "f1" 1))

def amendToFilled : List (Step "main" OrderStored ℚ) :=
  [placeTwo, fillOne, .call (.amend (placeId "main" 1) (some 1) none)]

def acceptingStart : System OrderStored ℚ :=
  System.start Memory.initial freshMachine acceptingEnvironment

private theorem amendToFilled_order :
    ((acceptingStart.run amendToFilled).world.memory.snapshots.get? (placeId "main" 1)).map
      (fun snapshot => (snapshot.lifecycleState, snapshot.quantity, snapshot.filledQuantity)) =
        some (.partiallyFilled, 1, 1) := by
  decide +kernel

/-- The amended order is not filled although its filled quantity is its quantity. -/
theorem not_run_measured :
    ¬ ∀ steps : List (Step "main" OrderStored ℚ),
      (acceptingStart.run steps).alive = true → ∀ clientOrderId snapshot,
        (acceptingStart.run steps).world.memory.snapshots.get? clientOrderId = some snapshot →
        (snapshot.lifecycleState = .filled ↔
          Arithmetic.le snapshot.quantity snapshot.filledQuantity = .ok true) ∧
        (isTerminal snapshot.lifecycleState = false →
          Arithmetic.le snapshot.quantity snapshot.filledQuantity = .ok false) := by
  intro measured
  have alive : (acceptingStart.run amendToFilled).alive = true := by decide +kernel
  obtain ⟨snapshot, tracked, shown⟩ := Option.map_eq_some_iff.mp amendToFilled_order
  obtain ⟨state, quantity, filled⟩ : snapshot.lifecycleState = .partiallyFilled ∧
      snapshot.quantity = 1 ∧ snapshot.filledQuantity = 1 := by
    simpa only [Prod.mk.injEq] using shown
  have isFilled := (measured amendToFilled alive _ snapshot tracked).1.mpr (by
    rw [quantity, filled]
    exact congrArg Except.ok (decide_eq_true (le_refl (1 : ℚ))))
  rw [state] at isFilled
  cases isFilled

theorem run_measured_filledOne :
    let final := (System.start Memory.initial freshMachine acceptingEnvironment).run
      [placeTwo, fillOne]
    ∀ clientOrderId snapshot,
      final.world.memory.snapshots.get? clientOrderId = some snapshot →
      (snapshot.lifecycleState = .filled ↔
        Arithmetic.le snapshot.quantity snapshot.filledQuantity = .ok true) ∧
      (isTerminal snapshot.lifecycleState = false →
        Arithmetic.le snapshot.quantity snapshot.filledQuantity = .ok false) := by
  have positive : Arithmetic.le (2 : ℚ) (Arithmetic.zero : ℚ) = .ok false := by decide
  refine run_measured rfl freshMachine
    acceptingEnvironment [placeTwo, fillOne] ⟨?_, ?_, trivial⟩ (by decide +kernel)
  · intro call isCall _
    cases isCall
    exact positive
  · intro call isCall _
    cases isCall
    trivial

end TurtleExecution.OrderManager
