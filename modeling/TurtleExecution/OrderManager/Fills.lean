/-
The fills that an order has been credited with.

A fill is accepted when its event is in the log.  The filled quantity of an order is the
sum over its accepted fills, in the live manager and in one that is rebuilt.
-/

import TurtleExecution.OrderManager.InDoubt
import TurtleExecution.OrderManager.Progress
import Mathlib.Algebra.Order.BigOperators.Group.List

set_option autoImplicit false

namespace TurtleExecution.OrderManager

open ExchangeAdapter SharedStore Process

variable {Stored : Type} [Sources Stored ℚ] {omId : String}

/-- The id and the quantity of the fill that the event credits to the order. -/
def Payload.fillOf? (payload : Payload ℚ) (clientOrderId : String) : Option (String × ℚ) :=
  if payload.action = .fill ∧ payload.clientOrderId = clientOrderId then
    match payload.details.fillId, payload.details.fillQuantity with
    | some fillId, some quantity => some (fillId, quantity)
    | _, _ => none
  else none

def acceptedFills (omId : String) (log : Log Stored) (clientOrderId : String) :
    List (String × ℚ) :=
  log.entries.filterMap fun event =>
    (ownPayload? omId event).bind fun payload : Payload ℚ => payload.fillOf? clientOrderId

def fillIdsOf (fills : List (String × ℚ)) : List String :=
  fills.map Prod.fst

def quantityOf (fills : List (String × ℚ)) : ℚ :=
  (fills.map Prod.snd).sum

@[simp] theorem fillIdsOf_nil : fillIdsOf [] = [] := rfl

@[simp] theorem quantityOf_nil : quantityOf [] = 0 := rfl

@[simp] theorem fillIdsOf_concat (fills : List (String × ℚ)) (fill : String × ℚ) :
    fillIdsOf (fills ++ [fill]) = fillIdsOf fills ++ [fill.1] := by
  rw [fillIdsOf, List.map_append]
  rfl

@[simp] theorem quantityOf_append (fills others : List (String × ℚ)) :
    quantityOf (fills ++ others) = quantityOf fills + quantityOf others := by
  rw [quantityOf, List.map_append, List.sum_append]
  rfl

private theorem quantityOf_singleton (fill : String × ℚ) : quantityOf [fill] = fill.2 := by
  simp [quantityOf]

variable (omId) in
private theorem acceptedFills_concat {log after : Log Stored} {event : Event Stored}
    (entries : after.entries = log.entries ++ [event]) (clientOrderId : String) :
    acceptedFills omId after clientOrderId = acceptedFills omId log clientOrderId ++
      ((ownPayload? omId event).bind fun payload : Payload ℚ =>
        payload.fillOf? clientOrderId).toList := by
  unfold acceptedFills
  rw [entries, List.filterMap_append]
  apply congrArg
  cases shown : (ownPayload? omId event).bind fun payload : Payload ℚ =>
      payload.fillOf? clientOrderId with
  | none => exact List.filterMap_cons_none shown
  | some fill => exact List.filterMap_cons_some shown

variable {log after : Log Stored} {key : MutationKey} {payload : Payload ℚ} {clientOrderId : String}
  {system : System Stored ℚ}

variable {accepted : List (String × ℚ)} {now : String} {exact : Prop}

private theorem acceptedFills_unchanged (own : payload.omId = omId)
    (entries : after.entries = log.entries ++ [recordedEvent omId log key payload now])
    (other : payload.action = .fill → payload.clientOrderId ≠ clientOrderId) :
    acceptedFills omId after clientOrderId = acceptedFills omId log clientOrderId := by
  have silent : payload.fillOf? clientOrderId = none := by
    unfold Payload.fillOf?
    exact if_neg fun both => other both.1 both.2
  rw [acceptedFills_concat omId entries, ownPayload?_recordedEvent log key now own, Option.bind_some,
    silent]
  exact List.append_nil _

private theorem acceptedFills_fill {now fillId : String} {quantity : ℚ} (own : payload.omId = omId)
    (entries : after.entries = log.entries ++ [recordedEvent omId log key payload now])
    (action : payload.action = .fill) (isId : payload.details.fillId = some fillId)
    (isQuantity : payload.details.fillQuantity = some quantity) :
    acceptedFills omId after payload.clientOrderId =
      acceptedFills omId log payload.clientOrderId ++ [(fillId, quantity)] := by
  have credits : payload.fillOf? payload.clientOrderId = some (fillId, quantity) := by
    unfold Payload.fillOf?
    rw [if_pos ⟨action, rfl⟩, isId, isQuantity]
  rw [acceptedFills_concat omId entries, ownPayload?_recordedEvent log key now own, Option.bind_some,
    credits]
  rfl

/-! ### What an order has been credited with -/

/-- An order's snapshot and known fill ids against its accepted fills. -/
structure Credited (omId : String) (log : Log Stored) (clientOrderId : String)
    (accepted : List (String × ℚ)) (snapshot : Option (OrderSnapshot ℚ)) (known : List String) :
    Prop where
  keyed : ∀ fillId ∈ fillIdsOf accepted, ∃ order, clientOrderId = placeId omId order ∧
    InLog omId log (.fill order fillId)
  distinct : (fillIdsOf accepted).Nodup
  sum : ∀ existing, snapshot = some existing → existing.filledQuantity = quantityOf accepted
  untracked : snapshot = none → accepted = []
  isOpen : ∀ existing, snapshot = some existing → isTerminal existing.lifecycleState = false →
    known ⊆ fillIdsOf accepted

def AllCredited (omId : String) (log : Log Stored) (memory : Memory ℚ) : Prop :=
  ∀ clientOrderId, Credited omId log clientOrderId (acceptedFills omId log clientOrderId)
    (memory.snapshots.get? clientOrderId) (memory.fillIds clientOrderId)

omit [Sources Stored ℚ] in
theorem Credited.grow {snapshot : Option (OrderSnapshot ℚ)} {known : List String}
    (credited : Credited omId log clientOrderId accepted snapshot known)
    (grows : ∀ key, InLog omId log key → InLog omId after key) :
    Credited omId after clientOrderId accepted snapshot known :=
  { credited with
    keyed := fun fillId member =>
      (credited.keyed fillId member).imp fun _ both => ⟨both.1, grows _ both.2⟩ }

omit [Sources Stored ℚ] in
theorem Credited.advance {existing next : OrderSnapshot ℚ} {known : List String}
    (credited : Credited omId log clientOrderId accepted (some existing) known)
    (same : next.filledQuantity = existing.filledQuantity)
    (wasOpen : isTerminal existing.lifecycleState = false) :
    Credited omId log clientOrderId accepted (some next) known :=
  { keyed := credited.keyed
    distinct := credited.distinct
    sum := by
      intro snapshot isNext
      cases isNext
      exact same.trans (credited.sum existing rfl)
    untracked := fun absent => nomatch absent
    isOpen := fun _ _ _ => credited.isOpen existing rfl wasOpen }

omit [Sources Stored ℚ] in
theorem Credited.submitted {snapshot : OrderSnapshot ℚ} (unfilled : snapshot.filledQuantity = 0) :
    Credited omId log clientOrderId [] (some snapshot) [] := by
  constructor
  · intro fillId absent
    cases absent
  · exact List.nodup_nil
  · intro existing isSubmitted
    cases isSubmitted
    exact unfilled
  · intro absent
    cases absent
  · intro _ _ _
    exact List.Subset.refl _

theorem AllCredited.patch {memory : Memory ℚ} {patch : Patch ℚ}
    (credited : AllCredited omId log memory)
    (grows : ∀ key, InLog omId log key → InLog omId after key)
    (others : ∀ clientOrderId, clientOrderId ≠ patch.clientOrderId →
      acceptedFills omId after clientOrderId = acceptedFills omId log clientOrderId)
    (patched : Credited omId after patch.clientOrderId
      (acceptedFills omId after patch.clientOrderId)
      (patch.snapshot <|> memory.snapshots.get? patch.clientOrderId)
      (patch.fills.apply (memory.fillIds patch.clientOrderId))) :
    AllCredited omId after (memory.patch patch) := by
  intro clientOrderId
  rw [Memory.patch_snapshots, Memory.patch_fillIds]
  by_cases same : clientOrderId = patch.clientOrderId
  · subst same
    rw [if_pos rfl]
    cases built : patch.snapshot with
    | none =>
        rw [built] at patched
        simpa using patched
    | some snapshot =>
        rw [built] at patched
        simpa using patched
  · rw [if_neg same, if_neg (fun both => same both.1), others clientOrderId same]
    exact (credited clientOrderId).grow grows

theorem AllCredited.patch_uncredited {memory : Memory ℚ} {patch : Patch ℚ}
    (credited : AllCredited omId log memory) (own : payload.omId = omId)
    (notFill : payload.action ≠ .fill)
    (entries : after.entries = log.entries ++ [recordedEvent omId log key payload now])
    (patched : Credited omId log patch.clientOrderId (acceptedFills omId log patch.clientOrderId)
      (patch.snapshot <|> memory.snapshots.get? patch.clientOrderId)
      (patch.fills.apply (memory.fillIds patch.clientOrderId))) :
    AllCredited omId after (memory.patch patch) := by
  have grows : ∀ key, InLog omId log key → InLog omId after key :=
    fun other logged => (inLog_concat entries other).mpr (Or.inl logged)
  have unchanged (clientOrderId : String) :
      acceptedFills omId after clientOrderId = acceptedFills omId log clientOrderId :=
    acceptedFills_unchanged own entries fun isFill => absurd isFill notFill
  apply credited.patch grows (fun clientOrderId _ => unchanged clientOrderId)
  rw [unchanged]
  exact patched.grow grows

omit [Sources Stored ℚ] in
theorem Credited.fill {order : Nat} {existing next : OrderSnapshot ℚ} {known : List String}
    {fillId : String} {quantity : ℚ}
    (credited : Credited omId log (placeId omId order) accepted (some existing) known)
    (grows : ∀ key, InLog omId log key → InLog omId after key)
    (unused : ¬ InLog omId log (.fill order fillId))
    (logged : InLog omId after (.fill order fillId))
    (filled : next.filledQuantity = existing.filledQuantity + quantity)
    (wasOpen : isTerminal existing.lifecycleState = false) :
    Credited omId after (placeId omId order) (accepted ++ [(fillId, quantity)]) (some next)
      (addToSet known fillId) := by
  have fresh : fillId ∉ fillIdsOf accepted := by
    intro member
    obtain ⟨other, same, inLog⟩ := credited.keyed fillId member
    rw [← placeId_injective same] at inLog
    exact unused inLog
  constructor
  · intro other member
    rw [fillIdsOf_concat] at member
    rcases List.mem_append.mp member with old | new
    · obtain ⟨number, same, inLog⟩ := credited.keyed other old
      exact ⟨number, same, grows _ inLog⟩
    · rw [List.mem_singleton.mp new]
      exact ⟨order, rfl, logged⟩
  · rw [fillIdsOf_concat]
    exact credited.distinct.append (List.nodup_singleton _) (List.disjoint_singleton.mpr fresh)
  · intro snapshot isNext
    cases isNext
    rw [filled, credited.sum existing rfl, quantityOf_append, quantityOf_singleton]
  · intro absent
    cases absent
  · intro snapshot _ _ other member
    rw [fillIdsOf_concat]
    rcases mem_addToSet.mp member with old | new
    · exact List.mem_append_left _ (credited.isOpen existing rfl wasOpen old)
    · rw [new]
      exact List.mem_append_right _ (List.mem_singleton_self _)

theorem AllCredited.record {core : Core Stored ℚ} (reached : Reachable exact omId core)
    (credited : AllCredited omId core.log core.memory)
    (recorded : Recorded omId (Durable ℚ omId core.log) core.memory key payload)
    (unused : ¬ InLog omId core.log key)
    (entries : log.entries = core.log.entries ++ [recordedEvent omId core.log key payload now]) :
    AllCredited omId log
      (core.memory.applyEvent (recordedEvent omId core.log key payload now) payload).2 := by
  have fresh := reached.eventId_fresh key payload now
  cases recorded with
  | submit arguments =>
      rw [patches_submit core.memory.snapshots _ omId core.memory.nextSeq arguments core.memory rfl
        fresh]
      have untracked := reached.nextSeq_untracked
      have none := (credited (placeId omId core.memory.nextSeq)).untracked untracked
      have unknown := reached.fillIds_untracked _ untracked
      apply credited.patch_uncredited rfl (by nofun) entries
      change Credited omId core.log (placeId omId core.memory.nextSeq)
        (acceptedFills omId core.log (placeId omId core.memory.nextSeq)) (some _)
        (core.memory.fillIds (placeId omId core.memory.nextSeq))
      change core.memory.fillIds (placeId omId core.memory.nextSeq) = [] at unknown
      rw [none, unknown]
      exact Credited.submitted rfl
  | amendRequested order existing tracked details =>
      rw [patches_intent core.memory.snapshots _ (Or.inl rfl) core.memory rfl fresh]
      exact credited.patch_uncredited rfl (by nofun) entries (credited _)
  | cancelAllRequested details =>
      rw [patches_intent core.memory.snapshots _ (Or.inr rfl) core.memory rfl fresh]
      exact credited.patch_uncredited rfl (by nofun) entries (credited _)
  | amendApplied order request existing known tracked amendable details =>
      have wasOpen : isTerminal existing.lifecycleState = false := by
        rcases amendable with state | state
        · rw [state]
          decide
        · rw [state]
          decide
      have before := credited (placeId omId order)
      rw [tracked] at before
      rw [patches_amend _ rfl tracked core.memory rfl fresh]
      exact credited.patch_uncredited rfl (by nofun) entries (before.advance rfl wasOpen)
  | statusUpdate order existing trigger toState seq key details tracked legal keyed =>
      have before := credited (placeId omId order)
      rw [tracked] at before
      rw [patches_statusUpdate _ omId (placeId omId order) seq details tracked legal core.memory rfl
        fresh]
      exact credited.patch_uncredited rfl (by nofun) entries
        (before.advance rfl (not_isTerminal_of_nextState? legal))
  | fill order existing fill newFilled trigger toState tracked unknown sum triggered legal =>
      have before := credited (placeId omId order)
      rw [tracked] at before
      have grows : ∀ key, InLog omId core.log key → InLog omId log key :=
        fun other logged => (inLog_concat entries other).mpr (Or.inl logged)
      rw [patches_fill _ omId (placeId omId order) fill tracked legal sum core.memory rfl fresh]
      apply credited.patch grows
      · intro clientOrderId different
        exact acceptedFills_unchanged rfl entries fun _ same => different same.symm
      · have grown := acceptedFills_fill rfl entries rfl rfl rfl
        change acceptedFills omId log (placeId omId order) = _ at grown
        change Credited omId log (placeId omId order)
          (acceptedFills omId log (placeId omId order)) (some _)
          (addToSet (core.memory.fillIds (placeId omId order)) fill.fillId)
        rw [grown]
        exact before.fill grows unused ((inLog_concat entries _).mpr (Or.inr rfl))
          (Except.ok.inj sum).symm (not_isTerminal_of_nextState? legal)

/-! ### What a step credits -/

/-- The call reports a fill of an open order under an id that the manager does not know. -/
inductive Creditable (memory : Memory ℚ) : Call ℚ → String → String × ℚ → Prop
  | reportFill (clientOrderId : String) (fill : Fill ℚ) (existing : OrderSnapshot ℚ)
      (tracked : memory.snapshots.get? clientOrderId = some existing)
      (isOpen : isTerminal existing.lifecycleState = false)
      (unknown : fill.fillId ∉ memory.fillIds clientOrderId) :
      Creditable memory (.reportFill clientOrderId fill) clientOrderId (fill.fillId, fill.quantity)

def Credits (system : System Stored ℚ) (step : Step omId Stored ℚ) (clientOrderId : String)
    (fill : String × ℚ) : Prop :=
  ∃ call, step = .call call ∧ system.alive = true ∧
    Creditable system.world.memory call clientOrderId fill

theorem Credits.single {step : Step omId Stored ℚ} {first second : String × ℚ}
    (isFirst : Credits system step clientOrderId first)
    (isSecond : Credits system step clientOrderId second) : first = second := by
  obtain ⟨call, isCall, _, creditable⟩ := isFirst
  obtain ⟨other, isOther, _, again⟩ := isSecond
  obtain rfl : call = other := Step.call.inj (isCall.symm.trans isOther)
  cases creditable
  cases again
  rfl

/-- Since then the log has credited no order, or one order with the fill of a step. -/
def CreditedSince (omId : String) (base : Log Stored) (credits : String → String × ℚ → Prop)
    (log : Log Stored) : Prop :=
  ∀ clientOrderId, acceptedFills omId log clientOrderId = acceptedFills omId base clientOrderId ∨
    ∃ fill, credits clientOrderId fill ∧
      acceptedFills omId log clientOrderId = acceptedFills omId base clientOrderId ++ [fill]

theorem AllCredited.move {before after : Core Stored ℚ} {permitted : MutationKey → Payload ℚ → Prop}
    (reached : Reachable exact omId before) (credited : AllCredited omId before.log before.memory)
    (move : Move exact omId permitted before after) : AllCredited omId after.log after.memory := by
  cases move with
  | record log key payload now recorded allowed unused entries =>
      exact credited.record reached recorded unused entries
  | burn allowed => exact credited
  | hand request seq suffix identified durable fresh => exact credited
  | foreign log added entries =>
      intro clientOrderId
      have unchanged := acceptedFills_concat omId entries clientOrderId
      rw [added.notOwn _ rfl, Option.bind_none, Option.toList_none, List.append_nil] at unchanged
      rw [unchanged]
      exact (credited clientOrderId).grow fun key logged =>
        (inLog_concat entries key).mpr (Or.inl logged)
  | lateFill patched fillId existing tracked terminal =>
      intro clientOrderId
      change Credited omId before.log clientOrderId _ (before.memory.snapshots.get? clientOrderId)
        ((before.memory.addFillId patched fillId).fillIds clientOrderId)
      rw [Memory.addFillId_fillIds]
      by_cases same : clientOrderId = patched
      · have old := credited clientOrderId
        rw [same, tracked] at old ⊢
        refine { old with isOpen := ?_ }
        intro known isKnown isOpen
        cases isKnown
        rw [terminal] at isOpen
        cases isOpen
      · rw [if_neg same]
        exact credited clientOrderId
  | restart memory constructed =>
      have agrees := reached.restarted constructed
      intro clientOrderId
      have old := credited clientOrderId
      change Credited omId before.log clientOrderId _ (memory.snapshots.get? clientOrderId)
        (memory.fillIds clientOrderId)
      rw [agrees.snapshots]
      refine { old with isOpen := ?_ }
      intro existing tracked isOpen
      exact List.Subset.trans (agrees.fillIds_subset clientOrderId)
        (old.isOpen existing tracked isOpen)

theorem CreditedSince.record {base log after : Log Stored} {credits : String → String × ℚ → Prop}
    (since : CreditedSince omId base credits log)
    (single : ∀ clientOrderId first second, credits clientOrderId first →
      credits clientOrderId second → first = second) (own : payload.omId = omId)
    (allowed : ∀ clientOrderId fill, payload.fillOf? clientOrderId = some fill →
      credits clientOrderId fill)
    (entries : after.entries = log.entries ++ [recordedEvent omId log key payload now])
    (distinct : ∀ clientOrderId, (fillIdsOf (acceptedFills omId after clientOrderId)).Nodup) :
    CreditedSince omId base credits after := by
  intro clientOrderId
  have grown := acceptedFills_concat omId entries clientOrderId
  rw [ownPayload?_recordedEvent log key now own, Option.bind_some] at grown
  cases found : payload.fillOf? clientOrderId with
  | none =>
      rw [found, Option.toList_none, List.append_nil] at grown
      rw [grown]
      exact since clientOrderId
  | some fill =>
      rw [found, Option.toList_some] at grown
      have isCredit := allowed clientOrderId fill found
      rcases since clientOrderId with unchanged | ⟨earlier, wasCredit, once⟩
      · rw [unchanged] at grown
        exact Or.inr ⟨fill, isCredit, grown⟩
      · -- The key of a second one would be in the log already.
        have twice := distinct clientOrderId
        rw [grown, once, single clientOrderId _ _ wasCredit isCredit, fillIdsOf_concat] at twice
        have fresh := (List.nodup_append.mp twice).2.2 fill.1
          (by rw [fillIdsOf_concat]; exact List.mem_append_right _ (List.mem_singleton_self _))
          fill.1 (List.mem_singleton_self _)
        exact absurd rfl fresh

def Watch.credits (omId : String) (Stored : Type) [Sources Stored ℚ] (base : Log Stored)
    (credits : String → String × ℚ → Prop)
    (single : ∀ clientOrderId first second, credits clientOrderId first →
      credits clientOrderId second → first = second) : Watch omId Stored ℚ :=
  { exact := False
    permitted := fun _ payload => ∀ clientOrderId fill,
      payload.fillOf? clientOrderId = some fill → credits clientOrderId fill
    kept := fun core => AllCredited omId core.log core.memory ∧
      CreditedSince omId base credits core.log
    keeps := by
      intro before after reached kept move
      have credited := kept.1.move reached move
      refine ⟨credited, ?_⟩
      cases move with
      | record log key payload now recorded allowed unused entries =>
          exact kept.2.record single recorded.omId_eq allowed entries
            fun clientOrderId => (credited clientOrderId).distinct
      | foreign log added entries =>
          intro clientOrderId
          have unchanged := acceptedFills_concat omId entries clientOrderId
          rw [added.notOwn _ rfl, Option.bind_none, Option.toList_none, List.append_nil]
            at unchanged
          rw [unchanged]
          exact kept.2 clientOrderId
      | _ => exact kept.2 }

private theorem permits_credits {world : World Stored ℚ} {call : Call ℚ} {base : Log Stored}
    {credits : String → String × ℚ → Prop}
    {single : ∀ clientOrderId first second, credits clientOrderId first →
      credits clientOrderId second → first = second}
    (creditable : ∀ clientOrderId fill, Creditable world.memory call clientOrderId fill →
      credits clientOrderId fill) :
    Permits (Watch.credits omId Stored base credits single) world call := by
  intro key payload caused clientOrderId credit found
  unfold Payload.fillOf? at found
  split at found
  · rename_i both
    obtain ⟨isFill, rfl⟩ := both
    cases caused with
    | fill order fill existing newFilled trigger toState tracked fresh sum triggered legal =>
        cases found
        exact creditable _ _ (.reportFill _ fill existing tracked
          (not_isTerminal_of_nextState? legal) fresh)
    | _ => cases isFill
  · cases found

theorem AllCredited.known {core : Core Stored ℚ} (reached : Reachable exact omId core)
    (credited : AllCredited omId core.log core.memory) (clientOrderId : String) :
    fillIdsOf (acceptedFills omId core.log clientOrderId) ⊆ core.memory.fillIds clientOrderId := by
  intro fillId member
  obtain ⟨order, rfl, logged⟩ := (credited clientOrderId).keyed fillId member
  obtain ⟨replayed, replays, agrees⟩ := reached.consistent.replays
  exact agrees.fillIds_subset _ (replays.spent _ logged)

section

variable {world : World Stored ℚ} {base : Log Stored} {credits : String → String × ℚ → Prop}
  {single : ∀ clientOrderId first second, credits clientOrderId first →
    credits clientOrderId second → first = second}

theorem Ready.rebase (ready : Ready (Watch.credits omId Stored base credits single) world)
    (later : String → String × ℚ → Prop)
    (laterSingle : ∀ clientOrderId first second, later clientOrderId first →
      later clientOrderId second → first = second) :
    Ready (Watch.credits omId Stored world.log later laterSingle) world :=
  { reachable := ready.reachable
    kept := ⟨ready.kept.1, fun _ => Or.inl rfl⟩
    appends := ready.appends }

private theorem driveExecutionSm_credits
    (ready : Ready (Watch.credits omId Stored base credits single) world) (clientOrderId : String)
    (trigger : OrderLifecycleTrigger) (fromState : OrderLifecycleState) (unfilled : Bool) :
    Ends (driveExecutionSm clientOrderId trigger fromState unfilled) world
      { returned := fun _ after => ∀ other,
          acceptedFills omId after.log other = acceptedFills omId world.log other
        raised := fun _ _ => True
        crashed := fun _ => True } := by
  have watched := ready.rebase (fun _ _ => False) fun _ _ _ impossible => impossible.elim
  apply (driveExecutionSm_spec watched clientOrderId trigger fromState unfilled).mono
  · intro _ after ended other
    rcases ended.1.kept.2 other with same | ⟨fill, impossible, _⟩
    · exact same
    · exact impossible.elim
  · intro _ _ _
    trivial
  · intro _ _
    trivial

private theorem reportFill_accepts
    (ready : Ready (Watch.credits omId Stored base credits single) world)
    {fill : Fill ℚ} {existing : OrderSnapshot ℚ}
    (tracked : world.memory.snapshots.get? clientOrderId = some existing)
    (isOpen : isTerminal existing.lifecycleState = false)
    (unknown : fill.fillId ∉ world.memory.fillIds clientOrderId)
    (isCredit : credits clientOrderId (fill.fillId, fill.quantity)) :
    Ends (reportFill omId clientOrderId fill) world
      { returned := fun _ after => acceptedFills omId after.log clientOrderId =
          acceptedFills omId world.log clientOrderId ++ [(fill.fillId, fill.quantity)]
        raised := fun _ _ => True
        crashed := fun _ => True } := by
  obtain ⟨order, rfl⟩ := ready.tracked tracked
  have found : trackedOrder (placeId omId order) world = (.returned existing, world) := by
    rw [trackedOrder_eq, tracked]
  have read : memory world = (.returned world.memory, world) := rfl
  unfold reportFill
  apply ends_bind_of_returned found
  apply ends_bind_of_returned read
  rw [if_neg unknown, isOpen, if_neg Bool.false_ne_true]
  apply ends_bind_of_returned
    (rfl : _ = (Outcome.returned (existing.filledQuantity + fill.quantity), world))
  cases triggered : fillTrigger (existing.filledQuantity + fill.quantity) existing.quantity with
  | error error => exact ends_bind (fun _ _ => False) trivial fun _ _ impossible => impossible.elim
  | ok trigger =>
      apply ends_bind_of_returned (rfl : _ = (Outcome.returned trigger, world))
      dsimp only
      cases legal : nextState? existing.lifecycleState trigger with
      | none => exact ends_raise trivial
      | some toState =>
          have recorded := persistAndApply_spec ready
            (.fill order existing fill (existing.filledQuantity + fill.quantity) trigger toState
              tracked unknown rfl triggered legal)
            (by
              intro other credit credited
              unfold Payload.fillOf? at credited
              split at credited
              · rename_i both
                cases credited
                rw [← both.2]
                exact isCredit
              · cases credited)
            (ready.not_inLog_fill unknown)
          rw [text_fill] at recorded
          apply ends_bind (fun _ between =>
            Ready (Watch.credits omId Stored base credits single) between ∧
            acceptedFills omId between.log (placeId omId order) =
              acceptedFills omId world.log (placeId omId order) ++ [(fill.fillId, fill.quantity)])
          · apply recorded.mono
            · rintro snapshot between ⟨readyBetween, now, entries, _⟩
              exact ⟨readyBetween, acceptedFills_fill rfl entries rfl rfl rfl⟩
            · intro _ _ _
              trivial
            · intro _ _
              trivial
          · rintro snapshot between ⟨readyBetween, accepted⟩
            apply ends_bind _ (driveExecutionSm_credits readyBetween _ _ _ _)
            intro _ after unchanged
            exact ends_pure ((unchanged _).trans accepted)

end

/-! ### Runs -/

theorem System.Sound.credits {base : Log Stored} {credits : String → String × ℚ → Prop}
    {single : ∀ clientOrderId first second, credits clientOrderId first →
      credits clientOrderId second → first = second}
    (sound : system.Sound (Watch.credits omId Stored base credits single))
    (step : Step omId Stored ℚ) :
    (system.step step).Sound (Watch.credits omId Stored system.world.log (Credits system step)
      fun _ _ _ => Credits.single) := by
  have rebased : system.Sound (Watch.credits omId Stored system.world.log (Credits system step)
      fun _ _ _ => Credits.single) := by
    obtain ⟨appends, memory, reached, kept⟩ := sound.recoverable
    constructor
    · exact ⟨appends, memory, reached, kept.1, fun _ => Or.inl rfl⟩
    · intro alive
      exact (sound.ready alive).rebase _ _
  apply rebased.step step
  intro call isCall alive
  apply permits_credits
  intro clientOrderId fill creditable
  exact ⟨call, isCall, alive, creditable⟩

/-- Fills count exactly once: what the log, the manager and the next step have to do with
one another. -/
structure CountsOnce (omId : String) (system : System Stored ℚ) : Prop where
  distinct : ∀ clientOrderId,
    (fillIdsOf (acceptedFills omId system.world.log clientOrderId)).Nodup
  sum : system.alive = true → ∀ clientOrderId existing,
    system.world.memory.snapshots.get? clientOrderId = some existing →
    existing.filledQuantity = quantityOf (acceptedFills omId system.world.log clientOrderId)
  step : ∀ (step : Step omId Stored ℚ) clientOrderId,
    acceptedFills omId (system.step step).world.log clientOrderId =
        acceptedFills omId system.world.log clientOrderId ∨
      ∃ fill, Credits system step clientOrderId fill ∧
        acceptedFills omId (system.step step).world.log clientOrderId =
          acceptedFills omId system.world.log clientOrderId ++ [fill]
  counted : ∀ clientOrderId fill existing, system.alive = true →
    system.world.memory.snapshots.get? clientOrderId = some existing →
    isTerminal existing.lifecycleState = false →
    fill.fillId ∉ system.world.memory.fillIds clientOrderId → ∀ snapshot after,
    reportFill omId clientOrderId fill system.world = (.returned snapshot, after) →
      acceptedFills omId after.log clientOrderId =
        acceptedFills omId system.world.log clientOrderId ++ [(fill.fillId, fill.quantity)]
  duplicate : ∀ clientOrderId fill existing, system.alive = true →
    system.world.memory.snapshots.get? clientOrderId = some existing →
    fill.fillId ∈ fillIdsOf (acceptedFills omId system.world.log clientOrderId) ∨
      fill.fillId ∈ system.world.memory.fillIds clientOrderId →
    reportFill omId clientOrderId fill system.world = (.returned (some existing), system.world)
  late : ∀ clientOrderId fill existing, system.alive = true →
    system.world.memory.snapshots.get? clientOrderId = some existing →
    isTerminal existing.lifecycleState = true →
    ∃ memory : Memory ℚ, memory.snapshots = system.world.memory.snapshots ∧
      reportFill omId clientOrderId fill system.world =
        (.returned (some existing), { system.world with memory })

private theorem reportFill_known {world : World Stored ℚ} {fill : Fill ℚ} {existing : OrderSnapshot ℚ}
    (tracked : world.memory.snapshots.get? clientOrderId = some existing)
    (known : fill.fillId ∈ world.memory.fillIds clientOrderId) :
    reportFill omId clientOrderId fill world = (.returned (some existing), world) := by
  have found : trackedOrder clientOrderId world = (.returned existing, world) := by
    rw [trackedOrder_eq, tracked]
  have read : memory world = (.returned world.memory, world) := rfl
  unfold reportFill
  rw [bind_returned found, bind_returned read, if_pos known]
  rfl

theorem System.Sound.countsOnce {base : Log Stored} {credits : String → String × ℚ → Prop}
    {single : ∀ clientOrderId first second, credits clientOrderId first →
      credits clientOrderId second → first = second}
    (sound : system.Sound (Watch.credits omId Stored base credits single)) :
    CountsOnce omId system := by
  obtain ⟨_, memory, _, recovered, _⟩ := sound.recoverable
  constructor
  · exact fun clientOrderId => (recovered clientOrderId).distinct
  · intro alive clientOrderId existing tracked
    exact ((sound.ready alive).kept.1 clientOrderId).sum existing tracked
  · intro step
    obtain ⟨_, _, _, _, since⟩ := (sound.credits step).recoverable
    exact since
  · intro clientOrderId fill existing alive tracked isOpen unknown snapshot after ran
    have ready := (sound.ready alive).rebase (fun other credit =>
      other = clientOrderId ∧ credit = (fill.fillId, fill.quantity)) (by
        rintro other first second ⟨_, rfl⟩ ⟨_, rfl⟩
        rfl)
    have ends := reportFill_accepts ready tracked isOpen unknown ⟨rfl, rfl⟩
    unfold Ends at ends
    rw [ran] at ends
    exact ends
  · intro clientOrderId fill existing alive tracked seen
    apply reportFill_known tracked
    rcases seen with accepted | known
    · have ready := sound.ready alive
      exact ready.kept.1.known ready.reachable clientOrderId accepted
    · exact known
  · intro clientOrderId fill existing alive tracked terminal
    obtain ⟨memory, ran, same⟩ :=
      reportFill_of_seen omId tracked (Or.inr ⟨existing, tracked, terminal⟩)
    exact ⟨memory, same, ran⟩

def System.Crediting (omId : String) (system : System Stored ℚ) : Prop :=
  ∃ base credits single, system.Sound (Watch.credits omId Stored base credits single)

theorem System.Crediting.step (crediting : system.Crediting omId) (step : Step omId Stored ℚ) :
    (system.step step).Crediting omId := by
  obtain ⟨_, _, _, sound⟩ := crediting
  exact ⟨_, _, _, sound.credits step⟩

theorem System.Crediting.countsOnce (crediting : system.Crediting omId) :
    CountsOnce omId system := by
  obtain ⟨_, _, _, sound⟩ := crediting
  exact sound.countsOnce

theorem System.Crediting.run (crediting : system.Crediting omId) (steps : List (Step omId Stored ℚ)) :
    (system.run steps).Crediting omId := by
  induction steps generalizing system with
  | nil => exact crediting
  | cons step steps ih => exact ih (crediting.step step)

theorem System.Crediting.grows (crediting : system.Crediting omId)
    (steps : List (Step omId Stored ℚ)) (clientOrderId : String) :
    ∃ added, acceptedFills omId (system.run steps).world.log clientOrderId =
      acceptedFills omId system.world.log clientOrderId ++ added := by
  induction steps generalizing system with
  | nil => exact ⟨[], (List.append_nil _).symm⟩
  | cons step steps ih =>
      obtain ⟨added, grown⟩ := ih (crediting.step step)
      change ∃ added, acceptedFills omId ((system.step step).run steps).world.log clientOrderId = _
      rcases crediting.countsOnce.step step clientOrderId with same | ⟨fill, _, appended⟩
      · exact ⟨added, by rw [grown, same]⟩
      · exact ⟨fill :: added, by rw [grown, appended, List.append_assoc, List.singleton_append]⟩

private theorem quantityOf_nonneg {fills : List (String × ℚ)} (nonneg : ∀ fill ∈ fills, 0 ≤ fill.2) :
    0 ≤ quantityOf fills := by
  apply List.sum_nonneg
  intro quantity member
  obtain ⟨fill, isFill, rfl⟩ := List.mem_map.mp member
  exact nonneg fill isFill

theorem System.start_crediting {memory : Memory ℚ}
    (constructed : construct omId (Ledger.empty : Log Stored) = .ok memory)
    (machine : ExecutionStateMachine.Machine) (environment : Nat → Answer ℚ) :
    (System.start memory machine environment : System Stored ℚ).Crediting omId := by
  refine ⟨Ledger.empty, fun _ _ => False, fun _ _ _ impossible => impossible.elim, .ofReady
    { reachable := .start memory constructed
      kept := ⟨?_, fun _ => Or.inl rfl⟩
      appends := fun impossible => impossible.elim }⟩
  change AllCredited omId Ledger.empty memory
  rw [construct_empty constructed]
  intro clientOrderId
  constructor
  · intro fillId absent
    cases absent
  · exact List.nodup_nil
  · intro existing absent
    cases absent
  · intro _
    rfl
  · intro existing absent
    cases absent

/-- Whatever is done to the manager, every accepted fill counts exactly once, and the
filled quantity of an order falls only by fills of a negative quantity. -/
theorem run_countsOnce {memory : Memory ℚ}
    (constructed : construct omId (Ledger.empty : Log Stored) = .ok memory)
    (machine : ExecutionStateMachine.Machine) (environment : Nat → Answer ℚ)
    (steps later : List (Step omId Stored ℚ)) :
    let between := (System.start memory machine environment : System Stored ℚ).run steps
    let final := between.run later
    CountsOnce omId between ∧ ∀ clientOrderId, ∃ added,
      acceptedFills omId final.world.log clientOrderId =
        acceptedFills omId between.world.log clientOrderId ++ added ∧
      (between.alive = true → final.alive = true → (∀ fill ∈ added, 0 ≤ fill.2) →
        ∀ existing next, between.world.memory.snapshots.get? clientOrderId = some existing →
          final.world.memory.snapshots.get? clientOrderId = some next →
          existing.filledQuantity ≤ next.filledQuantity) := by
  intro between final
  have crediting : between.Crediting omId :=
    (System.start_crediting constructed machine environment).run steps
  have counts := (crediting.run later).countsOnce
  refine ⟨crediting.countsOnce, ?_⟩
  intro clientOrderId
  obtain ⟨added, grown⟩ := crediting.grows later clientOrderId
  refine ⟨added, grown, ?_⟩
  intro aliveBetween aliveFinal nonneg existing next tracked trackedNext
  calc existing.filledQuantity
      = quantityOf (acceptedFills omId between.world.log clientOrderId) :=
        crediting.countsOnce.sum aliveBetween clientOrderId existing tracked
    _ ≤ quantityOf (acceptedFills omId between.world.log clientOrderId) + quantityOf added :=
        le_add_of_nonneg_right (quantityOf_nonneg nonneg)
    _ = quantityOf (acceptedFills omId final.world.log clientOrderId) := by
        rw [grown, quantityOf_append]
    _ = next.filledQuantity := (counts.sum aliveFinal clientOrderId next trackedNext).symm

theorem run_countsOnce_filledOne :
    let between := (System.start Memory.initial freshMachine acceptingEnvironment).run [placeTwo]
    let final := between.run [fillOne, fillOne]
    CountsOnce "main" between ∧ ∀ clientOrderId, ∃ added,
      acceptedFills "main" final.world.log clientOrderId =
        acceptedFills "main" between.world.log clientOrderId ++ added ∧
      (between.alive = true → final.alive = true → (∀ fill ∈ added, 0 ≤ fill.2) →
        ∀ existing next, between.world.memory.snapshots.get? clientOrderId = some existing →
          final.world.memory.snapshots.get? clientOrderId = some next →
          existing.filledQuantity ≤ next.filledQuantity) :=
  run_countsOnce rfl freshMachine acceptingEnvironment
    [placeTwo] [fillOne, fillOne]

def takeBackHalf : Step "main" OrderStored ℚ :=
  .call (.reportFill (placeId "main" 1) (fillOf "f2" (-1 / 2)))

private theorem takeBackHalf_quantities :
    ((acceptingStart.run [placeTwo, fillOne]).world.memory.snapshots.get? (placeId "main" 1)).map
        OrderSnapshot.filledQuantity = some 1 ∧
      ((acceptingStart.run ([placeTwo, fillOne] ++ [takeBackHalf])).world.memory.snapshots.get?
        (placeId "main" 1)).map OrderSnapshot.filledQuantity = some (1 / 2) := by
  decide +kernel

/-- The filled quantity can fall. -/
theorem not_filledQuantity_monotone :
    ¬ ∀ (steps : List (Step "main" OrderStored ℚ)) step,
      (acceptingStart.run steps).alive = true → (acceptingStart.run (steps ++ [step])).alive = true →
      ∀ clientOrderId existing next,
        (acceptingStart.run steps).world.memory.snapshots.get? clientOrderId = some existing →
        (acceptingStart.run (steps ++ [step])).world.memory.snapshots.get? clientOrderId = some next →
        existing.filledQuantity ≤ next.filledQuantity := by
  intro monotone
  obtain ⟨before, after⟩ := takeBackHalf_quantities
  obtain ⟨existing, tracked, isOne⟩ := Option.map_eq_some_iff.mp before
  obtain ⟨next, trackedNext, isHalf⟩ := Option.map_eq_some_iff.mp after
  have falls := monotone [placeTwo, fillOne] takeBackHalf (by decide +kernel) (by decide +kernel)
    _ existing next tracked trackedNext
  rw [isOne, isHalf] at falls
  exact absurd falls (by decide +kernel)

end TurtleExecution.OrderManager
