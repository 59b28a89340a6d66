/-
Runs of an order manager against a venue.

The venue has its own orders and moves with every step.  A call of the adapter may
fail before or after the venue has acted; what the adapter does report is true of
the exchange order that it names.
-/

import TurtleExecution.OrderManager.Recovery
import Mathlib.Algebra.Order.BigOperators.Group.List

set_option autoImplicit false

namespace TurtleExecution.OrderManager

open ExchangeAdapter SharedStore Process Runs

structure VenueOrder extends VenueFills where
  live : Option String
  quantity : ℚ
  positive : ∀ fill ∈ fills, 0 < fill.quantity
  unfilled : live ≠ none → total fills < quantity

abbrev Venue := String → VenueOrder

theorem VenueOrder.total_le (order : VenueOrder) {known : List (Fill ℚ)}
    (distinct : (known.map Fill.fillId).Nodup) (subset : known ⊆ order.fills) :
    total known ≤ total order.fills := by
  obtain ⟨arranged, perm, sublist⟩ := List.subperm_of_subset distinct.of_map subset
  have sums : total known = total arranged := (perm.map Fill.quantity).symm.sum_eq
  have nonneg : ∀ quantity ∈ order.fills.map Fill.quantity, 0 ≤ quantity := by
    intro quantity member
    obtain ⟨fill, isFill, rfl⟩ := List.mem_map.mp member
    exact (order.positive fill isFill).le
  rw [sums]
  exact (sublist.map Fill.quantity).sum_le_sum nonneg

variable {Stored : Type} [Sources Stored ℚ] {omId : String}

structure Trade (omId : String) (Stored : Type) [Sources Stored ℚ] where
  step : Step omId Stored ℚ
  venue : Venue

/-- A call of `place_order` asks the venue to open the order of the next number. -/
def Opens (system : System Stored ℚ) (step : Step omId Stored ℚ) (clientOrderId : String) : Prop :=
  system.alive = true ∧ ∃ arguments, step = .call (.place arguments) ∧
    clientOrderId = placeId omId system.world.memory.nextSeq

/-- The venue forgets no fill and opens no order that it was not asked to open. -/
def Venue.Later (opens : String → Prop) (before after : Venue) : Prop :=
  ∀ clientOrderId, (before clientOrderId).fills ⊆ (after clientOrderId).fills ∧
    ((after clientOrderId).live ≠ none → (before clientOrderId).live ≠ none ∨ opens clientOrderId)

def SaysOver (report : Order ℚ) : Prop :=
  report.status = .cancelled ∨ report.status = .rejected

def NotLive (venue : Venue) (clientOrderId : String) (report : Order ℚ) : Prop :=
  ∀ exchangeOrderId, (venue clientOrderId).live = some exchangeOrderId →
    report.exchangeOrderId ≠ some exchangeOrderId

/-- What the adapter answers to a call, where it is asked, and what is reported by it, is true. -/
def TrueOf (omId : String) (world : World Stored ℚ) (venue : Venue) (call : Call ℚ) : Prop :=
  let answer := world.answer call
  match call with
  | .place _ => call.Asks omId world.memory → ∀ report, answer.order = .ok report →
      report.status = .rejected → (venue (placeId omId world.memory.nextSeq)).live = none
  | .amend _ _ _ => True
  | .cancel clientOrderId => call.Asks omId world.memory → ∀ report, answer.order = .ok report →
      SaysOver report → NotLive venue clientOrderId report
  | .cancelAll _ => ∀ reports, answer.orders = .ok reports → ∀ report ∈ reports,
      Closable world.memory report.clientOrderId → NotLive venue report.clientOrderId report
  | .reportFill clientOrderId fill => fill ∈ (venue clientOrderId).fills
  | .reportOrderUpdate clientOrderId report => SaysOver report → NotLive venue clientOrderId report
  | .resync clientOrderId => call.Asks omId world.memory → ∀ existing report,
      world.memory.snapshots.get? clientOrderId = some existing →
      answer.resynced existing report → SaysOver report → NotLive venue clientOrderId report

def AboutLive (venue : Venue) (clientOrderId : String) (report : Order ℚ) : Prop :=
  ∀ exchangeOrderId, (venue clientOrderId).live = some exchangeOrderId →
    report.exchangeOrderId = some exchangeOrderId

/-- A call of the adapter that fails leaves no live order, a report that an order is over, of an
order that the manager has open, is about the live one, and a fill that completes the manager's
quantity does not leave a live order of a larger quantity. -/
def Conclusive (omId : String) (world : World Stored ℚ) (venue : Venue) (call : Call ℚ) : Prop :=
  let answer := world.answer call
  match call with
  | .place _ => call.Asks omId world.memory →
      ∀ message, answer.order = .error (.exchangeAdapter message) →
        (venue (placeId omId world.memory.nextSeq)).live = none
  | .amend _ _ _ => True
  | .cancel clientOrderId => call.Asks omId world.memory →
      (∀ message, answer.order = .error (.exchangeAdapter message) →
        (venue clientOrderId).live = none) ∧
      ∀ report, answer.order = .ok report → SaysOver report → AboutLive venue clientOrderId report
  | .cancelAll _ => ∀ reports, answer.orders = .ok reports → ∀ report ∈ reports,
      Closable world.memory report.clientOrderId → AboutLive venue report.clientOrderId report
  | .reportFill clientOrderId fill => ∀ existing,
      world.memory.snapshots.get? clientOrderId = some existing →
      isTerminal existing.lifecycleState = false →
      fill.fillId ∉ world.memory.fillIds clientOrderId →
      existing.quantity ≤ existing.filledQuantity + fill.quantity →
      (venue clientOrderId).live ≠ none → (venue clientOrderId).quantity ≤ existing.quantity
  | .reportOrderUpdate clientOrderId report => ∀ existing,
      world.memory.snapshots.get? clientOrderId = some existing →
      isTerminal existing.lifecycleState = false → SaysOver report →
      AboutLive venue clientOrderId report
  | .resync clientOrderId => call.Asks omId world.memory → ∀ existing report,
      world.memory.snapshots.get? clientOrderId = some existing →
      isTerminal existing.lifecycleState = false →
      answer.resynced existing report → SaysOver report → AboutLive venue clientOrderId report

private theorem closed_of_reports {venue : Venue} {clientOrderId : String} {report : Order ℚ}
    (notLive : NotLive venue clientOrderId report) (aboutLive : AboutLive venue clientOrderId report) :
    (venue clientOrderId).live = none := by
  cases live : (venue clientOrderId).live with
  | none => rfl
  | some exchangeOrderId => exact (notLive _ live (aboutLive _ live)).elim

/-- A closed order is not live, and an open one has been credited with the venue's
fills that the manager knows. -/
structure Tallied (order : VenueOrder) (snapshot : OrderSnapshot ℚ) (known : List String) : Prop where
  closed : isTerminal snapshot.lifecycleState = true → order.live = none
  filled : isTerminal snapshot.lifecycleState = false → ∃ credited,
    credited ⊆ order.fills ∧ credited.map Fill.fillId = known ∧ known.Nodup ∧
      snapshot.filledQuantity = total credited

def AllTallied (venue : Venue) (memory : Memory ℚ) : Prop :=
  ∀ clientOrderId snapshot, memory.snapshots.get? clientOrderId = some snapshot →
    Tallied (venue clientOrderId) snapshot (memory.fillIds clientOrderId)

def Closing (trigger : OrderLifecycleTrigger) : Prop :=
  trigger = .rejected ∨ trigger = .submitFailed ∨ trigger = .cancelConfirmed ∨
    trigger = .cancelFailed ∨ trigger = .fullFill

instance : DecidablePred Closing := fun trigger =>
  inferInstanceAs (Decidable (trigger = .rejected ∨ trigger = .submitFailed ∨
    trigger = .cancelConfirmed ∨ trigger = .cancelFailed ∨ trigger = .fullFill))

/-- An event closes an order only if the venue has closed it, and credits it only
with a fill of the venue. -/
def Justified (venue : Venue) (payload : Payload ℚ) : Prop :=
  (∀ trigger, payload.trigger = some trigger → Closing trigger →
    (venue payload.clientOrderId).live = none) ∧
  (payload.action = .fill → ∃ fill ∈ (venue payload.clientOrderId).fills,
    payload.details.fillId = some fill.fillId ∧
      payload.details.fillQuantity = some fill.quantity)

theorem AllTallied.patch {venue : Venue} {memory : Memory ℚ} {patch : Patch ℚ}
    (tallied : AllTallied venue memory)
    (patched : ∀ snapshot, patch.snapshot = some snapshot →
      Tallied (venue patch.clientOrderId) snapshot
        (patch.fills.apply (memory.fillIds patch.clientOrderId)))
    (kept : patch.snapshot = none → patch.fills = .keep) :
    AllTallied venue (memory.patch patch) := by
  intro clientOrderId snapshot tracked
  rw [Memory.patch_snapshots] at tracked
  rw [Memory.patch_fillIds]
  by_cases same : clientOrderId = patch.clientOrderId
  · rw [if_pos same]
    cases built : patch.snapshot with
    | none =>
        rw [built] at tracked
        rw [kept built]
        exact tallied clientOrderId snapshot (by simpa using tracked)
    | some next =>
        rw [if_pos ⟨same, by rw [built]; rfl⟩, built] at tracked
        cases tracked
        rw [same]
        exact patched _ built
  · rw [if_neg same]
    rw [if_neg (fun both => same both.1)] at tracked
    exact tallied clientOrderId snapshot tracked

theorem Tallied.advance {order : VenueOrder} {existing next : OrderSnapshot ℚ} {known : List String}
    (tallied : Tallied order existing known) (same : next.filledQuantity = existing.filledQuantity)
    (alive : isTerminal existing.lifecycleState = false)
    (closes : isTerminal next.lifecycleState = true → order.live = none) :
    Tallied order next known :=
  { closed := closes
    filled := fun _ => by
      rw [same]
      exact tallied.filled alive }

variable {trigger : OrderLifecycleTrigger}

private theorem closing_of_nextState? {state target : OrderLifecycleState}
    (legal : nextState? state trigger = some target) (terminal : isTerminal target = true)
    (unexpired : trigger ≠ .expired) : Closing trigger := by
  have leads : ∀ trigger, trigger ≠ .expired → ¬ Closing trigger →
      TransitionTable.LeadsTo transitionTable trigger fun state => isTerminal state = false := by
    intro trigger
    cases trigger <;> decide
  by_contra other
  rw [(leads trigger unexpired other).nextState? legal] at terminal
  cases terminal

theorem StatusKey.unexpired {durable : Nat → Prop} {nextSeq order : Nat}
    {state : OrderLifecycleState} {seq : Option Nat} {key : MutationKey}
    (keyed : StatusKey durable nextSeq order state trigger seq key) : trigger ≠ .expired := by
  rintro rfl
  cases keyed with
  | status status trigger reported => cases status <;> cases reported

theorem AllTallied.record {exact : Prop} {venue : Venue} {core : Core Stored ℚ} {key : MutationKey}
    {payload : Payload ℚ} (reached : Reachable exact omId core)
    (tallied : AllTallied venue core.memory)
    (recorded : Recorded omId (Durable ℚ omId core.log) core.memory key payload)
    (justified : Justified venue payload) (now : String) :
    AllTallied venue
      (core.memory.applyEvent (recordedEvent omId core.log key payload now) payload).2 := by
  have fresh := reached.eventId_fresh key payload now
  cases recorded with
  | submit arguments =>
      rw [patches_submit core.memory.snapshots _ omId core.memory.nextSeq arguments core.memory rfl
        fresh]
      refine tallied.patch ?_ (fun absent => by cases absent)
      rintro snapshot ⟨⟩
      refine { closed := fun terminal => (by cases terminal), filled := fun _ => ⟨[], ?_⟩ }
      have untracked := reached.fillIds_untracked _ reached.nextSeq_untracked
      change core.memory.fillIds (placeId omId core.memory.nextSeq) = [] at untracked
      change [] ⊆ _ ∧ [] = core.memory.fillIds (placeId omId core.memory.nextSeq) ∧
        (core.memory.fillIds (placeId omId core.memory.nextSeq)).Nodup ∧ (0 : ℚ) = 0
      rw [untracked]
      exact ⟨List.nil_subset _, rfl, List.nodup_nil, rfl⟩
  | amendRequested order existing tracked details =>
      rw [patches_intent core.memory.snapshots _ (Or.inl rfl) core.memory rfl fresh]
      exact tallied.patch (fun snapshot absent => by cases absent) fun _ => rfl
  | cancelAllRequested details =>
      rw [patches_intent core.memory.snapshots _ (Or.inr rfl) core.memory rfl fresh]
      exact tallied.patch (fun snapshot absent => by cases absent) fun _ => rfl
  | amendApplied order request existing known tracked amendable details =>
      have alive : isTerminal existing.lifecycleState = false := by
        rcases amendable with state | state
        · rw [state]
          decide
        · rw [state]
          decide
      rw [patches_amend _ rfl tracked core.memory rfl fresh]
      refine tallied.patch ?_ (fun absent => by cases absent)
      rintro snapshot ⟨⟩
      exact (tallied _ existing tracked).advance rfl alive (tallied _ existing tracked).closed
  | statusUpdate order existing trigger toState seq key details tracked legal keyed =>
      rw [patches_statusUpdate _ omId (placeId omId order) seq details tracked legal core.memory rfl
        fresh]
      refine tallied.patch ?_ (fun absent => by cases absent)
      rintro snapshot ⟨⟩
      refine (tallied _ existing tracked).advance rfl (not_isTerminal_of_nextState? legal) ?_
      intro terminal
      exact justified.1 trigger rfl (closing_of_nextState? legal terminal keyed.unexpired)
  | fill order existing fill newFilled trigger toState tracked unknown sum triggered legal =>
      rw [patches_fill _ omId (placeId omId order) fill tracked legal sum core.memory rfl fresh]
      refine tallied.patch ?_ (fun absent => by cases absent)
      rintro snapshot ⟨⟩
      obtain ⟨credited, subset, named, distinct, filled⟩ :=
        (tallied _ existing tracked).filled (not_isTerminal_of_nextState? legal)
      obtain ⟨fact, member, sameId, sameQuantity⟩ := justified.2 rfl
      have identified : fill.fillId = fact.fillId := Option.some.inj sameId
      have measured : fill.quantity = fact.quantity := Option.some.inj sameQuantity
      refine { closed := ?_, filled := fun _ => ⟨credited ++ [fact], ?_, ?_, ?_, ?_⟩ }
      · intro terminal
        refine justified.1 trigger rfl (closing_of_nextState? legal terminal ?_)
        rintro rfl
        rw [fillTrigger_rat] at triggered
        split at triggered <;> cases triggered
      · exact List.append_subset.mpr ⟨subset, List.cons_subset.mpr ⟨member, List.nil_subset _⟩⟩
      · change _ = addToSet (core.memory.fillIds (placeId omId order)) fill.fillId
        rw [List.map_append, named, addToSet, if_neg unknown, identified]
        rfl
      · change (addToSet (core.memory.fillIds (placeId omId order)) fill.fillId).Nodup
        rw [addToSet, if_neg unknown]
        exact distinct.append (List.nodup_singleton _) (List.disjoint_singleton.mpr unknown)
      · change newFilled = _
        have added : newFilled = existing.filledQuantity + fill.quantity := (Except.ok.inj sum).symm
        rw [added, filled, measured, total, total, List.map_append, List.sum_append,
          List.map_singleton, List.sum_singleton]

theorem AllTallied.move {exact : Prop} {venue : Venue} {before after : Core Stored ℚ}
    (reached : Reachable exact omId before) (tallied : AllTallied venue before.memory)
    (move : Move exact omId (fun _ => Justified venue) before after) :
    AllTallied venue after.memory := by
  cases move with
  | record log key payload now recorded allowed unused entries =>
      exact tallied.record reached recorded allowed now
  | burn allowed => exact tallied
  | hand request seq suffix identified durable fresh => exact tallied
  | foreign log added entries => exact tallied
  | lateFill clientOrderId fillId existing tracked terminal =>
      intro other snapshot found
      change before.memory.snapshots.get? other = some snapshot at found
      change Tallied _ _ ((before.memory.addFillId clientOrderId fillId).fillIds other)
      rw [Memory.addFillId_fillIds]
      by_cases same : other = clientOrderId
      · rw [same, tracked] at found
        cases found
        refine { closed := (tallied _ _ (same ▸ tracked)).closed, filled := fun alive => ?_ }
        rw [terminal] at alive
        cases alive
      · rw [if_neg same]
        exact tallied other snapshot found
  | restart memory constructed =>
      have agrees := reached.restarted constructed
      intro clientOrderId snapshot found
      change memory.snapshots.get? clientOrderId = some snapshot at found
      rw [agrees.snapshots] at found
      have before' := tallied clientOrderId snapshot found
      change Tallied _ _ (memory.fillIds clientOrderId)
      rcases agrees.fillIds clientOrderId with same | ⟨existing, tracked, terminal⟩
      · rw [same]
        exact before'
      · change before.memory.snapshots.get? clientOrderId = some existing at tracked
        rw [tracked] at found
        cases found
        refine { closed := before'.closed, filled := fun alive => ?_ }
        rw [terminal] at alive
        cases alive

def Watch.venue (omId : String) (Stored : Type) [Sources Stored ℚ] (venue : Venue) :
    Watch omId Stored ℚ :=
  { exact := False
    permitted := fun _ => Justified venue
    kept := fun core => AllTallied venue core.memory
    keeps := fun _ _ reached tallied move => tallied.move reached move }

omit [Sources Stored ℚ] in
theorem AllTallied.later {before after : Venue} {memory : Memory ℚ}
    {opens : String → Prop} (tallied : AllTallied before memory)
    (later : before.Later opens after)
    (untracked : ∀ clientOrderId, opens clientOrderId → memory.snapshots.get? clientOrderId = none) :
    AllTallied after memory := by
  intro clientOrderId snapshot tracked
  obtain ⟨subset, stays⟩ := later clientOrderId
  have old := tallied clientOrderId snapshot tracked
  refine { closed := ?_, filled := ?_ }
  · intro terminal
    by_contra live
    rcases stays live with wasLive | opened
    · exact wasLive (old.closed terminal)
    · rw [untracked clientOrderId opened] at tracked
      cases tracked
  · intro alive
    obtain ⟨credited, known, rest⟩ := old.filled alive
    exact ⟨credited, List.Subset.trans known subset, rest⟩

theorem Tallied.fill_closes {order : VenueOrder} {existing : OrderSnapshot ℚ} {known : List String}
    (tallied : Tallied order existing known) (alive : isTerminal existing.lifecycleState = false)
    {fill : Fill ℚ} (member : fill ∈ order.fills) (unknown : fill.fillId ∉ known)
    (complete : existing.quantity ≤ existing.filledQuantity + fill.quantity)
    (covers : order.live ≠ none → order.quantity ≤ existing.quantity) : order.live = none := by
  by_contra live
  obtain ⟨credited, subset, named, distinct, filled⟩ := tallied.filled alive
  have distinctAfter : ((credited ++ [fill]).map Fill.fillId).Nodup := by
    rw [List.map_append, named]
    exact distinct.append (List.nodup_singleton _) (List.disjoint_singleton.mpr unknown)
  have bounded := order.total_le distinctAfter
    (List.append_subset.mpr ⟨subset, List.cons_subset.mpr ⟨member, List.nil_subset _⟩⟩)
  have sum : total (credited ++ [fill]) = existing.filledQuantity + fill.quantity := by
    rw [filled, total, total, List.map_append, List.sum_append, List.map_singleton,
      List.sum_singleton]
  have unfilled := order.unfilled live
  have covered := covers live
  linarith

private theorem closing_of_statusToTrigger? {status : OrderStatus}
    (reported : statusToTrigger? status = some trigger) (closing : Closing trigger) :
    status = .cancelled ∨ status = .rejected := by
  cases status with
  | cancelled => exact Or.inl rfl
  | rejected => exact Or.inr rfl
  | acknowledged =>
      cases reported
      exact absurd closing (by decide)
  | new => cases reported
  | partiallyFilled => cases reported
  | filled => cases reported
  | unknown => cases reported

/-- The events of a call against a truthful venue are justified if the call proves
what it records. -/
theorem permits_venue {venue : Venue} {world : World Stored ℚ}
    (tallied : AllTallied venue world.memory) {call : Call ℚ} (honest : TrueOf omId world venue call)
    (conclusive : Conclusive omId world venue call) :
    Permits (Watch.venue omId Stored venue) world call := by
  intro key payload caused
  have opens {clientOrderId : String} {seq : Option Nat} {trigger : OrderLifecycleTrigger}
      {fromState toState : OrderLifecycleState} {details : Details ℚ}
      (closes : Closing trigger → (venue clientOrderId).live = none) :
      Justified venue (transitionPayload omId .statusUpdate clientOrderId seq trigger fromState
        toState details) := by
    refine ⟨?_, fun isFill => by cases isFill⟩
    rintro other ⟨⟩ closing
    exact closes closing
  have plain {action : Action} {clientOrderId : String} {seq : Option Nat} {details : Details ℚ}
      (notFill : action ≠ .fill) :
      Justified venue (plainPayload omId action clientOrderId seq details) := by
    refine ⟨?_, fun isFill => (notFill isFill).elim⟩
    rintro trigger ⟨⟩
  have never {trigger : OrderLifecycleTrigger} {clientOrderId : String}
      (still : ¬ Closing trigger) (closing : Closing trigger) : (venue clientOrderId).live = none :=
    (still closing).elim
  cases caused with
  | submit arguments => exact plain (by decide)
  | submitFailed arguments message fromState toState answered asks =>
      exact opens fun _ => conclusive asks message answered
  | placed arguments report trigger fromState toState answered reported asks =>
      refine opens fun closing => ?_
      refine honest asks report answered ?_
      by_contra accepted
      rw [if_neg accepted] at reported
      cases reported
      exact absurd closing (by decide)
  | amendRequested order newQuantity newLimitPrice details =>
      exact plain (by decide)
  | amended order newQuantity newLimitPrice report answered =>
      exact plain (by decide)
  | cancelRequested order fromState toState details =>
      exact opens (never (by decide))
  | cancelFailed order message fromState toState answered asks =>
      exact opens fun _ => (conclusive asks).1 message answered
  | cancelAnswered order report trigger fromState toState answered reported asks =>
      refine opens fun closing => ?_
      have closes := closing_of_statusToTrigger? reported closing
      exact closed_of_reports (honest asks report answered closes)
        ((conclusive asks).2 report answered closes)
  | cancelAllRequested symbol details =>
      exact plain (by decide)
  | cancelAllPending symbol reports report order fromState toState details answered member named =>
      exact opens (never (by decide))
  | cancelAllConfirmed symbol reports report order fromState toState details answered member named
      closable =>
      exact opens fun _ => closed_of_reports (honest reports answered report member closable)
        (conclusive reports answered report member closable)
  | fill order fill existing newFilled trigger toState tracked fresh sum triggered legal =>
      refine ⟨?_, fun _ => ⟨fill, honest, rfl, rfl⟩⟩
      rintro other ⟨⟩ closing
      have added : newFilled = existing.filledQuantity + fill.quantity := (Except.ok.inj sum).symm
      rw [fillTrigger_rat, added] at triggered
      have complete : existing.quantity ≤ existing.filledQuantity + fill.quantity := by
        by_contra incomplete
        rw [if_neg incomplete] at triggered
        cases triggered
        exact absurd closing (by decide)
      have alive := not_isTerminal_of_nextState? legal
      exact (tallied _ existing tracked).fill_closes alive honest fresh complete
        (conclusive existing tracked alive fresh complete)
  | updated order report trigger fromState toState reported existing tracked =>
      refine opens fun closing => ?_
      have closes := closing_of_statusToTrigger? reported closing
      cases alive : isTerminal existing.lifecycleState with
      | true => exact (tallied _ existing tracked).closed alive
      | false => exact closed_of_reports (honest closes) (conclusive existing tracked alive closes)
  | resynced order report trigger fromState toState reported asks existing tracked answered =>
      refine opens fun closing => ?_
      have closes := closing_of_statusToTrigger? reported closing
      cases alive : isTerminal existing.lifecycleState with
      | true => exact (tallied _ existing tracked).closed alive
      | false =>
          exact closed_of_reports (honest asks existing report tracked answered closes)
            (conclusive asks existing report tracked alive answered closes)

def tradeStep (state : System Stored ℚ × Venue) (trade : Trade omId Stored) :
    System Stored ℚ × Venue :=
  (state.1.step trade.step, trade.venue)

def tradeRun (state : System Stored ℚ × Venue) (trades : List (Trade omId Stored)) :
    System Stored ℚ × Venue :=
  trades.foldl tradeStep state

private theorem tradeRun_singleton (state : System Stored ℚ × Venue) (trade : Trade omId Stored) :
    tradeRun state [trade] = (state.1.step trade.step, trade.venue) := rfl

/-- The venue keeps its orders, and what a call is told of them is true. -/
def HonestTrade (state : System Stored ℚ × Venue) (trade : Trade omId Stored) : Prop :=
  state.2.Later (Opens state.1 trade.step) trade.venue ∧
    ∀ call, trade.step = .call call → state.1.alive = true →
      TrueOf omId state.1.world trade.venue call

def ConclusiveTrade (state : System Stored ℚ × Venue) (trade : Trade omId Stored) : Prop :=
  ∀ call, trade.step = .call call → state.1.alive = true →
    Conclusive omId state.1.world trade.venue call

theorem System.Sound.later {system : System Stored ℚ} {before after : Venue}
    {step : Step omId Stored ℚ} (sound : system.Sound (Watch.venue omId Stored before))
    (later : before.Later (Opens system step) after) :
    system.Sound (Watch.venue omId Stored after) := by
  cases alive : system.alive with
  | true =>
      have ready := sound.ready alive
      refine .ofReady { reachable := ready.reachable, kept := ?_, appends := ready.appends }
      refine ready.kept.later later ?_
      rintro clientOrderId ⟨_, arguments, _, rfl⟩
      exact ready.reachable.nextSeq_untracked
  | false =>
      obtain ⟨appends, memory, reached, kept⟩ := sound.recoverable
      have keptAfter : AllTallied after memory := by
        refine kept.later later ?_
        rintro clientOrderId ⟨isAlive, _⟩
        rw [alive] at isAlive
        cases isAlive
      refine { recoverable := ⟨appends, memory, reached, keptAfter⟩, ready := ?_ }
      intro isAlive
      rw [alive] at isAlive
      cases isAlive

theorem System.Sound.trade {state : System Stored ℚ × Venue} {trade : Trade omId Stored}
    (sound : state.1.Sound (Watch.venue omId Stored state.2)) (honest : HonestTrade state trade)
    (conclusive : ConclusiveTrade state trade) :
    (tradeStep state trade).1.Sound (Watch.venue omId Stored (tradeStep state trade).2) := by
  have later : state.1.Sound (Watch.venue omId Stored trade.venue) := sound.later honest.1
  refine later.step trade.step ?_
  intro call isCall alive
  exact permits_venue (later.ready alive).kept (honest.2 call isCall alive)
    (conclusive call isCall alive)

/-- While every call proves what it records, an order that the manager has closed
is not live at the venue. -/
theorem run_closedNotLive {memory : Memory ℚ}
    (constructed : construct omId (Ledger.empty : Log Stored) = .ok memory)
    (machine : ExecutionStateMachine.Machine) (environment : Nat → Answer ℚ) (venue : Venue)
    (trades : List (Trade omId Stored)) :
    let start := ((System.start memory machine environment : System Stored ℚ), venue)
    Along tradeStep HonestTrade start trades → Along tradeStep ConclusiveTrade start trades →
      let final := tradeRun start trades
      final.1.alive = true → ∀ clientOrderId snapshot,
        final.1.world.memory.snapshots.get? clientOrderId = some snapshot →
        isTerminal snapshot.lifecycleState = true → (final.2 clientOrderId).live = none := by
  intro start honest conclusive final alive clientOrderId snapshot tracked terminal
  have started : start.1.Sound (Watch.venue omId Stored start.2) := by
    refine .ofReady
      { reachable := .start memory constructed
        kept := ?_
        appends := fun impossible => impossible.elim }
    change AllTallied venue memory
    rw [construct_empty constructed]
    intro _ _ absent
    cases absent
  have sound : final.1.Sound (Watch.venue omId Stored final.2) :=
    (honest.and conclusive).keeps
      (fun state => state.1.Sound (Watch.venue omId Stored state.2))
      (fun state trade before holds => before.trade holds.1 holds.2) started
  exact ((sound.ready alive).kept clientOrderId snapshot tracked).closed terminal

def timeoutEnvironment : Nat → Answer ℚ := fun tick => { dyingEnvironment 0 tick with crash := false }

def noOrder (live : Option String) : VenueOrder :=
  { fills := []
    distinct := List.nodup_nil
    live
    quantity := 2
    positive := fun _ none => (List.not_mem_nil none).elim
    unfilled := fun _ => by
      rw [total, List.map_nil, List.sum_nil]
      norm_num }

def firstOrderVenue (live : Option String) : Venue := fun clientOrderId =>
  noOrder (if clientOrderId = placeId "main" 1 then live else none)

private theorem firstOrderVenue_none (clientOrderId : String) :
    (firstOrderVenue none clientOrderId).live = none := by
  change (if clientOrderId = placeId "main" 1 then none else none) = none
  exact ite_self none

private theorem firstOrderVenue_first (live : Option String) :
    (firstOrderVenue live (placeId "main" 1)).live = live := by
  change (if placeId "main" 1 = placeId "main" 1 then live else none) = live
  exact if_pos rfl

def buyStep : Step "main" OrderStored ℚ :=
  .call (.place marketBuy)

def timedOutPlace (live : Option String) :
    Trade "main" OrderStored :=
  { step := buyStep, venue := firstOrderVenue live }

def timeoutStart : System OrderStored ℚ :=
  System.start Memory.initial freshMachine timeoutEnvironment

private theorem timedOutPlace_honest (live : Option String) :
    Along tradeStep HonestTrade (timeoutStart, firstOrderVenue none) [timedOutPlace live] := by
  refine ⟨⟨?_, ?_⟩, trivial⟩
  · intro clientOrderId
    refine ⟨List.nil_subset _, ?_⟩
    intro isLive
    by_cases same : clientOrderId = placeId "main" 1
    · exact Or.inr ⟨rfl, marketBuy, rfl, same⟩
    · exact (isLive (if_neg same)).elim
  · intro call isCall _
    obtain rfl : call = .place marketBuy := (Step.call.inj isCall).symm
    intro _ report answered
    cases answered

private theorem refusedPlace_conclusive :
    Along tradeStep ConclusiveTrade (timeoutStart, firstOrderVenue none) [timedOutPlace none] := by
  refine ⟨?_, trivial⟩
  intro call isCall _
  obtain rfl : call = .place marketBuy := (Step.call.inj isCall).symm
  intro _ message _
  exact firstOrderVenue_none _

private theorem timeoutStart_closes :
    (timeoutStart.step buyStep).alive = true ∧ ∃ snapshot,
      (timeoutStart.step buyStep).world.memory.snapshots.get? (placeId "main" 1) = some snapshot ∧
        isTerminal snapshot.lifecycleState = true := by
  have alive : (timeoutStart.step buyStep).alive = true := by
    decide +kernel
  have closed : ((timeoutStart.step buyStep).world.memory.snapshots.get? (placeId "main" 1)).map
      (fun snapshot => isTerminal snapshot.lifecycleState) = some true := by
    decide +kernel
  refine ⟨alive, ?_⟩
  generalize (timeoutStart.step buyStep).world.memory.snapshots.get? (placeId "main" 1) = found
    at closed ⊢
  cases found with
  | none => cases closed
  | some snapshot => exact ⟨snapshot, rfl, Option.some.inj closed⟩

theorem run_closedNotLive_refusedPlace :
    let start := (
      (System.start Memory.initial freshMachine timeoutEnvironment : System OrderStored ℚ),
      firstOrderVenue none)
    let final := tradeRun start [timedOutPlace none]
    ∀ clientOrderId snapshot,
      final.1.world.memory.snapshots.get? clientOrderId = some snapshot →
      isTerminal snapshot.lifecycleState = true → (final.2 clientOrderId).live = none :=
  run_closedNotLive rfl freshMachine timeoutEnvironment
    (firstOrderVenue none) [timedOutPlace none] (timedOutPlace_honest none) refusedPlace_conclusive
    (by decide +kernel)

/-- The call failed after the venue had accepted the order. -/
theorem acceptedPlace_live :
    let start := (timeoutStart, firstOrderVenue none)
    let final := tradeRun start [timedOutPlace (some "7")]
    Along tradeStep HonestTrade start [timedOutPlace (some "7")] ∧ final.1.alive = true ∧
      (∃ snapshot, final.1.world.memory.snapshots.get? (placeId "main" 1) = some snapshot ∧
        isTerminal snapshot.lifecycleState = true) ∧
      (final.2 (placeId "main" 1)).live = some "7" := by
  intro start final
  have ran : final = (timeoutStart.step buyStep, firstOrderVenue (some "7")) :=
    tradeRun_singleton start (timedOutPlace (some "7"))
  rw [ran]
  dsimp only
  exact ⟨timedOutPlace_honest _, timeoutStart_closes.1, timeoutStart_closes.2,
    firstOrderVenue_first _⟩

end TurtleExecution.OrderManager
