/-
When a cancellation is reported, and what the order manager records of it.

A single cancel asks the response only for an error; `cancel_all` asks for the success
status at the order's own place.  The two agree, and a reported cancellation is
confirmed, exactly for the responses that say either at their first place, or from
which no first status can be read.
-/

import TurtleExecution.HyperliquidAdapter.Attribution
import TurtleExecution.HyperliquidAdapter.Mutations
import TurtleExecution.OrderManager.Runs

set_option autoImplicit false

namespace TurtleExecution.HyperliquidAdapter

open ExchangeAdapter SecretsBoundary

def Confirmed (body : Json) (index : Nat) : Prop :=
  ∃ items, statuses body = .array items ∧ items[index]? = some (.string "success")

def Accepted : Json → Prop
  | .object members => member? members "status" = some (.string "ok")
  | _ => False

/-- The first status is a success or an error, or there is no reading a first status. -/
def Decisive : Json → Prop
  | .null => False
  | .bool value => value = true
  | .number value => nonzero value = true
  | .string _ => False
  | .array [] => False
  | .array (.string text :: _) => text = "success"
  | .array (.object members :: _) => (member? members "error").isSome = true
  | .array (_ :: _) => False
  | .object members => members ≠ []

def Decided (body : Json) : Prop :=
  Accepted body → Decisive (statuses body)

section

variable {Number : Type} {wire : Wire Json Number} {now : String} {order reported : Order Number}
  {body : Json}

private theorem checkOk_iff : checkOk wire body = .ok () ↔ Accepted body := by
  unfold checkOk Accepted
  cases body with
  | object members =>
      dsimp only
      cases found : member? members "status" with
      | none => exact ⟨fun impossible => (by cases impossible), fun impossible => (by cases impossible)⟩
      | some status =>
          rw [Option.getD_some, Option.some.injEq]
          constructor
          · intro passed
            split at passed
            · rfl
            · cases passed
            · cases passed
          · rintro rfl
            rfl
  | _ => exact ⟨fun impossible => (by cases impossible), False.elim⟩

private theorem accepted_of_bind {Value : Type} {next : Except CallError Value} {value : Value}
    (answered : (checkOk wire body >>= fun _ => next) = .ok value) :
    Accepted body ∧ next = .ok value := by
  obtain ⟨_, passed, answered⟩ := ok_of_bind answered
  exact ⟨checkOk_iff.mp passed, answered⟩

private theorem cancelOutcome_reports (answered : cancelOutcome wire now order body = .ok reported) :
    Accepted body ∧ reported = asCancelled now order := by
  obtain ⟨accepted, answered⟩ := accepted_of_bind answered
  refine ⟨accepted, ?_⟩
  dsimp only at answered
  split at answered
  · obtain ⟨first, _, answered⟩ := ok_of_bind answered
    split at answered
    · split at answered
      · cases answered
      · cases answered
        rfl
    · cases answered
      rfl
  · cases answered
    rfl

private theorem cancelOutcome_undecided (accepted : Accepted body)
    (undecided : ¬ Decisive (statuses body)) :
    cancelOutcome wire now order body = .ok (asCancelled now order) := by
  unfold cancelOutcome
  rw [bind_of_ok (checkOk_iff.mpr accepted)]
  dsimp only
  cases listed : statuses body with
  | null => rfl
  | bool value =>
      rw [listed] at undecided
      cases value with
      | false => rfl
      | true => exact (undecided rfl).elim
  | number value =>
      rw [listed] at undecided
      have zero : nonzero value = false := Bool.eq_false_of_not_eq_true undecided
      rw [truthy, zero]
      rfl
  | string text =>
      rw [truthy]
      by_cases empty : text = ""
      · rw [empty]
        rfl
      · rw [if_pos (decide_eq_true empty), item]
        cases found : text.text.points with
        | nil => exact (empty (JsonText.ext (PyStr.points_injective found))).elim
        | cons point points => rfl
  | array items =>
      rw [listed] at undecided
      cases items with
      | nil => rfl
      | cons first items =>
          cases first with
          | object members =>
              have noError : member? members "error" = none :=
                Option.not_isSome_iff_eq_none.mp undecided
              rw [if_pos (rfl : truthy _ = true), bind_of_ok (rfl : item _ 0 = .ok (.object members))]
              dsimp only
              rw [noError]
              rfl
          | _ => rfl
  | object members =>
      rw [listed] at undecided
      have empty : members = [] := Decidable.not_not.mp undecided
      rw [empty]
      rfl

private theorem cancelOutcome_confirmed (decided : Decided body)
    (answered : cancelOutcome wire now order body = .ok reported) : Confirmed body 0 := by
  obtain ⟨accepted, answered⟩ := accepted_of_bind answered
  have decisive := decided accepted
  dsimp only at answered
  cases listed : statuses body with
  | null =>
      rw [listed] at decisive
      exact decisive.elim
  | bool value =>
      rw [listed] at decisive answered
      rw [show value = true from decisive] at answered
      cases answered
  | number value =>
      rw [listed] at decisive answered
      rw [truthy, show nonzero value = true from decisive] at answered
      cases answered
  | string text =>
      rw [listed] at decisive
      exact decisive.elim
  | array items =>
      rw [listed] at decisive answered
      cases items with
      | nil => exact decisive.elim
      | cons first items =>
          cases first with
          | string text =>
              obtain rfl : text = "success" := decisive
              exact ⟨_, listed, rfl⟩
          | object members =>
              obtain ⟨error, found⟩ := Option.isSome_iff_exists.mp decisive
              rw [if_pos (rfl : truthy _ = true), bind_of_ok (rfl : item _ 0 = .ok (.object members))]
                at answered
              dsimp only at answered
              rw [found] at answered
              cases answered
          | _ => exact decisive.elim
  | object members =>
      rw [listed] at decisive answered
      cases members with
      | nil => exact (decisive rfl).elim
      | cons member members => cases answered

private theorem entryAt_isSuccess {value entry : Json} {index : Nat}
    (read : entryAt value index = .ok entry) (success : isSuccess entry = true) :
    ∃ items, value = .array items ∧ items[index]? = some (.string "success") := by
  have isText : entry = .string "success" := by
    cases entry with
    | string text => rw [of_decide_eq_true success]
    | _ => cases success
  subst isText
  obtain ⟨count, counted, read⟩ := ok_of_bind read
  split at read
  · cases value with
    | string text =>
        unfold item at read
        dsimp only at read
        split at read
        · rename_i point _
          have same : JsonText.ofPoints [point] = ("success" : JsonText) := by
            injection read with read
            injection read
          have points := congrArg (fun text : JsonText => text.text.points) same
          rw [JsonText.ofPoints, JsonText.points_joined, PyStr.points_ofPoints] at points
          cases point <;> cases points
        · cases read
    | array items =>
        unfold item at read
        dsimp only at read
        split at read
        · rename_i found isFound
          cases read
          exact ⟨items, rfl, isFound⟩
        · cases read
    | _ => cases read
  · cases read

private theorem mem_confirmedFrom {value : Json} {orders confirmed : List (Order Number)}
    {start : Nat}
    (answered : confirmedFrom now value start orders = .ok confirmed) (member : reported ∈ confirmed) :
    ∃ index shown, orders[index]? = some shown ∧ reported = asCancelled now shown ∧
      ∃ items, value = .array items ∧ items[start + index]? = some (.string "success") := by
  induction orders generalizing start confirmed with
  | nil =>
      cases answered
      cases member
  | cons order orders ih =>
      obtain ⟨entry, read, answered⟩ := ok_of_bind answered
      obtain ⟨rest, others, answered⟩ := ok_of_bind answered
      have later : reported ∈ rest → ∃ index shown, (order :: orders)[index]? = some shown ∧
          reported = asCancelled now shown ∧
          ∃ items, value = .array items ∧ items[start + index]? = some (.string "success") := by
        intro isLater
        obtain ⟨index, shown, found, same, items, isList, success⟩ := ih others isLater
        refine ⟨index + 1, shown, found, same, items, isList, ?_⟩
        rw [← success]
        congr 1
        omega
      by_cases success : isSuccess entry = true
      · rw [if_pos success] at answered
        cases answered
        rcases List.mem_cons.mp member with isFirst | isLater
        · exact ⟨0, order, rfl, isFirst, entryAt_isSuccess read success⟩
        · exact later isLater
      · rw [if_neg success] at answered
        cases answered
        exact later member

private theorem mem_cancelAllOutcome {cancellable orders : List (Order Number)}
    (answered : cancelAllOutcome wire now cancellable body = .ok orders) (member : reported ∈ orders) :
    ∃ index shown, cancellable[index]? = some shown ∧ reported = asCancelled now shown ∧
      Confirmed body index := by
  obtain ⟨_, answered⟩ := accepted_of_bind answered
  obtain ⟨index, shown, found, same, items, listed, success⟩ := mem_confirmedFrom answered member
  rw [Nat.zero_add] at success
  exact ⟨index, shown, found, same, items, listed, success⟩

theorem Confirmed.first (confirmed : Confirmed body 0) :
    ∃ items, statuses body = .array (.string "success" :: items) := by
  obtain ⟨items, listed, success⟩ := confirmed
  cases items with
  | nil => cases success
  | cons first items =>
      cases success
      exact ⟨items, listed⟩

private theorem cancelAllOutcome_single :
    (∃ orders, cancelAllOutcome wire now [order] body = .ok orders ∧
      asCancelled now order ∈ orders) ↔ Accepted body ∧ Confirmed body 0 := by
  constructor
  · rintro ⟨orders, answered, member⟩
    refine ⟨(accepted_of_bind answered).1, ?_⟩
    obtain ⟨index, shown, found, _, confirmed⟩ := mem_cancelAllOutcome answered member
    have inside := (List.getElem?_eq_some_iff.mp found).1
    rw [List.length_singleton] at inside
    obtain rfl : index = 0 := by omega
    exact confirmed
  · rintro ⟨accepted, confirmed⟩
    obtain ⟨items, listed⟩ := confirmed.first
    refine ⟨[asCancelled now order], ?_, List.mem_singleton_self _⟩
    unfold cancelAllOutcome
    rw [bind_of_ok (checkOk_iff.mpr accepted), listed]
    rfl

private theorem cancelOutcome_success (accepted : Accepted body) (confirmed : Confirmed body 0) :
    cancelOutcome wire now order body = .ok (asCancelled now order) := by
  obtain ⟨items, listed⟩ := confirmed.first
  unfold cancelOutcome
  rw [bind_of_ok (checkOk_iff.mpr accepted), listed]
  rfl

theorem Decided.agree (decided : Decided body) :
    cancelOutcome wire now order body = .ok (asCancelled now order) ↔
      ∃ orders, cancelAllOutcome wire now [order] body = .ok orders ∧
        asCancelled now order ∈ orders := by
  rw [cancelAllOutcome_single]
  constructor
  · intro answered
    exact ⟨(cancelOutcome_reports answered).1, cancelOutcome_confirmed decided answered⟩
  · rintro ⟨accepted, confirmed⟩
    exact cancelOutcome_success accepted confirmed

private theorem decided_of_agree
    (agree : cancelOutcome wire now order body = .ok (asCancelled now order) →
    ∃ orders, cancelAllOutcome wire now [order] body = .ok orders ∧
      asCancelled now order ∈ orders) : Decided body := by
  intro accepted
  by_contra undecided
  obtain ⟨_, confirmed⟩ :=
    cancelAllOutcome_single.mp (agree (cancelOutcome_undecided accepted undecided))
  obtain ⟨items, listed⟩ := confirmed.first
  apply undecided
  rw [listed]
  exact rfl

end

section

variable {Number : Type} {session : Session Number} {body : Json} {reported : Order Number}

def Session.Receives (session : Session Number) (body : Json) : Prop :=
  ∀ action, session.post action = .ok body

theorem Session.Receives.bind {Value : Type} {next : Json → Except CallError Value} {action : Action}
    {value : Value} (receives : session.Receives body)
    (answered : (session.post action >>= next) = .ok value) : next body = .ok value := by
  rw [receives action] at answered
  exact answered

variable [Arithmetic Number]

private theorem transmitCancelOrder_outcome {request : CancelRequest}
    (receives : session.Receives body)
    (answered : session.transmitCancelOrder request = .ok reported) :
    ∃ order, cancelOutcome session.wire session.now order body = .ok reported := by
  obtain ⟨_, _, answered⟩ := ok_of_bind answered
  obtain ⟨_, _, answered⟩ := ok_of_bind answered
  obtain ⟨_, _, answered⟩ := ok_of_bind answered
  obtain ⟨order, _, answered⟩ := ok_of_bind answered
  obtain ⟨asset, _, answered⟩ := ok_of_bind answered
  obtain ⟨oid, _, answered⟩ := ok_of_bind answered
  exact ⟨order, receives.bind answered⟩

private theorem mem_transmitCancelAll {request : CancelAllRequest} {orders : List (Order Number)}
    (receives : session.Receives body)
    (answered : session.transmitCancelAll request = .ok orders) (member : reported ∈ orders) :
    ∃ cancellable index shown, session.cancellable request = .ok cancellable ∧
      cancellable[index]? = some shown ∧ reported = asCancelled session.now shown ∧
      Confirmed body index := by
  obtain ⟨_, _, answered⟩ := ok_of_bind answered
  obtain ⟨_, _, answered⟩ := ok_of_bind answered
  obtain ⟨_, _, answered⟩ := ok_of_bind answered
  obtain ⟨cancellable, found, answered⟩ := ok_of_bind answered
  split at answered
  · cases answered
    cases member
  · obtain ⟨cancels, _, answered⟩ := ok_of_bind answered
    obtain ⟨index, shown, listed, same, confirmed⟩ :=
      mem_cancelAllOutcome (receives.bind answered) member
    exact ⟨cancellable, index, shown, found, listed, same, confirmed⟩

private theorem getOrders_status {orders : List (Order Number)} {order : Order Number}
    (returned : session.getOrders = .ok orders) (member : order ∈ orders) :
    order.status ≠ .cancelled := by
  obtain ⟨_, _, parsed⟩ := ok_of_bind returned
  obtain ⟨body, _, parsed⟩ := ok_of_bind parsed
  obtain ⟨entry, _, made⟩ := mem_of_parseEntries parsed member
  intro isCancelled
  rcases (parseOpenOrder_kept made).2.status with filled | acknowledged
  · rw [filled] at isCancelled
    cases isCancelled
  · rw [acknowledged] at isCancelled
    cases isCancelled

private theorem transmitAmendOrder_status {request : AmendRequest Number}
    (answered : session.transmitAmendOrder request = .ok reported) :
    reported.status ≠ .cancelled := by
  obtain ⟨_, _, answered⟩ := ok_of_bind answered
  obtain ⟨_, _, answered⟩ := ok_of_bind answered
  obtain ⟨_, _, answered⟩ := ok_of_bind answered
  obtain ⟨order, _, answered⟩ := ok_of_bind answered
  obtain ⟨asset, _, answered⟩ := ok_of_bind answered
  split at answered
  · cases answered
  · obtain ⟨tif, _, answered⟩ := ok_of_bind answered
    obtain ⟨wire, _, answered⟩ := ok_of_bind answered
    obtain ⟨oid, _, answered⟩ := ok_of_bind answered
    obtain ⟨body, _, answered⟩ := ok_of_bind answered
    obtain ⟨_, _, answered⟩ := ok_of_bind answered
    obtain ⟨orders, returned, answered⟩ := ok_of_bind answered
    split at answered
    · cases answered
    · rename_i found
      cases answered
      exact getOrders_status returned (List.mem_of_find?_eq_some found)

end

/-- A cancellation that the adapter reports, or that a manager records for its answer,
is confirmed by the response, and both paths judge an order alike. -/
structure ConfirmedOnly (omId : String) (Stored Number : Type) [Arithmetic Number]
    [OrderManager.Sources Stored Number] (body : Json) : Prop where
  single : ∀ (session : Session Number) request reported, session.Receives body →
    session.transmitCancelOrder request = .ok reported → reported.status = .cancelled →
      Confirmed body 0
  all : ∀ (session : Session Number) request orders, session.Receives body →
    session.transmitCancelAll request = .ok orders → ∀ reported ∈ orders,
      reported.status = .cancelled → ∃ cancellable index shown,
        session.cancellable request = .ok cancellable ∧ cancellable[index]? = some shown ∧
          reported = asCancelled session.now shown ∧ Confirmed body index
  amend : ∀ (session : Session Number) request reported, session.Receives body →
    session.transmitAmendOrder request = .ok reported → reported.status = .cancelled →
      Confirmed body 0
  alike : ∀ wire now (order : Order Number),
    cancelOutcome wire now order body = .ok (asCancelled now order) ↔
      ∃ orders, cancelAllOutcome wire now [order] body = .ok orders ∧
        asCancelled now order ∈ orders
  recordedSingle : ∀ (system : OrderManager.System Stored Number), system.Live omId →
    ∀ (session : Session Number) request clientOrderId, session.Receives body →
      (system.world.answer (.cancel clientOrderId)).order = session.transmitCancelOrder request →
      OrderManager.AddedSince omId system.world.log
        (fun payload : OrderManager.Payload Number =>
          payload.trigger = some .cancelConfirmed → Confirmed body 0)
        (system.step (.call (.cancel clientOrderId) :
          OrderManager.Step omId Stored Number)).world.log
  recordedAll : ∀ (system : OrderManager.System Stored Number), system.Live omId →
    ∀ (session : Session Number) request symbol, session.Receives body →
      (system.world.answer (.cancelAll symbol)).orders = session.transmitCancelAll request →
      OrderManager.AddedSince omId system.world.log
        (fun payload : OrderManager.Payload Number =>
          payload.trigger = some .cancelConfirmed → ∃ cancellable index shown,
            session.cancellable request = .ok cancellable ∧ cancellable[index]? = some shown ∧
              shown.clientOrderId = payload.clientOrderId ∧ Confirmed body index)
        (system.step (.call (.cancelAll symbol) : OrderManager.Step omId Stored Number)).world.log
  recordedAmend : ∀ (system : OrderManager.System Stored Number), system.Live omId →
    ∀ clientOrderId newQuantity newLimitPrice,
      OrderManager.AddedSince omId system.world.log
        (fun payload : OrderManager.Payload Number => payload.trigger ≠ some .cancelConfirmed)
        (system.step (.call (.amend clientOrderId newQuantity newLimitPrice) :
          OrderManager.Step omId Stored Number)).world.log

section

variable {Stored Number : Type} [Arithmetic Number] [OrderManager.Sources Stored Number]
  {omId : String} {memory : OrderManager.Memory Number} {answer : OrderManager.Answer Number}
  {key : OrderManager.MutationKey} {payload : OrderManager.Payload Number}

private theorem cancelled_of_statusToTrigger? {status : OrderStatus}
    (triggered : OrderManager.statusToTrigger? status = some .cancelConfirmed) :
    status = .cancelled := by
  cases status with
  | cancelled => rfl
  | _ => cases triggered

private theorem caused_cancel {clientOrderId : String}
    (caused : OrderManager.Caused omId memory answer (.cancel clientOrderId) key payload)
    (confirms : payload.trigger = some .cancelConfirmed) :
    ∃ reported, answer.order = .ok reported ∧ reported.status = .cancelled := by
  cases caused with
  | cancelRequested => cases confirms
  | cancelFailed => cases confirms
  | cancelAnswered order reported trigger fromState toState answered triggered =>
      cases confirms
      exact ⟨reported, answered, cancelled_of_statusToTrigger? triggered⟩

private theorem caused_cancelAll {symbol : Option Symbol}
    (caused : OrderManager.Caused omId memory answer (.cancelAll symbol) key payload)
    (confirms : payload.trigger = some .cancelConfirmed) :
    ∃ orders, answer.orders = .ok orders ∧
      ∃ reported ∈ orders, reported.clientOrderId = payload.clientOrderId := by
  cases caused with
  | cancelAllRequested => cases confirms
  | cancelAllPending => cases confirms
  | cancelAllConfirmed _ orders reported order fromState toState details answered member named =>
      exact ⟨orders, answered, reported, member, rfl⟩

private theorem caused_amend {clientOrderId : String} {newQuantity newLimitPrice : Option Number}
    (caused : OrderManager.Caused omId memory answer
      (.amend clientOrderId newQuantity newLimitPrice) key payload) :
    payload.trigger ≠ some .cancelConfirmed := by
  intro confirms
  cases caused with
  | amendRequested => cases confirms
  | amended => cases confirms

/-- Cancellations are confirmed and judged alike exactly on decided responses. -/
theorem confirmedOnly_iff (omId : String) (body : Json) :
    ConfirmedOnly omId Stored Number body ↔ Decided body := by
  constructor
  · intro confirmedOnly
    let wire : Wire Json Number :=
      { number := fun _ => none
        time := fun _ => none
        str := fun _ => ""
        repr := fun _ => ""
        truthy := truthy }
    let order : Order Number :=
      { clientOrderId := ""
        exchangeOrderId := none
        symbol := btc
        side := .buy
        orderType := .limit
        quantity := Arithmetic.zero
        filledQuantity := Arithmetic.zero
        limitPrice := none
        status := .acknowledged
        timeInForce := .gtc
        reduceOnly := false
        createdAtUtc := ""
        updatedAtUtc := "" }
    exact decided_of_agree (confirmedOnly.alike wire "" order).mp
  · intro decided
    have single (session : Session Number) (request : CancelRequest) (reported : Order Number)
        (receives : session.Receives body)
        (answered : session.transmitCancelOrder request = .ok reported) : Confirmed body 0 := by
      obtain ⟨order, outcome⟩ := transmitCancelOrder_outcome receives answered
      exact cancelOutcome_confirmed decided outcome
    constructor
    case single =>
      intro session request reported receives answered _
      exact single session request reported receives answered
    case all =>
      intro session request orders receives answered reported member _
      exact mem_transmitCancelAll receives answered member
    case amend =>
      intro session request reported _ answered cancelled
      exact (transmitAmendOrder_status answered cancelled).elim
    case alike => exact fun wire now order => decided.agree
    case recordedSingle =>
      intro system live session request clientOrderId receives answers
      refine (live.records_caused (.cancel clientOrderId)).mono ?_
      rintro payload ⟨key, caused⟩ confirms
      obtain ⟨reported, answered, _⟩ := caused_cancel caused confirms
      exact single session request reported receives (answers.symm.trans answered)
    case recordedAll =>
      intro system live session request symbol receives answers
      refine (live.records_caused (.cancelAll symbol)).mono ?_
      rintro payload ⟨key, caused⟩ confirms
      obtain ⟨orders, answered, reported, member, named⟩ := caused_cancelAll caused confirms
      obtain ⟨cancellable, index, shown, found, listed, same, confirmed⟩ :=
        mem_transmitCancelAll receives (answers.symm.trans answered) member
      rw [same] at named
      exact ⟨cancellable, index, shown, found, listed, named, confirmed⟩
    case recordedAmend =>
      intro system live clientOrderId newQuantity newLimitPrice
      refine (live.records_caused (.amend clientOrderId newQuantity newLimitPrice)).mono ?_
      rintro payload ⟨key, caused⟩
      exact caused_amend caused

end

def noStatuses : Json :=
  .object [("status", .string "ok"),
    ("response", .object [("type", .string "cancel"), ("data", .object [("statuses", .array [])])])]

def quietSession : Session ℚ :=
  { wire :=
      { number := fun _ => some 1
        time := fun _ => some "2026-01-01T00:00:00+00:00"
        str := fun _ => "7"
        repr := fun _ => "7"
        truthy := truthy }
    connected := true
    signer := true
    authorize := fun _ _ => .ok ()
    resolve := fun _ => some "oms-main-000001-place"
    knownToken := fun _ => some "0x1"
    assetIndex := fun _ => .ok 0
    int := fun _ => some 7
    toWire := fun _ => .ok "1"
    orderStatus := fun _ => .ok (some
      { status := some "open"
        statusTimestamp := .null
        cloid := some "0x1"
        coin := some "BTC"
        side := some "B"
        sz := .string "1"
        origSz := none
        timestamp := some (.number (.integer ⟨1767225600000, by decide⟩))
        oid := some (.number (.integer ⟨7, by decide⟩))
        limitPx := some (.string "1")
        reduceOnly := none
        repr := "" })
    frontendOpenOrders := .ok
      [{ cloid := some "0x1"
         coin := some "BTC"
         side := some "B"
         sz := .string "1"
         origSz := none
         timestamp := .number (.integer ⟨1767225600000, by decide⟩)
         oid := some (.number (.integer ⟨7, by decide⟩))
         limitPx := some (.string "1")
         reduceOnly := none }]
    post := fun _ => .ok noStatuses
    now := "2026-01-01T00:00:01+00:00" }

/-- The single cancel is reported without a success status, and `cancel_all` reports
nothing for the same response. -/
theorem not_confirmedOnly_noStatuses :
    (∃ reported : Order ℚ, quietSession.transmitCancelOrder { requestId := "1", exchangeOrderId := "7" } =
      .ok reported ∧ reported.status = .cancelled) ∧
    quietSession.transmitCancelAll { requestId := "2", symbol := none } = .ok [] ∧
    ¬ ConfirmedOnly "main" (ExecutionStateMachine.Payload ⊕ OrderManager.Payload ℚ) ℚ noStatuses := by
  have reports : ∃ reported : Order ℚ,
      quietSession.transmitCancelOrder { requestId := "1", exchangeOrderId := "7" } = .ok reported ∧
        reported.status = .cancelled :=
    ⟨_, rfl, rfl⟩
  refine ⟨reports, rfl, ?_⟩
  intro confirmedOnly
  obtain ⟨reported, answered, cancelled⟩ := reports
  have confirmed : Confirmed noStatuses 0 :=
    confirmedOnly.single quietSession _ reported (fun _ => rfl) answered cancelled
  obtain ⟨items, listed⟩ := confirmed.first
  cases listed

end TurtleExecution.HyperliquidAdapter
