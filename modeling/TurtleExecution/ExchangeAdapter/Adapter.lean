/-
The template methods of the exchange adapter: a result is kept under the id of its request,
and every transmission is audited before.

The clock and the venue's answer are given to each call.  `transmitted` is no field of the
adapter: it notes what the hooks were handed, and how that ended.
-/

import TurtleExecution.OrderManager.Runs

set_option autoImplicit false

namespace TurtleExecution.ExchangeAdapter

open OrderManager (Answer Request)

structure AuditRecord where
  requestId : String
  logicalAction : String
  exchangeName : String
  adapterVersion : String
  timestampUtc : String
  payloadHash : String
  idempotencyKey : String
  deriving DecidableEq

def computeAuditRecord (requestId logicalAction exchangeName adapterVersion idempotencyKey : String)
    (payload : PyDict) (dumpable : (PyValue.dumps (.dict payload)).isSome = true) (now : String) :
    AuditRecord :=
  let digest := sha256 ((PyValue.dumps (.dict payload)).get dumpable)
  let payloadHash := String.ofList (digest.flatMap fun byte =>
    [Nat.digitChar (byte.toNat / 16), Nat.digitChar (byte.toNat % 16)])
  { requestId, logicalAction, exchangeName, adapterVersion, timestampUtc := now, payloadHash,
    idempotencyKey }

def logicalAction {Number : Type} : Request Number → String
  | .place _ => "PLACE_ORDER"
  | .amend _ => "AMEND_ORDER"
  | .cancel _ => "CANCEL_ORDER"
  | .cancelAll _ => "CANCEL_ALL"

section

variable {Number : Type}

/-- What a hook returns: the order, or the orders of `cancel_all`. -/
inductive Reply (Number : Type)
  | order (order : Order Number)
  | orders (orders : List (Order Number))

structure Transmission (Number : Type) where
  request : Request Number
  auditRecords : List AuditRecord
  outcome : Except CallError (Reply Number)

structure Adapter (Number : Type) where
  exchangeName : String
  adapterVersion : String
  idempotency : Dict String (Reply Number)
  auditLog : List AuditRecord
  transmitted : List (Transmission Number)

def Adapter.initial (exchangeName adapterVersion : String) : Adapter Number :=
  { exchangeName, adapterVersion, idempotency := [], auditLog := [], transmitted := [] }

def Adapter.construct (exchangeName adapterVersion : String) :
    Except ModelError (Adapter Number) := do
  requireText "exchange_name" exchangeName
  requireText "adapter_version" adapterVersion
  return .initial exchangeName adapterVersion

/-- `IdempotencyCache.store`: the first value of a key stays. -/
def store (results : Dict String (Reply Number)) (key : String) (value : Reply Number) :
    Reply Number × Dict String (Reply Number) :=
  match results.get? key with
  | some first => (first, results)
  | none => (value, results.set key value)

abbrev Performed (Number : Type) := Except CallError (Reply Number) × Adapter Number

variable [LedgerArithmetic Number]

def optionalText : Option Number → PyValue
  | none => .none
  | some number => .str (LedgerArithmetic.text number)

def auditPayload : Request Number → PyDict
  | .place request =>
      [(.str "client_order_id", .str request.clientOrderId),
        (.str "symbol", .str request.symbol.value),
        (.str "side", .str request.side.value),
        (.str "order_type", .str request.orderType.value),
        (.str "quantity", .str (LedgerArithmetic.text request.quantity)),
        (.str "limit_price", optionalText request.limitPrice),
        (.str "time_in_force", .str request.timeInForce.value),
        (.str "reduce_only", .bool request.reduceOnly)]
  | .amend request =>
      [(.str "request_id", .str request.requestId),
        (.str "exchange_order_id", .str request.exchangeOrderId),
        (.str "new_quantity", optionalText request.newQuantity),
        (.str "new_limit_price", optionalText request.newLimitPrice)]
  | .cancel request =>
      [(.str "request_id", .str request.requestId),
        (.str "exchange_order_id", .str request.exchangeOrderId)]
  | .cancelAll request =>
      [(.str "request_id", .str request.requestId),
        (.str "symbol", request.symbol.elim .none fun symbol => .str symbol.value)]

private theorem auditPayload_dumpable (request : Request Number) :
    (PyValue.dumps (.dict (auditPayload request))).isSome = true := by
  cases request with
  | place request => cases request with | mk _ _ _ _ _ limitPrice => cases limitPrice <;> rfl
  | amend request =>
      obtain ⟨_, _, newQuantity, newLimitPrice⟩ := request
      cases newQuantity <;> cases newLimitPrice <;> rfl
  | cancel request => rfl
  | cancelAll request =>
      obtain ⟨_, symbol⟩ := request
      cases symbol <;> rfl

def Adapter.record (adapter : Adapter Number) (request : Request Number) (now : String) :
    AuditRecord :=
  computeAuditRecord request.id (logicalAction request) adapter.exchangeName
    adapter.adapterVersion request.id (auditPayload request) (auditPayload_dumpable request) now

def mutate (adapter : Adapter Number) (request : Request Number) (now : String)
    (outcome : Except CallError (Reply Number)) : Performed Number :=
  match adapter.idempotency.get? request.id with
  | some cached => (.ok cached, adapter)
  | none =>
      let auditLog := adapter.auditLog ++ [adapter.record request now]
      let transmitted := adapter.transmitted ++ [{ request, auditRecords := auditLog, outcome }]
      match outcome with
      | .error error => (.error error, { adapter with auditLog, transmitted })
      | .ok reply =>
          let (stored, idempotency) := store adapter.idempotency request.id reply
          (.ok stored, { adapter with idempotency, auditLog, transmitted })

def placeOrder (adapter : Adapter Number) (request : OrderRequest Number) (now : String)
    (answer : Except CallError (Order Number)) : Performed Number :=
  mutate adapter (.place request) now (answer.map .order)

def amendOrder (adapter : Adapter Number) (request : AmendRequest Number) (now : String)
    (answer : Except CallError (Order Number)) : Performed Number :=
  mutate adapter (.amend request) now (answer.map .order)

def cancelOrder (adapter : Adapter Number) (request : CancelRequest) (now : String)
    (answer : Except CallError (Order Number)) : Performed Number :=
  mutate adapter (.cancel request) now (answer.map .order)

def cancelAll (adapter : Adapter Number) (request : CancelAllRequest) (now : String)
    (answer : Except CallError (List (Order Number))) : Performed Number :=
  mutate adapter (.cancelAll request) now (answer.map .orders)

def Adapter.call (adapter : Adapter Number) (request : Request Number) (answer : Answer Number) :
    Performed Number :=
  match request with
  | .place request => placeOrder adapter request answer.now answer.order
  | .amend request => amendOrder adapter request answer.now answer.order
  | .cancel request => cancelOrder adapter request answer.now answer.order
  | .cancelAll request => cancelAll adapter request answer.now answer.orders

def Adapter.run (adapter : Adapter Number) (calls : List (Request Number × Answer Number)) :
    Adapter Number :=
  calls.foldl (fun adapter call => (adapter.call call.1 call.2).2) adapter

theorem Adapter.call_eq (adapter : Adapter Number) (request : Request Number)
    (answer : Answer Number) :
    ∃ outcome, adapter.call request answer = mutate adapter request answer.now outcome := by
  cases request with
  | place | amend | cancel | cancelAll => exact ⟨_, rfl⟩

/-- The cache holds the transmissions that succeeded, none of which is repeated, and the
record of a transmission was written before it. -/
structure Settled (adapter : Adapter Number) : Prop where
  cached : ∀ id reply, adapter.idempotency.get? id = some reply ↔
    ∃ sent ∈ adapter.transmitted, sent.request.id = id ∧ sent.outcome = .ok reply
  once : adapter.transmitted.Pairwise fun first second =>
    first.request.id = second.request.id → ∀ reply, first.outcome ≠ .ok reply
  audited : ∀ sent ∈ adapter.transmitted, sent.auditRecords <+: adapter.auditLog ∧
    ∃ now, sent.auditRecords.getLast? = some (adapter.record sent.request now)
  counted : adapter.auditLog.length = adapter.transmitted.length

variable {adapter : Adapter Number} {reply : Reply Number}

variable {request : Request Number}

private theorem mutate_of_unknown (unknown : adapter.idempotency.get? request.id = none)
    (now : String)
    (outcome : Except CallError (Reply Number)) :
    let auditLog := adapter.auditLog ++ [adapter.record request now]
    mutate adapter request now outcome = (outcome,
      { adapter with
        idempotency := outcome.toOption.elim adapter.idempotency fun reply =>
          adapter.idempotency.set request.id reply
        auditLog
        transmitted := adapter.transmitted ++ [{ request, auditRecords := auditLog, outcome }] }) := by
  unfold mutate store
  rw [unknown]
  cases outcome <;> rfl

theorem Settled.mutate (settled : Settled adapter) (request : Request Number) (now : String)
    (outcome : Except CallError (Reply Number)) :
    Settled (mutate adapter request now outcome).2 := by
  cases known : adapter.idempotency.get? request.id with
  | some cached =>
      unfold ExchangeAdapter.mutate
      rw [known]
      exact settled
  | none =>
      have unsent : ∀ sent ∈ adapter.transmitted, sent.request.id = request.id →
          ∀ reply, sent.outcome ≠ .ok reply := by
        intro sent member same reply succeeded
        have found := (settled.cached request.id reply).mpr ⟨sent, member, same, succeeded⟩
        rw [known] at found
        cases found
      rw [mutate_of_unknown known]
      constructor
      · intro id reply
        simp only [List.mem_append, List.mem_singleton, or_and_right, exists_or, exists_eq_left,
          ← settled.cached]
        cases outcome with
        | error error => simp [Except.toOption]
        | ok value =>
            change (adapter.idempotency.set request.id value).get? id = some reply ↔ _
            rw [Dict.get?_set]
            by_cases same : id = request.id
            · subst same
              simp [known]
            · simp [same, Ne.symm same]
      · rw [List.pairwise_append]
        refine ⟨settled.once, List.pairwise_singleton _ _, ?_⟩
        intro first member second isLast same
        rw [List.mem_singleton] at isLast
        subst isLast
        exact unsent first member same
      · intro sent member
        rcases List.mem_append.mp member with old | isLast
        · obtain ⟨isPrefix, last⟩ := settled.audited sent old
          exact ⟨isPrefix.trans (List.prefix_append _ _), last⟩
        · rw [List.mem_singleton] at isLast
          subst isLast
          exact ⟨List.prefix_rfl, now, List.getLast?_concat⟩
      · simp only [List.length_append, settled.counted, List.length_singleton]

theorem Settled.call (settled : Settled adapter) (request : Request Number) (answer : Answer Number) :
    Settled (adapter.call request answer).2 := by
  obtain ⟨outcome, same⟩ := adapter.call_eq request answer
  rw [same]
  exact settled.mutate request answer.now outcome

theorem Settled.run (settled : Settled adapter) (calls : List (Request Number × Answer Number)) :
    Settled (adapter.run calls) := by
  induction calls generalizing adapter with
  | nil => exact settled
  | cons call calls ih => exact ih (settled.call call.1 call.2)

private theorem settled_initial (exchangeName adapterVersion : String) :
    Settled (Adapter.initial exchangeName adapterVersion : Adapter Number) := by
  constructor
  · intro id reply
    constructor
    · intro absent
      cases absent
    · rintro ⟨sent, absent, _⟩
      cases absent
  · exact List.Pairwise.nil
  · intro sent absent
    cases absent
  · rfl

theorem Adapter.call_of_known (known : adapter.idempotency.get? request.id = some reply)
    (answer : Answer Number) : adapter.call request answer = (.ok reply, adapter) := by
  obtain ⟨outcome, same⟩ := adapter.call_eq request answer
  rw [same, mutate, known]

theorem Adapter.known_of_call {answer : Answer Number}
    (returned : (adapter.call request answer).1 = .ok reply) :
    (adapter.call request answer).2.idempotency.get? request.id = some reply := by
  cases known : adapter.idempotency.get? request.id with
  | some cached =>
      rw [Adapter.call_of_known known] at returned ⊢
      cases returned
      exact known
  | none =>
      obtain ⟨outcome, same⟩ := adapter.call_eq request answer
      rw [same, mutate_of_unknown known] at returned ⊢
      cases returned
      exact Dict.get?_set_self _ _ _

theorem Adapter.known_run {id : String} (known : adapter.idempotency.get? id = some reply)
    (calls : List (Request Number × Answer Number)) :
    (adapter.run calls).idempotency.get? id = some reply := by
  induction calls generalizing adapter with
  | nil => exact known
  | cons call calls ih =>
      apply ih
      change (adapter.call call.1 call.2).2.idempotency.get? id = some reply
      obtain ⟨outcome, same⟩ := adapter.call_eq call.1 call.2
      cases unknown : adapter.idempotency.get? call.1.id with
      | some cached =>
          rw [Adapter.call_of_known unknown]
          exact known
      | none =>
          rw [same, mutate_of_unknown unknown]
          cases outcome with
          | error error => exact known
          | ok value =>
              refine (Dict.get?_set_of_ne _ _ ?_).trans known
              rintro rfl
              rw [known] at unknown
              cases unknown

/-- In every run of an adapter, no request whose transmission succeeded is transmitted
again, and its first result answers every later call with its id, of whichever method. -/
theorem run_transmitsOnce (exchangeName adapterVersion : String)
    (calls later : List (Request Number × Answer Number)) :
    let between := (Adapter.initial exchangeName adapterVersion : Adapter Number).run calls
    Settled between ∧ ∀ request answer reply, (between.call request answer).1 = .ok reply →
      let after := (between.call request answer).2.run later
      ∀ (other : Request Number) otherAnswer, other.id = request.id →
        after.call other otherAnswer = (.ok reply, after) := by
  intro between
  refine ⟨(settled_initial exchangeName adapterVersion).run calls, ?_⟩
  intro request answer reply returned after other otherAnswer same
  have known : after.idempotency.get? request.id = some reply :=
    Adapter.known_run (Adapter.known_of_call returned) later
  rw [← same] at known
  exact Adapter.call_of_known known otherAnswer

theorem Adapter.run_distinct {calls : List (Request Number × Answer Number)}
    (distinct : (calls.map fun call => call.1.id).Nodup)
    (unknown : ∀ call ∈ calls, adapter.idempotency.get? call.1.id = none) :
    (adapter.run calls).transmitted.map Transmission.request =
      adapter.transmitted.map Transmission.request ++ calls.map Prod.fst := by
  induction calls generalizing adapter with
  | nil => exact (List.append_nil _).symm
  | cons call calls ih =>
      obtain ⟨others, distinct⟩ := List.nodup_cons.mp distinct
      obtain ⟨outcome, same⟩ := adapter.call_eq call.1 call.2
      rw [mutate_of_unknown (unknown call List.mem_cons_self)] at same
      have next := @ih (adapter.call call.1 call.2).2 distinct (by
        intro other member
        have stillUnknown := unknown other (List.mem_cons_of_mem _ member)
        rw [same]
        cases outcome with
        | error error => exact stillUnknown
        | ok value =>
            refine (Dict.get?_set_of_ne _ _ ?_).trans stillUnknown
            intro sameId
            exact others (List.mem_map.mpr ⟨other, member, sameId⟩))
      calc ((adapter.call call.1 call.2).2.run calls).transmitted.map Transmission.request
          = (adapter.call call.1 call.2).2.transmitted.map Transmission.request ++
              calls.map Prod.fst := next
        _ = adapter.transmitted.map Transmission.request ++ (call :: calls).map Prod.fst := by
          rw [same, List.map_append, List.append_assoc]
          rfl

/-- Whatever fails and whenever the process dies, an adapter that is handed the requests of
an order manager takes none of them for a repeat, and has a record of each. -/
theorem run_transmitsHanded {Stored : Type} [OrderManager.Sources Stored Number] {omId : String}
    {memory : OrderManager.Memory Number}
    (constructed : OrderManager.construct omId (Ledger.empty : SharedStore.Log Stored) = .ok memory)
    (machine : ExecutionStateMachine.Machine) (environment : Nat → Answer Number)
    (steps : List (OrderManager.Step omId Stored Number)) (exchangeName adapterVersion : String)
    (answers : Request Number → Answer Number) :
    let requests := ((OrderManager.System.start memory machine environment :
      OrderManager.System Stored Number).run steps).world.handed.map OrderManager.Handed.request
    let adapter := (Adapter.initial exchangeName adapterVersion : Adapter Number).run
      (requests.map fun request => (request, answers request))
    adapter.transmitted.map Transmission.request = requests ∧
      adapter.auditLog.length = requests.length := by
  intro requests adapter
  have started : (OrderManager.System.start memory machine environment).Sound
      (OrderManager.Watch.plain False omId) :=
    OrderManager.System.start_sound constructed machine fun impossible => impossible.elim
  have sound := started.run steps
  obtain ⟨_, last, reached, _⟩ := sound.recoverable
  have distinct := reached.consistent.accounted.distinct
  have settled : Settled adapter := (settled_initial exchangeName adapterVersion).run _
  have transmitted : adapter.transmitted.map Transmission.request = requests := by
    calc adapter.transmitted.map Transmission.request
        = (requests.map fun request => (request, answers request)).map Prod.fst :=
          Adapter.run_distinct (by
            rw [List.map_map, List.map_map]
            exact distinct) fun _ _ => rfl
      _ = requests := by
          rw [List.map_map]
          exact List.map_id _
  refine ⟨transmitted, ?_⟩
  calc adapter.auditLog.length
      = adapter.transmitted.length := settled.counted
    _ = (adapter.transmitted.map Transmission.request).length := (List.length_map _).symm
    _ = requests.length := by rw [transmitted]

end

open OrderManager (System Memory dyingEnvironment interruptedPlace) in
theorem run_transmitsHanded_interruptedPlace :
    let requests := ((System.start Memory.initial
      { machineId := "main", currentState := .initializing } (dyingEnvironment 3)).run
        interruptedPlace).world.handed.map OrderManager.Handed.request
    let adapter := (Adapter.initial "venue" "1").run
      (requests.map fun request => (request, dyingEnvironment 0 1))
    adapter.transmitted.map Transmission.request = requests ∧
      adapter.auditLog.length = requests.length := by
  have transmits := @run_transmitsHanded _ _ _ _ "main" Memory.initial rfl
    { machineId := "main", currentState := .initializing } (dyingEnvironment 3) interruptedPlace
    "venue" "1" fun _ => dyingEnvironment 0 1
  with_reducible exact transmits

end TurtleExecution.ExchangeAdapter
