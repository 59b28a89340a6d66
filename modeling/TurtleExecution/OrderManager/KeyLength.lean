/-
The lengths of the keys, against the longest key that the store takes.

A key holds the manager's id up to three times, and one or two sequence numbers.
Keys of fills hold an id of the venue as well and are left out.
-/

import TurtleExecution.EventStore.Store
import TurtleExecution.OrderManager.Runs

set_option autoImplicit false

namespace TurtleExecution.OrderManager

open ExchangeAdapter SharedStore Process Runs

def digits (number : Nat) : Nat := (toString number).length

def Fits (omId : String) (key : MutationKey) : Prop :=
  (namespacedKey omId (key.text omId)).length ≤ EventStore.maxIdempotencyKeyLength

instance (omId : String) (key : MutationKey) : Decidable (Fits omId key) :=
  inferInstanceAs (Decidable (_ ≤ _))

private theorem makeId_length (omId : String) (seq : Nat) (suffix : String) :
    (makeId omId seq suffix).length = omId.length + digits seq + suffix.length + 5 := by
  simp only [makeId, String.length_append, digits]
  change 3 + omId.length + 1 + _ + 1 + _ = _
  omega

private theorem namespacedKey_length (omId key : String) :
    (namespacedKey omId key).length = omId.length + key.length + 15 := by
  simp only [namespacedKey, keyNamespace, String.length_append]
  change 13 + 1 + omId.length + 1 + key.length = _
  omega

private theorem placeId_length (omId : String) (order : Nat) :
    (placeId omId order).length = omId.length + digits order + 10 :=
  makeId_length omId order "place"

def MutationKey.storeLength (omId : String) : MutationKey → Nat
  | submit order => 2 * omId.length + digits order + 25
  | status order trigger state =>
      2 * omId.length + digits order + trigger.value.length + state.value.length + 34
  | submitFailed order => 2 * omId.length + digits order + 39
  | amendRequested order request => 3 * omId.length + digits order + digits request + 46
  | amendApplied order request => 3 * omId.length + digits order + digits request + 50
  | cancel order request => 3 * omId.length + digits order + digits request + 44
  | cancelFailed order request => 3 * omId.length + digits order + digits request + 51
  | cancelAll request => 2 * omId.length + digits request + 41
  | cancelAllPending order request => 3 * omId.length + digits order + digits request + 60
  | cancelAllConfirmed order request => 3 * omId.length + digits order + digits request + 60
  | fill order fillId => 2 * omId.length + digits order + fillId.length + 31

private theorem storeLength_eq (omId : String) (key : MutationKey) :
    (namespacedKey omId (key.text omId)).length = key.storeLength omId := by
  rw [namespacedKey_length]
  cases key with
  | submit order =>
      rw [text_submit, placeId_length]
      simp only [MutationKey.storeLength]
      omega
  | status order trigger state =>
      rw [text_status]
      simp only [String.length_append, placeId_length, MutationKey.storeLength]
      change _ + (_ + 8 + _ + 1 + _) + 15 = _
      omega
  | submitFailed order =>
      rw [text_submitFailed]
      simp only [String.length_append, placeId_length, MutationKey.storeLength]
      change _ + (_ + 14) + 15 = _
      omega
  | cancelAll request =>
      change _ + ("cancel_all:" ++ makeId omId request "cancel_all").length + 15 = _
      simp only [String.length_append, makeId_length, MutationKey.storeLength]
      change _ + (11 + (_ + _ + 10 + 5)) + 15 = _
      omega
  | fill order fillId =>
      rw [text_fill]
      simp only [String.length_append, placeId_length, MutationKey.storeLength]
      change _ + (_ + 6 + _) + 15 = _
      omega
  | amendRequested order request =>
      rw [text_amendRequested]
      simp only [String.length_append, placeId_length, makeId_length, MutationKey.storeLength]
      change _ + (_ + 11 + (_ + _ + 5 + 5)) + 15 = _
      omega
  | amendApplied order request =>
      rw [text_amendApplied]
      simp only [String.length_append, placeId_length, makeId_length, MutationKey.storeLength]
      change _ + (_ + 15 + (_ + _ + 5 + 5)) + 15 = _
      omega
  | cancel order request =>
      rw [text_cancel]
      simp only [String.length_append, placeId_length, makeId_length, MutationKey.storeLength]
      change _ + (_ + 8 + (_ + _ + 6 + 5)) + 15 = _
      omega
  | cancelFailed order request =>
      rw [text_cancelFailed]
      simp only [String.length_append, placeId_length, makeId_length, MutationKey.storeLength]
      change _ + (_ + 15 + (_ + _ + 6 + 5)) + 15 = _
      omega
  | cancelAllPending order request =>
      rw [text_cancelAllPending]
      simp only [String.length_append, placeId_length, makeId_length, MutationKey.storeLength]
      change _ + (_ + 20 + (_ + _ + 10 + 5)) + 15 = _
      omega
  | cancelAllConfirmed order request =>
      rw [text_cancelAllConfirmed]
      simp only [String.length_append, placeId_length, makeId_length, MutationKey.storeLength]
      change _ + (_ + 20 + (_ + _ + 10 + 5)) + 15 = _
      omega

private theorem fits_iff (omId : String) (key : MutationKey) :
    Fits omId key ↔ key.storeLength omId ≤ 200 := by
  unfold Fits
  rw [storeLength_eq]
  rfl

variable {Number Stored : Type}

/-- If the reported status moves an order in this state, the key of the move is short enough. -/
def StatusFits (omId : String) (order : Nat) (state : OrderLifecycleState) (status : OrderStatus) :
    Prop :=
  ∀ trigger, statusToTrigger? status = some trigger → nextState? state trigger ≠ none →
    2 * omId.length + digits order + trigger.value.length + state.value.length ≤ 166

/-- The manager's id and the numbers of a call leave short enough what it derives a key for: its
request, if it makes one, and what the adapter answers, if it is asked. -/
def Roomy [Arithmetic Number] (omId : String) (world : World Stored Number) (call : Call Number) :
    Prop :=
  let request := world.memory.nextSeq
  let answer := world.answer call
  match call with
  | .place _ => 2 * omId.length + digits request ≤ 175 ∧ (call.Asks omId world.memory →
      (∀ message, answer.order = .error (.exchangeAdapter message) →
        2 * omId.length + digits request ≤ 161) ∧
      ∀ report, answer.order = .ok report → StatusFits omId request .submitted
        (if report.status = .rejected then .rejected else .acknowledged))
  | .amend clientOrderId _ _ => ∀ order, clientOrderId = placeId omId order →
      (call.Requests world.memory → 3 * omId.length + digits order + digits request ≤ 154) ∧
      (call.Asks omId world.memory → ∀ report, answer.order = .ok report →
        3 * omId.length + digits order + digits request ≤ 150)
  | .cancel clientOrderId => ∀ order, clientOrderId = placeId omId order →
      (call.Requests world.memory → 3 * omId.length + digits order + digits request ≤ 156) ∧
      (call.Asks omId world.memory →
        (∀ message, answer.order = .error (.exchangeAdapter message) →
          3 * omId.length + digits order + digits request ≤ 149) ∧
        ∀ report, answer.order = .ok report → StatusFits omId order .cancelPending report.status)
  | .cancelAll _ => 2 * omId.length + digits request ≤ 159 ∧
      ∀ reports, answer.orders = .ok reports → ∀ report ∈ reports,
        Closable world.memory report.clientOrderId → ∀ order,
        report.clientOrderId = placeId omId order →
        3 * omId.length + digits order + digits request ≤ 140
  | .reportFill _ _ => True
  | .reportOrderUpdate clientOrderId report => ∀ order existing, clientOrderId = placeId omId order →
      world.memory.snapshots.get? clientOrderId = some existing →
      StatusFits omId order existing.lifecycleState report.status
  | .resync clientOrderId => call.Asks omId world.memory → ∀ order existing report,
      clientOrderId = placeId omId order →
      world.memory.snapshots.get? clientOrderId = some existing → answer.resynced existing report →
      StatusFits omId order existing.lifecycleState report.status

def MutationKey.Internal (key : MutationKey) : Prop :=
  ∀ order fillId, key ≠ .fill order fillId

def MutationKey.Legal : MutationKey → Prop
  | status _ trigger state => nextState? state trigger ≠ none
  | _ => True

private theorem submitted_of_legal {status : OrderStatus} {trigger : OrderLifecycleTrigger}
    {state : OrderLifecycleState} (placed : status = .rejected ∨ status = .acknowledged)
    (reported : statusToTrigger? status = some trigger) (legal : nextState? state trigger ≠ none) :
    state = .submitted := by
  revert legal
  rcases placed with rfl | rfl
  · cases reported
    cases state <;> decide
  · cases reported
    cases state <;> decide

private theorem fits_status_iff {omId : String} {order : Nat} {trigger : OrderLifecycleTrigger}
    {state : OrderLifecycleState} : Fits omId (.status order trigger state) ↔
      2 * omId.length + digits order + trigger.value.length + state.value.length ≤ 166 := by
  rw [fits_iff]
  simp only [MutationKey.storeLength]
  omega

variable [Arithmetic Number] {omId : String} {world : World Stored Number} {call : Call Number}

private theorem Roomy.fits (roomy : Roomy omId world call) {key : MutationKey} {payload : Payload Number}
    (caused : Caused omId world.memory (world.answer call) call key payload)
    (isInternal : key.Internal) (legal : key.Legal) : Fits omId key := by
  cases caused with
  | submit arguments =>
      rw [fits_iff]
      have room := roomy.1
      simp only [MutationKey.storeLength]
      omega
  | submitFailed arguments message fromState toState answered asks =>
      rw [fits_iff]
      have room := (roomy.2 asks).1 message answered
      simp only [MutationKey.storeLength]
      omega
  | placed arguments report trigger fromState toState answered reported asks =>
      have placed : (if report.status = .rejected then OrderStatus.rejected else .acknowledged) =
          .rejected ∨ (if report.status = .rejected then OrderStatus.rejected else .acknowledged) =
          .acknowledged := by
        split
        · exact .inl rfl
        · exact .inr rfl
      obtain rfl := submitted_of_legal placed reported legal
      exact fits_status_iff.mpr ((roomy.2 asks).2 report answered trigger reported legal)
  | amendRequested order newQuantity newLimitPrice details requests =>
      have room := (roomy order rfl).1 requests
      rw [fits_iff]
      simp only [MutationKey.storeLength]
      omega
  | amended order newQuantity newLimitPrice report answered asks =>
      have room := (roomy order rfl).2 asks report answered
      rw [fits_iff]
      simp only [MutationKey.storeLength]
      omega
  | cancelRequested order fromState toState details requests =>
      have room := (roomy order rfl).1 requests
      rw [fits_iff]
      simp only [MutationKey.storeLength]
      omega
  | cancelFailed order message fromState toState answered asks =>
      have room := ((roomy order rfl).2 asks).1 message answered
      rw [fits_iff]
      simp only [MutationKey.storeLength]
      omega
  | cancelAnswered order report trigger fromState toState answered reported asks pending =>
      rw [pending] at legal ⊢
      exact fits_status_iff.mpr (((roomy order rfl).2 asks).2 report answered trigger reported legal)
  | cancelAllRequested symbol details =>
      have room := roomy.1
      rw [fits_iff]
      simp only [MutationKey.storeLength]
      omega
  | cancelAllPending symbol reports report order fromState toState details answered member named
      closable =>
      have room := roomy.2 reports answered report member closable order named
      rw [fits_iff]
      simp only [MutationKey.storeLength]
      omega
  | cancelAllConfirmed symbol reports report order fromState toState details answered member named
      closable =>
      have room := roomy.2 reports answered report member closable order named
      rw [fits_iff]
      simp only [MutationKey.storeLength]
      omega
  | fill order fill existing newFilled trigger toState tracked fresh sum triggered legal =>
      exact (isInternal order fill.fillId rfl).elim
  | updated order report trigger fromState toState reported existing tracked current =>
      rw [← current] at legal ⊢
      exact fits_status_iff.mpr (roomy order existing rfl tracked trigger reported legal)
  | resynced order report trigger fromState toState reported asks existing tracked answered current =>
      rw [← current] at legal ⊢
      exact fits_status_iff.mpr
        (roomy asks order existing report rfl tracked answered trigger reported legal)

/-- No less room will do: a call is roomy exactly if every key that it derives, given the
adapter's answer, is short enough. -/
theorem roomy_iff : Roomy omId world call ↔ ∀ key payload,
    Caused omId world.memory (world.answer call) call key payload → key.Internal → key.Legal →
      Fits omId key := by
  refine ⟨fun roomy _ _ caused isInternal legal => roomy.fits caused isInternal legal, ?_⟩
  intro fits
  have short {key : MutationKey} {payload : Payload Number}
      (caused : Caused omId world.memory (world.answer call) call key payload)
      (isInternal : key.Internal) (legal : key.Legal) : key.storeLength omId ≤ 200 :=
    (fits_iff omId key).mp (fits key payload caused isInternal legal)
  have status {order : Nat} {trigger : OrderLifecycleTrigger} {state : OrderLifecycleState}
      {payload : Payload Number}
      (caused : Caused omId world.memory (world.answer call) call (.status order trigger state)
        payload) (legal : nextState? state trigger ≠ none) :
      2 * omId.length + digits order + trigger.value.length + state.value.length ≤ 166 :=
    fits_status_iff.mp (fits _ payload caused (fun _ _ same => by cases same) legal)
  cases call with
  | place arguments =>
      refine ⟨?_, fun asks => ⟨?_, ?_⟩⟩
      · have fit := short (.submit arguments) (fun _ _ same => by cases same) trivial
        simp only [MutationKey.storeLength] at fit
        omega
      · intro message answered
        have fit := short (.submitFailed arguments message .submitted .failed answered asks)
          (fun _ _ same => by cases same) trivial
        simp only [MutationKey.storeLength] at fit
        omega
      · intro report answered trigger reported legal
        exact status (.placed arguments report trigger .submitted .submitted answered reported asks)
          legal
  | amend clientOrderId newQuantity newLimitPrice =>
      rintro order rfl
      refine ⟨fun requests => ?_, fun asks report answered => ?_⟩
      · have fit := short (.amendRequested order newQuantity newLimitPrice {} requests)
          (fun _ _ same => by cases same) trivial
        simp only [MutationKey.storeLength] at fit
        omega
      · have fit := short (.amended order newQuantity newLimitPrice report answered asks)
          (fun _ _ same => by cases same) trivial
        simp only [MutationKey.storeLength] at fit
        omega
  | cancel clientOrderId =>
      rintro order rfl
      refine ⟨fun requests => ?_, fun asks => ⟨?_, ?_⟩⟩
      · have fit := short (.cancelRequested order .acknowledged .cancelPending {} requests)
          (fun _ _ same => by cases same) trivial
        simp only [MutationKey.storeLength] at fit
        omega
      · intro message answered
        have fit := short (.cancelFailed order message .cancelPending .failed answered asks)
          (fun _ _ same => by cases same) trivial
        simp only [MutationKey.storeLength] at fit
        omega
      · intro report answered trigger reported legal
        exact status (.cancelAnswered order report trigger .cancelPending .cancelPending answered
          reported asks rfl) legal
  | cancelAll symbol =>
      refine ⟨?_, ?_⟩
      · have fit := short (.cancelAllRequested symbol {}) (fun _ _ same => by cases same) trivial
        simp only [MutationKey.storeLength] at fit
        omega
      · intro reports answered report member closable order named
        have fit := short (.cancelAllPending symbol reports report order .acknowledged .cancelPending {}
          answered member named closable) (fun _ _ same => by cases same) trivial
        simp only [MutationKey.storeLength] at fit
        omega
  | reportFill clientOrderId fill => trivial
  | reportOrderUpdate clientOrderId report =>
      rintro order existing rfl tracked trigger reported legal
      exact status (.updated order report trigger _ existing.lifecycleState reported existing tracked
        rfl) legal
  | resync clientOrderId =>
      rintro asks order existing report rfl tracked answered trigger reported legal
      exact status (.resynced order report trigger _ existing.lifecycleState reported asks existing
        tracked answered rfl) legal

variable [Sources Stored Number]

/-- The store takes every key of the log that holds no id of the venue. -/
def KeysFit (omId : String) (log : Log Stored) : Prop :=
  ∀ key : MutationKey, key.Internal → InLog omId log key → Fits omId key

theorem Recorded.legal {omId : String} {durable : Nat → Prop} {memory : Memory Number}
    {key : MutationKey} {payload : Payload Number}
    (recorded : Recorded omId durable memory key payload) : key.Legal := by
  cases recorded with
  | submit arguments => trivial
  | amendRequested order existing tracked details => trivial
  | amendApplied order request existing known tracked amendable details => trivial
  | cancelAllRequested details => trivial
  | fill order existing fill newFilled trigger toState tracked fresh sum triggered legal => trivial
  | statusUpdate order existing trigger toState seq key details tracked legal keyed =>
      cases keyed with
      | status status trigger reported =>
          change nextState? existing.lifecycleState trigger ≠ none
          rw [legal]
          exact Option.some_ne_none toState
      | submitFailed => trivial
      | cancel => trivial
      | cancelFailed request known => trivial
      | cancelAllPending request known => trivial
      | cancelAllConfirmed request known => trivial

theorem KeysFit.move {exact : Prop} {omId : String} {before after : Core Stored Number}
    (fits : KeysFit omId before.log)
    (move : Move exact omId (fun key _ => key.Internal → key.Legal → Fits omId key) before after) :
    KeysFit omId after.log := by
  cases move with
  | record log key payload now recorded allowed unused entries =>
      intro other isInternal logged
      rcases (inLog_concat entries other).mp logged with old | new
      · exact fits other isInternal old
      · obtain rfl : key = other :=
          MutationKey.text_injective (namespacedKey_injective (Option.some.inj new))
        exact allowed isInternal recorded.legal
  | burn allowed => exact fits
  | lateFill clientOrderId fillId existing tracked terminal => exact fits
  | hand request seq suffix identified durable fresh => exact fits
  | restart memory constructed => exact fits
  | foreign log added entries =>
      intro other isInternal logged
      rcases (inLog_concat entries other).mp logged with old | new
      · exact fits other isInternal old
      · exact (added.otherKey _ new).elim

def Watch.keysFit (omId : String) : Watch omId Stored Number :=
  { exact := False
    permitted := fun key _ => key.Internal → key.Legal → Fits omId key
    kept := fun core => KeysFit omId core.log
    keeps := fun _ _ _ fits move => fits.move move }

def RoomyStep {omId : String} (system : System Stored Number) (step : Step omId Stored Number) :
    Prop :=
  ∀ call, step = .call call → system.alive = true → Roomy omId system.world call

/-- While each call leaves room, the store takes every key that the manager derives
from its own ids. -/
theorem run_keysFit {omId : String} {memory : Memory Number}
    (constructed : construct omId (Ledger.empty : Log Stored) = .ok memory)
    (machine : ExecutionStateMachine.Machine) (environment : Nat → Answer Number)
    (steps : List (Step omId Stored Number)) :
    let start : System Stored Number := System.start memory machine environment
    Along System.step RoomyStep start steps → KeysFit omId (start.run steps).world.log := by
  intro start roomy
  have started : start.Sound (Watch.keysFit omId) := .ofReady
    { reachable := .start memory constructed
      kept := fun key _ logged => by
        obtain ⟨event, member, _⟩ := logged
        cases member
      appends := fun impossible => impossible.elim }
  have sound : (start.run steps).Sound (Watch.keysFit omId) :=
    roomy.keeps (fun system => system.Sound (Watch.keysFit omId))
      (fun system step sound room => sound.step step fun call isCall alive key payload caused =>
        roomy_iff.mp (room call isCall alive) key payload caused) started
  obtain ⟨_, _, _, fits⟩ := sound.recoverable
  exact fits

def cancellingEnvironment (omId : String) : Nat → Answer ℚ := fun _ =>
  { acceptingAnswer (acknowledgedOrder omId 2) with orders := .ok [acknowledgedOrder omId 2] }

def cancellingStart (omId : String) : System OrderStored ℚ :=
  System.start Memory.initial freshMachine (cancellingEnvironment omId)

def placeAndCancelAll (omId : String) :
    List (Step omId OrderStored ℚ) :=
  [.call (.place marketBuy), .call (.cancelAll none)]

private theorem placeAndCancelAll_roomy :
    Along System.step RoomyStep (cancellingStart "main") (placeAndCancelAll "main") := by
  have counted : ((cancellingStart "main").step
      (.call (.place marketBuy) : Step "main" _ ℚ)).world.memory.nextSeq = 2 := by
    decide +kernel
  have reported : (((cancellingStart "main").step
      (.call (.place marketBuy) : Step "main" _ ℚ)).world.answer
        (.cancelAll none)).orders.toOption.map (List.map Order.clientOrderId) =
      some [placeId "main" 1] := by
    decide +kernel
  refine ⟨?_, ?_, trivial⟩
  · intro call isCall _
    obtain rfl : call = .place marketBuy := (Step.call.inj isCall).symm
    refine ⟨by decide, fun _ => ⟨?_, ?_⟩⟩
    · intro message answered
      cases answered
    · intro report answered trigger reported _
      cases answered
      cases reported
      decide
  · intro call isCall _
    obtain rfl : call = .cancelAll none := (Step.call.inj isCall).symm
    unfold Roomy
    rw [counted]
    refine ⟨by decide, ?_⟩
    intro reports answered report member _ order named
    rw [answered] at reported
    have ids : reports.map Order.clientOrderId = [placeId "main" 1] := Option.some.inj reported
    have only : report.clientOrderId ∈ [placeId "main" 1] := by
      rw [← ids]
      exact List.mem_map_of_mem member
    rw [List.mem_singleton, named] at only
    rw [placeId_injective only]
    decide

theorem run_keysFit_placeAndCancelAll :
    let start : System OrderStored ℚ :=
      System.start Memory.initial freshMachine (cancellingEnvironment "main")
    KeysFit "main" (start.run (placeAndCancelAll "main")).world.log :=
  run_keysFit rfl freshMachine
    (cancellingEnvironment "main") (placeAndCancelAll "main") placeAndCancelAll_roomy

def longId : String := "oooooooooooooooooooooooooooooooooooooooooooooooooooooooooooo"

/-- The constructor takes the id, and the key of the cancelled order is too long. -/
theorem longId_tooLong :
    construct longId (Ledger.empty : Log OrderStored) =
        .ok (Memory.initial : Memory ℚ) ∧
      ¬ KeysFit longId ((cancellingStart longId).run (placeAndCancelAll longId)).world.log := by
  constructor
  · unfold construct
    rw [if_neg (by decide), if_neg (by decide)]
    rfl
  · have logged : ((cancellingStart longId).run (placeAndCancelAll longId)).world.log.entries.any
        (fun event => event.idempotencyKey ==
          some (namespacedKey longId ((MutationKey.cancelAllPending 1 2).text longId))) = true := by
      decide +kernel
    intro fits
    obtain ⟨event, member, keyed⟩ := List.any_eq_true.mp logged
    have short := fits (.cancelAllPending 1 2) (fun order fillId same => by cases same)
      ⟨event, member, beq_iff_eq.mp keyed⟩
    exact absurd short (by decide +kernel)

end TurtleExecution.OrderManager
