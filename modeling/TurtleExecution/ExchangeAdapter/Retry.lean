/-
The retry policy, and the call that is repeated under it.

The called function is held by the outcomes of its calls, the first of which has the
number 1.  The sleep function may raise.
-/

import Mathlib.Data.List.Count
import TurtleExecution.Foundation.PyNumber

set_option autoImplicit false

namespace TurtleExecution.ExchangeAdapter

inductive OperationSafety
  | safeToRetry
  | unsafeNeverAutoRetry
  deriving DecidableEq, Repr

inductive Operation
  | connect
  | disconnect
  | health
  | getPositions
  | getOrders
  | getBalances
  | getMarkPrice
  | getFundingRate
  | placeOrder
  | amendOrder
  | cancelOrder
  | cancelAll
  | getOrderStatus
  | getFills
  | reconcile
  deriving DecidableEq, Repr

def mutations : List Operation := [.placeOrder, .amendOrder, .cancelOrder, .cancelAll]

def defaultOperationSafety (operation : Operation) : OperationSafety :=
  if operation ∈ mutations then .unsafeNeverAutoRetry else .safeToRetry

inductive ExchangeAdapterError
  | exchangeAdapter (message : String)
  | connection (message : String)
  | timeout (message : String)
  | authentication (message : String)
  | rateLimitExceeded (message : String) (retryAfterSeconds : Option PyNumber)
  | orderUnknown (message : String)
  | rejectedOrder (message : String)
  | staleSnapshot (message : String)
  | sequenceGap (message : String)
  | reconciliationMismatch (message : String)
  deriving DecidableEq, Repr

/-- What a call raises: an error of the adapter, or anything else. -/
inductive Raised
  | adapter (error : ExchangeAdapterError)
  | valueError (message : String)
  | overflowError (message : String)
  | other (message : String)
  deriving DecidableEq, Repr

def ExchangeAdapterError.Transient : ExchangeAdapterError → Prop
  | connection _ | timeout _ | rateLimitExceeded _ _ => True
  | _ => False

inductive Outcome (Result : Type)
  | returned (result : Result)
  | raised (error : Raised)
  deriving DecidableEq, Repr

structure RetryPolicy where
  maxAttempts : Int
  baseDelay : PyNumber
  maxDelay : PyNumber
  safety : Operation → OperationSafety
  attempts_pos : 1 ≤ maxAttempts
  delays_pos : baseDelay.le (.int 0) = false ∧ maxDelay.le (.int 0) = false

namespace RetryPolicy

/-- `RetryPolicy(max_attempts, base_delay_seconds, max_delay_seconds, operation_safety)` -/
def create (maxAttempts : Int) (baseDelaySeconds maxDelaySeconds : PyNumber)
    (operationSafety : List (Operation × OperationSafety)) : Except Raised RetryPolicy :=
  if attempts : maxAttempts < 1 then .error (.valueError "max_attempts must be >= 1")
  else if delays : baseDelaySeconds.le (.int 0) = true ∨ maxDelaySeconds.le (.int 0) = true then
    .error (.valueError "delays must be positive")
  else
    .ok
      { maxAttempts := maxAttempts
        baseDelay := baseDelaySeconds
        maxDelay := maxDelaySeconds
        safety := fun operation =>
          (operationSafety.lookup operation).getD (defaultOperationSafety operation)
        attempts_pos := Int.not_lt.mp attempts
        delays_pos := by simpa only [not_or, Bool.not_eq_true] using delays }

def default : RetryPolicy where
  maxAttempts := 3
  baseDelay := .float (.finite (1 / 2))
  maxDelay := .float (.finite 10)
  safety := defaultOperationSafety
  attempts_pos := by decide
  delays_pos := by decide +kernel

def shouldRetry (policy : RetryPolicy) (operation : Operation) (attempt : Nat)
    (error : ExchangeAdapterError) : Bool :=
  if policy.safety operation = .unsafeNeverAutoRetry then false
  else if policy.maxAttempts ≤ attempt then false
  else
    match error with
    | .authentication _ => false
    | .connection _ | .timeout _ | .rateLimitExceeded _ _ => true
    | _ => false

/-- `backoff_seconds(attempt, error)`, for attempts from 1 on. -/
def backoffSeconds (policy : RetryPolicy) (attempt : Nat) (error : ExchangeAdapterError) :
    Except Raised PyNumber :=
  match error with
  | .rateLimitExceeded _ (some retryAfterSeconds) => .ok retryAfterSeconds
  | _ =>
      match policy.baseDelay.mul? (.int (2 ^ (attempt - 1))) with
      | some delay => .ok (delay.min policy.maxDelay)
      | none => .error (.overflowError "int too large to convert to float")

private theorem shouldRetry_iff {policy : RetryPolicy} {operation : Operation} {attempt : Nat}
    {error : ExchangeAdapterError} :
    policy.shouldRetry operation attempt error = true ↔
      policy.safety operation ≠ .unsafeNeverAutoRetry ∧ (attempt : Int) < policy.maxAttempts ∧
        error.Transient := by
  unfold shouldRetry
  split
  · rename_i isUnsafe
    simp only [isUnsafe, Bool.false_eq_true, ne_eq, not_true_eq_false, false_and]
  · rename_i isSafe
    split
    · rename_i spent
      simp only [Bool.false_eq_true, Int.not_lt.mpr spent, false_and, and_false]
    · rename_i left
      simp only [ne_eq, isSafe, not_false_eq_true, Int.not_le.mp left, true_and]
      cases error <;> simp [ExchangeAdapterError.Transient]

private theorem backoffSeconds_ok_iff (policy : RetryPolicy) {attempt : Nat} (first : 1 ≤ attempt)
    (error : ExchangeAdapterError) :
    (∃ seconds, policy.backoffSeconds attempt error = .ok seconds) ↔
      (∃ message seconds, error = .rateLimitExceeded message (some seconds)) ∨
        (∃ whole, policy.baseDelay = .int whole) ∨ attempt ≤ 1024 := by
  have doubled : (∃ delay, policy.baseDelay.mul? (.int (2 ^ (attempt - 1))) = some delay) ↔
      (∃ whole, policy.baseDelay = .int whole) ∨ attempt ≤ 1024 := by
    cases policy.baseDelay with
    | int whole => simp [PyNumber.mul?]
    | float value =>
        have power := FloatValue.ofInt?_two_pow (attempt - 1)
        rw [Option.isSome_iff_exists] at power
        simp only [reduceCtorEq, exists_false, false_or]
        rw [show attempt ≤ 1024 ↔ attempt - 1 < 1024 by omega, ← power]
        simp [PyNumber.mul?, PyNumber.float?, Option.bind_eq_some_iff]
  have computed : (∃ seconds, (match policy.baseDelay.mul? (.int (2 ^ (attempt - 1))) with
      | some delay => Except.ok (delay.min policy.maxDelay)
      | none => .error (.overflowError "int too large to convert to float")) =
        (.ok seconds : Except Raised PyNumber)) ↔
      (∃ whole, policy.baseDelay = .int whole) ∨ attempt ≤ 1024 := by
    rw [← doubled]
    cases policy.baseDelay.mul? (.int (2 ^ (attempt - 1))) with
    | none => simp
    | some delay => simp
  unfold backoffSeconds
  split
  · rename_i message seconds
    exact ⟨fun _ => .inl ⟨message, seconds, rfl⟩, fun _ => ⟨seconds, rfl⟩⟩
  · rename_i notGiven
    rw [computed]
    refine ⟨.inr, fun either => either.resolve_left ?_⟩
    rintro ⟨message, seconds, rfl⟩
    exact notGiven message seconds rfl

end RetryPolicy

inductive Event
  | call
  | sleep (seconds : PyNumber)
  deriving DecidableEq, Repr

structure Run (Result : Type) where
  events : List Event
  ending : Outcome Result
  deriving DecidableEq, Repr

section

variable {Result : Type} (outcomes : Nat → Outcome Result) (operation : Operation)
  (policy : RetryPolicy) (sleepFn : Nat → PyNumber → Except Raised Unit)

/-- The loop of `execute_with_retry` after a number of attempts. -/
def retryLoop (attempts : Nat) : Run Result :=
  let attempt := attempts + 1
  match outcomes attempt with
  | .returned result => ⟨[.call], .returned result⟩
  | .raised (.adapter error) =>
      if _retry : policy.shouldRetry operation attempt error = true then
        match policy.backoffSeconds attempt error with
        | .error raised => ⟨[.call], .raised raised⟩
        | .ok seconds =>
            match sleepFn attempt seconds with
            | .error raised => ⟨[.call, .sleep seconds], .raised raised⟩
            | .ok _ =>
                let rest := retryLoop attempt
                ⟨.call :: .sleep seconds :: rest.events, rest.ending⟩
      else ⟨[.call], .raised (.adapter error)⟩
  | .raised error => ⟨[.call], .raised error⟩
termination_by (policy.maxAttempts - attempts).toNat
decreasing_by
  have below := (RetryPolicy.shouldRetry_iff.mp ‹_›).2.1
  omega

def executeWithRetry : Run Result := retryLoop outcomes operation policy sleepFn 0

def Run.calls (run : Run Result) : Nat := run.events.count .call

/-- The events of a run with these delays, one between every two calls. -/
def spaced (delays : List PyNumber) : List Event :=
  .call :: delays.flatMap fun seconds => [.sleep seconds, .call]

/-- The run ends with the outcome of its last call, after transient errors only. -/
structure Disciplined (run : Run Result) : Prop where
  alternates : ∃ delays, run.events = spaced delays
  calls_le : (run.calls : Int) ≤ policy.maxAttempts
  unsafe_once : policy.safety operation = .unsafeNeverAutoRetry → run.calls = 1
  ending : run.ending = outcomes run.calls
  earlier : ∀ attempt, 1 ≤ attempt → attempt < run.calls →
    ∃ error, outcomes attempt = .raised (.adapter error) ∧ error.Transient
  stops : ∀ error, outcomes run.calls = .raised (.adapter error) → error.Transient →
    policy.safety operation = .unsafeNeverAutoRetry ∨ (run.calls : Int) = policy.maxAttempts

def Due (attempt : Nat) : Prop :=
  ∃ error, outcomes attempt = .raised (.adapter error) ∧
    policy.shouldRetry operation attempt error = true

/-- The wait after an error is a number that the sleep function takes. -/
def Waitable (attempt : Nat) (error : ExchangeAdapterError) : Prop :=
  ((∃ message seconds, error = .rateLimitExceeded message (some seconds)) ∨
    (∃ whole, policy.baseDelay = .int whole) ∨ attempt ≤ 1024) ∧
  ∀ seconds, policy.backoffSeconds attempt error = .ok seconds →
    sleepFn attempt seconds = .ok ()

/-- The same of a run that goes on after a number of attempts, with the calls counted by
the delays between them. -/
structure Paced (attempts : Nat) (run : Run Result) (delays : List PyNumber) : Prop where
  events : run.events = spaced delays
  ending : run.ending = outcomes (attempts + delays.length + 1)
  due : ∀ attempt, attempts < attempt → attempt ≤ attempts + delays.length →
    Due outcomes operation policy attempt
  last : ¬Due outcomes operation policy (attempts + delays.length + 1)

private theorem count_spaced (delays : List PyNumber) :
    (spaced delays).count .call = delays.length + 1 := by
  unfold spaced
  rw [List.count_cons_self]
  congr 1
  induction delays with
  | nil => rfl
  | cons seconds delays ih =>
      rw [List.flatMap_cons, List.count_append, ih, List.length_cons, Nat.add_comm]
      rfl

variable {outcomes operation policy sleepFn}

variable {attempts : Nat} {error : ExchangeAdapterError}

private theorem waitable_iff {attempt : Nat} (first : 1 ≤ attempt) :
    Waitable policy sleepFn attempt error ↔
      ∃ seconds, policy.backoffSeconds attempt error = .ok seconds ∧
        sleepFn attempt seconds = .ok () := by
  unfold Waitable
  rw [← policy.backoffSeconds_ok_iff first error]
  constructor
  · rintro ⟨⟨seconds, computed⟩, slept⟩
    exact ⟨seconds, computed, slept seconds computed⟩
  · rintro ⟨seconds, computed, slept⟩
    refine ⟨⟨seconds, computed⟩, fun other same => ?_⟩
    rw [← Except.ok.inj (computed.symm.trans same)]
    exact slept

private theorem disciplined_iff {run : Run Result} :
    Disciplined outcomes operation policy run ↔
      ∃ delays, Paced outcomes operation policy 0 run delays := by
  constructor
  · intro disciplined
    obtain ⟨delays, events⟩ := disciplined.alternates
    have calls : run.calls = delays.length + 1 := by
      rw [Run.calls, events, count_spaced]
    refine ⟨delays, events, ?_, fun attempt first within => ?_, ?_⟩
    · rw [Nat.zero_add, ← calls]
      exact disciplined.ending
    · obtain ⟨error, raised, isTransient⟩ := disciplined.earlier attempt first (by omega)
      have isSafe : policy.safety operation ≠ .unsafeNeverAutoRetry := by
        intro isUnsafe
        have once := disciplined.unsafe_once isUnsafe
        omega
      have budget := disciplined.calls_le
      exact ⟨error, raised, RetryPolicy.shouldRetry_iff.mpr ⟨isSafe, by omega, isTransient⟩⟩
    · rintro ⟨error, raised, retry⟩
      obtain ⟨isSafe, below, isTransient⟩ := RetryPolicy.shouldRetry_iff.mp retry
      rw [Nat.zero_add, ← calls] at raised below
      have spent := (disciplined.stops error raised isTransient).resolve_left isSafe
      omega
  · rintro ⟨delays, paced⟩
    have calls : run.calls = delays.length + 1 := by
      rw [Run.calls, paced.events, count_spaced]
    have due := paced.due
    have last := paced.last
    have ending := paced.ending
    rw [Nat.zero_add] at due last ending
    have budget : (run.calls : Int) ≤ policy.maxAttempts := by
      have least := policy.attempts_pos
      rw [calls]
      rcases Nat.eq_zero_or_pos delays.length with none | some
      · omega
      · obtain ⟨error, _, retry⟩ := due delays.length some (Nat.le_refl _)
        have below := (RetryPolicy.shouldRetry_iff.mp retry).2.1
        omega
    refine
      { alternates := ⟨delays, paced.events⟩
        calls_le := budget
        unsafe_once := fun isUnsafe => ?_
        ending := by rw [calls]; exact ending
        earlier := fun attempt first below => ?_
        stops := fun error raised isTransient => ?_ }
    · rcases Nat.eq_zero_or_pos delays.length with none | some
      · omega
      · obtain ⟨error, _, retry⟩ := due 1 Nat.zero_lt_one some
        exact absurd isUnsafe (RetryPolicy.shouldRetry_iff.mp retry).1
    · obtain ⟨error, raised, retry⟩ := due attempt first (by omega)
      exact ⟨error, raised, (RetryPolicy.shouldRetry_iff.mp retry).2.2⟩
    · by_contra neither
      obtain ⟨isSafe, left⟩ := not_or.mp neither
      rw [calls] at raised left budget
      exact last ⟨error, raised,
        RetryPolicy.shouldRetry_iff.mpr ⟨isSafe, by omega, isTransient⟩⟩

private theorem paced_stop (last : ¬Due outcomes operation policy (attempts + 1)) :
    Paced outcomes operation policy attempts ⟨[.call], outcomes (attempts + 1)⟩ [] where
  events := rfl
  ending := rfl
  due := fun _ first within => absurd (Nat.lt_of_lt_of_le first within) (Nat.lt_irrefl _)
  last := last

private theorem not_paced_call {ending : Outcome Result} {delays : List PyNumber}
    (due : Due outcomes operation policy (attempts + 1)) :
    ¬Paced outcomes operation policy attempts ⟨[.call], ending⟩ delays := by
  intro paced
  cases delays with
  | nil => exact paced.last due
  | cons seconds delays => cases paced.events

private theorem not_paced_sleep {ending : Outcome Result} {seconds : PyNumber}
    {delays : List PyNumber} :
    ¬Paced outcomes operation policy attempts ⟨[.call, .sleep seconds], ending⟩ delays := by
  intro paced
  cases delays with
  | nil => cases paced.events
  | cons seconds delays => cases paced.events

private theorem paced_next {seconds : PyNumber} {rest : Run Result}
    (due : Due outcomes operation policy (attempts + 1)) :
    (∃ delays, Paced outcomes operation policy attempts
        ⟨.call :: .sleep seconds :: rest.events, rest.ending⟩ delays) ↔
      ∃ delays, Paced outcomes operation policy (attempts + 1) rest delays := by
  constructor
  · rintro ⟨delays, paced⟩
    cases delays with
    | nil => cases paced.events
    | cons delay delays =>
        have ending := paced.ending
        have later := paced.due
        have last := paced.last
        have shift : attempts + (delay :: delays).length = attempts + 1 + delays.length := by
          rw [List.length_cons]
          omega
        rw [shift] at ending later last
        exact ⟨delays, (List.cons.inj (List.cons.inj paced.events).2).2, ending,
          fun attempt above within => later attempt (by omega) within, last⟩
  · rintro ⟨delays, paced⟩
    have shift : attempts + (seconds :: delays).length = attempts + 1 + delays.length := by
      rw [List.length_cons]
      omega
    refine ⟨seconds :: delays, ?_, ?_, fun attempt above within => ?_, ?_⟩
    · change _ :: _ :: rest.events = _
      rw [paced.events]
      rfl
    · rw [shift]
      exact paced.ending
    · rw [shift] at within
      rcases Nat.eq_or_lt_of_le above with next | later
      · rw [← next]
        exact due
      · exact paced.due attempt later within
    · rw [shift]
      exact paced.last

/-- Every wait that comes up after a number of attempts can be made. -/
def WaitableFrom (outcomes : Nat → Outcome Result) (operation : Operation) (policy : RetryPolicy)
    (sleepFn : Nat → PyNumber → Except Raised Unit) (attempts : Nat) : Prop :=
  ∀ attempt, attempts < attempt →
    (∀ earlier, attempts < earlier → earlier ≤ attempt → Due outcomes operation policy earlier) →
    ∀ error, outcomes attempt = .raised (.adapter error) → Waitable policy sleepFn attempt error

private theorem waitableFrom_of_last (last : ¬Due outcomes operation policy (attempts + 1)) :
    WaitableFrom outcomes operation policy sleepFn attempts :=
  fun _ above due => absurd (due _ (Nat.lt_succ_self _) above) last

private theorem waitableFrom_next (raised : outcomes (attempts + 1) = .raised (.adapter error))
    (retry : policy.shouldRetry operation (attempts + 1) error = true) :
    WaitableFrom outcomes operation policy sleepFn attempts ↔
      Waitable policy sleepFn (attempts + 1) error ∧
        WaitableFrom outcomes operation policy sleepFn (attempts + 1) := by
  have due : Due outcomes operation policy (attempts + 1) := ⟨error, raised, retry⟩
  have onward : ∀ {attempt : Nat}, (∀ earlier, attempts + 1 < earlier → earlier ≤ attempt →
      Due outcomes operation policy earlier) → ∀ earlier, attempts < earlier →
      earlier ≤ attempt → Due outcomes operation policy earlier := by
    intro attempt later earlier above within
    rcases Nat.eq_or_lt_of_le above with next | above
    · rw [← next]
      exact due
    · exact later earlier above within
  constructor
  · intro all
    refine ⟨all _ (Nat.lt_succ_self _) (onward fun earlier above within => ?_) error raised,
      fun attempt above later => all attempt (by omega) (onward later)⟩
    omega
  · rintro ⟨first, all⟩ attempt above dues other raisedAt
    rcases Nat.eq_or_lt_of_le above with next | later
    · subst next
      rw [raised] at raisedAt
      cases raisedAt
      exact first
    · exact all attempt later (fun earlier above => dues earlier (by omega)) other raisedAt

private theorem retryLoop_of_last (last : ¬Due outcomes operation policy (attempts + 1)) :
    retryLoop outcomes operation policy sleepFn attempts =
      ⟨[.call], outcomes (attempts + 1)⟩ := by
  unfold retryLoop
  dsimp only
  split
  · rename_i result returned
    rw [returned]
  · rename_i error raised
    rw [dif_neg (fun retry => last ⟨error, raised, retry⟩), raised]
  · rename_i error _ raised
    rw [raised]

private theorem retryLoop_of_due (raised : outcomes (attempts + 1) = .raised (.adapter error))
    (retry : policy.shouldRetry operation (attempts + 1) error = true) :
    retryLoop outcomes operation policy sleepFn attempts =
      match policy.backoffSeconds (attempts + 1) error with
      | .error raised => ⟨[.call], .raised raised⟩
      | .ok seconds =>
          match sleepFn (attempts + 1) seconds with
          | .error raised => ⟨[.call, .sleep seconds], .raised raised⟩
          | .ok _ =>
              let rest := retryLoop outcomes operation policy sleepFn (attempts + 1)
              ⟨.call :: .sleep seconds :: rest.events, rest.ending⟩ := by
  rw [retryLoop]
  simp only [raised, retry, dite_true]

private theorem retryLoop_paced_iff (attempts : Nat) :
    (∃ delays, Paced outcomes operation policy attempts
        (retryLoop outcomes operation policy sleepFn attempts) delays) ↔
      WaitableFrom outcomes operation policy sleepFn attempts := by
  generalize isLeft : (policy.maxAttempts - attempts).toNat = left
  induction left using Nat.strong_induction_on generalizing attempts with
  | _ left ih =>
      by_cases due : Due outcomes operation policy (attempts + 1)
      · obtain ⟨error, raised, retry⟩ := due
        have below := (RetryPolicy.shouldRetry_iff.mp retry).2.1
        have onward := ih _ (by omega) (attempts + 1) rfl
        have due : Due outcomes operation policy (attempts + 1) := ⟨error, raised, retry⟩
        rw [waitableFrom_next raised retry, waitable_iff (by omega), retryLoop_of_due raised retry]
        cases computed : policy.backoffSeconds (attempts + 1) error with
        | error failure =>
            refine ⟨fun ⟨_, paced⟩ => absurd paced (not_paced_call due), ?_⟩
            rintro ⟨⟨seconds, impossible, _⟩, _⟩
            cases impossible
        | ok seconds =>
            dsimp only
            cases slept : sleepFn (attempts + 1) seconds with
            | error failure =>
                refine ⟨fun ⟨_, paced⟩ => absurd paced not_paced_sleep, ?_⟩
                rintro ⟨⟨_, same, impossible⟩, _⟩
                cases same
                rw [slept] at impossible
                cases impossible
            | ok _ =>
                rw [paced_next due, onward]
                exact ⟨fun all => ⟨⟨seconds, rfl, slept⟩, all⟩, fun both => both.2⟩
      · rw [retryLoop_of_last due]
        exact ⟨fun _ => waitableFrom_of_last due, fun _ => ⟨[], paced_stop due⟩⟩

/-- The run keeps the discipline just when each wait that comes up can be made: the delay is
given by the venue, or is no float that is doubled too often, and the sleep function takes
it. -/
theorem executeWithRetry_disciplined_iff (outcomes : Nat → Outcome Result)
    (operation : Operation) (policy : RetryPolicy)
    (sleepFn : Nat → PyNumber → Except Raised Unit) :
    Disciplined outcomes operation policy
        (executeWithRetry outcomes operation policy sleepFn) ↔
      ∀ attempt error, 1 ≤ attempt →
        (∀ earlier, 1 ≤ earlier → earlier ≤ attempt → Due outcomes operation policy earlier) →
        outcomes attempt = .raised (.adapter error) →
        Waitable policy sleepFn attempt error := by
  rw [disciplined_iff, executeWithRetry, retryLoop_paced_iff]
  constructor
  · intro all attempt error first due raised
    exact all attempt first due error raised
  · intro all attempt first due error raised
    exact all attempt error first due raised

end

def nanoseconds (seconds : ℚ) : Int :=
  if 0 ≤ seconds then ⌈seconds⌉ else ⌊seconds⌋

def timeSleep (seconds : PyNumber) : Except Raised Unit :=
  let outOfRange := .error (.overflowError "timestamp out of range for platform time_t")
  let checked (rounded : Int) : Except Raised Unit :=
    if rounded < -2 ^ 63 ∨ 2 ^ 63 ≤ rounded then outOfRange
    else if rounded < 0 then .error (.valueError "sleep length must be non-negative")
    else .ok ()
  match seconds with
  | .int whole => checked (whole * 10 ^ 9)
  | .float (.finite value) => checked (nanoseconds (Binary64.format.nearest (value * 10 ^ 9)))
  | .float (.infinity _) => outOfRange
  | .float .nan => .error (.valueError "Invalid value NaN (not a number)")

def hurried (attempt : Nat) : Outcome Unit :=
  if attempt = 1 then
    .raised (.adapter (.rateLimitExceeded "Hyperliquid rate limit exceeded"
      (some (.float (.finite (-1))))))
  else .returned ()

/-- The call is not repeated, and what is raised is not the error of the call. -/
theorem hurried_undisciplined :
    executeWithRetry hurried .getPositions RetryPolicy.default (fun _ => timeSleep) =
        ⟨[.call, .sleep (.float (.finite (-1)))],
          .raised (.valueError "sleep length must be non-negative")⟩ ∧
      ¬Disciplined hurried .getPositions RetryPolicy.default
        (executeWithRetry hurried .getPositions RetryPolicy.default fun _ => timeSleep) := by
  have first : executeWithRetry hurried .getPositions RetryPolicy.default (fun _ => timeSleep) =
      ⟨[.call, .sleep (.float (.finite (-1)))],
        .raised (.valueError "sleep length must be non-negative")⟩ := by
    have slept : timeSleep (.float (.finite (-1))) =
        .error (.valueError "sleep length must be non-negative") := by decide +kernel
    rw [executeWithRetry, retryLoop_of_due rfl (by decide)]
    simp only [RetryPolicy.backoffSeconds, slept]
  refine ⟨first, fun disciplined => ?_⟩
  obtain ⟨delays, paced⟩ := disciplined_iff.mp disciplined
  rw [first] at paced
  exact not_paced_sleep paced

end TurtleExecution.ExchangeAdapter
