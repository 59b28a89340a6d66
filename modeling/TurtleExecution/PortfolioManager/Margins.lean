/-
The margins of the positions, over all runs of a portfolio manager, in exact arithmetic.

The totals are what the positions hold.  A position that was released holds nothing as
long as no margin is reserved for it anew: another release would return at once.
-/

import TurtleExecution.Foundation.TransitionTable
import TurtleExecution.Foundation.Totals
import TurtleExecution.PortfolioManager.Balance

set_option autoImplicit false

namespace TurtleExecution.PortfolioManager

open ExchangeAdapter SharedStore Process Runs

/-- The margin totals are what the positions hold, and no position holds less than nothing. -/
structure MarginsAddUp (memory : Memory ℚ) : Prop where
  reserved : Backs memory.reservedMargin memory.reservedByPosition
  used : Backs memory.usedMargin memory.usedByPosition

private theorem marginsAddUp_initial : MarginsAddUp Memory.initial :=
  { reserved := backs_nil
    used := backs_nil }

private theorem positive_of_requirePositive {message : String} {amount : ℚ} {done : Unit}
    (passed : requirePositive message amount = .ok done) : 0 < amount := by
  unfold requirePositive at passed
  split at passed
  · cases passed
  · cases passed
  · rename_i decided
    exact not_le.mp (of_decide_eq_false (Except.ok.inj decided))

private theorem le_of_refuseAbove {amount limit : ℚ} {error : PortfolioManagerError} {done : Unit}
    (passed : refuseAbove amount limit error = .ok done) : amount ≤ limit := by
  unfold refuseAbove at passed
  split at passed
  · cases passed
  · cases passed
  · rename_i decided
    exact not_lt.mp (of_decide_eq_false (Except.ok.inj decided))

variable {memory : Memory ℚ} {amount : ℚ} {call : Call ℚ}

theorem MarginsAddUp.reserve (addUp : MarginsAddUp memory) (positionId : String)
    (positive : 0 < amount) : MarginsAddUp (memory.post (.reserveMargin positionId amount)) := by
  have held := addUp.reserved.value_nonneg positionId
  have more := addUp.reserved.set positionId (add_nonneg held positive.le)
  rw [add_sub_cancel_left] at more
  exact { reserved := more, used := addUp.used }

theorem MarginsAddUp.allocate (addUp : MarginsAddUp memory) (positionId : String)
    (positive : 0 < amount) (available : amount ≤ memory.reservedFor positionId) :
    MarginsAddUp (memory.post (.allocateMargin positionId amount)) := by
  have less := addUp.reserved.set positionId (sub_nonneg.mpr available)
  have more := addUp.used.set positionId
    (add_nonneg (addUp.used.value_nonneg positionId) positive.le)
  rw [add_sub_cancel_left] at more
  change Backs (memory.reservedMargin + (memory.reservedFor positionId - amount -
    memory.reservedFor positionId)) _ at less
  rw [sub_sub_cancel_left, ← sub_eq_add_neg] at less
  exact { reserved := less, used := more }

theorem MarginsAddUp.release (addUp : MarginsAddUp memory) (positionId : String) :
    MarginsAddUp (memory.post (.releaseMargin positionId)) :=
  { reserved := addUp.reserved.erase positionId
    used := addUp.used.erase positionId }

theorem MarginsAddUp.post (addUp : MarginsAddUp memory) (arguments : call.arguments = .ok ())
    (admitted : call.allow memory = .ok ()) : MarginsAddUp (memory.post call.entry) := by
  cases call with
  | reserveMargin positionId amount requestId =>
      exact addUp.reserve positionId (positive_of_requirePositive (ok_of_mapError arguments))
  | allocateMargin positionId amount requestId =>
      exact addUp.allocate positionId (positive_of_requirePositive (ok_of_mapError arguments))
        (le_of_refuseAbove admitted)
  | releaseMargin positionId requestId => exact addUp.release positionId
  | _ => exact { reserved := addUp.reserved, used := addUp.used }

/-- The position has no reserved and no used margin, and is not an open one. -/
structure HoldsNothing (memory : Memory ℚ) (positionId : String) : Prop where
  reserved : memory.reservedFor positionId = 0
  used : memory.usedFor positionId = 0
  closed : positionId ∉ memory.openPositionIds

def Settled (memory : Memory ℚ) : Prop :=
  ∀ positionId ∈ memory.releasedPositions, HoldsNothing memory positionId

private theorem settled_initial : Settled (Memory.initial : Memory ℚ) :=
  fun _ member => (List.not_mem_nil member).elim

theorem Settled.reserve (settled : Settled memory) {positionId : String} (amount : ℚ)
    (unreleased : positionId ∉ memory.releasedPositions) :
    Settled (memory.post (.reserveMargin positionId amount)) := by
  intro other member
  have different : other ≠ positionId := fun same => unreleased (same ▸ member)
  have nothing := settled other member
  refine { reserved := ?_, used := nothing.used, closed := nothing.closed }
  change ((memory.reservedByPosition.set positionId _).get? other).getD 0 = 0
  rw [Dict.get?_set_of_ne _ _ different]
  exact nothing.reserved

theorem Settled.allocate (settled : Settled memory) {positionId : String} (positive : 0 < amount)
    (available : amount ≤ memory.reservedFor positionId) :
    Settled (memory.post (.allocateMargin positionId amount)) := by
  intro other member
  have nothing := settled other member
  have different : other ≠ positionId := by
    rintro rfl
    rw [nothing.reserved] at available
    exact absurd positive (not_lt.mpr available)
  refine { reserved := ?_, used := ?_, closed := ?_ }
  · change ((memory.reservedByPosition.set positionId _).get? other).getD 0 = 0
    rw [Dict.get?_set_of_ne _ _ different]
    exact nothing.reserved
  · change ((memory.usedByPosition.set positionId _).get? other).getD 0 = 0
    rw [Dict.get?_set_of_ne _ _ different]
    exact nothing.used
  · change other ∉ addToSet memory.openPositionIds positionId
    unfold addToSet
    split
    · exact nothing.closed
    · rw [List.mem_append, List.mem_singleton]
      exact not_or.mpr ⟨nothing.closed, different⟩

theorem Settled.release (settled : Settled memory) (positionId : String) :
    Settled (memory.post (.releaseMargin positionId)) := by
  intro other member
  change other ∈ addToSet memory.releasedPositions positionId at member
  by_cases same : other = positionId
  · refine { reserved := ?_, used := ?_, closed := ?_ }
    · change ((memory.reservedByPosition.erase positionId).get? other).getD 0 = 0
      rw [Dict.get?_erase, if_pos same]
      rfl
    · change ((memory.usedByPosition.erase positionId).get? other).getD 0 = 0
      rw [Dict.get?_erase, if_pos same]
      rfl
    · change other ∉ memory.openPositionIds.filter fun known => known ≠ positionId
      rw [List.mem_filter, decide_eq_true_eq]
      exact fun kept => kept.2 same
  · have before : other ∈ memory.releasedPositions := by
      unfold addToSet at member
      split at member
      · exact member
      · exact (List.mem_append.mp member).resolve_right fun last =>
          same (List.mem_singleton.mp last)
    have nothing := settled other before
    refine { reserved := ?_, used := ?_, closed := ?_ }
    · change ((memory.reservedByPosition.erase positionId).get? other).getD 0 = 0
      rw [Dict.get?_erase, if_neg same]
      exact nothing.reserved
    · change ((memory.usedByPosition.erase positionId).get? other).getD 0 = 0
      rw [Dict.get?_erase, if_neg same]
      exact nothing.used
    · change other ∉ memory.openPositionIds.filter fun known => known ≠ positionId
      exact fun kept => nothing.closed (List.mem_filter.mp kept).1

private theorem mem_releasedPositions (memory : Memory ℚ) (positionId : String) :
    positionId ∈ (memory.post (.releaseMargin positionId)).releasedPositions := by
  change positionId ∈ addToSet memory.releasedPositions positionId
  unfold addToSet
  split
  · rename_i known
    exact known
  · exact List.mem_append_right _ (List.mem_singleton_self _)

section

variable {Stored : Type} [Source Stored (Payload ℚ)]

/-- The call reserves no margin for a position that was released, and does not take the key
under which another position was released. -/
structure Call.Orderly (pmId : String) (host : Host Stored (Memory ℚ)) (call : Call ℚ) : Prop where
  reserves : ∀ positionId amount requestId, call = .reserveMargin positionId amount requestId →
    call.Records pmId host → positionId ∉ host.memory.releasedPositions
  releases : ∀ positionId requestId, call = .releaseMargin positionId requestId →
    InLog pmId host.log call.key → positionId ∈ host.memory.releasedPositions

def OrderlyStep {pmId : String} (system : System Stored ℚ) (step : Step pmId Stored ℚ) : Prop :=
  ∀ call, step = .call call → system.alive = true → call.Orderly pmId system.host

theorem Settled.post (settled : Settled memory) (arguments : call.arguments = .ok ())
    (admitted : call.allow memory = .ok ())
    (unreleased : ∀ positionId amount requestId, call = .reserveMargin positionId amount requestId →
      positionId ∉ memory.releasedPositions) : Settled (memory.post call.entry) := by
  cases call with
  | reserveMargin positionId amount requestId =>
      exact settled.reserve amount (unreleased positionId amount requestId rfl)
  | allocateMargin positionId amount requestId =>
      exact settled.allocate (positive_of_requirePositive (ok_of_mapError arguments))
        (le_of_refuseAbove admitted)
  | releaseMargin positionId requestId => exact settled.release positionId
  | _ =>
      exact fun positionId member =>
        { reserved := (settled positionId member).reserved
          used := (settled positionId member).used
          closed := (settled positionId member).closed }

/-- A manager in balance that was rebuilt from its log, with what holds of its memory. -/
structure Running (pmId : String) (kept : Memory ℚ → Prop) (host : Host Stored (Memory ℚ)) :
    Prop where
  ready : Ready pmId host
  balanced : Balanced host.memory
  kept : kept host.memory

variable {pmId : String} {kept : Memory ℚ → Prop}

theorem Running.unchanged {host after : Host Stored (Memory ℚ)} (running : Running pmId kept host)
    (same : after.log = host.log ∧ after.memory = host.memory) : Running pmId kept after := by
  obtain ⟨log, memory⟩ := same
  exact
    { ready := by
        unfold Ready
        rw [log, memory]
        exact running.ready
      balanced := by rw [memory]; exact running.balanced
      kept := by rw [memory]; exact running.kept }

theorem Running.run {allowed : System Stored ℚ → Step pmId Stored ℚ → Prop}
    (posts : ∀ (host after : Host Stored (Memory ℚ)) call, Running pmId kept host →
      allowed { host, alive := true } (.call call) → call.Posts pmId host after →
        kept after.memory)
    {system : System Stored ℚ} (running : Running pmId kept system.host)
    {steps : List (Step pmId Stored ℚ)} (along : Along System.step allowed system steps) :
    Running pmId kept (steps.foldl System.step system).host := by
  refine along.keeps (fun system => Running pmId kept system.host) ?_ running
  rintro ⟨host, alive⟩ step running isAllowed
  cases step with
  | call call =>
      cases alive with
      | false => exact running
      | true =>
          have ends := call.operation_posts running.ready running.balanced
          unfold Ends at ends
          unfold System.step
          dsimp only at ends ⊢
          rw [if_pos rfl]
          rcases ran : call.operation pmId host with ⟨outcome, after⟩
          rw [ran] at ends
          cases outcome with
          | returned snapshot =>
              rcases ends with ⟨rfl, _⟩ | posted
              · exact running
              · obtain ⟨event, _, _, memory⟩ := posted.posted
                exact
                  { ready := posted.ready
                    balanced := by
                      rw [memory]
                      exact running.balanced.posted event call.entry
                    kept := posts host after call running isAllowed posted }
          | raised error => exact running.unchanged ends.1
          | crashed => exact running.unchanged ends.1
  | foreign added =>
      exact
        { ready := Sound.foreign running.ready added.notOwn added.otherKey
          balanced := running.balanced
          kept := running.kept }
  | kill => exact running
  | restart =>
      unfold System.step
      dsimp only
      cases constructed : (construct pmId host.log : Except _ (Memory ℚ)) with
      | error error => exact running
      | ok rebuilt =>
          have same : rebuilt = host.memory := Sound.rebuilt running.ready constructed
          rw [same]
          exact running

private theorem running_start (start : kept Memory.initial) (environment : Nat → StoreAnswer) :
    Running pmId kept (System.start environment : System Stored ℚ).host :=
  { ready := sound_empty pmId
    balanced := balanced_initial
    kept := start }

private theorem marginsAddUp_run (pmId : String) (environment : Nat → StoreAnswer)
    (steps : List (Step pmId Stored ℚ)) :
    MarginsAddUp (steps.foldl System.step (System.start environment)).host.memory := by
  have all : Along System.step (fun _ _ => True) (System.start environment) steps :=
    along_of_all (fun _ _ => trivial) _ steps
  refine (Running.run ?_ (running_start marginsAddUp_initial environment) all).kept
  intro host after call running _ posted
  obtain ⟨event, _, _, memory⟩ := posted.posted
  have more := running.kept.post posted.records.arguments posted.records.admitted
  rw [memory]
  exact { reserved := more.reserved, used := more.used }

private theorem settled_run {environment : Nat → StoreAnswer} {steps : List (Step pmId Stored ℚ)}
    (orderly : Along System.step OrderlyStep (System.start environment) steps) :
    Running pmId Settled (steps.foldl System.step (System.start environment)).host := by
  refine Running.run ?_ (running_start settled_initial environment) orderly
  intro host after call running isOrderly posted
  obtain ⟨event, _, _, memory⟩ := posted.posted
  have settled := running.kept.post posted.records.arguments posted.records.admitted
    fun positionId amount requestId same =>
      (isOrderly call rfl rfl).reserves positionId amount requestId same posted.records
  rw [memory]
  exact fun positionId member =>
    { reserved := (settled positionId member).reserved
      used := (settled positionId member).used
      closed := (settled positionId member).closed }

/-- In every orderly run the margins add up, and behind every orderly release that returns
the position holds nothing. -/
theorem orderly_release_strands_nothing {environment : Nat → StoreAnswer}
    {steps : List (Step pmId Stored ℚ)}
    (orderly : Along System.step OrderlyStep (System.start environment) steps) :
    let final := steps.foldl System.step (System.start environment)
    MarginsAddUp final.host.memory ∧
      ∀ positionId requestId, (Call.releaseMargin positionId requestId).Orderly pmId final.host →
        ∀ snapshot after,
          releaseMargin pmId positionId requestId final.host = (.returned snapshot, after) →
            HoldsNothing after.memory positionId := by
  intro final
  refine ⟨marginsAddUp_run pmId environment steps, ?_⟩
  intro positionId requestId isOrderly snapshot after ran
  have running : Running pmId Settled final.host := settled_run orderly
  have ends := (Call.releaseMargin positionId requestId).operation_posts running.ready
    running.balanced
  unfold Ends at ends
  change Post.Holds _ (releaseMargin pmId positionId requestId final.host) at ends
  rw [ran] at ends
  rcases ends with ⟨rfl, known | released⟩ | posted
  · exact running.kept positionId (isOrderly.releases positionId requestId rfl known)
  · exact running.kept positionId released
  · obtain ⟨event, _, _, memory⟩ := posted.posted
    have nothing := running.kept.release positionId positionId
      (mem_releasedPositions final.host.memory positionId)
    rw [memory]
    exact { reserved := nothing.reserved, used := nothing.used, closed := nothing.closed }

end

def openedPosition : List (Step "main" (Payload ℚ) ℚ) :=
  [.call (.deposit 100 "d1"), .call (.reserveMargin "p1" 10 "r1"),
    .call (.allocateMargin "p1" 5 "a1")]

def opened : System (Payload ℚ) ℚ := openedPosition.foldl System.step (System.start steadyStore)

private theorem orderly_of_other {Stored : Type} [Source Stored (Payload ℚ)] {pmId : String}
    {host : Host Stored (Memory ℚ)} {call : Call ℚ}
    (noReserve : ∀ positionId amount requestId, call ≠ .reserveMargin positionId amount requestId)
    (noRelease : ∀ positionId requestId, call ≠ .releaseMargin positionId requestId) :
    call.Orderly pmId host :=
  { reserves := fun positionId amount requestId same =>
      absurd same (noReserve positionId amount requestId)
    releases := fun positionId requestId same => absurd same (noRelease positionId requestId) }

private theorem opened_orderly :
    Along System.step OrderlyStep (System.start steadyStore) openedPosition := by
  have noneReleased : ((System.start steadyStore : System (Payload ℚ) ℚ).step
      (.call (.deposit 100 "d1") : Step "main" (Payload ℚ) ℚ)).host.memory.releasedPositions = [] := by
    decide +kernel
  refine ⟨?_, ?_, ?_, trivial⟩
  · rintro call same _
    cases same
    refine orderly_of_other ?_ ?_
    · rintro _ _ _ ⟨⟩
    · rintro _ _ ⟨⟩
  · rintro call same _
    cases same
    refine { reserves := ?_, releases := ?_ }
    · intro positionId _ _ _ _ member
      rw [noneReleased] at member
      cases member
    · rintro _ _ ⟨⟩
  · rintro call same _
    cases same
    refine orderly_of_other ?_ ?_
    · rintro _ _ _ ⟨⟩
    · rintro _ _ ⟨⟩

theorem orderly_release_strands_nothing_opened :
    MarginsAddUp opened.host.memory ∧
      ∃ snapshot after,
        releaseMargin "main" "p1" "x1" opened.host = (.returned snapshot, after) ∧
          HoldsNothing after.memory "p1" := by
  obtain ⟨addUp, release⟩ := orderly_release_strands_nothing opened_orderly
  have returns : (releaseMargin "main" "p1" "x1" opened.host).1.returns = true := by
    decide +kernel
  have fresh : ¬ InLog "main" opened.host.log (.releaseMargin "p1" "x1") := by
    unfold InLog
    decide +kernel
  obtain ⟨snapshot, returned⟩ := Outcome.returns_iff.mp returns
  have ran : releaseMargin "main" "p1" "x1" opened.host =
      (.returned snapshot, (releaseMargin "main" "p1" "x1" opened.host).2) :=
    Prod.ext returned rfl
  refine ⟨addUp, snapshot, _, ran, release "p1" "x1" ?_ snapshot _ ran⟩
  refine { reserves := ?_, releases := ?_ }
  · rintro _ _ _ ⟨⟩
  · rintro positionId requestId same known
    cases same
    exact absurd known fresh

def usedAgain : System (Payload ℚ) ℚ :=
  (opened.step (.call (.releaseMargin "p1" "x1") : Step "main" (Payload ℚ) ℚ)).step
    (.call (.reserveMargin "p1" 10 "r2") : Step "main" (Payload ℚ) ℚ)

/-- Another release returns, and the position keeps its margin. -/
theorem release_strands_margin :
    ∃ snapshot after,
      releaseMargin "main" "p1" "x2" usedAgain.host = (.returned snapshot, after) ∧
        after.memory.reservedFor "p1" = 10 ∧ ¬ HoldsNothing after.memory "p1" := by
  have returns : (releaseMargin "main" "p1" "x2" usedAgain.host).1.returns = true := by
    decide +kernel
  have strands : (releaseMargin "main" "p1" "x2" usedAgain.host).2.memory.reservedFor "p1" = 10 := by
    decide +kernel
  obtain ⟨snapshot, returned⟩ := Outcome.returns_iff.mp returns
  refine ⟨snapshot, _, Prod.ext returned rfl, strands, fun nothing => ?_⟩
  have zero := nothing.reserved
  rw [strands] at zero
  cases zero

end TurtleExecution.PortfolioManager
