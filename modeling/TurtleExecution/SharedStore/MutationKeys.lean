/-
The keys under which the three managers record mutations in one store.

A key joins ids by colons, and ids may hold colons themselves.  Keys of different
mutations are different texts exactly when no id in use goes on behind another.
-/

import TurtleExecution.OrderManager.Keys
import TurtleExecution.PortfolioManager.Keys
import TurtleExecution.PositionManager.Keys
import TurtleExecution.SharedStore.Log

set_option autoImplicit false

namespace TurtleExecution.SharedStore

open Delimited

/-- A mutation that a manager issues, with the id of the manager. -/
inductive Mutation
  | order (omId : String) (key : OrderManager.MutationKey)
  | position (pmId : String) (key : PositionManager.MutationKey)
  | portfolio (pmId : String) (key : PortfolioManager.MutationKey)
  deriving DecidableEq

/-- The check of a manager id, which is the same in the three constructors. -/
def AcceptedId (managerId : String) : Prop :=
  PyText.isBlank managerId = false ∧ managerId.length ≤ 60

instance : DecidablePred AcceptedId := fun managerId =>
  inferInstanceAs (Decidable (PyText.isBlank managerId = false ∧ managerId.length ≤ 60))

namespace Mutation

def storeKey : Mutation → String
  | order omId key => OrderManager.namespacedKey omId (key.text omId)
  | position pmId key => PositionManager.namespacedKey pmId key.text
  | portfolio pmId key => PortfolioManager.namespacedKey pmId key.text

def managerId : Mutation → String
  | order omId _ => omId
  | position pmId _ => pmId
  | portfolio pmId _ => pmId

/-- The ids of a mutation that a manager accepts, where callers choose theirs from
the given ones.  Orders and positions have the ids that their manager minted. -/
def Uses (ids : Set String) (mutation : Mutation) : Prop :=
  (mutation.managerId ∈ ids ∧ AcceptedId mutation.managerId) ∧
    match mutation with
    | order _ _ => True
    | position pmId key => ∃ seq, key.positionId = PositionManager.positionIdOf pmId seq
    | portfolio _ key => ∀ subject ∈ key.subject?, subject ∈ ids

def sourceTag : Mutation → String
  | order _ _ => OrderManager.eventSourceTag
  | position _ _ => PositionManager.eventSourceTag
  | portfolio _ _ => PortfolioManager.eventSourceTag

def ownText : Mutation → String
  | order omId key => key.text omId
  | position _ key => key.text
  | portfolio _ key => key.text

private theorem storeKey_eq (mutation : Mutation) :
    mutation.storeKey =
      mutation.sourceTag ++ ":" ++ (mutation.managerId ++ ":" ++ mutation.ownText) := by
  cases mutation <;>
    simp only [storeKey, OrderManager.namespacedKey, OrderManager.keyNamespace,
      PositionManager.namespacedKey, PortfolioManager.namespacedKey, sourceTag, managerId, ownText,
      String.append_assoc]

private theorem colonFree_sourceTag (mutation : Mutation) : ColonFree mutation.sourceTag := by
  cases mutation <;> (simp only [sourceTag]; decide)

private theorem ownText_injective {ids : Set String} (separated : Separated ids)
    {mutation other : Mutation} (uses : mutation.Uses ids) (otherUses : other.Uses ids)
    (tags : mutation.sourceTag = other.sourceTag) (managers : mutation.managerId = other.managerId)
    (same : mutation.ownText = other.ownText) : mutation = other := by
  cases mutation with
  | order omId key =>
      cases other with
      | order otherId otherKey =>
          change omId = otherId at managers
          subst managers
          rw [OrderManager.MutationKey.text_injective same]
      | position | portfolio => exact absurd tags (by simp only [sourceTag]; decide)
  | position pmId key =>
      cases other with
      | position otherId otherKey =>
          change pmId = otherId at managers
          subst managers
          obtain ⟨seq, own⟩ := uses.2
          obtain ⟨otherSeq, otherOwn⟩ := otherUses.2
          rw [PositionManager.MutationKey.text_injective own otherOwn same]
      | order | portfolio => exact absurd tags (by simp only [sourceTag]; decide)
  | portfolio pmId key =>
      cases other with
      | portfolio otherId otherKey =>
          change pmId = otherId at managers
          subst managers
          refine congrArg _ (PortfolioManager.MutationKey.text_injective ?_ same)
          intro subject isSubject otherSubject isOtherSubject
          have inside := uses.2 subject isSubject
          have otherInside := otherUses.2 otherSubject isOtherSubject
          exact ⟨separated _ inside _ otherInside, separated _ otherInside _ inside⟩
      | order | position => exact absurd tags (by simp only [sourceTag]; decide)

private theorem storeKey_injective {ids : Set String} (separated : Separated ids)
    {mutation other : Mutation} (uses : mutation.Uses ids) (otherUses : other.Uses ids)
    (same : mutation.storeKey = other.storeKey) : mutation = other := by
  rw [storeKey_eq, storeKey_eq] at same
  obtain ⟨tags, rests⟩ := append_colon_injective mutation.colonFree_sourceTag
    other.colonFree_sourceTag same
  obtain ⟨managers, texts⟩ := append_colon_separated
    (separated _ uses.1.1 _ otherUses.1.1) (separated _ otherUses.1.1 _ uses.1.1) rests
  exact ownText_injective separated uses otherUses tags managers texts

end Mutation

structure Issue where
  eventType : EventType
  mutation : Mutation
  now : String

def Issue.append (issue : Issue) (log : Log Mutation) : Event Mutation × Log Mutation :=
  log.append issue.eventType issue.mutation (some issue.mutation.storeKey) issue.now

def recordAll (issues : List Issue) : Log Mutation :=
  issues.foldl (fun log issue => (issue.append log).2) Ledger.empty

def Keyed (ids : Set String) (log : Log Mutation) : Prop :=
  ∀ event ∈ log.entries,
    event.payload.Uses ids ∧ event.idempotencyKey = some event.payload.storeKey

theorem Keyed.append {ids : Set String} {log : Log Mutation} (keyed : Keyed ids log)
    {issue : Issue} (uses : issue.mutation.Uses ids) : Keyed ids (issue.append log).2 := by
  unfold Issue.append
  rcases Log.append_cases log issue.eventType issue.mutation (some issue.mutation.storeKey)
    issue.now with same | ⟨_, entries⟩
  · rw [same]
    exact keyed
  · intro event member
    rw [entries] at member
    rcases List.mem_append.mp member with old | new
    · exact keyed event old
    · rw [List.mem_singleton.mp new]
      exact ⟨uses, rfl⟩

private theorem keyed_recordAll {ids : Set String} {issues : List Issue}
    (uses : ∀ issue ∈ issues, issue.mutation.Uses ids) : Keyed ids (recordAll issues) := by
  have run (log : Log Mutation) (keyed : Keyed ids log) :
      Keyed ids (issues.foldl (fun log issue => (issue.append log).2) log) := by
    induction issues generalizing log with
    | nil => exact keyed
    | cons issue issues ih =>
        exact ih (fun later member => uses later (List.mem_cons_of_mem _ member)) _
          (keyed.append (uses issue List.mem_cons_self))
  exact run _ fun event member => (List.not_mem_nil member).elim

def KeysDiffer (ids : Set String) : Prop :=
  ∀ mutation other : Mutation, mutation.Uses ids → other.Uses ids → mutation ≠ other →
    mutation.storeKey ≠ other.storeKey

def NothingSwallowed (ids : Set String) : Prop :=
  ∀ (issues : List Issue) (issue : Issue), (∀ earlier ∈ issues, earlier.mutation.Uses ids) →
    issue.mutation.Uses ids → (issue.append (recordAll issues)).1.payload = issue.mutation

private theorem nothingSwallowed_of_keysDiffer {ids : Set String} (differ : KeysDiffer ids) :
    NothingSwallowed ids := by
  intro issues issue allUse uses
  have keyed := keyed_recordAll allUse
  unfold Issue.append
  cases stored : (recordAll issues).getByIdempotencyKey issue.mutation.storeKey with
  | none => rw [(Log.append_of_fresh stored _ _ _).1]; rfl
  | some event =>
      rw [Log.append_of_stored stored]
      obtain ⟨member, key⟩ := Log.getByIdempotencyKey_eq_some_iff.mp stored
      obtain ⟨eventUses, eventKey⟩ := keyed event member
      by_contra other
      exact differ _ _ eventUses uses other (Option.some.inj (eventKey.symm.trans key))

/-- The mutations of a manager with an accepted id have different keys, and none is
ever answered with the event of another, exactly when no id in use goes on behind
another and a colon. -/
theorem keysDiffer_iff_separated {ids : Set String}
    (someManager : ∃ managerId ∈ ids, AcceptedId managerId) :
    (KeysDiffer ids ∧ NothingSwallowed ids) ↔ Separated ids := by
  constructor
  · rintro ⟨differ, _⟩ text inText other inOther continues
    obtain ⟨managerId, inManager, accepted⟩ := someManager
    have different := continues.ne
    obtain ⟨rest, rfl⟩ := continues
    refine differ (.portfolio managerId (.reserveMargin text (rest ++ ":")))
      (.portfolio managerId (.reserveMargin (text ++ ":" ++ rest) ""))
      ⟨⟨inManager, accepted⟩, ?_⟩ ⟨⟨inManager, accepted⟩, ?_⟩ ?_ ?_
    · rintro subject ⟨⟩
      exact inText
    · rintro subject ⟨⟩
      exact inOther
    · intro same
      rw [Mutation.portfolio.injEq, PortfolioManager.MutationKey.reserveMargin.injEq] at same
      exact different same.2.1
    · simp only [Mutation.storeKey, PortfolioManager.MutationKey.text,
        PortfolioManager.MutationKey.ids, PortfolioManager.MutationKey.subject?,
        PortfolioManager.MutationKey.callerId, PortfolioManager.MutationKey.operation,
        String.append_assoc, String.append_empty]
  · intro separated
    have differ : KeysDiffer ids := fun mutation other uses otherUses different same =>
      different (Mutation.storeKey_injective separated uses otherUses same)
    exact ⟨differ, nothingSwallowed_of_keysDiffer differ⟩

theorem keysDiffer_iff_separated_main :
    (KeysDiffer {"main"} ∧ NothingSwallowed {"main"}) ↔ Separated {"main"} :=
  keysDiffer_iff_separated ⟨"main", rfl, by decide⟩

/-- A reservation for the position `p:q` is answered with one for the position `p`. -/
theorem reservation_swallowed : ¬ KeysDiffer Set.univ ∧ ¬ NothingSwallowed Set.univ := by
  have uses (positionId requestId : String) :
      (Mutation.portfolio "main" (.reserveMargin positionId requestId)).Uses Set.univ :=
    ⟨⟨trivial, (by decide : AcceptedId "main")⟩, fun _ _ => trivial⟩
  constructor
  · intro differ
    exact differ _ _ (uses "p" "q:r") (uses "p:q" "r") (by decide) (by decide)
  · intro intact
    have answered := intact
      [{ eventType := .positionUpdated
         mutation := .portfolio "main" (.reserveMargin "p" "q:r")
         now := "2026-01-01T00:00:00+00:00" }]
      { eventType := .positionUpdated
        mutation := .portfolio "main" (.reserveMargin "p:q" "r")
        now := "2026-01-01T00:00:01+00:00" }
      (fun issue member => by rw [List.mem_singleton.mp member]; exact uses "p" "q:r")
      (uses "p:q" "r")
    revert answered
    decide

end TurtleExecution.SharedStore
