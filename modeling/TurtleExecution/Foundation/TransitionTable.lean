/-
Transition tables given as lists of edges.

A pair of a state and a trigger that has no edge is illegal.  A region that every
edge keeps is never left, whatever triggers are applied.
-/

import Mathlib.Data.List.Basic

set_option autoImplicit false

namespace TurtleExecution

abbrev TransitionTable (State Trigger : Type) := List (State × Trigger × State)

namespace TransitionTable

variable {State Trigger : Type} [DecidableEq State] [DecidableEq Trigger]

def nextState? (table : TransitionTable State Trigger) (state : State) (trigger : Trigger) :
    Option State :=
  (table.find? fun edge => edge.1 = state ∧ edge.2.1 = trigger).map fun edge => edge.2.2

def isLegal (table : TransitionTable State Trigger) (state : State) (trigger : Trigger) : Bool :=
  (nextState? table state trigger).isSome

def legalTriggers (table : TransitionTable State Trigger) (state : State) : List Trigger :=
  (table.filter fun edge => edge.1 = state).map fun edge => edge.2.1

def isTerminal (table : TransitionTable State Trigger) (state : State) : Bool :=
  (legalTriggers table state).isEmpty

variable {table : TransitionTable State Trigger} {state target : State}

variable {trigger : Trigger}

theorem mem_of_nextState? (next : nextState? table state trigger = some target) :
    (state, trigger, target) ∈ table := by
  obtain ⟨edge, found, rfl⟩ := Option.map_eq_some_iff.mp next
  have matched := List.find?_some found
  simp only [decide_eq_true_eq] at matched
  obtain ⟨rfl, rfl⟩ := matched
  exact List.mem_of_find?_eq_some found

theorem not_isTerminal_of_nextState? (next : nextState? table state trigger = some target) :
    isTerminal table state = false := by
  have listed : trigger ∈ legalTriggers table state :=
    List.mem_map.mpr ⟨_, List.mem_filter.mpr ⟨mem_of_nextState? next, by simp⟩, rfl⟩
  cases triggers : legalTriggers table state with
  | nil =>
      rw [triggers] at listed
      cases listed
  | cons first rest => simp [isTerminal, triggers]

def ClosedUnder (table : TransitionTable State Trigger) (region : State → Prop) : Prop :=
  ∀ edge ∈ table, region edge.1 → region edge.2.2

instance (table : TransitionTable State Trigger) (region : State → Prop) [DecidablePred region] :
    Decidable (ClosedUnder table region) :=
  inferInstanceAs (Decidable (∀ edge ∈ table, region edge.1 → region edge.2.2))

theorem ClosedUnder.nextState? {region : State → Prop} (closed : ClosedUnder table region)
    (next : nextState? table state trigger = some target) (inside : region state) : region target :=
  closed _ (mem_of_nextState? next) inside

def LeadsTo (table : TransitionTable State Trigger) (trigger : Trigger) (region : State → Prop) :
    Prop :=
  ∀ edge ∈ table, edge.2.1 = trigger → region edge.2.2

instance (table : TransitionTable State Trigger) (trigger : Trigger) (region : State → Prop)
    [DecidablePred region] : Decidable (LeadsTo table trigger region) :=
  inferInstanceAs (Decidable (∀ edge ∈ table, edge.2.1 = trigger → region edge.2.2))

theorem LeadsTo.nextState? {region : State → Prop} (leads : LeadsTo table trigger region)
    (next : nextState? table state trigger = some target) : region target :=
  leads _ (mem_of_nextState? next) rfl

end TransitionTable

end TurtleExecution

namespace TurtleExecution.Runs

variable {State Label : Type}

def Along (step : State → Label → State) (holds : State → Label → Prop) :
    State → List Label → Prop
  | _, [] => True
  | state, label :: labels => holds state label ∧ Along step holds (step state label) labels

variable {step : State → Label → State} {holds : State → Label → Prop}

theorem Along.keeps (kept : State → Prop)
    (keeps : ∀ state label, kept state → holds state label → kept (step state label))
    {state : State} {labels : List Label} (along : Along step holds state labels)
    (start : kept state) : kept (labels.foldl step state) := by
  induction labels generalizing state with
  | nil => exact start
  | cons label labels ih => exact ih along.2 (keeps state label start along.1)

theorem along_of_all (all : ∀ state label, holds state label) (state : State) (labels : List Label) :
    Along step holds state labels := by
  induction labels generalizing state with
  | nil => trivial
  | cons label labels ih => exact ⟨all state label, ih (step state label)⟩

theorem Along.and {holds others : State → Label → Prop} {state : State} {labels : List Label}
    (along : Along step holds state labels) (alongOthers : Along step others state labels) :
    Along step (fun state label => holds state label ∧ others state label) state labels := by
  induction labels generalizing state with
  | nil => trivial
  | cons label labels ih =>
      exact ⟨⟨along.1, alongOthers.1⟩, ih along.2 alongOthers.2⟩

end TurtleExecution.Runs
