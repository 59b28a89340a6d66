/-
Forests: nodes with at most one parent each, which ranks below its children.

The ancestors of a node are a chain that ends at a root.
-/

import Mathlib.Data.List.Nodup
import Mathlib.Logic.Function.Basic
import Mathlib.Logic.Relation

set_option autoImplicit false

namespace TurtleExecution.Forest

variable {Node : Type} {parent : Node → Option Node}

/-- There are no cycles: each node has a greater rank than its parent. -/
def Ranked (parent : Node → Option Node) : Prop :=
  ∃ rank : Node → Nat, ∀ node above, parent node = some above → rank above < rank node

def Above (parent : Node → Option Node) : Node → Node → Prop :=
  Relation.TransGen fun above node => parent node = some above

variable {ancestors : List Node} {node above : Node}

theorem above_of_parent (isParent : parent node = some above) : Above parent above node :=
  .single isParent

theorem Above.below {above node child : Node} (isAbove : Above parent above node)
    (isParent : parent child = some node) : Above parent above child :=
  .tail isAbove isParent

theorem Above.trans {first second third : Node} (isAbove : Above parent first second)
    (alsoAbove : Above parent second third) : Above parent first third :=
  Relation.TransGen.trans isAbove alsoAbove

theorem above_iff {above node : Node} :
    Above parent above node ↔
      ∃ direct, parent node = some direct ∧ (above = direct ∨ Above parent above direct) := by
  constructor
  · intro isAbove
    cases isAbove with
    | single isParent => exact ⟨above, isParent, Or.inl rfl⟩
    | tail earlier isParent => exact ⟨_, isParent, Or.inr earlier⟩
  · rintro ⟨direct, isParent, rfl | isAbove⟩
    · exact above_of_parent isParent
    · exact isAbove.below isParent

theorem Ranked.not_above_self (ranked : Ranked parent) (node : Node) : ¬ Above parent node node := by
  obtain ⟨rank, grows⟩ := ranked
  have above_lt {above below : Node} (isAbove : Above parent above below) :
      rank above < rank below := by
    induction isAbove with
    | single isParent => exact grows _ _ isParent
    | tail _ isParent ih => exact Nat.lt_trans ih (grows _ _ isParent)
  intro cycle
  exact Nat.lt_irrefl _ (above_lt cycle)

theorem Ranked.leaf [DecidableEq Node] (ranked : Ranked parent)
    (childless : ∀ other, parent other ≠ some node) (different : above ≠ node) :
    Ranked (Function.update parent node (some above)) := by
  obtain ⟨rank, grows⟩ := ranked
  refine ⟨Function.update rank node (rank above + 1), fun other direct isParent => ?_⟩
  by_cases same : other = node
  · subst same
    rw [Function.update_self, Option.some.injEq] at isParent
    rw [← isParent, Function.update_self, Function.update_of_ne different]
    exact Nat.lt_succ_self _
  · rw [Function.update_of_ne same] at isParent
    have notNode : direct ≠ node := by
      rintro rfl
      exact childless other isParent
    rw [Function.update_of_ne same, Function.update_of_ne notNode]
    exact grows other direct isParent

theorem Ranked.root [DecidableEq Node] (ranked : Ranked parent) (node : Node) :
    Ranked (Function.update parent node none) := by
  obtain ⟨rank, grows⟩ := ranked
  refine ⟨rank, fun other direct isParent => ?_⟩
  by_cases same : other = node
  · rw [same, Function.update_self] at isParent
    cases isParent
  · rw [Function.update_of_ne same] at isParent
    exact grows other direct isParent

inductive Chain (parent : Node → Option Node) : Node → List Node → Prop
  | root {node : Node} (noParent : parent node = none) : Chain parent node []
  | step {node above : Node} {rest : List Node} (isParent : parent node = some above)
      (chain : Chain parent above rest) : Chain parent node (above :: rest)

theorem exists_chain (ranked : Ranked parent) (node : Node) : ∃ chain, Chain parent node chain := by
  obtain ⟨rank, grows⟩ := ranked
  induction isRank : rank node using Nat.strongRecOn generalizing node with
  | _ level ih =>
      cases isParent : parent node with
      | none => exact ⟨[], .root isParent⟩
      | some above =>
          have lower : rank above < level := isRank ▸ grows node above isParent
          obtain ⟨rest, chain⟩ := ih (rank above) lower above rfl
          exact ⟨above :: rest, .step isParent chain⟩

theorem Chain.mem_iff (chain : Chain parent node ancestors) :
    above ∈ ancestors ↔ Above parent above node := by
  induction chain with
  | root noParent =>
      constructor
      · intro impossible
        cases impossible
      · intro isAbove
        obtain ⟨direct, isParent, _⟩ := above_iff.mp isAbove
        rw [noParent] at isParent
        cases isParent
  | @step node direct rest isParent _ ih =>
      rw [List.mem_cons, ih]
      constructor
      · intro isAbove
        exact above_iff.mpr ⟨direct, isParent, isAbove⟩
      · intro isAbove
        obtain ⟨known, isKnown, isAbove⟩ := above_iff.mp isAbove
        rw [isParent] at isKnown
        cases isKnown
        exact isAbove

theorem Chain.not_mem (ranked : Ranked parent) {node : Node} (chain : Chain parent node ancestors) :
    node ∉ ancestors := by
  rw [chain.mem_iff]
  exact ranked.not_above_self node

theorem Chain.nodup (ranked : Ranked parent) {node : Node} (chain : Chain parent node ancestors) :
    ancestors.Nodup := by
  induction chain with
  | root _ => exact List.nodup_nil
  | step _ chain ih => exact List.nodup_cons.mpr ⟨chain.not_mem ranked, ih⟩

end TurtleExecution.Forest
