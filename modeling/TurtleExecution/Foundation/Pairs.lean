/-
Two lists whose items are related one by one.
-/

import Mathlib.Data.List.Forall2
import TurtleExecution.Foundation.Arithmetic

set_option autoImplicit false

namespace TurtleExecution

variable {First Second : Type} {related other : First → Second → Prop}
  {firsts : List First} {seconds : List Second}

theorem forall₂_of_mapM {Error Value Result : Type} {compute : Value → Except Error Result}
    {values : List Value} {results : List Result} (computed : values.mapM compute = .ok results) :
    List.Forall₂ (fun value result => compute value = .ok result) values results := by
  induction values generalizing results with
  | nil =>
      cases computed
      exact .nil
  | cons value values ih =>
      rw [List.mapM_cons] at computed
      obtain ⟨result, first, rest⟩ := ok_of_bind computed
      obtain ⟨later, others, same⟩ := ok_of_bind rest
      cases same
      exact .cons first (ih others)

theorem mapM_ok {Error Value Result : Type} {compute : Value → Except Error Result}
    {values : List Value} {results : List Result} :
    values.mapM compute = .ok results ↔
      List.Forall₂ (fun value result => compute value = .ok result) values results := by
  refine ⟨forall₂_of_mapM, fun pairs => ?_⟩
  induction pairs with
  | nil => rfl
  | cons first _ ih =>
      rw [List.mapM_cons, bind_of_ok first, bind_of_ok ih]
      rfl

theorem exists_of_forall₂_left (pairs : List.Forall₂ related firsts seconds)
    {first : First} (member : first ∈ firsts) : ∃ second ∈ seconds, related first second := by
  induction pairs with
  | nil => cases member
  | @cons head other firsts seconds pair _ ih =>
      rcases List.mem_cons.mp member with rfl | later
      · exact ⟨other, List.mem_cons_self, pair⟩
      · obtain ⟨second, isSecond, isRelated⟩ := ih later
        exact ⟨second, List.mem_cons_of_mem _ isSecond, isRelated⟩

theorem exists_of_forall₂_right (pairs : List.Forall₂ related firsts seconds)
    {second : Second} (member : second ∈ seconds) : ∃ first ∈ firsts, related first second :=
  exists_of_forall₂_left pairs.flip member

theorem forall₂_imp_mem (pairs : List.Forall₂ related firsts seconds)
    (implies : ∀ first ∈ firsts, ∀ second, related first second → other first second) :
    List.Forall₂ other firsts seconds := by
  induction pairs with
  | nil => exact .nil
  | cons pair _ ih =>
      exact .cons (implies _ List.mem_cons_self _ pair)
        (ih fun first member => implies first (List.mem_cons_of_mem _ member))

theorem exists_iff_of_forall₂ {left : First → Prop} {right : Second → Prop}
    (pairs : List.Forall₂ related firsts seconds)
    (same : ∀ first ∈ firsts, ∀ second, related first second → (left first ↔ right second)) :
    (∃ first ∈ firsts, left first) ↔ ∃ second ∈ seconds, right second := by
  induction pairs with
  | nil => simp
  | cons pair _ ih =>
      rw [List.exists_mem_cons_iff, List.exists_mem_cons_iff, same _ List.mem_cons_self _ pair,
        ih fun first member => same first (List.mem_cons_of_mem _ member)]

end TurtleExecution
