/-
What stays true of an order and of its fills, whatever is done to the manager.

An order is never lost and never turns from an entry into an exit; a fill that the
manager has seen stays known, or its order is closed for good.
-/

import TurtleExecution.OrderManager.Quantities

set_option autoImplicit false

namespace TurtleExecution.OrderManager

open ExchangeAdapter SharedStore Process

section

variable {Number Stored : Type}

/-- The fill changes nothing any more: it was seen, or its order is closed. -/
def Memory.Seen (memory : Memory Number) (clientOrderId fillId : String) : Prop :=
  fillId ∈ memory.fillIds clientOrderId ∨
    ∃ existing, memory.snapshots.get? clientOrderId = some existing ∧
      isTerminal existing.lifecycleState = true

structure Follows (before after : Memory Number) : Prop where
  tracked : ∀ clientOrderId existing, before.snapshots.get? clientOrderId = some existing →
    ∃ next, after.snapshots.get? clientOrderId = some next ∧
      next.reduceOnly = existing.reduceOnly ∧
      (isTerminal existing.lifecycleState = true → isTerminal next.lifecycleState = true)
  seen : ∀ clientOrderId existing fillId,
    before.snapshots.get? clientOrderId = some existing →
    before.Seen clientOrderId fillId → after.Seen clientOrderId fillId

theorem Follows.refl (memory : Memory Number) : Follows memory memory :=
  { tracked := fun _ existing found => ⟨existing, found, rfl, id⟩
    seen := fun _ _ _ _ seen => seen }

theorem Follows.trans {before between after : Memory Number} (first : Follows before between)
    (second : Follows between after) : Follows before after := by
  refine { tracked := ?_, seen := ?_ }
  · intro clientOrderId existing found
    obtain ⟨next, foundNext, sameNext, stays⟩ := first.tracked clientOrderId existing found
    obtain ⟨last, foundLast, sameLast, still⟩ := second.tracked clientOrderId next foundNext
    exact ⟨last, foundLast, sameLast.trans sameNext, fun terminal => still (stays terminal)⟩
  · intro clientOrderId existing fillId found seen
    obtain ⟨next, foundNext, _⟩ := first.tracked clientOrderId existing found
    exact second.seen clientOrderId next fillId foundNext
      (first.seen clientOrderId existing fillId found seen)

theorem Follows.of_snapshots {before after : Memory Number} (same : after.snapshots = before.snapshots)
    (fillIds : ∀ clientOrderId existing fillId,
      before.snapshots.get? clientOrderId = some existing →
      fillId ∈ before.fillIds clientOrderId → after.Seen clientOrderId fillId) :
    Follows before after := by
  refine { tracked := ?_, seen := ?_ }
  · intro clientOrderId existing found
    exact ⟨existing, by rw [same]; exact found, rfl, id⟩
  · rintro clientOrderId existing fillId found (known | ⟨known, tracked, terminal⟩)
    · exact fillIds clientOrderId existing fillId found known
    · exact Or.inr ⟨known, by rw [same]; exact tracked, terminal⟩

private theorem follows_patch {memory : Memory Number} {patch : Patch Number}
    (kept : ∀ snapshot existing, patch.snapshot = some snapshot →
      memory.snapshots.get? patch.clientOrderId = some existing →
      snapshot.reduceOnly = existing.reduceOnly ∧
        Advances existing.lifecycleState snapshot.lifecycleState) :
    Follows memory (memory.patch patch) := by
  have tracked : ∀ clientOrderId existing, memory.snapshots.get? clientOrderId = some existing →
      ∃ next, (memory.patch patch).snapshots.get? clientOrderId = some next ∧
        next.reduceOnly = existing.reduceOnly ∧
        (isTerminal existing.lifecycleState = true → isTerminal next.lifecycleState = true) := by
    intro clientOrderId existing found
    by_cases patched : clientOrderId = patch.clientOrderId ∧ patch.snapshot.isSome
    · obtain ⟨rfl, isSome⟩ := patched
      obtain ⟨snapshot, built⟩ := Option.isSome_iff_exists.mp isSome
      obtain ⟨sameKind, advances⟩ := kept snapshot existing built found
      refine ⟨snapshot, Memory.patch_snapshot_self memory built, sameKind, fun terminal => ?_⟩
      rw [advances.terminal terminal]
      exact terminal
    · refine ⟨existing, ?_, rfl, id⟩
      rw [Memory.patch_snapshots, if_neg patched]
      exact found
  refine { tracked, seen := ?_ }
  rintro clientOrderId existing fillId found (known | ⟨known, foundKnown, terminal⟩)
  · exact Or.inl (fillIds_subset_patch memory patch clientOrderId known)
  · obtain ⟨next, foundNext, _, stays⟩ := tracked clientOrderId known foundKnown
    exact Or.inr ⟨next, foundNext, stays terminal⟩

variable [Arithmetic Number] [Sources Stored Number]

omit [Sources Stored Number] in
theorem Patches.follows {memory : Memory Number} {event : Event Stored} {payload : Payload Number}
    {patch : Patch Number} (patches : Patches memory.snapshots event payload patch)
    (fresh : event.eventId ∉ memory.appliedEventIds)
    (kept : ∀ snapshot existing, patch.snapshot = some snapshot →
      memory.snapshots.get? patch.clientOrderId = some existing →
      snapshot.reduceOnly = existing.reduceOnly ∧
        Advances existing.lifecycleState snapshot.lifecycleState) :
    Follows memory (memory.applyEvent event payload).2 := by
  rw [patches memory rfl fresh]
  exact follows_patch kept

variable {omId : String}

theorem Recorded.follows {exact : Prop} {core : Core Stored Number} {key : MutationKey}
    {payload : Payload Number} (reached : Reachable exact omId core)
    (recorded : Recorded omId (Durable Number omId core.log) core.memory key payload) (now : String) :
    Follows core.memory
      (core.memory.applyEvent (recordedEvent omId core.log key payload now) payload).2 := by
  obtain ⟨replayed, replays, agrees⟩ := reached.consistent.replays
  have fresh := reached.eventId_fresh key payload now
  generalize recordedEvent omId core.log key payload now = event at fresh ⊢
  cases recorded with
  | submit arguments =>
      refine (patches_submit core.memory.snapshots event omId core.memory.nextSeq
        arguments).follows fresh ?_
      rintro snapshot existing ⟨⟩ found
      obtain ⟨order, small, named⟩ := agrees.tracked replays _ existing found
      rw [placeId_injective named] at small
      exact (Nat.lt_irrefl order small).elim
  | amendRequested order existing tracked details =>
      refine (patches_intent core.memory.snapshots event (Or.inl rfl)).follows fresh ?_
      intro snapshot existing absent
      cases absent
  | cancelAllRequested details =>
      refine (patches_intent core.memory.snapshots event (Or.inr rfl)).follows fresh ?_
      intro snapshot existing absent
      cases absent
  | amendApplied order request existing known tracked amendable details =>
      refine (patches_amend event rfl tracked).follows fresh ?_
      rintro snapshot other ⟨⟩ found
      have same : existing = other := Option.some.inj (tracked.symm.trans found)
      subst same
      exact ⟨rfl, Or.inl rfl⟩
  | statusUpdate order existing trigger toState seq key details tracked legal keyed =>
      refine (patches_statusUpdate event omId (placeId omId order) seq details tracked
        legal).follows fresh ?_
      rintro snapshot other ⟨⟩ found
      have same : existing = other := Option.some.inj (tracked.symm.trans found)
      subst same
      exact ⟨rfl, Or.inr ⟨trigger, legal⟩⟩
  | fill order existing fill newFilled trigger toState tracked unseen sum triggered legal =>
      refine (patches_fill event omId (placeId omId order) fill tracked legal sum).follows fresh ?_
      rintro snapshot other ⟨⟩ found
      have same : existing = other := Option.some.inj (tracked.symm.trans found)
      subst same
      exact ⟨rfl, Or.inr ⟨trigger, legal⟩⟩

theorem Move.follows {exact : Prop} {permitted : MutationKey → Payload Number → Prop}
    {core after : Core Stored Number} (reached : Reachable exact omId core)
    (move : Move exact omId permitted core after) : Follows core.memory after.memory := by
  cases move with
  | record log key payload now recorded => exact recorded.follows reached now
  | burn allowed => exact Follows.of_snapshots rfl fun _ _ _ _ member => Or.inl member
  | hand | foreign => exact Follows.refl _
  | lateFill clientOrderId fillId existing tracked terminal =>
      refine Follows.of_snapshots rfl fun other snapshot known _ member => Or.inl ?_
      change known ∈ (core.memory.addFillId clientOrderId fillId).fillIds other
      rw [Memory.addFillId_fillIds]
      split
      · exact mem_addToSet.mpr (Or.inl member)
      · exact member
  | restart memory constructed =>
      have agrees := reached.restarted constructed
      refine Follows.of_snapshots agrees.snapshots fun clientOrderId existing fillId found member => ?_
      rcases agrees.fillIds clientOrderId with same | ⟨known, tracked, terminal⟩
      · exact Or.inl (by rw [same]; exact member)
      · exact Or.inr ⟨known, by rw [agrees.snapshots]; exact tracked, terminal⟩

def Watch.following (omId : String) (start : Memory Number) : Watch omId Stored Number :=
  { exact := False
    permitted := anyPayload
    kept := fun core => Follows start core.memory
    keeps := fun _ _ reached kept move => kept.trans (move.follows reached) }

theorem Ready.watching {world : World Stored Number} (ready : Ready (Watch.plain False omId) world) :
    Ready (Watch.following omId world.memory) world :=
  { reachable := ready.reachable
    kept := Follows.refl _
    appends := fun impossible => impossible.elim }

theorem reportFill_of_seen (omId : String) {clientOrderId : String}
    {world : World Stored Number} {existing : OrderSnapshot Number} {fill : Fill Number}
    (found : world.memory.snapshots.get? clientOrderId = some existing)
    (seen : world.memory.Seen clientOrderId fill.fillId) :
    ∃ memory : Memory Number, reportFill omId clientOrderId fill world =
        (.returned (some existing), { world with memory }) ∧
      memory.snapshots = world.memory.snapshots := by
  have tracked : trackedOrder clientOrderId world = (.returned existing, world) := by
    rw [trackedOrder_eq, found]
  change ∃ memory, Process.bind (trackedOrder clientOrderId) _ world = _ ∧ _
  unfold Process.bind
  rw [tracked]
  change ∃ memory, (if fill.fillId ∈ world.memory.fillIds clientOrderId then
    (pure (some existing) : Operation Stored Number _) else _) world = _ ∧ _
  by_cases known : fill.fillId ∈ world.memory.fillIds clientOrderId
  · rw [if_pos known]
    exact ⟨world.memory, rfl, rfl⟩
  · rw [if_neg known]
    have terminal : isTerminal existing.lifecycleState = true := by
      rcases seen with member | ⟨other, foundOther, terminal⟩
      · exact absurd member known
      · rw [found] at foundOther
        cases foundOther
        exact terminal
    rw [if_pos terminal]
    exact ⟨world.memory.addFillId clientOrderId fill.fillId, rfl, rfl⟩

theorem System.Sound.following {system : System Stored Number} {start : Memory Number}
    (sound : system.Sound (Watch.following omId start)) (steps : List (Step omId Stored Number)) :
    (system.run steps).Sound (Watch.following omId start) := by
  induction steps generalizing system with
  | nil => exact sound
  | cons step steps ih => exact ih (sound.step step fun _ _ _ _ _ _ => trivial)

/-- Whatever is done to a manager, an order is never lost and never turns from an entry into
an exit, a closed order stays closed, and a fill that was seen changes nothing any more. -/
theorem run_keepsOrders {omId : String} {memory : Memory Number}
    (constructed : construct omId (Ledger.empty : Log Stored) = .ok memory)
    (machine : ExecutionStateMachine.Machine) (environment : Nat → Answer Number)
    (steps later : List (Step omId Stored Number)) :
    let between := (System.start memory machine environment : System Stored Number).run steps
    let final := between.run later
    between.alive = true → final.alive = true → ∀ clientOrderId existing,
      between.world.memory.snapshots.get? clientOrderId = some existing →
      ∃ next, final.world.memory.snapshots.get? clientOrderId = some next ∧
        next.reduceOnly = existing.reduceOnly ∧
        (isTerminal existing.lifecycleState = true → isTerminal next.lifecycleState = true) ∧
        ∀ fill : Fill Number, between.world.memory.Seen clientOrderId fill.fillId →
          ∃ known : Memory Number, reportFill omId clientOrderId fill final.world =
              (.returned (some next), { final.world with memory := known }) ∧
            known.snapshots = final.world.memory.snapshots := by
  intro between final aliveBetween aliveFinal clientOrderId existing tracked
  have ready : Ready (Watch.plain False omId) between.world :=
    ((System.start_sound constructed machine fun impossible => impossible.elim).run steps).ready
      aliveBetween
  have sound : final.Sound (Watch.following omId between.world.memory) :=
    (System.Sound.ofReady ready.watching).following later
  have follows : Follows between.world.memory final.world.memory := (sound.ready aliveFinal).kept
  obtain ⟨next, found, sameKind, stays⟩ := follows.tracked clientOrderId existing tracked
  refine ⟨next, found, sameKind, stays, ?_⟩
  intro fill seen
  exact reportFill_of_seen omId found (follows.seen clientOrderId existing fill.fillId tracked seen)

end

private theorem fillOne_opened :
    (((System.start Memory.initial freshMachine acceptingEnvironment).run
      [placeTwo, fillOne]).world.memory.snapshots.get? (placeId "main" 1)).map
        OrderSnapshot.reduceOnly = some false := by
  decide +kernel

private theorem fillOne_fillIds :
    ((System.start Memory.initial freshMachine acceptingEnvironment).run
      [placeTwo, fillOne]).world.memory.fillIds (placeId "main" 1) = [(fillOf "f1" 1).fillId] := by
  decide +kernel

/-- A fill that arrives once more after a restart changes no order. -/
theorem run_keepsOrders_repeatedFill :
    let final := ((System.start Memory.initial freshMachine acceptingEnvironment).run
      [placeTwo, fillOne]).run [.kill, .restart freshMachine, fillOne]
    ∃ next, final.world.memory.snapshots.get? (placeId "main" 1) = some next ∧
      next.reduceOnly = false ∧
      ∃ known : Memory ℚ, reportFill "main" (placeId "main" 1) (fillOf "f1" 1) final.world =
          (.returned (some next), { final.world with memory := known }) ∧
        known.snapshots = final.world.memory.snapshots := by
  obtain ⟨existing, tracked, isEntry⟩ := Option.map_eq_some_iff.mp fillOne_opened
  obtain ⟨next, found, sameKind, _, repeats⟩ := run_keepsOrders rfl
    freshMachine acceptingEnvironment [placeTwo, fillOne] [.kill, .restart freshMachine, fillOne]
    (by decide +kernel) (by decide +kernel) (placeId "main" 1) existing tracked
  refine ⟨next, found, sameKind.trans isEntry, repeats (fillOf "f1" 1) (Or.inl ?_)⟩
  rw [fillOne_fillIds]
  exact List.mem_singleton_self _

end TurtleExecution.OrderManager
