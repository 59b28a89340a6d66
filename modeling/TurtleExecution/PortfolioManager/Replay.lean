/-
What holds of a portfolio manager's memory and the log, and what a mutation does.

The memory is what a replay of the log gives.  A mutation is recorded once: a
repeated request finds its key in the log and changes nothing.
-/

import TurtleExecution.PortfolioManager.Manager

set_option autoImplicit false

namespace TurtleExecution.PortfolioManager

open ExchangeAdapter SharedStore Process

section

variable {Number Stored : Type} [LedgerArithmetic Number]

structure Marks (Number : Type) where
  unrealizedPnl : Number
  exposure : Number
  heat : Number

def Memory.marks (memory : Memory Number) : Marks Number :=
  { unrealizedPnl := memory.unrealizedPnl, exposure := memory.exposure, heat := memory.heat }

def Entry.marks? : Entry Number → Option (Marks Number)
  | .updateMarks unrealizedPnl exposure heat => some { unrealizedPnl, exposure, heat }
  | _ => none

private def idsAndMarks (memory : Memory Number) : List Nat × Marks Number :=
  (memory.appliedEventIds, memory.marks)

omit [LedgerArithmetic Number] in
private theorem setBalance_idsAndMarks (memory : Memory Number) (number : Number)
    (account : Account) :
    idsAndMarks (memory.setBalance number account) = idsAndMarks memory := by
  cases account <;> rfl

private theorem preserves_credit (account : Account) (amount : Number) :
    Preserves idsAndMarks (credit account amount) :=
  preserves_bind (preserves_get _) fun _ =>
    preserves_bind (preserves_ofExcept _ _) fun balance =>
      preserves_modify fun memory => setBalance_idsAndMarks memory balance account

private theorem preserves_debit (account : Account) (amount : Number) :
    Preserves idsAndMarks (debit account amount) :=
  preserves_bind (preserves_get _) fun _ =>
    preserves_bind (preserves_ofExcept _ _) fun balance =>
      preserves_modify fun memory => setBalance_idsAndMarks memory balance account

private theorem preserves_applyEntry (eventId : Nat) {entry : Entry Number}
    (unmarking : entry.marks? = none) : Preserves idsAndMarks (applyEntry eventId entry) := by
  cases entry with
  | deposit amount | realizedPnl _ _ amount | funding _ _ amount =>
      exact preserves_bind (preserves_credit _ _) fun _ => preserves_credit _ _
  | withdraw amount | fee _ _ amount =>
      exact preserves_bind (preserves_debit _ _) fun _ => preserves_credit _ _
  | reserveMargin positionId amount =>
      exact preserves_bind (preserves_debit _ _) fun _ =>
        preserves_bind (preserves_credit _ _) fun _ => preserves_credit _ _
  | allocateMargin positionId amount =>
      exact preserves_bind (preserves_debit _ _) fun _ =>
        preserves_bind (preserves_credit _ _) fun _ =>
          preserves_bind (preserves_debit _ _) fun _ =>
            preserves_bind (preserves_credit _ _) fun _ => preserves_modify fun _ => rfl
  | releaseMargin positionId =>
      exact preserves_bind (preserves_get _) fun _ =>
        preserves_bind (preserves_modify fun _ => rfl) fun _ =>
          preserves_bind (preserves_debit _ _) fun _ =>
            preserves_bind (preserves_debit _ _) fun _ =>
              preserves_bind (preserves_ofExcept _ _) fun _ =>
                preserves_bind (preserves_credit _ _) fun _ => preserves_modify fun _ => rfl
  | updateMarks unrealizedPnl exposure heat => cases unmarking
  | other action => exact preserves_raise _ _

private theorem applyEntry_idsAndMarks (eventId : Nat) (entry : Entry Number)
    (memory : Memory Number) :
    idsAndMarks (applyEntry eventId entry memory).2 =
      (memory.appliedEventIds, entry.marks?.getD memory.marks) := by
  cases marks : entry.marks? with
  | none => exact preserves_applyEntry eventId marks memory
  | some values =>
      cases entry with
      | updateMarks unrealizedPnl exposure heat =>
          cases marks
          rfl
      | _ => cases marks

private theorem preserves_assertInvariant {View : Type} (view : Memory Number → View)
    (snapshot : PortfolioSnapshot Number) : Preserves view (assertInvariant snapshot) := by
  refine preserves_bind (preserves_ofExcept _ _) fun assets =>
    preserves_bind (preserves_ofExcept _ _) fun equity =>
      preserves_bind (preserves_ofExcept _ _) fun claims =>
        preserves_bind (preserves_ofExcept _ _) fun balanced => ?_
  cases balanced with
  | true => exact preserves_pure _ _
  | false => exact preserves_raise _ _

private theorem applyNew_idsAndMarks (event : Event Stored) (payload : Payload Number)
    (memory : Memory Number) :
    idsAndMarks (applyNew event payload memory).2 =
      (memory.appliedEventIds ++ [event.eventId], payload.entry.marks?.getD memory.marks) := by
  let noted : Memory Number :=
    { memory with appliedEventIds := memory.appliedEventIds ++ [event.eventId] }
  have entered := applyEntry_idsAndMarks event.eventId payload.entry noted
  have rest : Preserves idsAndMarks (do
      Process.modify fun memory : Memory Number =>
        { memory with updatedAtUtc := some event.timestampUtc }
      let memory ← Process.get
      assertInvariant memory.snapshot
      return memory.snapshot : Update Number (PortfolioSnapshot Number)) :=
    preserves_bind (preserves_modify fun _ => rfl) fun _ =>
      preserves_bind (preserves_get _) fun memory =>
        preserves_bind (preserves_assertInvariant _ memory.snapshot) fun _ =>
          preserves_pure idsAndMarks memory.snapshot
  change idsAndMarks (Process.bind (applyEntry event.eventId payload.entry) _ noted).2 = _
  unfold Process.bind
  rcases ran : applyEntry event.eventId payload.entry noted with ⟨outcome, after⟩
  rw [ran] at entered
  cases outcome with
  | returned _ => exact (rest after).trans entered
  | raised error => exact entered
  | crashed => exact entered

private theorem applyEvent_idsAndMarks (memory : Memory Number) (event : Event Stored)
    (payload : Payload Number) (fresh : event.eventId ∉ memory.appliedEventIds) :
    idsAndMarks (memory.applyEvent event payload).2 =
      (memory.appliedEventIds ++ [event.eventId], payload.entry.marks?.getD memory.marks) := by
  have ends := applyNew_idsAndMarks event payload memory
  unfold Memory.applyEvent
  rw [if_neg fresh]
  rcases ran : applyNew event payload memory with ⟨outcome, after⟩
  rw [ran] at ends
  cases outcome with
  | returned snapshot => exact ends
  | raised error => exact ends
  | crashed => exact ends

theorem applyEvent_marks {memory : Memory Number} {event : Event Stored} (payload : Payload Number)
    (fresh : event.eventId ∉ memory.appliedEventIds) :
    (memory.applyEvent event payload).2.marks = payload.entry.marks?.getD memory.marks :=
  congrArg Prod.snd (applyEvent_idsAndMarks memory event payload fresh)

private theorem keeps_credit {positionId : String} (account : Account) (amount : Number) :
    Keeps (fun memory : Memory Number => positionId ∈ memory.releasedPositions)
      (credit account amount) := by
  refine keeps_bind (keeps_get _) fun _ => keeps_bind (keeps_ofExcept _ _) fun balance => ?_
  intro memory known
  cases account <;> exact known

private theorem keeps_debit {positionId : String} (account : Account) (amount : Number) :
    Keeps (fun memory : Memory Number => positionId ∈ memory.releasedPositions)
      (debit account amount) := by
  refine keeps_bind (keeps_get _) fun _ => keeps_bind (keeps_ofExcept _ _) fun balance => ?_
  intro memory known
  cases account <;> exact known

private theorem keeps_applyEntry (positionId : String) (eventId : Nat) (entry : Entry Number) :
    Keeps (fun memory : Memory Number => positionId ∈ memory.releasedPositions)
      (applyEntry eventId entry) := by
  cases entry with
  | deposit amount | realizedPnl _ _ amount | funding _ _ amount =>
      exact keeps_bind (keeps_credit _ _) fun _ => keeps_credit _ _
  | withdraw amount | fee _ _ amount =>
      exact keeps_bind (keeps_debit _ _) fun _ => keeps_credit _ _
  | reserveMargin other amount =>
      exact keeps_bind (keeps_debit _ _) fun _ =>
        keeps_bind (keeps_credit _ _) fun _ => keeps_credit _ _
  | allocateMargin other amount =>
      exact keeps_bind (keeps_debit _ _) fun _ =>
        keeps_bind (keeps_credit _ _) fun _ =>
          keeps_bind (keeps_debit _ _) fun _ =>
            keeps_bind (keeps_credit _ _) fun _ => fun _ known => known
  | releaseMargin other =>
      refine keeps_bind (keeps_get _) fun _ =>
        keeps_bind (fun _ known => known) fun _ =>
          keeps_bind (keeps_debit _ _) fun _ =>
            keeps_bind (keeps_debit _ _) fun _ =>
              keeps_bind (keeps_ofExcept _ _) fun _ =>
                keeps_bind (keeps_credit _ _) fun _ => ?_
      intro memory known
      change positionId ∈ addToSet memory.releasedPositions other
      unfold addToSet
      split
      · exact known
      · exact List.mem_append_left _ known
  | updateMarks unrealizedPnl exposure heat => exact fun _ known => known
  | other action => exact keeps_raise _ _

/-- A released position stays released, also where applying an event raises. -/
theorem applyEvent_releasedPositions {memory : Memory Number} (event : Event Stored)
    (payload : Payload Number) {positionId : String}
    (released : positionId ∈ memory.releasedPositions) :
    positionId ∈ (memory.applyEvent event payload).2.releasedPositions := by
  have keeps : Keeps (fun memory : Memory Number => positionId ∈ memory.releasedPositions)
      (applyNew event payload) :=
    keeps_bind (fun _ known => known) fun _ =>
      keeps_bind (keeps_applyEntry positionId _ _) fun _ =>
        keeps_bind (fun _ known => known) fun _ =>
          keeps_bind (keeps_get _) fun memory =>
            keeps_bind ((preserves_assertInvariant Memory.releasedPositions memory.snapshot).keeps _)
              fun _ => keeps_pure _ _
  have after := keeps memory released
  unfold Memory.applyEvent
  split
  · exact released
  · rcases ran : applyNew event payload memory with ⟨outcome, last⟩
    rw [ran] at after
    cases outcome <;> exact after

theorem applyEvent_updateMarks {memory after : Memory Number} {event : Event Stored} {pmId : String}
    {unrealizedPnl exposure heat : Number} {snapshot : PortfolioSnapshot Number}
    (fresh : event.eventId ∉ memory.appliedEventIds)
    (applied : memory.applyEvent event
      { pmId, entry := .updateMarks unrealizedPnl exposure heat } = (.ok snapshot, after)) :
    after = { memory with
              appliedEventIds := memory.appliedEventIds ++ [event.eventId]
              unrealizedPnl, exposure, heat
              updatedAtUtc := some event.timestampUtc } := by
  let marked : Memory Number :=
    { memory with
      appliedEventIds := memory.appliedEventIds ++ [event.eventId]
      unrealizedPnl, exposure, heat
      updatedAtUtc := some event.timestampUtc }
  have ran : applyNew event { pmId, entry := .updateMarks unrealizedPnl exposure heat } memory =
      (assertInvariant marked.snapshot >>= fun _ => pure marked.snapshot) marked := rfl
  have kept : ((assertInvariant marked.snapshot >>= fun _ => pure marked.snapshot) marked).2 =
      marked :=
    preserves_bind (preserves_assertInvariant id marked.snapshot)
      (fun _ => preserves_pure id marked.snapshot) marked
  unfold Memory.applyEvent at applied
  rw [if_neg fresh, ran] at applied
  rcases ended : (assertInvariant marked.snapshot >>= fun _ => pure marked.snapshot :
    Update Number _) marked with ⟨outcome, last⟩
  rw [ended] at applied kept
  cases outcome with
  | returned value =>
      cases applied
      exact kept
  | raised error => cases applied
  | crashed => cases applied

variable [Source Stored (Payload Number)]

theorem journal_laws (pmId : String) :
    Journal.Laws (journal pmId : Journal Stored (Payload Number) (Memory Number) _ _)
      Memory.appliedEventIds Eq :=
  { payload?_wrap := Source.own?_wrap
    known := fun memory event payload known => ⟨memory.snapshot, if_pos known⟩
    appliedIds_apply := fun memory event payload fresh =>
      congrArg Prod.fst (applyEvent_idsAndMarks memory event payload fresh)
    same_refl := fun _ => rfl
    same_appliedIds := fun memory other same => by rw [same]
    same_apply := fun memory other event payload value after same applied => by
      rw [← same, applied] }

/-- The marks of the last mark update in the log, zeros where there is none. -/
def lastMarks (pmId : String) (log : Log Stored) : Marks Number :=
  (log.entries.filterMap fun event =>
    ((journal pmId).own? event).bind fun payload : Payload Number =>
      payload.entry.marks?).getLast?.getD Memory.initial.marks

theorem lastMarks_concat {pmId : String} {log after : Log Stored} {event : Event Stored}
    (entries : after.entries = log.entries ++ [event]) :
    (lastMarks pmId after : Marks Number) =
      (((journal pmId).own? event).bind fun payload : Payload Number =>
        payload.entry.marks?).getD (lastMarks pmId log) := by
  unfold lastMarks
  rw [entries, List.filterMap_append, List.getLast?_append]
  cases marks : ((journal pmId).own? event).bind fun payload : Payload Number =>
    payload.entry.marks? with
  | none => simp [marks]
  | some values => simp [marks]

def InLog (pmId : String) (log : Log Stored) (key : MutationKey) : Prop :=
  ∃ event ∈ log.entries, event.idempotencyKey = some (namespacedKey pmId key.text)

def Sound (pmId : String) (log : Log Stored) (memory : Memory Number) : Prop :=
  Journal.Faithful (journal pmId : Journal Stored (Payload Number) (Memory Number) _ _)
    Memory.appliedEventIds Eq Memory.initial log memory

def Ready (pmId : String) (host : Host Stored (Memory Number)) : Prop :=
  Sound pmId host.log host.memory

theorem sound_empty (pmId : String) :
    Sound pmId (Ledger.empty : Log Stored) (Memory.initial : Memory Number) :=
  Journal.faithful_empty (fun _ => rfl) rfl

variable {pmId : String} {log : Log Stored} {key : MutationKey}

theorem Sound.foreign {memory : Memory Number} (sound : Sound pmId log memory)
    {eventType : EventType} {payload : Stored} {key : Option String} {now : String}
    (notOwn : (Source.own? payload : Option (Payload Number)) = none)
    (otherKey : ∀ own, key ≠ some (namespacedKey pmId own)) :
    Sound pmId (log.append eventType payload key now).2 memory := by
  refine Journal.Faithful.foreign sound ?_ otherKey
  change ((Source.own? payload : Option (Payload Number)).filter _) = none
  rw [notOwn]
  rfl

theorem Sound.rebuilt {memory rebuilt : Memory Number} (sound : Sound pmId log memory)
    (constructed : construct pmId log = .ok rebuilt) : rebuilt = memory := by
  unfold construct at constructed
  split at constructed
  · cases constructed
  split at constructed
  · cases constructed
  exact Journal.Faithful.replayed sound rebuilt constructed

/-- How a mutation that returns is in the log: it was before, or it is now. -/
inductive Posted (pmId : String) (key : MutationKey) (entry : Entry Number)
    (allow : Memory Number → Except PortfolioManagerError Unit)
    (before : Host Stored (Memory Number)) : Host Stored (Memory Number) → Prop
  | before (known : InLog pmId before.log key) : Posted pmId key entry allow before before
  | now (absent : ¬ InLog pmId before.log key) (admitted : allow before.memory = .ok ())
      (after : Host Stored (Memory Number)) (ready : Ready pmId after)
      (environment : after.environment = before.environment) (event : Event Stored)
      (keyed : event.idempotencyKey = some (namespacedKey pmId key.text))
      (own : (journal pmId : Journal Stored (Payload Number) (Memory Number) _ _).own? event =
        some { pmId, entry })
      (entries : after.log.entries = before.log.entries ++ [event])
      (fresh : event.eventId ∉ before.memory.appliedEventIds)
      (snapshot : PortfolioSnapshot Number)
      (applied : before.memory.applyEvent event { pmId, entry } = (.ok snapshot, after.memory)) :
      Posted pmId key entry allow before after

theorem inLog_of_getByIdempotencyKey {event : Event Stored}
    (known : log.getByIdempotencyKey (namespacedKey pmId key.text) = some event) :
    InLog pmId log key := by
  obtain ⟨member, keyed⟩ := Log.getByIdempotencyKey_eq_some_iff.mp known
  exact ⟨event, member, keyed⟩

private theorem not_inLog_of_getByIdempotencyKey
    (absent : log.getByIdempotencyKey (namespacedKey pmId key.text) = none) :
    ¬ InLog pmId log key := by
  rintro ⟨event, member, keyed⟩
  exact Log.getByIdempotencyKey_eq_none absent event member keyed

variable {host : Host Stored (Memory Number)}

theorem mutate_of_inLog (ready : Ready pmId host) (known : InLog pmId host.log key)
    (entry : Entry Number) (allow : Memory Number → Except PortfolioManagerError Unit) :
    ∃ snapshot, mutate pmId key entry allow host = (.returned snapshot, host) := by
  rcases Journal.Faithful.lookup (journal_laws pmId) ready key.text with
    ⟨absent, _⟩ | ⟨event, snapshot, _, answered⟩
  · exact absurd known (not_inLog_of_getByIdempotencyKey absent)
  · refine ⟨snapshot, ?_⟩
    change Process.bind ((journal pmId).cached key.text) _ host = _
    unfold Process.bind
    rw [answered]
    rfl

theorem mutate_of_not_inLog (ready : Ready pmId host) (absent : ¬ InLog pmId host.log key)
    (entry : Entry Number) (allow : Memory Number → Except PortfolioManagerError Unit) :
    mutate pmId key entry allow host =
      (Process.ofExcept (allow host.memory) >>= fun _ =>
        (journal pmId).record { pmId, entry } key.text) host := by
  rcases Journal.Faithful.lookup (journal_laws pmId) ready key.text with
    ⟨_, answered⟩ | ⟨event, _, known, _⟩
  · change Process.bind ((journal pmId).cached key.text) _ host = _
    unfold Process.bind
    rw [answered]
    rfl
  · exact absurd (inLog_of_getByIdempotencyKey known) absent

theorem mutate_spec (ready : Ready pmId host) (key : MutationKey) (entry : Entry Number)
    (allow : Memory Number → Except PortfolioManagerError Unit) :
    Ends (mutate pmId key entry allow) host
      { returned := fun _ after => Posted pmId key entry allow host after
        raised := fun error after => Ready pmId after ∧ ¬ InLog pmId host.log key ∧
          ((after = host ∧ allow host.memory = .error error) ∨
            (¬ Quiet host.environment ∧ after.memory = host.memory ∧ after.log = host.log) ∨
            allow host.memory = .ok () ∧ ∃ event : Event Stored,
              event.eventId ∉ host.memory.appliedEventIds ∧
              (journal pmId : Journal Stored (Payload Number) (Memory Number) _ _).own? event =
                some { pmId, entry } ∧
              after.log.entries = host.log.entries ++ [event] ∧
              host.memory.applyEvent event { pmId, entry } = (.error error, after.memory))
        crashed := fun after => Ready pmId after ∧ after.memory = host.memory ∧
          after.log = host.log ∧ ¬ Quiet host.environment } := by
  rcases Classical.em (InLog pmId host.log key) with known | absent
  · obtain ⟨snapshot, answered⟩ := mutate_of_inLog ready known entry allow
    unfold Ends
    rw [answered]
    exact .before known
  · unfold Ends
    rw [mutate_of_not_inLog ready absent entry allow]
    cases admitted : allow host.memory with
    | error error =>
        refine ends_bind (fun _ _ => False) ?_ (fun _ _ impossible => impossible.elim)
        exact ends_raise ⟨ready, absent, Or.inl ⟨rfl, rfl⟩⟩
    | ok passed =>
        refine ends_bind_of_returned (rfl : _ = (Outcome.returned (), host)) ?_
        have ends := Journal.Faithful.recorded (journal_laws pmId) ready { pmId, entry } key.text
        have mine : (journal pmId : Journal Stored (Payload Number) (Memory Number) _ _).mine
            { pmId, entry } = true := decide_eq_true rfl
        have kept := @Journal.Faithful.record _ _ _ _ _ _ _ _ _ (journal_laws pmId) _ key.text mine host ready
        unfold Ends
        generalize (journal pmId).record { pmId, entry } key.text host = ran at ends kept
        cases ends with
        | crashed dies =>
            refine ⟨ready, rfl, rfl, fun quiet => ?_⟩
            rw [(quiet host.clock).1] at dies
            cases dies
        | failed lives failure fails =>
            refine ⟨ready, absent, Or.inr (Or.inl ⟨fun quiet => ?_, rfl, rfl⟩)⟩
            rw [(quiet host.clock).2] at fails
            cases fails
        | repeated lives appends event known =>
            exact absurd (inLog_of_getByIdempotencyKey known) absent
        | added lives appends fresh log entries =>
            have new := Journal.Faithful.newEvent_fresh ready { pmId, entry } key.text
            have keyed : ((journal pmId).newEvent { pmId, entry } key.text host).idempotencyKey =
                some (namespacedKey pmId key.text) := rfl
            have own : (journal pmId : Journal Stored (Payload Number) (Memory Number) _ _).own?
                ((journal pmId).newEvent { pmId, entry } key.text host) = some { pmId, entry } := by
              change (Source.own? (Source.wrap ({ pmId, entry } : Payload Number) : Stored)).filter
                (fun payload : Payload Number => payload.pmId = pmId) = _
              rw [Source.own?_wrap]
              exact Option.filter_some_pos mine
            change Post.Holds _ (Journal.ofResult (host.memory.applyEvent
                ((journal pmId).newEvent { pmId, entry } key.text host) { pmId, entry }).1,
              { host with
                clock := host.clock + 1
                log
                memory := (host.memory.applyEvent
                  ((journal pmId).newEvent { pmId, entry } key.text host) { pmId, entry }).2 })
            change Sound pmId log (host.memory.applyEvent
              ((journal pmId).newEvent { pmId, entry } key.text host) { pmId, entry }).2 at kept
            generalize (journal pmId).newEvent { pmId, entry } key.text host = event
              at new keyed own entries kept ⊢
            rcases applied : host.memory.applyEvent event { pmId, entry } with ⟨result, memory⟩
            rw [applied] at kept
            cases result with
            | ok snapshot =>
                exact .now absent admitted _ kept rfl event keyed own entries new snapshot applied
            | error error =>
                exact ⟨kept, absent, Or.inr (Or.inr ⟨rfl, event, new, own, entries, applied⟩)⟩

end

end TurtleExecution.PortfolioManager
