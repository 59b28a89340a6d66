/-
The event store refines the idempotent ledger.

A world is a process with an open store, or the file that a stopped process left.
An append, a crash at any byte of an append and a reopening each leave the ledger
of the file as it was or extend it by one entry under a fresh key.
-/

import TurtleExecution.EventStore.TornTail
import TurtleExecution.EventStore.Append
import TurtleExecution.Foundation.Ledger
import TurtleExecution.Foundation.Pairs

set_option autoImplicit false

namespace TurtleExecution.EventStore

private theorem hashKey_eq_str {value : PyValue} {text : PyStr}
    (hashed : hashKey value = some (.str text)) : value = .str text := by
  cases value with
  | str other =>
      cases hashed
      rfl
  | float value => cases value <;> cases hashed
  | none | bool _ | int _ | list _ | tuple _ | dict _ | other => cases hashed

variable {log : List LogEntry} {events : List Event} {event : Event} {key : PyStr}

private theorem get?_indexEvent {index next : Dict PyKey Nat}
    (indexed : indexEvent index event = some next)
    (key : PyStr) :
    (event.idempotencyKey = .str key ∧ Dict.get? next (.str key) = some event.eventId) ∨
      (event.idempotencyKey ≠ .str key ∧
        Dict.get? next (.str key) = Dict.get? index (.str key)) := by
  unfold indexEvent at indexed
  split at indexed
  · rename_i keyless
    cases indexed
    refine Or.inr ⟨?_, rfl⟩
    rw [keyless]
    intro impossible
    cases impossible
  · obtain ⟨hashed, hashes, rfl⟩ := Option.map_eq_some_iff.mp indexed
    by_cases same : hashed = .str key
    · subst same
      exact Or.inl ⟨hashKey_eq_str hashes, Dict.get?_set_self _ _ _⟩
    · refine Or.inr ⟨?_, Dict.get?_set_of_ne _ _ (Ne.symm same)⟩
      intro keyed
      rw [keyed] at hashes
      exact same (Option.some.inj hashes).symm

private theorem index_get?_eq_none {index : Dict PyKey Nat}
    (built : buildIdempotencyIndex events = some index) (absent : Dict.get? index (.str key) = none) :
    ∀ event ∈ events, event.idempotencyKey ≠ .str key := by
  induction events using List.reverseRecOn generalizing index with
  | nil => exact fun event impossible => nomatch impossible
  | append_singleton events last ih =>
      rw [buildIdempotencyIndex_concat] at built
      obtain ⟨before, builtBefore, indexed⟩ := Option.bind_eq_some_iff.mp built
      rcases get?_indexEvent indexed key with ⟨_, found⟩ | ⟨different, same⟩
      · rw [absent] at found
        cases found
      · rw [same] at absent
        intro event member
        rcases List.mem_append.mp member with earlier | atEnd
        · exact ih builtBefore absent event earlier
        · rw [List.mem_singleton.mp atEnd]
          exact different

private theorem index_get?_eq_some {index : Dict PyKey Nat} {eventId : Nat}
    (built : buildIdempotencyIndex events = some index)
    (found : Dict.get? index (.str key) = some eventId) :
    ∃ event ∈ events, event.eventId = eventId ∧ event.idempotencyKey = .str key := by
  induction events using List.reverseRecOn generalizing index with
  | nil =>
      cases built
      cases found
  | append_singleton events last ih =>
      rw [buildIdempotencyIndex_concat] at built
      obtain ⟨before, builtBefore, indexed⟩ := Option.bind_eq_some_iff.mp built
      rcases get?_indexEvent indexed key with ⟨keyed, newest⟩ | ⟨_, same⟩
      · rw [newest] at found
        cases found
        exact ⟨last, List.mem_append_right _ (List.mem_singleton_self _), rfl, keyed⟩
      · rw [same] at found
        obtain ⟨event, member, facts⟩ := ih builtBefore found
        exact ⟨event, List.mem_append_left _ member, facts⟩

theorem indexById_get? (distinctIds : (events.map Event.eventId).Nodup) (member : event ∈ events) :
    Dict.get? (indexById events) event.eventId = some event := by
  induction events using List.reverseRecOn with
  | nil => cases member
  | append_singleton events last ih =>
      rw [indexById_append, Dict.get?_set]
      rw [List.map_append, List.nodup_append] at distinctIds
      rcases List.mem_append.mp member with earlier | atEnd
      · have different : event.eventId ≠ last.eventId :=
          distinctIds.2.2 _ (List.mem_map_of_mem earlier) _ (List.mem_singleton_self _)
        rw [if_neg different]
        exact ih distinctIds.1 earlier
      · rw [List.mem_singleton.mp atEnd, if_pos rfl]

def eventKey (event : Event) : Option PyStr :=
  match event.idempotencyKey with
  | .str text => some text
  | _ => none

abbrev EventLedger := Ledger PyStr Event eventKey

private theorem eventKey_eq_some_iff :
    eventKey event = some key ↔ event.idempotencyKey = .str key := by
  unfold eventKey
  split
  · rename_i text keyed
    rw [keyed, Option.some.injEq, PyValue.str.injEq]
  · rename_i notText
    constructor
    · intro impossible
      cases impossible
    · intro keyed
      exact absurd keyed (notText key)

private theorem map_eventId_congr {events stored : List Event}
    (reads : List.Forall₂ ReadsAs events stored) :
    stored.map Event.eventId = events.map Event.eventId := by
  induction reads with
  | nil => rfl
  | cons head tail ih => rw [List.map_cons, List.map_cons, head.eventId, ih]

theorem Consistent.eventIds {store : Store} (consistent : Consistent store log) :
    store.events.map Event.eventId = log.map LogEntry.eventId := by
  rw [← map_eventId_congr consistent.events, logEvents, List.map_map]
  exact List.map_congr_left fun entry _ => loadEvent_eventId entry.loaded

theorem Consecutive.map_eventId {firstId : Nat} (consecutive : Consecutive firstId log) :
    log.map LogEntry.eventId = List.range' firstId log.length := by
  induction log generalizing firstId with
  | nil => rfl
  | cons entry log ih =>
      rw [List.map_cons, List.length_cons, List.range'_succ, consecutive.1, ih consecutive.2]

theorem Consecutive.append {firstId : Nat} {entry : LogEntry}
    (consecutive : Consecutive firstId log) (next : entry.eventId = firstId + log.length) :
    Consecutive firstId (log ++ [entry]) := by
  induction log generalizing firstId with
  | nil => exact ⟨next, trivial⟩
  | cons first log ih =>
      rw [List.length_cons] at next
      exact ⟨consecutive.1, ih consecutive.2 (by omega)⟩

theorem Consecutive.nextIdAfter (consecutive : Consecutive 1 log) :
    nextIdAfter log = log.length + 1 := by
  have general : ∀ {firstId : Nat} {log : List LogEntry}, Consecutive firstId log →
      ∀ last, lastEventId last log =
        if log = [] then last else some (firstId + log.length - 1) := by
    intro firstId log consecutive
    induction log generalizing firstId with
    | nil => exact fun last => rfl
    | cons entry log ih =>
        intro last
        rw [lastEventId, ih consecutive.2, consecutive.1]
        cases log with
        | nil => simp
        | cons second log =>
            simp only [reduceCtorEq, if_false, List.length_cons]
            congr 1
            omega
  rw [EventStore.nextIdAfter, general consecutive none]
  cases log with
  | nil => rfl
  | cons entry log => simp

def Event.TextKeyed (event : Event) : Prop :=
  ∃ key : Option JsonText, event.idempotencyKey = optionalText (key.map JsonText.text)

theorem Event.TextKeyed.keyReads (textKeyed : event.TextKeyed) : event.KeyReads := by
  obtain ⟨key, keyed⟩ := textKeyed
  unfold Event.KeyReads
  rw [keyed]
  cases key with
  | none => rfl
  | some key => simp [optionalText, rereadKey]

/-- The ledger holds the events of the log, whose ids are consecutive from 1 and whose
keys are texts that `json` reads or `None`. -/
structure Represents (log : List LogEntry) (ledger : EventLedger) : Prop where
  entries : ledger.entries = logEvents log
  consecutive : Consecutive 1 log
  textKeys : ∀ event ∈ ledger.entries, event.TextKeyed

def Store.KeysRead (store : Store) : Prop :=
  ∀ event ∈ store.events, event.KeyReads

variable {log : List LogEntry} {ledger : EventLedger} {store : Store}

theorem Represents.keysRead (represents : Represents log ledger)
    (events : store.events = logEvents log) : store.KeysRead := by
  intro event member
  rw [events, ← represents.entries] at member
  exact (represents.textKeys event member).keyReads

theorem Represents.push (represents : Represents log ledger) {entry : LogEntry}
    (next : entry.eventId = log.length + 1)
    (textKey : entry.event.TextKeyed)
    (fresh : ∀ key, eventKey entry.event = some key →
      ∀ known ∈ ledger.entries, eventKey known ≠ some key) :
    Represents (log ++ [entry]) (ledger.push entry.event fresh) :=
  { entries := by
      rw [Ledger.push_entries, represents.entries, logEvents_append]
      rfl
    consecutive := represents.consecutive.append (by omega)
    textKeys := by
      intro event member
      rcases List.mem_append.mp member with known | new
      · exact represents.textKeys event known
      · rw [List.mem_singleton.mp new]
        exact textKey }

theorem Represents.distinctIds (represents : Represents log ledger)
    (consistent : Consistent store log) : (store.events.map Event.eventId).Nodup := by
  rw [consistent.eventIds, represents.consecutive.map_eventId]
  exact List.nodup_range'

theorem indexById_mem {events : List Event} {eventId : Nat} {event : Event}
    (found : Dict.get? (indexById events) eventId = some event) : event ∈ events := by
  induction events using List.reverseRecOn with
  | nil => cases found
  | append_singleton events last ih =>
      rw [indexById_append, Dict.get?_set] at found
      split at found
      · cases found
        exact List.mem_append_right _ (List.mem_singleton_self _)
      · exact List.mem_append_left _ (ih found)

theorem Represents.eq_of_key (represents : Represents log ledger)
    (consistent : Consistent store log) (keysRead : store.KeysRead) {first second : Event} {key : PyStr}
    (isFirst : first ∈ store.events) (isSecond : second ∈ store.events)
    (firstKey : first.idempotencyKey = .str key) (secondKey : second.idempotencyKey = .str key) :
    first = second := by
  have distinctIds := represents.distinctIds consistent
  obtain ⟨firstImage, firstStored, firstRead⟩ := exists_of_forall₂_left consistent.events isFirst
  obtain ⟨secondImage, secondStored, secondRead⟩ := exists_of_forall₂_left consistent.events isSecond
  rw [← represents.entries] at firstStored secondStored
  have sameImage := ledger.eq_of_key firstStored secondStored
    (eventKey_eq_some_iff.mpr ((firstRead.idempotencyKey (keysRead first isFirst)).trans firstKey))
    (eventKey_eq_some_iff.mpr ((secondRead.idempotencyKey (keysRead second isSecond)).trans secondKey))
  have sameId : first.eventId = second.eventId := by
    rw [← firstRead.eventId, ← secondRead.eventId, sameImage]
  have atId := indexById_get? distinctIds isFirst
  rw [sameId, indexById_get? distinctIds isSecond] at atId
  exact (Option.some.inj atId).symm

private theorem recordToWrite_unknown {call : AppendCall} {now : String} {record : Bytes}
    (writes : recordToWrite store call now = some record) {key : PyStr}
    (keyed : call.idempotencyKey = some key) :
    Dict.get? store.idempotencyIndex (.str key) = none := by
  unfold recordToWrite at writes
  split at writes
  · cases writes
  · rename_i passes
    have unknown : storedUnder store call.idempotencyKey = none := by
      simp only [Bool.or_eq_true, not_or, Bool.not_eq_true, Option.isSome_eq_false_iff,
        Option.isNone_iff_eq_none] at passes
      exact passes.2
    unfold storedUnder at unknown
    rw [keyed] at unknown
    dsimp only at unknown
    split at unknown
    · assumption
    · split at unknown <;> cases unknown

private theorem storedEvent_textKeyed {envelope : Envelope} {eventId : Nat} {event : Event}
    (stored : envelope.storedEvent eventId = some event) : event.TextKeyed := by
  obtain ⟨payload, _, rfl⟩ := Option.map_eq_some_iff.mp stored
  refine ⟨envelope.idempotencyKey.map PyStr.joined, ?_⟩
  rw [Option.map_map]
  rfl

/-- The key of the call, if it has one, holds no two surrogates that stand as a pair. -/
def AppendCall.KeyReads (call : AppendCall) : Prop :=
  ∀ key ∈ call.idempotencyKey, key.unpaired = true

private theorem AppendCall.KeyReads.withKeyRead {call : AppendCall} (keyReads : call.KeyReads)
    (now : String) : (call.envelope now).withKeyRead = call.envelope now := by
  unfold Envelope.withKeyRead AppendCall.envelope
  cases keyed : call.idempotencyKey with
  | none => rfl
  | some key => simp [JsonText.joined_of_unpaired (keyReads key keyed)]

private theorem AppendCall.KeyReads.built {call : AppendCall} (keyReads : call.KeyReads)
    (now : String) (eventId : Nat) : ((call.envelope now).event eventId).KeyReads := by
  change rereadKey (optionalText call.idempotencyKey) = optionalText call.idempotencyKey
  cases keyed : call.idempotencyKey with
  | none => rfl
  | some key => simp [optionalText, rereadKey, JsonText.joined_of_unpaired (keyReads key keyed)]

private theorem Store.KeysRead.record (keysRead : store.KeysRead) {call : AppendCall}
    (keyReads : call.KeyReads) (file : LogFile) (now : String) (key : Option PyStr) :
    (store.record file ((call.envelope now).event store.nextEventId) key).KeysRead := by
  intro event member
  rcases List.mem_append.mp member with known | new
  · exact keysRead event known
  · rw [List.mem_singleton.mp new]
    exact keyReads.built now store.nextEventId

private theorem recordToWrite_fresh (consistent : Consistent store log)
    (represents : Represents log ledger) (keysRead : store.KeysRead)
    {call : AppendCall} (keyReads : call.KeyReads) {now : String} {record : Bytes}
    (writes : recordToWrite store call now = some record) {event : Event}
    (stored : (call.envelope now).storedEvent store.nextEventId = some event) :
    ∀ key, eventKey event = some key → ∀ known ∈ ledger.entries, eventKey known ≠ some key := by
  intro key eventHasKey known isKnown knownHasKey
  obtain ⟨payload, _, rfl⟩ := Option.map_eq_some_iff.mp stored
  rw [keyReads.withKeyRead, eventKey_eq_some_iff] at eventHasKey
  have keyed : call.idempotencyKey = some key := by
    change optionalText call.idempotencyKey = .str key at eventHasKey
    cases given : call.idempotencyKey with
    | none =>
        rw [given] at eventHasKey
        cases eventHasKey
    | some text =>
        rw [given] at eventHasKey
        exact congrArg some (PyValue.str.inj eventHasKey)
  have absent := recordToWrite_unknown writes keyed
  rw [represents.entries] at isKnown
  obtain ⟨inMemory, member, reads⟩ := exists_of_forall₂_right consistent.events isKnown
  exact index_get?_eq_none consistent.index absent inMemory member
    ((reads.idempotencyKey (keysRead inMemory member)).symm.trans (eventKey_eq_some_iff.mp knownHasKey))

/-- A call whose key is stored changes nothing, and a well-formed one is answered with
the stored event. -/
theorem append_known (consistent : Consistent store log) (represents : Represents log ledger)
    (keysRead : store.KeysRead)
    {call : AppendCall} {key : PyStr} (keyed : call.idempotencyKey = some key) {event : Event}
    (member : event ∈ store.events) (eventKeyed : event.idempotencyKey = .str key) (now : String)
    (faults : Faults) :
    (append store call now faults).2 = store ∧
      (validateNewEvent call = none → (append store call now faults).1 = .ok event) := by
  have distinctIds := represents.distinctIds consistent
  cases found : Dict.get? store.idempotencyIndex (.str key) with
  | none =>
      exact absurd eventKeyed (index_get?_eq_none consistent.index found event member)
  | some eventId =>
      obtain ⟨holder, holderMember, rfl, holderKeyed⟩ := index_get?_eq_some consistent.index found
      have sameEvent : holder = event :=
        represents.eq_of_key consistent keysRead holderMember member holderKeyed eventKeyed
      subst sameEvent
      have looked : storedUnder store call.idempotencyKey = some (.ok holder) := by
        simp only [storedUnder, keyed, found, consistent.byId,
          indexById_get? distinctIds holderMember]
      have answered : recordToWrite store call now = none := by
        simp [recordToWrite, looked]
      refine ⟨(append_answered answered faults).1, fun wellFormed => ?_⟩
      simp [append, consistent.opened, wellFormed, looked]

/-- A process with an open store, or the file that a stopped process left. -/
inductive World
  | running (store : Store)
  | stopped (content : Bytes)

def World.content : World → Bytes
  | .running store => store.file.content
  | .stopped content => content

def shortWrites (counts : List Nat) : Faults :=
  { writes := counts.map fun count => .wrote (count + 1)
    fsyncFails := false
    rollbackFsyncFails := false }

/-- An append with short writes; a crash during an append, of whose record the first
`kept` bytes have reached the file; and the opening of the file by a new process. -/
inductive Step
  | append (call : AppendCall) (now : String) (counts : List Nat)
  | crash (call : AppendCall) (now : String) (kept : Nat)
  | reopen

def World.step : World → Step → World × Option Event
  | .running store, .append call now counts =>
      let result := EventStore.append store call now (shortWrites counts)
      (.running result.2, result.1.toOption)
  | .running store, .crash call now kept =>
      (.stopped (store.file.content ++ ((recordToWrite store call now).getD []).take kept), none)
  | .stopped content, .reopen =>
      match openStore content with
      | .ok store => (.running store, none)
      | .error _ => (.stopped content, none)
  | world, _ => (world, none)

/-- The world after the steps, and the events that the appends returned. -/
def runSteps (world : World) : List Step → World × List Event
  | [] => (world, [])
  | step :: steps =>
      let next := world.step step
      let rest := runSteps next.1 steps
      (rest.1, next.2.toList ++ rest.2)

theorem shortWrites_fail (counts : List Nat) (length : Nat) :
    (shortWrites counts).fail length = false := by
  have complete : ∀ remaining, bytesWritten remaining (shortWrites counts).writes = remaining := by
    induction counts with
    | nil => exact fun remaining => rfl
    | cons count counts ih =>
        intro remaining
        have rest := ih (remaining - min (count + 1) remaining)
        simp only [shortWrites, List.map_cons, bytesWritten] at rest ⊢
        rw [rest]
        split <;> omega
  simp [Faults.fail, writesFail, complete]
  rfl

/-- The file of the world holds the log, behind which a stopped process may have left
a torn record. -/
def World.Holds : World → List LogEntry → Prop
  | .running store, log => Consistent store log
  | .stopped content, log => Ascending none log ∧
      (∃ index, buildIdempotencyIndex (logEvents log) = some index) ∧
      (content = logBytes log ∨ ∃ (entry : LogEntry) (cut : Nat), 0 < cut ∧
        cut < entry.recordBytes.length ∧ content = logBytes log ++ entry.recordBytes.take cut)

theorem World.Holds.opens {world : World} (holds : world.Holds log) :
    ∃ store, openStore world.content = .ok store ∧ Consistent store log ∧
      store.events = logEvents log := by
  cases world with
  | running store =>
      obtain ⟨reopened, opens, consistent, events, _⟩ := Consistent.reopen holds
      exact ⟨reopened, opens, consistent, events⟩
  | stopped content =>
      obtain ⟨ascending, ⟨index, indexed⟩, whole | ⟨entry, cut, positive, short, torn⟩⟩ := holds
      · subst whole
        obtain ⟨store, opens, consistent, events, _⟩ :=
          openStore_of_scan (scanFile_logBytes log ascending) ascending List.take_length
            (Nat.sub_self _).symm (fun _ => rfl) indexed
        exact ⟨store, opens, consistent, events⟩
      · subst torn
        have cutLength : (entry.recordBytes.take cut).length = cut :=
          List.length_take_of_le (Nat.le_of_lt short)
        obtain ⟨store, opens, consistent, events, _⟩ :=
          openStore_of_scan (scanFile_cut log entry ascending positive short) ascending
            List.take_left (by simp [cutLength]) (fun impossible => nomatch impossible) indexed
        exact ⟨store, opens, consistent, events⟩

def World.KeysRead : World → Prop
  | .running store => store.KeysRead
  | .stopped _ => True

def World.Refines (world : World) (ledger : EventLedger) : Prop :=
  ∃ log, world.Holds log ∧ Represents log ledger ∧ world.KeysRead

def Step.KeyReads : Step → Prop
  | .append call _ _ => call.KeyReads
  | .crash call _ _ => call.KeyReads
  | .reopen => True

/-- The ledger holds what the event is read back as, under the same key. -/
def Recorded (ledger : EventLedger) (event : Event) : Prop :=
  ∃ stored ∈ ledger.entries, ReadsAs event stored ∧ stored.idempotencyKey = event.idempotencyKey

/-- An append adds its event to the ledger if it writes a record, and answers with an
event of the ledger. -/
theorem append_refines (consistent : Consistent store log) (represents : Represents log ledger)
    (keysRead : store.KeysRead) {call : AppendCall} (keyReads : call.KeyReads) (now : String)
    {faults : Faults} (succeeds : ∀ length, faults.fail length = false) :
    ∃ log' ledger', ledger.Extends ledger' ∧ Represents log' ledger' ∧
      Consistent (append store call now faults).2 log' ∧ (append store call now faults).2.KeysRead ∧
      ∀ event, (append store call now faults).1 = .ok event →
        Recorded ledger' event := by
  cases writes : recordToWrite store call now with
  | none =>
      obtain ⟨unchanged, answer⟩ := append_answered writes faults
      refine ⟨log, ledger, Ledger.Extends.refl ledger, represents, by rwa [unchanged],
        by rwa [unchanged], ?_⟩
      intro event returned
      obtain ⟨key, eventId, _, _, found⟩ := answer event returned
      rw [consistent.byId] at found
      have member := indexById_mem found
      obtain ⟨stored, isStored, reads⟩ := exists_of_forall₂_left consistent.events member
      rw [← represents.entries] at isStored
      exact ⟨stored, isStored, reads, reads.idempotencyKey (keysRead event member)⟩
  | some record =>
      obtain ⟨entry, rfl, sameId, stored⟩ := recordToWrite_entry writes
      have next : entry.eventId = log.length + 1 := by
        rw [sameId, consistent.nextEventId, represents.consecutive.nextIdAfter]
      have fresh := recordToWrite_fresh consistent represents keysRead keyReads writes stored
      rw [append_written writes (succeeds _)]
      refine ⟨log ++ [entry], ledger.push entry.event fresh, Ledger.extends_push _ _ _,
        represents.push next (storedEvent_textKeyed stored) fresh, consistent.record sameId stored,
        keysRead.record keyReads _ _ _, ?_⟩
      rintro event ⟨⟩
      have reads : ReadsAs ((call.envelope now).event store.nextEventId) entry.event := by
        refine Or.inr ?_
        rw [Envelope.event_readBack, stored]
      exact ⟨entry.event, List.mem_append_right _ (List.mem_singleton_self _), reads,
        reads.idempotencyKey (keyReads.built now _)⟩

private theorem crash_refines (consistent : Consistent store log) (represents : Represents log ledger)
    (keysRead : store.KeysRead) {call : AppendCall} (keyReads : call.KeyReads) (now : String)
    (kept : Nat) :
    ∃ ledger', ledger.Extends ledger' ∧ ((World.running store).step (.crash call now kept)).1.Refines
      ledger' := by
  have index := consistent.logIndex
  have unwritten : (World.stopped store.file.content).Refines ledger :=
    ⟨log, ⟨consistent.ascending, index, Or.inl consistent.content⟩, represents, trivial⟩
  simp only [World.step]
  cases writes : recordToWrite store call now with
  | none =>
      refine ⟨ledger, Ledger.Extends.refl ledger, ?_⟩
      simpa using unwritten
  | some record =>
      obtain ⟨entry, rfl, sameId, stored⟩ := recordToWrite_entry writes
      rw [Option.getD_some]
      by_cases whole : entry.recordBytes.length ≤ kept
      · have next : entry.eventId = log.length + 1 := by
          rw [sameId, consistent.nextEventId, represents.consecutive.nextIdAfter]
        have fresh := recordToWrite_fresh consistent represents keysRead keyReads writes stored
        have recorded := consistent.record sameId stored
        refine ⟨ledger.push entry.event fresh, Ledger.extends_push _ _ _, log ++ [entry],
          ⟨recorded.ascending, recorded.logIndex, Or.inl ?_⟩,
          represents.push next (storedEvent_textKeyed stored) fresh, trivial⟩
        rw [List.take_of_length_le whole, consistent.content, logBytes_append]
        simp
      · refine ⟨ledger, Ledger.Extends.refl ledger, ?_⟩
        by_cases nothing : kept = 0
        · subst nothing
          simpa using unwritten
        · exact ⟨log, ⟨consistent.ascending, index, Or.inr ⟨entry, kept, by omega, by omega,
            by rw [consistent.content]⟩⟩, represents, trivial⟩

/-- Every step of a world is a step of its ledger, which only grows; the event that an
append returned is in it. -/
theorem step_refines {world : World} (refines : world.Refines ledger) {step : Step}
    (keyReads : step.KeyReads) :
    ∃ ledger', ledger.Extends ledger' ∧ (world.step step).1.Refines ledger' ∧
      ∀ event ∈ (world.step step).2, Recorded ledger' event := by
  have unmoved : ∃ ledger', ledger.Extends ledger' ∧ world.Refines ledger' ∧
      ∀ event ∈ (none : Option Event), Recorded ledger' event :=
    ⟨ledger, Ledger.Extends.refl ledger, refines, fun event impossible => nomatch impossible⟩
  cases world with
  | running store =>
      obtain ⟨log, consistent, represents, keysRead⟩ := refines
      cases step with
      | append call now counts =>
          obtain ⟨log', ledger', extended, represents', consistent', keysRead', answers⟩ :=
            append_refines consistent represents keysRead keyReads now (shortWrites_fail counts)
          refine ⟨ledger', extended, ⟨log', consistent', represents', keysRead'⟩, ?_⟩
          intro event returned
          refine answers event ?_
          simp only [World.step] at returned
          cases answered : (append store call now (shortWrites counts)).1 with
          | error error => simp [answered, Except.toOption] at returned
          | ok other =>
              simp only [answered, Except.toOption, Option.mem_def, Option.some.injEq] at returned
              rw [returned]
      | crash call now kept =>
          obtain ⟨ledger', extended, refines'⟩ :=
            crash_refines consistent represents keysRead keyReads now kept
          exact ⟨ledger', extended, refines', fun event impossible => nomatch impossible⟩
      | reopen => exact unmoved
  | stopped content =>
      cases step with
      | append call now counts => exact unmoved
      | crash call now kept => exact unmoved
      | reopen =>
          obtain ⟨log, holds, represents, _⟩ := refines
          obtain ⟨store, opens, consistent, events⟩ := World.Holds.opens holds
          simp only [World.content] at opens
          simp only [World.step, opens]
          exact ⟨ledger, Ledger.Extends.refl ledger,
            ⟨log, consistent, represents, represents.keysRead events⟩,
            fun event impossible => nomatch impossible⟩

theorem runSteps_refines {world : World} (refines : world.Refines ledger) {steps : List Step}
    (keysRead : ∀ step ∈ steps, step.KeyReads) :
    ∃ ledger', ledger.Extends ledger' ∧ (runSteps world steps).1.Refines ledger' ∧
      ∀ event ∈ (runSteps world steps).2, Recorded ledger' event := by
  induction steps generalizing world ledger with
  | nil => exact ⟨ledger, Ledger.Extends.refl ledger, refines, fun event impossible => nomatch impossible⟩
  | cons step steps ih =>
      obtain ⟨first, rest⟩ := List.forall_mem_cons.mp keysRead
      obtain ⟨middle, toMiddle, middleRefines, answered⟩ := step_refines refines first
      obtain ⟨last, toLast, lastRefines, laterAnswers⟩ := ih middleRefines rest
      refine ⟨last, toMiddle.trans toLast, lastRefines, ?_⟩
      intro event returned
      rcases List.mem_append.mp returned with now | later
      · obtain ⟨stored, isStored, read⟩ := answered event (Option.mem_toList.mp now)
        exact ⟨stored, toLast.mem isStored, read⟩
      · exact laterAnswers event later

def OneEventPerKey (events : List Event) : Prop :=
  events.Pairwise fun earlier later =>
    earlier.idempotencyKey ≠ .none → later.idempotencyKey ≠ earlier.idempotencyKey

theorem Represents.oneEventPerKey (represents : Represents log ledger) :
    OneEventPerKey (logEvents log) := by
  rw [← represents.entries]
  refine ledger.distinct.imp_of_mem ?_
  intro earlier later isEarlier isLater distinct keyed same
  obtain ⟨key, text⟩ := represents.textKeys earlier isEarlier
  cases key with
  | none => exact keyed text
  | some key =>
      exact distinct key.text (eventKey_eq_some_iff.mpr text)
        (eventKey_eq_some_iff.mpr (same.trans text))

private theorem stopped_empty_refines : (World.stopped []).Refines Ledger.empty :=
  ⟨[], ⟨trivial, ⟨[], rfl⟩, Or.inl rfl⟩,
    { entries := rfl, consecutive := trivial, textKeys := fun _ impossible => nomatch impossible },
    trivial⟩

/-- After a run from an empty file: reopening succeeds; the ids are 1, 2, ... in file order;
no two events share a key; every event that an append returned is read back; and an append
under a stored key changes nothing and answers with the stored event. -/
def KeepsLedger (steps : List Step) : Prop :=
  ∃ reopened, openStore (runSteps (.stopped []) steps).1.content = .ok reopened ∧
    reopened.events.map Event.eventId = List.range' 1 reopened.events.length ∧
    OneEventPerKey reopened.events ∧
    (∀ event ∈ (runSteps (.stopped []) steps).2,
      ∃ stored ∈ reopened.events, ReadsAs event stored) ∧
    ∀ live, (runSteps (.stopped []) steps).1 = .running live →
      List.Forall₂ ReadsAs live.events reopened.events ∧
      ∀ event ∈ live.events, ∀ key, event.idempotencyKey = .str key →
        ∀ call, call.idempotencyKey = some key → ∀ now faults,
          (append live call now faults).2 = live ∧
            (validateNewEvent call = none → (append live call now faults).1 = .ok event)

/-- Every run of appends, crashes and reopenings whose keys are read back as they are
keeps the ledger. -/
theorem runSteps_ledger {steps : List Step} (keysRead : ∀ step ∈ steps, step.KeyReads) :
    KeepsLedger steps := by
  obtain ⟨ledger, _, ⟨log, holds, represents, keysInMemory⟩, answers⟩ :=
    runSteps_refines stopped_empty_refines keysRead
  obtain ⟨reopened, opens, consistent, events⟩ := holds.opens
  refine ⟨reopened, opens, ?_, ?_, ?_, ?_⟩
  · rw [consistent.eventIds, events, logEvents_length, represents.consecutive.map_eventId]
  · rw [events]
    exact represents.oneEventPerKey
  · intro event returned
    obtain ⟨stored, isStored, reads, _⟩ := answers event returned
    rw [events, ← represents.entries]
    exact ⟨stored, isStored, reads⟩
  · intro live isLive
    rw [isLive] at holds keysInMemory
    refine ⟨by rw [events]; exact Consistent.events holds, ?_⟩
    intro event member key keyed call callKeyed now faults
    exact append_known holds represents keysInMemory callKeyed member keyed now faults

def keyedCall : AppendCall :=
  { eventType := .systemStarted
    payload := []
    idempotencyKey := some (.scalars "start")
    schemaVersion := 1 }

def appendedAgain (call : AppendCall) : List Step :=
  [.reopen, .append call "now" [], .crash call "now" 0, .reopen, .append call "now" []]

theorem runSteps_ledger_repeated : KeepsLedger (appendedAgain keyedCall) :=
  runSteps_ledger (by simp [appendedAgain, Step.KeyReads, AppendCall.KeyReads, keyedCall])

private theorem appendedAgain_content {call : AppendCall} {first second : Store}
    (opensFirst : openStore [] = .ok first)
    (opensSecond : openStore (append first call "now" (shortWrites [])).2.file.content = .ok second) :
    (runSteps (.stopped []) (appendedAgain call)).1.content =
      (append second call "now" (shortWrites [])).2.file.content := by
  simp only [appendedAgain, runSteps, World.step, opensFirst, List.take_zero, List.append_nil,
    opensSecond, World.content]

/-- `"\ud83d\ude00"`, two code points that `json` reads as one. -/
def pairedKey : PyStr :=
  .surrogates ⟨[.high ⟨0x3d, by decide⟩, .low ⟨0x200, by decide⟩], rfl⟩

def pairedCall : AppendCall :=
  { keyedCall with idempotencyKey := some pairedKey }

private theorem pairedCall_validated : validateNewEvent pairedCall = none := by
  decide +kernel

private theorem pairedCall_dumped :
    (PyValue.dumps (pairedCall.envelope "now").value).any (fun bytes => bytes.length < 1000) = true := by
  decide +kernel

private theorem pairedCall_written (consistent : Consistent store log)
    (unknown : Dict.get? store.idempotencyIndex (.str pairedKey) = none)
    (early : store.nextEventId < 256 ^ 8) :
    ∃ entry : LogEntry, Consistent (append store pairedCall "now" (shortWrites [])).2 (log ++ [entry]) ∧
      entry.eventId = store.nextEventId ∧
      entry.event.idempotencyKey = .str pairedKey.joined.text := by
  obtain ⟨payloadBytes, dumped, short⟩ := (Option.any_eq_true _ _).mp pairedCall_dumped
  have fits : payloadBytes.length < 256 ^ 4 := Nat.lt_trans (of_decide_eq_true short) (by decide)
  have notStored : storedUnder store pairedCall.idempotencyKey = none := by
    simp [storedUnder, pairedCall, unknown]
  obtain ⟨record, writes⟩ : ∃ record, recordToWrite store pairedCall "now" = some record := by
    rw [recordToWrite, consistent.opened, pairedCall_validated, notStored]
    exact ⟨_, (congrArg (Option.bind · (encodeRecord store.nextEventId)) dumped).trans
      (encodeRecord_of_fits early fits)⟩
  obtain ⟨entry, rfl, sameId, stored⟩ := recordToWrite_entry writes
  refine ⟨entry, ?_, sameId, ?_⟩
  · rw [append_written writes (shortWrites_fail [] _)]
    exact consistent.record sameId stored
  · obtain ⟨payload, _, isEvent⟩ := Option.map_eq_some_iff.mp stored
    rw [← isEvent]
    rfl

private theorem pairedKey_changes : pairedKey.joined.text ≠ pairedKey := by
  decide

private theorem unknown_pairedKey (consistent : Consistent store log)
    (others : ∀ event ∈ store.events, event.idempotencyKey = .str pairedKey.joined.text) :
    Dict.get? store.idempotencyIndex (.str pairedKey) = none := by
  by_contra known
  obtain ⟨eventId, found⟩ := Option.ne_none_iff_exists'.mp known
  obtain ⟨event, member, _, keyed⟩ := index_get?_eq_some consistent.index found
  rw [others event member, PyValue.str.injEq] at keyed
  exact pairedKey_changes keyed

/-- A process that was started anew does not find the key that `json` has changed, and stores
a second event under it. -/
theorem pairedKey_storedTwice : ¬ ∀ steps, KeepsLedger steps := by
  intro keeps
  obtain ⟨last, opensLast, _, onePerKey, _⟩ := keeps (appendedAgain pairedCall)
  have empty : (World.stopped []).Holds [] := ⟨trivial, ⟨[], rfl⟩, Or.inl rfl⟩
  obtain ⟨first, opensFirst, consistentFirst, eventsFirst⟩ := empty.opens
  obtain ⟨one, consistentOne, oneId, oneKey⟩ := pairedCall_written consistentFirst
    (unknown_pairedKey consistentFirst (by simp [eventsFirst, logEvents]))
    (by rw [consistentFirst.nextEventId]
        decide)
  have whole : (World.stopped (append first pairedCall "now" (shortWrites [])).2.file.content).Holds
      [one] :=
    ⟨consistentOne.ascending, consistentOne.logIndex, Or.inl consistentOne.content⟩
  obtain ⟨second, opensSecond, consistentSecond, eventsSecond⟩ := whole.opens
  have oneKeyed : ∀ event ∈ second.events, event.idempotencyKey = .str pairedKey.joined.text := by
    simp [eventsSecond, logEvents, oneKey]
  obtain ⟨two, consistentTwo, _, twoKey⟩ := pairedCall_written consistentSecond
    (unknown_pairedKey consistentSecond oneKeyed)
    (by rw [consistentSecond.nextEventId, nextIdAfter, lastEventId, oneId, consistentFirst.nextEventId]
        decide)
  obtain ⟨reopened, opens, _, events, _⟩ := consistentTwo.reopen
  rw [appendedAgain_content opensFirst opensSecond, opens] at opensLast
  cases opensLast
  rw [events] at onePerKey
  have distinct := (List.pairwise_cons.mp onePerKey).1 two.event List.mem_cons_self
  rw [oneKey, twoKey] at distinct
  exact distinct (by simp) rfl

theorem Represents.get_iff (represents : Represents log ledger) (consistent : Consistent store log)
    (keysRead : store.KeysRead) {key : PyStr} {event : Event} :
    getByIdempotencyKey store key = some event ↔
      event ∈ store.events ∧ event.idempotencyKey = .str key := by
  unfold getByIdempotencyKey
  cases found : Dict.get? store.idempotencyIndex (.str key) with
  | none =>
      refine iff_of_false (fun impossible => nomatch impossible) ?_
      exact fun ⟨member, keyed⟩ => index_get?_eq_none consistent.index found event member keyed
  | some eventId =>
      obtain ⟨holder, isHolder, rfl, holderKeyed⟩ := index_get?_eq_some consistent.index found
      rw [Option.bind_some, consistent.byId,
        indexById_get? (represents.distinctIds consistent) isHolder, Option.some_inj]
      constructor
      · rintro rfl
        exact ⟨isHolder, holderKeyed⟩
      · exact fun ⟨member, keyed⟩ =>
          represents.eq_of_key consistent keysRead isHolder member holderKeyed keyed

theorem Represents.has_iff (represents : Represents log ledger) (consistent : Consistent store log)
    (keysRead : store.KeysRead) {key : PyStr} :
    hasIdempotencyKey store key = true ↔ ∃ event, getByIdempotencyKey store key = some event := by
  rw [hasIdempotencyKey]
  cases found : Dict.get? store.idempotencyIndex (.str key) with
  | none => simp [getByIdempotencyKey, found]
  | some eventId =>
      obtain ⟨holder, isHolder, _, keyed⟩ := index_get?_eq_some consistent.index found
      exact iff_of_true rfl ⟨holder, (represents.get_iff consistent keysRead).mpr ⟨isHolder, keyed⟩⟩

private theorem filter_eventId {events : List Event} {first : Nat}
    (ids : events.map Event.eventId = List.range' first events.length) (fromEventId : Nat) :
    (events.filter fun event => fromEventId ≤ event.eventId) = events.drop (fromEventId - first) := by
  induction events generalizing first with
  | nil => rw [List.filter_nil, List.drop_nil]
  | cons event events ih =>
      rw [List.map_cons, List.length_cons, List.range'_succ, List.cons.injEq] at ids
      rw [List.filter_cons, ih ids.2, ids.1]
      by_cases reached : fromEventId ≤ first
      · simp [reached, Nat.sub_eq_zero_of_le, Nat.le_succ_of_le reached]
      · have next : fromEventId - first = fromEventId - (first + 1) + 1 := by omega
        simp [reached, next]

theorem Represents.replay_eq (represents : Represents log ledger) (consistent : Consistent store log)
    (fromEventId : Nat) : replay store fromEventId = .ok (store.events.drop (fromEventId - 1)) := by
  have sameLength := congrArg List.length consistent.eventIds
  rw [List.length_map, List.length_map] at sameLength
  have ids : store.events.map Event.eventId = List.range' 1 store.events.length := by
    rw [consistent.eventIds, represents.consecutive.map_eventId, sameLength]
  rw [replay, consistent.opened, ← filter_eventId ids]
  rfl

/-- Over every run of appends, crashes and reopenings from an empty file whose keys are read
back as they are, an open store replays from an id what is behind the ids before it, as its file
does when it is opened again; a key finds exactly the event that carries it, and so what any
append of the run answered with under it. -/
theorem runSteps_reads {steps : List Step} (keysRead : ∀ step ∈ steps, step.KeyReads)
    (reached : (runSteps (.stopped []) steps).1 = .running store) :
    ∃ reopened, openStore store.file.content = .ok reopened ∧
      store.nextEventId = eventCount store + 1 ∧ eventCount reopened = eventCount store ∧
      (∀ fromEventId, ∃ events later, replay store fromEventId = .ok events ∧
        replay reopened fromEventId = .ok later ∧ List.Forall₂ ReadsAs events later ∧
        events = store.events.drop (fromEventId - 1)) ∧
      ∀ key, hasIdempotencyKey store key = hasIdempotencyKey reopened key ∧
        (hasIdempotencyKey store key = true ↔ ∃ event, getByIdempotencyKey store key = some event) ∧
        (∀ event, getByIdempotencyKey store key = some event ↔
          event ∈ store.events ∧ event.idempotencyKey = .str key) ∧
        ∀ event ∈ (runSteps (.stopped []) steps).2, event.idempotencyKey = .str key →
          ∃ held stored, getByIdempotencyKey store key = some held ∧
            getByIdempotencyKey reopened key = some stored ∧ ReadsAs held stored ∧
            ReadsAs event stored := by
  obtain ⟨ledger, _, ⟨log, holds, represents, keysInMemory⟩, answers⟩ :=
    runSteps_refines stopped_empty_refines keysRead
  rw [reached] at holds keysInMemory
  have consistent : Consistent store log := holds
  obtain ⟨reopened, opens, again, events, _⟩ := consistent.reopen
  have reads : List.Forall₂ ReadsAs store.events reopened.events := by
    rw [events]
    exact consistent.events
  refine ⟨reopened, opens, ?_, reads.length_eq.symm, fun fromEventId => ?_, fun key =>
    ⟨?_, represents.has_iff consistent keysInMemory,
      fun event => represents.get_iff consistent keysInMemory, fun event returned keyed => ?_⟩⟩
  · have sameLength := congrArg List.length consistent.eventIds
    rw [List.length_map, List.length_map] at sameLength
    rw [consistent.nextEventId, represents.consecutive.nextIdAfter, eventCount, sameLength]
  · exact ⟨_, _, represents.replay_eq consistent fromEventId, represents.replay_eq again fromEventId,
      List.forall₂_drop _ reads, rfl⟩
  · have sameIndex := again.index
    rw [buildIdempotencyIndex_congr reads keysInMemory, consistent.index] at sameIndex
    rw [hasIdempotencyKey, hasIdempotencyKey, Option.some.inj sameIndex]
  · obtain ⟨stored, isStored, readBack, sameKey⟩ := answers event returned
    rw [represents.entries, ← events] at isStored
    obtain ⟨held, isHeld, heldRead⟩ := exists_of_forall₂_right reads isStored
    have storedKeyed := sameKey.trans keyed
    have heldKeyed := (heldRead.idempotencyKey (keysInMemory held isHeld)).symm.trans storedKeyed
    exact ⟨held, stored, (represents.get_iff consistent keysInMemory).mpr ⟨isHeld, heldKeyed⟩,
      (represents.get_iff again (represents.keysRead events)).mpr ⟨isStored, storedKeyed⟩, heldRead,
      readBack⟩

theorem runSteps_reads_appended : ∃ store,
    (runSteps (.stopped []) [.reopen, .append keyedCall "now" []]).1 = .running store ∧
      store.nextEventId = eventCount store + 1 := by
  have keysRead : ∀ step ∈ [Step.reopen, .append keyedCall "now" []], step.KeyReads := by
    simp [Step.KeyReads, AppendCall.KeyReads, keyedCall]
  obtain ⟨store, reached⟩ : ∃ store,
      (runSteps (.stopped []) [.reopen, .append keyedCall "now" []]).1 = .running store := ⟨_, rfl⟩
  obtain ⟨_, _, next, _⟩ := runSteps_reads keysRead reached
  exact ⟨store, reached, next⟩

end TurtleExecution.EventStore
