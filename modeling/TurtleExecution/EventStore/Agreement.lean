/-
The event in memory and the event that is read back.

Freezing reaches lists through dictionaries and lists only, and JSON has strings for keys
and lists for tuples.  A payload comes back equal exactly when its keys are strings, no
string in it has a pair of surrogates, no NaN in it is another object than the one of `json`,
and no list is inside a tuple; an idempotency key when it has no pair of surrogates.
-/

import TurtleExecution.Foundation.PyNumber
import TurtleExecution.Foundation.JsonNative
import TurtleExecution.EventStore.Idempotency
import TurtleExecution.EventStore.Rollback

set_option autoImplicit false

namespace TurtleExecution.EventStore

def number? : PyValue → Option ℚ
  | .bool value => some (if value then 1 else 0)
  | .int value => some value
  | .float (.finite literal) => some (Binary64.format.nearest (PyValue.floatValue literal))
  | _ => none

/-- Whether an item that is no container is the other one or equal to it.  A NaN is equal to
nothing, and of an event and what is read back of it the same object only where `json` has
both. -/
def equalAtom (left right : PyValue) : Bool :=
  match left, right with
  | .none, .none => true
  | .str left, .str right => decide (left = right)
  | .float (.nan left), .float (.nan right) => left && right
  | .float (.infinity left), .float (.infinity right) => decide (left = right)
  | left, right =>
      match number? left, number? right with
      | some left, some right => decide (left = right)
      | _, _ => false

/-- `left == right`; a read-only view of a dictionary compares as the dictionary. -/
def equal (left right : PyValue) : Bool :=
  PyValue.equal equalAtom left right

def Event.equal (left right : Event) : Bool :=
  decide (left.eventId = right.eventId) && decide (left.eventType = right.eventType) &&
    EventStore.equal left.timestampUtc right.timestampUtc &&
    EventStore.equal left.schemaVersion right.schemaVersion &&
    EventStore.equal left.idempotencyKey right.idempotencyKey &&
    EventStore.equal (.dict left.payload) (.dict right.payload)

/-- Whether the key is a string that is its own JSON image. -/
def isText : PyKey → Bool
  | .str text => text.unpaired
  | _ => false

mutual
/-- Whether the value, or the value frozen unless it is inside a tuple, is equal to what is
read back of it. -/
def replayable (inTuple : Bool) : PyValue → Bool
  | .float (.nan constant) => constant
  | .str text => text.unpaired
  | .list items => !inTuple && replayableItems inTuple items
  | .tuple items => replayableItems true items
  | .dict entries => replayableEntries inTuple entries
  | _ => true

def replayableItems (inTuple : Bool) : List PyValue → Bool
  | [] => true
  | item :: items => replayable inTuple item && replayableItems inTuple items

def replayableEntries (inTuple : Bool) : List (PyKey × PyValue) → Bool
  | [] => true
  | (key, value) :: entries =>
      isText key && replayable inTuple value && replayableEntries inTuple entries
end

mutual
def Distinct : PyValue → Prop
  | .list items => DistinctItems items
  | .tuple items => DistinctItems items
  | .dict entries => (entries.map Prod.fst).Nodup ∧ DistinctEntries entries
  | _ => True

def DistinctItems : List PyValue → Prop
  | [] => True
  | item :: items => Distinct item ∧ DistinctItems items

def DistinctEntries : List (PyKey × PyValue) → Prop
  | [] => True
  | (_, value) :: entries => Distinct value ∧ DistinctEntries entries
end

private theorem replayableItems_iff {inTuple : Bool} {items : List PyValue} :
    replayableItems inTuple items = true ↔ ∀ item ∈ items, replayable inTuple item = true := by
  induction items with
  | nil => simp [replayableItems]
  | cons item items ih => simp [replayableItems, ih]

private theorem replayableEntries_iff {inTuple : Bool} {entries : PyDict} :
    replayableEntries inTuple entries = true ↔
      ∀ entry ∈ entries, isText entry.1 = true ∧ replayable inTuple entry.2 = true := by
  induction entries with
  | nil => simp [replayableEntries]
  | cons entry entries ih =>
      obtain ⟨key, value⟩ := entry
      rw [replayableEntries, Bool.and_eq_true, Bool.and_eq_true, ih, List.forall_mem_cons]

private theorem distinctItems_iff {items : List PyValue} :
    DistinctItems items ↔ ∀ item ∈ items, Distinct item := by
  induction items with
  | nil => simp [DistinctItems]
  | cons item items ih => simp [DistinctItems, ih]

private theorem distinctEntries_iff {entries : PyDict} :
    DistinctEntries entries ↔ ∀ entry ∈ entries, Distinct entry.2 := by
  induction entries with
  | nil => simp [DistinctEntries]
  | cons entry entries ih =>
      obtain ⟨key, value⟩ := entry
      simp [DistinctEntries, ih]

private theorem isText_iff {key : PyKey} :
    isText key = true ↔ ∃ name : JsonText, key = .str name.text := by
  constructor
  · intro isName
    cases key with
    | str text => exact ⟨⟨text, isName⟩, rfl⟩
    | _ => cases isName
  · rintro ⟨name, rfl⟩
    exact name.unpaired

private theorem deepFreezeItems_eq (items : List PyValue) :
    deepFreezeItems items = items.map deepFreeze := by
  induction items with
  | nil => rfl
  | cons item items ih => rw [deepFreezeItems, ih, List.map_cons]

private theorem deepFreezeEntries_eq (entries : PyDict) :
    deepFreezeEntries entries = Dict.mapValues deepFreeze entries := by
  induction entries with
  | nil => rfl
  | cons entry entries ih =>
      obtain ⟨key, value⟩ := entry
      rw [deepFreezeEntries, ih]
      rfl

mutual
private theorem replayable_deepFreeze : ∀ value : PyValue,
    replayable true (deepFreeze value) = replayable false value
  | .list items => by
      rw [deepFreeze, replayable, replayable, replayableItems_deepFreeze items]
      rfl
  | .tuple items => by
      rw [deepFreeze, replayable, replayable]
      all_goals exact fun _ impossible => by cases impossible
  | .dict entries => by
      rw [deepFreeze, replayable, replayable, replayableEntries_deepFreeze entries]
  | .float (.nan _) | .float (.finite _) | .float (.infinity _) => rfl
  | .none | .bool _ | .int _ | .str _ | .other => rfl

theorem replayableItems_deepFreeze : ∀ items : List PyValue,
    replayableItems true (deepFreezeItems items) = replayableItems false items
  | [] => rfl
  | item :: items => by
      rw [deepFreezeItems, replayableItems, replayableItems, replayable_deepFreeze item,
        replayableItems_deepFreeze items]

theorem replayableEntries_deepFreeze : ∀ entries : PyDict,
    replayableEntries true (deepFreezeEntries entries) = replayableEntries false entries
  | [] => rfl
  | (key, value) :: entries => by
      rw [deepFreezeEntries, replayableEntries, replayableEntries, replayable_deepFreeze value,
        replayableEntries_deepFreeze entries]
end

def held (inTuple : Bool) (value : PyValue) : PyValue :=
  if inTuple then value else deepFreeze value

private theorem held_dict (inTuple : Bool) (entries : PyDict) :
    held inTuple (.dict entries) = .dict (Dict.mapValues (held inTuple) entries) := by
  cases inTuple with
  | true =>
      have same : Dict.mapValues (held true) entries = entries :=
        List.map_id' entries
      rw [same]
      rfl
  | false =>
      rw [show held false (.dict entries) = .dict (deepFreezeEntries entries) from by
        rw [← deepFreeze]; rfl, deepFreezeEntries_eq]
      rfl

variable {value : PyValue} {inTuple : Bool} {tree : Json}

private theorem equalItems_held {items : List PyValue} {trees : List Json}
    (pairs : List.Forall₂ (fun item tree =>
      equal (held inTuple item) (deepFreeze (PyValue.ofJson tree)) = true ↔
        replayable inTuple item = true) items trees) :
    PyValue.equalItems equalAtom (items.map (held inTuple))
        (deepFreezeItems (PyValue.ofJsonItems trees)) = true ↔
      replayableItems inTuple items = true := by
  induction pairs with
  | nil => simp [PyValue.equalItems, PyValue.ofJsonItems, deepFreezeItems, replayableItems]
  | cons first _ ih =>
      rw [List.map_cons, PyValue.ofJsonItems, deepFreezeItems, PyValue.equalItems, replayableItems,
        Bool.and_eq_true, Bool.and_eq_true, ih]
      exact and_congr_left' first

private theorem isText_of_image {images : PyDict} (isDict : PyValue.ofJson tree = .dict images)
    {key : PyKey} (found : Dict.get? images key = some value) : isText key = true := by
  have plain := PyValue.plain_ofJson tree
  rw [isDict] at plain
  have text := ((PyValue.plain_dict_iff.mp plain).1 _ (Dict.mem_of_get? found)).1
  exact isText_iff.mpr text

private theorem equalEntries_held {entries : PyDict} (distinct : (entries.map Prod.fst).Nodup)
    (written : PyValue.toJson (.dict entries) = some tree)
    (values : ∀ entry ∈ entries, ∀ valueTree, PyValue.toJson entry.2 = some valueTree →
      (equal (held inTuple entry.2) (deepFreeze (PyValue.ofJson valueTree)) = true ↔
        replayable inTuple entry.2 = true)) :
    equal (held inTuple (.dict entries)) (deepFreeze (PyValue.ofJson tree)) = true ↔
      replayable inTuple (.dict entries) = true := by
  obtain ⟨members, _, isTree⟩ := Option.map_eq_some_iff.mp written
  obtain ⟨images, isDict⟩ : ∃ images, PyValue.ofJson tree = .dict images := by
    rw [← isTree, PyValue.ofJson]
    exact ⟨_, rfl⟩
  have right : deepFreeze (PyValue.ofJson tree) = .dict (Dict.mapValues deepFreeze images) := by
    rw [isDict, deepFreeze, deepFreezeEntries_eq]
  rw [right, held_dict, equal, PyValue.equal, Bool.and_eq_true, decide_eq_true_iff,
    PyValue.equalEntries_iff, replayable, replayableEntries_iff]
  have entryImage : (∀ entry ∈ entries, isText entry.1 = true) →
      images.length = entries.length ∧ ∀ entry ∈ entries, ∃ valueTree,
        PyValue.toJson entry.2 = some valueTree ∧
          Dict.get? images entry.1 = some (PyValue.ofJson valueTree) := by
    intro text
    obtain ⟨others, isOther, sized, found⟩ := PyValue.dict_image
      (fun entry member => isText_iff.mp (text entry member)) distinct written
    rw [isDict] at isOther
    cases isOther
    exact ⟨sized, found⟩
  constructor
  · rintro ⟨_, found⟩
    have text : ∀ entry ∈ entries, isText entry.1 = true := by
      intro entry member
      obtain ⟨against, isAgainst, _⟩ := found (entry.1, held inTuple entry.2)
        (List.mem_map.mpr ⟨entry, member, rfl⟩)
      rw [Dict.get?_mapValues] at isAgainst
      obtain ⟨image, isImage, _⟩ := Option.map_eq_some_iff.mp isAgainst
      exact isText_of_image isDict isImage
    intro entry member
    obtain ⟨valueTree, isValue, isImage⟩ := (entryImage text).2 entry member
    obtain ⟨against, isAgainst, same⟩ := found (entry.1, held inTuple entry.2)
      (List.mem_map.mpr ⟨entry, member, rfl⟩)
    rw [Dict.get?_mapValues, isImage] at isAgainst
    cases isAgainst
    exact ⟨text entry member, (values entry member valueTree isValue).mp same⟩
  · intro replays
    obtain ⟨sized, found⟩ := entryImage fun entry member => (replays entry member).1
    refine ⟨?_, ?_⟩
    · rw [Dict.mapValues, Dict.mapValues, List.length_map, List.length_map, sized]
    · intro entry member
      obtain ⟨source, isSource, rfl⟩ := List.mem_map.mp member
      obtain ⟨valueTree, isValue, isImage⟩ := found source isSource
      refine ⟨deepFreeze (PyValue.ofJson valueTree), ?_, ?_⟩
      · rw [Dict.get?_mapValues, isImage]
        rfl
      · exact (values source isSource valueTree isValue).mpr (replays source isSource).2

private theorem equal_image_iff (distinct : Distinct value)
    (written : PyValue.toJson value = some tree) :
    equal (held inTuple value) (deepFreeze (PyValue.ofJson tree)) = true ↔
      replayable inTuple value = true := by
  induction value using PyValue.inductionOn generalizing inTuple tree with
  | list items ih =>
      obtain ⟨trees, itemsWritten, rfl⟩ := Option.map_eq_some_iff.mp written
      have itemsDistinct := distinctItems_iff.mp distinct
      have pairs : List.Forall₂ (fun item tree =>
          equal (held false item) (deepFreeze (PyValue.ofJson tree)) = true ↔
            replayable false item = true) items trees :=
        forall₂_imp_mem (PyValue.toJsonItems_forall₂ itemsWritten)
          fun item member tree isTree => ih item member (itemsDistinct item member) isTree
      rw [PyValue.ofJson, deepFreeze, replayable]
      cases inTuple with
      | true => exact iff_of_false (by simp [equal, held, PyValue.equal]) (by simp)
      | false =>
          rw [show held false (.list items) = .tuple (items.map (held false)) from by
            rw [show held false (.list items) = deepFreeze (.list items) from rfl, deepFreeze,
              deepFreezeItems_eq]
            rfl]
          exact (equalItems_held pairs).trans (by simp)
  | tuple items ih =>
      obtain ⟨trees, itemsWritten, rfl⟩ := Option.map_eq_some_iff.mp written
      have itemsDistinct := distinctItems_iff.mp distinct
      have pairs : List.Forall₂ (fun item tree =>
          equal (held true item) (deepFreeze (PyValue.ofJson tree)) = true ↔
            replayable true item = true) items trees :=
        forall₂_imp_mem (PyValue.toJsonItems_forall₂ itemsWritten)
          fun item member tree isTree => ih item member (itemsDistinct item member) isTree
      have asItems : held inTuple (.tuple items) = .tuple (items.map (held true)) := by
        rw [show items.map (held true) = items from List.map_id' items]
        cases inTuple with
        | _ => rfl
      rw [PyValue.ofJson, deepFreeze, replayable, asItems]
      exact equalItems_held pairs
  | dict entries ih =>
      obtain ⟨nodup, valuesDistinct⟩ := distinct
      exact equalEntries_held nodup written fun entry member valueTree isTree =>
        ih entry member (distinctEntries_iff.mp valuesDistinct entry member) isTree
  | other => cases written
  | float value =>
      cases written
      cases value with
      | nan constant =>
          cases inTuple <;> simp [equal, held, deepFreeze, PyValue.ofJson, PyValue.floatNumber,
            PyValue.ofNumber, PyValue.equal, PyValue.isAtom, equalAtom, replayable]
      | finite literal | infinity negative =>
          refine iff_of_true ?_ rfl
          cases inTuple <;> simp [equal, held, deepFreeze, PyValue.ofJson, PyValue.floatNumber,
            PyValue.ofNumber, PyValue.equal, PyValue.isAtom, equalAtom, number?]
  | str text =>
      cases written
      have atText : equal (held inTuple (.str text)) (deepFreeze (PyValue.ofJson (.string text.joined))) =
          decide (text = text.joined.text) := by
        cases inTuple <;> rfl
      rw [atText, decide_eq_true_iff, replayable]
      constructor
      · intro same
        rw [same]
        exact text.joined.unpaired
      · exact fun unpaired => (JsonText.joined_of_unpaired unpaired).symm
  | int value =>
      obtain ⟨number, isNumber, rfl⟩ := Option.map_eq_some_iff.mp written
      rw [PyValue.ofJson, PyValue.ofNumber_intNumber? isNumber]
      refine iff_of_true ?_ rfl
      cases inTuple <;> simp [equal, held, deepFreeze, PyValue.equal, PyValue.isAtom, equalAtom,
        number?]
  | none | bool value =>
      cases written
      refine iff_of_true ?_ rfl
      cases inTuple <;> simp [equal, held, deepFreeze, PyValue.ofJson, PyValue.equal,
        PyValue.isAtom, equalAtom, number?]

private theorem equal_self_iff (plain : PyValue.Plain value) :
    equal (deepFreeze value) (deepFreeze value) = true ↔ replayable true (deepFreeze value) = true := by
  rw [replayable_deepFreeze]
  induction value using PyValue.inductionOn with
  | list items ih =>
      have itemsPlain := PyValue.plainItems_iff.mp plain
      rw [deepFreeze, equal, PyValue.equal, replayable, Bool.not_false, Bool.true_and,
        replayableItems_iff, deepFreezeItems_eq]
      clear plain
      induction items with
      | nil => simp [PyValue.equalItems]
      | cons item items itemsIh =>
          obtain ⟨first, rest⟩ := List.forall_mem_cons.mp ih
          obtain ⟨firstPlain, restPlain⟩ := List.forall_mem_cons.mp itemsPlain
          rw [List.map_cons, PyValue.equalItems, Bool.and_eq_true, List.forall_mem_cons]
          exact and_congr (first firstPlain) (itemsIh rest restPlain)
  | tuple items ih => exact plain.elim
  | dict entries ih =>
      obtain ⟨entriesPlain, nodup⟩ := PyValue.plain_dict_iff.mp plain
      have keys : ((Dict.mapValues deepFreeze entries).map Prod.fst).Nodup := by
        rw [Dict.mapValues, List.map_map]
        exact nodup
      rw [deepFreeze, deepFreezeEntries_eq, equal, PyValue.equal, decide_eq_true rfl, Bool.true_and,
        PyValue.equalEntries_iff, replayable, replayableEntries_iff]
      constructor
      · intro found entry member
        have inFrozen : (entry.1, deepFreeze entry.2) ∈ Dict.mapValues deepFreeze entries :=
          List.mem_map.mpr ⟨entry, member, rfl⟩
        obtain ⟨against, isAgainst, same⟩ := found _ inFrozen
        rw [Dict.get?_of_mem keys inFrozen] at isAgainst
        cases isAgainst
        obtain ⟨text, valuePlain⟩ := entriesPlain entry member
        exact ⟨isText_iff.mpr text, (ih entry member valuePlain).mp same⟩
      · intro replays entry member
        obtain ⟨source, isSource, rfl⟩ := List.mem_map.mp member
        refine ⟨deepFreeze source.2, Dict.get?_of_mem keys member, ?_⟩
        exact (ih source isSource (entriesPlain source isSource).2).mpr (replays source isSource).2
  | other => exact plain.elim
  | float value =>
      cases value with
      | nan constant =>
          cases plain
          exact iff_of_true rfl rfl
      | finite literal | infinity negative =>
          refine iff_of_true ?_ rfl
          simp [equal, deepFreeze, PyValue.equal, PyValue.isAtom, equalAtom, number?]
  | str text => exact iff_of_true (decide_eq_true rfl) plain
  | none | bool value | int value =>
      refine iff_of_true ?_ rfl
      simp [equal, deepFreeze, PyValue.equal, PyValue.isAtom, equalAtom, number?]

theorem Envelope.equal_eventWith (envelope : Envelope) (key : Option PyStr) (eventId : Nat)
    (left right : PyDict) :
    (envelope.eventWith eventId left).equal
        ({ envelope with idempotencyKey := key }.eventWith eventId right) =
      (EventStore.equal (optionalText envelope.idempotencyKey) (optionalText key) &&
        EventStore.equal (.dict (deepFreezeEntries left)) (.dict (deepFreezeEntries right))) := by
  have sameText : EventStore.equal (.str envelope.timestampUtc) (.str envelope.timestampUtc) = true := by
    simp [EventStore.equal, PyValue.equal, PyValue.isAtom, equalAtom]
  have sameVersion : EventStore.equal (.int envelope.schemaVersion) (.int envelope.schemaVersion) =
      true := by
    simp [EventStore.equal, PyValue.equal, PyValue.isAtom, equalAtom, number?]
  simp only [Event.equal, Envelope.eventWith, sameText, sameVersion, decide_true, Bool.true_and]

private theorem equal_rereadKey (key : Option PyStr) :
    EventStore.equal (optionalText key) (optionalText (key.map fun key => key.joined.text)) =
      replayable true (optionalText key) := by
  cases key with
  | none => rfl
  | some text =>
      change decide (text = text.joined.text) = text.unpaired
      rw [Bool.eq_iff_iff, decide_eq_true_iff]
      constructor
      · intro same
        rw [same]
        exact text.joined.unpaired
      · exact fun unpaired => (JsonText.joined_of_unpaired unpaired).symm

private theorem Envelope.equal_withKeyRead (envelope : Envelope) (eventId : Nat)
    (left right : PyDict) :
    (envelope.eventWith eventId left).equal (envelope.withKeyRead.eventWith eventId right) =
      (replayable true (optionalText envelope.idempotencyKey) &&
        EventStore.equal (.dict (deepFreezeEntries left)) (.dict (deepFreezeEntries right))) := by
  rw [Envelope.withKeyRead, Envelope.equal_eventWith, equal_rereadKey]

private theorem replayable_keyRead (key : Option PyStr) :
    replayable true (optionalText (key.map fun key => key.joined.text)) = true := by
  cases key with
  | none => rfl
  | some text => exact text.joined.unpaired

/-- The stored event was read back of an envelope, and the event in memory is the stored one
or the one that was built of the envelope. -/
def Origin (event stored : Event) : Prop :=
  ∃ (envelope : Envelope) (eventId : Nat) (payload : PyDict), Distinct (.dict envelope.payload) ∧
    rereadDict envelope.payload = some payload ∧
    stored = envelope.withKeyRead.eventWith eventId payload ∧
    (event = stored ∨ event = envelope.event eventId)

/-- Whether the event in memory is equal to what is read back of it. -/
def Event.replayable (event : Event) : Bool :=
  EventStore.replayable true event.idempotencyKey &&
    EventStore.replayable true (.dict event.payload)

private theorem rereadDict_eq_some {entries images : PyDict}
    (read : rereadDict entries = some images) :
    ∃ tree, PyValue.toJson (.dict entries) = some tree ∧ PyValue.ofJson tree = .dict images := by
  obtain ⟨members, built, rfl⟩ := Option.map_eq_some_iff.mp read
  exact ⟨.object members, by rw [PyValue.toJson, built]; rfl, rfl⟩

theorem Origin.stored {event stored : Event} (origin : Origin event stored) :
    Origin stored stored := by
  obtain ⟨envelope, eventId, payload, distinct, read, isStored, _⟩ := origin
  exact ⟨envelope, eventId, payload, distinct, read, isStored, Or.inl rfl⟩

theorem Origin.equal_iff {event stored : Event} (origin : Origin event stored) :
    event.equal stored = true ↔ event.replayable = true := by
  obtain ⟨envelope, eventId, payload, distinct, read, rfl, isEvent⟩ := origin
  obtain ⟨tree, built, isImage⟩ := rereadDict_eq_some read
  have frozen : ∀ entries, PyValue.dict (deepFreezeEntries entries) = deepFreeze (.dict entries) :=
    fun entries => by rw [deepFreeze]
  rw [Event.replayable, Bool.and_eq_true]
  rcases isEvent with rfl | rfl
  · have same := envelope.withKeyRead.equal_eventWith envelope.withKeyRead.idempotencyKey eventId
      payload payload
    have keySame : EventStore.equal (optionalText envelope.withKeyRead.idempotencyKey)
        (optionalText envelope.withKeyRead.idempotencyKey) = true := by
      unfold Envelope.withKeyRead
      cases envelope.idempotencyKey with
      | none => rfl
      | some text => exact decide_eq_true rfl
    rw [same, keySame, Bool.true_and, frozen, Envelope.eventWith]
    dsimp only
    rw [frozen, Envelope.withKeyRead, replayable_keyRead, and_iff_right rfl]
    refine equal_self_iff ?_
    rw [← isImage]
    exact PyValue.plain_ofJson tree
  · rw [Envelope.event, Envelope.equal_withKeyRead, Envelope.eventWith, Bool.and_eq_true]
    dsimp only
    rw [frozen, frozen, ← isImage, replayable_deepFreeze]
    refine and_congr_right fun _ => ?_
    change EventStore.equal (held false (.dict envelope.payload)) _ = true ↔ _
    exact equal_image_iff distinct built

theorem Ascending.above {eventId : Nat} {log : List LogEntry}
    (ascending : Ascending (some eventId) log) : ∀ entry ∈ log, eventId < entry.eventId := by
  induction log generalizing eventId with
  | nil => simp
  | cons entry log ih =>
      have first := ascending.1 eventId rfl
      rw [List.forall_mem_cons]
      exact ⟨first, fun other later => Nat.lt_trans first (ih ascending.2 other later)⟩

theorem Ascending.nodup {last : Option Nat} {log : List LogEntry} (ascending : Ascending last log) :
    (log.map LogEntry.eventId).Nodup := by
  induction log generalizing last with
  | nil => exact List.nodup_nil
  | cons entry log ih =>
      refine List.nodup_cons.mpr ⟨fun member => ?_, ih ascending.2⟩
      obtain ⟨other, isLater, same⟩ := List.mem_map.mp member
      have above := ascending.2.above other isLater
      omega

structure Recalls (store : Store) (log : List LogEntry) : Prop where
  consistent : Consistent store log
  origins : List.Forall₂ Origin store.events (logEvents log)

/-- The event is in memory and is equal to the one under its id in the reopened store. -/
def AgreesOnReopening (store : Store) (event : Event) : Prop :=
  ∃ held reopened readBack, Dict.get? store.byId event.eventId = some held ∧
    openStore store.file.content = .ok reopened ∧
    Dict.get? reopened.byId event.eventId = some readBack ∧
    event.equal readBack = true ∧ held.equal readBack = true

variable {store : Store} {log : List LogEntry}

theorem Recalls.agrees_iff (recalls : Recalls store log) {event : Event}
    (member : event ∈ store.events) :
    AgreesOnReopening store event ↔ event.replayable = true := by
  obtain ⟨consistent, origins⟩ := recalls
  obtain ⟨reopened, opens, reopenedConsistent, events, _⟩ := consistent.reopen
  obtain ⟨stored, isStored, origin⟩ := exists_of_forall₂_left origins member
  have sameId : stored.eventId = event.eventId := by
    obtain ⟨envelope, eventId, payload, _, _, rfl, rfl | rfl⟩ := origin
    · rfl
    · rfl
  have ids := consistent.ascending.nodup
  have inMemory : Dict.get? store.byId event.eventId = some event := by
    rw [consistent.byId]
    exact indexById_get? (by rw [consistent.eventIds]; exact ids) member
  have inReopened : Dict.get? reopened.byId event.eventId = some stored := by
    rw [reopenedConsistent.byId, ← sameId]
    refine indexById_get? (by rw [reopenedConsistent.eventIds]; exact ids) ?_
    rw [events]
    exact isStored
  rw [← origin.equal_iff]
  constructor
  · rintro ⟨held, other, readBack, _, opensToo, isRead, same, _⟩
    rw [opens] at opensToo
    cases opensToo
    rw [inReopened] at isRead
    cases isRead
    exact same
  · exact fun same => ⟨event, reopened, stored, inMemory, opens, inReopened, same, same⟩

theorem Recalls.written (recalls : Recalls store log) {call : AppendCall}
    (distinct : Distinct (.dict call.payload)) {now : String} {record : Bytes}
    (writes : recordToWrite store call now = some record) :
    ∃ entry : LogEntry, Recalls
      (store.record (store.file.appended record) ((call.envelope now).event store.nextEventId)
        call.idempotencyKey) (log ++ [entry]) := by
  obtain ⟨entry, rfl, sameId, stored⟩ := recordToWrite_entry writes
  refine ⟨entry, recalls.consistent.record sameId stored, ?_⟩
  rw [logEvents_append]
  refine List.rel_append recalls.origins (.cons ?_ .nil)
  obtain ⟨payload, read, isEvent⟩ := Option.map_eq_some_iff.mp stored
  exact ⟨call.envelope now, store.nextEventId, payload, distinct, read, isEvent.symm, Or.inr rfl⟩

/-- The file of the world holds the log, and each event in memory or in the file has an
origin. -/
def World.Recalls (world : World) (log : List LogEntry) : Prop :=
  world.Holds log ∧ (∀ stored ∈ logEvents log, Origin stored stored) ∧
    ∀ store, world = .running store → List.Forall₂ Origin store.events (logEvents log)

def Step.WellFormed : Step → Prop
  | .append call _ _ => Distinct (.dict call.payload)
  | .crash call _ _ => Distinct (.dict call.payload)
  | .reopen => True

theorem World.Recalls.of_running (recalls : EventStore.Recalls store log) :
    (World.running store).Recalls log := by
  refine ⟨recalls.consistent, fun stored member => ?_, fun other same => ?_⟩
  · obtain ⟨event, _, origin⟩ := exists_of_forall₂_right recalls.origins member
    exact origin.stored
  · cases same
    exact recalls.origins

theorem World.Recalls.running (recalls : (World.running store).Recalls log) :
    EventStore.Recalls store log :=
  ⟨recalls.1, recalls.2.2 store rfl⟩

theorem Recalls.crashed (recalls : Recalls store log) {call : AppendCall}
    (distinct : Distinct (.dict call.payload)) (now : String) (kept : Nat) :
    ∃ log', ((World.running store).step (.crash call now kept)).1.Recalls log' := by
  have stopped : ∀ {content : Bytes}, (World.stopped content).Holds log →
      (World.stopped content).Recalls log := fun holds =>
    ⟨holds, (World.Recalls.of_running recalls).2.1, fun _ impossible => by cases impossible⟩
  have index := recalls.consistent.logIndex
  have unwritten : (World.stopped store.file.content).Recalls log :=
    stopped ⟨recalls.consistent.ascending, index, Or.inl recalls.consistent.content⟩
  simp only [World.step]
  cases writes : recordToWrite store call now with
  | none =>
      refine ⟨log, ?_⟩
      simpa using unwritten
  | some record =>
      obtain ⟨entry, recorded⟩ := recalls.written distinct writes
      obtain ⟨added, isAdded, sameId, stored⟩ := recordToWrite_entry writes
      subst isAdded
      rw [Option.getD_some]
      by_cases whole : added.recordBytes.length ≤ kept
      · refine ⟨log ++ [entry], ⟨recorded.consistent.ascending, recorded.consistent.logIndex,
          Or.inl ?_⟩, (World.Recalls.of_running recorded).2.1, fun _ impossible => by
          cases impossible⟩
        have content := recorded.consistent.content
        rw [Store.record, LogFile.appended_content] at content
        rw [List.take_of_length_le whole, content]
      · by_cases nothing : kept = 0
        · refine ⟨log, ?_⟩
          subst nothing
          simpa using unwritten
        · exact ⟨log, stopped ⟨recalls.consistent.ascending, index,
            Or.inr ⟨added, kept, by omega, by omega, by rw [recalls.consistent.content]⟩⟩⟩

private theorem step_recalls {world : World} (recalls : world.Recalls log) {step : Step}
    (wellFormed : step.WellFormed) : ∃ log', (world.step step).1.Recalls log' := by
  cases world with
  | running store =>
      cases step with
      | append call now counts =>
          simp only [World.step]
          cases writes : recordToWrite store call now with
          | none =>
              rw [(append_answered writes (shortWrites counts)).1]
              exact ⟨log, recalls⟩
          | some record =>
              rw [append_written writes (shortWrites_fail counts _)]
              obtain ⟨entry, recorded⟩ := recalls.running.written wellFormed writes
              exact ⟨_, .of_running recorded⟩
      | crash call now kept => exact recalls.running.crashed wellFormed now kept
      | reopen => exact ⟨log, recalls⟩
  | stopped content =>
      cases step with
      | append call now counts => exact ⟨log, recalls⟩
      | crash call now kept => exact ⟨log, recalls⟩
      | reopen =>
          obtain ⟨holds, origins, _⟩ := recalls
          obtain ⟨store, opens, consistent, events⟩ := World.Holds.opens holds
          simp only [World.content] at opens
          simp only [World.step, opens]
          refine ⟨log, .of_running ⟨consistent, ?_⟩⟩
          rw [events]
          exact List.forall₂_same.mpr origins

private theorem runSteps_recalls {world : World} (recalls : world.Recalls log) {steps : List Step}
    (wellFormed : ∀ step ∈ steps, step.WellFormed) :
    ∃ log', (runSteps world steps).1.Recalls log' := by
  induction steps generalizing world log with
  | nil => exact ⟨log, recalls⟩
  | cons step steps ih =>
      obtain ⟨first, rest⟩ := List.forall_mem_cons.mp wellFormed
      obtain ⟨middle, middleRecalls⟩ := step_recalls recalls first
      exact ih middleRecalls rest

private theorem stopped_empty_recalls : (World.stopped []).Recalls [] :=
  ⟨⟨trivial, ⟨[], rfl⟩, Or.inl rfl⟩, by simp, fun _ impossible => by cases impossible⟩

/-- Whether the event that an append answers with comes back: the event under the key, as it
is in memory, or else the key and the payload that are passed. -/
def answerReplayable (store : Store) (call : AppendCall) : Bool :=
  match storedUnder store call.idempotencyKey with
  | some (.ok known) => known.replayable
  | _ => replayable true (optionalText call.idempotencyKey) && replayable false (.dict call.payload)

/-- In every state that appends, crashes and reopenings lead to from an empty file, the
event that an append answers with and the one in memory are equal to what is read back
exactly when its key and its payload come back. -/
theorem append_agrees_iff {steps : List Step} (wellFormed : ∀ step ∈ steps, step.WellFormed)
    {store : Store} (reached : (runSteps (.stopped []) steps).1 = .running store)
    {call : AppendCall} (distinct : Distinct (.dict call.payload)) {now : String} {faults : Faults}
    {event : Event} {after : Store} (accepted : append store call now faults = (.ok event, after)) :
    AgreesOnReopening after event ↔ answerReplayable store call = true := by
  obtain ⟨log, recallsWorld⟩ := runSteps_recalls stopped_empty_recalls wellFormed
  rw [reached] at recallsWorld
  have recalls := recallsWorld.running
  cases writes : recordToWrite store call now with
  | none =>
      obtain ⟨unchanged, answer⟩ := append_answered writes faults
      rw [accepted] at unchanged answer
      dsimp only at unchanged answer
      subst unchanged
      obtain ⟨key, eventId, keyed, indexed, found⟩ := answer event rfl
      have isKnown : storedUnder after call.idempotencyKey = some (.ok event) := by
        simp only [storedUnder, keyed, indexed, found]
      rw [recalls.consistent.byId] at found
      rw [answerReplayable, isKnown]
      exact recalls.agrees_iff (indexById_mem found)
  | some record =>
      have succeeds : faults.fail record.length = false := by
        by_contra fails
        obtain ⟨error, failed⟩ := append_failed writes (Bool.eq_true_of_not_eq_false fails)
        rw [accepted] at failed
        cases failed
      rw [append_written writes succeeds] at accepted
      obtain ⟨isEvent, rfl⟩ := Prod.mk.inj accepted
      cases isEvent
      obtain ⟨entry, recorded⟩ := recalls.written distinct writes
      have unknown : storedUnder store call.idempotencyKey = none := by
        unfold recordToWrite at writes
        split at writes
        · cases writes
        · rename_i passes
          simp only [Bool.or_eq_true, not_or, Bool.not_eq_true, Option.isSome_eq_false_iff,
            Option.isNone_iff_eq_none] at passes
          exact passes.2
      rw [answerReplayable, unknown]
      refine (recorded.agrees_iff (List.mem_append_right _ (List.mem_singleton_self _))).trans ?_
      have frozen := replayable_deepFreeze (.dict call.payload)
      rw [deepFreeze] at frozen
      rw [Event.replayable, Envelope.event, Envelope.eventWith, AppendCall.envelope]
      dsimp only
      rw [frozen]

def numberedCall : AppendCall :=
  { eventType := .systemStarted
    payload := [(.str "levels", .dict [(.int 1, .str "a")])]
    idempotencyKey := none
    schemaVersion := 1 }

private theorem numberedCall_distinct : Distinct (.dict numberedCall.payload) := by
  simp [numberedCall, Distinct, DistinctEntries]

private theorem emptyStore_reached : (runSteps (.stopped []) [.reopen]).1 = .running emptyStore := rfl

private theorem numberedCall_accepted : ∃ record,
    recordToWrite emptyStore numberedCall "" = some record ∧
    append emptyStore numberedCall "" Faults.none =
      (.ok ((numberedCall.envelope "").event 1),
        emptyStore.record (emptyStore.file.appended record) ((numberedCall.envelope "").event 1)
          none) := by
  have written : (recordToWrite emptyStore numberedCall "").isSome = true := by decide +kernel
  obtain ⟨record, writes⟩ := Option.isSome_iff_exists.mp written
  exact ⟨record, writes, append_written writes (by
    simp [Faults.fail, Faults.none, writesFail, bytesWritten])⟩

/-- The event with the key `1` is accepted, and read back with the key `"1"`. -/
theorem numberedCall_disagrees : ∃ event after,
    append emptyStore numberedCall "" Faults.none = (.ok event, after) ∧
      ¬ AgreesOnReopening after event := by
  obtain ⟨record, writes, accepted⟩ := numberedCall_accepted
  refine ⟨_, _, accepted, ?_⟩
  have steps : ∀ step ∈ [Step.reopen], step.WellFormed := by simp [Step.WellFormed]
  obtain ⟨log, recalls⟩ := runSteps_recalls stopped_empty_recalls steps
  rw [emptyStore_reached] at recalls
  obtain ⟨entry, recorded⟩ := recalls.running.written numberedCall_distinct writes
  have member : (numberedCall.envelope "").event 1 ∈
      (emptyStore.record (emptyStore.file.appended record) ((numberedCall.envelope "").event 1)
        none).events := List.mem_append_right _ (List.mem_singleton_self _)
  intro agrees
  have replays := (recorded.agrees_iff member).mp agrees
  simp [numberedCall, AppendCall.envelope, Envelope.event, Envelope.eventWith, deepFreezeEntries,
    deepFreeze, Event.replayable, replayable, replayableEntries, isText] at replays

theorem append_agrees_iff_numberedCall : ∃ event after,
    AgreesOnReopening after event ↔ answerReplayable emptyStore numberedCall = true := by
  obtain ⟨record, writes, accepted⟩ := numberedCall_accepted
  exact ⟨_, _, append_agrees_iff (by simp [Step.WellFormed]) emptyStore_reached
    numberedCall_distinct accepted⟩

end TurtleExecution.EventStore
