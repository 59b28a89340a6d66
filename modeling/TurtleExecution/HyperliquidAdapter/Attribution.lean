/-
No run of the mapping attributes a token to the wrong order.

Every mapping event of the account carries a token minted from its id, under the key
of that token.  The store keeps one event for a key, so a token has one id in the
log, whatever was minted; the two dictionaries only ever hold pairs of the log.
-/

import TurtleExecution.HyperliquidAdapter.Codec
import TurtleExecution.HyperliquidAdapter.Mapping

set_option autoImplicit false

namespace TurtleExecution.HyperliquidAdapter

open ExchangeAdapter SharedStore Process

section

variable {Stored : Type} [Source Stored Payload] {mint : String → String} {account : String}

def Recorded (account : String) (log : Log Stored) (clientOrderId token : String) : Prop :=
  ∃ event ∈ log.entries, ∃ payload, own? account event = some payload ∧
    payload.clientOrderId = clientOrderId ∧ payload.venueClientId = token

/-- The account's mapping events are minted and keyed, and the dictionaries are
inverse to each other and hold pairs of the log. -/
structure Sound (mint : String → String) (account : String) (log : Log Stored) (maps : Maps) :
    Prop where
  minted : ∀ event ∈ log.entries, ∀ payload, own? account event = some payload →
    payload.venueClientId = mint payload.clientOrderId ∧
      event.idempotencyKey = some (tokenKey account payload.venueClientId)
  inverse : Dict.Inverse maps.cidToToken maps.tokenToCid
  recorded : ∀ clientOrderId token, maps.knownToken clientOrderId = some token →
    Recorded account log clientOrderId token

private theorem sound_empty : Sound mint account (Ledger.empty : Log Stored) Maps.empty :=
  { minted := fun event member => (List.not_mem_nil member).elim
    inverse := Dict.inverse_nil
    recorded := fun clientOrderId token known => by cases known }

variable {log : Log Stored} {maps : Maps}

theorem Sound.unique (sound : Sound mint account log maps)
    {clientOrderId other token otherToken : String}
    (recorded : Recorded account log clientOrderId token)
    (recordedOther : Recorded account log other otherToken) :
    clientOrderId = other ↔ token = otherToken := by
  obtain ⟨event, member, payload, own, rfl, rfl⟩ := recorded
  obtain ⟨event', member', payload', own', rfl, rfl⟩ := recordedOther
  obtain ⟨minted, keyed⟩ := sound.minted event member payload own
  obtain ⟨minted', keyed'⟩ := sound.minted event' member' payload' own'
  constructor
  · intro sameId
    rw [minted, minted', sameId]
  · intro sameToken
    rw [sameToken] at keyed
    have sameEvent := log.eq_of_key member member' keyed keyed'
    rw [sameEvent, own', Option.some.injEq] at own
    rw [own]

theorem Sound.apply (sound : Sound mint account log maps) {event : Event Stored} {payload : Payload}
    (member : event ∈ log.entries) (own : own? account event = some payload) :
    Sound mint account log (maps.apply payload) := by
  have recorded : Recorded account log payload.clientOrderId payload.venueClientId :=
    ⟨event, member, payload, own, rfl, rfl⟩
  unfold Maps.apply
  by_cases blank : payload.clientOrderId = "" ∨ payload.venueClientId = ""
  · rw [if_pos blank]
    exact sound
  · rw [if_neg blank]
    refine { minted := sound.minted, inverse := ?_, recorded := ?_ }
    · refine sound.inverse.set (fun known mapped => ?_) (fun known mapped => ?_)
      · exact (sound.unique (sound.recorded _ _ mapped) recorded).mp rfl
      · have back := (sound.inverse known payload.venueClientId).mpr mapped
        exact (sound.unique (sound.recorded _ _ back) recorded).mpr rfl
    · intro clientOrderId token known
      change Dict.get? (Dict.set _ _ _) _ = _ at known
      rw [Dict.get?_set] at known
      by_cases same : clientOrderId = payload.clientOrderId
      · rw [if_pos same, Option.some.injEq] at known
        rw [same, ← known]
        exact recorded
      · rw [if_neg same] at known
        exact sound.recorded clientOrderId token known

theorem Sound.replay (sound : Sound mint account log maps) {events : List (Event Stored)}
    (members : ∀ event ∈ events, event ∈ log.entries) :
    Sound mint account log (events.foldl (applyOwn account) maps) := by
  induction events generalizing maps with
  | nil => exact sound
  | cons event events ih =>
      refine ih ?_ fun other member => members other (List.mem_cons_of_mem _ member)
      unfold applyOwn
      cases own : own? account event with
      | none => exact sound
      | some payload => exact sound.apply (members event List.mem_cons_self) own

theorem Sound.construct {maps rebuilt : Maps} (sound : Sound mint account log maps)
    (constructed : construct account log = .ok rebuilt) : Sound mint account log rebuilt := by
  unfold HyperliquidAdapter.construct at constructed
  by_cases blank : PyText.isBlank account = true
  · rw [if_pos blank] at constructed
    cases constructed
  · rw [if_neg blank] at constructed
    cases constructed
    have nothing : Sound mint account log Maps.empty :=
      { minted := sound.minted
        inverse := Dict.inverse_nil
        recorded := fun clientOrderId token known => by cases known }
    exact nothing.replay fun event member => member

/-- An append keeps the mapping sound if its event is not the account's, or carries
its minted token under the key of the token. -/
theorem Sound.append (sound : Sound mint account log maps) {eventType : EventType}
    {payload : Stored} {key : Option String} {now : String}
    (minted : ∀ own, (Source.own? payload).filter
        (fun payload : Payload => payload.account = account ∧ payload.action = action) = some own →
      own.venueClientId = mint own.clientOrderId ∧
        key = some (tokenKey account own.venueClientId)) :
    Sound mint account (log.append eventType payload key now).2 maps := by
  rcases Log.append_cases log eventType payload key now with same | ⟨_, entries⟩
  · rw [same]
    exact sound
  · refine { minted := ?_, inverse := sound.inverse, recorded := ?_ }
    · intro event member own isOwn
      rw [entries] at member
      rcases List.mem_append.mp member with old | new
      · exact sound.minted event old own isOwn
      · rw [List.mem_singleton.mp new] at isOwn ⊢
        exact minted own isOwn
    · intro clientOrderId token known
      obtain ⟨event, member, found⟩ := sound.recorded clientOrderId token known
      exact ⟨event, (Log.extends_append log eventType payload key now).mem member, found⟩

private theorem own_mappingPayload {clientOrderId token : String} {own : Payload}
    (isOwn : ((Source.own? (Source.wrap (mappingPayload account clientOrderId token) : Stored)).filter fun payload : Payload =>
      payload.account = account ∧ payload.action = action) = some own) :
    own = mappingPayload account clientOrderId token := by
  rw [Source.own?_wrap, Option.filter_eq_some_iff, Option.some.injEq] at isOwn
  exact isOwn.1.symm

inductive RecordEnds (mint : String → String) (account clientOrderId : String)
    (host : Host Stored Maps) : Outcome MappingError String × Host Stored Maps → Prop
  | known (token : String) (mapped : host.memory.knownToken clientOrderId = some token) :
      RecordEnds mint account clientOrderId host (.returned token, host)
  | crashed (dies : (host.environment host.clock).crash = true) :
      RecordEnds mint account clientOrderId host (.crashed, { host with clock := host.clock + 1 })
  | failed (failure : StoreFailure)
      (fails : (host.environment host.clock).appendFailure = some failure) :
      RecordEnds mint account clientOrderId host
        (.raised (.store failure), { host with clock := host.clock + 1 })
  | answered (lives : (host.environment host.clock).crash = false)
      (appends : (host.environment host.clock).appendFailure = none) (event : Event Stored)
      (log : Log Stored)
      (appended : host.log.append .orderSubmitted
        (Source.wrap (mappingPayload account clientOrderId (mint clientOrderId)))
        (some (tokenKey account (mint clientOrderId))) (host.environment host.clock).now =
          (event, log)) :
      RecordEnds mint account clientOrderId host
        (accept account clientOrderId event { host with clock := host.clock + 1, log })

private theorem record_ends (mint : String → String) (account clientOrderId : String)
    (host : Host Stored Maps) :
    RecordEnds mint account clientOrderId host (record mint account clientOrderId host) := by
  cases mapped : host.memory.knownToken clientOrderId with
  | some token =>
      have ran : record mint account clientOrderId host = (.returned token, host) := by
        simp [record, Process.get, Bind.bind, Process.bind, mapped, Pure.pure]
      rw [ran]
      exact .known token mapped
  | none =>
      cases dies : (host.environment host.clock).crash with
      | true =>
          have ran : record mint account clientOrderId host =
              (.crashed, { host with clock := host.clock + 1 }) := by
            simp [record, append, Journal.consult, Process.get, Process.modify, Bind.bind,
              Process.bind, mapped, dies, Process.crash]
          rw [ran]
          exact .crashed dies
      | false =>
          cases fails : (host.environment host.clock).appendFailure with
          | some failure =>
              have ran : record mint account clientOrderId host =
                  (.raised (.store failure), { host with clock := host.clock + 1 }) := by
                simp [record, append, Journal.consult, Process.get, Process.modify, Bind.bind,
                  Process.bind, mapped, dies, fails, Process.raise, Pure.pure]
              rw [ran]
              exact .failed failure fails
          | none =>
              rcases appended : host.log.append .orderSubmitted
                (Source.wrap (mappingPayload account clientOrderId (mint clientOrderId)))
                (some (tokenKey account (mint clientOrderId)))
                (host.environment host.clock).now with ⟨event, log⟩
              have ran : record mint account clientOrderId host =
                  accept account clientOrderId event
                    { host with clock := host.clock + 1, log } := by
                simp [record, append, Journal.consult, Process.get, Process.modify, Bind.bind,
                  Process.bind, mapped, dies, fails, Pure.pure, appended]
              rw [ran]
              exact .answered dies fails event log appended

/-- How the answer of the store is taken: it is refused and nothing changes, or it
is the mapping of this id, which is applied. -/
theorem accept_cases (account clientOrderId : String) (event : Event Stored)
    (host : Host Stored Maps) :
    (∃ error, accept account clientOrderId event host = (.raised error, host)) ∨
      ∃ stored, own? account event = some stored ∧ stored.clientOrderId = clientOrderId ∧
        accept account clientOrderId event host =
          (.returned stored.venueClientId, { host with memory := host.memory.apply stored }) := by
  unfold accept
  cases own : own? account event with
  | none => exact Or.inl ⟨_, rfl⟩
  | some stored =>
      by_cases same : stored.clientOrderId = clientOrderId
      · by_cases blank : stored.venueClientId = ""
        · refine Or.inl ⟨.noVenueClientId, ?_⟩
          simp only [ne_eq, same, not_true_eq_false, if_false, blank, if_true]
          rfl
        · refine Or.inr ⟨stored, rfl, same, ?_⟩
          simp only [ne_eq, same, not_true_eq_false, if_false, blank]
          rfl
      · refine Or.inl ⟨.keyCollision, ?_⟩
        simp only [ne_eq, same, not_false_eq_true, if_true]
        rfl

omit [Source Stored Payload] in
private theorem mem_of_append {log after : Log Stored} {eventType : EventType} {payload : Stored}
    {key now : String} {event : Event Stored}
    (appended : log.append eventType payload (some key) now = (event, after)) :
    event ∈ after.entries := by
  cases stored : log.getByIdempotencyKey key with
  | some known =>
      rw [Log.append_of_stored stored, Prod.mk.injEq] at appended
      obtain ⟨rfl, rfl⟩ := appended
      exact (Log.getByIdempotencyKey_eq_some_iff.mp stored).1
  | none =>
      obtain ⟨answered, entries⟩ := Log.append_of_fresh stored eventType payload now
      rw [appended] at answered entries
      dsimp only at answered entries
      rw [entries, answered]
      exact List.mem_append_right _ (List.mem_singleton_self _)

theorem Sound.record {host : Host Stored Maps} (sound : Sound mint account host.log host.memory)
    (clientOrderId : String) :
    Sound mint account (record mint account clientOrderId host).2.log
      (record mint account clientOrderId host).2.memory := by
  have ends := record_ends mint account clientOrderId host
  generalize HyperliquidAdapter.record mint account clientOrderId host = ran at ends
  cases ends with
  | known token mapped => exact sound
  | crashed dies => exact sound
  | failed failure fails => exact sound
  | answered lives appends event log appended =>
      have after : Sound mint account log host.memory := by
        have grown : Sound mint account (host.log.append .orderSubmitted
            (Source.wrap (mappingPayload account clientOrderId (mint clientOrderId)))
            (some (tokenKey account (mint clientOrderId)))
            (host.environment host.clock).now).2 host.memory := by
          refine sound.append fun own isOwn => ?_
          rw [own_mappingPayload isOwn]
          exact ⟨rfl, rfl⟩
        rwa [appended] at grown
      rcases accept_cases account clientOrderId event
          { host with clock := host.clock + 1, log } with ⟨error, refused⟩ | ⟨stored, own, _, taken⟩
      · rw [refused]
        exact after
      · rw [taken]
        exact after.apply (mem_of_append appended) own

theorem System.sound_step {system : System Stored} (step : Step account Stored)
    (sound : Sound mint account system.host.log system.host.memory) :
    Sound mint account (system.step mint step).host.log (system.step mint step).host.memory := by
  obtain ⟨host, alive⟩ := system
  cases step with
  | record clientOrderId =>
      cases alive with
      | false => exact sound
      | true =>
          have kept := sound.record clientOrderId
          unfold System.step
          dsimp only at kept ⊢
          rw [if_pos rfl]
          rcases ran : HyperliquidAdapter.record mint account clientOrderId host with
            ⟨outcome, after⟩
          rw [ran] at kept
          cases outcome <;> exact kept
  | foreign added =>
      refine Sound.append sound fun own isOwn => ?_
      rw [added.notOwn] at isOwn
      cases isOwn
  | kill => exact sound
  | restart =>
      unfold System.step
      dsimp only
      cases constructed : HyperliquidAdapter.construct account host.log with
      | error error => exact sound
      | ok rebuilt => exact sound.construct constructed

theorem System.sound_run (mint : String → String) (environment : Nat → StoreAnswer)
    (steps : List (Step account Stored)) :
    Sound mint account ((System.start environment).run mint steps).host.log
      ((System.start environment).run mint steps).host.memory := by
  induction steps using List.reverseRecOn with
  | nil => exact sound_empty
  | append_singleton steps step ih =>
      rw [System.run, List.foldl_append]
      exact System.sound_step step ih

def Conflicting (account : String) (log : Log Stored) (clientOrderId token : String) : Prop :=
  ∃ event ∈ log.entries, event.idempotencyKey = some (tokenKey account token) ∧
    ∀ payload, own? account event = some payload → payload.clientOrderId ≠ clientOrderId

theorem Sound.conflicting (sound : Sound mint account log maps) {clientOrderId other token : String}
    (different : other ≠ clientOrderId) (resolved : maps.resolve token = some other) :
    Conflicting account log clientOrderId token := by
  obtain ⟨event, member, payload, own, sameId, sameToken⟩ :=
    sound.recorded other token ((sound.inverse other token).mpr resolved)
  obtain ⟨_, keyed⟩ := sound.minted event member payload own
  refine ⟨event, member, sameToken ▸ keyed, fun found isFound => ?_⟩
  rw [own, Option.some.injEq] at isFound
  rw [← isFound, sameId]
  exact different

theorem Sound.unknown_of_conflicting (sound : Sound mint account log maps) {clientOrderId : String}
    (conflict : Conflicting account log clientOrderId (mint clientOrderId)) :
    maps.knownToken clientOrderId = none := by
  cases known : maps.knownToken clientOrderId with
  | none => rfl
  | some token =>
      obtain ⟨event, member, payload, own, sameId, sameToken⟩ := sound.recorded _ _ known
      obtain ⟨minted, keyed⟩ := sound.minted event member payload own
      obtain ⟨stored, isStored, storedKey, otherId⟩ := conflict
      rw [minted, sameId] at keyed
      have sameEvent := log.eq_of_key member isStored keyed storedKey
      exact absurd sameId (otherId payload (sameEvent ▸ own))

/-- A recording in conflict never returns, and changes neither dictionary; it raises
the collision unless the process dies or the store fails. -/
theorem Sound.record_conflicting {host : Host Stored Maps}
    (sound : Sound mint account host.log host.memory) {clientOrderId : String}
    (conflict : Conflicting account host.log clientOrderId (mint clientOrderId)) :
    (∀ token, (HyperliquidAdapter.record mint account clientOrderId host).1 ≠ .returned token) ∧
      (HyperliquidAdapter.record mint account clientOrderId host).2.memory = host.memory ∧
      ((host.environment host.clock).crash = false →
        (host.environment host.clock).appendFailure = none →
        (HyperliquidAdapter.record mint account clientOrderId host).1 = .raised .keyCollision) := by
  have unknown := sound.unknown_of_conflicting conflict
  have ends := record_ends mint account clientOrderId host
  generalize HyperliquidAdapter.record mint account clientOrderId host = ran at ends
  cases ends with
  | known token mapped =>
      rw [unknown] at mapped
      cases mapped
  | crashed dies =>
      refine ⟨fun token returned => (by cases returned), rfl, fun lives _ => ?_⟩
      rw [dies] at lives
      cases lives
  | failed failure fails =>
      refine ⟨fun token returned => (by cases returned), rfl, fun _ appends => ?_⟩
      rw [fails] at appends
      cases appends
  | answered lives appends event log appended =>
      obtain ⟨stored, isStored, storedKey, otherId⟩ := conflict
      have lookup := Log.getByIdempotencyKey_eq_some_iff.mpr ⟨isStored, storedKey⟩
      rw [Log.append_of_stored lookup, Prod.mk.injEq] at appended
      obtain ⟨rfl, rfl⟩ := appended
      have refused : accept account clientOrderId stored { host with clock := host.clock + 1 } =
          (.raised .keyCollision, { host with clock := host.clock + 1 }) := by
        unfold accept
        cases own : own? account stored with
        | none => rfl
        | some payload =>
            dsimp only
            rw [if_pos (otherId payload own)]
            rfl
      rw [refused]
      exact ⟨fun token returned => (by cases returned), rfl, fun _ _ => rfl⟩

private theorem record_raised (mint : String → String) (account clientOrderId : String)
    (host : Host Stored Maps) {error : MappingError}
    (raised : (HyperliquidAdapter.record mint account clientOrderId host).1 = .raised error) :
    (HyperliquidAdapter.record mint account clientOrderId host).2.memory = host.memory := by
  have ends := record_ends mint account clientOrderId host
  generalize HyperliquidAdapter.record mint account clientOrderId host = ran at ends raised
  cases ends with
  | known token mapped => rfl
  | crashed dies => rfl
  | failed failure fails => rfl
  | answered lives appends event log appended =>
      rcases accept_cases account clientOrderId event
          { host with clock := host.clock + 1, log } with ⟨refusal, refused⟩ | ⟨stored, _, _, taken⟩
      · rw [refused]
      · rw [taken] at raised
        cases raised

end

theorem mem_of_parseEntries {Entry Item : Type} {parse : Entry → Except CallError (Option Item)}
    {entries : List Entry} {items : List Item} (parsed : parseEntries parse entries = .ok items)
    {item : Item} (member : item ∈ items) : ∃ entry ∈ entries, parse entry = .ok (some item) := by
  induction entries generalizing items with
  | nil =>
      cases parsed
      cases member
  | cons entry entries ih =>
      obtain ⟨first, made, parsed⟩ := ok_of_bind parsed
      obtain ⟨rest, madeRest, parsed⟩ := ok_of_bind parsed
      cases parsed
      rcases List.mem_append.mp member with here | later
      · rw [Option.mem_toList] at here
        exact ⟨entry, List.mem_cons_self, by rw [made, here]⟩
      · obtain ⟨other, isEntry, madeOther⟩ := ih madeRest later
        exact ⟨other, List.mem_cons_of_mem _ isEntry, madeOther⟩

/-- Every item is parsed from an entry of its own: the items are, in order, those of the entries
that are not left out. -/
theorem forall₂_of_parseEntries {Entry Item : Type} {parse : Entry → Except CallError (Option Item)}
    {isKept : Entry → Bool} {IsOf : Entry → Item → Prop}
    (left_out : ∀ entry, parse entry = .ok none → isKept entry = false)
    (kept : ∀ entry item, parse entry = .ok (some item) → isKept entry = true ∧ IsOf entry item)
    {entries : List Entry} {items : List Item} (parsed : parseEntries parse entries = .ok items) :
    List.Forall₂ IsOf (entries.filter isKept) items := by
  induction entries generalizing items with
  | nil =>
      cases parsed
      exact .nil
  | cons entry entries ih =>
      obtain ⟨first, made, parsed⟩ := ok_of_bind parsed
      obtain ⟨rest, madeRest, parsed⟩ := ok_of_bind parsed
      cases parsed
      cases first with
      | none =>
          rw [List.filter_cons_of_neg (Bool.eq_false_iff.mp (left_out entry made))]
          exact ih madeRest
      | some item =>
          obtain ⟨isKept_entry, isOf⟩ := kept entry item made
          rw [List.filter_cons_of_pos isKept_entry]
          exact .cons isOf (ih madeRest)

def Attributed (resolve : String → Option String) (cloid : Option String) (clientOrderId : String) :
    Prop :=
  ∃ token, cloid = some token ∧ resolve token = some clientOrderId

private theorem engineId_eq_some {resolve : String → Option String} {cloid : Option String}
    {clientOrderId : String} (found : engineId resolve cloid = some clientOrderId) :
    Attributed resolve cloid clientOrderId := by
  obtain ⟨token, isPresent, resolved⟩ := Option.bind_eq_some_iff.mp found
  exact ⟨token, (Option.filter_eq_some_iff.mp isPresent).1, resolved⟩

/-- What the parsers ask of an entry before they read it: its token resolves, and it has a coin
and a side. -/
def isAttributable (resolve : String → Option String) (cloid coin side : Option String) : Bool :=
  (engineId resolve cloid).isSome && (present coin).isSome && (sideOf side).isSome

section

variable {Raw Number : Type}

/-- The order is the one of the entry: it has the id of the entry's token, and every other field
is read off the entry. -/
structure IsOrderOf [Arithmetic Number] (wire : Wire Raw Number) (resolve : String → Option String)
    (entry : OpenOrderEntry Raw) (order : Order Number) : Prop where
  attributed : Attributed resolve entry.cloid order.clientOrderId
  exchangeOrderId : order.exchangeOrderId = entry.oid.map wire.str
  symbol : entry.coin = some order.symbol.value
  side : sideOf entry.side = some order.side
  quantity : wire.number (entry.origSz.getD entry.sz) = some order.quantity
  filledQuantity : ∃ size filled, wire.number entry.sz = some size ∧
    Arithmetic.sub order.quantity size = .ok filled ∧
    (order.filledQuantity = filled ∨ order.filledQuantity = Arithmetic.zero)
  limitPrice : order.limitPrice.map some = entry.limitPx.map wire.number
  status : order.status = .partiallyFilled ∨ order.status = .acknowledged
  reduceOnly : order.reduceOnly = (entry.reduceOnly.map wire.truthy).getD false
  times : wire.time entry.timestamp = some order.createdAtUtc ∧
    order.updatedAtUtc = order.createdAtUtc

structure IsFillOf (wire : Wire Raw Number) (resolve : String → Option String)
    (entry : UserFillEntry Raw) (fill : Fill Number) : Prop where
  attributed : Attributed resolve entry.cloid fill.clientOrderId
  fillId : fill.fillId = wire.str entry.tid
  exchangeOrderId : entry.oid.map wire.str = some fill.exchangeOrderId
  symbol : entry.coin = some fill.symbol.value
  side : sideOf entry.side = some fill.side
  price : wire.number entry.px = some fill.price
  quantity : wire.number entry.sz = some fill.quantity
  fee : wire.number entry.fee = some fill.fee
  timestampUtc : wire.time entry.time = some fill.timestampUtc

variable {wire : Wire Raw Number} {resolve : String → Option String}

private theorem decimal_ok {value : Raw} {fieldName : String} {number : Number}
    (read : decimal wire value fieldName = .ok number) : wire.number value = some number := by
  unfold decimal at read
  split at read
  · rename_i isNumber
    cases read
    exact isNumber
  · cases read

private theorem iso_ok {timestampMs : Raw} {time : String} (read : iso wire timestampMs = .ok time) :
    wire.time timestampMs = some time := by
  unfold iso at read
  split at read
  · rename_i isTime
    cases read
    exact isTime
  · cases read

private theorem symbolOf_ok {coin : String} {symbol : Symbol} (made : symbolOf coin = .ok symbol) :
    symbol.value = coin := by
  unfold symbolOf at made
  split at made
  · cases made
    rfl
  · cases made

private theorem present_eq_some {text : Option String} {value : String}
    (isPresent : present text = some value) : text = some value :=
  (Option.filter_eq_some_iff.mp isPresent).1

private theorem originalSize_ok {entry : OpenOrderEntry Raw} {size original : Number}
    (sized : wire.number entry.sz = some size) (made : originalSize wire entry size = .ok original) :
    wire.number (entry.origSz.getD entry.sz) = some original := by
  unfold originalSize at made
  split at made
  · rename_i isNone
    cases made
    rw [isNone]
    exact sized
  · rename_i origSz isSome
    rw [isSome]
    exact decimal_ok made

private theorem optionalDecimal_ok {value : Option Raw} {fieldName : String} {number : Option Number}
    (read : optionalDecimal wire value fieldName = .ok number) :
    number.map some = value.map wire.number := by
  cases value with
  | none =>
      cases read
      rfl
  | some value =>
      obtain ⟨made, isMade, same⟩ := ok_of_map read
      cases same
      exact congrArg some (decimal_ok isMade).symm

private theorem userFill_isFillOf {entry : UserFillEntry Raw} {clientOrderId coin : String}
    {side : OrderSide} {fill : Fill Number} (found : Attributed resolve entry.cloid clientOrderId)
    (isCoin : entry.coin = some coin) (isSide : sideOf entry.side = some side)
    (made : userFill wire entry clientOrderId coin side = .ok fill) :
    IsFillOf wire resolve entry fill := by
  unfold userFill at made
  split at made
  · cases made
  · rename_i oid isOid
    obtain ⟨symbol, isSymbol, made⟩ := ok_of_bind made
    obtain ⟨price, isPrice, made⟩ := ok_of_bind made
    obtain ⟨quantity, isQuantity, made⟩ := ok_of_bind made
    obtain ⟨fee, isFee, made⟩ := ok_of_bind made
    obtain ⟨timestampUtc, isTime, made⟩ := ok_of_bind made
    cases made
    exact
      { attributed := found
        fillId := rfl
        exchangeOrderId := congrArg (Option.map wire.str) isOid
        symbol := isCoin.trans (congrArg some (symbolOf_ok isSymbol).symm)
        side := isSide
        price := decimal_ok isPrice
        quantity := decimal_ok isQuantity
        fee := decimal_ok isFee
        timestampUtc := iso_ok isTime }

private theorem not_attributable {cloid coin side : Option String}
    (incomplete : ∀ isCoin isSide, present coin = some isCoin → sideOf side = some isSide → False) :
    isAttributable resolve cloid coin side = false := by
  unfold isAttributable
  cases isCoin : present coin with
  | none => rw [Option.isSome_none, Bool.and_false, Bool.false_and]
  | some found =>
      cases isSide : sideOf side with
      | none => rw [Option.isSome_none, Bool.and_false]
      | some way => exact (incomplete found way isCoin isSide).elim

private theorem parseUserFill_left_out {entry : UserFillEntry Raw}
    (parsed : parseUserFill wire resolve entry = .ok none) :
    isAttributable resolve entry.cloid entry.coin entry.side = false := by
  unfold parseUserFill at parsed
  split at parsed
  · rename_i notFound
    rw [isAttributable, notFound]
    rfl
  · split at parsed
    · obtain ⟨made, _, same⟩ := ok_of_map parsed
      cases same
    · rename_i incomplete
      exact not_attributable incomplete

private theorem parseUserFill_kept {entry : UserFillEntry Raw} {fill : Fill Number}
    (parsed : parseUserFill wire resolve entry = .ok (some fill)) :
    isAttributable resolve entry.cloid entry.coin entry.side = true ∧
      IsFillOf wire resolve entry fill := by
  unfold parseUserFill at parsed
  unfold isAttributable
  split at parsed
  · cases parsed
  · rename_i clientOrderId found
    split at parsed
    · rename_i coin side isCoin isSide
      obtain ⟨made, isMade, same⟩ := ok_of_map parsed
      cases same
      rw [found, isCoin, isSide]
      exact ⟨rfl, userFill_isFillOf (engineId_eq_some found) (present_eq_some isCoin) isSide isMade⟩
    · cases parsed

variable [Arithmetic Number]

private theorem openOrder_isOrderOf {entry : OpenOrderEntry Raw} {clientOrderId coin : String}
    {side : OrderSide} {order : Order Number}
    (found : Attributed resolve entry.cloid clientOrderId) (isCoin : entry.coin = some coin)
    (isSide : sideOf entry.side = some side)
    (made : openOrder wire entry clientOrderId coin side = .ok order) :
    IsOrderOf wire resolve entry order := by
  obtain ⟨size, isSize, made⟩ := ok_of_bind made
  obtain ⟨original, isOriginal, made⟩ := ok_of_bind made
  obtain ⟨filled, isFilled, made⟩ := ok_of_bind made
  obtain ⟨time, isTime, made⟩ := ok_of_bind made
  obtain ⟨symbol, isSymbol, made⟩ := ok_of_bind made
  obtain ⟨notNegative, _, made⟩ := ok_of_bind made
  obtain ⟨limitPrice, isLimit, made⟩ := ok_of_bind made
  obtain ⟨positive, _, made⟩ := ok_of_bind made
  cases made
  exact
    { attributed := found
      exchangeOrderId := rfl
      symbol := isCoin.trans (congrArg some (symbolOf_ok isSymbol).symm)
      side := isSide
      quantity := originalSize_ok (decimal_ok isSize) isOriginal
      filledQuantity := by
        refine ⟨size, filled, decimal_ok isSize, ok_of_mapError isFilled, ?_⟩
        cases notNegative with
        | false => exact .inr rfl
        | true => exact .inl rfl
      limitPrice := optionalDecimal_ok isLimit
      status := by
        cases positive with
        | false => exact .inr rfl
        | true => exact .inl rfl
      reduceOnly := rfl
      times := ⟨iso_ok isTime, rfl⟩ }

private theorem parseOpenOrder_left_out {entry : OpenOrderEntry Raw}
    (parsed : parseOpenOrder wire resolve entry = .ok none) :
    isAttributable resolve entry.cloid entry.coin entry.side = false := by
  unfold parseOpenOrder at parsed
  split at parsed
  · rename_i notFound
    rw [isAttributable, notFound]
    rfl
  · split at parsed
    · obtain ⟨made, _, same⟩ := ok_of_map parsed
      cases same
    · rename_i incomplete
      exact not_attributable incomplete

theorem parseOpenOrder_kept {entry : OpenOrderEntry Raw} {order : Order Number}
    (parsed : parseOpenOrder wire resolve entry = .ok (some order)) :
    isAttributable resolve entry.cloid entry.coin entry.side = true ∧
      IsOrderOf wire resolve entry order := by
  unfold parseOpenOrder at parsed
  unfold isAttributable
  split at parsed
  · cases parsed
  · rename_i clientOrderId found
    split at parsed
    · rename_i coin side isCoin isSide
      obtain ⟨made, isMade, same⟩ := ok_of_map parsed
      cases same
      rw [found, isCoin, isSide]
      exact ⟨rfl, openOrder_isOrderOf (engineId_eq_some found) (present_eq_some isCoin) isSide isMade⟩
    · cases parsed

/-- The orders that `get_orders` returns are those of the entries whose tokens resolve, one each. -/
theorem getOrders_attributed {connected : Bool} {body : List (OpenOrderEntry Raw)}
    {orders : List (Order Number)}
    (returned : getOrders wire resolve connected (.ok body) = .ok orders) :
    List.Forall₂ (IsOrderOf wire resolve)
      (body.filter fun entry => isAttributable resolve entry.cloid entry.coin entry.side) orders := by
  obtain ⟨_, _, parsed⟩ := ok_of_bind returned
  exact forall₂_of_parseEntries (fun _ => parseOpenOrder_left_out)
    (fun _ _ => parseOpenOrder_kept) parsed

omit [Arithmetic Number] in
private theorem getFills_attributed {connected : Bool} {body : List (UserFillEntry Raw)}
    {sinceUtc : Option String} {fills : List (Fill Number)}
    (returned : getFills wire resolve connected (.ok body) sinceUtc = .ok fills) :
    ∃ all, fills = all.filter (fun fill => sinceUtc.all (· ≤ fill.timestampUtc)) ∧
      List.Forall₂ (IsFillOf wire resolve)
        (body.filter fun entry => isAttributable resolve entry.cloid entry.coin entry.side) all := by
  obtain ⟨_, _, answered⟩ := ok_of_bind returned
  obtain ⟨_, same, answered⟩ := ok_of_bind answered
  cases same
  obtain ⟨all, parsed, kept⟩ := ok_of_bind answered
  refine ⟨all, ?_, forall₂_of_parseEntries (fun _ => parseUserFill_left_out)
    (fun _ _ => parseUserFill_kept) parsed⟩
  cases sinceUtc with
  | none =>
      cases kept
      exact (List.filter_eq_self.mpr fun _ _ => rfl).symm
  | some sinceUtc =>
      cases kept
      rfl

end

structure Attributes {Stored : Type} [Source Stored Payload] (mint : String → String)
    (account : String) (host : Host Stored Maps) : Prop where
  inverse : ∀ clientOrderId token, host.memory.knownToken clientOrderId = some token ↔
    host.memory.resolve token = some clientOrderId
  durable : ∀ token clientOrderId, host.memory.resolve token = some clientOrderId →
    Recorded account host.log clientOrderId token
  reused : ∀ clientOrderId other, other ≠ clientOrderId →
    host.memory.resolve (mint clientOrderId) = some other →
    Conflicting account host.log clientOrderId (mint clientOrderId)
  conflicting : ∀ clientOrderId,
    Conflicting account host.log clientOrderId (mint clientOrderId) →
    (∀ token, (record mint account clientOrderId host).1 ≠ .returned token) ∧
      (record mint account clientOrderId host).2.memory = host.memory ∧
      ((host.environment host.clock).crash = false →
        (host.environment host.clock).appendFailure = none →
        (record mint account clientOrderId host).1 = .raised .keyCollision)
  raising : ∀ clientOrderId error, (record mint account clientOrderId host).1 = .raised error →
    (record mint account clientOrderId host).2.memory = host.memory
  orders : ∀ {Raw Number : Type} [Arithmetic Number] (wire : Wire Raw Number) connected body
    orders, getOrders wire host.memory.resolve connected (.ok body) = .ok orders →
    List.Forall₂ (IsOrderOf wire host.memory.resolve)
      (body.filter fun entry =>
        isAttributable host.memory.resolve entry.cloid entry.coin entry.side) orders
  fills : ∀ {Raw Number : Type} (wire : Wire Raw Number) connected body sinceUtc fills,
    getFills wire host.memory.resolve connected (.ok body) sinceUtc = .ok fills →
    ∃ all, fills = all.filter (fun fill => sinceUtc.all (· ≤ fill.timestampUtc)) ∧
      List.Forall₂ (IsFillOf wire host.memory.resolve)
        (body.filter fun entry =>
          isAttributable host.memory.resolve entry.cloid entry.coin entry.side) all

/-- After every run, whatever the tokens are, the mapping attributes only what was
recorded. -/
theorem System.run_attributes {Stored : Type} [Source Stored Payload] (mint : String → String)
    (account : String) (environment : Nat → StoreAnswer) (steps : List (Step account Stored)) :
    Attributes mint account ((System.start environment).run mint steps).host := by
  have sound := System.sound_run mint environment steps
  exact
    { inverse := sound.inverse
      durable := fun token clientOrderId resolved =>
        sound.recorded clientOrderId token ((sound.inverse clientOrderId token).mpr resolved)
      reused := fun clientOrderId other different resolved => sound.conflicting different resolved
      conflicting := fun clientOrderId conflict => sound.record_conflicting conflict
      raising := fun clientOrderId error raised => record_raised mint account clientOrderId _ raised
      orders := fun wire connected body orders returned => getOrders_attributed returned
      fills := fun wire connected body sinceUtc fills returned => getFills_attributed returned }

end TurtleExecution.HyperliquidAdapter
