/-
The mapping between the engine's client order ids and the venue's tokens.

A token is recorded in the shared store before an order is sent, under a key made
of the account and the token.  Two ids with one token thus share a key, and the
second recording is answered with the event of the first.  The minting of tokens is
a parameter of what follows, so that nothing rests on hashes being different.
-/

import TurtleExecution.Foundation.Delimited
import TurtleExecution.Foundation.Sha256
import TurtleExecution.SharedStore.Journal

set_option autoImplicit false

namespace TurtleExecution.HyperliquidAdapter

open SharedStore Process

def sourceTag : String := "hyperliquid_adapter"

def action : String := "venue_order_mapped"

/-- `"0x"` and the first 32 hexadecimal digits of the id's hash. -/
def mintVenueToken (clientOrderId : String) : String :=
  "0x" ++ String.ofList ((hexdigest clientOrderId).take 32)

example : mintVenueToken "abc" = "0xba7816bf8f01cfea414140de5dae2223" := by decide +kernel

def tokenKey (account token : String) : String :=
  sourceTag ++ ":" ++ toString account.length ++ ":" ++ account ++ ":" ++ token

structure Payload where
  account : String
  action : String
  venue : String
  clientOrderId : String
  venueClientId : String

inductive MappingError
  | accountEmpty
  | keyCollision
  | noVenueClientId
  | store (failure : StoreFailure)
  deriving DecidableEq, Repr

structure Maps where
  tokenToCid : Dict String String
  cidToToken : Dict String String

namespace Maps

def empty : Maps :=
  { tokenToCid := [], cidToToken := [] }

def resolve (maps : Maps) (venueToken : String) : Option String :=
  maps.tokenToCid.get? venueToken

def knownToken (maps : Maps) (clientOrderId : String) : Option String :=
  maps.cidToToken.get? clientOrderId

def apply (maps : Maps) (payload : Payload) : Maps :=
  if payload.clientOrderId = "" ∨ payload.venueClientId = "" then maps
  else
    { tokenToCid := maps.tokenToCid.set payload.venueClientId payload.clientOrderId
      cidToToken := maps.cidToToken.set payload.clientOrderId payload.venueClientId }

end Maps

section

variable {Stored : Type} [Source Stored Payload]

def own? (account : String) (event : Event Stored) : Option Payload :=
  (Source.own? event.payload).filter fun payload =>
    payload.account = account ∧ payload.action = action

def applyOwn (account : String) (maps : Maps) (event : Event Stored) : Maps :=
  match own? account event with
  | none => maps
  | some payload => maps.apply payload

def construct (account : String) (log : Log Stored) : Except MappingError Maps :=
  if PyText.isBlank account then .error .accountEmpty
  else .ok (log.entries.foldl (applyOwn account) Maps.empty)

abbrev Operation (Stored Value : Type) := Process (Host Stored Maps) MappingError Value

def mappingPayload (account clientOrderId token : String) : Payload :=
  { account
    action
    venue := "hyperliquid"
    clientOrderId
    venueClientId := token }

def append (payload : Payload) (key : String) : Operation Stored (Event Stored) := do
  let answer ← Journal.consult
  match answer.appendFailure with
  | some failure => Process.raise (.store failure)
  | none => do
      let host ← Process.get
      let (event, log) :=
        host.log.append .orderSubmitted (Source.wrap payload) (some key) answer.now
      Process.modify fun host => { host with log }
      return event

/-- What `record` makes of the event that the store answers with. -/
def accept (account clientOrderId : String) (event : Event Stored) : Operation Stored String :=
  match own? account event with
  | none => Process.raise .keyCollision
  | some stored =>
      if stored.clientOrderId ≠ clientOrderId then Process.raise .keyCollision
      else if stored.venueClientId = "" then Process.raise .noVenueClientId
      else do
        Process.modify fun host => { host with memory := host.memory.apply stored }
        return stored.venueClientId

def record (mint : String → String) (account clientOrderId : String) : Operation Stored String := do
  let host ← Process.get
  match host.memory.knownToken clientOrderId with
  | some known => return known
  | none => do
      let token := mint clientOrderId
      let event ← append (mappingPayload account clientOrderId token) (tokenKey account token)
      accept account clientOrderId event

structure Foreign (account : String) (Stored : Type) [Source Stored Payload] where
  eventType : EventType
  payload : Stored
  key : Option String
  now : String
  notOwn : (Source.own? payload).filter
    (fun payload : Payload => payload.account = account ∧ payload.action = action) = none

inductive Step (account : String) (Stored : Type) [Source Stored Payload]
  | record (clientOrderId : String)
  | foreign (added : Foreign account Stored)
  | kill
  | restart

structure System (Stored : Type) where
  host : Host Stored Maps
  alive : Bool

def System.step (mint : String → String) {account : String} (system : System Stored) :
    Step account Stored → System Stored
  | .record clientOrderId =>
      if system.alive then
        match record mint account clientOrderId system.host with
        | (.crashed, host) => { host, alive := false }
        | (_, host) => { host, alive := true }
      else system
  | .foreign added =>
      { system with
        host := { system.host with
          log := (system.host.log.append added.eventType added.payload added.key added.now).2 } }
  | .kill => { system with alive := false }
  | .restart =>
      match construct account system.host.log with
      | .ok memory => { host := { system.host with memory }, alive := true }
      | .error _ => { system with alive := false }

def System.run (mint : String → String) {account : String} (system : System Stored)
    (steps : List (Step account Stored)) : System Stored :=
  steps.foldl (System.step mint) system

def System.start (environment : Nat → StoreAnswer) : System Stored :=
  { host := { log := Ledger.empty, memory := Maps.empty, environment, clock := 0 }
    alive := true }

end

end TurtleExecution.HyperliquidAdapter
