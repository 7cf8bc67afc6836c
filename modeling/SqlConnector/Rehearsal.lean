import SqlConnector.Stream.Bundle

/-!
Queries against a client that plays the same script to each of them, and a log of what such a
client has seen. Acts on several streams are carried out one after the other.
-/

namespace SqlConnector.Rehearsal

inductive Step where
  | send (e : Event)
  | fail (code : Nat) (body : String)

inductive Script where
  | playing (steps : List Step)
  | refusing (body : String)

/-- What the client notices. -/
inductive Sighting where
  | connected (location : Location) (session : Session)
  | queried (query : String)
  | stoppedEarly
  | closed
  deriving DecidableEq, Repr

/-- Sends the script's events until one is refused or a step fails. -/
def play : List Step → Task Sighting (Except ClientError Unit)
  | [] => .done (.ok ())
  | .send e :: rest =>
    .send (.event e) (play rest) (.note .stoppedEarly (.done (.error .disconnected)))
  | .fail code body :: _ => .done (.error (.status code body))

def perform (steps : List Step) (query : String) : Task Sighting (Ended Sighting) :=
  .note (.queried query) ((play steps).bind fun outcome => .done ⟨outcome, [.closed]⟩)

def Script.conversation :
    Script → Except ClientError (String → Task Sighting (Ended Sighting))
  | playing steps => .ok (perform steps)
  | refusing body => .error (.status 502 body)

/-- A client that refuses has seen the attempt to connect all the same. -/
def Script.client (script : Script) : Client Sighting where
  connect location session := ([.connected location session], script.conversation)

structure Log where
  locations : List Location
  sessions : List Session
  queries : List String
  closes : Nat
  stoppedEarly : Bool
  asked : Nat

namespace Log

def empty : Log := ⟨[], [], [], 0, false, 0⟩

def add (log : Log) : Note Sighting → Log
  | .asked => { log with asked := log.asked + 1 }
  | .client (.connected location session) =>
    { log with locations := log.locations ++ [location], sessions := log.sessions ++ [session] }
  | .client (.queried query) => { log with queries := log.queries ++ [query] }
  | .client .stoppedEarly => { log with stoppedEarly := true }
  | .client .closed => { log with closes := log.closes + 1 }

def ofNotes (notes : List (Note Sighting)) : Log := notes.foldl add empty

end Log

inductive Act where
  | execute (query : String)
  | poll (stream : Nat)
  | drain (stream : Nat)
  | drop (stream : Nat)

inductive Outcome where
  | opened (stream : Nat)
  | item (answer : Answer)
  | items (items : List (Except Failure Row))
  | dropped (stream : Nat)

/-- Carries out one act; none for a stream that was not opened. -/
def act? (b : Bundle Sighting) : Act → Option (Bundle Sighting × Outcome)
  | .execute query => some (b.add query, .opened b.executions.length)
  | .poll i => (b.next? i).map fun (b, answer) => (b, .item answer)
  | .drain i => (b.drain? i).map fun (b, items) => (b, .items items)
  | .drop i => (b.leave? i).map fun b => (b, .dropped i)

def actAll? (b : Bundle Sighting) : List Act → Option (Bundle Sighting × List Outcome)
  | [] => some (b, [])
  | act :: rest => do
    let (b, outcome) ← act? b act
    let (b, outcomes) ← actAll? b rest
    return (b, outcome :: outcomes)

/-- Whether the first poll that an act makes breaks off. -/
def Act.breaksOff (b : Bundle Sighting) : Act → Bool
  | .poll i => b.executions[i]?.any Execution.breaksOff
  | .drain i => b.executions[i]?.any Execution.breaksOff
  | _ => false

/-- Whether one of some acts breaks off, all those before it carried out. -/
def breaksOff (b : Bundle Sighting) : List Act → Bool
  | [] => false
  | act :: rest =>
    act.breaksOff b ||
      match act? b act with
      | some (b, _) => breaksOff b rest
      | none => false

/-- The outcomes of some acts, and the log once all streams have been dropped. -/
def run? (connector : Connector) (script : Script) (acts : List Act) :
    Option (List Outcome × Log) :=
  (actAll? (.start connector script.client) acts).map fun (b, outcomes) =>
    (outcomes, .ofNotes b.leaveAll.notes)

end SqlConnector.Rehearsal
