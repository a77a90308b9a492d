import EmbodiedAgent.Agent.ActionSequence
import EmbodiedAgent.Agent.CommandQueue
import EmbodiedAgent.Library.History

namespace EmbodiedAgent.Agent.SpokenStop

open Library ActionSequence

inductive TranscriptPc
  | idle
  | clearing (reason : String) (action : String)
  | cancelling (reason : String) (action : String)
  | publishing (pc : PublishPc)

abbrev Item := QueuedCommand ℕ

inductive WorkerPc
  | idle
  | holding (item : Item)
  | running (item : Item)
  | publishing (item : Item) (pc : PublishPc)

/-- Whose a candidate is: a queued command's, or that of a transcript with priority. -/
inductive Origin
  | command (number : ℕ)
  | priority (before : ℕ)

structure Candidate where
  origin : Origin
  action : ActionCommand

structure State where
  items : List Item := []
  queued : ℕ := 0
  sequencer : SequentialActionPublisher := {}
  transcript : TranscriptPc := .idle
  worker : WorkerPc := .idle
  published : List Candidate := []

/-- The steps of all threads; what the clock and the model say is up to the event. -/
inductive Event
  | enqueue (text : String) (createdAt : Double)
  | prioritize (reason : String) (action : String)
  | transcript
  | worker (reading : Double) (actions : List ActionCommand) (expired : Bool)
  | notifyResult (commandId : String) (result : ActionResult)

variable (queue : ContinuousCommandQueue)

def enqueue (text : String) (createdAt : Double) (s : State) : State :=
  match s.transcript with
  | .idle =>
    match queue.putNowait s.items { text := text, createdAt := createdAt, context := s.queued } with
    | none => s
    | some items => { s with items := items, queued := s.queued + 1 }
  | _ => s

def prioritize (reason action : String) (s : State) : State :=
  match s.transcript with
  | .idle => { s with transcript := .clearing reason action }
  | _ => s

def publishing (origin : Origin) (payload : Option ActionCommand) : List Candidate :=
  payload.toList.map fun action ↦ { origin := origin, action := action }

def transcriptStep (s : State) : State :=
  match s.transcript with
  | .idle => s
  | .clearing reason action =>
    match s.items with
    | [] => { s with transcript := .cancelling reason action }
    | _ :: items => { s with items := items }
  | .cancelling reason action =>
    { s with
      sequencer := s.sequencer.cancel reason
      transcript := .publishing (.starting [{ name := action, priority := true }] false) }
  | .publishing (.finished _) => { s with transcript := .idle }
  | .publishing pc =>
    let (pc, sequencer, payload) := s.sequencer.publishStep pc false
    { s with
      sequencer := sequencer
      transcript := .publishing pc
      published := s.published ++ publishing (.priority s.queued) payload }

def workerStep (reading : Double) (actions : List ActionCommand) (expired : Bool) (s : State) :
    State :=
  match s.worker with
  | .idle =>
    match s.items with
    | [] => s
    | item :: items =>
      if queue.isStale item reading then { s with items := items }
      else { s with items := items, worker := .holding item }
  | .holding item => { s with worker := .running item }
  | .running item => { s with worker := .publishing item (.starting actions true) }
  | .publishing _ (.finished _) => { s with worker := .idle }
  | .publishing item pc =>
    let (pc, sequencer, payload) := s.sequencer.publishStep pc expired
    { s with
      sequencer := sequencer
      worker := .publishing item pc
      published := s.published ++ publishing (.command item.context) payload }

def step (s : State) : Event → State × Unit
  | .enqueue text createdAt => (enqueue queue text createdAt s, ())
  | .prioritize reason action => (prioritize reason action s, ())
  | .transcript => (transcriptStep s, ())
  | .worker reading actions expired => (workerStep queue reading actions expired s, ())
  | .notifyResult commandId result =>
    ({ s with sequencer := s.sequencer.notifyResult commandId result }, ())

end EmbodiedAgent.Agent.SpokenStop
