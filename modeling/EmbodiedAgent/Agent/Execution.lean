import EmbodiedAgent.Agent.CommandQueue
import EmbodiedAgent.Library.History

namespace EmbodiedAgent.Agent.Execution

open Library CommandExecutionTracker

abbrev Item := QueuedCommand Dict

inductive TurnEnd
  | returned
  | cancelled (text : Option String)
  | failed (text : Option String)
  | interrupted

/-- Where the worker stands, with the item in its hands. -/
inductive WorkerPc
  | polling
  | getting
  | got (item : Item)
  | waiting (item : Item)
  | taking (item : Item)
  | begun (item : Item)
  | preparing (item : Item)
  | executing (item : Item)
  | ended (item : Item) (e : TurnEnd)
  | reporting (item : Item)
  | releasing (item : Item) (survives : Bool)
  | released (item : Item) (survives : Bool)
  | declining (item : Item)
  | dead

inductive BackgroundPc
  | executing
  | reporting
  | finishing
  | discarding
  | dead

inductive LogEntry
  | begun (item : Item)
  | published (event : CommandExecutionEvent)
  | expired (item : Item) (size : ℕ)
  | released
  | taskDone

/-- A thread is claimed while its creator holds the turn and has not registered it. -/
inductive Thread
  | unborn
  | claimed
  | background (pc : BackgroundPc)
  | worker (pc : WorkerPc) (log : List LogEntry)

def Thread.alive : Thread → Bool
  | .worker .dead _ | .background .dead | .unborn | .claimed => false
  | _ => true

inductive StopCall
  | idle
  | requested
  | joining (threads : List ℕ)
  | answered (result : Bool)

structure AgentExecutionRuntime where
  source : String
  continuousEnabled : Bool
  queue : ContinuousCommandQueue

structure State where
  busy : Bool := false
  stop : Bool := false
  worker : Option ℕ := none
  background : List ℕ := []
  threads : ℕ → Thread := fun _ ↦ .unborn
  born : ℕ := 0
  stops : ℕ → StopCall := fun _ ↦ .idle
  items : List Item := []

namespace State

variable (s : State)

def alive (t : ℕ) : Bool := (s.threads t).alive

def set (t : ℕ) (thread : Thread) : State :=
  { s with threads := Function.update s.threads t thread }

def setStop (k : ℕ) (call : StopCall) : State :=
  { s with stops := Function.update s.stops k call }

def discardFinishedThreads : State := { s with background := s.background.filter s.alive }

end State

variable (runtime : AgentExecutionRuntime)

section Calls

variable (s : State)

def backgroundAlive : Bool := s.background.any s.alive

def workerAlive : Bool := s.worker.any s.alive

/-- `start` gets as far as clearing the flag. -/
def startsAnew : Bool := !backgroundAlive s && !workerAlive s

def start : State × Bool :=
  let s := s.discardFinishedThreads
  if s.stop && (backgroundAlive s || workerAlive s) then (s, false)
  else if backgroundAlive s then (s, false)
  else if workerAlive s then (s, true)
  else
    let s := { s with stop := false }
    if !runtime.continuousEnabled then (s, true)
    else
      ({ s.set s.born (.worker .polling []) with worker := some s.born, born := s.born + 1 }, true)

def tryBeginTurn : State :=
  if s.busy || s.stop then s
  else { s.set s.born .claimed with busy := true, born := s.born + 1 }

def register (t : ℕ) : State :=
  match s.threads t with
  | .claimed => { s.set t (.background .executing) with background := t :: s.background }
  | _ => s

def requestStop (k : ℕ) : State :=
  match s.stops k with
  | .idle => { s.setStop k .requested with stop := true }
  | _ => s

def snapshot (k : ℕ) : State :=
  match s.stops k with
  | .requested => s.setStop k (.joining (s.background ++ s.worker.toList))
  | _ => s

def answer (k : ℕ) : State :=
  match s.stops k with
  | .joining threads =>
    { s.discardFinishedThreads.setStop k (.answered !threads.any s.alive) with
      worker := s.worker.filter s.alive }
  | _ => s

end Calls

def finishedOf : TurnEnd → Option (Bool × String)
  | .returned => some (true, "completed")
  | .cancelled (some text) | .failed (some text) => some (false, text)
  | _ => none

def afterEnd (item : Item) : TurnEnd → WorkerPc
  | .returned | .cancelled (some _) => .releasing item true
  | .failed (some _) => .reporting item
  | _ => .releasing item false

def workerStep (pc : WorkerPc) (reading : Double) (e : TurnEnd) (s : State) :
    WorkerPc × List LogEntry × State :=
  match pc with
  | .polling => (if s.stop then .dead else .getting, [], s)
  | .getting =>
    match s.items with
    | [] => (.polling, [], s)
    | item :: rest =>
      if runtime.queue.isStale item reading then
        (.getting, [.expired item rest.length, .taskDone], { s with items := rest })
      else (.got item, [], { s with items := rest })
  | .got item => (if s.stop then .declining item else .waiting item, [], s)
  | .waiting item => (if s.stop then .declining item else .taking item, [], s)
  | .taking item =>
    if s.busy then (.waiting item, [], s)
    else (.begun item, [.begun item], { s with busy := true })
  | .begun item => (.preparing item, [.published (executionStarted runtime.source item)], s)
  | .preparing item =>
    match e with
    | .returned => (.executing item, [], s)
    | e => (.ended item e, [], s)
  | .executing item => (.ended item e, [], s)
  | .ended item e =>
    (afterEnd item e,
      (finishedOf e).toList.map
        fun f ↦ .published (executionFinished runtime.source item f.1 f.2), s)
  | .reporting item => (.releasing item true, [], s)
  | .releasing item survives => (.released item survives, [.released], { s with busy := false })
  | .released _ survives => (if survives then .polling else .dead, [.taskDone], s)
  | .declining _ => (.dead, [.taskDone], s)
  | .dead => (.dead, [], s)

def backgroundStep (t : ℕ) (pc : BackgroundPc) (e : TurnEnd) (s : State) : BackgroundPc × State :=
  match pc with
  | .executing =>
    match e with
    | .failed _ => (.reporting, s)
    | _ => (.finishing, s)
  | .reporting => (.finishing, s)
  | .finishing => (.discarding, { s with busy := false })
  | .discarding => (.dead, { s with background := s.background.filter (· ≠ t) })
  | .dead => (.dead, s)

def run (t : ℕ) (reading : Double) (e : TurnEnd) (s : State) : State :=
  match s.threads t with
  | .worker pc log =>
    let (pc, entries, s) := workerStep runtime pc reading e s
    s.set t (.worker pc (log ++ entries))
  | .background pc =>
    let (pc, s) := backgroundStep t pc e s
    s.set t (.background pc)
  | _ => s

/-- A step of some thread. The queue is filled and emptied by others. -/
inductive Event
  | put (item : Item)
  | drop
  | start
  | tryBeginTurn
  | register (t : ℕ)
  | requestStop (k : ℕ)
  | snapshot (k : ℕ)
  | answer (k : ℕ)
  | run (t : ℕ) (reading : Double) (e : TurnEnd)

def step (s : State) : Event → State × Unit
  | .put item => ({ s with items := (runtime.queue.putNowait s.items item).getD s.items }, ())
  | .drop => ({ s with items := s.items.tail }, ())
  | .start => ((start runtime s).1, ())
  | .tryBeginTurn => (tryBeginTurn s, ())
  | .register t => (register s t, ())
  | .requestStop k => (requestStop s k, ())
  | .snapshot k => (snapshot s k, ())
  | .answer k => (answer s k, ())
  | .run t reading e => (run runtime t reading e s, ())

end EmbodiedAgent.Agent.Execution
