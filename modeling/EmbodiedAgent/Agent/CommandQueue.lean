import EmbodiedAgent.Library.Json

namespace EmbodiedAgent.Agent

open Library

structure QueuedCommand (κ : Type) where
  text : String
  priorityStop : Bool := false
  createdAt : Double := 0
  context : κ

structure ContinuousCommandQueue where
  maxSize : ℕ
  maxAgeS : Double
  maxSize_pos : 0 < maxSize

namespace ContinuousCommandQueue

def create (maxSize : ℤ) (maxAgeS : Double) : ContinuousCommandQueue :=
  { maxSize := max 1 maxSize.toNat
    maxAgeS := Double.max 0 maxAgeS
    maxSize_pos := lt_max_of_lt_left one_pos }

variable {κ : Type} (queue : ContinuousCommandQueue)

def isStale (item : QueuedCommand κ) (reading : Double) : Bool :=
  if item.priorityStop || decide (queue.maxAgeS ≤ 0) then false
  else decide (queue.maxAgeS < reading.sub item.createdAt)

/-- `put_nowait`, which refuses when the queue is full. -/
def putNowait (items : List (QueuedCommand κ)) (item : QueuedCommand κ) :
    Option (List (QueuedCommand κ)) :=
  if items.length < queue.maxSize then some (items ++ [item]) else none

end ContinuousCommandQueue

structure CommandExecutionEvent where
  event : String
  source : String
  text : String
  success : Option Bool := none
  reason : String := ""
  metadata : Dict := []

namespace CommandExecutionTracker

def publicKeys : List String :=
  ["batch_id", "batch_index", "batch_size", "source_text", "nlu_intent", "nlu_confidence"]

def publicMetadata (context : Dict) : Dict := context.filter (·.1 ∈ publicKeys)

variable (source : String) (item : QueuedCommand Dict)

def executionStarted : CommandExecutionEvent :=
  { event := "started"
    source := source
    text := item.text
    metadata := publicMetadata item.context }

def executionFinished (success : Bool) (reason : String) : CommandExecutionEvent :=
  { event := "finished"
    source := source
    text := item.text
    success := some success
    reason := reason
    metadata := publicMetadata item.context }

end CommandExecutionTracker

end EmbodiedAgent.Agent
