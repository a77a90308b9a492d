import EmbodiedAgent.Agent.CommandQueue
import EmbodiedAgent.Agent.SpokenQuantities
import EmbodiedAgent.Library.Approximation
import EmbodiedAgent.Library.Dictionary

namespace EmbodiedAgent.Agent.CommandBatches

open Library Dictionary CommandNlu

structure QueueSnapshot where
  accepted : Bool
  size : ℕ
  dropped : ℕ := 0
  reason : String := ""
  metadata : Dict := []

structure CommandQueueEvent where
  event : String
  source : String
  text : Chars
  size : ℕ
  dropped : ℕ := 0
  reason : String := ""
  priorityStop : Bool := false
  metadata : Dict := []

def CommandExecutionTracker.queueEvent (source event : String) (text : Chars)
    (snapshot : QueueSnapshot) (priorityStop : Bool) : CommandQueueEvent :=
  { event := if event = "enqueue" && !snapshot.accepted then "rejected" else event
    source := source
    text := text
    size := snapshot.size
    dropped := snapshot.dropped
    reason := snapshot.reason
    priorityStop := priorityStop
    metadata := snapshot.metadata }

section Model

variable {ω : Type}

def intentName : Intent → String
  | .moveForward => "move_forward"
  | .moveBackward => "move_backward"
  | .turnLeft => "turn_left"
  | .turnRight => "turn_right"
  | .stop => "stop"
  | .arc => "arc"
  | .spin => "spin"
  | .square => "square"
  | .demo => "demo"
  | .wave => "wave"
  | .setLed => "set_led"
  | .setMode => "set_mode"
  | .navigateTo => "navigate_to"
  | .followWaypoints => "follow_waypoints"
  | .cancelNavigation => "cancel_navigation"

/-- The values of a queue context; `ω` is whatever a provider puts in of its own. -/
inductive ContextValue (ω : Type)
  | json (value : JsonValue)
  | actions (actions : List Action)
  | object (value : ω)

abbrev Context (ω : Type) := List (String × ContextValue ω)

abbrev Item (ω : Type) := QueuedCommand (Context ω)

/-- What another thread does to the queue: it takes the oldest command, or puts one. -/
inductive Foreign (ω : Type)
  | take
  | put (item : Item ω)

/-- What goes on around one put: the clock, and what other threads put and take. -/
structure Moment (ω : Type) where
  clock : Double := 0
  meanwhile : List (Foreign ω) := []
  taken : ℕ := 0

/-- A command that went into the queue during the call, and whether the call put it there. -/
structure Arrival (ω : Type) where
  own : Bool
  item : Item ω

structure QueueState (ω : Type) where
  items : List (Item ω)
  arrivals : List (Arrival ω) := []

/-- The fields of the control plane that `enqueue_command` reads. -/
structure EnqueueControl where
  source : String
  commandQueue : ContinuousCommandQueue
  commandNlu : Config

inductive EnqueueFeedback
  | retry (reason : String) (transcript : Chars) (prompt : String)
  | queueRejected (reason : String) (transcript : Chars) (queueSize : ℕ)

structure CommandEnqueueDecision where
  status : String
  state : String
  source : String
  sourceText : Chars
  queueEvents : List CommandQueueEvent := []
  recognitionFeedback : List EnqueueFeedback := []
  nluResult : Option NluResult := none
  batchId : String := ""
  queueSize : ℕ := 0
  reason : String := ""

/-- The queue and the sequence number of the batches. -/
structure State (ω : Type) where
  queue : QueueState ω
  nluBatchSequence : ℕ := 0

def retryPrompts : List (String × String) :=
  [("missing_led_color", "听到了灯光命令，但颜色不完整，请重说，例如：把灯设成蓝色"),
    ("missing_turn_direction", "听到了转向角度，但方向不完整，请重说：左转或右转九十度")]

def retryPrompt (result : NluResult) : String := (retryPrompts.lookup result.reason).getD ""

section Queue

variable (queue : ContinuousCommandQueue)

def foreignStep (s : QueueState ω) : Foreign ω → QueueState ω
  | .take => { s with items := s.items.tail }
  | .put item =>
    match queue.putNowait s.items item with
    | some items => { items := items, arrivals := s.arrivals ++ [{ own := false, item := item }] }
    | none => s

def foreignSteps (s : QueueState ω) (steps : List (Foreign ω)) : QueueState ω :=
  steps.foldl (foreignStep queue) s

/-- `context or queue_metadata` -/
def queueContext (context : Option (Context ω)) (metadata : Dict) : Context ω :=
  match context with
  | some (e :: context) => e :: context
  | _ => metadata.map fun e ↦ (e.1, .json e.2)

def newItem (text : Chars) (context : Option (Context ω)) (metadata : Dict) (clock : Double) :
    Item ω :=
  { text := String.ofList text, createdAt := clock, context := queueContext context metadata }

def put (text : Chars) (context : Option (Context ω)) (metadata : Dict) (moment : Moment ω)
    (s : QueueState ω) : QueueSnapshot × QueueState ω :=
  let item := newItem text context metadata moment.clock
  let s := foreignSteps queue s moment.meanwhile
  match queue.putNowait s.items item with
  | none =>
    let items := s.items.drop moment.taken
    ({ accepted := false
       size := items.length
       reason := "queue_full"
       metadata := metadata }, { s with items := items })
  | some items =>
    let items := items.drop moment.taken
    ({ accepted := true
       size := items.length
       metadata := metadata },
      { items := items, arrivals := s.arrivals ++ [{ own := true, item := item }] })

end Queue

variable (control : EnqueueControl) (u : Unicode) (math : MathFunctions)

structure Batch (ω : Type) where
  batchId : String
  size : ℕ
  sourceText : Chars
  extras : Context ω

def Batch.metadata (batch : Batch ω) (index : ℕ) (parsed : ParsedCommand) : Dict :=
  [("batch_id", .str batch.batchId), ("batch_index", .int index), ("batch_size", .int batch.size),
    ("source_text", .str (String.ofList batch.sourceText)),
    ("nlu_intent", .str (intentName parsed.intent)),
    ("nlu_confidence", .float (Double.ofRat (roundMillis parsed.confidence)))]

def Batch.context (batch : Batch ω) (index : ℕ) (parsed : ParsedCommand) : Context ω :=
  setItem
    (merge batch.extras ((batch.metadata index parsed).map fun e ↦ (e.1, .json e.2)))
    "preparsed_actions" (.actions parsed.actions)

def putCommands (batch : Batch ω) (moments : ℕ → Moment ω) :
    ℕ → List ParsedCommand → QueueState ω →
      List CommandQueueEvent × Option (ParsedCommand × QueueSnapshot) × QueueState ω
  | _, [], s => ([], none, s)
  | index, parsed :: rest, s =>
    let snapshot := put control.commandQueue parsed.spanText (some (batch.context index parsed))
      (batch.metadata index parsed) (moments index) s
    let event := CommandExecutionTracker.queueEvent control.source "enqueue" parsed.spanText
      snapshot.1 false
    if snapshot.1.accepted then
      let later := putCommands batch moments (index + 1) rest snapshot.2
      (event :: later.1, later.2)
    else ([event], some (parsed, snapshot.1), snapshot.2)

def nluBatchId (sequence : ℕ) : String :=
  control.source ++ "-nlu-" ++ toString sequence

def enqueueBatch (command : Chars) (result : NluResult) (extras : Context ω)
    (moments : ℕ → Moment ω) (s : State ω) : CommandEnqueueDecision × State ω :=
  let sequence := s.nluBatchSequence + 1
  let batch : Batch ω :=
    { batchId := nluBatchId control sequence
      size := result.commands.length
      sourceText := command
      extras := extras }
  let puts := putCommands control batch moments 1 result.commands s.queue
  match puts.2.1 with
  | some (parsed, snapshot) =>
    ({ status := "rejected"
       state := "queue_full"
       source := control.source
       sourceText := command
       queueEvents := puts.1
       recognitionFeedback := [.queueRejected snapshot.reason parsed.spanText snapshot.size]
       nluResult := some result
       batchId := batch.batchId
       queueSize := snapshot.size
       reason := snapshot.reason }, { queue := puts.2.2, nluBatchSequence := sequence })
  | none =>
    let queue := foreignSteps control.commandQueue puts.2.2
      (moments (result.commands.length + 1)).meanwhile
    ({ status := "queued"
       state := "queued"
       source := control.source
       sourceText := command
       queueEvents := puts.1
       nluResult := some result
       batchId := batch.batchId
       queueSize := queue.items.length }, { queue := queue, nluBatchSequence := sequence })

def enqueueWhole (command : Chars) (fallbackContext : Option (Context ω)) (moment : Moment ω)
    (s : State ω) : CommandEnqueueDecision × State ω :=
  let snapshot := put control.commandQueue command fallbackContext [] moment s.queue
  ({ status := if snapshot.1.accepted then "queued" else "rejected"
     state := if snapshot.1.accepted then "queued" else "queue_full"
     source := control.source
     sourceText := command
     queueEvents := [CommandExecutionTracker.queueEvent control.source "enqueue" command
       snapshot.1 false]
     recognitionFeedback := if snapshot.1.accepted then []
       else [.queueRejected snapshot.1.reason command snapshot.1.size]
     queueSize := snapshot.1.size
     reason := snapshot.1.reason }, { s with queue := snapshot.2 })

def enqueueCommand (command : Chars) (contextExtras : Context ω)
    (fallbackContext : Option (Context ω)) (moments : ℕ → Moment ω) (s : State ω) :
    CommandEnqueueDecision × State ω :=
  let result := parse u math control.commandNlu command
  if result.commands ≠ [] then enqueueBatch control command result contextExtras moments s
  else if retryPrompt result ≠ "" then
    ({ status := "retry"
       state := "retry_listening"
       source := control.source
       sourceText := command
       recognitionFeedback := [.retry result.reason command (retryPrompt result)]
       nluResult := some result
       reason := result.reason }, s)
  else enqueueWhole control command fallbackContext (moments 1) s

end Model

variable {ω : Type} {queue : ContinuousCommandQueue} {s : QueueState ω}

def Arrival.waiting (arrivals : List (Arrival ω)) : List (Item ω) := arrivals.map Arrival.item

def Served (before : List (Item ω)) (s : QueueState ω) : Prop :=
  s.items <:+ before ++ Arrival.waiting s.arrivals

theorem Served.taken {before items : List (Item ω)} (h : Served before s) (hi : items <:+ s.items) :
    Served before { s with items := items } := hi.trans h

theorem Served.arrived {before : List (Item ω)} (h : Served before s) (a : Arrival ω) :
    Served before { items := s.items ++ [a.item], arrivals := s.arrivals ++ [a] } := by
  obtain ⟨front, hfront⟩ := h
  refine ⟨front, ?_⟩
  rw [← List.append_assoc, hfront]
  simp [Arrival.waiting]

theorem putNowait_room {item : Item ω} (h : s.items.length < queue.maxSize) :
    queue.putNowait s.items item = some (s.items ++ [item]) := if_pos h

theorem putNowait_full {item : Item ω} (h : queue.maxSize ≤ s.items.length) :
    queue.putNowait s.items item = none := if_neg h.not_gt

def lengthAfter (capacity : ℕ) : ℕ → List (Foreign ω) → ℕ
  | n, [] => n
  | n, .take :: steps => lengthAfter capacity (n - 1) steps
  | n, .put _ :: steps => lengthAfter capacity (if n < capacity then n + 1 else n) steps

def arrives (capacity : ℕ) : ℕ → List (Foreign ω) → Bool
  | _, [] => false
  | n, .take :: steps => arrives capacity (n - 1) steps
  | n, .put _ :: steps => decide (n < capacity) || arrives capacity n steps

structure Passed (queue : ContinuousCommandQueue) (steps : List (Foreign ω)) (s s' : QueueState ω)
    (others : List (Arrival ω)) : Prop where
  length : s'.items.length = lengthAfter queue.maxSize s.items.length steps
  arrivals : s'.arrivals = s.arrivals ++ others
  foreign : ∀ a ∈ others, a.own = false
  nil_iff : others = [] ↔ arrives queue.maxSize s.items.length steps = false
  served : ∀ before, Served before s → Served before s'

theorem foreignSteps_cons (queue : ContinuousCommandQueue) (s : QueueState ω) (step : Foreign ω)
    (steps : List (Foreign ω)) : foreignSteps queue s (step :: steps) =
      foreignSteps queue (foreignStep queue s step) steps := rfl

theorem foreignSteps_passed (queue : ContinuousCommandQueue) (steps : List (Foreign ω))
    (s : QueueState ω) : ∃ others, Passed queue steps s (foreignSteps queue s steps) others := by
  induction steps generalizing s with
  | nil =>
    exact ⟨[], { length := rfl
                 arrivals := (List.append_nil _).symm
                 foreign := fun _ ha ↦ absurd ha List.not_mem_nil
                 nil_iff := iff_of_true rfl rfl
                 served := fun _ h ↦ h }⟩
  | cons step steps ih =>
    obtain ⟨others, h⟩ := ih (foreignStep queue s step)
    cases step with
    | take =>
      exact ⟨others,
        { length := by simpa [foreignSteps_cons, foreignStep, lengthAfter] using h.length
          arrivals := h.arrivals
          foreign := h.foreign
          nil_iff := by simpa [foreignStep, arrives] using h.nil_iff
          served := fun before hs ↦ h.served before (hs.taken (List.tail_suffix _)) }⟩
    | put item =>
      rcases lt_or_ge s.items.length queue.maxSize with hroom | hfull
      · have hstep : foreignStep queue s (.put item) =
            { items := s.items ++ [item],
              arrivals := s.arrivals ++ [{ own := false, item := item }] } := by
          rw [foreignStep, putNowait_room hroom]
        rw [hstep] at h
        refine ⟨{ own := false, item := item } :: others,
          { length := ?_, arrivals := ?_, foreign := ?_, nil_iff := ?_, served := ?_ }⟩
        · rw [lengthAfter, if_pos hroom, foreignSteps_cons, hstep]
          simpa using h.length
        · rw [foreignSteps_cons, hstep]
          simpa using h.arrivals
        · intro a ha
          rcases List.mem_cons.mp ha with rfl | ha
          · rfl
          · exact h.foreign a ha
        · simp [arrives, hroom]
        · intro before hs
          rw [foreignSteps_cons, hstep]
          exact h.served before (hs.arrived { own := false, item := item })
      · have hstep : foreignStep queue s (.put item) = s := by
          rw [foreignStep, putNowait_full hfull]
        rw [hstep] at h
        refine ⟨others, { length := ?_, arrivals := ?_, foreign := h.foreign,
                          nil_iff := ?_, served := ?_ }⟩
        · rw [lengthAfter, if_neg hfull.not_gt, foreignSteps_cons, hstep]
          exact h.length
        · rw [foreignSteps_cons, hstep]
          exact h.arrivals
        · simpa [arrives, hfull.not_gt] using h.nil_iff
        · rw [foreignSteps_cons, hstep]
          exact h.served

section Put

variable (text : Chars) (context : Option (Context ω)) (metadata : Dict) {moment : Moment ω}

theorem put_accepted
    (h : lengthAfter queue.maxSize s.items.length moment.meanwhile < queue.maxSize) :
    (put queue text context metadata moment s).1.accepted = true ∧
      (put queue text context metadata moment s).2.items.length =
        lengthAfter queue.maxSize s.items.length moment.meanwhile + 1 - moment.taken ∧
      ∃ others, (∀ a ∈ others, a.own = false) ∧
        (others = [] ↔ arrives queue.maxSize s.items.length moment.meanwhile = false) ∧
        (put queue text context metadata moment s).2.arrivals = s.arrivals ++ others ++
          [{ own := true, item := newItem text context metadata moment.clock }] := by
  obtain ⟨others, hpassed⟩ := foreignSteps_passed queue moment.meanwhile s
  rw [← hpassed.length] at h ⊢
  rw [put, putNowait_room h]
  refine ⟨rfl, ?_, others, hpassed.foreign, hpassed.nil_iff, ?_⟩
  · simp
  · rw [hpassed.arrivals]

theorem put_refused
    (h : queue.maxSize ≤ lengthAfter queue.maxSize s.items.length moment.meanwhile) :
    (put queue text context metadata moment s).1.accepted = false ∧
      ∃ others, (∀ a ∈ others, a.own = false) ∧
        (put queue text context metadata moment s).2.arrivals = s.arrivals ++ others := by
  obtain ⟨others, hpassed⟩ := foreignSteps_passed queue moment.meanwhile s
  rw [← hpassed.length] at h
  rw [put, putNowait_full h]
  exact ⟨rfl, others, hpassed.foreign, hpassed.arrivals⟩

theorem put_served (queue : ContinuousCommandQueue) (text : Chars) (context : Option (Context ω))
    (metadata : Dict) (moment : Moment ω) {before : List (Item ω)} (h : Served before s) :
    Served before (put queue text context metadata moment s).2 := by
  obtain ⟨others, hpassed⟩ := foreignSteps_passed queue moment.meanwhile s
  have hs := hpassed.served before h
  rcases lt_or_ge (foreignSteps queue s moment.meanwhile).items.length queue.maxSize with hlt | hge
  · rw [put, putNowait_room hlt]
    exact (hs.arrived _).taken (List.drop_suffix _ _)
  · rw [put, putNowait_full hge]
    exact hs.taken (List.drop_suffix _ _)

end Put

section Batches

variable {control : EnqueueControl} {batch : Batch ω} {moments : ℕ → Moment ω}
  {commands : List ParsedCommand} {index : ℕ}

/-- The commands that the batch puts when all of them find room. -/
def Batch.items (batch : Batch ω) (moments : ℕ → Moment ω) : ℕ → List ParsedCommand → List (Item ω)
  | _, [] => []
  | index, parsed :: rest =>
    newItem parsed.spanText (some (batch.context index parsed)) (batch.metadata index parsed)
      (moments index).clock :: batch.items moments (index + 1) rest

def Accommodates (capacity : ℕ) (moments : ℕ → Moment ω) : ℕ → ℕ → ℕ → Prop
  | 0, _, _ => True
  | n + 1, index, length =>
    arrives capacity length (moments index).meanwhile = false ∧
      lengthAfter capacity length (moments index).meanwhile < capacity ∧
      Accommodates capacity moments n (index + 1)
        (lengthAfter capacity length (moments index).meanwhile + 1 - (moments index).taken)

theorem putCommands_served {before : List (Item ω)} (h : Served before s) :
    Served before (putCommands control batch moments index commands s).2.2 := by
  induction commands generalizing index s with
  | nil => exact h
  | cons parsed rest ih =>
    simp only [putCommands]
    split_ifs
    · exact ih (put_served _ _ _ _ _ h)
    · exact put_served _ _ _ _ _ h

theorem putCommands_accepted (batch : Batch ω) (parsed : ParsedCommand)
    (rest : List ParsedCommand)
    (h : lengthAfter control.commandQueue.maxSize s.items.length (moments index).meanwhile <
      control.commandQueue.maxSize) :
    ∃ s' others, (∀ a ∈ others, a.own = false) ∧
      (others = [] ↔ arrives control.commandQueue.maxSize s.items.length
        (moments index).meanwhile = false) ∧
      s'.items.length = lengthAfter control.commandQueue.maxSize s.items.length
        (moments index).meanwhile + 1 - (moments index).taken ∧
      s'.arrivals = s.arrivals ++ others ++ (batch.items moments index [parsed]).map
        (Arrival.mk true) ∧
      (putCommands control batch moments index (parsed :: rest) s).2 =
        (putCommands control batch moments (index + 1) rest s').2 := by
  obtain ⟨haccepted, hlength, others, hforeign, hothers, harrivals⟩ :=
    put_accepted parsed.spanText (some (batch.context index parsed)) (batch.metadata index parsed) h
  refine ⟨_, others, hforeign, hothers, hlength, harrivals, ?_⟩
  rw [putCommands, if_pos haccepted]

theorem putCommands_refused (batch : Batch ω) (parsed : ParsedCommand)
    (rest : List ParsedCommand)
    (h : control.commandQueue.maxSize ≤
      lengthAfter control.commandQueue.maxSize s.items.length (moments index).meanwhile) :
    (putCommands control batch moments index (parsed :: rest) s).2.1 ≠ none ∧
      ∃ others, (∀ a ∈ others, a.own = false) ∧
        (putCommands control batch moments index (parsed :: rest) s).2.2.arrivals =
          s.arrivals ++ others := by
  obtain ⟨hrefused, others, hforeign, harrivals⟩ :=
    put_refused parsed.spanText (some (batch.context index parsed)) (batch.metadata index parsed) h
  rw [putCommands, hrefused]
  exact ⟨Option.some_ne_none _, others, hforeign, harrivals⟩

theorem putCommands_of_accommodates (batch : Batch ω)
    (h : Accommodates control.commandQueue.maxSize moments commands.length index s.items.length) :
    (putCommands control batch moments index commands s).2.1 = none ∧
      (putCommands control batch moments index commands s).2.2.arrivals =
        s.arrivals ++ (batch.items moments index commands).map (Arrival.mk true) := by
  induction commands generalizing index s with
  | nil => exact ⟨rfl, (List.append_nil _).symm⟩
  | cons parsed rest ih =>
    obtain ⟨hquiet, hroom, hlater⟩ := h
    obtain ⟨s', others, -, hothers, hlength, harrivals, heq⟩ :=
      putCommands_accepted batch parsed rest hroom
    rw [← hlength] at hlater
    obtain ⟨hnone, hall⟩ := ih hlater
    rw [heq]
    refine ⟨hnone, ?_⟩
    rw [hall, harrivals, hothers.mpr hquiet]
    simp [Batch.items]

theorem putCommands_grows (control : EnqueueControl) (batch : Batch ω) (moments : ℕ → Moment ω)
    (commands : List ParsedCommand) (index : ℕ) (s : QueueState ω) :
    ∃ later, (putCommands control batch moments index commands s).2.2.arrivals =
      s.arrivals ++ later := by
  induction commands generalizing index s with
  | nil => exact ⟨[], (List.append_nil _).symm⟩
  | cons parsed rest ih =>
    rcases lt_or_ge (lengthAfter control.commandQueue.maxSize s.items.length
      (moments index).meanwhile) control.commandQueue.maxSize with hroom | hfull
    · obtain ⟨s', others, -, -, -, harrivals, heq⟩ :=
        putCommands_accepted batch parsed rest hroom
      obtain ⟨later, hlater⟩ := ih (index + 1) s'
      rw [heq, hlater, harrivals]
      simp only [List.append_assoc]
      exact ⟨_, rfl⟩
    · obtain ⟨-, others, -, harrivals⟩ :=
        putCommands_refused batch parsed rest hfull
      exact ⟨others, harrivals⟩

theorem own_head {others rest post : List (Arrival ω)} (block : List (Item ω))
    (hothers : ∀ a ∈ others, a.own = false) (hblock : block ≠ [])
    (h : others ++ rest = block.map (Arrival.mk true) ++ post) : others = [] := by
  cases others with
  | nil => rfl
  | cons a others =>
    cases block with
    | nil => exact absurd rfl hblock
    | cons item block =>
      have ha : a = { own := true, item := item } := (List.cons.inj h).1
      have hown := hothers a List.mem_cons_self
      rw [ha] at hown
      cases hown

theorem foreign_prefix_unique {pre others rest post : List (Arrival ω)} {a b : Item ω}
    (hpre : ∀ a ∈ pre, a.own = false) (hothers : ∀ a ∈ others, a.own = false)
    (h : others ++ { own := true, item := a } :: rest =
      pre ++ { own := true, item := b } :: post) : others = pre ∧ rest = post := by
  induction others generalizing pre with
  | nil =>
    obtain rfl := own_head [a] hpre (List.cons_ne_nil a []) h.symm
    exact ⟨rfl, (List.cons.inj h).2⟩
  | cons o others ih =>
    cases pre with
    | nil =>
      exact absurd (own_head [b] hothers (List.cons_ne_nil b []) h)
        (List.cons_ne_nil o others)
    | cons p pre =>
      obtain ⟨rfl, htail⟩ := List.cons.inj h
      obtain ⟨rfl, hrest⟩ := ih (fun a ha ↦ hpre a (List.mem_cons_of_mem _ ha))
        (fun a ha ↦ hothers a (List.mem_cons_of_mem _ ha)) htail
      exact ⟨rfl, hrest⟩

theorem accommodates_of_contiguous {block : List (Item ω)} (tail post : List (Arrival ω))
    (hlength : block.length = commands.length)
    (hnone : (putCommands control batch moments index commands s).2.1 = none)
    (h : (putCommands control batch moments index commands s).2.2.arrivals ++ tail =
      s.arrivals ++ (block.map (Arrival.mk true) ++ post)) :
    Accommodates control.commandQueue.maxSize moments commands.length index s.items.length := by
  induction commands generalizing index s block with
  | nil => trivial
  | cons parsed rest ih =>
    rcases lt_or_ge (lengthAfter control.commandQueue.maxSize s.items.length
      (moments index).meanwhile) control.commandQueue.maxSize with hroom | hfull
    · obtain ⟨s', others, hforeign, hothers, hafter, harrivals, heq⟩ :=
        putCommands_accepted batch parsed rest hroom
      rw [heq] at hnone h
      obtain ⟨later, hlater⟩ := putCommands_grows control batch moments rest (index + 1) s'
      obtain ⟨item, block, rfl⟩ := List.exists_cons_of_length_eq_add_one hlength
      have hsplit : s.arrivals ++ (others ++ ((batch.items moments index [parsed]).map
          (Arrival.mk true) ++ (later ++ tail))) =
          s.arrivals ++ ((item :: block).map (Arrival.mk true) ++ post) := by
        rw [← h, hlater, harrivals]
        simp only [List.append_assoc]
      have hrest := List.append_cancel_left hsplit
      obtain rfl := own_head (item :: block) hforeign (List.cons_ne_nil item block) hrest
      refine ⟨hothers.mp rfl, hroom, ?_⟩
      rw [← hafter]
      refine ih (Nat.succ.inj hlength) hnone ?_
      rw [hlater, harrivals]
      have htail : later ++ tail = block.map (Arrival.mk true) ++ post := (List.cons.inj hrest).2
      simp only [List.append_assoc, List.append_nil, htail]
    · exact absurd hnone (putCommands_refused batch parsed rest hfull).1

end Batches

section Indices

variable {batch : Batch ω} {moments : ℕ → Moment ω} {commands : List ParsedCommand}
  {index i : ℕ} {item : Item ω}

theorem queueContext_some {context : Context ω} (metadata : Dict) (h : context ≠ []) :
    queueContext (some context) metadata = context := by
  cases context with
  | nil => exact absurd rfl h
  | cons e context => rfl

theorem newItem_context (parsed : ParsedCommand) (clock : Double) :
    (newItem parsed.spanText (some (batch.context index parsed)) (batch.metadata index parsed)
      clock).context = batch.context index parsed :=
  queueContext_some _ (setItem_ne_nil _ _ _)

theorem context_lookup (parsed : ParsedCommand) :
    (batch.context index parsed).lookup "batch_index" = some (.json (.int index)) ∧
      (batch.context index parsed).lookup "batch_size" = some (.json (.int batch.size)) := by
  simp [Batch.context, Batch.metadata, merge, lookup_setItem]

theorem items_texts : (batch.items moments index commands).map QueuedCommand.text =
    commands.map fun parsed ↦ String.ofList parsed.spanText := by
  induction commands generalizing index with
  | nil => rfl
  | cons parsed rest ih => exact congrArg (List.cons _) ih

theorem items_lookup (h : (batch.items moments index commands)[i]? = some item) :
    item.context.lookup "batch_index" = some (.json (.int (index + i : ℕ))) ∧
      item.context.lookup "batch_size" = some (.json (.int batch.size)) := by
  induction commands generalizing index i with
  | nil => cases h
  | cons parsed rest ih =>
    cases i with
    | zero =>
      obtain rfl := Option.some.inj h
      rw [newItem_context]
      exact context_lookup parsed
    | succ i =>
      rw [← Nat.succ_add_eq_add_succ index i]
      exact ih h

end Indices

def Undisturbed (moment : Moment ω) : Prop := moment.meanwhile = [] ∧ moment.taken = 0

def Kept (before : List (Item ω)) (s : QueueState ω) : Prop :=
  s.items = before ++ Arrival.waiting s.arrivals

theorem put_kept (queue : ContinuousCommandQueue) (text : Chars) (context : Option (Context ω))
    (metadata : Dict) {moment : Moment ω} {before : List (Item ω)} (hm : Undisturbed moment)
    (h : Kept before s) :
    Kept before (put queue text context metadata moment s).2 := by
  obtain ⟨hmeanwhile, htaken⟩ := hm
  rw [put, hmeanwhile, htaken]
  rcases lt_or_ge s.items.length queue.maxSize with hlt | hge
  · rw [foreignSteps, List.foldl_nil, putNowait_room hlt]
    rw [Kept] at h ⊢
    simp [h, Arrival.waiting]
  · rw [foreignSteps, List.foldl_nil, putNowait_full hge]
    exact h

section Calls

variable {control : EnqueueControl} {batch : Batch ω} {moments : ℕ → Moment ω}
  {commands : List ParsedCommand} {index : ℕ}

theorem putCommands_kept {before : List (Item ω)} (hm : ∀ i, Undisturbed (moments i))
    (h : Kept before s) :
    Kept before (putCommands control batch moments index commands s).2.2 := by
  induction commands generalizing index s with
  | nil => exact h
  | cons parsed rest ih =>
    simp only [putCommands]
    split_ifs
    · exact ih (put_kept _ _ _ _ (hm index) h)
    · exact put_kept _ _ _ _ (hm index) h

def spokenTexts (commands : List ParsedCommand) (command : Chars) : List Chars :=
  if commands = [] then [command] else commands.map ParsedCommand.spanText

structure WholeBatch (commands : List ParsedCommand) (command : Chars) (block : List (Item ω)) :
    Prop where
  texts : block.map QueuedCommand.text = (spokenTexts commands command).map String.ofList
  numbered : commands ≠ [] → ∀ (i : ℕ) (item : Item ω), block[i]? = some item →
    item.context.lookup "batch_index" = some (.json (.int (1 + i : ℕ))) ∧
      item.context.lookup "batch_size" = some (.json (.int commands.length))

def InOneBlock (arrivals : List (Arrival ω)) (block : List (Item ω)) : Prop :=
  ∃ pre post, arrivals = pre ++ (block.map (Arrival.mk true) ++ post) ∧
    (∀ a ∈ pre, a.own = false) ∧ ∀ a ∈ post, a.own = false

structure AllOrNothing (commands : List ParsedCommand) (command : Chars)
    (moments : ℕ → Moment ω) (before : List (Item ω))
    (outcome : CommandEnqueueDecision × State ω) : Prop where
  served : Served before outcome.2.queue
  undisturbed : (∀ i, Undisturbed (moments i)) → Kept before outcome.2.queue
  rejected : outcome.1.status = "rejected" → ∀ a ∈ outcome.2.queue.arrivals, a.own = false
  queued : outcome.1.status = "queued" →
    ∃ block, WholeBatch commands command block ∧ InOneBlock outcome.2.queue.arrivals block

def AllOrNoneFit (capacity : ℕ) (moments : ℕ → Moment ω) (n length : ℕ) : Prop :=
  capacity ≤ lengthAfter capacity length (moments 1).meanwhile ∨
    Accommodates capacity moments (n - 1) 2
      (lengthAfter capacity length (moments 1).meanwhile + 1 - (moments 1).taken)

end Calls

variable {control : EnqueueControl} {u : Unicode} {math : MathFunctions} {command : Chars}
  {result : NluResult} {extras : Context ω} {fallbackContext : Option (Context ω)}
  {moments : ℕ → Moment ω} {moment : Moment ω} {items : List (Item ω)} {sequence : ℕ}

theorem noArrivals_served (items : List (Item ω)) : Served items { items := items } := by
  simp [Served, Arrival.waiting]

theorem noArrivals_kept (items : List (Item ω)) : Kept items { items := items } := by
  simp [Kept, Arrival.waiting]

theorem enqueueWhole_allOrNothing (hmoment : moment = moments 1) :
    AllOrNothing [] command moments items (enqueueWhole control command fallbackContext moment
      { queue := { items := items }, nluBatchSequence := sequence }) := by
  have hserved := put_served control.commandQueue command fallbackContext [] moment
    (noArrivals_served items)
  have hkept (hm : ∀ i, Undisturbed (moments i)) := put_kept control.commandQueue
    command fallbackContext [] (hmoment ▸ hm 1) (noArrivals_kept items)
  rcases lt_or_ge (lengthAfter control.commandQueue.maxSize items.length moment.meanwhile)
    control.commandQueue.maxSize with hroom | hfull
  · obtain ⟨haccepted, -, others, hforeign, -, harrivals⟩ :=
      put_accepted (s := { items := items }) command fallbackContext [] hroom
    refine { served := hserved, undisturbed := hkept, rejected := ?_, queued := ?_ }
    · intro hstatus
      simp [enqueueWhole, haccepted] at hstatus
    · intro _
      refine ⟨[newItem command fallbackContext [] moment.clock],
        { texts := rfl, numbered := fun hne ↦ absurd rfl hne }, others, [], ?_, hforeign, ?_⟩
      · exact harrivals
      · intro a ha
        cases ha
  · obtain ⟨hrefused, others, hforeign, harrivals⟩ :=
      put_refused (s := { items := items }) command fallbackContext [] hfull
    refine { served := hserved, undisturbed := hkept, rejected := ?_, queued := ?_ }
    · intro _ a ha
      have hothers : a ∈ [] ++ others := (congrArg (a ∈ ·) harrivals).mp ha
      exact hforeign a hothers
    · intro hstatus
      simp [enqueueWhole, hrefused] at hstatus

theorem enqueueBatch_refused {batch : Batch ω}
    (hbatch : batch = { batchId := nluBatchId control (sequence + 1)
                        size := result.commands.length
                        sourceText := command
                        extras := extras })
    (h : (putCommands control batch moments 1 result.commands { items := items }).2.1 ≠ none) :
    (enqueueBatch control command result extras moments
        { queue := { items := items }, nluBatchSequence := sequence }).1.status = "rejected" ∧
      (enqueueBatch control command result extras moments
        { queue := { items := items }, nluBatchSequence := sequence }).2.queue =
        (putCommands control batch moments 1 result.commands { items := items }).2.2 := by
  obtain ⟨⟨parsed, snapshot⟩, hsome⟩ := Option.ne_none_iff_exists'.mp h
  subst hbatch
  rw [enqueueBatch, hsome]
  exact ⟨rfl, rfl⟩

theorem enqueueBatch_queued {batch : Batch ω}
    (hbatch : batch = { batchId := nluBatchId control (sequence + 1)
                        size := result.commands.length
                        sourceText := command
                        extras := extras })
    (h : (putCommands control batch moments 1 result.commands { items := items }).2.1 = none) :
    (enqueueBatch control command result extras moments
        { queue := { items := items }, nluBatchSequence := sequence }).1.status = "queued" ∧
      (enqueueBatch control command result extras moments
        { queue := { items := items }, nluBatchSequence := sequence }).2.queue =
        foreignSteps control.commandQueue
          (putCommands control batch moments 1 result.commands { items := items }).2.2
          (moments (result.commands.length + 1)).meanwhile := by
  subst hbatch
  rw [enqueueBatch, h]
  exact ⟨rfl, rfl⟩

theorem exists_batch (control : EnqueueControl) (command : Chars) (result : NluResult)
    (extras : Context ω) (sequence : ℕ) : ∃ batch : Batch ω, batch =
      { batchId := nluBatchId control (sequence + 1)
        size := result.commands.length
        sourceText := command
        extras := extras } := ⟨_, rfl⟩

theorem allOrNothing_of_full (hne : result.commands ≠ [])
    (hfull : control.commandQueue.maxSize ≤
      lengthAfter control.commandQueue.maxSize items.length (moments 1).meanwhile) :
    AllOrNothing result.commands command moments items
      (enqueueBatch control command result extras moments
        { queue := { items := items }, nluBatchSequence := sequence }) := by
  obtain ⟨batch, hbatch⟩ := exists_batch control command result extras sequence
  obtain ⟨parsed, rest, hcommands⟩ := List.exists_cons_of_ne_nil hne
  obtain ⟨hrefused, others, hforeign, harrivals⟩ :=
    putCommands_refused (s := { items := items }) batch parsed rest hfull
  rw [← hcommands] at hrefused harrivals
  obtain ⟨hstatus, hqueue⟩ := enqueueBatch_refused hbatch hrefused
  refine { served := ?_, undisturbed := ?_, rejected := ?_, queued := ?_ }
  · rw [hqueue]
    exact putCommands_served (noArrivals_served items)
  · intro hm
    rw [hqueue]
    exact putCommands_kept hm (noArrivals_kept items)
  · intro _ a ha
    rw [hqueue, harrivals] at ha
    exact hforeign a ha
  · intro hqueued
    rw [hstatus] at hqueued
    exact absurd hqueued (by decide)

theorem accommodates_of_allOrNothing {parsed : ParsedCommand} {rest : List ParsedCommand}
    (hcommands : result.commands = parsed :: rest)
    (hroom : lengthAfter control.commandQueue.maxSize items.length (moments 1).meanwhile <
      control.commandQueue.maxSize)
    (hall : AllOrNothing result.commands command moments items
      (enqueueBatch control command result extras moments
        { queue := { items := items }, nluBatchSequence := sequence })) :
    Accommodates control.commandQueue.maxSize moments rest.length 2
      (lengthAfter control.commandQueue.maxSize items.length (moments 1).meanwhile + 1 -
        (moments 1).taken) := by
  obtain ⟨batch, hbatch⟩ := exists_batch control command result extras sequence
  obtain ⟨s', others, hforeign, -, hlength, harrivals, heq⟩ :=
    putCommands_accepted (s := { items := items }) batch parsed rest hroom
  obtain ⟨more, hmore⟩ := putCommands_grows control batch moments rest 2 s'
  rw [← hcommands] at heq
  rw [harrivals, ← heq] at hmore
  rw [← hlength]
  by_cases hnone :
      (putCommands control batch moments 1 result.commands { items := items }).2.1 = none
  · obtain ⟨hstatus, hqueue⟩ := enqueueBatch_queued hbatch hnone
    obtain ⟨block, hwhole, pre, post, hsplit, hpre, -⟩ := hall.queued hstatus
    obtain ⟨later, hpassed⟩ := foreignSteps_passed control.commandQueue
      (moments (result.commands.length + 1)).meanwhile
      (putCommands control batch moments 1 result.commands { items := items }).2.2
    have hlen : block.length = rest.length + 1 := by
      have htexts := congrArg List.length hwhole.texts
      rw [spokenTexts, if_neg (hcommands ▸ List.cons_ne_nil parsed rest), hcommands] at htexts
      simpa using htexts
    obtain ⟨item, block, rfl⟩ := List.exists_cons_of_length_eq_add_one hlen
    rw [hqueue, hpassed.arrivals] at hsplit
    have hfront := hsplit
    rw [hmore] at hfront
    simp only [List.append_assoc, List.nil_append, Batch.items, List.map_cons, List.map_nil,
      List.cons_append] at hfront
    obtain ⟨rfl, htail⟩ := foreign_prefix_unique hpre hforeign hfront
    refine accommodates_of_contiguous later post (Nat.succ.inj hlen) (heq ▸ hnone) ?_
    rw [← heq, hmore, harrivals]
    simp only [List.append_assoc, htail]
  · -- the first command of the batch is in the queue although the batch was rejected
    obtain ⟨hstatus, hqueue⟩ := enqueueBatch_refused hbatch hnone
    have hown := hall.rejected hstatus
    rw [hqueue, hmore] at hown
    have hmine := hown (Arrival.mk true (newItem parsed.spanText
      (some (batch.context 1 parsed)) (batch.metadata 1 parsed) (moments 1).clock))
      (by simp [Batch.items])
    exact Bool.noConfusion hmine

theorem allOrNothing_of_accommodates {parsed : ParsedCommand} {rest : List ParsedCommand}
    (hcommands : result.commands = parsed :: rest)
    (hroom : lengthAfter control.commandQueue.maxSize items.length (moments 1).meanwhile <
      control.commandQueue.maxSize)
    (hfits : Accommodates control.commandQueue.maxSize moments rest.length 2
      (lengthAfter control.commandQueue.maxSize items.length (moments 1).meanwhile + 1 -
        (moments 1).taken)) :
    AllOrNothing result.commands command moments items
      (enqueueBatch control command result extras moments
        { queue := { items := items }, nluBatchSequence := sequence }) := by
  obtain ⟨batch, hbatch⟩ := exists_batch control command result extras sequence
  obtain ⟨s', others, hforeign, -, hlength, harrivals, heq⟩ :=
    putCommands_accepted (s := { items := items }) batch parsed rest hroom
  rw [← hcommands] at heq
  rw [← hlength] at hfits
  obtain ⟨hnone, hblock⟩ := putCommands_of_accommodates batch hfits
  rw [← heq] at hnone hblock
  obtain ⟨hstatus, hqueue⟩ := enqueueBatch_queued hbatch hnone
  obtain ⟨later, hpassed⟩ := foreignSteps_passed control.commandQueue
    (moments (result.commands.length + 1)).meanwhile
    (putCommands control batch moments 1 result.commands { items := items }).2.2
  refine { served := ?_, undisturbed := ?_, rejected := ?_, queued := ?_ }
  · rw [hqueue]
    exact hpassed.served items (putCommands_served (noArrivals_served items))
  · intro hm
    rw [hqueue, (hm _).1]
    exact putCommands_kept hm (noArrivals_kept items)
  · intro hrejected
    rw [hstatus] at hrejected
    exact absurd hrejected (by decide)
  · intro _
    refine ⟨batch.items moments 1 result.commands, ?_, others, later, ?_, hforeign,
      hpassed.foreign⟩
    · refine { texts := ?_, numbered := fun _ i item hitem ↦ ?_ }
      · rw [items_texts, spokenTexts, if_neg (hcommands ▸ List.cons_ne_nil parsed rest),
          List.map_map]
        rfl
      · have hlookup := items_lookup hitem
        rwa [show batch.size = result.commands.length from hbatch ▸ rfl] at hlookup
    · rw [hqueue, hpassed.arrivals, hblock, harrivals, hcommands]
      simp [Batch.items]

theorem enqueueBatch_allOrNothing_iff (hne : result.commands ≠ []) :
    AllOrNothing result.commands command moments items
        (enqueueBatch control command result extras moments
          { queue := { items := items }, nluBatchSequence := sequence }) ↔
      AllOrNoneFit control.commandQueue.maxSize moments result.commands.length items.length := by
  obtain ⟨parsed, rest, hcommands⟩ := List.exists_cons_of_ne_nil hne
  rcases lt_or_ge (lengthAfter control.commandQueue.maxSize items.length (moments 1).meanwhile)
    control.commandQueue.maxSize with hroom | hfull
  · rw [AllOrNoneFit, or_iff_right hroom.not_ge, hcommands, List.length_cons,
      Nat.add_sub_cancel, ← hcommands]
    exact ⟨accommodates_of_allOrNothing hcommands hroom,
      allOrNothing_of_accommodates hcommands hroom⟩
  · exact iff_of_true (allOrNothing_of_full hne hfull) (.inl hfull)

theorem all_or_nothing_iff (control : EnqueueControl) (u : Unicode) (math : MathFunctions)
    (command : Chars) (extras : Context ω) (fallbackContext : Option (Context ω))
    (moments : ℕ → Moment ω) (items : List (Item ω)) (sequence : ℕ) :
    AllOrNothing (parse u math control.commandNlu command).commands command moments items
        (enqueueCommand control u math command extras fallbackContext moments
          { queue := { items := items }, nluBatchSequence := sequence }) ↔
      ((parse u math control.commandNlu command).commands ≠ [] →
        AllOrNoneFit control.commandQueue.maxSize moments
          (parse u math control.commandNlu command).commands.length items.length) := by
  by_cases hne : (parse u math control.commandNlu command).commands ≠ []
  · rw [enqueueCommand, if_pos hne, enqueueBatch_allOrNothing_iff hne, imp_iff_right hne]
  · refine iff_of_true ?_ fun h ↦ absurd h hne
    rw [enqueueCommand, if_neg hne, not_not.mp hne]
    split_ifs
    · exact
        { served := noArrivals_served items
          undisturbed := fun _ ↦ noArrivals_kept items
          rejected := fun _ _ ha ↦ absurd ha List.not_mem_nil
          queued := fun h ↦ absurd (show "retry" = "queued" from h) (by decide) }
    · exact enqueueWhole_allOrNothing rfl

/-- A control plane whose queue holds two commands. -/
def twoPlaces : EnqueueControl where
  source := "online"
  commandQueue := ContinuousCommandQueue.create 2 (Double.ofRat 30)
  commandNlu := {}

def waiting : List (Item Unit) := [{ text := "前进一秒", context := [] }]

def rightThenForward : Chars := "向右转然后向前走一秒".toList

/-- With one place left, a batch of two is rejected and its first command stays queued. -/
theorem batch_half_queued :
    (parse asciiTables roughMath twoPlaces.commandNlu rightThenForward).commands.map
        (fun parsed ↦ String.ofList parsed.spanText) = ["向右转", "向前走一秒"] ∧
      (enqueueCommand twoPlaces asciiTables roughMath rightThenForward [] none (fun _ ↦ {})
        { queue := { items := waiting } }).1.status = "rejected" ∧
      (enqueueCommand twoPlaces asciiTables roughMath rightThenForward [] none (fun _ ↦ {})
        { queue := { items := waiting } }).2.queue.items.map QueuedCommand.text =
        ["前进一秒", "向右转"] ∧
      ¬ AllOrNothing (parse asciiTables roughMath twoPlaces.commandNlu rightThenForward).commands
        rightThenForward (fun _ ↦ {}) waiting
        (enqueueCommand twoPlaces asciiTables roughMath rightThenForward [] none (fun _ ↦ {})
          { queue := { items := waiting } }) := by
  have hstatus : (enqueueCommand twoPlaces asciiTables roughMath rightThenForward [] none
      (fun _ ↦ {}) { queue := { items := waiting } }).1.status = "rejected" := by decide +kernel
  refine ⟨by decide +kernel, hstatus, by decide +kernel, fun h ↦ ?_⟩
  have hown : (enqueueCommand twoPlaces asciiTables roughMath rightThenForward [] none
      (fun _ ↦ {}) { queue := { items := waiting } }).2.queue.arrivals.any Arrival.own = true := by
    decide +kernel
  obtain ⟨a, ha, hmine⟩ := List.any_eq_true.mp hown
  rw [h.rejected hstatus a ha] at hmine
  cases hmine

end EmbodiedAgent.Agent.CommandBatches
