import CloudflareParallel.LoaderShims
import CloudflareParallel.PoolNetwork
import CloudflareParallel.SchedulerConfigure

namespace CloudflareParallel

open LabelledRuns

/-!
# `Scheduler` and its initial configuration

Every `Scheduler` sends the tunables of its options once, with the first call
that needs them, and all such calls wait for the answer before they send their
own request.  Requests travel in any order.  The object keeps what it is sent
in its memory only, so an eviction takes it away, and the client, which knows
only that its configuration was accepted once, does not send it again.
-/

/-- `SchedulerOptions`, less what the constructor refuses. -/
structure SchedulerOptions where
  worker : WorkerPoolOptions := {}
  context : Option JsRecord := none
  cacheKeyStrategy : Option CacheKeyStrategy := none
  retry : Option RetryPolicy := none
  /-- `deadline.defaultMs`. -/
  deadlineDefaultMs : Option Int := none
  /-- `resultRetention.ttlMs`. -/
  resultTtlMs : Option Int := none
  inFlightLimit : Option Int := none
  maxQueueDepth : Option QueueBound := none
  fairCapacityPerTenant : Option Int := none

/-- `Job`. -/
structure Job where
  fn : FunctionArgument
  args : List JsValue
  tenantId : Option String := none
  deadlineMs : Option Int := none
  deadline : Option Int := none
  retry : Option RetryPolicy := none
  idempotencyKey : Option String := none
  jobMeta : Option (List (String × String)) := none

def DEFAULT_RETRY : RetryPolicy where
  max := 3
  backoff := .exponential
  baseMs := 200

def DEFAULT_DEADLINE_MS : Int := 60000

namespace SchedulerOptions

/-- `#initialConfig`. -/
def initialConfig (opts : SchedulerOptions) : Option PartialDispatcherConfig :=
  let cfg : PartialDispatcherConfig :=
    { inFlightLimit := opts.inFlightLimit
      maxQueueDepth := opts.maxQueueDepth
      fairCapacityPerTenant := opts.fairCapacityPerTenant
      resultTtlMs := opts.resultTtlMs }
  if cfg = {} then none else some cfg

/-- The request of `enqueue`, for a clock reading and the random text. -/
def enqueueRequest
    (opts : SchedulerOptions)
    (job : Job)
    (now : Int)
    (random : String) : Except SerializationError SchedulerEnqueueRequest := do
  let fnSource ← serializeFunction job.fn
  let fnHash := hashSource fnSource
  return {
    id := s!"j-{fnHash}-{random}"
    tenantId := job.tenantId.getD "default"
    fnSource := fnSource
    fnHash := fnHash
    args := job.args
    context := opts.context
    deadlineEpochMs :=
      match job.deadline, job.deadlineMs with
      | some deadline, _ => deadline
      | none, some deadlineMs => now + deadlineMs
      | none, none => now + opts.deadlineDefaultMs.getD DEFAULT_DEADLINE_MS
    retry := (job.retry.or opts.retry).getD DEFAULT_RETRY
    jobMeta := job.jobMeta
    idempotencyKey := job.idempotencyKey
    workerOptions := some opts.worker.wireWorkerOptions
    allowList := bindingAllowList opts.worker.bindings
    cacheKeyStrategy := some (opts.cacheKeyStrategy.getD .stable)
  }

end SchedulerOptions

/-- The methods that wait for the initial configuration. -/
inductive ClientRequest where
  | enqueue (job : Job)
  | configure (c : PartialDispatcherConfig)
  | stats
  | drain

/-- What a call sends to the object. -/
inductive ClientMessage where
  | enqueue (req : SchedulerEnqueueRequest)
  | configure (c : PartialDispatcherConfig)
  | stats
  /-- `stats`, sent by `drain`. -/
  | poll

/-- Why a call throws before it has sent anything. -/
inductive ClientFailure where
  | configuration (err : Thrown)
  | serialization (err : SerializationError)

/-- A call of a method, at the await where it is suspended. -/
inductive ClientCall where
  /-- Awaits `#ensureInitialConfig`. -/
  | ensuring (request : ClientRequest)
  /-- Its request is under way. -/
  | sent (message : ClientMessage)
  /-- The object has its request. -/
  | arrived (message : ClientMessage)
  /-- `drain` has this answer. -/
  | polled (s : StatsReply)
  | drained
  | failed (failure : ClientFailure)

/-- `#initialConfigFlight`, and whether its request has reached the object. -/
structure ConfigFlight where
  arrived : Bool := false
  outcome : Option (Except Thrown Unit) := none

/-- A `Scheduler`, with the calls of its methods. -/
structure SchedulerClient where
  opts : SchedulerOptions
  initialConfigFlight : Option ConfigFlight := none
  calls : List ClientCall := []

/-- What can happen to a client. -/
inductive ClientEvent where
  /-- A method is called and runs up to its first await. -/
  | call (request : ClientRequest)
  /-- The initial configuration reaches the object. -/
  | deliverConfig
  /-- The promise of the initial `configure` settles. -/
  | settleConfig (outcome : Except Thrown Unit)
  /-- A call goes on. -/
  | goOn (index : Nat) (now : Int) (random : String)
  /-- The request of a call reaches the object. -/
  | deliver (index : Nat) (groups : List (JobStatus × Nat)) (now : Int)

/-- The object is called. -/
def ClientMessage.toCall
    (groups : List (JobStatus × Nat))
    (now : Int) : ClientMessage → SchedulerCall
  | .enqueue req => .event (.enqueue req)
  | .configure c => .event (.configure c)
  | .stats => .stats groups now
  | .poll => .stats groups now

namespace SchedulerClient

/-- `#ensureInitialConfig`, up to its await. -/
def ensureInitialConfig (client : SchedulerClient) : SchedulerClient :=
  match client.opts.initialConfig, client.initialConfigFlight with
  | some _, none => { client with initialConfigFlight := some {} }
  | _, _ => client

/-- What `#ensureInitialConfig` comes to, once it is known. -/
def ensured (client : SchedulerClient) : Option (Except Thrown Unit) :=
  match client.opts.initialConfig with
  | none => some (.ok ())
  | some _ => client.initialConfigFlight.bind (·.outcome)

/-- A call goes on after `#ensureInitialConfig`. -/
def send
    (client : SchedulerClient)
    (now : Int)
    (random : String) : ClientRequest → ClientCall
  | .enqueue job =>
      match client.opts.enqueueRequest job now random with
      | .ok req => .sent (.enqueue req)
      | .error err => .failed (.serialization err)
  | .configure c => .sent (.configure c)
  | .stats => .sent .stats
  | .drain => .sent .poll

/-- A call goes on, if what it awaits is there. -/
def goOn
    (client : SchedulerClient)
    (now : Int)
    (random : String) : ClientCall → Option ClientCall
  | .ensuring request =>
      client.ensured.map fun
        | .ok () => client.send now random request
        | .error err => .failed (.configuration err)
  | .polled s => some (if s.isDrained then .drained else .sent .poll)
  | _ => none

/-- A call whose request has reached the object. -/
def deliver
    (object : SchedulerState)
    (groups : List (JobStatus × Nat))
    (now : Int) : ClientMessage → ClientCall
  | .poll => .polled (object.stats groups now).1
  | message => .arrived message

/-- The message that a call has sent. -/
def message?
    (client : SchedulerClient)
    (index : Nat) : Option ClientMessage :=
  match client.calls[index]? with
  | some (.sent message) => some message
  | _ => none

/-- The initial configuration, while it is under way. -/
def configUnderWay (client : SchedulerClient) : Option PartialDispatcherConfig :=
  match client.initialConfigFlight with
  | some { arrived := false, .. } => client.opts.initialConfig
  | _ => none

/-- The promise of the initial `configure` may settle so. -/
def MaySettle
    (flight : ConfigFlight)
    (outcome : Except Thrown Unit) : Bool :=
  flight.outcome.isNone && (flight.arrived || outcome.toOption.isNone)

/-- What becomes of the client, and the call of the object that it makes. -/
def step
    (object : SchedulerState)
    (client : SchedulerClient) :
    ClientEvent → Option (SchedulerClient × Option SchedulerCall)
  | .call request =>
      let ensuring := client.ensureInitialConfig
      some ({ ensuring with calls := client.calls ++ [.ensuring request] }, none)
  | .deliverConfig =>
      client.configUnderWay.map fun cfg =>
        ({ client with
            initialConfigFlight :=
              client.initialConfigFlight.map ({ · with arrived := true }) },
          some (.event (.configure cfg)))
  | .settleConfig outcome =>
      match client.initialConfigFlight with
      | none => none
      | some flight =>
          if MaySettle flight outcome then
            some
              ({ client with
                  initialConfigFlight :=
                    some { flight with outcome := some outcome } }, none)
          else
            none
  | .goOn index now random =>
      (client.calls[index]?.bind (client.goOn now random)).map fun call =>
        ({ client with calls := client.calls.set index call }, none)
  | .deliver index groups now =>
      (client.message? index).map fun message =>
        ({ client with
            calls :=
              client.calls.set index (deliver object groups now message) },
          some (message.toCall groups now))

end SchedulerClient

/-- The clients of an object, and the object. -/
structure SchedulerSystem where
  clients : List SchedulerClient
  object : SchedulerState := {}

/-- What can happen next: to a client, or at the object. -/
inductive SystemEvent where
  | client (index : Nat) (event : ClientEvent)
  | object (call : SchedulerCall)

namespace SchedulerSystem

/-- New clients, and an object that was never called. -/
def start (options : List SchedulerOptions) : SchedulerSystem where
  clients := options.map fun opts => { opts := opts }

/-- One step of the clients and the object. -/
def step
    (self : CfpSchedulerDO)
    (system : SchedulerSystem) : SystemEvent → Option SchedulerSystem
  | .object call =>
      (self.stepCall system.object call).map fun object =>
        { system with object := object }
  | .client index event =>
      system.clients[index]?.bind fun client =>
        (client.step system.object event).bind fun (next, call) =>
          match call with
          | none => some { system with clients := system.clients.set index next }
          | some call =>
              (self.stepCall system.object call).map fun object =>
                { clients := system.clients.set index next, object := object }

end SchedulerSystem

/-- A request of a client at its arrival. -/
structure Arrival where
  client : Nat
  message : ClientMessage
  /-- How often the object had been evicted. -/
  load : Nat
  /-- The updates since then, with the client if it is its initial one. -/
  updates : List (Option Nat × PartialDispatcherConfig)
  config : DispatcherConfig

/-- What a run has brought to the object. -/
structure ClientRecord where
  loads : Nat := 0
  updates : List (Option Nat × PartialDispatcherConfig) := []
  /-- The clients whose initial configuration has arrived, and when. -/
  applied : List (Nat × Nat) := []
  arrivals : List Arrival := []

namespace ClientRecord

/-- A call of the object, by a client for its initial configuration or not. -/
def addCall
    (record : ClientRecord)
    (sender : Option Nat) : SchedulerCall → ClientRecord
  | .event (.configure c) =>
      { record with updates := record.updates ++ [(sender, c)] }
  | .event .evict =>
      { record with updates := [], loads := record.loads + 1 }
  | _ => record

/-- A request is at the object, which is about to go on. -/
def addArrival
    (record : ClientRecord)
    (index : Nat)
    (message : ClientMessage)
    (config : DispatcherConfig) : ClientRecord :=
  { record with
    arrivals := record.arrivals ++
      [{ client := index
         message := message
         load := record.loads
         updates := record.updates
         config := config }] }

/-- The record after an event. -/
def add
    (system : SchedulerSystem)
    (event : SystemEvent)
    (record : ClientRecord) : ClientRecord :=
  match event with
  | .object call => record.addCall none call
  | .client index .deliverConfig =>
      match system.clients[index]?.bind (·.configUnderWay) with
      | none => record
      | some cfg =>
          { record.addCall (some index) (.event (.configure cfg)) with
            applied := record.applied ++ [(index, record.loads)] }
  | .client index (.deliver call groups now) =>
      match system.clients[index]?.bind (·.message? call) with
      | none => record
      | some message =>
          (record.addArrival index message system.object.dispatcher.config).addCall
            none (message.toCall groups now)
  | .client _ _ => record

end ClientRecord

namespace Arrival

/--
The initial configuration of the client has arrived before its request, and is
among the updates in force exactly if the object has not been evicted since.
-/
structure FollowsInitialConfig
    (arrival : Arrival)
    (record : ClientRecord)
    (cfg : PartialDispatcherConfig)
    (load : Nat) : Prop where
  applied : (arrival.client, load) ∈ record.applied
  notLater : load ≤ arrival.load
  inForce :
    (∃ earlier later,
      arrival.updates = earlier ++ (some arrival.client, cfg) :: later ∧
        arrival.config =
          (later.map Prod.snd).foldl DispatcherConfig.overlay
            ((configAfter (earlier.map Prod.snd)).overlay cfg)) ↔
      load = arrival.load

end Arrival

end CloudflareParallel
