import CloudflareParallel.SchedulerClients

namespace CloudflareParallel

open LabelledRuns

/-!
# What waits for the initial configuration

The calls of a client get beyond `#ensureInitialConfig` only with the answer,
which comes once and only after the object has the configuration.  Whether the
object still has it is another matter.
-/

/-! ## What a client has sent -/

/-- A call that has not got beyond `#ensureInitialConfig`. -/
def ClientCall.IsEnsuring : ClientCall → Prop
  | .ensuring _ => True
  | _ => False

/-- A call that waits for the configuration or has failed with its error. -/
def ClientCall.IsStuck (err : Thrown) : ClientCall → Prop
  | .ensuring _ => True
  | .failed failure => failure = .configuration err
  | _ => False

/-- How far calls have got, by what has become of the configuration. -/
inductive CallsWait (calls : List ClientCall) : Option ConfigFlight → Prop where
  | notCalled :
      calls = [] →
      CallsWait calls none
  | underWay {arrived : Bool} :
      (∀ call ∈ calls, call.IsEnsuring) →
      CallsWait calls (some ⟨arrived, none⟩)
  | rejected {arrived : Bool} {err : Thrown} :
      (∀ call ∈ calls, call.IsStuck err) →
      CallsWait calls (some ⟨arrived, some (.error err)⟩)
  | accepted :
      CallsWait calls (some ⟨true, some (.ok ())⟩)

/-- The invariant of a client with an initial configuration. -/
def SchedulerClient.IsOrderly (client : SchedulerClient) : Prop :=
  client.opts.initialConfig.isSome →
  CallsWait client.calls client.initialConfigFlight

/-- A waiting call is stuck as well. -/
theorem ClientCall.IsEnsuring.isStuck
    {call : ClientCall}
    (ensuring : call.IsEnsuring)
    (err : Thrown) :
    call.IsStuck err := by
  cases call with
  | ensuring => trivial
  | sent | arrived | polled | drained | failed => cases ensuring

namespace SchedulerClient

section Steps

variable {object : SchedulerState}
variable {client next : SchedulerClient}
variable {called : Option SchedulerCall}
variable {event : ClientEvent}

/-- The options do not change. -/
theorem opts_step
    (stepped : client.step object event = some (next, called)) :
    next.opts = client.opts := by
  cases event with
  | call request =>
      cases stepped
      dsimp only [ensureInitialConfig]
      split <;> rfl
  | settleConfig outcome =>
      dsimp only [step] at stepped
      split at stepped
      · cases stepped
      · split at stepped <;> cases stepped
        rfl
  | deliverConfig | goOn | deliver =>
      obtain ⟨_, -, isNext⟩ := Option.map_eq_some_iff.mp stepped
      cases isNext
      rfl

/-- A call that goes on while its client is stuck fails with the error. -/
theorem isStuck_goOn
    {call later : ClientCall}
    {now : Int}
    {random : String}
    {err : Thrown}
    (rejected : client.ensured = some (.error err))
    (stuck : call.IsStuck err)
    (goes : client.goOn now random call = some later) :
    later.IsStuck err := by
  cases call with
  | ensuring request =>
      dsimp only [goOn] at goes
      rw [rejected] at goes
      cases goes
      rfl
  | failed => cases goes
  | sent | arrived | polled | drained => cases stuck

/-- No call goes on before the answer is there. -/
theorem not_goOn
    {call later : ClientCall}
    {now : Int}
    {random : String}
    (awaits : client.ensured = none)
    (ensuring : call.IsEnsuring) :
    client.goOn now random call ≠ some later := by
  cases call with
  | ensuring request =>
      dsimp only [goOn]
      rw [awaits]
      nofun
  | sent | arrived | polled | drained | failed => cases ensuring

/-- A client with a call that has sent its request is beyond the answer. -/
theorem accepted_of_message
    {flight : Option ConfigFlight}
    {index : Nat}
    {message : ClientMessage}
    (waits : CallsWait client.calls flight)
    (sent : client.message? index = some message) :
    flight = some ⟨true, some (.ok ())⟩ := by
  have isCall : ∃ call ∈ client.calls, ¬ call.IsEnsuring ∧ ∀ err, ¬ call.IsStuck err := by
    unfold message? at sent
    split at sent
    next found =>
      exact ⟨_, List.mem_of_getElem? found, id, fun _ => id⟩
    next => cases sent
  obtain ⟨call, member, notEnsuring, notStuck⟩ := isCall
  cases waits with
  | notCalled empty =>
      rw [empty] at member
      cases member
  | underWay ensuring => exact absurd (ensuring call member) notEnsuring
  | rejected stuck => exact absurd (stuck call member) (notStuck _)
  | accepted => rfl

/-- The promise of the initial `configure` settles as the answer came. -/
theorem callsWait_settle
    {flight : ConfigFlight}
    {outcome : Except Thrown Unit}
    (waits : CallsWait client.calls (some flight))
    (settles : MaySettle flight outcome = true) :
    CallsWait client.calls (some { flight with outcome := some outcome }) := by
  obtain ⟨arrived, known⟩ := flight
  obtain ⟨unknown, possible⟩ := Bool.and_eq_true_iff.mp settles
  cases waits with
  | rejected | accepted => cases unknown
  | underWay ensuring =>
      cases outcome with
      | error err =>
          exact .rejected fun call member => (ensuring call member).isStuck err
      | ok value =>
          cases arrived with
          | false => cases possible
          | true => exact .accepted

/-- A call that goes on leaves the client in order. -/
theorem callsWait_goOn
    {cfg : PartialDispatcherConfig}
    {index : Nat}
    {now : Int}
    {random : String}
    {call later : ClientCall}
    (initial : client.opts.initialConfig = some cfg)
    (waits : CallsWait client.calls client.initialConfigFlight)
    (found : client.calls[index]? = some call)
    (goes : client.goOn now random call = some later) :
    CallsWait (client.calls.set index later) client.initialConfigFlight := by
  have member : call ∈ client.calls := List.mem_of_getElem? found
  have known :
      client.ensured = client.initialConfigFlight.bind (·.outcome) := by
    unfold ensured
    rw [initial]
  generalize client.initialConfigFlight = flight at waits known
  cases waits with
  | notCalled empty =>
      rw [empty] at member
      cases member
  | underWay ensuring =>
      exact absurd goes (not_goOn known (ensuring call member))
  | rejected stuck =>
      refine .rejected fun other isOther => ?_
      rcases List.mem_or_eq_of_mem_set isOther with before | rfl
      · exact stuck other before
      · exact isStuck_goOn known (stuck call member) goes
  | accepted => exact .accepted

/-- Every event leaves the client in order. -/
theorem isOrderly_step
    (stepped : client.step object event = some (next, called))
    (orderly : client.IsOrderly) :
    next.IsOrderly := by
  intro initialNext
  have initial := initialNext
  rw [opts_step stepped] at initial
  have waits := orderly initial
  obtain ⟨cfg, isConfig⟩ := Option.isSome_iff_exists.mp initial
  cases event with
  | call request =>
      cases stepped
      unfold ensureInitialConfig
      rw [isConfig]
      cases isFlight : client.initialConfigFlight with
      | none =>
          rw [isFlight] at waits
          cases waits with
          | notCalled empty =>
              refine .underWay fun call member => ?_
              rw [empty] at member
              cases List.mem_singleton.mp member
              trivial
      | some flight =>
          rw [isFlight] at waits
          dsimp only
          rw [isFlight]
          cases waits with
          | underWay ensuring =>
              refine .underWay fun call member => ?_
              rcases List.mem_append.mp member with before | new
              · exact ensuring call before
              · cases List.mem_singleton.mp new
                trivial
          | rejected stuck =>
              refine .rejected fun call member => ?_
              rcases List.mem_append.mp member with before | new
              · exact stuck call before
              · cases List.mem_singleton.mp new
                trivial
          | accepted => exact .accepted
  | deliverConfig =>
      obtain ⟨_, -, isNext⟩ := Option.map_eq_some_iff.mp stepped
      cases isNext
      generalize client.initialConfigFlight = flight at waits ⊢
      cases waits with
      | notCalled empty => exact .notCalled empty
      | underWay ensuring => exact .underWay ensuring
      | rejected stuck => exact .rejected stuck
      | accepted => exact .accepted
  | settleConfig outcome =>
      dsimp only [step] at stepped
      cases isFlight : client.initialConfigFlight with
      | none =>
          rw [isFlight] at stepped
          cases stepped
      | some flight =>
          rw [isFlight] at stepped waits
          dsimp only at stepped
          split at stepped
          next settles =>
            cases stepped
            exact callsWait_settle waits settles
          next => cases stepped
  | goOn index now random =>
      obtain ⟨later, goes, isNext⟩ := Option.map_eq_some_iff.mp stepped
      cases isNext
      obtain ⟨call, found, wentOn⟩ := Option.bind_eq_some_iff.mp goes
      exact callsWait_goOn isConfig waits found wentOn
  | deliver index groups now =>
      obtain ⟨message, sent, isNext⟩ := Option.map_eq_some_iff.mp stepped
      cases isNext
      have accepted := accepted_of_message waits sent
      dsimp only
      rw [accepted]
      exact .accepted

/-- The initial configuration has reached the object. -/
def hasArrived (client : SchedulerClient) : Bool :=
  client.initialConfigFlight.any (·.arrived)

/-- The answer to the initial configuration. -/
def answer? (client : SchedulerClient) : Option (Except Thrown Unit) :=
  client.initialConfigFlight.bind (·.outcome)

/-- The answer comes once. -/
theorem answer?_step
    {outcome : Except Thrown Unit}
    (stepped : client.step object event = some (next, called))
    (answered : client.answer? = some outcome) :
    next.answer? = some outcome := by
  obtain ⟨flight, isFlight, isOutcome⟩ := Option.bind_eq_some_iff.mp answered
  cases event with
  | call request =>
      cases stepped
      unfold ensureInitialConfig
      rw [isFlight]
      cases client.opts.initialConfig with
      | none | some => exact answered
  | deliverConfig =>
      obtain ⟨_, -, isNext⟩ := Option.map_eq_some_iff.mp stepped
      cases isNext
      unfold answer?
      rw [isFlight]
      exact isOutcome
  | settleConfig other =>
      dsimp only [step] at stepped
      rw [isFlight] at stepped
      dsimp only at stepped
      unfold MaySettle at stepped
      rw [isOutcome] at stepped
      cases stepped
  | goOn | deliver =>
      obtain ⟨_, -, isNext⟩ := Option.map_eq_some_iff.mp stepped
      cases isNext
      exact answered

/-- What a client brings to the object in a step. -/
inductive Brings (client : SchedulerClient) :
    ClientEvent → Bool → Option SchedulerCall → Prop where
  | config {cfg : PartialDispatcherConfig} :
      client.opts.initialConfig = some cfg →
      client.configUnderWay = some cfg →
      client.hasArrived = false →
      Brings client .deliverConfig true (some (.event (.configure cfg)))
  | request {index : Nat} {groups : List (JobStatus × Nat)} {now : Int}
      {message : ClientMessage} :
      client.message? index = some message →
      Brings client (.deliver index groups now) client.hasArrived
        (some (message.toCall groups now))
  | nothing {event : ClientEvent} :
      event ≠ .deliverConfig →
      (∀ index groups now, event ≠ .deliver index groups now) →
      Brings client event client.hasArrived none

/-- A configuration under way is the initial one, and has not arrived. -/
theorem of_configUnderWay
    {cfg : PartialDispatcherConfig}
    (underWay : client.configUnderWay = some cfg) :
    client.opts.initialConfig = some cfg ∧
      ∃ outcome, client.initialConfigFlight = some ⟨false, outcome⟩ := by
  unfold configUnderWay at underWay
  split at underWay
  next outcome isFlight => exact ⟨underWay, outcome, isFlight⟩
  next => cases underWay

/-- Every step of a client brings what the relation says. -/
theorem brings_step
    (stepped : client.step object event = some (next, called)) :
    client.Brings event next.hasArrived called := by
  cases event with
  | call request =>
      cases stepped
      have same :
          (client.ensureInitialConfig).hasArrived = client.hasArrived := by
        unfold ensureInitialConfig hasArrived
        split
        next _ isFlight =>
          rw [isFlight]
          rfl
        next => rfl
      exact same ▸ .nothing nofun nofun
  | deliverConfig =>
      obtain ⟨cfg, underWay, isNext⟩ := Option.map_eq_some_iff.mp stepped
      cases isNext
      obtain ⟨initial, outcome, isFlight⟩ := of_configUnderWay underWay
      have before : client.hasArrived = false := by
        unfold hasArrived
        rw [isFlight]
        rfl
      unfold hasArrived
      dsimp only
      rw [isFlight]
      exact .config initial underWay before
  | settleConfig outcome =>
      dsimp only [step] at stepped
      cases isFlight : client.initialConfigFlight with
      | none =>
          rw [isFlight] at stepped
          cases stepped
      | some flight =>
          rw [isFlight] at stepped
          dsimp only at stepped
          split at stepped
          next =>
            cases stepped
            have same : client.hasArrived = flight.arrived := by
              unfold hasArrived
              rw [isFlight]
              rfl
            exact same ▸ .nothing nofun nofun
          next => cases stepped
  | goOn index now random =>
      obtain ⟨_, -, isNext⟩ := Option.map_eq_some_iff.mp stepped
      cases isNext
      exact .nothing nofun nofun
  | deliver index groups now =>
      obtain ⟨message, sent, isNext⟩ := Option.map_eq_some_iff.mp stepped
      cases isNext
      exact .request sent

end Steps

end SchedulerClient

/-! ## What is in force when a request arrives -/

/-- Two lists of updates, one after the other. -/
theorem configAfter_append
    (earlier later : List PartialDispatcherConfig) :
    configAfter (earlier ++ later) =
      later.foldl DispatcherConfig.overlay (configAfter earlier) := by
  unfold configAfter
  rw [List.foldl_append]

namespace ClientRecord

/-- The tags aside, the record keeps the updates since the object was loaded. -/
theorem updates_addCall
    (record : ClientRecord)
    (sender : Option Nat)
    (call : SchedulerCall)
    (state : SchedulerState) :
    (record.addCall sender call).updates.map Prod.snd =
      recordUpdates state call (record.updates.map Prod.snd) := by
  cases call with
  | stats => rfl
  | event event =>
      cases event with
      | configure c => exact List.map_append
      | _ => rfl

/-- An arrival is no update. -/
theorem updates_addArrival
    (record : ClientRecord)
    (index : Nat)
    (message : ClientMessage)
    (config : DispatcherConfig)
    (sender : Option Nat)
    (call : SchedulerCall) :
    ((record.addArrival index message config).addCall sender call).updates =
      (record.addCall sender call).updates := by
  cases call with
  | stats => rfl
  | event event => cases event <;> rfl

/-- What a record says of the initial configurations. -/
structure IsSound
    (initial : Nat → Option PartialDispatcherConfig)
    (record : ClientRecord) : Prop where
  once : (record.applied.map Prod.fst).Nodup
  notLater : ∀ entry ∈ record.applied, entry.2 ≤ record.loads
  known :
    ∀ index cfg,
      (some index, cfg) ∈ record.updates ↔
        (index, record.loads) ∈ record.applied ∧ initial index = some cfg
  arrivals :
    ∀ arrival ∈ record.arrivals,
    ∀ cfg,
      initial arrival.client = some cfg →
      ∃ load, arrival.FollowsInitialConfig record cfg load

variable {record later : ClientRecord}
variable {initial : Nat → Option PartialDispatcherConfig}

/-- A request stays behind its configuration while the record grows. -/
theorem followed_mono
    {arrival : Arrival}
    {cfg : PartialDispatcherConfig}
    (follows : ∃ load, arrival.FollowsInitialConfig record cfg load)
    (grows : record.applied ⊆ later.applied) :
    ∃ load, arrival.FollowsInitialConfig later cfg load := by
  obtain ⟨load, follows⟩ := follows
  exact ⟨load, { follows with applied := grows follows.applied }⟩

/-- A call that is no initial configuration. -/
theorem IsSound.addCall
    (sound : record.IsSound initial)
    (call : SchedulerCall) :
    (record.addCall none call).IsSound initial := by
  cases call with
  | stats => exact sound
  | event event =>
      cases event with
      | configure c =>
          refine {
            once := sound.once
            notLater := sound.notLater
            known := fun index cfg => ?_
            arrivals := fun arrival member cfg isConfig =>
              followed_mono (sound.arrivals arrival member cfg isConfig)
                (List.Subset.refl _)
          }
          have tagged :
              (some index, cfg) ∈ record.updates ++ [(none, c)] ↔
                (some index, cfg) ∈ record.updates := by
            simp
          exact tagged.trans (sound.known index cfg)
      | evict =>
          refine {
            once := sound.once
            notLater := fun entry member =>
              Nat.le_succ_of_le (sound.notLater entry member)
            known := fun index cfg => ?_
            arrivals := fun arrival member cfg isConfig =>
              followed_mono (sound.arrivals arrival member cfg isConfig)
                (List.Subset.refl _)
          }
          constructor
          · intro member
            cases member
          · rintro ⟨applied, -⟩
            exact absurd (sound.notLater _ applied) (Nat.not_succ_le_self _)
      | _ => exact sound

/-- An initial configuration arrives for the first time. -/
theorem IsSound.addConfig
    {index : Nat}
    {cfg : PartialDispatcherConfig}
    (sound : record.IsSound initial)
    (isConfig : initial index = some cfg)
    (isNew : index ∉ record.applied.map Prod.fst) :
    IsSound initial
      { record.addCall (some index) (.event (.configure cfg)) with
        applied := record.applied ++ [(index, record.loads)] } := by
  refine {
    once := ?_
    notLater := fun entry member => ?_
    known := fun other update => ?_
    arrivals := fun arrival member update isUpdate =>
      followed_mono (sound.arrivals arrival member update isUpdate)
        (List.subset_append_left _ _)
  }
  · rw [List.map_append, List.nodup_append']
    refine ⟨sound.once, List.nodup_singleton _, ?_⟩
    rw [List.map_singleton, List.disjoint_singleton]
    exact isNew
  · rcases List.mem_append.mp member with before | new
    · exact sound.notLater entry before
    · cases List.mem_singleton.mp new
      exact Nat.le_refl _
  · have tagged :
        (some other, update) ∈ record.updates ++ [(some index, cfg)] ↔
          (some other, update) ∈ record.updates ∨
            other = index ∧ update = cfg := by
      simp
    have entered :
        (other, record.loads) ∈ record.applied ++ [(index, record.loads)] ↔
          (other, record.loads) ∈ record.applied ∨ other = index := by
      simp
    refine tagged.trans (Iff.trans ?_ (and_congr_left' entered).symm)
    rw [sound.known other update]
    constructor
    · rintro (⟨applied, isUpdate⟩ | ⟨rfl, rfl⟩)
      · exact ⟨.inl applied, isUpdate⟩
      · exact ⟨.inr rfl, isConfig⟩
    · rintro ⟨applied | rfl, isUpdate⟩
      · exact .inl ⟨applied, isUpdate⟩
      · rw [isConfig] at isUpdate
        exact .inr ⟨rfl, (Option.some.inj isUpdate).symm⟩

/-- A request arrives after the initial configuration of its client. -/
theorem IsSound.addArrival
    {index : Nat}
    {message : ClientMessage}
    {config : DispatcherConfig}
    (sound : record.IsSound initial)
    (inForce : config = configAfter (record.updates.map Prod.snd))
    (arrived :
      (initial index).isSome → index ∈ record.applied.map Prod.fst) :
    (record.addArrival index message config).IsSound initial := by
  refine { sound with arrivals := fun arrival member cfg isConfig => ?_ }
  rcases List.mem_append.mp member with before | new
  · exact
      followed_mono (sound.arrivals arrival before cfg isConfig)
        (List.Subset.refl _)
  cases List.mem_singleton.mp new
  dsimp only at isConfig
  obtain ⟨⟨_, load⟩, applied, rfl⟩ :=
    List.mem_map.mp (arrived (isConfig ▸ rfl))
  refine ⟨load, {
    applied := applied
    notLater := sound.notLater _ applied
    inForce := ?_
  }⟩
  dsimp only
  constructor
  · rintro ⟨earlier, later, split, -⟩
    have member : (some _, cfg) ∈ record.updates :=
      split ▸ List.mem_append_right _ List.mem_cons_self
    obtain ⟨here, -⟩ := (sound.known _ _).mp member
    exact congrArg Prod.snd (List.inj_on_of_nodup_map sound.once applied here rfl)
  · rintro rfl
    obtain ⟨earlier, later, split⟩ :=
      List.append_of_mem ((sound.known _ _).mpr ⟨applied, isConfig⟩)
    refine ⟨earlier, later, split, ?_⟩
    rw [inForce, split, List.map_append, configAfter_append]
    rfl

/-! ### What an event is recorded as -/

section Added

variable {system : SchedulerSystem}
variable {client : SchedulerClient}
variable {index : Nat}

/-- A configuration that arrives is a call, and its client has been applied. -/
theorem add_deliverConfig
    (found : system.clients[index]? = some client)
    {cfg : PartialDispatcherConfig}
    (underWay : client.configUnderWay = some cfg)
    (record : ClientRecord) :
    ClientRecord.add system (.client index .deliverConfig) record =
      { record.addCall (some index) (.event (.configure cfg)) with
        applied := record.applied ++ [(index, record.loads)] } := by
  dsimp only [ClientRecord.add]
  rw [found, Option.bind_some, underWay]

/-- A request that arrives is an arrival and a call. -/
theorem add_deliver
    (found : system.clients[index]? = some client)
    {call : Nat}
    {message : ClientMessage}
    (sent : client.message? call = some message)
    (groups : List (JobStatus × Nat))
    (now : Int)
    (record : ClientRecord) :
    ClientRecord.add system (.client index (.deliver call groups now)) record =
      (record.addArrival index message
        system.object.dispatcher.config).addCall none
          (message.toCall groups now) := by
  dsimp only [ClientRecord.add]
  rw [found, Option.bind_some, sent]

/-- Nothing else that a client does is recorded. -/
theorem add_of_nothing
    {event : ClientEvent}
    (notConfig : event ≠ .deliverConfig)
    (notDelivered : ∀ call groups now, event ≠ .deliver call groups now)
    (system : SchedulerSystem)
    (index : Nat)
    (record : ClientRecord) :
    ClientRecord.add system (.client index event) record = record := by
  cases event with
  | deliverConfig => exact absurd rfl notConfig
  | deliver call groups now => exact absurd rfl (notDelivered _ _ _)
  | call | settleConfig | goOn => rfl

end Added

end ClientRecord

/-- The initial configuration of a client, by its options. -/
def initialOf
    (options : List SchedulerOptions)
    (index : Nat) : Option PartialDispatcherConfig :=
  options[index]?.bind SchedulerOptions.initialConfig

/-- The invariant of the clients, the object and the record. -/
structure SchedulerSystem.IsServed
    (options : List SchedulerOptions)
    (current : SchedulerSystem × ClientRecord) : Prop where
  sameOptions : current.1.clients.map (·.opts) = options
  orderly : ∀ client ∈ current.1.clients, client.IsOrderly
  config :
    current.1.object.dispatcher.config =
      configAfter (current.2.updates.map Prod.snd)
  applied :
    ∀ index client,
      current.1.clients[index]? = some client →
      (index ∈ current.2.applied.map Prod.fst ↔ client.hasArrived = true)
  answered :
    ∀ arrival ∈ current.2.arrivals,
    ∀ client,
      current.1.clients[arrival.client]? = some client →
      client.opts.initialConfig.isSome →
      client.answer? = some (.ok ())
  sound : current.2.IsSound (initialOf options)

namespace SchedulerSystem.IsServed

variable {self : CfpSchedulerDO}
variable {options : List SchedulerOptions}
variable {system : SchedulerSystem}
variable {record : ClientRecord}

/-- The options of a client, at its place. -/
theorem initialOf_eq
    {index : Nat}
    {client : SchedulerClient}
    (served : IsServed options (system, record))
    (found : system.clients[index]? = some client) :
    initialOf options index = client.opts.initialConfig := by
  unfold initialOf
  rw [← served.sameOptions]
  dsimp only
  rw [List.getElem?_map, found]
  rfl

/-- The object's configuration after a call of it. -/
theorem config_called
    {object : SchedulerState}
    {call : SchedulerCall}
    (served : IsServed options (system, record))
    (called : self.stepCall system.object call = some object)
    (sender : Option Nat) :
    object.dispatcher.config =
      configAfter ((record.addCall sender call).updates.map Prod.snd) := by
  rw [ClientRecord.updates_addCall record sender call system.object]
  exact config_stepCall called served.config

/-- Who has been applied changes with no other call. -/
theorem applied_addCall
    (record : ClientRecord)
    (sender : Option Nat)
    (call : SchedulerCall) :
    (record.addCall sender call).applied = record.applied := by
  cases call with
  | stats => rfl
  | event event => cases event <;> rfl

/-- A call of the object is no arrival. -/
theorem arrivals_addCall
    (record : ClientRecord)
    (sender : Option Nat)
    (call : SchedulerCall) :
    (record.addCall sender call).arrivals = record.arrivals := by
  cases call with
  | stats => rfl
  | event event => cases event <;> rfl

/-- A client that has gone on takes its own place. -/
theorem set
    {index : Nat}
    {client next : SchedulerClient}
    {object : SchedulerState}
    {later : ClientRecord}
    (served : IsServed options (system, record))
    (found : system.clients[index]? = some client)
    (sameOptions : next.opts = client.opts)
    (orderly : next.IsOrderly)
    (stays :
      ∀ outcome,
        client.answer? = some outcome → next.answer? = some outcome)
    (config :
      object.dispatcher.config = configAfter (later.updates.map Prod.snd))
    (entered :
      ∀ other,
        other ∈ later.applied.map Prod.fst ↔
          if other = index then next.hasArrived = true
          else other ∈ record.applied.map Prod.fst)
    (answered :
      ∀ arrival ∈ later.arrivals,
        arrival ∈ record.arrivals ∨
          arrival.client = index ∧
            (client.opts.initialConfig.isSome →
              client.answer? = some (.ok ())))
    (sound : later.IsSound (initialOf options)) :
    IsServed options
      ({ clients := system.clients.set index next, object := object },
        later) := by
  refine {
    sameOptions := ?_
    orderly := fun other member => ?_
    config := config
    applied := fun other otherClient isOther => ?_
    answered := fun arrival member otherClient isOther initial => ?_
    sound := sound
  }
  · obtain ⟨bound, rfl⟩ := List.getElem?_eq_some_iff.mp found
    rw [List.map_set, sameOptions, ← List.map_set, List.set_getElem_self]
    exact served.sameOptions
  · rcases List.mem_or_eq_of_mem_set member with before | rfl
    · exact served.orderly other before
    · exact orderly
  · rw [entered other]
    dsimp only at isOther
    rw [List.getElem?_set] at isOther
    split at isOther
    next same =>
      rw [if_pos same.symm]
      split at isOther
      · rw [Option.some.inj isOther]
      · cases isOther
    next differs =>
      rw [if_neg (Ne.symm differs)]
      exact served.applied other otherClient isOther
  · dsimp only at isOther
    rw [List.getElem?_set] at isOther
    split at isOther
    next same =>
      split at isOther
      next =>
        cases isOther
        rw [sameOptions] at initial
        refine stays _ ?_
        rcases answered arrival member with before | ⟨-, ok⟩
        · exact served.answered arrival before client (same ▸ found) initial
        · exact ok initial
      next => cases isOther
    next differs =>
      rcases answered arrival member with before | ⟨isIndex, -⟩
      · exact served.answered arrival before otherClient isOther initial
      · exact absurd isIndex.symm differs

/-- A client goes on, and brings what it brings to the object. -/
theorem client
    {index : Nat}
    {event : ClientEvent}
    {next : SchedulerSystem}
    (served : IsServed options (system, record))
    (stepped : system.step self (.client index event) = some next) :
    IsServed options (next, ClientRecord.add system (.client index event) record) := by
  obtain ⟨client, found, rest⟩ := Option.bind_eq_some_iff.mp stepped
  obtain ⟨⟨after, called⟩, went, reached⟩ := Option.bind_eq_some_iff.mp rest
  have member : client ∈ system.clients := List.mem_of_getElem? found
  have orderly := served.orderly client member
  have orderlyAfter := SchedulerClient.isOrderly_step went orderly
  have sameOptions := SchedulerClient.opts_step went
  have isApplied := served.applied index client found
  have stays :
      ∀ outcome,
        client.answer? = some outcome → after.answer? = some outcome :=
    fun _ => SchedulerClient.answer?_step went
  have stands
      (kept : after.hasArrived = client.hasArrived)
      (other : Nat) :
      other ∈ record.applied.map Prod.fst ↔
        if other = index then after.hasArrived = true
        else other ∈ record.applied.map Prod.fst := by
    split
    next same =>
      subst same
      rw [kept]
      exact isApplied
    next => exact Iff.rfl
  have brings := SchedulerClient.brings_step went
  generalize isArrived : after.hasArrived = arrived at brings
  cases brings with
  | @config cfg initial underWay notArrived =>
      obtain ⟨object, isObject, isNext⟩ := Option.map_eq_some_iff.mp reached
      cases isNext
      have isNew : index ∉ record.applied.map Prod.fst := by
        rw [isApplied, notArrived]
        exact Bool.false_ne_true
      rw [ClientRecord.add_deliverConfig found underWay]
      refine
        served.set found sameOptions orderlyAfter stays
          (served.config_called isObject (some index)) (fun other => ?_)
          (fun _ before => .inl before)
          (served.sound.addConfig
            ((served.initialOf_eq found).trans initial) isNew)
      dsimp only
      rw [List.map_append, List.mem_append, List.map_singleton,
        List.mem_singleton, isArrived]
      split
      next same => simp [same]
      next differs => simp [differs]
  | @request call groups now message sent =>
      obtain ⟨object, isObject, isNext⟩ := Option.map_eq_some_iff.mp reached
      cases isNext
      have arrivedBefore :
          (initialOf options index).isSome →
            index ∈ record.applied.map Prod.fst := by
        rw [served.initialOf_eq found, isApplied]
        intro initial
        unfold SchedulerClient.hasArrived
        rw [SchedulerClient.accepted_of_message (orderly initial) sent]
        rfl
      rw [ClientRecord.add_deliver found sent]
      have config := served.config_called isObject none
      rw [← ClientRecord.updates_addArrival record index message
        system.object.dispatcher.config] at config
      refine
        served.set found sameOptions orderlyAfter stays config
          (fun other => ?_) (fun arrival member => ?_)
          ((served.sound.addArrival served.config arrivedBefore).addCall _)
      · rw [applied_addCall]
        exact stands isArrived other
      · rw [arrivals_addCall] at member
        rcases List.mem_append.mp member with before | new
        · exact .inl before
        · cases List.mem_singleton.mp new
          refine .inr ⟨rfl, fun initial => ?_⟩
          unfold SchedulerClient.answer?
          rw [SchedulerClient.accepted_of_message (orderly initial) sent]
          rfl
  | nothing notConfig notDelivered =>
      cases reached
      rw [ClientRecord.add_of_nothing notConfig notDelivered]
      exact
        served.set found sameOptions orderlyAfter stays served.config
          (stands isArrived) (fun _ before => .inl before) served.sound

/-- Every step keeps the invariant. -/
theorem step
    {event : SystemEvent}
    {next : SchedulerSystem}
    (served : IsServed options (system, record))
    (stepped : system.step self event = some next) :
    IsServed options (next, ClientRecord.add system event record) := by
  cases event with
  | client index event => exact served.client stepped
  | object call =>
      obtain ⟨object, isObject, isNext⟩ := Option.map_eq_some_iff.mp stepped
      cases isNext
      exact {
        sameOptions := served.sameOptions
        orderly := served.orderly
        config := served.config_called isObject none
        applied := by
          dsimp only [ClientRecord.add]
          rw [applied_addCall]
          exact served.applied
        answered := by
          dsimp only [ClientRecord.add]
          rw [arrivals_addCall]
          exact served.answered
        sound := served.sound.addCall call
      }

/-- New clients and a new object. -/
theorem start (options : List SchedulerOptions) :
    IsServed options (SchedulerSystem.start options, {}) where
  sameOptions := List.map_map.trans (List.map_id options)
  orderly := by
    intro client member _
    obtain ⟨opts, -, rfl⟩ := List.mem_map.mp member
    exact .notCalled rfl
  config := rfl
  applied := by
    intro index client found
    obtain ⟨opts, -, rfl⟩ := List.mem_map.mp (List.mem_of_getElem? found)
    exact ⟨fun applied => absurd applied List.not_mem_nil, nofun⟩
  answered := fun _ member => absurd member List.not_mem_nil
  sound := {
    once := .nil
    notLater := fun _ member => absurd member List.not_mem_nil
    known := fun _ _ =>
      ⟨fun member => absurd member List.not_mem_nil,
        fun applied => absurd applied.1 List.not_mem_nil⟩
    arrivals := fun _ member => absurd member List.not_mem_nil
  }

/-- The invariant of a run. -/
theorem of_run
    {events : List SystemEvent}
    (run :
      Run (recording (SchedulerSystem.step self) ClientRecord.add)
        (SchedulerSystem.start options, {}) events (system, record)) :
    IsServed options (system, record) := by
  refine run.invariant ?_ (start options)
  intro current event next _ stepped served
  obtain ⟨after, isAfter, rfl⟩ := Option.map_eq_some_iff.mp stepped
  exact served.step isAfter

end SchedulerSystem.IsServed

section Runs

variable {self : CfpSchedulerDO}
variable {options : List SchedulerOptions}
variable {system : SchedulerSystem}
variable {record : ClientRecord}
variable {events : List SystemEvent}

/--
In every run the initial configuration of a client arrives at most once, and
before every request of the client that waits for it.  It is in force when the
request arrives exactly if the object has not been evicted in between.
-/
theorem requests_follow_initial_config
    (run :
      Run (recording (SchedulerSystem.step self) ClientRecord.add)
        (SchedulerSystem.start options, {}) events (system, record)) :
    (record.applied.map Prod.fst).Nodup ∧
      ∀ arrival ∈ record.arrivals,
      ∀ cfg,
        initialOf options arrival.client = some cfg →
        ∃ load, arrival.FollowsInitialConfig record cfg load := by
  have served := SchedulerSystem.IsServed.of_run run
  exact ⟨served.sound.once, served.sound.arrivals⟩

/-- A client that was refused, and of which the object has no request. -/
def IsRefused
    (options : List SchedulerOptions)
    (index : Nat)
    (err : Thrown)
    (current : SchedulerSystem × ClientRecord) : Prop :=
  SchedulerSystem.IsServed options current ∧
    ∃ client,
      current.1.clients[index]? = some client ∧
        client.opts.initialConfig.isSome ∧
          client.answer? = some (.error err)

/-- A refused client stays refused. -/
theorem isRefused_step
    {index : Nat}
    {err : Thrown}
    {event : SystemEvent}
    {next : SchedulerSystem}
    (refused : IsRefused options index err (system, record))
    (stepped : system.step self event = some next) :
    IsRefused options index err (next, ClientRecord.add system event record) := by
  obtain ⟨served, client, found, initial, answered⟩ := refused
  refine ⟨served.step stepped, ?_⟩
  have bound : index < system.clients.length :=
    (List.getElem?_eq_some_iff.mp found).1
  cases event with
  | object call =>
      obtain ⟨object, -, isNext⟩ := Option.map_eq_some_iff.mp stepped
      cases isNext
      exact ⟨client, found, initial, answered⟩
  | client other event =>
      obtain ⟨moving, isMoving, rest⟩ := Option.bind_eq_some_iff.mp stepped
      obtain ⟨⟨after, called⟩, went, reached⟩ := Option.bind_eq_some_iff.mp rest
      have clients : next.clients = system.clients.set other after := by
        cases called with
        | none =>
            cases reached
            rfl
        | some call =>
            obtain ⟨object, -, isNext⟩ := Option.map_eq_some_iff.mp reached
            cases isNext
            rfl
      dsimp only
      rw [clients]
      by_cases same : other = index
      · subst same
        rw [Option.some.inj (isMoving.symm.trans found)] at went
        refine ⟨after, List.getElem?_set_self bound, ?_, ?_⟩
        · rw [SchedulerClient.opts_step went]
          exact initial
        · exact SchedulerClient.answer?_step went answered
      · rw [List.getElem?_set_ne same]
        exact ⟨client, found, initial, answered⟩

/--
A client whose initial configuration was refused once, or whose answer was
lost, never sends a request of these methods again: in every later run all its
calls wait, or have failed with that same error.
-/
theorem refused_client_sends_nothing
    {index : Nat}
    {client : SchedulerClient}
    {err : Thrown}
    {later : List SystemEvent}
    {final : SchedulerSystem}
    {finalRecord : ClientRecord}
    (run :
      Run (recording (SchedulerSystem.step self) ClientRecord.add)
        (SchedulerSystem.start options, {}) events (system, record))
    (found : system.clients[index]? = some client)
    (initial : client.opts.initialConfig.isSome)
    (refused : client.answer? = some (.error err))
    (wentOn :
      Run (recording (SchedulerSystem.step self) ClientRecord.add)
        (system, record) later (final, finalRecord)) :
    (∃ after,
        final.clients[index]? = some after ∧
          ∀ call ∈ after.calls, call.IsStuck err) ∧
      ∀ arrival ∈ finalRecord.arrivals, arrival.client ≠ index := by
  have served := SchedulerSystem.IsServed.of_run run
  have preserved :
      ∀ {current event next},
        True →
        recording (SchedulerSystem.step self) ClientRecord.add current event =
          some next →
        IsRefused options index err current →
        IsRefused options index err next := by
    intro current event next _ stepped isRefused
    obtain ⟨after, isAfter, rfl⟩ := Option.map_eq_some_iff.mp stepped
    exact isRefused_step isRefused isAfter
  obtain ⟨servedFinal, after, isAfter, initialAfter, answered⟩ :=
    wentOn.invariant preserved ⟨served, client, found, initial, refused⟩
  constructor
  · refine ⟨after, isAfter, ?_⟩
    have waits :=
      servedFinal.orderly after (List.mem_of_getElem? isAfter) initialAfter
    obtain ⟨⟨arrived, outcome⟩, isFlight, rfl⟩ :=
      Option.bind_eq_some_iff.mp answered
    rw [isFlight] at waits
    cases waits with
    | rejected stuck => exact stuck
  · rintro arrival member rfl
    have accepted :=
      servedFinal.answered arrival member after isAfter initialAfter
    rw [answered] at accepted
    cases accepted

end Runs

/-! ## An eviction, and an answer that is lost -/

/-- A scheduler that runs at most eight jobs at a time. -/
def eightAtATime : SchedulerOptions where
  inFlightLimit := some 8

/--
Two calls send the configuration once; the object is evicted after the first
of them has arrived and before the second one does.
-/
def evictsBetween : List SystemEvent :=
  [ .client 0 (.call .stats),
    .client 0 (.call .stats),
    .client 0 .deliverConfig,
    .client 0 (.settleConfig (.ok ())),
    .client 0 (.goOn 0 0 ""),
    .client 0 (.deliver 0 [] 0),
    .object (.event .evict),
    .client 0 (.goOn 1 0 ""),
    .client 0 (.deliver 1 [] 0) ]

/-- Under eight jobs the first request arrives, and under the default the second. -/
theorem requests_follow_initial_config_evictsBetween :
    ∃ system record,
      Run (recording (SchedulerSystem.step .plain) ClientRecord.add)
          (SchedulerSystem.start [eightAtATime], {}) evictsBetween
          (system, record) ∧
        (record.applied.map Prod.fst).Nodup ∧
          record.arrivals.map (·.config.inFlightLimit) = [8, 32] := by
  refine ⟨_, _, .of_foldlM rfl, ?_, rfl⟩
  have run :
      Run (recording (SchedulerSystem.step .plain) ClientRecord.add)
        (SchedulerSystem.start [eightAtATime], {}) evictsBetween _ :=
    .of_foldlM rfl
  exact (requests_follow_initial_config run).1

/-- The configuration arrives, its answer is lost, and a call is made. -/
def losesAnswer : List SystemEvent :=
  [ .client 0 (.call .stats),
    .client 0 .deliverConfig,
    .client 0 (.settleConfig (.error (.string "lost"))) ]

def callsAgain : List SystemEvent :=
  [ .client 0 (.call .drain),
    .client 0 (.goOn 0 0 ""),
    .client 0 (.goOn 1 0 "") ]

/-- Both calls have failed, although the object has the configuration. -/
theorem refused_client_sends_nothing_losesAnswer :
    ∃ system record final finalRecord,
      Run (recording (SchedulerSystem.step .plain) ClientRecord.add)
          (SchedulerSystem.start [eightAtATime], {}) losesAnswer
          (system, record) ∧
        Run (recording (SchedulerSystem.step .plain) ClientRecord.add)
            (system, record) callsAgain (final, finalRecord) ∧
          final.object.dispatcher.config.inFlightLimit = 8 ∧
            ∀ arrival ∈ finalRecord.arrivals, arrival.client ≠ 0 := by
  have run :
      Run (recording (SchedulerSystem.step .plain) ClientRecord.add)
        (SchedulerSystem.start [eightAtATime], {}) losesAnswer _ :=
    .of_foldlM rfl
  refine ⟨_, _, _, _, run, .of_foldlM rfl, rfl, ?_⟩
  exact
    (refused_client_sends_nothing run rfl rfl rfl
      (.of_foldlM
        (show
          callsAgain.foldlM
              (recording (SchedulerSystem.step .plain) ClientRecord.add) _ =
            some _ from rfl))).2

end CloudflareParallel
