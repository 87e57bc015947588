import CloudflareParallel.ErrorWire

namespace CloudflareParallel

open JsonValues KeyedTables

/-!
# What the wire keeps of an error

Every error of the library has a wire form that decodes, and what it decodes to
is computed here node by node.  It is the same error unless a node belongs to a
class that the decoder does not know, is a cancellation without a reason, or an
execution error without a remote name or stack, or has a cause that is no error
of the library.
-/

/-- What an error of a class comes back as. -/
def ErrorClass.decoded
    (cls : ErrorClass)
    (stack : Option String) : ErrorClass :=
  match cls with
  | .parallelError message =>
      .executionError message stack (some "ParallelError")
  | .executionError message remoteStack originalName =>
      .executionError message (remoteStack.or stack)
        (some (originalName.getD "ExecutionError"))
  | .cancelledError none => .cancelledError (some "Cancelled")
  | .queueFullError depth maxDepth =>
      .executionError (ErrorClass.queueFullError depth maxDepth).message stack
        (some "QueueFullError")
  | cls => cls

/-- What a cause that is not of the library comes back as. -/
def foreignDecoded
    (stackOf : String → Option String)
    (name message : String)
    (stack : Option String) : ParallelError :=
  .create stackOf fun newStack =>
    .classed (.executionError message stack (some name)) newStack .undefined

mutual

/-- The members of every aggregate are the entries of a map. -/
def ParallelError.HasMaps : ParallelError → Prop
  | .classed _ _ cause => causeHasMaps cause
  | .retryExhaustedError _ _ lastError => errorHasMaps lastError
  | .aggregateExecutionError errors _ _ =>
      (errors.map Prod.fst).Nodup ∧ membersHaveMaps errors

/-- The same for a cause. -/
def causeHasMaps : Cause ParallelError → Prop
  | .error err => errorHasMaps err
  | _ => True

/-- The same for an error in the place of a cause. -/
def errorHasMaps : ErrorObject ParallelError → Prop
  | .library err => err.HasMaps
  | .native _ => True

/-- The same for the members of an aggregate. -/
def membersHaveMaps : List (JsonNumber × ParallelError) → Prop
  | [] => True
  | (_, err) :: rest => err.HasMaps ∧ membersHaveMaps rest

end

mutual

/-- What an error comes back as. -/
def ParallelError.decoded
    (stackOf : String → Option String) : ParallelError → ParallelError
  | .classed cls stack cause =>
      .create stackOf fun newStack =>
        .classed (cls.decoded stack) newStack (causeDecoded stackOf cause)
  | .retryExhaustedError attempts _ lastError =>
      .create stackOf fun newStack =>
        .retryExhaustedError attempts newStack
          (.library (errorDecoded stackOf lastError))
  | .aggregateExecutionError errors partialResults _ =>
      .create stackOf fun newStack =>
        .aggregateExecutionError (membersDecoded stackOf errors) partialResults
          newStack

/-- What a cause comes back as. -/
def causeDecoded
    (stackOf : String → Option String) :
    Cause ParallelError → Cause ParallelError
  | .undefined => .undefined
  | .null => .undefined
  | .error err => .error (.library (errorDecoded stackOf err))
  | .other asText =>
      .error (.library (foreignDecoded stackOf "NonError" asText none))

/-- What an error in the place of a cause comes back as. -/
def errorDecoded
    (stackOf : String → Option String) :
    ErrorObject ParallelError → ParallelError
  | .library err => err.decoded stackOf
  | .native err => foreignDecoded stackOf err.name err.message err.stack

/-- What the members of an aggregate come back as. -/
def membersDecoded
    (stackOf : String → Option String) :
    List (JsonNumber × ParallelError) → List (JsonNumber × ParallelError)
  | [] => []
  | (index, err) :: rest =>
      (index, err.decoded stackOf) :: membersDecoded stackOf rest

end

/-! ## Decoding -/

/-- A wire form carries what the decoder reads of a class. -/
structure WireError.Carries
    (wire : WireError)
    (cls : ErrorClass)
    (stack : Option String) : Prop where
  name : wire.name = cls.name
  code : wire.code = cls.code
  message : wire.message = cls.message
  stack : wire.stack = cls.wireStack stack
  originalName : wire.originalName = cls.originalName
  extra : wire.extra = cls.extra

/-- The class is decoded from the wire form. -/
theorem wireToClass_json
    {wire : WireError}
    {cls : ErrorClass}
    {stack : Option String}
    (carries : wire.Carries cls stack) :
    wireToClass (some cls.code) wire.json = some (cls.decoded stack) := by
  obtain ⟨name, -, message, sent, sentName, extra⟩ := carries
  unfold wireToClass
  rw [wire.get?_message, wire.get?_name, wire.get?_stack,
    wire.get?_originalName, name, message, sent, sentName]
  dsimp only [Option.bind_eq_bind, Option.bind_some, Json.asString?]
  cases cls with
  | cancelledError reason =>
      cases reason <;>
        simp [ErrorClass.code, extra, ErrorClass.extra] <;> rfl
  | deadlineExceededError ms =>
      simp [ErrorClass.code, extra, ErrorClass.extra, ms.2]
      rfl
  | executionError message remoteStack originalName =>
      cases originalName <;> cases remoteStack <;> cases stack <;>
        rfl
  | parallelError _ | queueFullError _ _ =>
      cases stack <;>
        rfl
  | serializationError _ | disconnectedError _ | outOfMemoryError _
    | bindingError _ | conflictError _ | topologyError _
    | policyRequiredError _ => rfl
  | _ =>
      simp [ErrorClass.code, extra, ErrorClass.extra]
      rfl

/-- A foreign error is decoded as an execution error. -/
theorem wireToClass_foreign (wire : WireError) :
    wireToClass (some .execution) wire.json =
      some
        (.executionError wire.message wire.stack
          (some (wire.originalName.getD wire.name))) := by
  unfold wireToClass
  rw [wire.get?_message, wire.get?_name, wire.get?_stack,
    wire.get?_originalName]
  cases wire.originalName <;> cases wire.stack <;> rfl

section Decoding

variable (stackOf : String → Option String)

/-- The cause in a wire form, decoded. -/
def wireCause (wire : Json) : Option (Option ParallelError) :=
  match wire.get? "cause" with
  | none => some none
  | some .null => some none
  | some wireCause => (wireToError stackOf wireCause).map some

/-- The members in a wire form, decoded. -/
def wireMembers (wire : Json) : Option (List (JsonNumber × ParallelError)) :=
  (mapEntriesOf wire "errorEntries" "error").bind fun entries =>
    entries.mapM fun entry => (wireToError stackOf entry.2).map (entry.1, ·)

/-- `wireToError` decodes the cause and the members, and then switches. -/
theorem wireToError_eq (wire : Json) :
    wireToError stackOf wire =
      (wireCause stackOf wire).bind fun cause =>
        wireSwitch stackOf wire cause (wireMembers stackOf wire) := by
  rw [wireToError]
  refine congrArg₂
    (fun cause members =>
      Option.bind cause fun cause => wireSwitch stackOf wire cause members)
    ?_ ?_
  · unfold wireCause
    split <;> simp_all
  · unfold wireMembers
    split
    next unread =>
      rw [unread]
      rfl
    next entries listed =>
      rw [listed, Option.bind_some]
      have sameEntry
          (entry : JsonNumber × Json)
          (_ : entry ∈ entries) :
          (wireToError stackOf entry.2).map (entry.1, ·) =
            (wireToError stackOf entry.2).map (entry.1, ·) :=
        rfl
      rw [List.mapM_subtype sameEntry, List.unattach_attach]

variable {stackOf}

/-- The switch rebuilds a class that takes its cause as an option. -/
theorem wireSwitch_class
    {wire : WireError}
    {cls : ErrorClass}
    {stack : Option String}
    (carries : wire.Carries cls stack)
    (cause : Option ParallelError)
    (members : Option (List (JsonNumber × ParallelError))) :
    wireSwitch stackOf wire.json cause members =
      some
        (.create stackOf fun newStack =>
          .classed (cls.decoded stack) newStack (causedBy cause)) := by
  have decoded := wireToClass_json carries
  unfold wireSwitch
  rw [wire.get?_code, carries.code]
  simp only [Option.bind_eq_bind, Option.bind_some, Json.asString?,
    ErrorCode.ofText?_text]
  cases cls <;> exact congrArg (Option.bind · _) decoded

/-- A cause that is decoded. -/
theorem wireCause_of_some
    {wire : WireError}
    {cause : Json}
    {err : ParallelError}
    (isCause : wire.cause = some cause)
    (isWire : ∃ wireCause : WireError, cause = wireCause.json)
    (decoded : wireToError stackOf cause = some err) :
    wireCause stackOf wire.json = some (some err) := by
  obtain ⟨wireCause, rfl⟩ := isWire
  unfold CloudflareParallel.wireCause
  rw [wire.get?_cause, isCause]
  change (wireToError stackOf wireCause.json).map some = _
  rw [decoded, Option.map_some]

/-- The wire form of an error is that of some wire error. -/
theorem exists_wire_errorCauseToWire (err : ErrorObject ParallelError) :
    ∃ wire : WireError, errorCauseToWire err = wire.json := by
  cases err with
  | library err => cases err <;> exact ⟨_, rfl⟩
  | native err => exact ⟨_, rfl⟩

/-- An error without a cause. -/
theorem wireCause_of_none
    {wire : WireError}
    (noCause : wire.cause = none) :
    wireCause stackOf wire.json = some none := by
  unfold wireCause
  rw [wire.get?_cause, noCause]

/-- An error that is not of the library is decoded. -/
theorem wireToError_foreign
    {wire : WireError}
    (code : wire.code = .execution)
    (noCause : wire.cause = none) :
    wireToError stackOf wire.json =
      some
        (foreignDecoded stackOf (wire.originalName.getD wire.name) wire.message
          wire.stack) := by
  rw [wireToError_eq, wireCause_of_none noCause, Option.bind_some]
  unfold wireSwitch
  rw [wire.get?_code, code]
  simp only [Option.bind_eq_bind, Option.bind_some, Json.asString?,
    ErrorCode.ofText?_text, wireToClass_foreign]
  rfl

/-- The keys of the members stay. -/
theorem map_fst_membersDecoded
    (errors : List (JsonNumber × ParallelError)) :
    (membersDecoded stackOf errors).map Prod.fst = errors.map Prod.fst := by
  induction errors with
  | nil =>
      rfl
  | cons entry rest inductionHypothesis =>
      exact congrArg (entry.1 :: ·) inductionHypothesis

/-- An entry is read back. -/
theorem mapEntryOf_mapEntry
    (index : JsonNumber)
    {key : String}
    (otherKey : key ≠ "index")
    (value : Json) :
    mapEntryOf key (mapEntry index key value) = some (index, value) := by
  simp [mapEntryOf, mapEntry, Json.asNumber?, otherKey, Ne.symm otherKey]

/-- The members of a wire form are read back. -/
theorem mapM_errorEntries
    (errors : List (JsonNumber × ParallelError)) :
    (errorEntries errors).mapM (mapEntryOf "error") =
      some (errors.map fun entry => (entry.1, entry.2.toJSON)) := by
  induction errors with
  | nil =>
      rfl
  | cons entry rest inductionHypothesis =>
      rw [errorEntries, List.mapM_cons, inductionHypothesis,
        mapEntryOf_mapEntry entry.1 (by simp)]
      rfl

/-- A list of entries in `extra` is read. -/
theorem mapEntriesOf_json
    {wire : WireError}
    {property key : String}
    {items : List Json}
    {entries : List (JsonNumber × Json)}
    (listed : (wire.extra.getD .null).get? property = some (.array items))
    (read : items.mapM (mapEntryOf key) = some entries) :
    mapEntriesOf wire.json property key = some entries := by
  unfold mapEntriesOf
  rw [extraOf_json, listed]
  exact read

/-- The partial results of a wire form are read back. -/
theorem mapM_partialResultEntries
    (partialResults : OrderedMap JsonNumber Json) :
    (partialResultEntries partialResults).mapM (mapEntryOf "value") =
      some partialResults.rows := by
  have read :=
    @mapM_map_of_reads _ _ (mapEntryOf "value") _ partialResults.rows
      (fun entry => mapEntry entry.1 "value" entry.2) id
      fun entry _ => mapEntryOf_mapEntry entry.1 (by simp) entry.2
  rw [List.map_id] at read
  exact read

mutual

/-- Every error decodes from its wire form, to what is computed for it. -/
theorem wireToError_toJSON :
    (err : ParallelError) →
    err.HasMaps →
    wireToError stackOf err.toJSON = some (err.decoded stackOf)
  | .classed cls stack cause, maps => by
      let wire : WireError := {
        name := cls.name
        code := cls.code
        message := cls.message
        httpStatus := cls.httpStatus
        stack := cls.wireStack stack
        originalName := cls.originalName
        extra := cls.extra
        cause := causeToWire cause
      }
      have carries : wire.Carries cls stack := ⟨rfl, rfl, rfl, rfl, rfl, rfl⟩
      obtain ⟨decoded, isDecoded, same⟩ :=
        wireCause_causeToWire cause maps wire rfl
      change wireToError stackOf wire.json = _
      rw [wireToError_eq, isDecoded, Option.bind_some,
        wireSwitch_class carries, same]
      rfl
  | .retryExhaustedError attempts stack lastError, maps => by
      have decoded := wireToError_errorCauseToWire lastError maps
      rw [ParallelError.toJSON, wireToError_eq,
        wireCause_of_some rfl (exists_wire_errorCauseToWire lastError) decoded,
        Option.bind_some]
      unfold wireSwitch
      rw [WireError.get?_code, WireError.get?_message, extraOf_json]
      simp only [Option.bind_eq_bind, Option.bind_some, Json.asString?,
        ErrorCode.ofText?_text, Option.getD_some, Json.get?_record_cons,
        if_true, Option.some_or, Json.numberOr_number]
      rfl
  | .aggregateExecutionError errors partialResults stack, maps => by
      have members := mapM_wireToError errors maps.2
      have distinct : ((membersDecoded stackOf errors).map Prod.fst).Nodup := by
        rw [map_fst_membersDecoded]
        exact maps.1
      let extra :=
        Json.record
          [ ("errorEntries", some (.array (errorEntries errors))),
            ("partialResultEntries",
              some (.array (partialResultEntries partialResults))) ]
      let wire : WireError := {
        name := "AggregateExecutionError"
        code := .aggregateExecution
        message :=
          (ParallelError.aggregateExecutionError errors partialResults
            stack).message
        httpStatus := 500
        stack := stack
        extra := some extra
      }
      have errorsRead :
          mapEntriesOf wire.json "errorEntries" "error" =
            some (errors.map fun entry => (entry.1, entry.2.toJSON)) :=
        mapEntriesOf_json (by simp [wire, extra]) (mapM_errorEntries errors)
      have partialsRead :
          mapEntriesOf wire.json "partialResultEntries" "value" =
            some partialResults.rows :=
        mapEntriesOf_json (by simp [wire, extra])
          (mapM_partialResultEntries partialResults)
      change wireToError stackOf wire.json = _
      rw [wireToError_eq, wireCause_of_none rfl, Option.bind_some]
      unfold wireSwitch wireMembers
      rw [wire.get?_code, errorsRead, partialsRead]
      simp only [Option.bind_eq_bind, Option.bind_some, Json.asString?,
        ErrorCode.ofText?_text, members, OrderedMap.ofList_rows,
        OrderedMap.rows_ofList distinct, wire]
      rfl

/-- Every cause decodes from its wire form. -/
theorem wireCause_causeToWire :
    (cause : Cause ParallelError) →
    causeHasMaps cause →
    ∀ wire : WireError,
      wire.cause = causeToWire cause →
      ∃ decoded,
        wireCause stackOf wire.json = some decoded ∧
          causedBy decoded = causeDecoded stackOf cause
  | .undefined, _, _, noCause => ⟨_, wireCause_of_none noCause, rfl⟩
  | .null, _, _, noCause => ⟨_, wireCause_of_none noCause, rfl⟩
  | .error err, maps, _, isCause =>
      ⟨_, wireCause_of_some isCause (exists_wire_errorCauseToWire err)
        (wireToError_errorCauseToWire err maps), rfl⟩
  | .other _, _, _, isCause =>
      ⟨_, wireCause_of_some isCause ⟨_, rfl⟩ (wireToError_foreign rfl rfl), rfl⟩

/-- Every error in the place of a cause decodes from its wire form. -/
theorem wireToError_errorCauseToWire :
    (err : ErrorObject ParallelError) →
    errorHasMaps err →
    wireToError stackOf (errorCauseToWire err) =
      some (errorDecoded stackOf err)
  | .library err, maps => wireToError_toJSON err maps
  | .native _, _ => wireToError_foreign rfl rfl

/-- The members of an aggregate decode from their wire forms. -/
theorem mapM_wireToError :
    (errors : List (JsonNumber × ParallelError)) →
    membersHaveMaps errors →
    ((errors.map fun entry => (entry.1, entry.2.toJSON)).mapM fun entry =>
        (wireToError stackOf entry.2).map (entry.1, ·)) =
      some (membersDecoded stackOf errors)
  | [], _ => rfl
  | (index, err) :: rest, maps => by
      rw [List.map_cons, List.mapM_cons, wireToError_toJSON err maps.1,
        mapM_wireToError rest maps.2]
      rfl

end

end Decoding

/-! ## What survives -/

mutual

/-- An error without what the runtime has recorded as its stack. -/
def ParallelError.withoutStacks : ParallelError → ParallelError
  | .classed cls _ cause => .classed cls none (causeWithoutStacks cause)
  | .retryExhaustedError attempts _ lastError =>
      .retryExhaustedError attempts none (errorWithoutStacks lastError)
  | .aggregateExecutionError errors partialResults _ =>
      .aggregateExecutionError (membersWithoutStacks errors) partialResults none

/-- The same for a cause. -/
def causeWithoutStacks : Cause ParallelError → Cause ParallelError
  | .error err => .error (errorWithoutStacks err)
  | cause => cause

/-- The same for an error in the place of a cause. -/
def errorWithoutStacks : ErrorObject ParallelError → ErrorObject ParallelError
  | .library err => .library err.withoutStacks
  | .native err => .native { err with stack := none }

/-- The same for the members of an aggregate. -/
def membersWithoutStacks :
    List (JsonNumber × ParallelError) → List (JsonNumber × ParallelError)
  | [] => []
  | (index, err) :: rest =>
      (index, err.withoutStacks) :: membersWithoutStacks rest

end

/--
Two errors have the same class, code and message, and the same arguments, causes
and members.
-/
structure ParallelError.SameAs (err other : ParallelError) : Prop where
  name : err.name = other.name
  code : err.code = other.code
  message : err.message = other.message
  contents : err.withoutStacks = other.withoutStacks

/-- A class that the decoder knows and whose arguments it finds. -/
def ErrorClass.survives
    (cls : ErrorClass)
    (stack : Option String) : Bool :=
  match cls with
  | .parallelError _ => false
  | .queueFullError _ _ => false
  | .cancelledError reason => reason.isSome
  | .executionError _ remoteStack originalName =>
      originalName.isSome && (remoteStack.isSome || stack.isNone)
  | _ => true

mutual

/-- Every node survives, and every cause is an error of the library. -/
def ParallelError.survives : ParallelError → Bool
  | .classed cls stack cause => cls.survives stack && causeSurvives cause
  | .retryExhaustedError _ _ lastError => errorSurvives lastError
  | .aggregateExecutionError errors _ _ => membersSurvive errors

/-- The same for a cause. -/
def causeSurvives : Cause ParallelError → Bool
  | .undefined => true
  | .error err => errorSurvives err
  | _ => false

/-- The same for an error in the place of a cause. -/
def errorSurvives : ErrorObject ParallelError → Bool
  | .library err => err.survives
  | .native _ => false

/-- The same for the members of an aggregate. -/
def membersSurvive : List (JsonNumber × ParallelError) → Bool
  | [] => true
  | (_, err) :: rest => err.survives && membersSurvive rest

end

/-- A class comes back as it was exactly if it survives. -/
theorem ErrorClass.decoded_eq_iff
    (cls : ErrorClass)
    (stack : Option String) :
    cls.decoded stack = cls ↔ cls.survives stack := by
  cases cls with
  | cancelledError reason =>
      cases reason <;> simp [decoded, survives]
  | executionError message remoteStack originalName =>
      cases originalName <;> cases remoteStack <;> cases stack <;>
        simp [decoded, survives]
  | _ => simp [decoded, survives]

section Surviving

variable {stackOf : String → Option String}

mutual

/-- An error comes back as it was exactly if it survives. -/
theorem decoded_same_iff :
    (err : ParallelError) →
    ((err.decoded stackOf).withoutStacks = err.withoutStacks ↔ err.survives)
  | .classed cls stack cause => by
      have sameClass := cls.decoded_eq_iff stack
      have sameCause := causeDecoded_same_iff cause
      rw [ParallelError.survives, Bool.and_eq_true, ← sameClass, ← sameCause]
      change ParallelError.classed _ _ _ = .classed _ _ _ ↔ _
      rw [ParallelError.classed.injEq]
      simp
  | .retryExhaustedError attempts _ lastError => by
      rw [ParallelError.survives, ← errorDecoded_same_iff lastError]
      change
        ParallelError.retryExhaustedError _ _ _ = .retryExhaustedError _ _ _ ↔ _
      rw [ParallelError.retryExhaustedError.injEq]
      simp
  | .aggregateExecutionError errors partialResults _ => by
      rw [ParallelError.survives, ← membersDecoded_same_iff errors]
      change
        ParallelError.aggregateExecutionError _ _ _ =
            .aggregateExecutionError _ _ _ ↔
          _
      rw [ParallelError.aggregateExecutionError.injEq]
      simp

/-- A cause comes back as it was exactly if it survives. -/
theorem causeDecoded_same_iff :
    (cause : Cause ParallelError) →
    (causeWithoutStacks (causeDecoded stackOf cause) =
        causeWithoutStacks cause ↔
      causeSurvives cause)
  | .undefined => by
      simp [causeDecoded, causeWithoutStacks, causeSurvives]
  | .null => by
      simp [causeDecoded, causeWithoutStacks, causeSurvives]
  | .error err => by
      rw [causeDecoded, causeWithoutStacks, causeWithoutStacks,
        Cause.error.injEq, causeSurvives]
      exact errorDecoded_same_iff err
  | .other _ => by
      simp [causeDecoded, causeWithoutStacks, causeSurvives]

/-- The same for an error in the place of a cause. -/
theorem errorDecoded_same_iff :
    (err : ErrorObject ParallelError) →
    (errorWithoutStacks (.library (errorDecoded stackOf err)) =
        errorWithoutStacks err ↔
      errorSurvives err)
  | .library err => by
      rw [errorWithoutStacks, errorWithoutStacks, ErrorObject.library.injEq]
      exact decoded_same_iff err
  | .native _ => by
      simp [errorWithoutStacks, errorSurvives]

/-- The same for the members of an aggregate. -/
theorem membersDecoded_same_iff :
    (errors : List (JsonNumber × ParallelError)) →
    (membersWithoutStacks (membersDecoded stackOf errors) =
        membersWithoutStacks errors ↔
      membersSurvive errors)
  | [] => by
      simp [membersDecoded, membersSurvive]
  | (index, err) :: rest => by
      rw [membersSurvive, Bool.and_eq_true, ← decoded_same_iff err,
        ← membersDecoded_same_iff rest]
      simp [membersDecoded, membersWithoutStacks]

end

/-- The stack plays no part in a message. -/
theorem message_withoutStacks :
    (err : ParallelError) → err.withoutStacks.message = err.message
  | .classed _ _ _ => rfl
  | .retryExhaustedError attempts _ (.library err) =>
      congrArg (retryExhaustedMessage attempts) (message_withoutStacks err)
  | .retryExhaustedError _ _ (.native _) => rfl
  | .aggregateExecutionError [] _ _ => rfl
  | .aggregateExecutionError ((_, first) :: rest) _ _ => by
      have sameLength : (membersWithoutStacks rest).length = rest.length := by
        induction rest with
        | nil => rfl
        | cons entry rest inductionHypothesis =>
            exact congrArg (· + 1) inductionHypothesis
      rw [ParallelError.withoutStacks, membersWithoutStacks,
        ParallelError.message, ParallelError.message, sameLength,
        message_withoutStacks first]

/-- Errors with the same contents have the same class, code and message. -/
theorem ParallelError.sameAs_iff
    {err other : ParallelError} :
    err.SameAs other ↔ err.withoutStacks = other.withoutStacks := by
  refine ⟨SameAs.contents, fun same => ?_⟩
  have name (err : ParallelError) : err.withoutStacks.name = err.name := by
    cases err <;> rfl
  have code (err : ParallelError) : err.withoutStacks.code = err.code := by
    cases err <;> rfl
  exact {
    name := by rw [← name err, same, name]
    code := by rw [← code err, same, code]
    message := by
      rw [← message_withoutStacks err, same, message_withoutStacks]
    contents := same
  }

end Surviving

/-! ## The round trip -/

/-- An error of the library whose aggregates hold maps. -/
structure LibraryError where
  err : ParallelError
  maps : err.HasMaps

namespace LibraryError

/-- The JSON of the wire form decodes to the same error. -/
def RoundTrips
    (stackOf : String → Option String)
    (err : LibraryError) : Prop :=
  ∃ back,
    wireToError stackOf (errorToWire (.library err.err)) = some back ∧
      back.SameAs err.err

/-- The JSON of the wire form decodes to what is decoded of the error. -/
theorem roundTrips_iff_sameAs
    (stackOf : String → Option String)
    (err : LibraryError) :
    err.RoundTrips stackOf ↔ (err.err.decoded stackOf).SameAs err.err := by
  unfold RoundTrips errorToWire
  rw [wireToError_toJSON err.err err.maps]
  simp

/--
An error makes the round trip exactly if every error in it, to any depth, is of
a class that the decoder knows, every cancellation has a reason, every execution
error its remote name and stack, and every cause is an error of the library.
-/
theorem roundTrips_iff
    (stackOf : String → Option String)
    (err : LibraryError) :
    err.RoundTrips stackOf ↔ err.err.survives := by
  rw [roundTrips_iff_sameAs, ParallelError.sameAs_iff, decoded_same_iff]

/-- A full queue. -/
def queueFull : LibraryError where
  err := .classed (.queueFullError ⟨"10"⟩ ⟨"10"⟩) none .undefined
  maps := trivial

/-- A cancellation without a reason. -/
def cancelled : LibraryError where
  err := .classed (.cancelledError none) none .undefined
  maps := trivial

/--
A full queue comes back as an execution error, and a cancellation without a
reason with a doubled message.
-/
theorem not_roundTrips_queueFull :
    ¬ queueFull.RoundTrips (fun _ => none) ∧
      ¬ cancelled.RoundTrips (fun _ => none) ∧
        (cancelled.err.decoded fun _ => none).message =
          "Cancelled: Cancelled" := by
  refine ⟨?_, ?_, by decide +kernel⟩
  · rw [roundTrips_iff_sameAs, ParallelError.sameAs_iff, decoded_same_iff]
    decide
  · rw [roundTrips_iff_sameAs, ParallelError.sameAs_iff, decoded_same_iff]
    decide

end LibraryError

end CloudflareParallel
