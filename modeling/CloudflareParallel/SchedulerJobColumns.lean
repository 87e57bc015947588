import CloudflareParallel.Library.JsonCodecs
import CloudflareParallel.Library.SqlRows
import CloudflareParallel.SchedulerJobStore

namespace CloudflareParallel

open JsonValues SqlRows

/-!
# The columns of a job

What the two adapters write into the columns of the `jobs` table and read back
from them.  `DoStorageJobStore` encodes most documents as bytes and
`D1JobStore` as texts; the columns and the fields are the same.
-/

/-! ## Values and documents -/

mutual

/--
The document that `JSON.stringify` writes for a value which it does not take
for `undefined`.  What becomes of a value that JSON has not is a parameter.
-/
def JsValue.json (exoticJson : JsExotic → Json) : JsValue → Json
  | .undefined => .null
  | .null => .null
  | .bool value => .bool value
  | .number (.finite text) => .number ⟨text⟩
  | .number .negativeZero => .number ⟨"0"⟩
  | .number .nonFinite => .null
  | .string value => .string value
  | .array items => .array (jsonItems exoticJson items)
  | .object entries => .object (jsonEntries exoticJson entries)
  | .exotic kind => exoticJson kind

/-- The items of an array. -/
def jsonItems (exoticJson : JsExotic → Json) : List JsValue → List Json
  | [] => []
  | item :: rest => item.json exoticJson :: jsonItems exoticJson rest

/-- The properties of an object that have a text. -/
def jsonEntries (exoticJson : JsExotic → Json) :
    List (String × JsValue) → List (String × Json)
  | [] => []
  | (key, value) :: rest =>
      if value.stringifiesToUndefined then
        jsonEntries exoticJson rest
      else
        (key, value.json exoticJson) :: jsonEntries exoticJson rest

end

mutual

/-- What `JSON.parse` makes of the text of a document. -/
def JsValue.ofJson : Json → JsValue
  | .null => .null
  | .bool value => .bool value
  | .number value => .number (.finite value.text)
  | .string value => .string value
  | .array items => .array (valuesOfJson items)
  | .object properties => .object (entriesOfJson properties)

/-- The items of an array. -/
def valuesOfJson : List Json → List JsValue
  | [] => []
  | item :: rest => JsValue.ofJson item :: valuesOfJson rest

/-- The properties of an object. -/
def entriesOfJson : List (String × Json) → List (String × JsValue)
  | [] => []
  | (key, value) :: rest =>
      (key, JsValue.ofJson value) :: entriesOfJson rest

end

/-- A value that JSON can carry; negative zero is written as zero. -/
inductive JsValue.IsJson : JsValue → Prop where
  | null :
      IsJson .null
  | bool (value : Bool) :
      IsJson (.bool value)
  | number (text : String) :
      IsJson (.number (.finite text))
  | string (value : String) :
      IsJson (.string value)
  | array {items : List JsValue} :
      (∀ item ∈ items, IsJson item) →
      IsJson (.array items)
  | object {entries : List (String × JsValue)} :
      (∀ entry ∈ entries, IsJson entry.2) →
      IsJson (.object entries)

/-- Such a value has a text. -/
theorem JsValue.IsJson.stringifies
    {value : JsValue}
    (isJson : value.IsJson) :
    value.stringifiesToUndefined = false := by
  cases isJson <;> rfl

/-- A value that JSON can carry is read back. -/
theorem JsValue.IsJson.ofJson_json
    {value : JsValue}
    (isJson : value.IsJson)
    (exoticJson : JsExotic → Json) :
    JsValue.ofJson (value.json exoticJson) = value := by
  induction isJson with
  | null | bool | number | string =>
      simp [JsValue.json, JsValue.ofJson]
  | @array items _ inductionHypothesis =>
      have itemsRead :
          valuesOfJson (jsonItems exoticJson items) = items := by
        clear * - inductionHypothesis
        induction items with
        | nil => simp [jsonItems, valuesOfJson]
        | cons item rest restRead =>
            rw [jsonItems, valuesOfJson,
              inductionHypothesis item List.mem_cons_self,
              restRead fun other member =>
                inductionHypothesis other (List.mem_cons_of_mem _ member)]
      rw [JsValue.json, JsValue.ofJson, itemsRead]
  | @object entries members inductionHypothesis =>
      have entriesRead :
          entriesOfJson (jsonEntries exoticJson entries) = entries := by
        induction entries with
        | nil => simp [jsonEntries, entriesOfJson]
        | cons entry rest restRead =>
            obtain ⟨key, value⟩ := entry
            have isJson := members (key, value) List.mem_cons_self
            rw [jsonEntries, if_neg (by simp [isJson.stringifies]),
              entriesOfJson,
              inductionHypothesis (key, value) List.mem_cons_self,
              restRead
                (fun other member =>
                  members other (List.mem_cons_of_mem _ member))
                (fun other member =>
                  inductionHypothesis other
                    (List.mem_cons_of_mem _ member))]
      rw [JsValue.json, JsValue.ofJson, entriesRead]

/-- `dec(enc(value))`: a value without a text is written as `null`. -/
def JsValue.decoded
    (exoticJson : JsExotic → Json)
    (value : JsValue) : JsValue :=
  if value.stringifiesToUndefined then
    .null
  else
    .ofJson (value.json exoticJson)

/-- Where a value without a text is held as `null`, the same is read back. -/
@[simp] theorem JsValue.decoded_encodedResult
    (exoticJson : JsExotic → Json)
    (value : JsValue) :
    (encodedResult value).decoded exoticJson = value.decoded exoticJson := by
  unfold encodedResult
  split
  next noText =>
    unfold decoded
    rw [noText]
    rfl
  next => rfl

/-- What is held of a value that JSON can carry, or of none, is read back. -/
theorem JsValue.decoded_eq
    {value : JsValue}
    (carried : value.IsJson ∨ value.stringifiesToUndefined = true)
    (exoticJson : JsExotic → Json) :
    value.decoded exoticJson = encodedResult value := by
  unfold decoded encodedResult
  rcases carried with isJson | noText
  · rw [isJson.stringifies]
    exact isJson.ofJson_json exoticJson
  · rw [noText]
    rfl

/-- What `result` answers, with the value as it is read back. -/
def JobStore.JobResult.decoded
    (exoticJson : JsExotic → Json)
    (answer : JobStore.JobResult) : JobStore.JobResult :=
  { answer with value := answer.value.map (·.decoded exoticJson) }

/-- `JSON.parse(text) as unknown[]`. -/
def valuesOf? (document : Json) : Option (List JsValue) :=
  match JsValue.ofJson document with
  | .array items => some items
  | _ => none

/-- `JSON.parse(text) as Record<string, unknown>`. -/
def recordOf? (document : Json) : Option JsRecord :=
  match JsValue.ofJson document with
  | .object entries => some entries
  | _ => none

/-! ## Texts -/

/-- The text of a backoff curve. -/
def RetryBackoff.text : RetryBackoff → String
  | .exponential => "exponential"
  | .linear => "linear"
  | .constant => "constant"

/-- `text as RetryBackoff`. -/
def RetryBackoff.ofText? (text : String) : Option RetryBackoff :=
  [.exponential, .linear, .constant].find? fun backoff => backoff.text = text

@[simp]
theorem RetryBackoff.ofText?_text (backoff : RetryBackoff) :
    ofText? backoff.text = some backoff := by
  cases backoff <;> decide

/-- `text as JobStatus`. -/
def JobStatus.ofText? (text : String) : Option JobStatus :=
  [.queued, .leased, .running, .done, .failed, .cancelled].find? fun status =>
    status.text = text

@[simp]
theorem JobStatus.ofText?_text (status : JobStatus) :
    ofText? status.text = some status := by
  cases status <;> decide

/-- The text of a cache-key strategy. -/
def CacheKeyStrategy.text : CacheKeyStrategy → String
  | .stable => "stable"
  | .fresh => "fresh"
  | .auto => "auto"

/-- `text as 'stable' | 'fresh' | 'auto'`. -/
def CacheKeyStrategy.ofText? (text : String) : Option CacheKeyStrategy :=
  [.stable, .fresh, .auto].find? fun strategy => strategy.text = text

@[simp]
theorem CacheKeyStrategy.ofText?_text (strategy : CacheKeyStrategy) :
    ofText? strategy.text = some strategy := by
  cases strategy <;> decide

/-- A strategy has a text, so it counts as present. -/
theorem CacheKeyStrategy.text_ne_empty (strategy : CacheKeyStrategy) :
    strategy.text ≠ "" := by
  cases strategy <;> decide

/-- The text of an outbound policy. -/
def WireOutbound.text : WireOutbound → String
  | .inherit => "inherit"
  | .sandboxed => "sandboxed"

/-! ## Records -/

instance : JsonCodec WireOutbound where
  toJson outbound := .string outbound.text
  ofJson? json :=
    json.asString?.bind fun text =>
      [.inherit, .sandboxed].find? fun outbound => outbound.text = text
  ofJson?_toJson outbound := by
    cases outbound <;> decide

/-- The limits as `JSON.stringify` writes them. -/
def WorkerCodeLimits.json (limits : WorkerCodeLimits) : Json :=
  .record
    [ ("cpuMs", limits.cpuMs.map JsonCodec.toJson),
      ("subRequests", limits.subRequests.map JsonCodec.toJson) ]

/-- `JSON.parse(text) as WorkerCodeLimits`. -/
def WorkerCodeLimits.ofJson? (json : Json) : Option WorkerCodeLimits := do
  let cpuMs ← JsonCodec.optional json "cpuMs"
  let subRequests ← JsonCodec.optional json "subRequests"
  return { cpuMs := cpuMs, subRequests := subRequests }

instance : JsonCodec WorkerCodeLimits where
  toJson := WorkerCodeLimits.json
  ofJson? := WorkerCodeLimits.ofJson?
  ofJson?_toJson limits := by
    have cpuMs :
        JsonCodec.optional limits.json "cpuMs" = some limits.cpuMs :=
      JsonCodec.optional_of_get? (by simp [WorkerCodeLimits.json])
    have subRequests :
        JsonCodec.optional limits.json "subRequests" =
          some limits.subRequests :=
      JsonCodec.optional_of_get? (by simp [WorkerCodeLimits.json])
    rw [WorkerCodeLimits.ofJson?, cpuMs, subRequests]
    rfl

/-- Worker options as `JSON.stringify` writes them. -/
def WireWorkerOptions.json (options : WireWorkerOptions) : Json :=
  .record
    [ ("compatibilityDate", options.compatibilityDate.map JsonCodec.toJson),
      ("compatibilityFlags", options.compatibilityFlags.map JsonCodec.toJson),
      ("globalOutbound", options.globalOutbound.map JsonCodec.toJson),
      ("limits", options.limits.map JsonCodec.toJson),
      ("tailBindingName", options.tailBindingName.map JsonCodec.toJson) ]

/-- `JSON.parse(text) as PersistedJob['workerOptions']`. -/
def WireWorkerOptions.ofJson? (json : Json) : Option WireWorkerOptions := do
  let compatibilityDate ← JsonCodec.optional json "compatibilityDate"
  let compatibilityFlags ← JsonCodec.optional json "compatibilityFlags"
  let globalOutbound ← JsonCodec.optional json "globalOutbound"
  let limits ← JsonCodec.optional json "limits"
  let tailBindingName ← JsonCodec.optional json "tailBindingName"
  return {
    compatibilityDate := compatibilityDate
    compatibilityFlags := compatibilityFlags
    globalOutbound := globalOutbound
    limits := limits
    tailBindingName := tailBindingName
  }

instance : JsonCodec WireWorkerOptions where
  toJson := WireWorkerOptions.json
  ofJson? := WireWorkerOptions.ofJson?
  ofJson?_toJson options := by
    have compatibilityDate :
        JsonCodec.optional options.json "compatibilityDate" =
          some options.compatibilityDate :=
      JsonCodec.optional_of_get? (by simp [WireWorkerOptions.json])
    have compatibilityFlags :
        JsonCodec.optional options.json "compatibilityFlags" =
          some options.compatibilityFlags :=
      JsonCodec.optional_of_get? (by simp [WireWorkerOptions.json])
    have globalOutbound :
        JsonCodec.optional options.json "globalOutbound" =
          some options.globalOutbound :=
      JsonCodec.optional_of_get? (by simp [WireWorkerOptions.json])
    have limits :
        JsonCodec.optional options.json "limits" = some options.limits :=
      JsonCodec.optional_of_get? (by simp [WireWorkerOptions.json])
    have tailBindingName :
        JsonCodec.optional options.json "tailBindingName" =
          some options.tailBindingName :=
      JsonCodec.optional_of_get? (by simp [WireWorkerOptions.json])
    rw [WireWorkerOptions.ofJson?, compatibilityDate, compatibilityFlags,
      globalOutbound, limits, tailBindingName]
    rfl

/-- An error as `JSON.stringify` writes it. -/
def ErrorRecord.json (error : ErrorRecord) : Json :=
  .record
    [ ("name", some (.string error.name)),
      ("message", some (.string error.message)),
      ("stack", error.stack.map JsonCodec.toJson),
      ("originalName", error.originalName.map JsonCodec.toJson) ]

/-- `JSON.parse(text)` of an error. -/
def ErrorRecord.ofJson? (json : Json) : Option ErrorRecord := do
  let name ← JsonCodec.required json "name"
  let message ← JsonCodec.required json "message"
  let stack ← JsonCodec.optional json "stack"
  let originalName ← JsonCodec.optional json "originalName"
  return {
    name := name
    message := message
    stack := stack
    originalName := originalName
  }

instance : JsonCodec ErrorRecord where
  toJson := ErrorRecord.json
  ofJson? := ErrorRecord.ofJson?
  ofJson?_toJson error := by
    have name : JsonCodec.required error.json "name" = some error.name :=
      JsonCodec.required_of_get? (by simp [ErrorRecord.json]; rfl)
    have message :
        JsonCodec.required error.json "message" = some error.message :=
      JsonCodec.required_of_get? (by simp [ErrorRecord.json]; rfl)
    have stack :
        JsonCodec.optional error.json "stack" = some error.stack :=
      JsonCodec.optional_of_get? (by simp [ErrorRecord.json])
    have originalName :
        JsonCodec.optional error.json "originalName" =
          some error.originalName :=
      JsonCodec.optional_of_get? (by simp [ErrorRecord.json])
    rw [ErrorRecord.ofJson?, name, message, stack, originalName]
    rfl

/-! ## Columns -/

/-- The columns of the `jobs` table. -/
inductive JobsColumn where
  | id
  | tenantId
  | fnHash
  | fnSource
  | args
  | context
  | workerOptions
  | allowList
  | jobMeta
  | createdAt
  | deadlineMs
  | retryMax
  | retryCount
  | retryBaseMs
  | retryBackoff
  | status
  | leaseOwner
  | leaseExpiresMs
  | result
  | resultExpiresMs
  | error
  | idempotencyKey
  | cacheKeyStrategy
  deriving Repr, DecidableEq

/-- A row of the `jobs` table, column by column. -/
abbrev JobsRecord := SqlRow JobsColumn

/-- A value that JavaScript takes for true; the text of a document is one. -/
def isTruthy : SqlValue → Bool
  | .null => false
  | .integer value => value ≠ 0
  | .text value => value ≠ ""
  | .json _ => true
  | .blob _ => true

/-- What the two adapters do differently. -/
structure JobsAdapter where
  /-- What `JSON.stringify` makes of a value that JSON has not. -/
  exoticJson : JsExotic → Json
  /-- `enc`, or what is bound for a text. -/
  enc : Json → SqlValue
  /-- `dec`, or `JSON.parse`. -/
  dec : SqlValue → Option Json
  /-- What `ack` binds for a result; it may reject one without a text. -/
  bindResult : Option Json → Option SqlValue
  /-- What a new instance makes of the stored schema version. -/
  initSchema : Option Int → Option Int
  /-- The order in which the database comes to the rows that it selects. -/
  scan : ScanOrder JobsRecord
  dec_enc (document : Json) : dec (enc document) = some document
  isTruthy_enc (document : Json) : isTruthy (enc document) = true
  bindResult_enc {text : Option Json} {bound : SqlValue} :
    bindResult text = some bound →
      bound = .ofOption enc text ∨ bound = enc .null

attribute [simp] JobsAdapter.dec_enc JobsAdapter.isTruthy_enc

/-- The columns of a row. -/
def JobsRow.columns
    (row : JobsRow)
    (adapter : JobsAdapter) : JobsRecord
  | .id => .text row.id
  | .tenantId => .text row.tenantId
  | .fnHash => .text row.fnHash
  | .fnSource => .text row.fnSource
  | .args => adapter.enc ((JsValue.array row.args).json adapter.exoticJson)
  | .context =>
      .ofOption
        (fun context =>
          adapter.enc ((JsValue.object context).json adapter.exoticJson))
        row.context
  | .workerOptions =>
      .ofOption (fun options => adapter.enc options.json) row.workerOptions
  | .allowList =>
      .ofOption (fun keys => .json (JsonCodec.toJson keys)) row.allowList
  | .jobMeta =>
      .ofOption (fun entries => .json (JsonCodec.entries.toJson entries))
        row.jobMeta
  | .createdAt => .integer row.createdAt
  | .deadlineMs => .integer row.deadlineMs
  | .retryMax => .integer row.retryMax
  | .retryCount => .integer row.retryCount
  | .retryBaseMs => .integer row.retryBaseMs
  | .retryBackoff => .text row.retryBackoff.text
  | .status => .text row.status.text
  | .leaseOwner => .ofOption .text row.leaseOwner
  | .leaseExpiresMs => .ofOption .integer row.leaseExpiresMs
  | .result =>
      .ofOption (fun value => adapter.enc (value.json adapter.exoticJson))
        row.result
  | .resultExpiresMs => .ofOption .integer row.resultExpiresMs
  | .error => .ofOption (fun error => .json error.json) row.error
  | .idempotencyKey => .ofOption .text row.idempotencyKey
  | .cacheKeyStrategy =>
      .ofOption (fun strategy => .text strategy.text) row.cacheKeyStrategy

/-- `column ? read(column) : undefined`. -/
def readTruthy
    {α : Type}
    (read : SqlValue → Option α)
    (column : SqlValue) : Option (Option α) :=
  if isTruthy column then (read column).map some else some none

/-- `column ?? undefined`. -/
def readNullable
    {α : Type}
    (read : SqlValue → Option α) : SqlValue → Option (Option α)
  | .null => some none
  | column => (read column).map some

/-- `rowToJob`; nothing if a column does not hold a value of its type. -/
def JobsAdapter.rowToJob
    (adapter : JobsAdapter)
    (row : JobsRecord) : Option PersistedJob := do
  let id ← (row .id).text?
  let tenantId ← (row .tenantId).text?
  let fnHash ← (row .fnHash).text?
  let fnSource ← (row .fnSource).text?
  let args ← (adapter.dec (row .args)).bind valuesOf?
  let context ←
    readTruthy (fun column => (adapter.dec column).bind recordOf?)
      (row .context)
  let workerOptions ←
    readTruthy
      (fun column => (adapter.dec column).bind WireWorkerOptions.ofJson?)
      (row .workerOptions)
  let allowList ←
    readTruthy (fun column => column.json?.bind JsonCodec.ofJson?)
      (row .allowList)
  let jobMeta ←
    readTruthy (fun column => column.json?.bind JsonCodec.entries.ofJson?)
      (row .jobMeta)
  let createdAt ← (row .createdAt).integer?
  let deadlineEpochMs ← (row .deadlineMs).integer?
  let max ← (row .retryMax).integer?
  let backoff ← (row .retryBackoff).text?.bind RetryBackoff.ofText?
  let baseMs ← (row .retryBaseMs).integer?
  let retryCount ← (row .retryCount).integer?
  let status ← (row .status).text?.bind JobStatus.ofText?
  let leaseOwner ← readNullable SqlValue.text? (row .leaseOwner)
  let leaseExpiresMs ← readNullable SqlValue.integer? (row .leaseExpiresMs)
  let result ←
    readTruthy (fun column => (adapter.dec column).map JsValue.ofJson)
      (row .result)
  let resultExpiresMs ← readNullable SqlValue.integer? (row .resultExpiresMs)
  let error ←
    readTruthy (fun column => column.json?.bind ErrorRecord.ofJson?)
      (row .error)
  let idempotencyKey ← readNullable SqlValue.text? (row .idempotencyKey)
  let cacheKeyStrategy ←
    readTruthy (fun column => column.text?.bind CacheKeyStrategy.ofText?)
      (row .cacheKeyStrategy)
  return {
    id := id
    tenantId := tenantId
    fnHash := fnHash
    fnSource := fnSource
    args := args
    context := context
    workerOptions := workerOptions
    allowList := allowList
    jobMeta := jobMeta
    createdAt := createdAt
    deadlineEpochMs := deadlineEpochMs
    retry := { max := max, backoff := backoff, baseMs := baseMs }
    retryCount := retryCount
    status := status
    leaseOwner := leaseOwner
    leaseExpiresMs := leaseExpiresMs
    result := result
    resultExpiresMs := resultExpiresMs
    error := error
    idempotencyKey := idempotencyKey
    cacheKeyStrategy := cacheKeyStrategy
  }

/-! ## Reading back -/

section ReadBack

variable {α : Type} {ofValue : α → SqlValue}

/-- A value that was written because it was there is read back. -/
theorem readTruthy_ofOption
    {read : SqlValue → Option α}
    {value : Option α}
    (truthy : ∀ present ∈ value, isTruthy (ofValue present) = true)
    (reads : ∀ present ∈ value, read (ofValue present) = some present) :
    readTruthy read (.ofOption ofValue value) = some value := by
  unfold readTruthy
  cases value with
  | none => rfl
  | some present =>
      change
        (if isTruthy (ofValue present) then
            (read (ofValue present)).map some
          else
            some none) =
          _
      rw [if_pos (truthy present rfl), reads present rfl]
      rfl

theorem readNullable_text (value : Option String) :
    readNullable SqlValue.text? (.ofOption .text value) = some value := by
  cases value <;> rfl

theorem readNullable_integer (value : Option Int) :
    readNullable SqlValue.integer? (.ofOption .integer value) =
      some value := by
  cases value <;> rfl

end ReadBack

/-- What the row holds of its job's data are JSON values. -/
structure JobsRow.IsJson (row : JobsRow) : Prop where
  args : ∀ arg ∈ row.args, arg.IsJson
  context : ∀ context ∈ row.context, ∀ entry ∈ context, entry.2.IsJson
  result : ∀ value ∈ row.result, value.IsJson

/-- The job of a row of JSON values is read back from its columns. -/
theorem JobsRow.IsJson.rowToJob_columns
    {row : JobsRow}
    (isJson : row.IsJson)
    (adapter : JobsAdapter) :
    adapter.rowToJob (row.columns adapter) = some (rowToJob row) := by
  have args :
      (adapter.dec (row.columns adapter .args)).bind valuesOf? =
        some row.args := by
    have array : (JsValue.array row.args).IsJson := .array isJson.args
    rw [columns, adapter.dec_enc, Option.bind_some, valuesOf?,
      array.ofJson_json]
  have context :
      readTruthy (fun column => (adapter.dec column).bind recordOf?)
          (row.columns adapter .context) =
        some row.context := by
    refine readTruthy_ofOption (fun _ _ => adapter.isTruthy_enc _) ?_
    intro context present
    have object : (JsValue.object context).IsJson :=
      .object (isJson.context context present)
    rw [adapter.dec_enc, Option.bind_some, recordOf?, object.ofJson_json]
  have workerOptions :
      readTruthy
          (fun column =>
            (adapter.dec column).bind WireWorkerOptions.ofJson?)
          (row.columns adapter .workerOptions) =
        some row.workerOptions := by
    refine readTruthy_ofOption (fun _ _ => adapter.isTruthy_enc _) ?_
    intro options _
    rw [adapter.dec_enc, Option.bind_some]
    exact JsonCodec.ofJson?_toJson options
  have allowList :
      readTruthy (fun column => column.json?.bind JsonCodec.ofJson?)
          (row.columns adapter .allowList) =
        some row.allowList :=
    readTruthy_ofOption (fun _ _ => rfl) fun keys _ =>
      JsonCodec.ofJson?_toJson keys
  have jobMeta :
      readTruthy (fun column => column.json?.bind JsonCodec.entries.ofJson?)
          (row.columns adapter .jobMeta) =
        some row.jobMeta :=
    readTruthy_ofOption (fun _ _ => rfl) fun entries _ =>
      JsonCodec.entries.ofJson?_toJson entries
  have result :
      readTruthy (fun column => (adapter.dec column).map JsValue.ofJson)
          (row.columns adapter .result) =
        some row.result := by
    refine readTruthy_ofOption (fun _ _ => adapter.isTruthy_enc _) ?_
    intro value present
    rw [adapter.dec_enc, Option.map_some,
      (isJson.result value present).ofJson_json]
  have error :
      readTruthy (fun column => column.json?.bind ErrorRecord.ofJson?)
          (row.columns adapter .error) =
        some row.error :=
    readTruthy_ofOption (fun _ _ => rfl) fun error _ =>
      JsonCodec.ofJson?_toJson error
  have cacheKeyStrategy :
      readTruthy
          (fun column => column.text?.bind CacheKeyStrategy.ofText?)
          (row.columns adapter .cacheKeyStrategy) =
        some row.cacheKeyStrategy :=
    readTruthy_ofOption
      (fun strategy _ => decide_eq_true strategy.text_ne_empty)
      fun strategy _ => strategy.ofText?_text
  have backoff :
      (row.columns adapter .retryBackoff).text?.bind RetryBackoff.ofText? =
        some row.retryBackoff :=
    row.retryBackoff.ofText?_text
  have status :
      (row.columns adapter .status).text?.bind JobStatus.ofText? =
        some row.status :=
    row.status.ofText?_text
  have leaseOwner :
      readNullable SqlValue.text? (row.columns adapter .leaseOwner) =
        some row.leaseOwner :=
    readNullable_text row.leaseOwner
  have leaseExpiresMs :
      readNullable SqlValue.integer? (row.columns adapter .leaseExpiresMs) =
        some row.leaseExpiresMs :=
    readNullable_integer row.leaseExpiresMs
  have resultExpiresMs :
      readNullable SqlValue.integer? (row.columns adapter .resultExpiresMs) =
        some row.resultExpiresMs :=
    readNullable_integer row.resultExpiresMs
  have idempotencyKey :
      readNullable SqlValue.text? (row.columns adapter .idempotencyKey) =
        some row.idempotencyKey :=
    readNullable_text row.idempotencyKey
  rw [JobsAdapter.rowToJob, args, context, workerOptions, allowList, jobMeta,
    backoff, status, leaseOwner, leaseExpiresMs, result, resultExpiresMs,
    error, idempotencyKey, cacheKeyStrategy]
  rfl

end CloudflareParallel
