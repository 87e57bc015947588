import CloudflareParallel.CoordinatorProtocol

namespace CloudflareParallel

/-!
# The one-shot streams of cancellation

`createCancelStream` makes a stream and its writer; the generated module and
`forkCancelStream` acquire its reader and read once.  `OneShotStream` is the
state of one such stream: a chunk nobody has read, whether its writer has
settled, and the reader that holds the lock with its read pending.
-/

/-- A cancel stream, together with its writer. -/
structure OneShotStream where
  chunk : Option String := none
  settled : Bool := false
  reader : Option Nat := none
  deriving Repr, DecidableEq

/-- The text of the chunk that `cancel(reason)` enqueues. -/
def chunkText (reason : Option String) : String :=
  reason.getD "cancelled"

/-- `new TextDecoder().decode`, which drops a leading byte order mark. -/
def decodeChunk (text : String) : String :=
  match text.toList with
  | '\uFEFF' :: rest => String.ofList rest
  | _ => text

/-- A text without leading byte order mark is decoded as it is. -/
theorem decodeChunk_eq_self_iff
    {text : String} :
    decodeChunk text = text ↔ text.toList.head? ≠ some '\uFEFF' := by
  unfold decodeChunk
  split
  next rest marked =>
    rw [marked]
    constructor
    · intro same
      rw [← String.toList_inj, marked, String.toList_ofList] at same
      exact absurd (congrArg List.length same) (by simp)
    · intro unmarked
      exact absurd rfl unmarked
  next unmarked =>
    refine ⟨fun _ headMarked => ?_, fun _ => rfl⟩
    obtain ⟨rest, marked⟩ := List.head?_eq_some_iff.mp headMarked
    exact unmarked rest marked

namespace OneShotStream

/--
`writer.cancel(reason)`: once only, enqueue the chunk and close.  A pending
read gets the chunk and its reader releases the lock.
-/
def cancel
    (stream : OneShotStream)
    (reason : Option String) : OneShotStream × Option (Nat × String) :=
  if stream.settled then
    (stream, none)
  else
    match stream.reader with
    | some reader =>
        ({ stream with settled := true, reader := none },
          some (reader, decodeChunk (chunkText reason)))
    | none =>
        ({ stream with settled := true, chunk := some (chunkText reason) },
          none)

/-- `writer.close()`: once only; a pending read ends and releases the lock. -/
def close (stream : OneShotStream) : OneShotStream :=
  if stream.settled then
    stream
  else
    { stream with settled := true, reader := none }

/--
`stream.getReader()`, one `read()` and `releaseLock()`.  A locked stream
throws, which the reading code swallows; a closed one is done at once.
-/
def read
    (stream : OneShotStream)
    (reader : Nat) : OneShotStream × Option String :=
  match stream.reader with
  | some _ => (stream, none)
  | none =>
      match stream.chunk with
      | some text => ({ stream with chunk := none }, some (decodeChunk text))
      | none =>
          if stream.settled then
            (stream, none)
          else
            ({ stream with reader := some reader }, none)

/-- After `cancel` the writer has settled. -/
@[simp] theorem settled_cancel
    (stream : OneShotStream)
    (reason : Option String) :
    (stream.cancel reason).1.settled = true := by
  unfold cancel
  split
  · assumption
  · split <;> rfl

/-- After `close` the writer has settled. -/
@[simp] theorem settled_close
    (stream : OneShotStream) :
    stream.close.settled = true := by
  unfold close
  split
  · assumption
  · rfl

/-- Reading an open stream leaves it with its first reader. -/
theorem read_of_open
    {stream : OneShotStream}
    (isOpen : stream.settled = false)
    (noChunk : stream.chunk = none)
    (reader : Nat) :
    stream.read reader =
      ({ stream with reader := stream.reader.or (some reader) }, none) := by
  obtain ⟨chunk, settled, held⟩ := stream
  cases isOpen
  cases noChunk
  cases held <;> rfl

/-- Reading a settled stream takes the chunk that is left. -/
theorem read_of_settled
    {stream : OneShotStream}
    (isSettled : stream.settled = true)
    (unlocked : stream.reader = none)
    (reader : Nat) :
    stream.read reader =
      ({ stream with chunk := none }, stream.chunk.map decodeChunk) := by
  obtain ⟨chunk, settled, held⟩ := stream
  cases isSettled
  cases unlocked
  cases chunk <;> rfl

end OneShotStream

end CloudflareParallel
