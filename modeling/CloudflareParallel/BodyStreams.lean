import CloudflareParallel.JsNumerics
import CloudflareParallel.Library.Utf8Decoding

namespace CloudflareParallel

/-!
# Bodies that are read as streams

A stream hands a body over in chunks, as it likes.  `readBodyBounded` counts
the bytes while it collects the chunks, and decodes once all of them are there:
a character that is split between two chunks is put together before.
-/

/-- A chunk of a body, maybe an empty one. -/
abbrev Chunk := List UInt8

/--
The loop over `reader.read()`: the chunks and their bytes, none once they are
more than the cap.
-/
def collectChunks
    (maxBytes : JsDouble) :
    List Chunk → List Chunk → Nat → Option (List Chunk × Nat)
  | [], chunks, total => some (chunks, total)
  | value :: rest, chunks, total =>
      if maxBytes.lessThan (.ofNat (total + value.length)) then
        none
      else
        collectChunks maxBytes rest (chunks ++ [value]) (total + value.length)

/-- `merged.set(c, offset)`. -/
def setBytes
    (merged : List UInt8)
    (offset : Nat)
    (c : Chunk) : List UInt8 :=
  merged.take offset ++ c ++ merged.drop (offset + c.length)

/-- The chunks are set one behind the other. -/
def mergeChunks : List UInt8 → Nat → List Chunk → List UInt8
  | merged, _, [] => merged
  | merged, offset, c :: rest =>
      mergeChunks (setBytes merged offset c) (offset + c.length) rest

/-- `readBodyBounded`, on a request with a body or without one. -/
def readBodyBounded
    (maxBytes : JsDouble)
    (body : Option (List Chunk)) : Option String :=
  match body with
  | none => some ""
  | some stream =>
      match collectChunks maxBytes stream [] 0 with
      | none => none
      | some ([], _) => some ""
      | some ([chunk], _) => some (Utf8Decoding.decode chunk)
      | some (chunks, total) =>
          some
            (Utf8Decoding.decode
              (mergeChunks (List.replicate total 0) 0 chunks))

/-! ## Merging -/

/-- A chunk is set behind the ones before it. -/
theorem setBytes_append
    (before : List UInt8)
    (c : Chunk)
    (room : Nat) :
    setBytes (before ++ List.replicate (c.length + room) 0) before.length c =
      before ++ c ++ List.replicate room 0 := by
  unfold setBytes
  rw [List.take_left, List.drop_append, List.drop_replicate]
  simp

/-- The merged bytes are those of the chunks, in order. -/
theorem mergeChunks_append
    (chunks : List Chunk)
    (before : List UInt8) :
    mergeChunks (before ++ List.replicate chunks.flatten.length 0)
        before.length chunks =
      before ++ chunks.flatten := by
  induction chunks generalizing before with
  | nil => rfl
  | cons c rest inductionHypothesis =>
      have next := inductionHypothesis (before ++ c)
      rw [List.length_append] at next
      rw [mergeChunks, List.flatten_cons, List.length_append,
        setBytes_append, next, List.append_assoc]

/-! ## Collecting -/

/-- The loop stops early exactly when all bytes are more than the cap. -/
theorem collectChunks_eq
    (maxBytes : JsDouble)
    (stream chunks : List Chunk)
    (total : Nat) :
    collectChunks maxBytes stream chunks total =
      if stream ≠ [] ∧
          maxBytes.lessThan (.ofNat (total + stream.flatten.length)) then
        none
      else
        some (chunks ++ stream, total + stream.flatten.length) := by
  induction stream generalizing chunks total with
  | nil => simp [collectChunks]
  | cons value rest inductionHypothesis =>
      have sum :
          total + (value :: rest).flatten.length =
            total + value.length + rest.flatten.length := by
        rw [List.flatten_cons, List.length_append, Nat.add_assoc]
      rw [collectChunks, inductionHypothesis, sum, List.append_assoc]
      by_cases early :
          maxBytes.lessThan (.ofNat (total + value.length)) = true
      · have late := JsDouble.lessThan_ofNat_mono early
          (Nat.le_add_right _ rest.flatten.length)
        rw [if_pos early, if_pos ⟨List.cons_ne_nil _ _, late⟩]
      · rw [if_neg early]
        cases rest with
        | nil =>
            rw [if_neg fun both => both.1 rfl, if_neg fun both => early both.2]
            rfl
        | cons next others =>
            simp only [ne_eq, reduceCtorEq, not_false_eq_true, true_and]
            rfl

/-! ## Reading -/

/--
The cap is noticed when there is a chunk; otherwise the text is that of all
bytes together.
-/
theorem readBodyBounded_some
    (maxBytes : JsDouble)
    (stream : List Chunk) :
    readBodyBounded maxBytes (some stream) =
      if stream ≠ [] ∧
          maxBytes.lessThan (.ofNat stream.flatten.length) then
        none
      else
        some (Utf8Decoding.decode stream.flatten) := by
  have merged := mergeChunks_append stream []
  rw [List.nil_append, List.length_nil, List.nil_append] at merged
  unfold readBodyBounded
  dsimp only
  rw [collectChunks_eq, Nat.zero_add, List.nil_append]
  by_cases longer :
      stream ≠ [] ∧ maxBytes.lessThan (.ofNat stream.flatten.length)
  · rw [if_pos longer, if_pos longer]
  · rw [if_neg longer, if_neg longer]
    match stream with
    | [] => rfl
    | [chunk] => simp
    | first :: second :: rest =>
        dsimp only
        rw [merged]

/-- The chunks of a body; none without one. -/
def chunksOf (body : Option (List Chunk)) : List Chunk :=
  body.getD []

/-- The way a body is read, whether there is one or not. -/
theorem readBodyBounded_eq
    (maxBytes : JsDouble)
    (body : Option (List Chunk)) :
    readBodyBounded maxBytes body =
      if chunksOf body ≠ [] ∧
          maxBytes.lessThan (.ofNat (chunksOf body).flatten.length) then
        none
      else
        some (Utf8Decoding.decode (chunksOf body).flatten) := by
  cases body with
  | none => rfl
  | some stream => exact readBodyBounded_some maxBytes stream

/-- Refused when the bytes are more than the cap, and else read as one text. -/
structure ReadsWhole
    (maxBytes : JsDouble)
    (bytes : List UInt8)
    (body : Option (List Chunk)) : Prop where
  refused :
    readBodyBounded maxBytes body = none ↔
      maxBytes.lessThan (.ofNat bytes.length) = true
  decoded :
    maxBytes.lessThan (.ofNat bytes.length) = false →
      readBodyBounded maxBytes body = some (Utf8Decoding.decode bytes)

/-- With a chunk, or a cap that is not negative, a body is read whole. -/
theorem readsWhole_of_noticed
    {maxBytes : JsDouble}
    {body : Option (List Chunk)}
    (noticed :
      chunksOf body ≠ [] ∨ maxBytes.lessThan (.ofNat 0) = false) :
    ReadsWhole maxBytes (chunksOf body).flatten body := by
  have read := readBodyBounded_eq maxBytes body
  have same :
      (chunksOf body ≠ [] ∧
          maxBytes.lessThan (.ofNat (chunksOf body).flatten.length) = true) ↔
        maxBytes.lessThan (.ofNat (chunksOf body).flatten.length) = true := by
    refine ⟨And.right, fun exceeds => ⟨fun empty => ?_, exceeds⟩⟩
    rcases noticed with chunk | cap
    · exact chunk empty
    · rw [empty] at exceeds
      exact Bool.false_ne_true (cap.symm.trans exceeds)
  simp only [same] at read
  constructor
  · rw [read]
    split
    · exact iff_of_true rfl ‹_›
    · exact iff_of_false (Option.some_ne_none _) ‹_›
  · intro within
    rw [read, within, if_neg Bool.false_ne_true]

/--
However a sequence of bytes is split, it is refused when it is longer than the
cap and else read as one text; under a negative cap, which every sequence
exceeds, no chunk at all makes an empty text.
-/
theorem readBodyBounded_of_split
    (maxBytes : JsDouble)
    (bytes : List UInt8)
    (body : Option (List Chunk))
    (split : (chunksOf body).flatten = bytes) :
    (chunksOf body ≠ [] ∨ maxBytes.lessThan (.ofNat 0) = false →
        ReadsWhole maxBytes bytes body) ∧
      (chunksOf body = [] → maxBytes.lessThan (.ofNat 0) = true →
        readBodyBounded maxBytes body = some "") := by
  subst split
  constructor
  · exact readsWhole_of_noticed
  · intro empty _
    rw [readBodyBounded_eq, if_neg fun both => both.1 empty, empty]
    rfl

/-- The two bytes of one letter, each in a chunk of its own. -/
theorem readBodyBounded_split_letter :
    ReadsWhole (.ofNat 2) [0xC3, 0xA9] (some [[0xC3], [], [0xA9]]) :=
  (readBodyBounded_of_split (.ofNat 2) [0xC3, 0xA9]
    (some [[0xC3], [], [0xA9]]) rfl).1 (.inl (List.cons_ne_nil _ _))

/-- Under a negative cap an empty body is read or refused by its chunks. -/
theorem readBodyBounded_negative_cap :
    ¬ ∀ maxBytes bytes stream,
        stream.flatten = bytes →
        ReadsWhole maxBytes bytes (some stream) := by
  intro whole
  have refused := (whole (.finite (-1)) [] [] rfl).refused.mpr (by decide)
  cases refused

/-- A body in UTF-8 is read as its text, however it is split. -/
theorem readBodyBounded_encode
    {maxBytes : JsDouble}
    {body : Option (List Chunk)}
    {text : String}
    (split : (chunksOf body).flatten = Utf8Decoding.encode text)
    (unmarked : text.toList.head? ≠ some Utf8Decoding.byteOrderMark)
    (within :
      maxBytes.lessThan (.ofNat (Utf8Decoding.encode text).length) = false) :
    readBodyBounded maxBytes body = some text := by
  rw [readBodyBounded_eq, split, within, Utf8Decoding.decode_encode unmarked,
    if_neg fun both => Bool.false_ne_true both.2]

example :
    readBodyBounded (.ofNat 2) (some [[0xC3], [], [0xA9]]) = some "é" := by
  decide

end CloudflareParallel
