import CloudflareParallel.CancelStreams
import CloudflareParallel.Library.LabelledRuns
import Mathlib.Logic.Function.Basic

namespace CloudflareParallel

open LabelledRuns

/-!
# The cancel streams of nested forks

`forkCancelStream` makes one cancel stream for every child and starts a pump,
which reads its upstream once and passes what it got on to the writers of the
children.  A stream of the tree is named by its path, innermost fork first; it
has one reader, the pump of its fork or the reader of a leaf.
-/

/-- A call on the writer of a cancel stream. -/
inductive WriterCall where
  | cancel (reason : Option String)
  | close
  deriving Repr, DecidableEq

namespace WriterCall

/-- What the call does to the stream of its writer. -/
def write : WriterCall → OneShotStream → OneShotStream
  | .cancel reason, stream => (stream.cancel reason).1
  | .close, stream => stream.close

/-- The texts that are on the stream after it, as the first call. -/
def texts : WriterCall → List String
  | .cancel reason => [chunkText reason]
  | .close => []

end WriterCall

/-- Who reads a stream, with the number of writers that a pump has. -/
inductive StreamUser where
  | nobody
  | leaf
  /-- The pump awaits its `read()`. -/
  | pump (writers : Nat)
  | pumped (writers : Nat)
  deriving Repr, DecidableEq

namespace StreamUser

/-- The stream is not forked. -/
def isLeaf : StreamUser → Bool
  | .nobody => true
  | .leaf => true
  | .pump _ => false
  | .pumped _ => false

/-- The stream has been read. -/
def hasRead : StreamUser → Bool
  | .nobody => false
  | .leaf => true
  | .pump _ => false
  | .pumped _ => true

end StreamUser

/-- A stream of the tree, and what its one reader has got from it. -/
structure ForkedStream where
  stream : OneShotStream := {}
  user : StreamUser := .nobody
  received : List String := []
  ended : Bool := false
  deriving Repr, DecidableEq

namespace ForkedStream

/--
What a `read()` of the reader is answered with, a chunk or the end, and the
stream after it; nothing while the read is pending.
-/
def answer
    (node : ForkedStream) : Option (Option String × OneShotStream) :=
  match node.stream.chunk with
  | some text => some (some text, { node.stream with chunk := none })
  | none =>
      if node.stream.settled then
        some (none, node.stream)
      else
        none

/-- A call on the writer of the stream. -/
def written
    (call : WriterCall)
    (node : ForkedStream) : ForkedStream :=
  { node with stream := call.write node.stream }

end ForkedStream

/-- The streams that exist, by their path. -/
abbrev ForkStreams := List Nat → Option ForkedStream

namespace ForkStreams

/-- `writers.push(createCancelStream())`, for every child. -/
def addChildren
    (streams : ForkStreams)
    (path : List Nat)
    (writers : Nat) : ForkStreams
  | [] => streams []
  | i :: parent =>
      if parent = path ∧ i < writers then
        some {}
      else
        streams (i :: parent)

/-- A call on each of `writers`. -/
def writeChildren
    (streams : ForkStreams)
    (path : List Nat)
    (writers : Nat)
    (call : WriterCall) : ForkStreams
  | [] => streams []
  | i :: parent =>
      if parent = path ∧ i < writers then
        (streams (i :: parent)).map (ForkedStream.written call)
      else
        streams (i :: parent)

end ForkStreams

/-- The tree of forks, and the first call on the writer at its root. -/
structure CancelForks where
  firstCall : Option WriterCall := none
  streams : ForkStreams

/-- What happens next in the tree. -/
inductive ForkStep where
  /-- A call on the writer at the root. -/
  | calls (call : WriterCall)
  /-- `forkCancelStream`, up to the `await` of its pump. -/
  | forks (path : List Nat) (writers : Nat)
  /-- A pump goes on behind `await reader.read()`. -/
  | pumps (path : List Nat)
  /-- The reader of a leaf goes on behind a `read()`. -/
  | reads (path : List Nat)
  deriving Repr, DecidableEq

namespace CancelForks

/-- `createCancelStream`. -/
def created : CancelForks where
  streams
    | [] => some {}
    | _ :: _ => none

/-- What a pump calls on its writers, for what it read. -/
def relayed : Option String → WriterCall
  | some value => .cancel (some (decodeChunk value))
  | none => .close

/-- The step function of the tree. -/
def step
    (forks : CancelForks) :
    ForkStep → Option CancelForks
  | .calls call =>
      some
        { firstCall := forks.firstCall.or (some call)
          streams :=
            Function.update forks.streams []
              ((forks.streams []).map (ForkedStream.written call)) }
  | .forks path writers =>
      match forks.streams path with
      | some node =>
          if node.user = .nobody then
            some
              { forks with
                streams :=
                  ForkStreams.addChildren
                    (Function.update forks.streams path
                      (some { node with user := .pump writers }))
                    path writers }
          else
            none
      | none => none
  | .pumps path =>
      match forks.streams path with
      | some node =>
          match node.user, node.answer with
          | .pump writers, some (value, rest) =>
              some
                { forks with
                  streams :=
                    ForkStreams.writeChildren
                      (Function.update forks.streams path
                        (some
                          { node with
                            stream := rest
                            user := .pumped writers
                            received := node.received ++ value.toList }))
                      path writers (relayed value) }
          | _, _ => none
      | none => none
  | .reads path =>
      match forks.streams path with
      | some node =>
          if node.user.isLeaf ∧ node.ended = false then
            node.answer.map fun answered =>
              { forks with
                streams :=
                  Function.update forks.streams path
                    (some
                      { stream := answered.2
                        user := .leaf
                        received := node.received ++ answered.1.toList
                        ended := answered.1.isNone }) }
          else
            none
      | none => none

/-- No pump and no reader of a leaf can go on. -/
def Quiet (forks : CancelForks) : Prop :=
  ∀ path,
    forks.step (.pumps path) = none ∧ forks.step (.reads path) = none

end CancelForks

/-! ## One stream -/

namespace WriterCall

/-- The writer of a settled stream does nothing. -/
theorem write_of_settled
    {stream : OneShotStream}
    (settled : stream.settled = true)
    (call : WriterCall) :
    call.write stream = stream := by
  cases call with
  | cancel reason => simp [write, OneShotStream.cancel, settled]
  | close => simp [write, OneShotStream.close, settled]

/-- The writer of an open stream settles it, with the chunk of the call. -/
theorem write_of_open
    {stream : OneShotStream}
    (isOpen : stream.settled = false)
    (unlocked : stream.reader = none)
    (noChunk : stream.chunk = none)
    (call : WriterCall) :
    call.write stream =
      { stream with settled := true, chunk := call.texts.head? } := by
  obtain ⟨chunk, settled, reader⟩ := stream
  cases isOpen
  cases unlocked
  cases noChunk
  cases call <;> rfl

/-- A call has one text or none. -/
theorem head?_texts_toList
    (call : WriterCall) :
    call.texts.head?.toList = call.texts := by
  cases call <;> rfl

end WriterCall

/-- What holds of a stream, by the first call on the writer at the root. -/
structure StreamSettles
    (first : Option WriterCall)
    (node : ForkedStream) : Prop where
  unlocked : node.stream.reader = none
  untouched :
    node.stream.settled = false →
    node.stream.chunk = none ∧ node.received = [] ∧ node.ended = false
  delivers :
    node.stream.settled = true →
    ∃ call,
      first = some call ∧
      node.received ++ node.stream.chunk.toList = call.texts
  unread : node.user.hasRead = false → node.received = []
  ended : node.ended = true → node.stream.chunk = none

namespace StreamSettles

variable {first : Option WriterCall}
variable {node : ForkedStream}

/-- A stream that was just created. -/
theorem new : StreamSettles first {} where
  unlocked := rfl
  untouched _ := ⟨rfl, rfl, rfl⟩
  delivers settled := by cases settled
  unread _ := rfl
  ended _ := rfl

/-- Before the first call no stream has settled. -/
theorem open_of_noCall
    (sound : StreamSettles none node) :
    node.stream.settled = false := by
  by_contra settled
  obtain ⟨_, called, _⟩ :=
    sound.delivers (Bool.eq_true_of_not_eq_false settled)
  cases called

/-- The first call changes nothing for the streams it is not on. -/
theorem of_noCall
    (sound : StreamSettles none node)
    (call : WriterCall) :
    StreamSettles (some call) node where
  unlocked := sound.unlocked
  untouched := sound.untouched
  delivers settled := by
    rw [sound.open_of_noCall] at settled
    cases settled
  unread := sound.unread
  ended := sound.ended

/-- A call with the texts of the first one. -/
theorem written
    {call firstCall : WriterCall}
    (sound : StreamSettles (some firstCall) node)
    (same : call.texts = firstCall.texts) :
    StreamSettles (some firstCall) (node.written call) := by
  by_cases settled : node.stream.settled = true
  · rwa [ForkedStream.written, WriterCall.write_of_settled settled]
  · have isOpen := Bool.eq_false_of_not_eq_true settled
    obtain ⟨noChunk, nothing, notEnded⟩ := sound.untouched isOpen
    rw [ForkedStream.written,
      WriterCall.write_of_open isOpen sound.unlocked noChunk]
    refine
      { unlocked := sound.unlocked
        untouched := fun open_ => by cases open_
        delivers := fun _ => ⟨firstCall, rfl, ?_⟩
        unread := sound.unread
        ended := fun ended => ?_ }
    · rw [nothing, List.nil_append, WriterCall.head?_texts_toList, same]
    · rw [notEnded] at ended
      cases ended

/-- After a call on its writer a stream has settled. -/
theorem settled_written
    (call : WriterCall) :
    (node.written call).stream.settled = true := by
  cases call with
  | cancel reason => exact OneShotStream.settled_cancel _ reason
  | close => exact OneShotStream.settled_close _

/-- A read is answered on a settled stream, with its chunk. -/
theorem of_answer
    (sound : StreamSettles first node)
    {value : Option String}
    {rest : OneShotStream}
    (answered : node.answer = some (value, rest)) :
    node.stream.settled = true ∧
      value = node.stream.chunk ∧
      rest = { node.stream with chunk := none } := by
  simp only [ForkedStream.answer] at answered
  split at answered
  next text hasChunk =>
    obtain ⟨rfl, rfl⟩ := Prod.mk.inj (Option.some.inj answered)
    refine ⟨?_, hasChunk.symm, rfl⟩
    by_contra isOpen
    have noChunk :=
      (sound.untouched (Bool.eq_false_of_not_eq_true isOpen)).1
    rw [noChunk] at hasChunk
    cases hasChunk
  next noChunk =>
    split at answered
    next settled =>
      obtain ⟨rfl, rfl⟩ := Prod.mk.inj (Option.some.inj answered)
      refine ⟨settled, noChunk.symm, ?_⟩
      rw [← noChunk]
    next => cases answered

/-- A read of a settled stream is answered. -/
theorem exists_answer
    (settled : node.stream.settled = true) :
    ∃ answered, node.answer = some answered := by
  simp only [ForkedStream.answer, settled, ↓reduceIte]
  split
  · exact ⟨_, rfl⟩
  · exact ⟨_, rfl⟩

/-- What the reader of a stream has, after an answer. -/
theorem taken
    (sound : StreamSettles first node)
    (settled : node.stream.settled = true)
    (user : StreamUser)
    (hasRead : user.hasRead = true)
    (ended : Bool) :
    StreamSettles first
      { stream := { node.stream with chunk := none }
        user := user
        received := node.received ++ node.stream.chunk.toList
        ended := ended } where
  unlocked := sound.unlocked
  untouched isOpen := by
    rw [settled] at isOpen
    cases isOpen
  delivers _ := by
    obtain ⟨call, first, texts⟩ := sound.delivers settled
    exact ⟨call, first, by rw [Option.toList_none, List.append_nil, texts]⟩
  unread unread := by
    rw [hasRead] at unread
    cases unread
  ended _ := rfl

end StreamSettles

/-! ## The streams of a tree -/

namespace ForkStreams

/-- The reader of a stream. -/
def userAt
    (streams : ForkStreams)
    (path : List Nat) : Option StreamUser :=
  (streams path).map ForkedStream.user

/-- Replacing one stream replaces its reader. -/
theorem userAt_update
    (streams : ForkStreams)
    (path : List Nat)
    (node : ForkedStream) :
    userAt (Function.update streams path (some node)) =
      Function.update streams.userAt path (some node.user) := by
  funext there
  by_cases same : there = path
  · simp [userAt, same]
  · simp [userAt, Function.update_of_ne same]

/-- Calls on the writers leave the readers. -/
@[simp] theorem userAt_writeChildren
    (streams : ForkStreams)
    (path : List Nat)
    (writers : Nat)
    (call : WriterCall) :
    (streams.writeChildren path writers call).userAt = streams.userAt := by
  funext there
  cases there with
  | nil => rfl
  | cons i parent =>
      simp only [userAt, writeChildren]
      split
      · rw [Option.map_map]
        rfl
      · rfl

/-- A child that was added. -/
theorem addChildren_child
    {writers i : Nat}
    (below : i < writers)
    (streams : ForkStreams)
    (path : List Nat) :
    streams.addChildren path writers (i :: path) = some {} := by
  simp only [addChildren, below, and_self, ↓reduceIte]

/-- Adding children leaves the other streams. -/
theorem addChildren_of_not_child
    {path there : List Nat}
    {writers : Nat}
    (noChild : ¬∃ i, there = i :: path ∧ i < writers)
    (streams : ForkStreams) :
    streams.addChildren path writers there = streams there := by
  cases there with
  | nil => rfl
  | cons i parent =>
      refine if_neg ?_
      rintro ⟨rfl, below⟩
      exact noChild ⟨i, rfl, below⟩

/-- A child after a call on each of the writers. -/
theorem writeChildren_child
    {writers i : Nat}
    (below : i < writers)
    (streams : ForkStreams)
    (path : List Nat)
    (call : WriterCall) :
    streams.writeChildren path writers call (i :: path) =
      (streams (i :: path)).map (ForkedStream.written call) := by
  simp only [writeChildren, below, and_self, ↓reduceIte]

/-- A call on the writers of the children leaves the other streams. -/
theorem writeChildren_of_not_child
    {path there : List Nat}
    {writers : Nat}
    (noChild : ¬∃ i, there = i :: path ∧ i < writers)
    (streams : ForkStreams)
    (call : WriterCall) :
    streams.writeChildren path writers call there = streams there := by
  cases there with
  | nil => rfl
  | cons i parent =>
      refine if_neg ?_
      rintro ⟨rfl, below⟩
      exact noChild ⟨i, rfl, below⟩

/-- A stream that exists after the children were added is new, or was there. -/
theorem addChildren_eq_some
    {streams : ForkStreams}
    {path there : List Nat}
    {writers : Nat}
    {node : ForkedStream}
    (found : streams.addChildren path writers there = some node) :
    (∃ i, there = i :: path ∧ i < writers ∧ node = {}) ∨
      streams there = some node := by
  cases there with
  | nil => exact .inr found
  | cons i parent =>
      simp only [addChildren] at found
      split at found
      next child =>
        exact .inl
          ⟨i, by rw [child.1], child.2, (Option.some.inj found).symm⟩
      next => exact .inr found

/-- A stream after a call on the children: one of these, or as it was. -/
theorem writeChildren_eq_some
    {streams : ForkStreams}
    {path there : List Nat}
    {writers : Nat}
    {call : WriterCall}
    {node : ForkedStream}
    (found : streams.writeChildren path writers call there = some node) :
    (∃ before, streams there = some before ∧ node = before.written call) ∨
      streams there = some node ∧
        ∀ i, there = i :: path → writers ≤ i := by
  cases there with
  | nil => exact .inr ⟨found, fun i child => by cases child⟩
  | cons i parent =>
      simp only [writeChildren] at found
      split at found
      next =>
        obtain ⟨before, was, rfl⟩ := Option.map_eq_some_iff.mp found
        exact .inl ⟨before, was, rfl⟩
      next other =>
        refine .inr ⟨found, fun j child => ?_⟩
        obtain ⟨rfl, rfl⟩ := List.cons.inj child
        exact Nat.le_of_not_lt fun below => other ⟨rfl, below⟩

/-- A stream after one of them was replaced. -/
theorem update_eq_some
    {streams : ForkStreams}
    {path there : List Nat}
    {node found : ForkedStream}
    (isFound :
      Function.update streams path (some node) there = some found) :
    (there = path ∧ found = node) ∨
      there ≠ path ∧ streams there = some found := by
  by_cases same : there = path
  · subst same
    rw [Function.update_self] at isFound
    exact .inl ⟨rfl, (Option.some.inj isFound).symm⟩
  · rw [Function.update_of_ne same] at isFound
    exact .inr ⟨same, isFound⟩

/-- A stream after one of them was replaced has settled if it had before. -/
theorem exists_of_update
    {streams : ForkStreams}
    {path other : List Nat}
    {node after found : ForkedStream}
    (there : streams path = some node)
    (isFound :
      Function.update streams path (some after) other = some found)
    (same : after.stream.settled = node.stream.settled) :
    ∃ before,
      streams other = some before ∧
      found.stream.settled = before.stream.settled := by
  rcases update_eq_some isFound with ⟨rfl, rfl⟩ | ⟨-, was⟩
  · exact ⟨node, there, same⟩
  · exact ⟨found, was, rfl⟩

end ForkStreams

/-- What holds of the streams of a tree, between any two steps. -/
structure ForksSound
    (first : Option WriterCall)
    (streams : ForkStreams) : Prop where
  settles :
    ∀ path node, streams path = some node → StreamSettles first node
  root :
    ∃ node,
      streams [] = some node ∧
      (first.isSome → node.stream.settled = true)
  /-- A child has its fork, which has passed on what its pump has read. -/
  children :
    ∀ i path child,
      streams (i :: path) = some child →
      ∃ writers,
        i < writers ∧
        (streams.userAt path = some (.pump writers) ∨
          streams.userAt path = some (.pumped writers) ∧
            child.stream.settled = true)
  survives :
    ∀ call,
      first = some call →
      ∀ text ∈ call.texts, decodeChunk text = text

/-- The reason of the call survives encoding and decoding. -/
def ForkStep.Survives : ForkStep → Prop
  | .calls (.cancel (some reason)) => decodeChunk reason = reason
  | _ => True

instance : DecidablePred ForkStep.Survives
  | .calls (.cancel (some reason)) =>
      inferInstanceAs (Decidable (decodeChunk reason = reason))
  | .calls (.cancel none) => isTrue trivial
  | .calls .close => isTrue trivial
  | .forks _ _ => isTrue trivial
  | .pumps _ => isTrue trivial
  | .reads _ => isTrue trivial

namespace ForksSound

variable {first : Option WriterCall}
variable {streams : ForkStreams}
variable {path : List Nat}
variable {node : ForkedStream}

/-- The tree that has the stream of the writer only. -/
theorem created : ForksSound none CancelForks.created.streams where
  settles path node found := by
    cases path with
    | nil =>
        cases found
        exact .new
    | cons i parent => cases found
  root := ⟨{}, rfl, fun called => by cases called⟩
  children i path child found := by cases found
  survives call called := by cases called

/-- A stream that is not forked has no children. -/
theorem not_child
    (sound : ForksSound first streams)
    (found : streams path = some node)
    (isLeaf : node.user.isLeaf = true)
    (i : Nat) :
    streams (i :: path) = none := by
  by_contra child
  obtain ⟨there, isThere⟩ := Option.ne_none_iff_exists'.mp child
  obtain ⟨writers, -, user⟩ := sound.children i path there isThere
  simp only [ForkStreams.userAt, found, Option.map_some,
    Option.some.injEq] at user
  rcases user with pumping | ⟨pumped, -⟩
  · rw [pumping] at isLeaf
    cases isLeaf
  · rw [pumped] at isLeaf
    cases isLeaf

/-- The root after one stream was replaced. -/
theorem root_update
    (sound : ForksSound first streams)
    (there : streams path = some node)
    {after : ForkedStream}
    (stays : node.stream.settled = true → after.stream.settled = true) :
    ∃ root,
      Function.update streams path (some after) [] = some root ∧
      (first.isSome → root.stream.settled = true) := by
  obtain ⟨root, atRoot, settled⟩ := sound.root
  by_cases isRoot : path = []
  · subst isRoot
    cases there.symm.trans atRoot
    exact ⟨after, Function.update_self .., stays ∘ settled⟩
  · exact
      ⟨root, (Function.update_of_ne (Ne.symm isRoot) ..).trans atRoot,
        settled⟩

/-- What holds of the streams after one was replaced. -/
theorem settles_update
    (sound : ForksSound first streams)
    {after found : ForkedStream}
    (settles : StreamSettles first after)
    {other : List Nat}
    (isFound :
      Function.update streams path (some after) other = some found) :
    StreamSettles first found := by
  rcases ForkStreams.update_eq_some isFound with ⟨rfl, rfl⟩ | ⟨-, was⟩
  · exact settles
  · exact sound.settles other found was

/-- The texts of a call whose reason survives do so. -/
theorem texts_survive
    {call : WriterCall}
    (survives : ForkStep.Survives (.calls call)) :
    ∀ text ∈ call.texts, decodeChunk text = text := by
  intro text member
  cases call with
  | close => cases member
  | cancel reason =>
      cases List.mem_singleton.mp member
      cases reason with
      | some reason => exact survives
      | none => exact decodeChunk_eq_self_iff.mpr (by decide)

/-- A call on the writer keeps the tree sound. -/
theorem of_calls
    (sound : ForksSound first streams)
    {call : WriterCall}
    (survives : ForkStep.Survives (.calls call))
    (atRoot : streams [] = some node) :
    ForksSound (first.or (some call))
      (Function.update streams [] (some (node.written call))) where
  settles path found isFound := by
    obtain ⟨root, isRoot, settled⟩ := sound.root
    cases isRoot.symm.trans atRoot
    cases first with
    | none =>
        rw [Option.none_or]
        rcases ForkStreams.update_eq_some isFound with
          ⟨rfl, rfl⟩ | ⟨-, was⟩
        · exact ((sound.settles _ _ atRoot).of_noCall call).written rfl
        · exact (sound.settles path found was).of_noCall call
    | some earlier =>
        rw [Option.some_or]
        rcases ForkStreams.update_eq_some isFound with
          ⟨rfl, rfl⟩ | ⟨-, was⟩
        · rw [ForkedStream.written,
            WriterCall.write_of_settled (settled rfl)]
          exact sound.settles _ _ atRoot
        · exact sound.settles path found was
  root :=
    ⟨_, Function.update_self .., fun _ => StreamSettles.settled_written call⟩
  children i path child isFound := by
    rw [Function.update_of_ne (List.cons_ne_nil i path)] at isFound
    have user : streams.userAt [] = some (node.written call).user := by
      rw [ForkStreams.userAt, atRoot]
      rfl
    rw [ForkStreams.userAt_update, ← user, Function.update_eq_self]
    exact sound.children i path child isFound
  survives called isFirst := by
    cases first with
    | none =>
        cases isFirst
        exact texts_survive survives
    | some earlier =>
        rw [Option.some_or] at isFirst
        exact sound.survives called isFirst

/-- A fork of a stream nobody has read keeps the tree sound. -/
theorem of_forks
    (sound : ForksSound first streams)
    (there : streams path = some node)
    (nobody : node.user = .nobody)
    (writers : Nat) :
    ForksSound first
      (ForkStreams.addChildren
        (Function.update streams path
          (some { node with user := .pump writers }))
        path writers) where
  settles other found isFound := by
    rcases ForkStreams.addChildren_eq_some isFound with
      ⟨_, -, -, rfl⟩ | isFound
    · exact .new
    have held := sound.settles path node there
    have forked : StreamSettles first { node with user := .pump writers } :=
      { unlocked := held.unlocked
        untouched := held.untouched
        delivers := held.delivers
        unread := fun _ => held.unread (by rw [nobody]; rfl)
        ended := held.ended }
    exact sound.settles_update forked isFound
  root := sound.root_update there id
  children i other child isFound := by
    have noChildren :=
      sound.not_child there (by rw [nobody]; rfl)
    rcases ForkStreams.addChildren_eq_some isFound with
      ⟨j, isChild, below, -⟩ | isFound
    · obtain ⟨rfl, rfl⟩ := List.cons.inj isChild
      refine ⟨writers, below, .inl ?_⟩
      have notChild : ¬∃ j, other = j :: other ∧ j < writers := by
        rintro ⟨j, same, -⟩
        exact List.cons_ne_self j other same.symm
      rw [ForkStreams.userAt, ForkStreams.addChildren_of_not_child notChild,
        Function.update_self]
      rfl
    -- Any other stream was there before, below a stream that was forked.
    obtain ⟨before, was, same⟩ :=
      ForkStreams.exists_of_update there isFound rfl
    obtain ⟨width, below, user⟩ := sound.children i other before was
    have notPath : other ≠ path := by
      rintro rfl
      rw [noChildren i] at was
      cases was
    have notChild : ¬∃ j, other = j :: path ∧ j < writers := by
      rintro ⟨j, rfl, -⟩
      rw [ForkStreams.userAt, noChildren j] at user
      rcases user with user | ⟨user, -⟩
      · cases user
      · cases user
    refine ⟨width, below, ?_⟩
    rwa [ForkStreams.userAt, ForkStreams.addChildren_of_not_child notChild,
      ← ForkStreams.userAt, ForkStreams.userAt_update,
      Function.update_of_ne notPath, same]
  survives := sound.survives

/-- What a pump calls on its writers has the texts of the first call. -/
theorem texts_relayed
    (sound : ForksSound first streams)
    (there : streams path = some node)
    (settled : node.stream.settled = true)
    (unread : node.user.hasRead = false) :
    ∃ call,
      first = some call ∧
      (CancelForks.relayed node.stream.chunk).texts = call.texts := by
  have held := sound.settles _ _ there
  obtain ⟨call, isFirst, texts⟩ := held.delivers settled
  refine ⟨call, isFirst, ?_⟩
  rw [held.unread unread, List.nil_append] at texts
  rw [← texts]
  cases hasChunk : node.stream.chunk with
  | none => rfl
  | some text =>
      have survives : decodeChunk text = text := by
        refine sound.survives call isFirst text ?_
        rw [← texts, hasChunk]
        exact List.mem_singleton.mpr rfl
      simp only [CancelForks.relayed, WriterCall.texts, chunkText,
        Option.getD_some, survives, Option.toList_some]

/-- A pump that goes on keeps the tree sound. -/
theorem of_pumps
    (sound : ForksSound first streams)
    (there : streams path = some node)
    {writers : Nat}
    (pumping : node.user = .pump writers)
    (settled : node.stream.settled = true) :
    ForksSound first
      (ForkStreams.writeChildren
        (Function.update streams path
          (some
            { node with
              stream := { node.stream with chunk := none }
              user := .pumped writers
              received := node.received ++ node.stream.chunk.toList }))
        path writers (CancelForks.relayed node.stream.chunk)) := by
  have held := sound.settles _ _ there
  obtain ⟨call, isFirst, texts⟩ :=
    sound.texts_relayed there settled (by rw [pumping]; rfl)
  refine
    { settles := fun other found isFound => ?_
      root := sound.root_update there fun _ => settled
      children := fun i other child isFound => ?_
      survives := sound.survives }
  · have taken := held.taken settled (.pumped writers) rfl node.ended
    rcases ForkStreams.writeChildren_eq_some isFound with
      ⟨was, isWas, rfl⟩ | ⟨isFound, -⟩
    · have settles := sound.settles_update taken isWas
      rw [isFirst] at settles ⊢
      exact settles.written texts
    · exact sound.settles_update taken isFound
  · rw [ForkStreams.userAt_writeChildren, ForkStreams.userAt_update]
    obtain ⟨was, isWas, stays, onPath⟩ :
        ∃ was,
          streams (i :: other) = some was ∧
          (was.stream.settled = true → child.stream.settled = true) ∧
          (other = path → i < writers → child.stream.settled = true) := by
      rcases ForkStreams.writeChildren_eq_some isFound with
        ⟨updated, isUpdated, rfl⟩ | ⟨isFound, beyond⟩
      · obtain ⟨was, isWas, -⟩ :=
          ForkStreams.exists_of_update there isUpdated rfl
        exact
          ⟨was, isWas, fun _ => StreamSettles.settled_written _,
            fun _ _ => StreamSettles.settled_written _⟩
      · obtain ⟨was, isWas, same⟩ :=
          ForkStreams.exists_of_update there isFound rfl
        refine ⟨was, isWas, fun settled => same.trans settled, ?_⟩
        rintro rfl below
        exact absurd (beyond i rfl) (Nat.not_le_of_lt below)
    obtain ⟨width, below, user⟩ := sound.children i other was isWas
    by_cases isPath : other = path
    · have isPump : streams.userAt other = some (.pump writers) := by
        rw [ForkStreams.userAt, isPath, there, Option.map_some, pumping]
      rw [isPump] at user
      rcases user with same | ⟨other, -⟩
      · cases same
        exact
          ⟨writers, below, .inr
            ⟨by rw [isPath, Function.update_self], onPath isPath below⟩⟩
      · cases other
    · rw [Function.update_of_ne isPath]
      exact ⟨width, below, user.imp_right fun pumped =>
        ⟨pumped.1, stays pumped.2⟩⟩

/-- A reader of a leaf that goes on keeps the tree sound. -/
theorem of_reads
    (sound : ForksSound first streams)
    (there : streams path = some node)
    (isLeaf : node.user.isLeaf = true)
    (settled : node.stream.settled = true) :
    ForksSound first
      (Function.update streams path
        (some
          { stream := { node.stream with chunk := none }
            user := .leaf
            received := node.received ++ node.stream.chunk.toList
            ended := node.stream.chunk.isNone })) where
  settles _ _ :=
    sound.settles_update
      ((sound.settles path node there).taken settled .leaf rfl _)
  root := sound.root_update there fun _ => settled
  children i other child isFound := by
    obtain ⟨before, was, same⟩ :=
      ForkStreams.exists_of_update there isFound rfl
    have notPath : other ≠ path := by
      rintro rfl
      rw [sound.not_child there isLeaf i] at was
      cases was
    rw [ForkStreams.userAt_update, Function.update_of_ne notPath, same]
    exact sound.children i other before was
  survives := sound.survives

end ForksSound

namespace CancelForks

variable {forks next : CancelForks}

/-! ## Runs of a tree -/

/-- The steps keep the tree sound. -/
theorem sound_of_step
    {label : ForkStep}
    (survives : label.Survives)
    (stepped : forks.step label = some next)
    (sound : ForksSound forks.firstCall forks.streams) :
    ForksSound next.firstCall next.streams := by
  cases label with
  | calls call =>
      obtain ⟨node, atRoot, -⟩ := sound.root
      simp only [step, atRoot, Option.map_some, Option.some.injEq] at stepped
      subst stepped
      exact sound.of_calls survives atRoot
  | forks path writers =>
      simp only [step] at stepped
      split at stepped
      next node there =>
        split at stepped
        next nobody =>
          cases stepped
          exact sound.of_forks there nobody writers
        next => cases stepped
      next => cases stepped
  | pumps path =>
      simp only [step] at stepped
      split at stepped
      next node there =>
        split at stepped
        next writers value rest pumping answered =>
          cases stepped
          obtain ⟨settled, rfl, rfl⟩ :=
            (sound.settles path node there).of_answer answered
          exact sound.of_pumps there pumping settled
        next => cases stepped
      next => cases stepped
  | reads path =>
      simp only [step] at stepped
      split at stepped
      next node there =>
        split at stepped
        next goesOn =>
          obtain ⟨⟨value, rest⟩, answered, rfl⟩ :=
            Option.map_eq_some_iff.mp stepped
          obtain ⟨settled, rfl, rfl⟩ :=
            (sound.settles path node there).of_answer answered
          exact sound.of_reads there goesOn.1 settled
        next => cases stepped
      next => cases stepped

/-- The first call of the steps, if there is one. -/
def firstCall? (labels : List ForkStep) : Option WriterCall :=
  labels.findSome? fun
    | .calls call => some call
    | _ => none

/-- A step records the first call. -/
theorem firstCall_of_step
    {label : ForkStep}
    (stepped : forks.step label = some next) :
    next.firstCall = forks.firstCall.or (firstCall? [label]) := by
  cases label with
  | calls call =>
      cases stepped
      rfl
  | forks path writers =>
      simp only [step] at stepped
      repeat' split at stepped
      all_goals cases stepped
      exact (Option.or_none).symm
  | pumps path =>
      simp only [step] at stepped
      repeat' split at stepped
      all_goals cases stepped
      exact (Option.or_none).symm
  | reads path =>
      simp only [step] at stepped
      repeat' split at stepped
      all_goals try cases stepped
      obtain ⟨_, -, rfl⟩ := Option.map_eq_some_iff.mp stepped
      exact (Option.or_none).symm

/-- A run records the first of its calls. -/
theorem firstCall_of_run
    {guard : CancelForks → ForkStep → Prop}
    {labels : List ForkStep}
    (run : GuardedRun step guard forks labels next) :
    next.firstCall = forks.firstCall.or (firstCall? labels) := by
  induction run with
  | nil => exact (Option.or_none).symm
  | @cons _ _ _ label labels _ stepped _ inductionHypothesis =>
      rw [inductionHypothesis, firstCall_of_step stepped, Option.or_assoc]
      congr 1
      cases label <;> rfl

/-- Once the writer has been called, a quiet tree has settled. -/
theorem settled_of_quiet
    (sound : ForksSound forks.firstCall forks.streams)
    (called : forks.firstCall.isSome)
    (quiet : forks.Quiet)
    {path : List Nat}
    {node : ForkedStream}
    (there : forks.streams path = some node) :
    node.stream.settled = true := by
  induction path generalizing node with
  | nil =>
      obtain ⟨root, atRoot, settled⟩ := sound.root
      cases atRoot.symm.trans there
      exact settled called
  | cons i parent inductionHypothesis =>
      obtain ⟨writers, -, pumping | ⟨-, settled⟩⟩ :=
        sound.children i parent node there
      · -- The pump above could go on.
        obtain ⟨fork, atFork, user⟩ := Option.map_eq_some_iff.mp pumping
        obtain ⟨answered, isAnswer⟩ :=
          StreamSettles.exists_answer (inductionHypothesis atFork)
        have stuck := (quiet parent).1
        simp only [step, atFork, user, isAnswer] at stuck
        cases stuck
      · exact settled

/-- The stream is not forked. -/
def IsLeaf
    (forks : CancelForks)
    (path : List Nat)
    (leaf : ForkedStream) : Prop :=
  forks.streams path = some leaf ∧ leaf.user.isLeaf = true

/-- What a leaf has delivered, by the first call on the writer at the root. -/
def Delivers
    (forks : CancelForks)
    (leaf : ForkedStream) : Option WriterCall → Prop
  | none => leaf.received = [] ∧ leaf.ended = false
  | some call =>
      leaf.received.map decodeChunk <+: call.texts ∧
      (leaf.ended = true → leaf.received.map decodeChunk = call.texts) ∧
      (forks.Quiet → leaf.ended = true)

/-- Every leaf of a sound tree delivers what the first call says. -/
theorem delivers_of_sound
    (sound : ForksSound forks.firstCall forks.streams)
    {path : List Nat}
    {leaf : ForkedStream}
    (isLeaf : forks.IsLeaf path leaf) :
    forks.Delivers leaf forks.firstCall := by
  have held := sound.settles path leaf isLeaf.1
  cases called : forks.firstCall with
  | none =>
      rw [called] at held
      exact (held.untouched held.open_of_noCall).2
  | some call =>
      -- What was received of the texts of the call is decoded to itself.
      have received :
          leaf.received <+: call.texts ∧
            (leaf.ended = true → leaf.received = call.texts) := by
        by_cases settled : leaf.stream.settled = true
        · obtain ⟨_, isCall, texts⟩ := held.delivers settled
          cases called.symm.trans isCall
          refine ⟨⟨_, texts⟩, fun ended => ?_⟩
          rwa [held.ended ended, Option.toList_none, List.append_nil] at texts
        · obtain ⟨-, nothing, notEnded⟩ :=
            held.untouched (Bool.eq_false_of_not_eq_true settled)
          rw [nothing, notEnded]
          exact ⟨List.nil_prefix, fun ended => by cases ended⟩
      have decoded : leaf.received.map decodeChunk = leaf.received := by
        refine (List.map_congr_left fun text member => ?_).trans (List.map_id _)
        exact sound.survives call called text (received.1.subset member)
      rw [Delivers, decoded]
      refine ⟨received.1, received.2, fun quiet => ?_⟩
      have settled :=
        settled_of_quiet sound (by rw [called]; rfl) quiet isLeaf.1
      obtain ⟨answered, isAnswer⟩ := StreamSettles.exists_answer settled
      by_contra notEnded
      have stuck := (quiet path).2
      simp only [step, isLeaf.1, isLeaf.2, Bool.not_eq_true _ ▸ notEnded,
        isAnswer, and_self, ↓reduceIte, Option.map_some] at stuck
      cases stuck

/-! ## How often a stream is read -/

/-- What a step does to the stream at a path. -/
inductive StreamStep
    (path : List Nat)
    (label : ForkStep) :
    Option ForkedStream → Option ForkedStream → Prop where
  | stays (there : Option ForkedStream) :
      label ≠ .pumps path →
      label ≠ .reads path →
      StreamStep path label there there
  | created :
      label ≠ .pumps path →
      label ≠ .reads path →
      StreamStep path label none (some {})
  | written (node : ForkedStream) (call : WriterCall) :
      label ≠ .pumps path →
      label ≠ .reads path →
      StreamStep path label (some node) (some (node.written call))
  | forked (node : ForkedStream) (writers : Nat) :
      label ≠ .pumps path →
      label ≠ .reads path →
      node.user = .nobody →
      StreamStep path label
        (some node) (some { node with user := .pump writers })
  | pumped (node after : ForkedStream) (writers : Nat) :
      label = .pumps path →
      node.user = .pump writers →
      after.user = .pumped writers →
      after.ended = node.ended →
      node.stream.settled = true →
      after.stream = { node.stream with chunk := none } →
      StreamStep path label (some node) (some after)
  | read (node after : ForkedStream) :
      label = .reads path →
      node.user.isLeaf = true →
      node.ended = false →
      node.stream.settled = true →
      after.stream = { node.stream with chunk := none } →
      after.ended = node.stream.chunk.isNone →
      StreamStep path label (some node) (some after)

/-- A step on one stream and its children, seen from any stream. -/
theorem streamStep_of_step
    {label : ForkStep}
    (sound : ForksSound forks.firstCall forks.streams)
    (stepped : forks.step label = some next)
    (path : List Nat) :
    StreamStep path label (forks.streams path) (next.streams path) := by
  cases label with
  | calls call =>
      obtain ⟨node, atRoot, -⟩ := sound.root
      simp only [step, atRoot, Option.map_some, Option.some.injEq] at stepped
      subst stepped
      dsimp only
      by_cases isRoot : path = []
      · subst isRoot
        rw [Function.update_self, atRoot]
        exact .written node call (by simp) (by simp)
      · rw [Function.update_of_ne isRoot]
        exact .stays _ (by simp) (by simp)
  | forks there writers =>
      simp only [step] at stepped
      split at stepped
      next node found =>
        split at stepped
        next nobody =>
          cases stepped
          dsimp only
          by_cases isChild : ∃ i, path = i :: there ∧ i < writers
          · obtain ⟨i, rfl, below⟩ := isChild
            rw [ForkStreams.addChildren_child below,
              sound.not_child found (by rw [nobody]; rfl)]
            exact .created (by simp) (by simp)
          rw [ForkStreams.addChildren_of_not_child isChild]
          by_cases same : path = there
          · subst same
            rw [Function.update_self, found]
            exact .forked node writers (by simp) (by simp) nobody
          · rw [Function.update_of_ne same]
            exact .stays _ (by simp) (by simp)
        next => cases stepped
      next => cases stepped
  | pumps there =>
      simp only [step] at stepped
      split at stepped
      next node found =>
        split at stepped
        next writers value rest pumping answered =>
          cases stepped
          obtain ⟨settled, rfl, rfl⟩ :=
            (sound.settles there node found).of_answer answered
          dsimp only
          by_cases isChild : ∃ i, path = i :: there ∧ i < writers
          · obtain ⟨i, rfl, below⟩ := isChild
            have other : i :: there ≠ there := List.cons_ne_self i there
            rw [ForkStreams.writeChildren_child below,
              Function.update_of_ne other]
            cases forks.streams (i :: there) with
            | none => exact .stays _ (by simp) (by simp)
            | some child => exact .written child _ (by simp) (by simp)
          rw [ForkStreams.writeChildren_of_not_child isChild]
          by_cases same : path = there
          · subst same
            rw [Function.update_self, found]
            exact .pumped node _ writers rfl pumping rfl rfl settled rfl
          · rw [Function.update_of_ne same]
            exact .stays _ (by simpa using Ne.symm same) (by simp)
        next => cases stepped
      next => cases stepped
  | reads there =>
      simp only [step] at stepped
      split at stepped
      next node found =>
        split at stepped
        next goesOn =>
          obtain ⟨⟨value, rest⟩, answered, rfl⟩ :=
            Option.map_eq_some_iff.mp stepped
          obtain ⟨settled, rfl, rfl⟩ :=
            (sound.settles there node found).of_answer answered
          dsimp only
          by_cases same : path = there
          · subst same
            rw [Function.update_self, found]
            exact .read node _ rfl goesOn.1 goesOn.2 settled rfl rfl
          · rw [Function.update_of_ne same]
            exact .stays _ (by simp) (by simpa using Ne.symm same)
        next => cases stepped
      next => cases stepped

/-- How often the pump of a stream goes on yet, at most. -/
def pumpsLeft : Option ForkedStream → Nat
  | some node =>
      match node.user with
      | .pumped _ => 0
      | _ => 1
  | none => 1

/-- How often the reader of a leaf goes on yet, at most. -/
def readsLeft : Option ForkedStream → Nat
  | some node =>
      if node.ended then
        0
      else if node.stream.settled ∧ node.stream.chunk = none then
        1
      else
        2
  | none => 2

/-- A pump that goes on does so for the last time. -/
theorem pumpsLeft_of_streamStep
    {path : List Nat}
    {label : ForkStep}
    {before after : Option ForkedStream}
    (stepped : StreamStep path label before after) :
    pumpsLeft after ≤ pumpsLeft before ∧
      (label = .pumps path → pumpsLeft after < pumpsLeft before) := by
  cases stepped with
  | stays there notPump _ =>
      exact ⟨Nat.le_refl _, fun isPump => absurd isPump notPump⟩
  | created notPump _ =>
      exact ⟨Nat.le_refl _, fun isPump => absurd isPump notPump⟩
  | written node call notPump _ =>
      exact ⟨Nat.le_refl _, fun isPump => absurd isPump notPump⟩
  | forked node writers notPump _ nobody =>
      refine ⟨?_, fun isPump => absurd isPump notPump⟩
      simp only [pumpsLeft, nobody, Nat.le_refl]
  | pumped node after writers _ pumping pumped =>
      simp only [pumpsLeft, pumping, pumped]
      exact ⟨Nat.zero_le _, fun _ => Nat.zero_lt_one⟩
  | read node after isRead isLeaf =>
      refine ⟨?_, fun isPump => by rw [isRead] at isPump; cases isPump⟩
      have notPumped : pumpsLeft (some node) = 1 := by
        simp only [pumpsLeft]
        split
        next pumped =>
          rw [pumped] at isLeaf
          cases isLeaf
        next => rfl
      rw [notPumped]
      simp only [pumpsLeft]
      split
      · exact Nat.zero_le _
      · exact Nat.le_refl _

/-- The reader of a leaf goes on for a chunk and for the end. -/
theorem readsLeft_of_streamStep
    {path : List Nat}
    {label : ForkStep}
    {before after : Option ForkedStream}
    (stepped : StreamStep path label before after) :
    readsLeft after ≤ readsLeft before ∧
      (label = .reads path → readsLeft after < readsLeft before) := by
  cases stepped with
  | stays there _ notRead =>
      exact ⟨Nat.le_refl _, fun isRead => absurd isRead notRead⟩
  | created _ notRead =>
      exact ⟨Nat.le_refl _, fun isRead => absurd isRead notRead⟩
  | written node call _ notRead =>
      refine ⟨?_, fun isRead => absurd isRead notRead⟩
      by_cases settled : node.stream.settled = true
      · rw [ForkedStream.written, WriterCall.write_of_settled settled]
      · by_cases ended : node.ended = true
        · simp only [readsLeft, ForkedStream.written, ended, ↓reduceIte,
            Nat.le_refl]
        · simp only [readsLeft, ForkedStream.written, ended, settled,
            Bool.false_eq_true, false_and, ↓reduceIte]
          split <;> simp
  | forked node writers _ notRead _ =>
      exact ⟨Nat.le_refl _, fun isRead => absurd isRead notRead⟩
  | pumped node after writers isPump _ _ sameEnd settled rest =>
      refine ⟨?_, fun isRead => by rw [isPump] at isRead; cases isRead⟩
      simp only [readsLeft, sameEnd, rest, settled, true_and, ↓reduceIte]
      split
      · exact Nat.le_refl _
      · split <;> simp
  | read node after _ _ notEnded settled rest ends =>
      have lower : readsLeft (some after) < readsLeft (some node) := by
        simp only [readsLeft, notEnded, ends, rest, settled]
        cases node.stream.chunk <;> simp
      exact ⟨Nat.le_of_lt lower, fun _ => lower⟩

/-- Where a step on one stream lowers its rank, it is taken that often. -/
theorem count_le_of_run
    {labels : List ForkStep}
    (counted : ForkStep)
    (path : List Nat)
    (left : Option ForkedStream → Nat)
    (lowers :
      ∀ {label before after},
        StreamStep path label before after →
        left after ≤ left before ∧
          (label = counted → left after < left before))
    (run :
      GuardedRun step (fun _ label => label.Survives) created labels forks) :
    labels.count counted ≤ left (created.streams path) := by
  have bounded :=
    (run.strengthen sound_of_step ForksSound.created).countP_add_le
        (· == counted)
        (fun forks => left (forks.streams path))
        (fun met stepped =>
          (lowers (streamStep_of_step met.2 stepped path)).1)
        (fun met counts stepped =>
          (lowers (streamStep_of_step met.2 stepped path)).2
            (beq_iff_eq.mp counts))
  exact Nat.le_of_add_right_le bounded

/--
The leaves of every tree of forks agree: however the calls on the writer, the
pumps and the readers interleave, each has delivered nothing before the first
call, and part of what that call says after it; when it has ended, and when
nobody can go on any more, it has delivered all of it.  No pump goes on more
than once, and no reader of a leaf more than twice.
-/
theorem forks_agree
    {labels : List ForkStep}
    (run :
      GuardedRun step (fun _ label => label.Survives) created labels forks) :
    (∀ path leaf,
        forks.IsLeaf path leaf →
        forks.Delivers leaf (firstCall? labels)) ∧
      ∀ path,
        labels.count (.pumps path) ≤ 1 ∧ labels.count (.reads path) ≤ 2 := by
  refine ⟨fun path leaf isLeaf => ?_, fun path => ⟨?_, ?_⟩⟩
  · have sound := run.invariant sound_of_step ForksSound.created
    have recorded := firstCall_of_run run
    rw [created, Option.none_or] at recorded
    exact recorded ▸ delivers_of_sound sound isLeaf
  · refine
      (count_le_of_run _ path pumpsLeft pumpsLeft_of_streamStep run).trans ?_
    cases path <;> exact Nat.le_refl _
  · refine
      (count_le_of_run _ path readsLeft readsLeft_of_streamStep run).trans ?_
    cases path <;> exact Nat.le_refl _

/--
Two levels of forks, the inner one made while the writer is called, which
closes its stream in between.
-/
def twoLevels : List ForkStep :=
  [.forks [] 2, .calls (.cancel (some "go")), .pumps [], .forks [1] 1,
    .calls .close, .reads [0], .pumps [1], .reads [0, 1], .reads [0, 1]]

/-- In it the inner leaf gets the reason and then ends. -/
theorem forks_agree_twoLevels :
    ∃ (forks : CancelForks) (leaf : ForkedStream),
      GuardedRun step (fun _ label => label.Survives) created twoLevels
        forks ∧
      forks.IsLeaf [0, 1] leaf ∧
      leaf.ended = true ∧
      leaf.received.map decodeChunk = ["go"] := by
  have executed :
      (twoLevels.foldlM
        (fun forks (label : ForkStep) =>
          if label.Survives then step forks label else none) created).bind
        (fun forks => forks.streams [0, 1]) =
        some
          { stream := { settled := true }
            user := .leaf
            received := ["go"]
            ended := true } := by
    decide
  obtain ⟨forks, reached, there⟩ := Option.bind_eq_some_iff.mp executed
  have run := GuardedRun.of_checked reached
  have delivered := (forks_agree run).1 [0, 1] _ ⟨there, rfl⟩
  exact ⟨forks, _, run, ⟨there, rfl⟩, rfl, delivered.2.1 rfl⟩

end CancelForks

end CloudflareParallel
