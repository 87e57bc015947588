import CloudflareParallel.JsLiterals
import CloudflareParallel.LoaderSerialize

namespace CloudflareParallel

open TextReaders

/-!
# Reading canonical texts as literals

The text that `JSON.stringify` writes for a literal, and the proof that reading
it as an expression gives the literal back: every key spelling, number and
string escape means the same to both languages.
-/

mutual

/-- The JSON text of a literal. -/
def Literal.text : Literal → List Char
  | .null => ['n', 'u', 'l', 'l']
  | .boolean true => ['t', 'r', 'u', 'e']
  | .boolean false => ['f', 'a', 'l', 's', 'e']
  | .numeral text => text.toList
  | .negated text => '-' :: text.toList
  | .string value => (jsonString value).toList
  | .array items => '[' :: ([','].intercalate (itemTexts items) ++ [']'])
  | .object members =>
      '\x7b' :: ([','].intercalate (memberTexts members) ++ ['\x7d'])

/-- The texts of array elements. -/
def itemTexts : List Literal → List (List Char)
  | [] => []
  | item :: rest => item.text :: itemTexts rest

/-- The texts of object members. -/
def memberTexts : List (String × Literal) → List (List Char)
  | [] => []
  | (key, value) :: rest =>
      ((jsonString key).toList ++ ':' :: value.text) :: memberTexts rest

end

/-- Numerals are canonical, and no object has two members of one name. -/
inductive Literal.Legal : Literal → Prop where
  | null :
      Legal .null
  | boolean (value : Bool) :
      Legal (.boolean value)
  | numeral {text : String} :
      isNumeral text.toList →
      Legal (.numeral text)
  | negated {text : String} :
      isNumeral text.toList →
      Legal (.negated text)
  | string (value : String) :
      Legal (.string value)
  | array {items : List Literal} :
      (∀ item ∈ items, Legal item) →
      Legal (.array items)
  | object {members : List (String × Literal)} :
      (members.map Prod.fst).Nodup →
      (∀ member ∈ members, Legal member.2) →
      Legal (.object members)

/-- The text of one member. -/
def memberLiteralText (member : String × Literal) : List Char :=
  (jsonString member.1).toList ++ ':' :: member.2.text

theorem itemTexts_eq_map (items : List Literal) :
    itemTexts items = items.map Literal.text := by
  induction items with
  | nil =>
      rfl
  | cons item rest inductionHypothesis =>
      rw [itemTexts, inductionHypothesis, List.map_cons]

theorem memberTexts_eq_map (members : List (String × Literal)) :
    memberTexts members = members.map memberLiteralText := by
  induction members with
  | nil =>
      rfl
  | cons member rest inductionHypothesis =>
      rw [memberTexts, inductionHypothesis, List.map_cons, memberLiteralText]

/-- The two low digits of a control character are read back. -/
theorem hexCharacter_digits :
    ∀ code < 32,
      hexCharacter '0' '0' (digitOfValue (code / 16)) (digitOfValue (code % 16)) =
        some (Char.ofNat code) := by
  decide

/-- A one-letter escape stands for its character. -/
theorem readString_escape
    {letter c : Char}
    (oneLetter : letter ≠ 'u')
    (escapes : escapedCharacter letter = some c)
    (rest : List Char) :
    readString ('\\' :: letter :: rest) =
      (readString rest).map fun found => (c :: found.1, found.2) := by
  rw [readString, if_neg (by decide), if_pos rfl, escapes, Option.bind_some]
  intro _ _ _ _ _ isUnicode
  exact absurd isUnicode oneLetter

/-- A character that needs no escape stands for itself. -/
theorem readString_plain
    {c : Char}
    (notQuote : c ≠ '"')
    (notBackslash : c ≠ '\\')
    (printable : 32 ≤ c.toNat)
    (rest : List Char) :
    readString (c :: rest) =
      (readString rest).map fun found => (c :: found.1, found.2) := by
  have notLineBreak : ¬ (c = '\n' ∨ c = '\r') := by
    rintro (rfl | rfl) <;> revert printable <;> decide
  rw [readString.eq_def]
  simp only [if_neg notQuote, if_neg notBackslash, if_neg notLineBreak]

/-- A character is its code. -/
theorem eq_ofNat_of_toNat_eq
    {c : Char}
    {code : Nat}
    (same : c.toNat = code) :
    Char.ofNat code = c := by
  rw [← same, Char.ofNat_toNat]

/-- One escaped character is read back. -/
theorem readString_jsonEscape
    (c : Char)
    (rest : List Char) :
    readString (jsonEscape c ++ rest) =
      (readString rest).map fun found => (c :: found.1, found.2) := by
  unfold jsonEscape
  split
  next quote =>
    subst quote
    exact readString_escape (by decide) (by decide) rest
  split
  next backslash =>
    subst backslash
    exact readString_escape (by decide) (by decide) rest
  split
  next backspace =>
    rw [← eq_ofNat_of_toNat_eq backspace]
    exact readString_escape (by decide) (by decide) rest
  split
  next tab =>
    rw [← eq_ofNat_of_toNat_eq tab]
    exact readString_escape (by decide) (by decide) rest
  split
  next lineFeed =>
    rw [← eq_ofNat_of_toNat_eq lineFeed]
    exact readString_escape (by decide) (by decide) rest
  split
  next formFeed =>
    rw [← eq_ofNat_of_toNat_eq formFeed]
    exact readString_escape (by decide) (by decide) rest
  split
  next carriageReturn =>
    rw [← eq_ofNat_of_toNat_eq carriageReturn]
    exact readString_escape (by decide) (by decide) rest
  split
  next control =>
    have decoded := hexCharacter_digits c.toNat control
    rw [Char.ofNat_toNat] at decoded
    simp only [unicodeEscape, List.cons_append, List.nil_append]
    rw [readString, if_neg (by decide), if_pos rfl]
    simp only [decoded, Option.bind_some]
  next notQuote notBackslash _ _ _ _ _ printable =>
    exact readString_plain notQuote notBackslash (by omega) rest

/-- A JSON string is read back, after its opening quote. -/
theorem readString_jsonString
    (value : String)
    (rest : List Char) :
    readString (value.toList.flatMap jsonEscape ++ '"' :: rest) =
      some (value.toList, rest) := by
  induction value.toList with
  | nil =>
      rw [List.flatMap_nil, List.nil_append, readString.eq_def]
      simp only [if_true]
  | cons c others inductionHypothesis =>
      rw [List.flatMap_cons, List.append_assoc, readString_jsonEscape,
        inductionHypothesis]
      rfl

/-- A JSON string opens and closes with a quote. -/
theorem toList_jsonString (value : String) :
    (jsonString value).toList =
      '"' :: (value.toList.flatMap jsonEscape ++ ['"']) := by
  rw [jsonString, String.toList_ofList]
  rfl

/-- A member is read back when its value is. -/
theorem reads_member
    {readValue : Reader Literal}
    {member : String × Literal}
    (value : Reads isTokenChar readValue member.2.text member.2) :
    Reads isTokenChar (readMember readValue)
      (memberLiteralText member) member := by
  intro rest ends
  rw [memberLiteralText, toList_jsonString]
  simp only [List.cons_append, List.append_assoc, List.nil_append]
  rw [readMember, readString_jsonString]
  simp only [value rest ends, Option.map_some, String.ofList_toList]

/-- A token is read up to its end. -/
theorem reads_token
    {token : List Char}
    {literal : Literal}
    (isToken : ∀ c ∈ token, isTokenChar c = true)
    (nonempty : token ≠ [])
    (isLiteral : tokenLiteral token = some literal)
    (depth : Nat) :
    Reads isTokenChar (readLiteral (depth + 1)) token literal := by
  intro rest ends
  have span := span_token isToken ends
  cases token with
  | nil =>
      exact absurd rfl nonempty
  | cons first tail =>
      have firstToken := isToken first (List.mem_cons_self ..)
      have notQuote : first ≠ '"' := by
        rintro rfl
        exact absurd firstToken (by decide)
      have notBracket : first ≠ '[' := by
        rintro rfl
        exact absurd firstToken (by decide)
      have notBrace : first ≠ '\x7b' := by
        rintro rfl
        exact absurd firstToken (by decide)
      rw [List.cons_append] at span ⊢
      simp only [readLiteral, if_neg notQuote, if_neg notBracket,
        if_neg notBrace, span, isLiteral, Option.map_some]

/-- What a canonical numeral looks like from outside. -/
theorem isNumeral_spec
    {text : List Char}
    (numeral : isNumeral text = true) :
    (∀ c ∈ text, isTokenChar c = true) ∧
      ∃ first tail, text = first :: tail ∧ first.isDigit = true := by
  simp only [isNumeral, Bool.and_eq_true] at numeral
  obtain ⟨⟨⟨⟨tokens, digit⟩, _⟩, _⟩, _⟩ := numeral
  refine ⟨List.all_eq_true.1 tokens, ?_⟩
  cases text with
  | nil =>
      cases digit
  | cons first tail =>
      exact ⟨first, tail, rfl, digit⟩

/-- A canonical numeral is a number. -/
theorem tokenLiteral_numeral
    {text : List Char}
    (numeral : isNumeral text = true) :
    tokenLiteral text = some (.numeral (String.ofList text)) := by
  obtain ⟨_, first, tail, rfl, digit⟩ := isNumeral_spec numeral
  have notNull : first :: tail ≠ ['n', 'u', 'l', 'l'] := by
    rintro ⟨⟩
    exact absurd digit (by decide)
  have notTrue : first :: tail ≠ ['t', 'r', 'u', 'e'] := by
    rintro ⟨⟩
    exact absurd digit (by decide)
  have notFalse : first :: tail ≠ ['f', 'a', 'l', 's', 'e'] := by
    rintro ⟨⟩
    exact absurd digit (by decide)
  rw [tokenLiteral, if_neg notNull, if_neg notTrue, if_neg notFalse,
    if_pos numeral]

/-- A minus sign before a canonical numeral negates it. -/
theorem tokenLiteral_negated
    {text : List Char}
    (numeral : isNumeral text = true) :
    tokenLiteral ('-' :: text) = some (.negated (String.ofList text)) := by
  have signed : ¬ isNumeral ('-' :: text) = true := by
    intro both
    obtain ⟨_, first, tail, same, digit⟩ := isNumeral_spec both
    cases same
    exact absurd digit (by decide)
  rw [tokenLiteral, if_neg (by simp), if_neg (by simp), if_neg (by simp),
    if_neg signed, if_pos ⟨rfl, numeral⟩]
  rfl

/-- The text of a legal literal does not start like the end of an array. -/
theorem Literal.Legal.starts
    {literal : Literal}
    (legal : literal.Legal) :
    ∃ first tail, literal.text = first :: tail ∧ first ≠ ']' := by
  cases legal with
  | null =>
      exact ⟨_, _, rfl, by decide⟩
  | boolean value =>
      cases value <;> exact ⟨_, _, rfl, by decide⟩
  | numeral numeral =>
      obtain ⟨_, first, tail, shape, digit⟩ := isNumeral_spec numeral
      refine ⟨first, tail, shape, ?_⟩
      rintro rfl
      exact absurd digit (by decide)
  | negated _ =>
      exact ⟨_, _, rfl, by decide⟩
  | string value =>
      exact ⟨_, _, toList_jsonString value, by decide⟩
  | array _ =>
      exact ⟨_, _, rfl, by decide⟩
  | object _ _ =>
      exact ⟨_, _, rfl, by decide⟩

/-- An object without two members of one name sets its prototype once at most. -/
theorem countP_proto_le_one
    {members : List (String × Literal)}
    (once : (members.map Prod.fst).Nodup) :
    members.countP (fun member => member.1 == "__proto__") ≤ 1 := by
  have counted := List.nodup_iff_count_le_one.1 once "__proto__"
  rw [List.count, List.countP_map] at counted
  exact counted

/-- Reading a legal literal takes some depth. -/
theorem Literal.Legal.exists_depth
    {literal : Literal}
    (legal : literal.Legal)
    {depth : Nat}
    (enough : literal.text.length ≤ depth) :
    ∃ less, depth = less + 1 := by
  obtain ⟨first, tail, shape, _⟩ := legal.starts
  rw [shape, List.length_cons] at enough
  exact ⟨depth - 1, by omega⟩

/-- A legal literal is read back from its text. -/
theorem Literal.Legal.reads
    {literal : Literal}
    (legal : literal.Legal)
    {depth : Nat}
    (enough : literal.text.length ≤ depth) :
    Reads isTokenChar (readLiteral depth) literal.text literal := by
  induction legal generalizing depth with
  | null =>
      obtain ⟨depth, rfl⟩ := Legal.null.exists_depth enough
      exact reads_token (List.all_eq_true.1 (by decide)) (by decide) rfl depth
  | boolean value =>
      obtain ⟨depth, rfl⟩ := (Legal.boolean value).exists_depth enough
      cases value <;>
        exact reads_token (List.all_eq_true.1 (by decide)) (by decide) rfl depth
  | @numeral text numeral =>
      obtain ⟨depth, rfl⟩ := (Legal.numeral numeral).exists_depth enough
      obtain ⟨tokens, first, tail, shape, _⟩ := isNumeral_spec numeral
      have nonempty : text.toList ≠ [] := by
        rw [shape]
        exact List.cons_ne_nil first tail
      have literal := tokenLiteral_numeral numeral
      rw [String.ofList_toList] at literal
      exact reads_token tokens nonempty literal depth
  | @negated text numeral =>
      obtain ⟨depth, rfl⟩ := (Legal.negated numeral).exists_depth enough
      have literal := tokenLiteral_negated numeral
      rw [String.ofList_toList] at literal
      have tokens : ∀ c ∈ '-' :: text.toList, isTokenChar c = true :=
        List.forall_mem_cons.2 ⟨by decide, (isNumeral_spec numeral).1⟩
      exact reads_token tokens (List.cons_ne_nil _ _) literal depth
  | string value =>
      obtain ⟨depth, rfl⟩ := (Legal.string value).exists_depth enough
      intro rest _
      rw [Literal.text, toList_jsonString]
      simp only [List.cons_append, List.append_assoc, List.nil_append,
        readLiteral, if_true, readString_jsonString, Option.map_some,
        String.ofList_toList]
  | @array items legal inductionHypothesis =>
      obtain ⟨depth, rfl⟩ := (Legal.array legal).exists_depth enough
      rw [Literal.text, itemTexts_eq_map] at enough ⊢
      have each :
          List.Forall₂ (Reads isTokenChar (readLiteral depth))
            (items.map Literal.text) items := by
        refine List.forall₂_map_left_iff.2 (List.forall₂_same.2 ?_)
        intro item member
        refine inductionHypothesis item member ?_
        have bound :=
          @length_le_of_mem ',' (items.map Literal.text) item.text
            (List.mem_map_of_mem member)
        simp only [List.length_cons, List.length_append] at enough
        omega
      have starts :
          ∀ text ∈ items.map Literal.text,
            ∃ first tail, text = first :: tail ∧ first ≠ ']' := by
        intro text member
        obtain ⟨item, itemMember, rfl⟩ := List.mem_map.1 member
        exact (legal item itemMember).starts
      intro rest _
      have read :=
        @readSequence_intercalate _ isTokenChar _ ',' ']' (by decide)
          (by decide) (by decide) _ _ each starts rest
      simp only [List.cons_append, List.append_assoc, List.nil_append,
        readLiteral, read, Option.map_some]
      rfl
  | @object members once legal inductionHypothesis =>
      obtain ⟨depth, rfl⟩ := (Legal.object once legal).exists_depth enough
      rw [Literal.text, memberTexts_eq_map] at enough ⊢
      have each :
          List.Forall₂ (Reads isTokenChar (readMember (readLiteral depth)))
            (members.map memberLiteralText) members := by
        refine List.forall₂_map_left_iff.2 (List.forall₂_same.2 ?_)
        intro member isMember
        refine reads_member (inductionHypothesis member isMember ?_)
        have bound :=
          @length_le_of_mem ',' (members.map memberLiteralText)
            (memberLiteralText member) (List.mem_map_of_mem isMember)
        simp only [memberLiteralText, List.length_cons,
          List.length_append] at enough bound
        omega
      have starts :
          ∀ text ∈ members.map memberLiteralText,
            ∃ first tail, text = first :: tail ∧ first ≠ '\x7d' := by
        intro text member
        obtain ⟨member, _, rfl⟩ := List.mem_map.1 member
        rw [memberLiteralText, toList_jsonString]
        exact ⟨_, _, rfl, by decide⟩
      intro rest _
      have read :=
        @readSequence_intercalate _ isTokenChar _ ',' '\x7d' (by decide)
          (by decide) (by decide) _ _ each starts rest
      simp only [List.cons_append, List.append_assoc, List.nil_append,
        readLiteral, read, Option.bind_some,
        if_pos (countP_proto_le_one once)]
      rfl

/-- The value of a legal literal is the value of its text. -/
theorem Literal.Legal.evaluateLiteral
    {literal : Literal}
    (legal : literal.Legal) :
    CloudflareParallel.evaluateLiteral (String.ofList literal.text) =
      some literal.evaluate := by
  have read := legal.reads (Nat.le_succ literal.text.length) []
    (by simp [EndsToken])
  rw [List.append_nil] at read
  rw [CloudflareParallel.evaluateLiteral, String.toList_ofList, read]

/-- Legal literals of one text are equal. -/
theorem Literal.Legal.eq_of_text_eq
    {first second : Literal}
    (firstLegal : first.Legal)
    (secondLegal : second.Legal)
    (same : first.text = second.text) :
    first = second := by
  have ends : EndsToken isTokenChar [] := by simp [EndsToken]
  have readFirst := firstLegal.reads (Nat.le_refl first.text.length) [] ends
  have readSecond := secondLegal.reads (Nat.le_refl second.text.length) [] ends
  rw [same, readSecond] at readFirst
  simpa using readFirst.symm

end CloudflareParallel
