import CloudflareParallel.Library.BacktrackingPatterns
import CloudflareParallel.LoaderSerialize
import Mathlib.Data.List.Infix

namespace CloudflareParallel

open BacktrackingPatterns

/-!
# Function sources and bundler shims

`serializeFunction`: the guards on the text of a function, and the two regular
expressions that take the helpers of the bundler out of it.
-/

/-- `\s`. -/
def isSpace (c : Char) : Bool :=
  (9 ≤ c.toNat && c.toNat ≤ 13) || c.toNat == 0x20 || c.toNat == 0xA0 ||
    c.toNat == 0x1680 || (0x2000 ≤ c.toNat && c.toNat ≤ 0x200A) ||
    c.toNat == 0x2028 || c.toNat == 0x2029 || c.toNat == 0x202F ||
    c.toNat == 0x205F || c.toNat == 0x3000 || c.toNat == 0xFEFF

/-- `\w`. -/
def isWordChar (c : Char) : Bool :=
  isAsciiLetter c || ('0' ≤ c && c ≤ '9') || c == '_'

/-- `[A-Za-z_$]`. -/
def isIdentifierStart (c : Char) : Bool :=
  isAsciiLetter c || c == '_' || c == '$'

/-- `[A-Za-z0-9_$]`. -/
def isIdentifierPart (c : Char) : Bool :=
  isIdentifierStart c || ('0' ≤ c && c ≤ '9')

/-- `\s*`. -/
def spaces : Pattern :=
  .run isSpace 0 true

/-- `"[^"]*"`, for either quote. -/
def quoted (quote : Char) : Pattern :=
  .sequence (.text [quote])
    (.sequence (.run (· != quote) 0 true) (.text [quote]))

/-- Pattern after pattern. -/
def inOrder : List Pattern → Pattern
  | [] => .text []
  | [pattern] => pattern
  | pattern :: rest => .sequence pattern (inOrder rest)

/-- `__name(`. -/
def nameHead : List Char :=
  ['_', '_', 'n', 'a', 'm', 'e', '(']

/-- `\s*,\s*(?:"[^"]*"|'[^']*')\s*\)`. -/
def nameTail : Pattern :=
  inOrder
    [ spaces, .text [','], spaces, .choice (quoted '"') (quoted '\''), spaces,
      .text [')'] ]

/-- `/__name\(\s*([\s\S]*?)\s*,\s*(?:"[^"]*"|'[^']*')\s*\)/`. -/
def nameShim : Pattern :=
  inOrder
    [ .text nameHead, spaces, .group (.run (fun _ => true) 0 false), nameTail ]

/-- `__publicField(`. -/
def publicFieldHead : List Char :=
  [ '_', '_', 'p', 'u', 'b', 'l', 'i', 'c', 'F', 'i', 'e', 'l', 'd', '(' ]

/-- `"[^"]*"|'[^']*'|[A-Za-z_$][A-Za-z0-9_$]*`. -/
def publicFieldKey : Pattern :=
  .choice (quoted '"')
    (.choice (quoted '\'')
      (.sequence (.char isIdentifierStart) (.run isIdentifierPart 0 true)))

/--
`/__publicField\(\s*([^,]+?)\s*,\s*(KEY)\s*,\s*([\s\S]+?)\s*\)\s*;?/`, with the
key as above.
-/
def publicFieldShim : Pattern :=
  inOrder
    [ .text publicFieldHead, spaces, .group (.run (· != ',') 1 false), spaces,
      .text [','], spaces, .group publicFieldKey, spaces, .text [','], spaces,
      .group (.run (fun _ => true) 1 false), spaces, .text [')'], spaces,
      .choice (.text [';']) (.text []) ]

/-- `$1`. -/
def firstGroup (found : Found) : List Char :=
  found.groups.headD []

/-- The assignment that replaces a field initializer. -/
def fieldAssignment (found : Found) : List Char :=
  match found.groups with
  | [target, key, value] =>
      let accessor :=
        if key.head? = some '"' ∨ key.head? = some '\'' then
          '[' :: (key ++ [']'])
        else
          '.' :: key
      target ++ accessor ++ [' ', '=', ' '] ++ value ++ [';']
  | _ => []

/-- `stripBundlerShims`. -/
def stripBundlerShims (src : List Char) : List Char :=
  replaceAll publicFieldShim fieldAssignment
    (replaceAll nameShim firstGroup src)

/-- The word stands in the text, with no word character next to it. -/
def containsWord (word : List Char) : Bool → List Char → Bool
  | _, [] => false
  | afterWordChar, c :: rest =>
      (!afterWordChar && word.isPrefixOf (c :: rest) &&
          !((c :: rest).drop word.length).head?.any isWordChar) ||
        containsWord word (isWordChar c) rest

/-- `/\bthis\b/.test(source)`. -/
def referencesThis (source : List Char) : Bool :=
  containsWord ['t', 'h', 'i', 's'] false source

/-- What `serializeFunction` is given: a function, or a value of another type. -/
inductive FunctionArgument where
  | function (source name : String)
  | other (typeName : String)
  deriving Repr, DecidableEq

/-- `[native code]`. -/
def nativeMarker : List Char :=
  ['[', 'n', 'a', 't', 'i', 'v', 'e', ' ', 'c', 'o', 'd', 'e', ']']

/-- `fn.name || '(anonymous)'`. -/
def displayName (name : String) : String :=
  if name = "" then "(anonymous)" else name

/-- `serializeFunction`. -/
def serializeFunction :
    FunctionArgument → Except SerializationError String
  | .other typeName =>
      .error { message := s!"Expected a function, got {typeName}" }
  | .function raw name =>
      if nativeMarker <:+: raw.toList then
        .error {
          message :=
            s!"Cannot serialize native function: {displayName name}. " ++
              "Only user-defined functions can be dispatched to remote isolates."
        }
      else
        let source := stripBundlerShims raw.toList
        if referencesThis source then
          .error {
            message :=
              s!"Function \"{displayName name}\" references `this`, which is " ++
                "not available in a remote isolate. Pass values as explicit arguments " ++
                "instead, or use Parallel.actor (which receives `(state, sql, ...args, env)`)."
          }
        else
          .ok (String.ofList source)

end CloudflareParallel
