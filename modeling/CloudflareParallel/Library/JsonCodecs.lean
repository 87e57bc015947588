import CloudflareParallel.Library.JsonValues
import Std.Data.String.ToInt

namespace JsonValues

/-!
# Types that are written as JSON

A type with a JSON form that reads back.  Optional properties are left out when
they have no value, and read back as none.
-/

/-- A type whose values are written as JSON and read back. -/
class JsonCodec (α : Type) where
  toJson : α → Json
  ofJson? : Json → Option α
  ofJson?_toJson (value : α) : ofJson? (toJson value) = some value

attribute [simp] JsonCodec.ofJson?_toJson

instance : JsonCodec String where
  toJson := .string
  ofJson? := Json.asString?
  ofJson?_toJson _ := rfl

instance : JsonCodec Int where
  toJson value := .number ⟨value.repr⟩
  ofJson?
    | .number value => value.text.toInt?
    | _ => none
  ofJson?_toJson := Int.toInt?_repr

namespace JsonCodec

variable {α : Type} [JsonCodec α]

instance : JsonCodec (List α) where
  toJson values := .array (values.map toJson)
  ofJson? json := json.asArray?.bind fun items => items.mapM ofJson?
  ofJson?_toJson values := by
    have reads : (values.map toJson).mapM ofJson? = some (values.map id) :=
      mapM_map_of_reads fun value _ => ofJson?_toJson value
    rw [List.map_id] at reads
    exact reads

/-- A record of values, as an object. -/
abbrev entries : JsonCodec (List (String × α)) where
  toJson values := .object (values.map fun entry => (entry.1, toJson entry.2))
  ofJson?
    | .object properties =>
        properties.mapM fun property =>
          (ofJson? property.2).map (property.1, ·)
    | _ => none
  ofJson?_toJson values := by
    have reads :
        (values.map fun entry => (entry.1, toJson entry.2)).mapM
            (fun property => (ofJson? property.2).map (property.1, ·)) =
          some (values.map id) :=
      mapM_map_of_reads fun entry _ => by simp
    rw [List.map_id] at reads
    exact reads

/-- A property that is there. -/
def required
    (json : Json)
    (key : String) : Option α :=
  (json.get? key).bind ofJson?

/-- A property that may be left out. -/
def optional
    (json : Json)
    (key : String) : Option (Option α) :=
  match json.get? key with
  | none => some none
  | some found => (ofJson? found).map some

theorem required_of_get?
    {json : Json}
    {key : String}
    {value : α}
    (found : json.get? key = some (toJson value)) :
    required json key = some value := by
  rw [required, found, Option.bind_some, ofJson?_toJson]

theorem optional_of_get?
    {json : Json}
    {key : String}
    {value : Option α}
    (found : json.get? key = value.map toJson) :
    optional json key = some value := by
  unfold optional
  rw [found]
  cases value with
  | none => rfl
  | some value =>
      rw [Option.map_some]
      simp

end JsonCodec

end JsonValues
