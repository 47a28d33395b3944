import MetricAlgebra.Json.Decode
import MetricAlgebra.LabelEdit

/-!
# Edits of labels in JSON

An edit is an object that says in its field `action` what it does, or a list that begins with it.
-/

namespace MetricAlgebra.LabelEdit

/-- Reads the fields of an edit whose action is known. -/
def ofAction? (action : String) (j : Json) : Option LabelEdit := do
  match action with
  | "set" =>
    let r ← j.toRecord? ["key", "value"]
    pure (set (← r.required "key" Json.toString?) (← r.required "value" Json.toString?))
  | "remove" =>
    let r ← j.toRecord? ["key"]
    pure (remove (← r.required "key" Json.toString?))
  | "rename" =>
    let r ← j.toRecord? ["from", "to"]
    pure (rename (← r.required "from" Json.toString?) (← r.required "to" Json.toString?))
  | "copy" =>
    let r ← j.toRecord? ["from", "to"]
    pure (copy (← r.required "from" Json.toString?) (← r.required "to" Json.toString?))
  | "replace" =>
    let r ← j.toRecord? ["source", "regex", "replacement", "target"]
    pure (replace (← r.required "source" Json.toString?) (← r.required "regex" Json.toString?)
      (← r.required "replacement" Json.toString?) (← r.required "target" Json.toString?))
  | _ => none

/-- Reads an edit around which there are `outer` levels of lists and objects. All but the action is
put aside until the action is known. -/
def ofJson? (outer : Nat) : Json → Option LabelEdit
  | .array (action :: items) => do
    let action ← action.toString?
    ofAction? action (← (Json.array items).putAside? (Json.maxDepth - outer))
  | .object fields => do
    let fields ← (Json.object fields).toFields?
    match fields.filter fun field => field.1 == "action" with
    | [(_, action)] =>
      let others := fields.filter fun field => field.1 != "action"
      ofAction? (← action.toString?)
        (← (Json.ofFields others).putAside? (Json.maxDepth - outer))
    | _ => none
  | _ => none

/-- Reads a list of edits. -/
def listOfJson? (outer : Nat) : Json → Option (List LabelEdit) :=
  Json.toList? (ofJson? (outer + 1))

/-- An edit as an object. -/
def toJson : LabelEdit → Json
  | set name value => fieldsOf "set" [("key", name), ("value", value)]
  | remove name => fieldsOf "remove" [("key", name)]
  | rename source target => fieldsOf "rename" [("from", source), ("to", target)]
  | copy source target => fieldsOf "copy" [("from", source), ("to", target)]
  | replace source pattern template target =>
    fieldsOf "replace"
      [("source", source), ("regex", pattern), ("replacement", template), ("target", target)]
where
  /-- The object of an action and its texts. -/
  fieldsOf (action : String) (texts : List (String × String)) : Json :=
    .ofFields ((("action", action) :: texts).map fun (name, text) => (name, .ofString text))

/-- A list of edits as a list of objects. -/
def listToJson (edits : List LabelEdit) : Json := .array (edits.map toJson)

end MetricAlgebra.LabelEdit
