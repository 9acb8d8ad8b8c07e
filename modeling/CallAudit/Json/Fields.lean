import CallAudit.Json.Reader

/-!
# Structures in JSON

A structure is written as an object, each field at most once and unknown members skipped, or as an
array of its fields in order, from which trailing ones may be missing. `slots?` finds the fields by
name, `placed?` by position.
-/
namespace CallAudit.Json

/-- The field of that name; a name that stands twice is refused. -/
def slot? {α : Type} (ms : List (String × α)) (name : String) : Option (Option α) :=
  match ms.filter (fun m => m.1 == name) with
  | [] => some none
  | [m] => some (some m.2)
  | _ => none

/-- The fields of these names. -/
def slots? {α : Type} (names : List String) (ms : List (String × α)) : Option (List (Option α)) :=
  names.mapM (slot? ms)

/-- The fields by position; `surplus` allows more items than fields. -/
def placed? {α : Type} (surplus : Bool) (names : List String) (xs : List α) :
    Option (List (Option α)) :=
  if surplus || xs.length ≤ names.length then
    some ((xs.take names.length).map some ++ List.replicate (names.length - xs.length) none)
  else none

/-- The fields of a structure in JSON. -/
def fields? (surplus : Bool) (names : List String) : Json → Option (List (Option Json))
  | object ms => slots? names ms
  | array xs => placed? surplus names xs
  | _ => none

/-- The keys of an object, if all denote a text. -/
def Tree.keyed? (ms : List (Option String × Tree)) : Option (List (String × Tree)) :=
  ms.mapM (fun m => m.1.map (fun k => (k, m.2)))

/-- The fields of a structure in a text. -/
def Tree.fields? (names : List String) : Tree → Option (List (Option Tree))
  | .object ms => (Tree.keyed? ms).bind (slots? names)
  | .array xs => placed? false names xs
  | .leaf _ => none

/-- The name of a bare variant: a string, or an object with that one key over a unit. -/
def variant? (isUnit : Json → Bool) : Json → Option String
  | string s => some s
  | object [(k, v)] => if isUnit v then some k else none
  | _ => none

def isNull : Json → Bool
  | null => true
  | _ => false

/-- A value by the name of a bare variant. -/
def named? {α : Type} (isUnit : Json → Bool) (ofName? : String → Option α) (v : Json) : Option α :=
  (variant? isUnit v).bind ofName?

/-- A field with a value to stand in for it. -/
def withDefault? {α β : Type} (default : β) (decode : α → Option β) (slot : Option α) : Option β :=
  match slot with
  | some v => decode v
  | none => some default

/-- A decoder that takes null as absence. -/
def nullable? {α : Type} (decode : Json → Option α) : Json → Option (Option α)
  | null => some none
  | v => (decode v).map some

/-- Decodes a part of a text. -/
def Tree.as? {α : Type} (decode : Json → Option α) (t : Tree) : Option α := t.value?.bind decode

/-- The members, if all are texts. -/
def texts? : List (String × Json) → Option (List (String × String))
  | [] => some []
  | (k, v) :: ms => match v.string?, texts? ms with
    | some s, some ts => some ((k, s) :: ts)
    | _, _ => none

/-- A map from texts to texts; a later member replaces an earlier one of its key. -/
def textMap? : Json → Option (Dict String)
  | object ms => (texts? ms).map Dict.ofList
  | _ => none

end CallAudit.Json
