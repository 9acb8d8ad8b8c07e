import CallAudit.Toml.Scalar
import CallAudit.Toml.Table

/-!
# TOML documents

A document is a sequence of lines: key-value lines fill the table of the header before them, and a
header opens a table or the next element of an array of tables.

* `Toml.read?`: the table that a text denotes, as JSON.
-/
namespace CallAudit.Toml

/-- Neither arrays and inline tables nor the names of a key nest deeper than this. -/
def depthLimit : Nat := 79

/-! ## Keys -/

def isBareChar (c : Char) : Bool := c.isAlphanum || c == '_' || c == '-'

/-- A name in a key. -/
def name? (cs : List Char) : Option (String × List Char) :=
  match cs with
  | [] => none
  | c :: rest =>
    if c = '\x22' ∨ c = '\x27' then
      (lineText? c (rest.length + 1) rest).map (fun r => (String.ofList r.1, r.2))
    else
      let bare := cs.takeWhile isBareChar
      if bare.isEmpty then none else some (String.ofList bare, cs.drop bare.length)

/-- Names between points, with blanks around them. -/
def names? : (fuel : Nat) → List Char → Option (List String × List Char)
  | 0, _ => none
  | fuel + 1, cs =>
    match name? (skipBlank cs) with
    | none => none
    | some (n, rest) =>
      match skipBlank rest with
      | '.' :: rest => (names? fuel rest).map (fun r => (n :: r.1, r.2))
      | rest => some ([n], rest)

/-- A key. -/
def key? (cs : List Char) : Option (List String × List Char) :=
  match names? (cs.length + 1) cs with
  | some (path, rest) => if path.length ≤ depthLimit then some (path, rest) else none
  | none => none

/-! ## Values -/

/-- Skips blanks, line breaks and comments. -/
def skipLines (inComment : Bool) : List Char → List Char
  | [] => []
  | '\r' :: '\n' :: cs => skipLines false cs
  | c :: cs =>
    if c = '\n' then skipLines false cs
    else if inComment then if isPrintable c then skipLines true cs else c :: cs
    else if isBlank c then skipLines false cs
    else if c = '#' then skipLines true cs
    else c :: cs

mutual

/-- A value, `depth` levels inside others. -/
def value? : (fuel depth : Nat) → List Char → Option (Json × List Char)
  | 0, _, _ => none
  | fuel + 1, depth, cs =>
    match cs with
    | '[' :: rest =>
      if depth < depthLimit then
        (items? fuel (depth + 1) rest).map (fun r => (.array r.1, r.2))
      else none
    | '\x7b' :: rest =>
      if depth < depthLimit then inlineTable? fuel (depth + 1) rest else none
    | cs => scalar? cs

/-- The items of an array and its closing bracket. -/
def items? : (fuel depth : Nat) → List Char → Option (List Json × List Char)
  | 0, _, _ => none
  | fuel + 1, depth, cs =>
    match skipLines false cs with
    | ']' :: rest => some ([], rest)
    | cs =>
      match value? fuel depth cs with
      | none => none
      | some (v, rest) =>
        match skipLines false rest with
        | ',' :: rest => (items? fuel depth rest).map (fun r => (v :: r.1, r.2))
        | ']' :: rest => some ([v], rest)
        | _ => none

/-- The entries of an inline table and its closing brace. -/
def inlineTable? : (fuel depth : Nat) → List Char → Option (Json × List Char)
  | 0, _, _ => none
  | fuel + 1, depth, cs =>
    match skipBlank cs with
    | '\x7d' :: rest => some (.object [], rest)
    | cs =>
      match entries? fuel depth cs with
      | none => none
      | some (es, rest) =>
        (es.foldl (fun t e => t.bind (fun t => t.define e.1 e.2)) (some Table.empty)).map
          (fun t => (t.toJson, rest))

/-- The entries of an inline table, of which there is at least one. -/
def entries? : (fuel depth : Nat) → List Char → Option (List (List String × Json) × List Char)
  | 0, _, _ => none
  | fuel + 1, depth, cs =>
    match key? cs with
    | some (path, '=' :: rest) =>
      match value? fuel depth (skipBlank rest) with
      | none => none
      | some (v, rest) =>
        match skipBlank rest with
        | ',' :: rest => (entries? fuel depth rest).map (fun r => ((path, v) :: r.1, r.2))
        | '\x7d' :: rest => some ([(path, v)], rest)
        | _ => none
    | _ => none

end

/-! ## Lines -/

/-- The end of a line, after blanks and a comment. -/
def lineEnd? (cs : List Char) : Option (List Char) :=
  let rest := match skipBlank cs with
    | '#' :: rest => rest.dropWhile isPrintable
    | rest => rest
  match rest with
  | [] => some []
  | rest => lineBreak? rest

/-- Where the lines of a table go. -/
inductive Header where
  | table (path : List String)
  | element (path : List String)

/-- A document being read: what is complete, and the table that the lines fill. -/
structure Draft where
  root : Table
  header : Header
  current : Table

namespace Draft

/-- The start of a document. -/
def empty : Draft := ⟨Table.empty, .table [], Table.empty⟩

/-- The document with its open table put in place. -/
def closed (d : Draft) : Option Table :=
  match d.header with
  | .table path => d.root.place path d.current
  | .element path => d.root.append path d.current

/-- The document at a new header. -/
def start (d : Draft) (h : Header) : Option Draft :=
  d.closed.map (fun root =>
    match h with
    | .table path => ⟨root, h, root.opened path⟩
    | .element _ => ⟨root, h, Table.empty⟩)

end Draft

/-- A header after its first bracket, with the end of its line. -/
def header? (cs : List Char) : Option (Header × List Char) :=
  match cs with
  | '[' :: cs =>
    match key? cs with
    | some (path, ']' :: ']' :: rest) => (lineEnd? rest).map (fun rest => (.element path, rest))
    | _ => none
  | cs =>
    match key? cs with
    | some (path, ']' :: rest) => (lineEnd? rest).map (fun rest => (.table path, rest))
    | _ => none

/-- A key-value line. -/
def keyValue? (cs : List Char) : Option (List String × Json × List Char) :=
  match key? cs with
  | some (path, '=' :: rest) =>
    match value? (2 * rest.length + 2) 0 (skipBlank rest) with
    | some (v, rest) => (lineEnd? rest).map (fun rest => (path, v, rest))
    | none => none
  | _ => none

/-- The lines of a document. -/
def lines? : (fuel : Nat) → Draft → List Char → Option Draft
  | 0, _, _ => none
  | fuel + 1, d, cs =>
    match skipBlank cs with
    | [] => some d
    | '[' :: rest =>
      match header? rest with
      | some (h, rest) => (d.start h).bind (fun d => lines? fuel d rest)
      | none => none
    | c :: rest =>
      if c = '\n' ∨ c = '\r' ∨ c = '#' then (lineEnd? (c :: rest)).bind (lines? fuel d)
      else match keyValue? (c :: rest) with
        | some (path, v, rest) =>
          (d.current.define path v).bind (fun t => lines? fuel { d with current := t } rest)
        | none => none

/-- The table that a text denotes. -/
def read? (text : String) : Option Json :=
  let cs := match text.toList with
    | '\ufeff' :: cs => cs
    | cs => cs
  ((lines? (cs.length + 1) Draft.empty cs).bind Draft.closed).map Table.toJson

end CallAudit.Toml
