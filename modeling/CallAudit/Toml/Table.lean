import CallAudit.Json.Basic

/-!
# TOML tables

A table is filled by key-value lines, whose dotted keys make tables on their way, and by headers. What
a line or header makes may not be made again by another one: `Table.define` and `Table.place` say which
definitions agree with each other.

* `Table.define`: a key-value line.
* `Table.place`: a table under its header.
* `Table.append`: a table under the header of an array.
-/
namespace CallAudit.Toml

mutual

/-- What a key of a table holds. -/
inductive Node where
  | value (v : Json)
  | table (t : Table)
  /-- an array of tables, the last first -/
  | tables (ts : List Table)

/-- A table. -/
inductive Table where
  /-- `implicit`: made on the way to another one; `dotted`: made by a dotted key -/
  | mk (implicit dotted : Bool) (entries : List (String × Node))

end

namespace Table

instance : Inhabited Table := ⟨mk false false []⟩

def implicit : Table → Bool
  | mk i _ _ => i

def dotted : Table → Bool
  | mk _ d _ => d

def entries : Table → List (String × Node)
  | mk _ _ es => es

/-- A table without entries that a header makes. -/
def empty : Table := mk false false []

def get? (t : Table) (k : String) : Option Node := (t.entries.find? (fun e => e.1 == k)).map (·.2)

/-- The entries with `n` under `k`. -/
def setIn (k : String) (n : Node) : List (String × Node) → List (String × Node)
  | [] => [(k, n)]
  | e :: es => if e.1 == k then (k, n) :: es else e :: setIn k n es

def set (t : Table) (k : String) (n : Node) : Table :=
  mk t.implicit t.dotted (setIn k n t.entries)

/-- Changes the table at the end of a path, making the missing tables on the way; `byKey` says that
the path is of a dotted key, which does not lead into tables with headers of their own. -/
def modifyAt (byKey : Bool) (change : Table → Option Table) : List String → Table → Option Table
  | [], t => change t
  | k :: ks, t =>
    match t.get? k with
    | none => (modifyAt byKey change ks (mk true byKey [])).map (fun c => t.set k (.table c))
    | some (.table c) =>
      if byKey && !c.implicit then none
      else (modifyAt byKey change ks c).map (fun c => t.set k (.table c))
    | some (.tables (c :: cs)) =>
      (modifyAt byKey change ks c).map (fun c => t.set k (.tables (c :: cs)))
    | some _ => none

/-- Gives a key of a table its value, once. -/
def insertNew (byKey : Bool) (k : String) (v : Json) (t : Table) : Option Table :=
  if t.dotted != byKey || (t.get? k).isSome then none else some (t.set k (.value v))

/-- The table with the value of a dotted key. -/
def define (t : Table) (path : List String) (v : Json) : Option Table :=
  match path.getLast? with
  | none => none
  | some k => t.modifyAt true (insertNew (1 < path.length) k v) path.dropLast

/-- What a header continues: the table that was made on the way to others, or a new one. -/
def continued (t : Table) : List String → Table
  | [] => t
  | k :: ks =>
    match t.get? k with
    | some (.table c) => continued c ks
    | some (.tables (c :: _)) => if ks.isEmpty then empty else continued c ks
    | _ => empty

/-- A table that its own header opens: what it continues counts as made by the header. -/
def opened (t : Table) (path : List String) : Table := mk false false (continued t path).entries

/-- The table with `c` under the header of that path. -/
def place (t : Table) (path : List String) (c : Table) : Option Table :=
  match path.getLast? with
  | none => some c
  | some k =>
    t.modifyAt false (fun parent =>
      match parent.get? k with
      | none => some (parent.set k (.table c))
      | some (.table old) =>
        if old.implicit && !old.dotted then some (parent.set k (.table c)) else none
      | some _ => none) path.dropLast

/-- The table with `c` as the next element of the array of that path. -/
def append (t : Table) (path : List String) (c : Table) : Option Table :=
  match path.getLast? with
  | none => none
  | some k =>
    t.modifyAt false (fun parent =>
      match parent.get? k with
      | none => some (parent.set k (.tables [c]))
      | some (.tables cs) => some (parent.set k (.tables (c :: cs)))
      | some _ => none) path.dropLast

mutual

/-- The table as a JSON object. -/
def toJson : Table → Json
  | mk _ _ es => .object (membersJson es)

def membersJson : List (String × Node) → List (String × Json)
  | [] => []
  | (k, n) :: es => (k, nodeJson n) :: membersJson es

def nodeJson : Node → Json
  | .value v => v
  | .table t => toJson t
  | .tables ts => .array (tablesJson [] ts)

/-- The tables from the first to the last. -/
def tablesJson (later : List Json) : List Table → List Json
  | [] => later
  | t :: ts => tablesJson (toJson t :: later) ts

end

end Table

end CallAudit.Toml
