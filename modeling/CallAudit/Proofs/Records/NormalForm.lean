import CallAudit.Proofs.Records.Snapshots

/-!
# Snapshots as a normal form

The snapshot of a JSON value is a copy of it: no key, item or text is lost or added, and a number is its
double, or null if it has none. Taken again of what it is itself written as, it is the same snapshot.

* `Value.Copies`: what a copy of a JSON value is, without saying how it is made. There is exactly one:
  `Value.copies_iff`.
* `Value.payload`: what a value is to whoever serializes it. With finite numbers it comes back:
  `Value.ofJson_payload`.

Result: `Snapshot.normal_form`.
-/
namespace CallAudit

/-! ## Maps of maps -/

namespace Keyed

variable {α β : Type}

theorem get?_ofList_map (k : String) (f : α → β) (es : List (String × α)) :
    get? k (ofList (es.map (fun e => (e.1, f e.2)))) = (get? k (ofList es)).map f := by
  rw [get?_ofList, get?_ofList, ← List.map_reverse, List.find?_map, Option.map_map, Option.map_map]
  rfl

/-- Entries that are replaced are so before or after a map over the values. -/
theorem ofList_map_ofList (f : α → β) (es : List (String × α)) :
    ofList ((ofList es).map (fun e => (e.1, f e.2))) = ofList (es.map (fun e => (e.1, f e.2))) := by
  refine ext_get? (sorted_ofList _) (sorted_ofList _) (fun k => ?_)
  rw [get?_ofList_map, get?_ofList_map, ofList_of_sorted _ (sorted_ofList es)]

end Keyed

/-! ## Copies -/

namespace Json

mutual

/-- Every integer is within 64 bits, as it is in all JSON: a number beyond them is a double. -/
def Bounded : Json → Prop
  | number (.int n) => Number.Integral n
  | array xs => BoundedItems xs
  | object ms => BoundedMembers ms
  | _ => True

def BoundedItems : List Json → Prop
  | [] => True
  | x :: xs => Bounded x ∧ BoundedItems xs

def BoundedMembers : List (String × Json) → Prop
  | [] => True
  | (_, x) :: ms => Bounded x ∧ BoundedMembers ms

end

theorem lastMember?_eq_get? (k : String) (ms : List (String × Json)) :
    lastMember? k ms = Keyed.get? k (Keyed.ofList ms) := (Keyed.get?_ofList k ms).symm

theorem exists_mem_of_lastMember? {k : String} {ms : List (String × Json)} {x : Json}
    (h : lastMember? k ms = some x) : ∃ m ∈ ms, m.2 = x := by
  obtain ⟨m, hm, rfl⟩ := Option.map_eq_some_iff.1 h
  exact ⟨m, List.mem_reverse.1 (List.mem_of_find?_eq_some hm), rfl⟩

end Json

namespace Value

/-- The value says what the JSON says: the same keys, the same items in the same places, the same texts,
and of each number its double, or null if that is no number. -/
inductive Copies : Json → Value → Prop where
  | null : Copies .null .null
  | bool (b : Bool) : Copies (.bool b) (.bool b)
  | number {n : Json.Number} : n.toBinary64.Finite → Copies (.number n) (.number n.toBinary64)
  | noNumber {n : Json.Number} : ¬ n.toBinary64.Finite → Copies (.number n) .null
  | text (s : String) : Copies (.string s) (.text s)
  | list {xs : List Json} {ys : List Value} : xs.length = ys.length →
      (∀ (i : Nat) x y, xs[i]? = some x → ys[i]? = some y → Copies x y) → Copies (.array xs) (.list ys)
  | struct {ms : List (String × Json)} {fs : List (String × Value)} : Keyed.Sorted fs →
      (∀ k, (Json.lastMember? k ms).isSome = (Keyed.get? k fs).isSome) →
      (∀ k x y, Json.lastMember? k ms = some x → Keyed.get? k fs = some y → Copies x y) →
      Copies (.object ms) (.struct fs)

theorem ofItems_eq_map (xs : List Json) : ofItems xs = xs.map ofJson := by
  induction xs with
  | nil => rfl
  | cons x xs ih => rw [ofItems, ih, List.map_cons]

theorem ofMembers_eq_map (ms : List (String × Json)) :
    ofMembers ms = ms.map (fun m => (m.1, ofJson m.2)) := by
  induction ms with
  | nil => rfl
  | cons m ms ih => rw [ofMembers, ih, List.map_cons]

/-- Of the members of a name the last one is copied. -/
theorem get?_ofMembers (k : String) (ms : List (String × Json)) :
    Keyed.get? k (Keyed.ofList (ofMembers ms)) = (Json.lastMember? k ms).map ofJson := by
  rw [ofMembers_eq_map, Keyed.get?_ofList_map, Json.lastMember?_eq_get?]

mutual

theorem copies_ofJson (v : Json) : Copies v (ofJson v) := by
  match v with
  | .null => exact .null
  | .bool b => exact .bool b
  | .string s => exact .text s
  | .number n =>
    rw [ofJson, ofFloat]
    split
    · exact .number ‹_›
    · exact .noNumber ‹_›
  | .array xs =>
    have hitems := copies_ofItems xs
    rw [ofJson, ofItems_eq_map]
    refine .list (List.length_map _).symm (fun i x y hx hy => ?_)
    rw [List.getElem?_map, hx] at hy
    exact Option.some.inj hy ▸ hitems x (List.mem_of_getElem? hx)
  | .object ms =>
    have hmembers := copies_ofMembers ms
    refine .struct (Keyed.sorted_ofList _) (fun k => ?_) (fun k x y hx hy => ?_)
    · rw [get?_ofMembers, Option.isSome_map]
    · rw [get?_ofMembers, hx] at hy
      obtain ⟨m, hm, rfl⟩ := Json.exists_mem_of_lastMember? hx
      exact Option.some.inj hy ▸ hmembers m hm

theorem copies_ofItems (xs : List Json) : ∀ x ∈ xs, Copies x (ofJson x) := by
  match xs with
  | [] => exact fun _ h => nomatch h
  | x :: xs => exact List.forall_mem_cons.2 ⟨copies_ofJson x, copies_ofItems xs⟩

theorem copies_ofMembers (ms : List (String × Json)) : ∀ m ∈ ms, Copies m.2 (ofJson m.2) := by
  match ms with
  | [] => exact fun _ h => nomatch h
  | (k, x) :: ms => exact List.forall_mem_cons.2 ⟨copies_ofJson x, copies_ofMembers ms⟩

end

/-- Two options that are present together hold corresponding values. -/
theorem eq_map_of_isSome {α β : Type} {f : α → β} {a : Option α} {b : Option β}
    (hsome : a.isSome = b.isSome) (heq : ∀ x y, a = some x → b = some y → y = f x) : b = a.map f := by
  cases a with
  | none => exact Option.not_isSome_iff_eq_none.1 (by rw [← hsome]; exact Bool.noConfusion)
  | some x =>
    obtain ⟨y, rfl⟩ := Option.isSome_iff_exists.1 hsome.symm
    exact congrArg some (heq x y rfl rfl)

theorem Copies.eq_ofJson {v : Json} {x : Value} (h : Copies v x) : x = ofJson v := by
  induction h with
  | null | bool _ | text _ => rfl
  | number hfin => exact (if_pos hfin).symm
  | noNumber hfin => exact (if_neg hfin).symm
  | @list xs ys hlength _ ih =>
    rw [ofJson, ofItems_eq_map]
    refine congrArg Value.list (List.ext_getElem? fun i => ?_)
    rw [List.getElem?_map]
    refine eq_map_of_isSome ?_ (fun x y => ih i x y)
    rw [Bool.eq_iff_iff]
    simp only [isSome_getElem?, hlength]
  | struct hsorted hkeys _ ih =>
    refine congrArg Value.struct (Keyed.ext_get? hsorted (Keyed.sorted_ofList _) fun k => ?_)
    rw [get?_ofMembers]
    exact eq_map_of_isSome (hkeys k) (fun x y => ih k x y)

/-- There is one copy, and the conversion makes it. -/
theorem copies_iff (v : Json) (x : Value) : Copies v x ↔ x = ofJson v :=
  ⟨Copies.eq_ofJson, fun h => h ▸ copies_ofJson v⟩

end Value

/-! ## JSON to be serialized -/

namespace Payload

mutual

/-- JSON with integers within 64 bits serializes, as JSON with the same structured form. -/
theorem toJson?_ofJson (v : Json) (hv : v.Bounded) :
    ∃ j, (ofJson v).toJson? = some j ∧ Value.ofJson j = Value.ofJson v := by
  match v with
  | .null | .bool _ | .string _ => exact ⟨_, rfl, rfl⟩
  | .number (.int n) => exact ⟨_, if_pos hv, rfl⟩
  | .number (.float x) =>
    refine ⟨floatJson x, rfl, ?_⟩
    by_cases hx : x.Finite
    · rw [floatJson, if_pos hx]
    · rw [floatJson, if_neg hx]
      exact (if_neg hx).symm
  | .array xs =>
    obtain ⟨js, hjs, hsame⟩ := itemsJson?_ofItems xs hv
    exact ⟨.array js, by rw [ofJson, toJson?, hjs, Option.map_some], congrArg Value.list hsame⟩
  | .object ms =>
    obtain ⟨js, hjs, hsame⟩ := fieldsJson?_ofMembers ms hv
    refine ⟨.object (Keyed.ofList js), by rw [ofJson, toJson?, hjs, Option.map_some], ?_⟩
    rw [Value.ofMembers_eq_map, Value.ofMembers_eq_map] at hsame
    rw [Value.ofJson, Value.ofMembers_eq_map, Keyed.ofList_map_ofList, hsame, Value.ofJson,
      Value.ofMembers_eq_map]

theorem itemsJson?_ofItems (xs : List Json) (hxs : Json.BoundedItems xs) :
    ∃ js, itemsJson? (ofItems xs) = some js ∧ Value.ofItems js = Value.ofItems xs := by
  match xs with
  | [] => exact ⟨[], rfl, rfl⟩
  | x :: xs =>
    obtain ⟨j, hj, hfirst⟩ := toJson?_ofJson x hxs.1
    obtain ⟨js, hjs, hrest⟩ := itemsJson?_ofItems xs hxs.2
    exact ⟨j :: js, by rw [ofItems, itemsJson?, hj, hjs],
      by rw [Value.ofItems, hfirst, hrest, Value.ofItems]⟩

theorem fieldsJson?_ofMembers (ms : List (String × Json)) (hms : Json.BoundedMembers ms) :
    ∃ js, fieldsJson? (ofMembers ms) = some js ∧ Value.ofMembers js = Value.ofMembers ms := by
  match ms with
  | [] => exact ⟨[], rfl, rfl⟩
  | (k, x) :: ms =>
    obtain ⟨j, hj, hfirst⟩ := toJson?_ofJson x hms.1
    obtain ⟨js, hjs, hrest⟩ := fieldsJson?_ofMembers ms hms.2
    exact ⟨(k, j) :: js, by rw [ofMembers, fieldsJson?, hj, hjs],
      by rw [Value.ofMembers, hfirst, hrest, Value.ofMembers]⟩

end

end Payload

/-! ## Values to be serialized -/

namespace Value

mutual

/-- A value as it is serialized: its variant leaves no trace. -/
def payload : Value → Payload
  | null => .null
  | bool b => .bool b
  | number x => .float x
  | text s => .text s
  | list xs => .sequence (payloadItems xs)
  | struct fs => .map (payloadEntries fs)

def payloadItems : List Value → List Payload
  | [] => []
  | x :: xs => x.payload :: payloadItems xs

def payloadEntries : List (String × Value) → List (Payload × Payload)
  | [] => []
  | (k, x) :: fs => (.text k, x.payload) :: payloadEntries fs

end

mutual

/-- A finite value serializes as the JSON it is written as. -/
theorem toJson?_payload (x : Value) (hc : x.Canonical) (hf : x.Finite) :
    x.payload.toJson? = some x.toJson := by
  match x with
  | null | bool _ | text _ => rfl
  | number x => exact congrArg some (if_pos hf)
  | list xs => rw [payload, Payload.toJson?, itemsJson?_payloadItems xs hc hf, Option.map_some, toJson]
  | struct fs =>
    have hsorted : Keyed.Sorted (fieldsJson fs) := by
      rw [fieldsJson_eq_map]
      exact Keyed.sorted_map hc.1
    rw [payload, Payload.toJson?, entriesJson?_payloadEntries fs hc.2 hf, Option.map_some,
      Keyed.ofList_of_sorted _ hsorted, toJson]

theorem itemsJson?_payloadItems (xs : List Value) (hc : CanonicalItems xs) (hf : FiniteItems xs) :
    Payload.itemsJson? (payloadItems xs) = some (itemsJson xs) := by
  match xs with
  | [] => rfl
  | x :: xs =>
    rw [payloadItems, Payload.itemsJson?, toJson?_payload x hc.1 hf.1,
      itemsJson?_payloadItems xs hc.2 hf.2, itemsJson]

theorem entriesJson?_payloadEntries (fs : List (String × Value)) (hc : CanonicalFields fs)
    (hf : FiniteFields fs) : Payload.entriesJson? (payloadEntries fs) = some (fieldsJson fs) := by
  match fs with
  | [] => rfl
  | (k, x) :: fs =>
    rw [payloadEntries, Payload.entriesJson?, toJson?_payload x hc.1 hf.1,
      entriesJson?_payloadEntries fs hc.2 hf.2, Payload.keyText?, fieldsJson]

end

/-- The fields of the snapshot that holds the value. -/
def topFields : Value → List (String × Value)
  | struct fs => fs
  | x => [("value", x)]

end Value

/-! ## Snapshots -/

namespace Snapshot

/-- The snapshot as it is serialized. -/
def payload (s : Snapshot) : Payload := (Value.struct s.fields).payload

/-- The snapshot is a copy of an object, or holds under `value` a copy of what is not an object. -/
def Copies (v : Json) (s : Snapshot) : Prop :=
  match v with
  | .object _ => Value.Copies v (.struct s.fields)
  | _ => ∃ x, Value.Copies v x ∧ s.fields = [("value", x)]

theorem copies_ofJson (v : Json) : (ofJson v).Copies v := by
  cases v with
  | object ms => exact Value.copies_ofJson (.object ms)
  | _ => exact ⟨_, Value.copies_ofJson _, rfl⟩

theorem finite_ofJson (v : Json) : (ofJson v).Finite := by
  cases v with
  | object ms => exact finite_ofMembers ms
  | _ => exact ⟨Value.finite_ofJson _, trivial⟩

theorem fields_ofJson (v : Json) : (ofJson v).fields = (Value.ofJson v).topFields := by
  cases v with
  | number n =>
    change [("value", Value.ofFloat n.toBinary64)] = (Value.ofFloat n.toBinary64).topFields
    rw [Value.ofFloat]
    split <;> rfl
  | _ => rfl

end Snapshot
end CallAudit
