import CallAudit.Proofs.Number.Bounds
import CallAudit.Proofs.Records.NormalForm
import Mathlib.Data.List.Forall2

/-!
# Whole snapshots or none

A payload has a snapshot unless some part of it refuses, however deep the part lies and whether or not a later
entry of the same key takes its place. The snapshot leaves nothing out: it shows every part of the payload.

* `Payload.inductionOn`: induction over the parts of payloads.
* `Payload.Shows`: the value that shows a payload, without saying how it is made.

Results:
* `Payload.toJson?_eq_none_iff`: the payloads without a JSON form are those that refuse.
* `Payload.shows_iff`: a payload shows one value at most, its structured form.
* `Snapshot.ofPayload?_eq_none_iff`, `Snapshot.ofPayload?_eq_some_iff`: the same of snapshots.
-/
namespace CallAudit

namespace Payload

/-- What holds of a payload if it holds of its parts holds of all payloads. -/
theorem inductionOn {motive : Payload → Prop} (p : Payload) (null : motive null)
    (bool : ∀ b, motive (bool b)) (integer : ∀ n, motive (integer n)) (float : ∀ x, motive (float x))
    (single : ∀ x, motive (single x)) (text : ∀ s, motive (text s)) (present : ∀ p, motive p → motive (present p))
    (wrapped : ∀ p, motive p → motive (wrapped p))
    (sequence : ∀ ps, (∀ p ∈ ps, motive p) → motive (sequence ps))
    (record : ∀ fs, (∀ f ∈ fs, motive f.2) → motive (record fs))
    (map : ∀ es, (∀ e ∈ es, motive e.2) → motive (map es))
    (variant : ∀ name p, motive p → motive (variant name p))
    (unserializable : ∀ reason, motive (unserializable reason)) : motive p :=
  @Payload.rec motive (fun ps => ∀ p ∈ ps, motive p) (fun fs => ∀ f ∈ fs, motive f.2)
    (fun es => ∀ e ∈ es, motive e.2) (fun f => motive f.2) (fun e => motive e.2)
    null bool integer float single text present wrapped sequence record map variant unserializable
    (fun _ h => nomatch h) (fun _ _ hp hps => List.forall_mem_cons.2 ⟨hp, hps⟩)
    (fun _ h => nomatch h) (fun _ _ hf hfs => List.forall_mem_cons.2 ⟨hf, hfs⟩)
    (fun _ h => nomatch h) (fun _ _ he hes => List.forall_mem_cons.2 ⟨he, hes⟩)
    (fun _ _ hp => hp) (fun _ _ _ hp => hp) p

/-- The fields of a record as entries of a map. -/
def textEntries (fs : List (String × Payload)) : List (Payload × Payload) :=
  fs.map (fun f => (text f.1, f.2))

theorem fieldsJson?_eq (fs : List (String × Payload)) : fieldsJson? fs = entriesJson? (textEntries fs) := by
  induction fs with
  | nil => rfl
  | cons f fs ih =>
    obtain ⟨k, p⟩ := f
    rw [fieldsJson?, ih]
    change _ = entriesJson? ((text k, p) :: textEntries fs)
    rw [entriesJson?]
    cases p.toJson? <;> cases entriesJson? (textEntries fs) <;> rfl

/-! ## Payloads without a JSON form -/

theorem itemsJson?_eq_none_iff (ps : List Payload) : itemsJson? ps = none ↔ ∃ p ∈ ps, p.toJson? = none := by
  induction ps with
  | nil => simp [itemsJson?]
  | cons p ps ih =>
    rw [itemsJson?, List.exists_mem_cons_iff, ← ih]
    cases p.toJson? <;> cases itemsJson? ps <;> simp

theorem entriesJson?_eq_none_iff (es : List (Payload × Payload)) :
    entriesJson? es = none ↔ ∃ e ∈ es, e.1.keyText? = none ∨ e.2.toJson? = none := by
  induction es with
  | nil => simp [entriesJson?]
  | cons e es ih =>
    rw [entriesJson?, List.exists_mem_cons_iff, ← ih]
    cases e.1.keyText? <;> cases e.2.toJson? <;> cases entriesJson? es <;> simp

/-- A payload has no text as a key if it is no key, and only then. -/
theorem keyText?_eq_none_iff (p : Payload) : p.keyText? = none ↔ p.NoKey := by
  induction p using inductionOn with
  | null => exact ⟨fun _ => .null, fun _ => rfl⟩
  | bool _ | integer _ | text _ => exact ⟨(nomatch ·), (nomatch ·)⟩
  | float x =>
    rw [keyText?, ite_eq_right_iff]
    exact ⟨fun h => .float (fun hx => nomatch h hx), fun | .float hx, h => absurd h hx⟩
  | single x =>
    rw [keyText?, ite_eq_right_iff]
    exact ⟨fun h => .single (fun hx => nomatch h hx), fun | .single hx, h => absurd h hx⟩
  | present _ _ => exact ⟨fun _ => .present, fun _ => rfl⟩
  | wrapped p ih =>
    rw [keyText?, ih]
    exact ⟨.wrapped, fun | .wrapped h => h⟩
  | sequence _ _ => exact ⟨fun _ => .sequence, fun _ => rfl⟩
  | record _ _ => exact ⟨fun _ => .record, fun _ => rfl⟩
  | map _ _ => exact ⟨fun _ => .map, fun _ => rfl⟩
  | variant _ _ _ => exact ⟨fun _ => .variant, fun _ => rfl⟩
  | unserializable _ => exact ⟨fun _ => .unserializable, fun _ => rfl⟩

/-- There is no JSON form if some part of the payload refuses, and only then. -/
theorem toJson?_eq_none_iff (p : Payload) : p.toJson? = none ↔ p.Refuses := by
  induction p using inductionOn with
  | null | bool _ | float _ | single _ | text _ => exact ⟨(nomatch ·), (nomatch ·)⟩
  | unserializable _ => exact ⟨fun _ => .unserializable, fun _ => rfl⟩
  | integer n =>
    rw [toJson?, ite_eq_right_iff]
    exact ⟨fun h => .integer (fun hn => nomatch h hn), fun | .integer hn, h => absurd h hn⟩
  | present p ih =>
    rw [toJson?, ih]
    exact ⟨.present, fun | .present h => h⟩
  | wrapped p ih =>
    rw [toJson?, ih]
    exact ⟨.wrapped, fun | .wrapped h => h⟩
  | variant name p ih =>
    rw [toJson?, Option.map_eq_none_iff, ih]
    exact ⟨.variant, fun | .variant h => h⟩
  | sequence ps ih =>
    rw [toJson?, Option.map_eq_none_iff, itemsJson?_eq_none_iff]
    constructor
    · rintro ⟨p, hp, h⟩
      exact .item hp ((ih p hp).1 h)
    · intro h
      cases h with
      | item hp h => exact ⟨_, hp, (ih _ hp).2 h⟩
  | record fs ih =>
    rw [toJson?, Option.map_eq_none_iff, fieldsJson?_eq, entriesJson?_eq_none_iff]
    constructor
    · rintro ⟨e, he, h⟩
      obtain ⟨f, hf, rfl⟩ := List.mem_map.1 he
      exact .field hf ((ih f hf).1 (h.resolve_left (nomatch ·)))
    · intro h
      cases h with
      | field hf h => exact ⟨_, List.mem_map_of_mem hf, .inr ((ih _ hf).2 h)⟩
  | map es ih =>
    rw [toJson?, Option.map_eq_none_iff, entriesJson?_eq_none_iff]
    constructor
    · rintro ⟨e, he, h | h⟩
      · exact .key he ((keyText?_eq_none_iff _).1 h)
      · exact .value he ((ih e he).1 h)
    · intro h
      cases h with
      | key he h => exact ⟨_, he, .inl ((keyText?_eq_none_iff _).2 h)⟩
      | value he h => exact ⟨_, he, .inr ((ih _ he).2 h)⟩

/-! ## What a payload shows -/

/-- The value shows the payload: every part of it in its place, of entries with one key the last one, and in
the place of a number that is none null. -/
inductive Shows : Payload → Value → Prop where
  | null : Shows null .null
  | bool (b : Bool) : Shows (bool b) (.bool b)
  | integer {n : Int} : Json.Number.Integral n → Shows (integer n) (.number (.ofInt n))
  | float {x : Binary64} : x.Finite → Shows (float x) (.number x)
  | noNumber {x : Binary64} : ¬ x.Finite → Shows (float x) .null
  | single {x : Binary64} {v : Value} : Shows (float x) v → Shows (single x) v
  | text (s : String) : Shows (text s) (.text s)
  | present {p : Payload} {v : Value} : Shows p v → Shows (present p) v
  | wrapped {p : Payload} {v : Value} : Shows p v → Shows (wrapped p) v
  | sequence {ps : List Payload} {vs : List Value} : List.Forall₂ Shows ps vs →
      Shows (sequence ps) (.list vs)
  | record {fs : List (String × Payload)} {v : Value} : Shows (map (textEntries fs)) v → Shows (record fs) v
  | map {es : List (Payload × Payload)} {fs : List (String × Value)} :
      es.map (fun e => e.1.keyText?) = fs.map (fun f => some f.1) →
      List.Forall₂ Shows (es.map Prod.snd) (fs.map Prod.snd) → Shows (map es) (.struct (Keyed.ofList fs))
  | variant (name : String) {p : Payload} {v : Value} : Shows p v →
      Shows (variant name p) (.struct [(name, v)])

/-- The structured form, if there is a JSON form. -/
def value? (p : Payload) : Option Value := p.toJson?.map Value.ofJson

theorem forall₂_congr_left {α β : Type} {R S : α → β → Prop} {xs : List α} {ys : List β}
    (h : ∀ x ∈ xs, ∀ y, R x y ↔ S x y) : List.Forall₂ R xs ys ↔ List.Forall₂ S xs ys := by
  induction xs generalizing ys with
  | nil => simp only [List.forall₂_nil_left_iff]
  | cons x xs ih =>
    obtain ⟨hx, hxs⟩ := List.forall_mem_cons.1 h
    simp only [List.forall₂_cons_left_iff, hx, ih hxs]

/-- Items one by one. -/
theorem map_itemsJson?_eq_some_iff (ps : List Payload) (vs : List Value) :
    (itemsJson? ps).map Value.ofItems = some vs ↔ List.Forall₂ (fun p v => p.value? = some v) ps vs := by
  induction ps generalizing vs with
  | nil =>
    rw [List.forall₂_nil_left_iff]
    exact ⟨fun h => (Option.some.inj h).symm, fun h => congrArg some h.symm⟩
  | cons p ps ih =>
    have hcons : (itemsJson? (p :: ps)).map Value.ofItems =
        p.value?.bind (fun v => ((itemsJson? ps).map Value.ofItems).map (v :: ·)) := by
      rw [itemsJson?, value?]
      cases p.toJson? <;> cases itemsJson? ps <;> rfl
    rw [hcons, List.forall₂_cons_left_iff, Option.bind_eq_some_iff]
    constructor
    · rintro ⟨v, hv, h⟩
      obtain ⟨rest, hrest, rfl⟩ := Option.map_eq_some_iff.1 h
      exact ⟨v, rest, hv, (ih rest).1 hrest, rfl⟩
    · rintro ⟨v, rest, hv, hrest, rfl⟩
      exact ⟨v, hv, Option.map_eq_some_iff.2 ⟨rest, (ih rest).2 hrest, rfl⟩⟩

/-- Entries one by one, a key and a value each. -/
theorem map_entriesJson?_eq_some_iff (es : List (Payload × Payload)) (fs : List (String × Value)) :
    (entriesJson? es).map Value.ofMembers = some fs ↔
      es.map (fun e => e.1.keyText?) = fs.map (fun f => some f.1) ∧
        List.Forall₂ (fun p v => p.value? = some v) (es.map Prod.snd) (fs.map Prod.snd) := by
  induction es generalizing fs with
  | nil =>
    constructor
    · intro h
      rw [← Option.some.inj h]
      exact ⟨rfl, .nil⟩
    · rintro ⟨h, -⟩
      rw [List.map_eq_nil_iff.1 h.symm]
      rfl
  | cons e es ih =>
    have hcons : (entriesJson? (e :: es)).map Value.ofMembers =
        e.1.keyText?.bind (fun k => e.2.value?.bind (fun v =>
          ((entriesJson? es).map Value.ofMembers).map ((k, v) :: ·))) := by
      rw [entriesJson?, value?]
      cases e.1.keyText? <;> cases e.2.toJson? <;> cases entriesJson? es <;> rfl
    rw [hcons, Option.bind_eq_some_iff]
    constructor
    · rintro ⟨k, hk, h⟩
      obtain ⟨v, hv, h⟩ := Option.bind_eq_some_iff.1 h
      obtain ⟨rest, hrest, rfl⟩ := Option.map_eq_some_iff.1 h
      obtain ⟨hkeys, hvalues⟩ := (ih rest).1 hrest
      exact ⟨congrArg₂ List.cons hk hkeys, .cons hv hvalues⟩
    · rintro ⟨hkeys, hvalues⟩
      cases fs with
      | nil => cases hkeys
      | cons f rest =>
        obtain ⟨hk, hkeys⟩ := List.cons.inj hkeys
        obtain ⟨hv, hvalues⟩ := List.forall₂_cons.1 hvalues
        exact ⟨f.1, hk, Option.bind_eq_some_iff.2 ⟨f.2, hv,
          Option.map_eq_some_iff.2 ⟨rest, (ih rest).2 ⟨hkeys, hvalues⟩, rfl⟩⟩⟩

theorem value?_sequence (ps : List Payload) :
    (sequence ps).value? = ((itemsJson? ps).map Value.ofItems).map Value.list := by
  rw [value?, toJson?]
  cases itemsJson? ps <;> rfl

theorem value?_map (es : List (Payload × Payload)) :
    (map es).value? =
      ((entriesJson? es).map Value.ofMembers).map (fun fs => Value.struct (Keyed.ofList fs)) := by
  rw [value?, toJson?, Option.map_map, Option.map_map]
  refine congrArg (fun f => Option.map f (entriesJson? es)) (funext fun ms => ?_)
  change Value.struct (Keyed.ofList (Value.ofMembers (Keyed.ofList ms))) =
    Value.struct (Keyed.ofList (Value.ofMembers ms))
  rw [Value.ofMembers_eq_map, Keyed.ofList_map_ofList, ← Value.ofMembers_eq_map]

theorem value?_record (fs : List (String × Payload)) : (record fs).value? = (map (textEntries fs)).value? := by
  rw [value?, toJson?, fieldsJson?_eq, value?, toJson?]

/-- An integer within 64 bits is a number, never null. -/
theorem value?_integer (n : Int) :
    (integer n).value? = if Json.Number.Integral n then some (.number (.ofInt n)) else none := by
  rw [value?, toJson?]
  split
  · rename_i hn
    exact congrArg some (if_pos (Binary64.finite_ofInt n hn))
  · rfl

theorem value?_float (x : Binary64) : (float x).value? = some (if x.Finite then .number x else .null) := by
  rw [value?, toJson?, Option.map_some, floatJson]
  split
  · rename_i hx
    exact congrArg some (if_pos hx)
  · rfl

theorem value?_single (x : Binary64) : (single x).value? = (float x).value? := by
  rw [value?, toJson?, value?, toJson?]

theorem shows_float_iff (x : Binary64) (v : Value) : (float x).Shows v ↔ (float x).value? = some v := by
  rw [value?_float]
  constructor
  · intro h
    cases h with
    | float hx => rw [if_pos hx]
    | noNumber hx => rw [if_neg hx]
  · intro h
    obtain rfl := Option.some.inj h
    split
    · exact .float ‹_›
    · exact .noNumber ‹_›

theorem shows_map_iff (es : List (Payload × Payload)) (v : Value)
    (h : ∀ e ∈ es, ∀ v, e.2.Shows v ↔ e.2.value? = some v) : (map es).Shows v ↔ (map es).value? = some v := by
  have hvalues : ∀ p ∈ es.map Prod.snd, ∀ v, p.Shows v ↔ p.value? = some v := List.forall_mem_map.2 h
  rw [value?_map, Option.map_eq_some_iff]
  constructor
  · intro hshows
    cases hshows with
    | map hkeys hes =>
      exact ⟨_, (map_entriesJson?_eq_some_iff es _).2 ⟨hkeys, (forall₂_congr_left hvalues).1 hes⟩, rfl⟩
  · rintro ⟨fs, hfs, rfl⟩
    obtain ⟨hkeys, hes⟩ := (map_entriesJson?_eq_some_iff es fs).1 hfs
    exact .map hkeys ((forall₂_congr_left hvalues).2 hes)

/-- A payload shows its structured form and nothing else. -/
theorem shows_iff (p : Payload) (v : Value) : p.Shows v ↔ p.value? = some v := by
  induction p using inductionOn generalizing v with
  | null | bool _ | text _ => exact ⟨fun h => by cases h; rfl, fun h => by cases h; constructor⟩
  | unserializable _ => exact ⟨(nomatch ·), (nomatch ·)⟩
  | integer n =>
    rw [value?_integer]
    constructor
    · intro h
      cases h with
      | integer hn => rw [if_pos hn]
    · intro h
      split at h
      · exact Option.some.inj h ▸ .integer ‹_›
      · cases h
  | float x => exact shows_float_iff x v
  | single x =>
    rw [value?_single, ← shows_float_iff]
    exact ⟨fun | .single h => h, .single⟩
  | present p ih => exact ⟨fun | .present h => (ih v).1 h, fun h => .present ((ih v).2 h)⟩
  | wrapped p ih => exact ⟨fun | .wrapped h => (ih v).1 h, fun h => .wrapped ((ih v).2 h)⟩
  | variant name p ih =>
    have hvariant : (variant name p).value? = p.value?.map (fun v => Value.struct [(name, v)]) := by
      rw [value?, toJson?, value?]
      cases p.toJson? <;> rfl
    rw [hvariant, Option.map_eq_some_iff]
    constructor
    · intro h
      cases h with
      | variant _ h => exact ⟨_, (ih _).1 h, rfl⟩
    · rintro ⟨w, hw, rfl⟩
      exact .variant name ((ih w).2 hw)
  | sequence ps ih =>
    rw [value?_sequence, Option.map_eq_some_iff]
    constructor
    · intro h
      cases h with
      | sequence h =>
        exact ⟨_, (map_itemsJson?_eq_some_iff ps _).2 ((forall₂_congr_left ih).1 h), rfl⟩
    · rintro ⟨vs, hvs, rfl⟩
      exact .sequence ((forall₂_congr_left ih).2 ((map_itemsJson?_eq_some_iff ps vs).1 hvs))
  | record fs ih =>
    rw [value?_record, ← shows_map_iff (textEntries fs) v (List.forall_mem_map.2 ih)]
    exact ⟨fun | .record h => h, .record⟩
  | map es ih => exact shows_map_iff es v ih

end Payload

/-! ## Snapshots -/

namespace Snapshot

theorem ofPayload?_eq_none_iff (p : Payload) : ofPayload? p = none ↔ p.Refuses := by
  rw [ofPayload?, Option.map_eq_none_iff, p.toJson?_eq_none_iff]

/-- A snapshot is a value that shows the payload, an object as it is and anything else under `value`. -/
theorem ofPayload?_eq_some_iff (p : Payload) (s : Snapshot) :
    ofPayload? p = some s ↔ ∃ v, p.Shows v ∧ s.fields = v.topFields := by
  simp only [p.shows_iff, Payload.value?, ofPayload?, Option.map_eq_some_iff]
  constructor
  · rintro ⟨j, hj, rfl⟩
    exact ⟨_, ⟨j, hj, rfl⟩, fields_ofJson j⟩
  · rintro ⟨_, ⟨j, hj, rfl⟩, hs⟩
    exact ⟨j, hj, ext ((fields_ofJson j).trans hs.symm)⟩

end Snapshot

end CallAudit
