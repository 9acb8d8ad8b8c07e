import CallAudit.Keyed
import CallAudit.Text.Ascii

/-!
# Call metadata

The headers of a call: a map whose keys are compared without regard to ASCII case. A key is stored
in lower case, and the last value inserted under it counts.

* `get?_insert`: an insert is seen under every spelling of its key and nowhere else.
* `get?_ofList`, `get?_ofList_eq_some_iff`: of the headers of a key, under any of its spellings, the
  last one counts.
-/
namespace CallAudit

/-- The headers of a call. -/
structure Metadata where
  entries : Dict String
  folded : ∀ e ∈ entries.entries, Ascii.fold e.1 = e.1

namespace Metadata

theorem ext {a b : Metadata} (h : a.entries = b.entries) : a = b := by
  cases a; cases b; cases h; rfl

instance : DecidableEq Metadata := fun a b =>
  if h : a.entries = b.entries then isTrue (ext h) else isFalse (fun e => h (e ▸ rfl))

def empty : Metadata := ⟨Dict.empty, by simp [Dict.empty]⟩

instance : Inhabited Metadata := ⟨empty⟩

/-- `m` with `v` under every spelling of `k`. -/
def insert (m : Metadata) (k v : String) : Metadata :=
  ⟨m.entries.insert (Ascii.fold k) v, by
    intro e he
    rcases Keyed.mem_insert he with rfl | he
    · exact Ascii.fold_fold k
    · exact m.folded e he⟩

def get? (m : Metadata) (k : String) : Option String := m.entries.get? (Ascii.fold k)

def size (m : Metadata) : Nat := m.entries.size

def isEmpty (m : Metadata) : Bool := m.entries.isEmpty

/-- The headers inserted in this order. -/
def ofList (es : List (String × String)) : Metadata := es.foldl (fun m e => m.insert e.1 e.2) empty

theorem get?_empty (k : String) : empty.get? k = none := rfl

theorem get?_insert {m : Metadata} {k k' v : String} :
    (m.insert k v).get? k' = if Ascii.Same k' k then some v else m.get? k' := Dict.get?_insert

theorem get?_ofList (k : String) (es : List (String × String)) :
    (ofList es).get? k = (es.reverse.find? (fun e => decide (Ascii.Same k e.1))).map (·.2) := by
  rw [ofList, ← List.foldr_reverse]
  induction es.reverse with
  | nil => rfl
  | cons e es ih =>
    rw [List.foldr_cons, get?_insert, ih, List.find?_cons]
    by_cases h : Ascii.Same k e.1
    · simp [h]
    · simp [h]

/-- A header of this value stands under a spelling of the key, and none after it does. -/
def Holds (es : List (String × String)) (key value : String) : Prop :=
  ∃ before k after, es = before ++ (k, value) :: after ∧ Ascii.Same key k ∧
    ∀ e ∈ after, ¬ Ascii.Same key e.1

theorem get?_ofList_eq_some_iff (es : List (String × String)) (key value : String) :
    (ofList es).get? key = some value ↔ Holds es key value := by
  rw [get?_ofList, Option.map_eq_some_iff]
  simp only [List.find?_eq_some_iff_append, List.reverse_eq_append_iff]
  constructor
  · rintro ⟨⟨k, v⟩, ⟨hk, back, front, hes, hback⟩, rfl⟩
    refine ⟨front.reverse, k, back.reverse, by simpa using hes, by simpa using hk, fun e he => ?_⟩
    simpa using hback e (List.mem_reverse.1 he)
  · rintro ⟨before, k, after, hes, hk, hafter⟩
    refine ⟨(k, value), ⟨by simpa using hk, after.reverse, before.reverse, by simpa using hes,
      fun e he => ?_⟩, rfl⟩
    simpa using hafter e (List.mem_reverse.1 he)

end Metadata

end CallAudit
