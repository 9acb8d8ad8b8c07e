import CallAudit.Keyed

/-!
# Left-biased unions

Results:
* `get?_orElse`: a union answers with the left map where that has the key.
* `empty_orElse`, `orElse_empty`: the empty map adds nothing.
* `orElse_assoc`, `orElse_orElse_left`: unions may be regrouped, and a map adds nothing to a union that
  it is already part of.
* `orElse_comm_of_agree`: the order matters only for keys with different values.
-/
namespace CallAudit.Dict

variable {α : Type}

theorem get?_foldl_insertNew (es : List (String × α)) (d : Dict α) (k : String) :
    (es.foldl (fun m x => m.insertNew x.1 x.2) d).get? k = (d.get? k).or (Keyed.get? k es) := by
  induction es generalizing d with
  | nil => simp [Keyed.get?]
  | cons e rest ih =>
    rw [List.foldl_cons, ih, get?_insertNew, Keyed.get?]
    by_cases hk : k = e.1
    · subst hk
      cases d.get? e.1 <;> simp
    · simp [hk]

theorem get?_orElse (d e : Dict α) (k : String) : (d.orElse e).get? k = (d.get? k).or (e.get? k) :=
  get?_foldl_insertNew e.entries d k

theorem empty_orElse (d : Dict α) : empty.orElse d = d :=
  ext_get? (fun k => by rw [get?_orElse, get?_empty, Option.none_or])

theorem orElse_empty (d : Dict α) : d.orElse empty = d := rfl

theorem orElse_assoc (d e f : Dict α) : (d.orElse e).orElse f = d.orElse (e.orElse f) :=
  ext_get? (fun k => by rw [get?_orElse, get?_orElse, get?_orElse, get?_orElse, Option.or_assoc])

theorem orElse_self (d : Dict α) : d.orElse d = d :=
  ext_get? (fun k => by rw [get?_orElse, Option.or_self])

theorem orElse_orElse_left (d e f : Dict α) :
    (d.orElse (e.orElse f)).orElse e = d.orElse (e.orElse f) := by
  refine ext_get? (fun k => ?_)
  rw [get?_orElse, get?_orElse, get?_orElse]
  cases d.get? k with
  | some v => rfl
  | none => cases e.get? k <;> cases f.get? k <;> rfl

/-- The maps have the same values for the keys that both have. -/
def Agree (d e : Dict α) : Prop := ∀ k v v', d.get? k = some v → e.get? k = some v' → v = v'

theorem orElse_comm_of_agree {d e : Dict α} (h : d.Agree e) : d.orElse e = e.orElse d := by
  refine ext_get? (fun k => ?_)
  rw [get?_orElse, get?_orElse]
  cases hd : d.get? k with
  | none => rw [Option.none_or, Option.or_none]
  | some v =>
    cases he : e.get? k with
    | none => rfl
    | some v' => rw [h k v v' hd he]

theorem eq_empty_of_isEmpty (d : Dict α) (h : d.isEmpty = true) : d = empty :=
  ext (List.isEmpty_iff.1 h)

end CallAudit.Dict
