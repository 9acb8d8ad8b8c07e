/-!
# Maps with text keys

A map is the list of its entries in rising key order (by code point, which for text is also the
order of the UTF-8 bytes), each key once. So two maps with the same entries are equal, and listing
a map is reading it. `Keyed` works on bare lists, `Dict` carries the order as a field.

* `get?_insert`: an insert is seen under its own key and nowhere else.
* `get?_ofList`: of the entries of a key the last one is kept.
* `Dict.ext_get?`: maps that answer every look-up alike are equal.
-/
namespace CallAudit

namespace Keyed

variable {α β : Type}

/-- Keys rise strictly. -/
def Sorted (xs : List (String × α)) : Prop := xs.Pairwise (fun a b => a.1 < b.1)

instance (xs : List (String × α)) : Decidable (Sorted xs) :=
  inferInstanceAs (Decidable (xs.Pairwise _))

/-- The value of `k`. -/
def get? (k : String) : List (String × α) → Option α
  | [] => none
  | (k', v) :: xs => if k = k' then some v else get? k xs

/-- `xs` with `v` under `k`, in key order; an older value of `k` is replaced. -/
def insert (k : String) (v : α) : List (String × α) → List (String × α)
  | [] => [(k, v)]
  | (k', v') :: xs =>
    if k < k' then (k, v) :: (k', v') :: xs
    else if k = k' then (k, v) :: xs
    else (k', v') :: insert k v xs

/-- `xs` without `k`. -/
def erase (k : String) (xs : List (String × α)) : List (String × α) :=
  xs.filter (fun e => !decide (e.1 = k))

/-- The entries of `es`, a later one replacing an earlier one of the same key. -/
def ofList (es : List (String × α)) : List (String × α) :=
  es.foldl (fun m e => insert e.1 e.2 m) []

theorem sorted_nil : Sorted ([] : List (String × α)) := List.Pairwise.nil

theorem sorted_cons {e : String × α} {xs : List (String × α)} :
    Sorted (e :: xs) ↔ (∀ x ∈ xs, e.1 < x.1) ∧ Sorted xs := List.pairwise_cons

theorem mem_insert {k : String} {v : α} {e : String × α} {xs : List (String × α)}
    (h : e ∈ insert k v xs) : e = (k, v) ∨ e ∈ xs := by
  induction xs with
  | nil => simpa [insert] using h
  | cons x xs ih =>
    unfold insert at h
    split at h
    · simpa using h
    · split at h
      · rcases List.mem_cons.1 h with h | h
        · exact Or.inl h
        · exact Or.inr (List.mem_cons_of_mem _ h)
      · rcases List.mem_cons.1 h with h | h
        · exact Or.inr (by simp [h])
        · rcases ih h with h | h
          · exact Or.inl h
          · exact Or.inr (List.mem_cons_of_mem _ h)

theorem lt_of_not {a b : String} (h : ¬ a < b) (hne : a ≠ b) : b < a := by
  rcases String.le_total a b with hab | hab
  · exact absurd (String.le_antisymm hab (String.not_lt.1 h)) hne
  · exact String.not_le.1 (fun hba => hne (String.le_antisymm hba hab))

theorem sorted_insert {k : String} {v : α} {xs : List (String × α)} (h : Sorted xs) :
    Sorted (insert k v xs) := by
  induction xs with
  | nil => exact sorted_cons.2 ⟨by simp, sorted_nil⟩
  | cons x xs ih =>
    obtain ⟨hx, hxs⟩ := sorted_cons.1 h
    unfold insert
    split
    · next hlt =>
      refine sorted_cons.2 ⟨fun y hy => ?_, h⟩
      rcases List.mem_cons.1 hy with rfl | hy
      · exact hlt
      · exact String.lt_trans hlt (hx y hy)
    · next hlt =>
      split
      · next heq => exact sorted_cons.2 ⟨fun y hy => by rw [heq]; exact hx y hy, hxs⟩
      · next hne =>
        refine sorted_cons.2 ⟨fun y hy => ?_, ih hxs⟩
        rcases mem_insert hy with rfl | hy
        · exact lt_of_not hlt hne
        · exact hx y hy

theorem sorted_foldl_insert {es : List (String × α)} {m : List (String × α)} (h : Sorted m) :
    Sorted (es.foldl (fun m e => insert e.1 e.2 m) m) := by
  induction es generalizing m with
  | nil => exact h
  | cons e es ih => exact ih (sorted_insert h)

theorem sorted_ofList (es : List (String × α)) : Sorted (ofList es) :=
  sorted_foldl_insert sorted_nil

theorem sorted_erase {k : String} {xs : List (String × α)} (h : Sorted xs) : Sorted (erase k xs) :=
  List.Pairwise.sublist List.filter_sublist h

theorem sorted_map {f : α → β} {xs : List (String × α)} (h : Sorted xs) :
    Sorted (xs.map (fun e => (e.1, f e.2))) := by
  induction xs with
  | nil => exact sorted_nil
  | cons x xs ih =>
    obtain ⟨hx, hxs⟩ := sorted_cons.1 h
    refine sorted_cons.2 ⟨fun y hy => ?_, ih hxs⟩
    obtain ⟨z, hz, rfl⟩ := List.mem_map.1 hy
    exact hx z hz

theorem get?_eq_none_of_lt {k : String} {xs : List (String × α)} (h : ∀ x ∈ xs, k < x.1) :
    get? k xs = none := by
  induction xs with
  | nil => rfl
  | cons x xs ih =>
    have hne : k ≠ x.1 := fun he => String.lt_irrefl k (he ▸ h x (by simp))
    simp [get?, hne, ih (fun y hy => h y (List.mem_cons_of_mem _ hy))]

theorem get?_insert {k k' : String} {v : α} {xs : List (String × α)} :
    get? k' (insert k v xs) = if k' = k then some v else get? k' xs := by
  induction xs with
  | nil => simp [insert, get?]
  | cons x xs ih =>
    unfold insert
    split
    · simp [get?]
    · next hlt =>
      split
      · next heq =>
        subst heq
        by_cases hk : k' = x.1 <;> simp [get?, hk]
      · next hne =>
        by_cases hx : k' = x.1
        · have : k' ≠ k := fun h => hne (h ▸ hx)
          simp [get?, ← hx, this]
        · simp [get?, hx, ih]

/-- Of the entries of a key the last one is kept. -/
theorem get?_ofList (k : String) (es : List (String × α)) :
    get? k (ofList es) = (es.reverse.find? (fun e => e.1 == k)).map (·.2) := by
  -- from the back: the last entry is what was inserted last
  rw [ofList, ← List.foldr_reverse]
  induction es.reverse with
  | nil => rfl
  | cons e es ih =>
    rw [List.foldr_cons, get?_insert, ih, List.find?_cons]
    by_cases h : k = e.1
    · simp [h]
    · simp [h, beq_false_of_ne (Ne.symm h)]

/-- Sorted lists that answer every look-up alike are equal. -/
theorem ext_get? {xs ys : List (String × α)} (hx : Sorted xs) (hy : Sorted ys)
    (h : ∀ k, get? k xs = get? k ys) : xs = ys := by
  induction xs generalizing ys with
  | nil =>
    cases ys with
    | nil => rfl
    | cons y ys => have := h y.1; simp [get?] at this
  | cons x xs ih =>
    obtain ⟨hx1, hx2⟩ := sorted_cons.1 hx
    cases ys with
    | nil => have := h x.1; simp [get?] at this
    | cons y ys =>
      obtain ⟨hy1, hy2⟩ := sorted_cons.1 hy
      have hk : x.1 = y.1 := by
        rcases Decidable.em (x.1 = y.1) with hk | hk
        · exact hk
        · rcases Decidable.em (x.1 < y.1) with hl | hl
          · have h1 := h x.1
            have hy : ∀ z ∈ y :: ys, x.1 < z.1 := fun z hz => by
              rcases List.mem_cons.1 hz with rfl | hz
              · exact hl
              · exact String.lt_trans hl (hy1 z hz)
            rw [get?_eq_none_of_lt hy] at h1
            simp [get?] at h1
          · have hl := lt_of_not hl hk
            have h1 := h y.1
            have hx : ∀ z ∈ x :: xs, y.1 < z.1 := fun z hz => by
              rcases List.mem_cons.1 hz with rfl | hz
              · exact hl
              · exact String.lt_trans hl (hx1 z hz)
            rw [get?_eq_none_of_lt hx] at h1
            simp [get?] at h1
      have hv : x.2 = y.2 := by have := h x.1; simpa [get?, hk] using this
      have hxy : x = y := Prod.ext hk hv
      subst hxy
      congr 1
      refine ih hx2 hy2 (fun k => ?_)
      by_cases hk' : k = x.1
      · subst hk'; rw [get?_eq_none_of_lt hx1, get?_eq_none_of_lt hy1]
      · have := h k; simpa [get?, hk'] using this

end Keyed

/-- A map from text keys. -/
structure Dict (α : Type) where
  entries : List (String × α)
  sorted : Keyed.Sorted entries

namespace Dict

variable {α β : Type}

theorem ext {a b : Dict α} (h : a.entries = b.entries) : a = b := by
  cases a; cases b; cases h; rfl

instance [DecidableEq α] : DecidableEq (Dict α) := fun a b =>
  if h : a.entries = b.entries then isTrue (ext h) else isFalse (fun e => h (e ▸ rfl))

def empty : Dict α := ⟨[], Keyed.sorted_nil⟩

instance : Inhabited (Dict α) := ⟨empty⟩

def isEmpty (d : Dict α) : Bool := d.entries.isEmpty

def size (d : Dict α) : Nat := d.entries.length

def get? (d : Dict α) (k : String) : Option α := Keyed.get? k d.entries

def insert (d : Dict α) (k : String) (v : α) : Dict α :=
  ⟨Keyed.insert k v d.entries, Keyed.sorted_insert d.sorted⟩

/-- `d` with `v` under `k` if `d` has no `k` yet. -/
def insertNew (d : Dict α) (k : String) (v : α) : Dict α :=
  if (d.get? k).isSome then d else d.insert k v

def erase (d : Dict α) (k : String) : Dict α :=
  ⟨Keyed.erase k d.entries, Keyed.sorted_erase d.sorted⟩

/-- The entries of `es`, a later one replacing an earlier one of the same key. -/
def ofList (es : List (String × α)) : Dict α := ⟨Keyed.ofList es, Keyed.sorted_ofList es⟩

/-- The left-biased union: `d`, and of `e` the keys that `d` lacks. -/
def orElse (d e : Dict α) : Dict α := e.entries.foldl (fun m x => m.insertNew x.1 x.2) d

def map (f : α → β) (d : Dict α) : Dict β := ⟨d.entries.map (fun e => (e.1, f e.2)), Keyed.sorted_map d.sorted⟩

theorem ext_get? {a b : Dict α} (h : ∀ k, a.get? k = b.get? k) : a = b :=
  ext (Keyed.ext_get? a.sorted b.sorted h)

theorem get?_empty (k : String) : (empty : Dict α).get? k = none := rfl

theorem get?_insert {d : Dict α} {k k' : String} {v : α} :
    (d.insert k v).get? k' = if k' = k then some v else d.get? k' := Keyed.get?_insert

theorem get?_insertNew {d : Dict α} {k k' : String} {v : α} :
    (d.insertNew k v).get? k' = if k' = k then some ((d.get? k).getD v) else d.get? k' := by
  unfold insertNew
  by_cases hs : (d.get? k).isSome
  · rw [if_pos hs]
    by_cases hk : k' = k
    · subst hk
      obtain ⟨w, hw⟩ := Option.isSome_iff_exists.1 hs
      simp [hw]
    · simp [hk]
  · have hn : d.get? k = none := by simpa using hs
    rw [if_neg hs, get?_insert, hn]; rfl

end Dict

end CallAudit
