/-!
# Splitting text

A text is split at the last of a mark, or at every one.

* `splitLast?_eq_some_iff`: the split falls at the last mark.
* `intercalate_splitAll`: the parts, joined by the mark, are the text.
* `splitAll_append`: a text put before a mark is split apart from what stands after it.
-/
namespace CallAudit

/-- What stands before and after the last `mark`. -/
def splitLast? (mark : Char) : List Char → Option (List Char × List Char)
  | [] => none
  | c :: cs =>
    match splitLast? mark cs with
    | some (front, back) => some (c :: front, back)
    | none => if c = mark then some ([], cs) else none

theorem splitLast?_eq_none_iff {mark : Char} {cs : List Char} :
    splitLast? mark cs = none ↔ mark ∉ cs := by
  induction cs with
  | nil => simp [splitLast?]
  | cons c cs ih =>
    unfold splitLast?
    split
    · next h => simp [show mark ∈ cs by rw [← Decidable.not_not (p := mark ∈ cs), ← ih, h]; simp]
    · next h =>
      have := ih.1 h
      by_cases hc : c = mark
      · simp [hc]
      · simp [hc, this, Ne.symm hc]

theorem splitLast?_eq_some_iff {mark : Char} {cs front back : List Char} :
    splitLast? mark cs = some (front, back) ↔ cs = front ++ mark :: back ∧ mark ∉ back := by
  induction cs generalizing front with
  | nil => simp [splitLast?]
  | cons c cs ih =>
    unfold splitLast?
    split
    · next f b h =>
      constructor
      · intro he
        simp only [Option.some.injEq, Prod.mk.injEq] at he
        obtain ⟨rfl, rfl⟩ := he
        obtain ⟨rfl, hb⟩ := ih.1 h
        exact ⟨by simp, hb⟩
      · rintro ⟨he, hb⟩
        cases front with
        | nil =>
          simp only [List.nil_append, List.cons.injEq] at he
          obtain ⟨_, rfl⟩ := he
          rw [splitLast?_eq_none_iff.2 hb] at h
          simp at h
        | cons x front =>
          simp only [List.cons_append, List.cons.injEq] at he
          obtain ⟨rfl, rfl⟩ := he
          have := ih.2 ⟨rfl, hb⟩
          rw [h] at this
          simpa using this
    · next h =>
      have hm := splitLast?_eq_none_iff.1 h
      split
      · next hc =>
        subst hc
        constructor
        · intro he
          simp only [Option.some.injEq, Prod.mk.injEq] at he
          obtain ⟨rfl, rfl⟩ := he
          exact ⟨rfl, hm⟩
        · rintro ⟨he, hb⟩
          cases front with
          | nil => simp at he; simp [he]
          | cons x front =>
            simp only [List.cons_append, List.cons.injEq] at he
            obtain ⟨_, rfl⟩ := he
            simp at hm
      · next hc =>
        constructor
        · intro he; simp at he
        · rintro ⟨he, hb⟩
          cases front with
          | nil => simp at he; exact absurd he.1 hc
          | cons x front =>
            simp only [List.cons_append, List.cons.injEq] at he
            obtain ⟨_, rfl⟩ := he
            simp at hm

/-- The parts between the marks. -/
def splitAll (mark : Char) : List Char → List (List Char)
  | [] => [[]]
  | c :: cs =>
    if c = mark then [] :: splitAll mark cs
    else match splitAll mark cs with
      | part :: parts => (c :: part) :: parts
      | [] => [[c]]

theorem splitAll_ne_nil (mark : Char) (cs : List Char) : splitAll mark cs ≠ [] := by
  cases cs with
  | nil => simp [splitAll]
  | cons c cs =>
    unfold splitAll
    split
    · simp
    · split <;> simp

theorem intercalate_splitAll (mark : Char) (cs : List Char) :
    [mark].intercalate (splitAll mark cs) = cs := by
  induction cs with
  | nil => rfl
  | cons c cs ih =>
    unfold splitAll
    split
    · next h =>
      subst h
      cases hs : splitAll c cs with
      | nil => exact absurd hs (splitAll_ne_nil c cs)
      | cons p ps => rw [hs] at ih; simp [← ih, List.intercalate]
    · next h =>
      cases hs : splitAll mark cs with
      | nil => exact absurd hs (splitAll_ne_nil mark cs)
      | cons p ps =>
        rw [hs] at ih
        cases ps with
        | nil => simpa [List.intercalate] using ih
        | cons q qs => simpa [List.intercalate] using ih

theorem mark_notMem_splitAll {mark : Char} {cs part : List Char} (h : part ∈ splitAll mark cs) :
    mark ∉ part := by
  induction cs generalizing part with
  | nil => simp [splitAll] at h; simp [h]
  | cons c cs ih =>
    unfold splitAll at h
    split at h
    · rcases List.mem_cons.1 h with rfl | h
      · simp
      · exact ih h
    · next hc =>
      cases hs : splitAll mark cs with
      | nil => exact absurd hs (splitAll_ne_nil mark cs)
      | cons p ps =>
        rw [hs] at h ih
        rcases List.mem_cons.1 h with rfl | h
        · have hp : mark ∉ p := ih (by simp)
          simp [Ne.symm hc, hp]
        · exact ih (by simp [h])

theorem splitAll_of_notMem {mark : Char} {cs : List Char} (h : mark ∉ cs) :
    splitAll mark cs = [cs] := by
  induction cs with
  | nil => rfl
  | cons c cs ih =>
    rw [List.mem_cons, not_or] at h
    rw [splitAll, if_neg (Ne.symm h.1), ih h.2]

theorem splitAll_append {mark : Char} {part cs : List Char} (h : mark ∉ part) :
    splitAll mark (part ++ mark :: cs) = part :: splitAll mark cs := by
  induction part with
  | nil => simp [splitAll]
  | cons c part ih =>
    rw [List.mem_cons, not_or] at h
    rw [List.cons_append, splitAll, if_neg (Ne.symm h.1), ih h.2]

end CallAudit
