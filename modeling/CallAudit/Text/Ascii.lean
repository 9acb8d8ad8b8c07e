/-!
# Comparing text without regard to ASCII case

Header keys and credential leads are compared ignoring the case of the 26 ASCII letters only; every
other character stands for itself. `fold` is the lower-case form, `Same` the comparison, and
`stripLead?` removes a lead from the front of a text.

* `stripChars?_eq_some_iff`, `stripLead?_eq_some_iff`: the rest is what follows a head that equals the
  lead up to ASCII case.
* `fold_fold`: folding twice is folding once.
-/
namespace CallAudit.Ascii

/-- The text with its ASCII capitals made small. -/
def fold (s : String) : String := String.ofList (s.toList.map Char.toLower)

/-- Equal up to ASCII case. -/
def Same (a b : String) : Prop := fold a = fold b

instance (a b : String) : Decidable (Same a b) := inferInstanceAs (Decidable (fold a = fold b))

theorem toList_fold (s : String) : (fold s).toList = s.toList.map Char.toLower := by
  simp [fold]

/-- What follows `lead` in `cs`, if `cs` starts with it up to ASCII case. -/
def stripChars? : (lead cs : List Char) → Option (List Char)
  | [], cs => some cs
  | _ :: _, [] => none
  | p :: ps, c :: cs => if p.toLower = c.toLower then stripChars? ps cs else none

/-- What follows `lead` in `s`, if `s` starts with it up to ASCII case. -/
def stripLead? (lead s : String) : Option String :=
  (stripChars? lead.toList s.toList).map String.ofList

theorem stripChars?_eq_some_iff {lead cs rest : List Char} :
    stripChars? lead cs = some rest ↔
      ∃ head, cs = head ++ rest ∧ head.map Char.toLower = lead.map Char.toLower := by
  induction lead generalizing cs with
  | nil =>
    constructor
    · intro h; simp only [stripChars?, Option.some.injEq] at h; exact ⟨[], by simp [h]⟩
    · rintro ⟨head, rfl, h⟩
      have : head = [] := by simpa using h
      simp [stripChars?, this]
  | cons p ps ih =>
    cases cs with
    | nil =>
      constructor
      · intro h; simp [stripChars?] at h
      · rintro ⟨head, hc, h⟩
        cases head with
        | nil => simp at h
        | cons a head => simp at hc
    | cons c cs =>
      by_cases hpc : p.toLower = c.toLower
      · rw [stripChars?, if_pos hpc, ih]
        constructor
        · rintro ⟨head, rfl, h⟩; exact ⟨c :: head, by simp, by simp [h, hpc]⟩
        · rintro ⟨head, hc, h⟩
          cases head with
          | nil => simp at h
          | cons a head =>
            simp only [List.cons_append, List.cons.injEq] at hc
            simp only [List.map_cons, List.cons.injEq] at h
            exact ⟨head, hc.2, h.2⟩
      · rw [stripChars?, if_neg hpc]
        constructor
        · intro h; simp at h
        · rintro ⟨head, hc, h⟩
          cases head with
          | nil => simp at h
          | cons a head =>
            simp only [List.cons_append, List.cons.injEq] at hc
            simp only [List.map_cons, List.cons.injEq] at h
            exact absurd (by rw [← h.1, hc.1]) hpc

/-- What follows a head that equals the lead up to ASCII case. -/
theorem stripLead?_eq_some_iff {lead s rest : String} :
    stripLead? lead s = some rest ↔ ∃ head, s = head ++ rest ∧ Same head lead := by
  simp only [stripLead?, Option.map_eq_some_iff, stripChars?_eq_some_iff, Same, ← String.toList_inj,
    toList_fold, String.toList_append]
  constructor
  · rintro ⟨chars, ⟨head, hs, hhead⟩, hrest⟩
    rw [String.toList_ofList] at hrest
    exact ⟨String.ofList head, by rw [String.toList_ofList, hs, hrest],
      by rw [String.toList_ofList, hhead]⟩
  · rintro ⟨head, hs, hhead⟩
    exact ⟨rest.toList, ⟨head.toList, hs, hhead⟩, String.toList_ofList⟩

theorem toLower_of_not {c : Char} (h : ¬ (c.val ≥ 'A'.val ∧ c.val ≤ 'Z'.val)) : c.toLower = c := by
  unfold Char.toLower
  rw [dif_neg h]

theorem toLower_toLower (c : Char) : c.toLower.toLower = c.toLower := by
  by_cases h : c.val ≥ 'A'.val ∧ c.val ≤ 'Z'.val
  · have e : c.toLower.val = c.val + 32 := by
      unfold Char.toLower
      rw [dif_pos h]
      rfl
    apply toLower_of_not
    rw [e]
    have h1 : 65 ≤ c.val.toNat := UInt32.le_iff_toNat_le.1 h.1
    have h3 : c.val.toNat ≤ 90 := UInt32.le_iff_toNat_le.1 h.2
    intro hc
    have h4 := UInt32.le_iff_toNat_le.1 hc.2
    rw [UInt32.toNat_add] at h4
    have : 'Z'.val.toNat = 90 := rfl
    have : (32 : UInt32).toNat = 32 := rfl
    omega
  · rw [toLower_of_not h, toLower_of_not h]

theorem fold_fold (s : String) : fold (fold s) = fold s := by
  unfold fold
  rw [String.toList_ofList, List.map_map]
  congr 1
  exact List.map_congr_left (fun c _ => toLower_toLower c)

end CallAudit.Ascii
