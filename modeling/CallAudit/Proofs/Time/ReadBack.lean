import CallAudit.Proofs.Number.DecimalDigits
import CallAudit.Proofs.Time.Calendar

/-!
# Written points in time are read back

A point whose day lies in the range of dates, and that lies in a leap second only at the end of a
minute, is read back from its RFC 3339 text. Those are the points that texts name: whatever the reader
accepts, offset and all, it gives such a point.

Results:
* `number?_digits`, `year?_yearText`, `fraction?_fractionText`: each part of the text is read back.
* `parse?_render`: a representable point is read back.
* `representable_of_parse?`: every point read is representable.
-/
namespace CallAudit.Timestamp

open Digits (padded ofDecimal)
open Blank (trimLeft isBlank)

/-- The points that texts name. -/
def Representable (t : Timestamp) : Prop :=
  minDay ≤ t.day ∧ t.day ≤ maxDay ∧ (1000000000 ≤ t.nanos → t.second % 60 = 59)

instance (t : Timestamp) : Decidable t.Representable :=
  inferInstanceAs (Decidable (_ ∧ _ ∧ (_ → _)))

/-! ## Parts of the text -/

theorem trimLeft_cons (c : Char) (cs : List Char) (h : isBlank c = false) :
    trimLeft (c :: cs) = c :: cs := by
  simp [trimLeft, h]

theorem isBlank_of_isDigit (c : Char) (h : c.isDigit = true) : isBlank c = false := by
  have hc : 48 ≤ c.toNat ∧ c.toNat ≤ 57 := Char.isDigit_iff_toNat.1 h
  unfold isBlank
  simp only [Bool.or_eq_false_iff, Bool.and_eq_false_iff, decide_eq_false_iff_not, beq_eq_false_iff_ne]
  omega

/-- A run of digits is read as a number, if it fills the width or something else follows it. -/
theorem number?_digits (width : Nat) (ds rest : List Char) (hd : ∀ c ∈ ds, c.isDigit = true)
    (hne : ds ≠ []) (hle : ds.length ≤ width)
    (hend : ds.length = width ∨ ∀ c ∈ rest.head?, c.isDigit = false) :
    number? width (ds ++ rest) = some (ofDecimal ds, rest) := by
  have htrim : trimLeft (ds ++ rest) = ds ++ rest := by
    obtain ⟨d, ds, rfl⟩ := List.exists_cons_of_ne_nil hne
    exact trimLeft_cons d _ (isBlank_of_isDigit d (hd d (List.mem_cons_self ..)))
  have htake : (ds ++ rest).take width = ds ++ rest.take (width - ds.length) := by
    rw [List.take_append, List.take_of_length_le hle]
  have hrun : (ds ++ rest.take (width - ds.length)).takeWhile Char.isDigit = ds := by
    refine Digits.takeWhile_append_of_isDigit ds _ hd (fun c hc => ?_)
    rcases hend with hlen | hother
    · rw [hlen, Nat.sub_self, List.take_zero] at hc
      cases hc
    · refine hother c ?_
      rw [List.head?_take] at hc
      split at hc
      · cases hc
      · exact hc
  unfold number?
  dsimp only
  rw [htrim, htake, hrun, if_neg (by simpa using hne), List.drop_left]

theorem number?_padded (width n : Nat) (rest : List Char) (hw : 0 < width) (h : n < 10 ^ width) :
    number? width (padded width n ++ rest) = some (n, rest) := by
  have hlen := Digits.length_padded width n hw h
  rw [number?_digits width _ rest (Digits.isDigit_of_mem_padded width n) (Digits.padded_ne_nil width n)
    (Nat.le_of_eq hlen) (.inl hlen), Digits.ofDecimal_padded]

theorem mark?_cons (c : Char) (rest : List Char) (h : isBlank c = false) :
    mark? c (c :: rest) = some rest := by
  rw [mark?, trimLeft_cons c rest h]
  exact if_pos rfl

theorem year?_minus (rest : List Char) (h : rest.head?.any Char.isDigit = true) :
    year? ('-' :: rest) = (number? rest.length rest).map (fun r => (-(r.1 : Int), r.2)) :=
  congrArg (Option.map (fun r : Nat × List Char => (-(r.1 : Int), r.2))) (if_pos h)

theorem year?_plus (rest : List Char) (h : rest.head?.any Char.isDigit = true) :
    year? ('+' :: rest) = (number? rest.length rest).map (fun r => ((r.1 : Int), r.2)) :=
  congrArg (Option.map (fun r : Nat × List Char => ((r.1 : Int), r.2))) (if_pos h)

/-- A year is read back up to the dash that follows it. -/
theorem year?_yearText (y : Int) (rest : List Char) :
    year? (yearText y ++ '-' :: rest) = some (y, '-' :: rest) := by
  -- the digits of a signed year run up to the dash
  have hsigned : ∀ n : Nat, number? (padded 4 n ++ '-' :: rest).length (padded 4 n ++ '-' :: rest) =
      some (n, '-' :: rest) := by
    intro n
    rw [number?_digits _ _ ('-' :: rest) (Digits.isDigit_of_mem_padded 4 n) (Digits.padded_ne_nil 4 n)
      (by rw [List.length_append]; omega) (.inr (Digits.forall_head?_cons _ _ (by decide))),
      Digits.ofDecimal_padded]
  have hhead : ∀ n : Nat, (padded 4 n ++ '-' :: rest).head?.any Char.isDigit = true := by
    intro n
    obtain ⟨d, ds, hds⟩ := List.exists_cons_of_ne_nil (Digits.padded_ne_nil 4 n)
    rw [hds]
    exact Digits.isDigit_of_mem_padded 4 n d (by rw [hds]; exact List.mem_cons_self ..)
  unfold yearText
  split
  · rename_i hy
    have hread := number?_padded 4 y.toNat ('-' :: rest) (by decide) (by omega)
    obtain ⟨d, ds, hds⟩ := List.exists_cons_of_ne_nil (Digits.padded_ne_nil 4 y.toNat)
    have hd : d.isDigit = true :=
      Digits.isDigit_of_mem_padded 4 y.toNat d (by rw [hds]; exact List.mem_cons_self ..)
    rw [hds] at hread ⊢
    unfold year?
    rw [List.cons_append, trimLeft_cons d _ (isBlank_of_isDigit d hd)]
    split
    · rename_i heq
      cases heq
      exact absurd hd (by decide)
    · rename_i heq
      cases heq
      exact absurd hd (by decide)
    · rw [List.cons_append] at hread
      rw [hread, Option.map_some, Int.toNat_of_nonneg hy.1]
  · split
    · rw [List.cons_append, year?_minus _ (hhead _), hsigned, Option.map_some]
      simp only [Option.some.injEq, Prod.mk.injEq, and_true]
      omega
    · rw [List.cons_append, year?_plus _ (hhead _), hsigned, Option.map_some]
      simp only [Option.some.injEq, Prod.mk.injEq, and_true]
      omega

theorem fraction?_padded (k m : Nat) (hk : 0 < k) (hk9 : k ≤ 9) (hm : m < 10 ^ k) :
    fraction? ('.' :: (padded k m ++ ['Z'])) = some (m * 10 ^ (9 - k), ['Z']) := by
  have hrun := Digits.takeWhile_append_of_isDigit (padded k m) ['Z'] (Digits.isDigit_of_mem_padded k m)
    (Digits.forall_head?_cons _ _ (by decide))
  have hlen := Digits.length_padded k m hk hm
  have hkept : (padded k m).take 9 = padded k m := List.take_of_length_le (by omega)
  simp only [fraction?]
  rw [hrun, if_neg (by simpa using Digits.padded_ne_nil k m), hkept, List.drop_left, hlen,
    Digits.ofDecimal_padded, Nat.pow_eq]

/-- A fraction of a second is read back, however few digits it has. -/
theorem fraction?_fractionText (n : Nat) (h : n < 1000000000) :
    fraction? (fractionText n ++ ['Z']) = some (n, ['Z']) := by
  unfold fractionText
  split
  · rename_i h0
    rw [h0]
    rfl
  · split
    · rw [List.cons_append, fraction?_padded 3 _ (by decide) (by decide) (by omega)]
      simp only [Option.some.injEq, Prod.mk.injEq, and_true]
      omega
    · split
      · rw [List.cons_append, fraction?_padded 6 _ (by decide) (by decide) (by omega)]
        simp only [Option.some.injEq, Prod.mk.injEq, and_true]
        omega
      · rw [List.cons_append, fraction?_padded 9 _ (by decide) (by decide) (by omega)]
        simp

/-! ## Whole points -/

/-- The seconds that the text shows beyond those of the minute. -/
def leapSecond (t : Timestamp) : Nat := if t.nanos < 1000000000 then 0 else 1

/-- The text, from its year on. -/
theorem chars_eq (t : Timestamp) : t.chars =
    yearText (toCivil t.day).1 ++ '-' :: (padded 2 (toCivil t.day).2.1 ++ '-' ::
      (padded 2 (toCivil t.day).2.2 ++ 'T' :: (padded 2 (t.second / 3600) ++ ':' ::
        (padded 2 (t.second / 60 % 60) ++ ':' :: (padded 2 (t.second % 60 + t.leapSecond) ++
          (fractionText (t.nanos - t.leapSecond * 1000000000) ++ ['Z'])))))) := by
  rw [show t.chars = yearText (toCivil t.day).1 ++ '-' :: padded 2 (toCivil t.day).2.1 ++
    '-' :: padded 2 (toCivil t.day).2.2 ++ 'T' :: padded 2 (t.second / 3600) ++
    ':' :: padded 2 (t.second / 60 % 60) ++ ':' :: padded 2 (t.second % 60 + t.leapSecond) ++
    fractionText (t.nanos - t.leapSecond * 1000000000) ++ ['Z'] from rfl]
  simp only [List.append_assoc, List.cons_append]

/-- The fields that the text shows name the point. -/
theorem ofFields?_toCivil (t : Timestamp) (h : t.Representable) :
    ofFields? (toCivil t.day).1 (toCivil t.day).2.1 (toCivil t.day).2.2 (t.second / 3600)
      (t.second / 60 % 60) (t.second % 60 + t.leapSecond) (t.nanos - t.leapSecond * 1000000000) 0 =
      some t := by
  obtain ⟨hmin, hmax, hleap⟩ := h
  obtain ⟨hm1, hm12, hd1, hd⟩ := toCivil_valid t.day
  obtain ⟨hy, hy'⟩ := year_bounds t.day hmin hmax
  have hcivil := ofCivil_toCivil t.day
  obtain ⟨day, second, nanos, hsecond, hnanos⟩ := t
  simp only [leapSecond] at *
  -- second 60 stands for the leap second after second 59
  have hshown : second % 60 + (if nanos < 1000000000 then 0 else 1) ≤ 60 ∧
      min (second % 60 + (if nanos < 1000000000 then 0 else 1)) 59 = second % 60 ∧
      (second % 60 + (if nanos < 1000000000 then 0 else 1) = 60 ↔ ¬ nanos < 1000000000) := by
    split <;> omega
  obtain ⟨h60, hmin59, hiff⟩ := hshown
  have hrest : nanos - (if nanos < 1000000000 then 0 else 1) * 1000000000 ≤ 999999999 ∧
      nanos - (if nanos < 1000000000 then 0 else 1) * 1000000000 +
        (if ¬ nanos < 1000000000 then 1000000000 else 0) = nanos := by
    split <;> omega
  have hofDay : ((second / 3600 * 3600 + second / 60 % 60 * 60 + second % 60 : Nat) : Int) - 0 =
      second := by omega
  have hday : day + (second : Int) / 86400 = day := by omega
  unfold ofFields?
  rw [dif_neg (by omega)]
  simp only [hcivil, hmin59, hiff, hrest.2, hofDay, hday]
  rw [if_neg (by omega)]
  simp only [Option.some.injEq, Timestamp.mk.injEq, true_and, and_true]
  omega

/-- **A representable point is read back from its text.** -/
theorem parse?_render (t : Timestamp) (h : t.Representable) : parse? t.render = some t := by
  obtain ⟨-, hm12, -, hd⟩ := toCivil_valid t.day
  have hd31 := daysInMonth_le (toCivil t.day).1 (toCivil t.day).2.1
  have hsecond := t.second_lt
  have hnanos := t.nanos_lt
  have hleap : t.leapSecond ≤ 1 ∧ t.nanos - t.leapSecond * 1000000000 < 1000000000 := by
    unfold leapSecond
    split <;> omega
  simp only [parse?, render, String.toList_ofList, chars_eq, Option.bind_eq_bind]
  rw [year?_yearText, Option.bind_some]
  dsimp only
  rw [mark?_cons _ _ (by decide), Option.bind_some, number?_padded 2 _ _ (by decide) (by omega),
    Option.bind_some]
  dsimp only
  rw [mark?_cons _ _ (by decide), Option.bind_some, number?_padded 2 _ _ (by decide) (by omega),
    Option.bind_some]
  dsimp only
  rw [if_pos (.inl rfl), Option.bind_some, number?_padded 2 _ _ (by decide) (by omega),
    Option.bind_some]
  dsimp only
  rw [mark?_cons _ _ (by decide), Option.bind_some, number?_padded 2 _ _ (by decide) (by omega),
    Option.bind_some]
  dsimp only
  rw [mark?_cons _ _ (by decide), Option.bind_some, number?_padded 2 _ _ (by decide) (by omega),
    Option.bind_some]
  dsimp only
  rw [fraction?_fractionText _ hleap.2, Option.bind_some]
  exact ofFields?_toCivil t h

/-! ## Points that are read -/

theorem offset?_mod (cs rest : List Char) (offset : Int) (h : offset? cs = some (offset, rest)) :
    offset % 60 = 0 := by
  cases cs with
  | nil => cases h
  | cons c cs =>
    unfold offset? at h
    dsimp only at h
    split at h
    · cases h
      rfl
    · split at h
      · cases h
        rfl
      · split at h
        · simp only [Option.bind_eq_bind, Option.bind_eq_some_iff] at h
          obtain ⟨hours, -, minutes, -, h⟩ := h
          split at h
          · cases h
          · cases h
            split <;> omega
        · cases h

theorem representable_of_ofFields? (year : Int) (month day hour minute second nanos : Nat)
    (offset : Int) (t : Timestamp) (hoff : offset % 60 = 0)
    (h : ofFields? year month day hour minute second nanos offset = some t) : t.Representable := by
  unfold ofFields? at h
  split at h
  · cases h
  · rename_i hfields
    dsimp only at h
    split at h
    · cases h
    · rename_i hrange
      cases h
      refine ⟨by dsimp only; omega, by dsimp only; omega, fun hn => ?_⟩
      dsimp only at hn ⊢
      have h60 : second = 60 := by
        split at hn
        · assumption
        · omega
      subst h60
      omega

/-- **Every point read is representable.** -/
theorem representable_of_parse? (s : String) (t : Timestamp) (h : parse? s = some t) :
    t.Representable := by
  simp only [parse?, Option.bind_eq_bind] at h
  -- the year, the month and the day, and the marks between them
  obtain ⟨_, -, h⟩ := Option.bind_eq_some_iff.1 h
  obtain ⟨_, -, h⟩ := Option.bind_eq_some_iff.1 h
  obtain ⟨_, -, h⟩ := Option.bind_eq_some_iff.1 h
  obtain ⟨_, -, h⟩ := Option.bind_eq_some_iff.1 h
  obtain ⟨_, -, h⟩ := Option.bind_eq_some_iff.1 h
  split at h
  · split at h
    · -- the hour, the minute and the second, and the fraction
      obtain ⟨_, -, h⟩ := Option.bind_eq_some_iff.1 ((Option.bind_some ..).symm.trans h)
      obtain ⟨_, -, h⟩ := Option.bind_eq_some_iff.1 h
      obtain ⟨_, -, h⟩ := Option.bind_eq_some_iff.1 h
      obtain ⟨_, -, h⟩ := Option.bind_eq_some_iff.1 h
      obtain ⟨_, -, h⟩ := Option.bind_eq_some_iff.1 h
      obtain ⟨_, -, h⟩ := Option.bind_eq_some_iff.1 h
      obtain ⟨offset, hoffset, h⟩ := Option.bind_eq_some_iff.1 h
      split at h
      · exact representable_of_ofFields? _ _ _ _ _ _ _ _ t (offset?_mod _ _ _ hoffset) h
      · cases h
    · cases h
  · cases h

end CallAudit.Timestamp
