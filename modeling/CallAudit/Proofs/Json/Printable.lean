import CallAudit.Json.Printer
import CallAudit.Proofs.Number.DecimalDigits
import CallAudit.Proofs.Text.Bytes

/-!
# Written text has no line break

Results:
* `space_le_of_mem_bytes`: a text without characters below the space has no such bytes.
* `Json.space_le_of_mem_chars`: no character of a written value lies below the space.
* `Json.space_le_of_mem_render`: nor does any byte of its text.
* `Json.lineBreak_notMem_render`: the text of a value is one line.
-/
namespace CallAudit

/-! ## Bytes of a text -/

theorem space_le_of_mem_utf8EncodeChar (c : Char) (hc : 0x20 ≤ c.toNat) (b : UInt8)
    (h : b ∈ String.utf8EncodeChar c) : 0x20 ≤ b.toNat := by
  have hv : c.val.toNat = c.toNat := rfl
  unfold String.utf8EncodeChar at h
  simp only [hv] at h
  -- the bytes of a character that takes several all have their top bit set
  repeat' split at h
  all_goals simp only [List.mem_cons, List.not_mem_nil, or_false] at h
  · subst h
    rw [UInt8.toNat_ofNat']
    omega
  · rcases h with rfl | rfl <;> rw [UInt8.toNat_ofNat'] <;> omega
  · rcases h with rfl | rfl | rfl <;> rw [UInt8.toNat_ofNat'] <;> omega
  · rcases h with rfl | rfl | rfl | rfl <;> rw [UInt8.toNat_ofNat'] <;> omega

/-- Of a text whose characters do not lie below the space, no byte does. -/
theorem space_le_of_mem_bytes (s : String) (hs : ∀ c ∈ s.toList, 0x20 ≤ c.toNat) :
    ∀ b ∈ s.toUTF8.toList, 0x20 ≤ b.toNat := by
  intro b hb
  rw [toList_toUTF8] at hb
  obtain ⟨c, hc, hb⟩ := List.mem_flatMap.1 hb
  exact space_le_of_mem_utf8EncodeChar c (hs c hc) b hb

/-! ## Characters of a written value -/

namespace Json

theorem space_le_of_all (cs : List Char) (h : cs.all (fun c => decide (0x20 ≤ c.toNat)) = true) :
    ∀ c ∈ cs, 0x20 ≤ c.toNat := by
  simpa using h

theorem space_le_of_isDigit (c : Char) (h : c.isDigit = true) : 0x20 ≤ c.toNat :=
  Nat.le_trans (by decide) (Char.isDigit_iff_toNat.1 h).1

theorem space_le_decimal (n : Nat) : ∀ c ∈ Digits.decimal n, 0x20 ≤ c.toNat := fun c hc =>
  space_le_of_isDigit c (Digits.isDigit_of_mem_decimal n c hc)

theorem space_le_positional (d : Decimal) : ∀ c ∈ positional d, 0x20 ≤ c.toNat := by
  intro c hc
  have hdigits := space_le_decimal d.digits c
  unfold positional at hc
  dsimp only at hc
  split at hc
  · simp only [List.mem_append, List.mem_replicate, List.mem_cons, List.not_mem_nil, or_false] at hc
    rcases hc with (hc | ⟨-, rfl⟩) | rfl | rfl
    · exact hdigits hc
    · decide
    · decide
    · decide
  · split at hc
    · simp only [List.mem_append, List.mem_cons] at hc
      rcases hc with hc | rfl | hc
      · exact hdigits (List.mem_of_mem_take hc)
      · decide
      · exact hdigits (List.mem_of_mem_drop hc)
    · simp only [List.mem_append, List.mem_cons, List.mem_replicate] at hc
      rcases hc with rfl | rfl | ⟨-, rfl⟩ | hc
      · decide
      · decide
      · decide
      · exact hdigits hc

theorem space_le_scientific (d : Decimal) : ∀ c ∈ scientific d, 0x20 ≤ c.toNat := by
  intro c hc
  have hdigits := space_le_decimal d.digits c
  unfold scientific at hc
  simp only [List.mem_append, List.mem_cons] at hc
  rcases hc with (hc | hc) | rfl | rfl | hc
  · exact hdigits (List.mem_of_mem_take hc)
  · split at hc
    · cases hc
    · rcases List.mem_cons.1 hc with rfl | hc
      · decide
      · exact hdigits (List.mem_of_mem_drop hc)
  · decide
  · split <;> decide
  · exact space_le_decimal _ c hc

theorem space_le_text (n : Number) : ∀ c ∈ n.text, 0x20 ≤ c.toNat := by
  intro c hc
  cases n with
  | int n =>
    simp only [Number.text, Digits.signed] at hc
    split at hc
    · rcases List.mem_cons.1 hc with rfl | hc
      · decide
      · exact space_le_decimal _ c hc
    · exact space_le_decimal _ c hc
  | float x =>
    simp only [Number.text, floatText, doubleText, finiteText] at hc
    split at hc
    · rcases List.mem_append.1 hc with hc | hc
      · split at hc
        · rw [List.mem_singleton.1 hc]
          decide
        · cases hc
      · split at hc
        · exact space_le_of_all "0.0".toList (by decide) c hc
        · unfold decimalText at hc
          split at hc
          · exact space_le_positional _ c hc
          · exact space_le_scientific _ c hc
    · exact space_le_of_all "null".toList (by decide) c hc

theorem space_le_quote (s : String) : ∀ c ∈ quote s, 0x20 ≤ c.toNat := by
  intro c hc
  simp only [quote, escape, List.mem_cons, List.mem_append, List.mem_flatMap, List.not_mem_nil,
    or_false] at hc
  rcases hc with rfl | ⟨d, -, hc⟩ | rfl
  · decide
  · exact escapeChar_ge_space hc
  · decide

mutual

/-- No character of a written value lies below the space. -/
theorem space_le_of_mem_chars (v : Json) : ∀ c ∈ chars v, 0x20 ≤ c.toNat := by
  intro c hc
  match v with
  | null => exact space_le_of_all "null".toList (by decide) c hc
  | bool true => exact space_le_of_all "true".toList (by decide) c hc
  | bool false => exact space_le_of_all "false".toList (by decide) c hc
  | number n => exact space_le_text n c hc
  | string s => exact space_le_quote s c hc
  | array [] => exact space_le_of_all ['[', ']'] (by decide) c hc
  | array (x :: xs) =>
    rw [chars, List.mem_cons, List.mem_append] at hc
    rcases hc with rfl | hc | hc
    · decide
    · exact space_le_of_mem_chars x c hc
    · exact space_le_itemsTail xs c hc
  | object [] => exact space_le_of_all ['\x7b', '\x7d'] (by decide) c hc
  | object ((k, x) :: ms) =>
    rw [chars, List.mem_cons, List.mem_append, List.mem_cons, List.mem_append] at hc
    rcases hc with rfl | hc | rfl | hc | hc
    · decide
    · exact space_le_quote k c hc
    · decide
    · exact space_le_of_mem_chars x c hc
    · exact space_le_membersTail ms c hc

theorem space_le_itemsTail (xs : List Json) : ∀ c ∈ itemsTail xs, 0x20 ≤ c.toNat := by
  intro c hc
  match xs with
  | [] =>
    rw [List.mem_singleton.1 hc]
    decide
  | x :: xs =>
    rw [itemsTail, List.mem_cons, List.mem_append] at hc
    rcases hc with rfl | hc | hc
    · decide
    · exact space_le_of_mem_chars x c hc
    · exact space_le_itemsTail xs c hc

theorem space_le_membersTail (ms : List (String × Json)) : ∀ c ∈ membersTail ms, 0x20 ≤ c.toNat := by
  intro c hc
  match ms with
  | [] =>
    rw [List.mem_singleton.1 hc]
    decide
  | (k, x) :: ms =>
    rw [membersTail, List.mem_cons, List.mem_append, List.mem_cons, List.mem_append] at hc
    rcases hc with rfl | hc | rfl | hc | hc
    · decide
    · exact space_le_quote k c hc
    · decide
    · exact space_le_of_mem_chars x c hc
    · exact space_le_membersTail ms c hc

end

/-- No byte of a written value lies below the space. -/
theorem space_le_of_mem_render (v : Json) : ∀ b ∈ v.render.toUTF8.toList, 0x20 ≤ b.toNat := by
  have hchars : ∀ c ∈ v.render.toList, 0x20 ≤ c.toNat := by
    rw [render, String.toList_ofList]
    exact space_le_of_mem_chars v
  exact space_le_of_mem_bytes v.render hchars

/-- The text of a value is one line. -/
theorem lineBreak_notMem_render (v : Json) : 0x0A ∉ v.render.toUTF8.toList := fun h =>
  absurd (space_le_of_mem_render v 0x0A h) (by decide)

end Json

end CallAudit
