import CallAudit.Json.Printer
import CallAudit.Json.Reader

/-!
# Strings are read back

Results:
* `textUnits?_escapeChar`: an escaped character is read as one unit.
* `stringBody?_escape`: the characters between the quotes are read as the string.
-/
namespace CallAudit.Json

/-- The unit that a character is written as: a UTF-16 unit if it has neither a letter for its escape
nor a form of its own. -/
def unitOf (c : Char) : TextUnit :=
  if c.toNat < 0x20 ∧ c ≠ '\x08' ∧ c ≠ '\x0c' ∧ c ≠ '\n' ∧ c ≠ '\r' ∧ c ≠ '\t' then .code c.toNat
  else .char c

theorem hexValue?_hexDigit (n : Nat) (h : n < 16) : Digits.hexValue? (hexDigit n) = some n := by
  have : ∀ n < 16, Digits.hexValue? (hexDigit n) = some n := by decide
  exact this n h

/-- The four digits of a character below 0x20. -/
theorem hex4?_hexDigits (n : Nat) (h : n < 0x20) :
    hex4? ['0', '0', hexDigit (n / 16), hexDigit (n % 16)] = some (n, []) := by
  have h0 : Digits.hexValue? '0' = some 0 := by decide
  simp only [hex4?, h0, hexValue?_hexDigit (n / 16) (by omega), hexValue?_hexDigit (n % 16) (by omega),
    Option.bind_eq_bind, Option.bind_some]
  congr 2
  omega

/-- A letter after a backslash. -/
theorem textUnits?_letter (e c : Char) (rest : List Char) (hu : e ≠ 'u')
    (he : simpleEscape? e = some c) :
    textUnits? ('\\' :: e :: rest) = (textUnits? rest).map (fun r => (.char c :: r.1, r.2)) := by
  rw [textUnits?]
  · rw [he]
    cases textUnits? rest <;> rfl
  · rintro _ _ _ _ _ rfl
    exact absurd rfl hu

theorem textUnits?_plain (c : Char) (rest : List Char) (hq : c ≠ '"') (hb : c ≠ '\\')
    (hc : ¬ c.toNat < 0x20) :
    textUnits? (c :: rest) = (textUnits? rest).map (fun r => (.char c :: r.1, r.2)) := by
  rw [textUnits?]
  · rw [if_neg (by simp [hb, hc])]
    cases textUnits? rest <;> rfl
  · exact hq
  · rintro _ _ _ _ _ rfl
    exact absurd rfl hb
  · rintro _ _ rfl
    exact absurd rfl hb

/-- An escaped character is read as one unit. -/
theorem textUnits?_escapeChar (c : Char) (rest : List Char) :
    textUnits? (escapeChar c ++ rest) = (textUnits? rest).map (fun r => (unitOf c :: r.1, r.2)) := by
  unfold escapeChar
  split
  · subst c
    exact textUnits?_letter '"' '"' rest (by decide) rfl
  split
  · subst c
    exact textUnits?_letter '\\' '\\' rest (by decide) rfl
  split
  · subst c
    exact textUnits?_letter 'b' '\x08' rest (by decide) rfl
  split
  · subst c
    exact textUnits?_letter 'f' '\x0c' rest (by decide) rfl
  split
  · subst c
    exact textUnits?_letter 'n' '\n' rest (by decide) rfl
  split
  · subst c
    exact textUnits?_letter 'r' '\r' rest (by decide) rfl
  split
  · subst c
    exact textUnits?_letter 't' '\t' rest (by decide) rfl
  rename_i hq hb h8 hf hn hr ht
  split
  · rename_i hc
    have hunit : unitOf c = .code c.toNat := if_pos ⟨hc, h8, hf, hn, hr, ht⟩
    rw [hunit]
    simp only [List.cons_append, List.nil_append, textUnits?, hex4?_hexDigits c.toNat hc,
      Option.bind_eq_bind, Option.bind_some]
    cases textUnits? rest <;> rfl
  · rename_i hc
    have hunit : unitOf c = .char c := if_neg (fun h => hc h.1)
    rw [hunit]
    exact textUnits?_plain c rest hq hb hc

theorem textUnits?_escape (cs rest : List Char) :
    textUnits? (escape cs ++ '"' :: rest) = some (cs.map unitOf, rest) := by
  induction cs with
  | nil => rfl
  | cons c cs ih =>
    rw [escape, List.flatMap_cons, List.append_assoc, textUnits?_escapeChar]
    rw [escape] at ih
    rw [ih]
    rfl

/-- A unit that is no surrogate stands for itself, whatever follows. -/
theorem decodeUnits?_code (n : Nat) (us : List TextUnit) (h : n < 0xD800) :
    decodeUnits? (.code n :: us) = (decodeUnits? us).map (Char.ofNat n :: ·) := by
  have hl : isLead n = false := by simp [isLead]; omega
  have ht : isTrail n = false := by simp [isTrail]; omega
  rcases us with _ | ⟨_ | _, us⟩ <;> simp [decodeUnits?, hl, ht]

theorem unitOf_cases (c : Char) :
    unitOf c = .char c ∨ c.toNat < 0x20 ∧ unitOf c = .code c.toNat := by
  unfold unitOf
  split
  · rename_i h
    exact .inr ⟨h.1, rfl⟩
  · exact .inl rfl

theorem decodeUnits?_unitOf (cs : List Char) : decodeUnits? (cs.map unitOf) = some cs := by
  induction cs with
  | nil => rfl
  | cons c cs ih =>
    rw [List.map_cons]
    rcases unitOf_cases c with hunit | ⟨hc, hunit⟩
    · rw [hunit, decodeUnits?, ih]
      rfl
    · rw [hunit, decodeUnits?_code c.toNat _ (by omega), ih, Option.map_some, Char.ofNat_toNat]

/-- The characters between the quotes are read as the string, and what follows is left. -/
theorem stringBody?_escape (s : String) (rest : List Char) :
    stringBody? (escape s.toList ++ '"' :: rest) = some (some s, rest) := by
  rw [stringBody?, textUnits?_escape, Option.map_some, decodeUnits?_unitOf, Option.map_some,
    String.ofList_toList]

end CallAudit.Json
