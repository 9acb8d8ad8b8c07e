import CallAudit.Proofs.Json.NumberText
import CallAudit.Proofs.Json.StringText
import Mathlib.Data.List.TakeWhile

/-!
# The grammar of JSON texts

A text is related to the value it is written for, by a grammar that does not read: it says what may
stand where, never how far a scan goes.

Results:
* `NumberText`, `StringText`, `Text`: the texts of a number, a string, a value; `SpacedText` has
  blanks around it.
* `number?_sound`, `NumberText.number?`: the reader's numbers are those of the grammar.
* `stringBody?_sound`, `StringText.stringBody?`: so are its strings.
-/
namespace CallAudit.Json

/-- Nothing but blanks. -/
def Blanks (cs : List Char) : Prop := ∀ c ∈ cs, isBlank c = true

/-! ## Numbers -/

/-- The integer part of a number: a lone zero, or digits that start with none. -/
def WholeText (ds : List Char) : Prop :=
  ds = ['0'] ∨ ds ≠ [] ∧ (∀ c ∈ ds, c.isDigit = true) ∧ ∀ c ∈ ds.head?, c ≠ '0'

/-- A point and digits, or nothing. -/
inductive FractionText : Option (List Char) → List Char → Prop
  | absent : FractionText none []
  | digits (ds : List Char) (hne : ds ≠ []) (hd : ∀ c ∈ ds, c.isDigit = true) :
    FractionText (some ds) ('.' :: ds)

/-- The sign of an exponent; the index is whether it is negative. -/
inductive SignText : Bool → List Char → Prop
  | absent : SignText false []
  | plus : SignText false ['+']
  | minus : SignText true ['-']

/-- An `e` of either case and digits that may have a sign, or nothing. -/
inductive ExponentText : Option Int → List Char → Prop
  | absent : ExponentText none []
  | digits (mark : Char) (negative : Bool) (sign ds : List Char) (hm : mark = 'e' ∨ mark = 'E')
    (hs : SignText negative sign) (hne : ds ≠ []) (hd : ∀ c ∈ ds, c.isDigit = true) :
    ExponentText
      (some (if negative then -(Digits.ofDecimal ds : Int) else Digits.ofDecimal ds))
      (mark :: (sign ++ ds))

/-- A number within the range of doubles. -/
inductive NumberText : Number → List Char → Prop
  | mk (negative : Bool) (whole fractionText exponentText : List Char)
    (fraction : Option (List Char)) (exponent : Option Int) (n : Number)
    (hw : WholeText whole) (hf : FractionText fraction fractionText)
    (he : ExponentText exponent exponentText)
    (hn : Number.ofLiteral? negative whole fraction exponent = some n) :
    NumberText n ((if negative then ['-'] else []) ++ (whole ++ (fractionText ++ exponentText)))

/-! ## Strings -/

/-- A `\u` escape of a UTF-16 unit. -/
inductive CodeText : Nat → List Char → Prop
  | mk (a b c d : Char) (i j k l : Nat) (ha : Digits.hexValue? a = some i)
    (hb : Digits.hexValue? b = some j) (hc : Digits.hexValue? c = some k)
    (hd : Digits.hexValue? d = some l) :
    CodeText (((i * 16 + j) * 16 + k) * 16 + l) ['\\', 'u', a, b, c, d]

/-- What may stand between the quotes for these characters: a character as it is, an escape of it, or
for a character beyond 16 bits the escapes of its two surrogates. -/
inductive CharsText : List Char → List Char → Prop
  | nil : CharsText [] []
  | plain (c : Char) {cs text : List Char} (hq : c ≠ '"') (hb : c ≠ '\\') (hc : 0x20 ≤ c.toNat)
    (hcs : CharsText cs text) : CharsText (c :: cs) (c :: text)
  | letter (e c : Char) {cs text : List Char} (he : simpleEscape? e = some c)
    (hcs : CharsText cs text) : CharsText (c :: cs) ('\\' :: e :: text)
  | code {n : Nat} {unit cs text : List Char} (hn : CodeText n unit) (hl : isLead n = false)
    (ht : isTrail n = false) (hcs : CharsText cs text) :
    CharsText (Char.ofNat n :: cs) (unit ++ text)
  | pair {n m : Nat} {unit unit' cs text : List Char} (hn : CodeText n unit) (hm : CodeText m unit')
    (hl : isLead n = true) (ht : isTrail m = true) (hcs : CharsText cs text) :
    CharsText (Char.ofNat (0x10000 + (n - 0xD800) * 0x400 + (m - 0xDC00)) :: cs)
      (unit ++ (unit' ++ text))

/-- A string in its quotes. -/
def StringText (s : String) (text : List Char) : Prop :=
  ∃ body, CharsText s.toList body ∧ text = '"' :: (body ++ ['"'])

/-! ## Values -/

mutual

/-- A value. -/
inductive Text : Json → List Char → Prop
  | null : Text .null "null".toList
  | yes : Text (.bool true) "true".toList
  | no : Text (.bool false) "false".toList
  | number {n : Number} {text : List Char} (h : NumberText n text) : Text (.number n) text
  | string {s : String} {text : List Char} (h : StringText s text) : Text (.string s) text
  | emptyArray {b : List Char} (hb : Blanks b) : Text (.array []) ('[' :: (b ++ [']']))
  | array {xs : List Json} {text : List Char} (h : ItemsText xs text) :
    Text (.array xs) ('[' :: (text ++ [']']))
  | emptyObject {b : List Char} (hb : Blanks b) : Text (.object []) ('\x7b' :: (b ++ ['\x7d']))
  | object {ms : List (String × Json)} {text : List Char} (h : MembersText ms text) :
    Text (.object ms) ('\x7b' :: (text ++ ['\x7d']))

/-- A value with blanks around it. -/
inductive SpacedText : Json → List Char → Prop
  | mk {v : Json} {b text b' : List Char} (hb : Blanks b) (h : Text v text) (hb' : Blanks b') :
    SpacedText v (b ++ (text ++ b'))

/-- One item or more, with commas between them. -/
inductive ItemsText : List Json → List Char → Prop
  | last {x : Json} {text : List Char} (hx : SpacedText x text) : ItemsText [x] text
  | more {x : Json} {xs : List Json} {text rest : List Char} (hx : SpacedText x text)
    (hxs : ItemsText xs rest) : ItemsText (x :: xs) (text ++ ',' :: rest)

/-- One member or more, with commas between them. A member is a key, a colon and a value. -/
inductive MembersText : List (String × Json) → List Char → Prop
  | last {k : String} {x : Json} {b key b' text : List Char} (hb : Blanks b) (hk : StringText k key)
    (hb' : Blanks b') (hx : SpacedText x text) :
    MembersText [(k, x)] (b ++ (key ++ (b' ++ ':' :: text)))
  | more {k : String} {x : Json} {ms : List (String × Json)} {b key b' text rest : List Char}
    (hb : Blanks b) (hk : StringText k key) (hb' : Blanks b') (hx : SpacedText x text)
    (hms : MembersText ms rest) :
    MembersText ((k, x) :: ms) (b ++ (key ++ (b' ++ ':' :: (text ++ ',' :: rest))))

end

/-! ## Numbers are read as the grammar has them -/

theorem span_eq (cs ds rest : List Char) (h : Digits.span cs = (ds, rest)) :
    cs = ds ++ rest ∧ ∀ c ∈ ds, c.isDigit = true := by
  cases h
  exact ⟨(Digits.span_append cs).symm, fun c hc => List.mem_takeWhile_imp hc⟩

theorem integerPart?_sound (cs ds rest : List Char) (h : integerPart? cs = some (ds, rest)) :
    WholeText ds ∧ cs = ds ++ rest := by
  unfold integerPart? at h
  split at h
  · cases h
    exact ⟨.inl rfl, rfl⟩
  · rename_i hz
    split at h
    · cases h
    · rename_i hne hspan
      cases h
      obtain ⟨rfl, hd⟩ := span_eq _ _ _ hspan
      refine ⟨.inr ⟨hne, hd, ?_⟩, rfl⟩
      intro c hc hc0
      cases ds with
      | nil => cases hc
      | cons d ds =>
        cases hc
        exact hz (ds ++ rest) (by rw [hc0]; rfl)

theorem fractionPart?_sound (cs rest : List Char) (fraction : Option (List Char))
    (h : fractionPart? cs = some (fraction, rest)) :
    ∃ text, FractionText fraction text ∧ cs = text ++ rest := by
  unfold fractionPart? at h
  split at h
  · split at h
    · cases h
    · rename_i cs' ds rest' hne hspan
      cases h
      obtain ⟨rfl, hd⟩ := span_eq _ _ _ hspan
      exact ⟨_, .digits ds hne hd, rfl⟩
  · cases h
    exact ⟨[], .absent, rfl⟩

/-- The digits of an exponent, whichever sign stands before them. -/
theorem digits_of_span (negative : Bool) (cs ds rest rest' : List Char) (exponent : Option Int)
    (hspan : Digits.span cs = (ds, rest'))
    (h : some (some (if negative then -(Digits.ofDecimal ds : Int) else Digits.ofDecimal ds), rest') =
      some (exponent, rest)) :
    (∀ c ∈ ds, c.isDigit = true) ∧ cs = ds ++ rest ∧
      exponent = some (if negative then -(Digits.ofDecimal ds : Int) else Digits.ofDecimal ds) := by
  cases h
  obtain ⟨rfl, hd⟩ := span_eq _ _ _ hspan
  exact ⟨hd, rfl, rfl⟩

theorem exponentPart?_sound (cs rest : List Char) (exponent : Option Int)
    (h : exponentPart? cs = some (exponent, rest)) :
    ∃ text, ExponentText exponent text ∧ cs = text ++ rest := by
  unfold exponentPart? at h
  dsimp only at h
  split at h
  · rename_i c cs
    split at h
    · rename_i hm
      split at h
      · split at h
        · cases h
        · rename_i ds rest' hne hspan
          obtain ⟨hd, rfl, rfl⟩ := digits_of_span false _ ds rest rest' exponent hspan h
          exact ⟨_, .digits c false ['+'] ds hm .plus hne hd, rfl⟩
      · split at h
        · cases h
        · rename_i ds rest' hne hspan
          obtain ⟨hd, rfl, rfl⟩ := digits_of_span true _ ds rest rest' exponent hspan h
          exact ⟨_, .digits c true ['-'] ds hm .minus hne hd, rfl⟩
      · split at h
        · cases h
        · rename_i ds rest' hne hspan
          obtain ⟨hd, rfl, rfl⟩ := digits_of_span false _ ds rest rest' exponent hspan h
          exact ⟨_, .digits c false [] ds hm .absent hne hd, rfl⟩
    · cases h
      exact ⟨[], .absent, rfl⟩
  · cases h
    exact ⟨[], .absent, rfl⟩

/-- What is read as a number is a number of the grammar. -/
theorem number?_sound (cs rest : List Char) (n : Number) (h : number? cs = some (some n, rest)) :
    ∃ text, NumberText n text ∧ cs = text ++ rest := by
  unfold number? at h
  split at h
  rename_i negative cs' hsign
  simp only [Option.bind_eq_bind, Option.bind_eq_some_iff, Option.some.injEq, Prod.mk.injEq,
    Prod.exists] at h
  obtain ⟨whole, cs1, hw, fraction, cs2, hf, exponent, cs3, he, hn, rfl⟩ := h
  obtain ⟨hwhole, rfl⟩ := integerPart?_sound _ _ _ hw
  obtain ⟨ft, hft, rfl⟩ := fractionPart?_sound _ _ _ hf
  obtain ⟨et, het, rfl⟩ := exponentPart?_sound _ _ _ he
  refine ⟨_, .mk negative whole ft et fraction exponent n hwhole hft het hn, ?_⟩
  split at hsign
  · cases hsign
    simp
  · cases hsign
    simp

theorem WholeText.integerPart? {ds : List Char} (hw : WholeText ds) (rest : List Char)
    (hr : ∀ c ∈ rest.head?, c.isDigit = false) :
    Json.integerPart? (ds ++ rest) = some (ds, rest) := by
  rcases hw with rfl | ⟨hne, hd, hz⟩
  · exact integerPart?_zero rest
  · exact integerPart?_digits ds rest hd hz hne hr

theorem FractionText.fractionPart? {fraction : Option (List Char)} {text : List Char}
    (hf : FractionText fraction text) (rest : List Char)
    (hr : ∀ c ∈ rest.head?, c.isDigit = false ∧ c ≠ '.') :
    Json.fractionPart? (text ++ rest) = some (fraction, rest) := by
  cases hf with
  | absent => exact fractionPart?_none rest (fun c hc => (hr c hc).2)
  | digits ds hne hd => exact fractionPart?_digits ds rest hd hne (fun c hc => (hr c hc).1)

theorem ExponentText.exponentPart? {exponent : Option Int} {text : List Char}
    (he : ExponentText exponent text) (rest : List Char) (hr : Stops rest) :
    Json.exponentPart? (text ++ rest) = some (exponent, rest) := by
  cases he with
  | absent => exact exponentPart?_none rest hr
  | digits mark negative sign ds hm hs hne hd =>
    have hspan := Digits.span_append_of_isDigit ds rest hd (fun c hc => (hr c hc).1)
    obtain ⟨d, ds, rfl⟩ := List.exists_cons_of_ne_nil hne
    have hd0 : d ≠ '+' ∧ d ≠ '-' := by
      have := hd d (by simp)
      constructor <;> rintro rfl <;> cases this
    rw [List.cons_append] at hspan
    cases hs <;> simp [Json.exponentPart?, hm, hspan, hd0]

theorem ExponentText.head_append {exponent : Option Int} {text : List Char}
    (he : ExponentText exponent text) (rest : List Char) (hr : Stops rest) :
    ∀ c ∈ (text ++ rest).head?, c.isDigit = false ∧ c ≠ '.' := by
  cases he with
  | absent => exact fun c hc => ⟨(hr c hc).1, (hr c hc).2.1⟩
  | digits mark negative sign ds hm hs hne hd =>
    rintro _ ⟨⟩
    rcases hm with rfl | rfl <;> decide

theorem FractionText.head_append {fraction : Option (List Char)} {text : List Char}
    (hf : FractionText fraction text) (rest : List Char)
    (hr : ∀ c ∈ rest.head?, c.isDigit = false) :
    ∀ c ∈ (text ++ rest).head?, c.isDigit = false := by
  cases hf with
  | absent => exact hr
  | digits ds hne hd =>
    rintro _ ⟨⟩
    rfl

theorem WholeText.head {ds : List Char} (hw : WholeText ds) :
    ∃ d rest, ds = d :: rest ∧ d.isDigit = true := by
  rcases hw with rfl | ⟨hne, hd, -⟩
  · exact ⟨'0', [], rfl, rfl⟩
  · obtain ⟨d, ds, rfl⟩ := List.exists_cons_of_ne_nil hne
    exact ⟨d, ds, rfl, hd d (by simp)⟩

theorem NumberText.head {n : Number} {text : List Char} (h : NumberText n text) :
    ∃ c rest, text = c :: rest ∧ (c = '-' ∨ c.isDigit = true) := by
  cases h with
  | mk negative whole ft et fraction exponent n hw hf he hn =>
    obtain ⟨d, ds, rfl, hd⟩ := hw.head
    cases negative with
    | true => exact ⟨'-', _, rfl, .inl rfl⟩
    | false => exact ⟨d, _, rfl, .inr hd⟩

/-- A number of the grammar is read to its end. -/
theorem NumberText.number? {n : Number} {text : List Char} (h : NumberText n text)
    (rest : List Char) (hr : Stops rest) : Json.number? (text ++ rest) = some (some n, rest) := by
  cases h with
  | mk negative whole ft et fraction exponent n hw hf he hn =>
    have hpoint := he.head_append rest hr
    have hdigit := hf.head_append (et ++ rest) (fun c hc => (hpoint c hc).1)
    obtain ⟨d, ds, hwhole, hd⟩ := hw.head
    have := number?_of_parts negative (whole ++ (ft ++ (et ++ rest))) _ _ rest whole fraction exponent
      (by rw [hwhole]; exact Digits.forall_head?_cons _ _ (ne_minus_of_isDigit d hd))
      (hw.integerPart? _ hdigit) (hf.fractionPart? _ hpoint) (he.exponentPart? rest hr)
    rw [hn] at this
    simpa only [List.append_assoc] using this

/-! ## Strings are read as the grammar has them

The reader first splits a string into units and then pairs the surrogates. `UnitsText` is the grammar
of the first step; `CharsText` is that of both. -/

inductive UnitText : TextUnit → List Char → Prop
  | plain (c : Char) (hq : c ≠ '"') (hb : c ≠ '\\') (hc : 0x20 ≤ c.toNat) : UnitText (.char c) [c]
  | letter (e c : Char) (he : simpleEscape? e = some c) : UnitText (.char c) ['\\', e]
  | code {n : Nat} {unit : List Char} (hn : CodeText n unit) : UnitText (.code n) unit

inductive UnitsText : List TextUnit → List Char → Prop
  | nil : UnitsText [] []
  | cons {u : TextUnit} {us : List TextUnit} {unit text : List Char} (hu : UnitText u unit)
    (hus : UnitsText us text) : UnitsText (u :: us) (unit ++ text)

theorem hex4?_iff (a b c d : Char) (n : Nat) :
    (∃ rest, hex4? [a, b, c, d] = some (n, rest)) ↔ CodeText n ['\\', 'u', a, b, c, d] := by
  constructor
  · rintro ⟨rest, h⟩
    simp only [hex4?, Option.bind_eq_bind, Option.bind_eq_some_iff, Option.some.injEq,
      Prod.mk.injEq] at h
    obtain ⟨i, ha, j, hb, k, hc, l, hd, rfl, -⟩ := h
    exact .mk a b c d i j k l ha hb hc hd
  · rintro ⟨ha, hb, hc, hd⟩
    simp only [hex4?, Option.bind_eq_bind]
    rw [‹Digits.hexValue? a = _›, ‹Digits.hexValue? b = _›, ‹Digits.hexValue? c = _›,
      ‹Digits.hexValue? d = _›]
    exact ⟨[], rfl⟩

theorem textUnits?_sound (cs rest : List Char) (us : List TextUnit)
    (h : textUnits? cs = some (us, rest)) :
    ∃ text, UnitsText us text ∧ cs = text ++ '"' :: rest := by
  fun_induction textUnits? cs generalizing us with
  | case1 => cases h
  | case2 =>
    cases h
    exact ⟨[], .nil, rfl⟩
  | case3 a b c d r ih =>
    simp only [Option.bind_eq_bind, Option.bind_eq_some_iff, Option.some.injEq, Prod.mk.injEq,
      Prod.exists] at h
    obtain ⟨n, r', hn, us', rest', hus, rfl, rfl⟩ := h
    obtain ⟨text, htext, rfl⟩ := ih us' hus
    exact ⟨_, .cons (.code ((hex4?_iff a b c d n).1 ⟨r', hn⟩)) htext, rfl⟩
  | case4 e r _ ih =>
    simp only [Option.bind_eq_bind, Option.bind_eq_some_iff, Option.some.injEq, Prod.mk.injEq,
      Prod.exists] at h
    obtain ⟨c, hc, us', rest', hus, rfl, rfl⟩ := h
    obtain ⟨text, htext, rfl⟩ := ih us' hus
    exact ⟨_, .cons (.letter e c hc) htext, rfl⟩
  | case5 => cases h
  | case6 c r hq _ _ hc ih =>
    simp only [Option.bind_eq_bind, Option.bind_eq_some_iff, Option.some.injEq, Prod.mk.injEq,
      Prod.exists] at h
    obtain ⟨us', rest', hus, rfl, rfl⟩ := h
    obtain ⟨text, htext, rfl⟩ := ih us' hus
    rw [not_or, Nat.not_lt] at hc
    exact ⟨_, .cons (.plain c hq hc.1 hc.2) htext, rfl⟩

theorem UnitsText.textUnits? {us : List TextUnit} {text : List Char} (h : UnitsText us text)
    (rest : List Char) : Json.textUnits? (text ++ '"' :: rest) = some (us, rest) := by
  induction h with
  | nil => rfl
  | @cons u us unit text hu hus ih =>
    cases hu with
    | plain c hq hb hc =>
      simp only [List.cons_append, List.nil_append]
      rw [textUnits?_plain c _ hq hb (Nat.not_lt.2 hc), ih]
      rfl
    | letter e c he =>
      have hu : e ≠ 'u' := by
        rintro rfl
        cases he
      simp only [List.cons_append, List.nil_append]
      rw [textUnits?_letter e c _ hu he, ih]
      rfl
    | @code n unit hn =>
      obtain ⟨a, b, c, d, rfl⟩ : ∃ a b c d, unit = ['\\', 'u', a, b, c, d] := by
        cases hn with
        | mk a b c d => exact ⟨a, b, c, d, rfl⟩
      obtain ⟨r, hr⟩ := (hex4?_iff a b c d n).2 hn
      simp only [List.cons_append, List.nil_append, Json.textUnits?, hr, ih, Option.bind_eq_bind,
        Option.bind_some]

/-- Units whose surrogates pair up are a text of their characters. -/
theorem UnitsText.charsText {us : List TextUnit} {text : List Char} (h : UnitsText us text)
    (cs : List Char) (hd : decodeUnits? us = some cs) : CharsText cs text := by
  fun_induction decodeUnits? us generalizing text cs with
  | case1 =>
    cases h
    cases hd
    exact .nil
  | case2 c us ih =>
    obtain ⟨cs, hcs, rfl⟩ := Option.map_eq_some_iff.1 hd
    obtain _ | ⟨hu, hus⟩ := h
    cases hu with
    | plain c hq hb hc => exact .plain c hq hb hc (ih hus cs hcs)
    | letter e c he => exact .letter e c he (ih hus cs hcs)
  | case3 n m us hl ht ih =>
    obtain ⟨cs, hcs, rfl⟩ := Option.map_eq_some_iff.1 hd
    obtain _ | ⟨hu, _ | ⟨hu', hus⟩⟩ := h
    obtain _ | _ | hn := hu
    obtain _ | _ | hm := hu'
    exact .pair hn hm hl ht (ih hus cs hcs)
  | case4 => cases hd
  | case5 => cases hd
  | case6 n m us hl ht ih =>
    obtain ⟨cs, hcs, rfl⟩ := Option.map_eq_some_iff.1 hd
    obtain _ | ⟨hu, hus⟩ := h
    obtain _ | _ | hn := hu
    exact .code hn (by simpa using hl) (by simpa using ht) (ih hus cs hcs)
  | case7 => cases hd
  | case8 n us _ hsingle ih =>
    obtain ⟨cs, hcs, rfl⟩ := Option.map_eq_some_iff.1 hd
    obtain _ | ⟨hu, hus⟩ := h
    obtain _ | _ | hn := hu
    rw [Bool.or_eq_true, not_or] at hsingle
    exact .code hn (by simpa using hsingle.1) (by simpa using hsingle.2) (ih hus cs hcs)

theorem decodeUnits?_single (n : Nat) (us : List TextUnit) (hl : isLead n = false)
    (ht : isTrail n = false) :
    decodeUnits? (.code n :: us) = (decodeUnits? us).map (Char.ofNat n :: ·) := by
  rw [decodeUnits?.eq_def]
  split <;> simp_all

theorem CharsText.units {cs text : List Char} (h : CharsText cs text) :
    ∃ us, UnitsText us text ∧ decodeUnits? us = some cs := by
  induction h with
  | nil => exact ⟨[], .nil, rfl⟩
  | plain c hq hb hc _ ih =>
    obtain ⟨us, hus, hcs⟩ := ih
    exact ⟨_, .cons (.plain c hq hb hc) hus, by rw [decodeUnits?, hcs, Option.map_some]⟩
  | letter e c he _ ih =>
    obtain ⟨us, hus, hcs⟩ := ih
    exact ⟨_, .cons (.letter e c he) hus, by rw [decodeUnits?, hcs, Option.map_some]⟩
  | code hn hl ht _ ih =>
    obtain ⟨us, hus, hcs⟩ := ih
    exact ⟨_, .cons (.code hn) hus, by rw [decodeUnits?_single _ us hl ht, hcs, Option.map_some]⟩
  | pair hn hm hl ht _ ih =>
    obtain ⟨us, hus, hcs⟩ := ih
    exact ⟨_, .cons (.code hn) (.cons (.code hm) hus),
      by rw [decodeUnits?, if_pos hl, if_pos ht, hcs, Option.map_some]⟩

/-- What is read as a string, its opening quote put back, is a string of the grammar. -/
theorem stringBody?_sound (cs rest : List Char) (s : String)
    (h : stringBody? cs = some (some s, rest)) :
    ∃ text, StringText s ('"' :: text) ∧ cs = text ++ rest := by
  obtain ⟨⟨us, rest'⟩, hus, heq⟩ := Option.map_eq_some_iff.1 h
  simp only [Prod.mk.injEq, Option.map_eq_some_iff] at heq
  obtain ⟨⟨chars, hchars, rfl⟩, rfl⟩ := heq
  obtain ⟨text, htext, rfl⟩ := textUnits?_sound _ _ _ hus
  refine ⟨text ++ ['"'], ⟨text, ?_, rfl⟩, by simp⟩
  rw [String.toList_ofList]
  exact htext.charsText chars hchars

/-- A string of the grammar is read to its closing quote. -/
theorem StringText.stringBody? {s : String} {text : List Char} (h : StringText s text)
    (rest : List Char) :
    ∃ body, text = '"' :: body ∧ Json.stringBody? (body ++ rest) = some (some s, rest) := by
  obtain ⟨body, hbody, rfl⟩ := h
  obtain ⟨us, hus, hcs⟩ := hbody.units
  refine ⟨_, rfl, ?_⟩
  rw [List.append_assoc, List.singleton_append, Json.stringBody?, hus.textUnits?, Option.map_some,
    hcs, Option.map_some, String.ofList_toList]

end CallAudit.Json
