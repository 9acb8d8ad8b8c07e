import CallAudit.Principal.Base64Url
import CallAudit.Proofs.Text.Bytes

/-!
# One text for each byte string

The decoder takes symbols as groups of six bits. The groups of a byte string are `Whole`: no group stands
alone at the end, and the last one has no bit set that belongs to no byte. Whole groups and byte strings
correspond, three bytes to four groups, so what the decoder accepts is what the encoder gives.

Results:
* `pack_unpack`, `unpack_pack`: bytes and whole groups are turned into each other.
* `decode_eq_ok`: the decoder accepts bytes of the alphabet that stand for whole groups.
* `decode_text`: a text is accepted exactly if it is the text of what it is decoded to.
-/
namespace CallAudit.Base64Url

/-! ## The alphabet -/

/-- The byte of the symbol of six bits. -/
def symbolByte (n : Nat) : UInt8 := UInt8.ofNat (symbol n).toNat

theorem utf8EncodeChar_symbol (n : Nat) (h : n < 64) :
    String.utf8EncodeChar (symbol n) = [symbolByte n] := by
  have : ∀ n < 64, String.utf8EncodeChar (symbol n) = [symbolByte n] := by decide
  exact this n h

theorem symbol_ne (n : Nat) (h : n < 64) : symbol n ≠ '.' ∧ symbol n ≠ '=' := by
  have : ∀ n < 64, symbol n ≠ '.' ∧ symbol n ≠ '=' := by decide
  exact this n h

theorem sextet?_symbolByte (n : Nat) (h : n < 64) : sextet? (symbolByte n) = some n := by
  have : ∀ n < 64, sextet? (symbolByte n) = some n := by decide
  exact this n h

theorem sextet?_eq_some (b : UInt8) (n : Nat) (h : sextet? b = some n) :
    n < 64 ∧ b = symbolByte n := by
  have : ∀ b : Fin 256, ∀ n ∈ sextet? (UInt8.ofFin b), n < 64 ∧ UInt8.ofFin b = symbolByte n := by
    decide +kernel
  exact this b.toFin n h

/-! ## Groups of six bits -/

/-- The groups of a byte string, the last one filled up with zeros. -/
def unpack : List UInt8 → List Nat
  | a :: b :: c :: rest =>
    let n := (a.toNat * 256 + b.toNat) * 256 + c.toNat
    n / 262144 :: n / 4096 % 64 :: n / 64 % 64 :: n % 64 :: unpack rest
  | [a, b] =>
    let n := a.toNat * 256 + b.toNat
    [n / 1024, n / 16 % 64, n * 4 % 64]
  | [a] => [a.toNat / 4, a.toNat * 16 % 64]
  | [] => []

/-- Groups that a byte string has: none stands alone at the end, and the bits of the last one that
belong to no byte are zero. -/
def Whole : List Nat → Prop
  | a :: b :: c :: d :: rest => a < 64 ∧ b < 64 ∧ c < 64 ∧ d < 64 ∧ Whole rest
  | [a, b, c] => a < 64 ∧ b < 64 ∧ c < 64 ∧ c % 4 = 0
  | [a, b] => a < 64 ∧ b < 64 ∧ b % 16 = 0
  | [_] => False
  | [] => True

theorem encode_eq_map_unpack (bs : List UInt8) : encode bs = (unpack bs).map symbol := by
  fun_induction unpack bs with
  | case1 a b c rest n ih => rw [encode, ih]; rfl
  | case2 a b n => rfl
  | case3 a => rfl
  | case4 => rfl

theorem whole_unpack (bs : List UInt8) : Whole (unpack bs) := by
  fun_induction unpack bs with
  | case1 a b c rest n ih =>
    have ha := a.toNat_lt
    have hb := b.toNat_lt
    have hc := c.toNat_lt
    exact ⟨by omega, by omega, by omega, by omega, ih⟩
  | case2 a b n =>
    have ha := a.toNat_lt
    have hb := b.toNat_lt
    exact ⟨by omega, by omega, by omega, by omega⟩
  | case3 a =>
    have ha := a.toNat_lt
    exact ⟨by omega, by omega, by omega⟩
  | case4 => trivial

theorem ofNat_eq (b : UInt8) (n : Nat) (h : n % 256 = b.toNat) : UInt8.ofNat n = b := by
  apply UInt8.toNat_inj.1
  rw [UInt8.toNat_ofNat', h]

/-- Packing gives the bytes back. -/
theorem pack_unpack (bs : List UInt8) : pack (unpack bs) = bs := by
  fun_induction unpack bs with
  | case1 a b c rest n ih =>
    have ha := a.toNat_lt
    have hb := b.toNat_lt
    have hc := c.toNat_lt
    rw [pack, ih, ofNat_eq a _ (by omega), ofNat_eq b _ (by omega), ofNat_eq c _ (by omega)]
  | case2 a b n =>
    have ha := a.toNat_lt
    have hb := b.toNat_lt
    rw [pack, ofNat_eq a _ (by omega), ofNat_eq b _ (by omega)]
  | case3 a =>
    have ha := a.toNat_lt
    rw [pack, ofNat_eq a _ (by omega)]
  | case4 => rfl

/-- No two lists of whole groups are packed alike. -/
theorem unpack_pack (gs : List Nat) (h : Whole gs) : unpack (pack gs) = gs := by
  fun_induction Whole gs with
  | case1 a b c d rest ih =>
    obtain ⟨ha, hb, hc, hd, hrest⟩ := h
    rw [pack, unpack, ih hrest]
    simp only [UInt8.toNat_ofNat']
    congr 1
    · omega
    congr 1
    · omega
    congr 1
    · omega
    congr 1
    omega
  | case2 a b c =>
    obtain ⟨ha, hb, hc, hz⟩ := h
    simp only [pack, unpack, UInt8.toNat_ofNat', List.cons.injEq, and_true]
    omega
  | case3 a b =>
    obtain ⟨ha, hb, hz⟩ := h
    simp only [pack, unpack, UInt8.toNat_ofNat', List.cons.injEq, and_true]
    omega
  | case4 => exact h.elim
  | case5 => rfl

theorem spareBits_add_four (n : Nat) : spareBits (n + 4) = spareBits n := by
  simp only [spareBits, Nat.add_mod_right]

theorem whole_iff (gs : List Nat) :
    Whole gs ↔ (∀ g ∈ gs, g < 64) ∧ gs.length % 4 ≠ 1 ∧
      ∀ g ∈ gs.getLast?, g % spareBits gs.length = 0 := by
  fun_induction Whole gs with
  | case1 a b c d rest ih =>
    have hlast : (∀ g ∈ (a :: b :: c :: d :: rest).getLast?,
          g % spareBits (a :: b :: c :: d :: rest).length = 0) ↔
        ∀ g ∈ rest.getLast?, g % spareBits rest.length = 0 := by
      simp only [List.length_cons, spareBits_add_four]
      cases rest with
      | nil => simp [spareBits, Nat.mod_one]
      | cons e rest => simp only [List.getLast?_cons_cons]
    rw [hlast, ih]
    have hlength : (a :: b :: c :: d :: rest).length % 4 = rest.length % 4 :=
      Nat.add_mod_right rest.length 4
    simp only [hlength, List.forall_mem_cons, and_assoc]
  | case2 a b c => simp [spareBits]; omega
  | case3 a b => simp [spareBits]; omega
  | case4 a => simp
  | case5 => simp

/-! ## Decoding -/

theorem foreignByte?_eq_none (bs : List UInt8) (offset : Nat) :
    foreignByte? offset bs = none ↔ ∀ b ∈ bs, (sextet? b).isSome = true := by
  induction bs generalizing offset with
  | nil => simp [foreignByte?]
  | cons b bs ih =>
    unfold foreignByte?
    split
    · rename_i hb
      rw [ih, List.forall_mem_cons, and_iff_right hb]
    · rename_i hb
      simp [hb]

/-- The groups of a text, one for each of its bytes. -/
def groups (bs : List UInt8) : List Nat := bs.map (fun c => (sextet? c).getD 0)

theorem map_symbolByte_groups (bs : List UInt8) (h : ∀ b ∈ bs, (sextet? b).isSome = true) :
    (groups bs).map symbolByte = bs := by
  induction bs with
  | nil => rfl
  | cons b bs ih =>
    obtain ⟨hb, hbs⟩ := List.forall_mem_cons.1 h
    obtain ⟨n, hn⟩ := Option.isSome_iff_exists.1 hb
    rw [groups] at ih ⊢
    rw [List.map_cons, List.map_cons, ih hbs, hn, Option.getD_some, ← (sextet?_eq_some b n hn).2]

theorem groups_map_symbolByte (gs : List Nat) (h : ∀ g ∈ gs, g < 64) :
    groups (gs.map symbolByte) = gs := by
  induction gs with
  | nil => rfl
  | cons g gs ih =>
    obtain ⟨hg, hgs⟩ := List.forall_mem_cons.1 h
    rw [groups] at ih ⊢
    rw [List.map_cons, List.map_cons, ih hgs, sextet?_symbolByte g hg, Option.getD_some]

theorem groups_lt (bs : List UInt8) (h : ∀ b ∈ bs, (sextet? b).isSome = true) :
    ∀ g ∈ groups bs, g < 64 := by
  intro g hg
  obtain ⟨b, hb, rfl⟩ := List.mem_map.1 hg
  obtain ⟨n, hn⟩ := Option.isSome_iff_exists.1 (h b hb)
  rw [hn, Option.getD_some]
  exact (sextet?_eq_some b n hn).1

/-- What decoding accepts: bytes of the alphabet that stand for whole groups. -/
theorem decode_eq_ok (bs out : List UInt8) :
    decode bs = .ok out ↔
      (∀ b ∈ bs, (sextet? b).isSome = true) ∧ Whole (groups bs) ∧ pack (groups bs) = out := by
  unfold decode
  dsimp only
  cases hlast : bs.getLast? with
  | none =>
    rw [List.getLast?_eq_none_iff.1 hlast]
    simp [groups, Whole, pack]
  | some b =>
    dsimp only
    have hlength : (groups bs).length = bs.length := List.length_map _
    have hgroup : (groups bs).getLast? = some ((sextet? b).getD 0) := by
      rw [groups, List.getLast?_map, hlast, Option.map_some]
    have hwhole := whole_iff (groups bs)
    rw [hgroup, hlength] at hwhole
    simp only [Option.mem_some_iff, forall_eq'] at hwhole
    have hmem := List.mem_of_getLast? hlast
    by_cases halphabet : ∀ b ∈ bs, (sextet? b).isSome = true
    · have hb : sextet? b ≠ none := Option.isSome_iff_ne_none.1 (halphabet b hmem)
      have hlt := groups_lt bs halphabet
      rw [if_neg (fun h : _ ∧ _ => hb h.2), (foreignByte?_eq_none bs 0).2 halphabet]
      dsimp only
      split
      · rename_i hlone
        exact ⟨fun h => (by cases h), fun h => absurd hlone (hwhole.1 h.2.1).2.1⟩
      · rename_i hlone
        split
        · rename_i hspare
          exact ⟨fun h => (by cases h), fun h => absurd (hwhole.1 h.2.1).2.2 hspare⟩
        · rename_i hspare
          have hok : Whole (groups bs) := hwhole.2 ⟨hlt, hlone, Decidable.not_not.1 hspare⟩
          exact ⟨fun h => ⟨halphabet, hok, Except.ok.inj h⟩, fun h => congrArg Except.ok h.2.2⟩
    · have hforeign : foreignByte? 0 bs ≠ none := fun h => halphabet ((foreignByte?_eq_none bs 0).1 h)
      obtain ⟨fault, hfault⟩ := Option.ne_none_iff_exists'.1 hforeign
      simp only [halphabet, false_and, iff_false, hfault]
      split <;> simp

/-! ## Texts -/

theorem toUTF8_map_symbol (gs : List Nat) (h : ∀ g ∈ gs, g < 64) :
    (String.ofList (gs.map symbol)).toUTF8.toList = gs.map symbolByte := by
  rw [toList_toUTF8, String.toList_ofList]
  induction gs with
  | nil => rfl
  | cons g gs ih =>
    obtain ⟨hg, hgs⟩ := List.forall_mem_cons.1 h
    rw [List.map_cons, List.flatMap_cons, utf8EncodeChar_symbol g hg, ih hgs, List.singleton_append,
      List.map_cons]

/-- Decoding accepts exactly what encoding gives, so a byte string has one text. -/
theorem decode_text (cs : List Char) (out : List UInt8) :
    decode (String.ofList cs).toUTF8.toList = .ok out ↔ cs = encode out := by
  have hlt := ((whole_iff (unpack out)).1 (whole_unpack out)).1
  rw [decode_eq_ok, encode_eq_map_unpack]
  constructor
  · rintro ⟨halphabet, hwhole, rfl⟩
    rw [← String.ofList_inj, ← toList_toUTF8_inj, toUTF8_map_symbol _ hlt, unpack_pack _ hwhole,
      map_symbolByte_groups _ halphabet]
  · rintro rfl
    rw [toUTF8_map_symbol _ hlt, groups_map_symbolByte _ hlt]
    refine ⟨fun b hb => ?_, whole_unpack out, pack_unpack out⟩
    obtain ⟨g, hg, rfl⟩ := List.mem_map.1 hb
    rw [sextet?_symbolByte g (hlt g hg)]
    rfl

end CallAudit.Base64Url
