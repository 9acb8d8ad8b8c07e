import CallAudit.Principal.Basic
import CallAudit.Proofs.Text.LetterCase

/-!
# Leads

A lead is taken off a header value character by character. It could as well be cut off by its size: at the
byte offset where a head as long as the lead ends, if that is between two characters, and then the head is
compared. That the sizes are those of two different texts does no harm. A head that is the lead in another
case of the letters is just as long, so a cut that is refused, beyond the end or inside a character, loses
no match; and two heads of one value that are equally long are equal, so there is one rest at most.

Results:
* `cutLead?`: the cut by size.
* `cutLead?_eq_some_iff`: what is left, if it is cut off.
* `strip?_exact`: taking a lead off and cutting it off are the same, and depend on the lead only up to
  ASCII case.
-/
namespace CallAudit

namespace Ascii

/-- What follows the head of `value` that is as long in bytes as `lead`, if that head ends between two
characters and is the lead up to ASCII case. -/
def cutLead? (lead value : String) : Option String :=
  if h : String.Pos.Raw.IsValid value ⟨lead.utf8ByteSize⟩ then
    let cut := value.pos ⟨lead.utf8ByteSize⟩ h
    if Same (value.sliceTo cut).copy lead then some (value.sliceFrom cut).copy else none
  else none

theorem isValid_append (head rest : String) :
    String.Pos.Raw.IsValid (head ++ rest) ⟨head.utf8ByteSize⟩ :=
  String.Pos.Raw.isValid_iff_exists_append.2 ⟨head, rest, rfl, rfl⟩

/-- Texts that begin a value and are equally long are equal, and so is what follows. -/
theorem append_inj_of_size {head rest head' rest' : String} (h : head ++ rest = head' ++ rest')
    (hsize : head.utf8ByteSize = head'.utf8ByteSize) : head = head' ∧ rest = rest' := by
  let cut := (head ++ rest).pos ⟨head.utf8ByteSize⟩ (isValid_append head rest)
  have hcut : cut.Splits head rest := ⟨rfl, rfl⟩
  have hcut' : cut.Splits head' rest' :=
    ⟨h, congrArg String.Pos.Raw.mk hsize⟩
  exact hcut.eq hcut'

theorem cutLead?_eq_some_iff (lead value rest : String) :
    cutLead? lead value = some rest ↔ ∃ head, value = head ++ rest ∧ Same head lead := by
  unfold cutLead?
  constructor
  · intro h
    split at h
    · rename_i hvalid
      dsimp only at h
      split at h
      · rename_i hsame
        cases h
        exact ⟨_, (value.pos _ hvalid).splits.eq_append, hsame⟩
      · cases h
    · cases h
  · rintro ⟨head, rfl, hsame⟩
    have hsize := utf8ByteSize_of_same hsame
    have hvalid : String.Pos.Raw.IsValid (head ++ rest) ⟨lead.utf8ByteSize⟩ :=
      hsize ▸ isValid_append head rest
    rw [dif_pos hvalid]
    have hcut : ((head ++ rest).pos ⟨lead.utf8ByteSize⟩ hvalid).Splits head rest :=
      ⟨rfl, congrArg String.Pos.Raw.mk hsize.symm⟩
    obtain ⟨hhead, hrest⟩ := (String.Pos.splits _).eq hcut
    simp only [hhead, hrest, if_pos hsame]

end Ascii

namespace JwtSource

open Ascii (Same)

theorem strip?_eq_cutLead? (s : JwtSource) (value : String) :
    s.strip? value = Ascii.cutLead? s.lead value := by
  refine Option.ext fun rest => ?_
  rw [strip?, Ascii.stripLead?_eq_some_iff, Ascii.cutLead?_eq_some_iff]

/-- The head of a value that a source takes off: its lead, in any case of the letters of ASCII. -/
def Leads (s : JwtSource) (head : String) : Prop :=
  List.Forall₂ Ascii.Variants head.toList s.lead.toList

theorem strip?_eq_some_iff (s : JwtSource) (value rest : String) :
    s.strip? value = some rest ↔ ∃ head, value = head ++ rest ∧ s.Leads head := by
  simp only [strip?, Ascii.stripLead?_eq_some_iff, Leads, Ascii.same_iff]

/-- A value that is too short or has a character across the offset has no such head. -/
theorem strip?_of_not_isValid (s : JwtSource) (value : String)
    (h : ¬ String.Pos.Raw.IsValid value ⟨s.lead.utf8ByteSize⟩) : s.strip? value = none := by
  rw [strip?_eq_cutLead?, Ascii.cutLead?, dif_neg h]

/-- **Leads are taken off exactly.** It makes no difference whether the lead is taken off character by
character or cut off at its size in bytes. Something is left exactly if the value is a head, the lead up to
ASCII case, and what is left; head and rest are then the only ones. Otherwise nothing is left, and so it is
if the value is shorter than the lead or has a character across the offset where the lead would end. Two
sources whose leads are the same up to ASCII case leave the same of every value. -/
theorem strip?_exact (s : JwtSource) (value : String) :
    s.strip? value = Ascii.cutLead? s.lead value ∧
    (∀ rest, s.strip? value = some rest ↔ ∃ head, value = head ++ rest ∧ s.Leads head) ∧
    (∀ head rest head' rest', value = head ++ rest → s.Leads head → value = head' ++ rest' →
      s.Leads head' → head = head' ∧ rest = rest') ∧
    (s.strip? value = none ↔ ∀ head rest, value = head ++ rest → ¬ s.Leads head) ∧
    (value.utf8ByteSize < s.lead.utf8ByteSize → s.strip? value = none) ∧
    (¬ String.Pos.Raw.IsValid value ⟨s.lead.utf8ByteSize⟩ → s.strip? value = none) ∧
    ∀ s' : JwtSource, s.Leads s'.lead → s'.strip? value = s.strip? value := by
  have hsize : ∀ head, s.Leads head → head.utf8ByteSize = s.lead.utf8ByteSize := fun head h =>
    Ascii.utf8ByteSize_of_same ((Ascii.same_iff head s.lead).2 h)
  refine ⟨s.strip?_eq_cutLead? value, s.strip?_eq_some_iff value, ?_, ?_, fun hshort => ?_,
    s.strip?_of_not_isValid value, fun s' hs => Option.ext fun rest => ?_⟩
  · intro head rest head' rest' hvalue hhead hvalue' hhead'
    exact Ascii.append_inj_of_size (hvalue.symm.trans hvalue')
      ((hsize head hhead).trans (hsize head' hhead').symm)
  · rw [Option.eq_none_iff_forall_ne_some]
    simp only [ne_eq, strip?_eq_some_iff, not_exists, not_and]
    exact forall_comm
  · exact s.strip?_of_not_isValid value fun h =>
      absurd (String.Pos.Raw.IsValid.le_utf8ByteSize h) (Nat.not_le.2 hshort)
  · have hsame : Same s'.lead s.lead := (Ascii.same_iff _ _).2 hs
    rw [strip?_eq_some_iff, strip?_eq_some_iff]
    refine exists_congr fun head => and_congr_right fun _ => ?_
    rw [Leads, Leads, ← Ascii.same_iff, ← Ascii.same_iff, Same, Same, hsame]

/-- A lead with a letter outside ASCII is taken off in another case of its ASCII letters, and is not found
where its size ends inside a character. -/
theorem strip?_exact_accented :
    let s : JwtSource := ⟨"x-token", "Jeton né "⟩
    s.strip? "JETON Né e30" = some "e30" ∧ s.strip? "jeton nÉ e30" = none ∧
      s.strip? "Jeton né€e30" = none ∧ s.strip? "Jeton" = none ∧
      (⟨"", "jETON né "⟩ : JwtSource).strip? "JETON Né e30" = some "e30" := by
  intro s
  obtain ⟨-, hsome, -, -, -, -, hcase⟩ := s.strip?_exact "JETON Né e30"
  obtain ⟨hcut, -⟩ := s.strip?_exact "jeton nÉ e30"
  obtain ⟨-, -, -, -, -, hacross, -⟩ := s.strip?_exact "Jeton né€e30"
  obtain ⟨-, -, -, -, hshort, -⟩ := s.strip?_exact "Jeton"
  have hfound : s.strip? "JETON Né e30" = some "e30" :=
    (hsome "e30").2 ⟨"JETON Né ", by decide, by unfold Leads; decide⟩
  refine ⟨hfound, hcut.trans (by decide +kernel), hacross (by decide), hshort (by decide), ?_⟩
  exact (hcase ⟨"", "jETON né "⟩ (by unfold Leads; decide)).trans hfound

end JwtSource

end CallAudit
