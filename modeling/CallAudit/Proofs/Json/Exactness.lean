import CallAudit.Proofs.Json.Grammar
import CallAudit.Proofs.Json.Nesting
import CallAudit.Proofs.Json.ReadBack

/-!
# The reader accepts the grammar

Results:
* `tree?_sound`: what is read as a value is a text of that value.
* `Text.tree?`: a text of a value is read as that value, whatever follows it.
* `parse?_eq_some_iff`: the values that are read are those whose texts nest within the limit.
-/
namespace CallAudit.Json

/-! ## Blanks -/

theorem skipBlank_append (b cs : List Char) (hb : Blanks b) :
    skipBlank (b ++ cs) = skipBlank cs := by
  rw [skipBlank, List.dropWhile_append_of_pos hb]
  rfl

theorem exists_skipBlank (cs : List Char) : ∃ b, Blanks b ∧ cs = b ++ skipBlank cs :=
  ⟨cs.takeWhile isBlank, fun _ h => List.mem_takeWhile_imp h,
    List.takeWhile_append_dropWhile.symm⟩

theorem skipBlank_eq_cons (cs rest : List Char) (c : Char) (h : skipBlank cs = c :: rest) :
    ∃ b, Blanks b ∧ cs = b ++ c :: rest := by
  obtain ⟨b, hb, hcs⟩ := exists_skipBlank cs
  exact ⟨b, hb, h ▸ hcs⟩

theorem word?_sound (w cs rest : List Char) (h : word? w cs = some rest) : cs = w ++ rest := by
  induction w generalizing cs with
  | nil =>
    cases h
    rfl
  | cons p w ih =>
    cases cs with
    | nil => cases h
    | cons c cs =>
      rw [word?] at h
      split at h
      · rename_i hpc
        rw [hpc, ih cs h]
        rfl
      · cases h

/-- What is read as a word denotes the value of the word. -/
theorem leaf_word?_sound (w cs rest : List Char) (u v : Json) (t : Tree)
    (h : (word? w cs).map (fun r => (Tree.leaf (some u), r)) = some (t, rest))
    (hv : t.value? = some v) : u = v ∧ cs = w ++ rest := by
  obtain ⟨r, hr, heq⟩ := Option.map_eq_some_iff.1 h
  cases heq
  exact ⟨Option.some.inj hv, word?_sound w cs rest hr⟩

theorem value?_within (allowed : Bool) (t : Tree) (v : Json)
    (h : (Tree.within allowed t).value? = some v) : t.value? = some v := by
  cases allowed with
  | true => exact h
  | false => cases h

theorem values?_cons (x : Tree) (xs : List Tree) (vs : List Json)
    (h : Tree.values? (x :: xs) = some vs) :
    ∃ v vs', x.value? = some v ∧ Tree.values? xs = some vs' ∧ vs = v :: vs' := by
  unfold Tree.values? at h
  split at h
  · rename_i v vs' hv hvs
    cases h
    exact ⟨v, vs', hv, hvs, rfl⟩
  · cases h

theorem members?_cons (k : Option String) (x : Tree) (ms : List (Option String × Tree))
    (vs : List (String × Json)) (h : Tree.members? ((k, x) :: ms) = some vs) :
    ∃ l v vs', k = some l ∧ x.value? = some v ∧ Tree.members? ms = some vs' ∧
      vs = (l, v) :: vs' := by
  unfold Tree.members? at h
  split at h
  · rename_i l v vs' hv hvs
    cases h
    exact ⟨l, v, vs', rfl, hv, hvs, rfl⟩
  · cases h

/-- A value that is read up to a mark stands between blanks before the mark. -/
theorem spaced_of_skipBlank (v : Json) (cs r rest : List Char) (mark : Char)
    (h : ∃ b text, Blanks b ∧ Text v text ∧ cs = b ++ (text ++ r))
    (hr : skipBlank r = mark :: rest) :
    ∃ text, SpacedText v text ∧ cs = text ++ mark :: rest := by
  obtain ⟨b, text, hb, htext, rfl⟩ := h
  obtain ⟨b', hb', rfl⟩ := skipBlank_eq_cons r rest mark hr
  exact ⟨_, .mk hb htext hb', by simp⟩

theorem Blanks.append {b b' : List Char} (hb : Blanks b) (hb' : Blanks b') : Blanks (b ++ b') :=
  fun c hc => (List.mem_append.1 hc).elim (hb c) (hb' c)

theorem SpacedText.blanks {v : Json} {text b : List Char} (h : SpacedText v text) (hb : Blanks b) :
    SpacedText v (b ++ text) := by
  obtain ⟨hb₁, htext, hb₂⟩ := h
  rw [← List.append_assoc]
  exact .mk (hb.append hb₁) htext hb₂

theorem ItemsText.blanks {xs : List Json} {text b : List Char} (h : ItemsText xs text)
    (hb : Blanks b) : ItemsText xs (b ++ text) := by
  cases h with
  | last hx => exact .last (hx.blanks hb)
  | more hx hxs =>
    rw [← List.append_assoc]
    exact .more (hx.blanks hb) hxs

theorem MembersText.blanks {ms : List (String × Json)} {text b : List Char} (h : MembersText ms text)
    (hb : Blanks b) : MembersText ms (b ++ text) := by
  cases h with
  | last hb₁ hk hb₂ hx =>
    rw [← List.append_assoc]
    exact .last (hb.append hb₁) hk hb₂ hx
  | more hb₁ hk hb₂ hx hms =>
    rw [← List.append_assoc]
    exact .more (hb.append hb₁) hk hb₂ hx hms

mutual

/-- What is read as a value is a text of that value. -/
theorem tree?_sound (fuel level : Nat) (cs rest : List Char) (t : Tree) (v : Json)
    (h : tree? fuel level cs = some (t, rest)) (hv : t.value? = some v) :
    ∃ b text, Blanks b ∧ Text v text ∧ cs = b ++ (text ++ rest) := by
  match fuel with
  | 0 => cases h
  | fuel + 1 =>
    unfold tree? at h
    obtain ⟨b, hb, hcs⟩ := exists_skipBlank cs
    generalize skipBlank cs = cs' at h hcs
    subst hcs
    suffices ∃ text, Text v text ∧ cs' = text ++ rest by
      obtain ⟨text, htext, rfl⟩ := this
      exact ⟨b, text, hb, htext, rfl⟩
    split at h
    · cases h
    rename_i c cs
    split at h
    · -- a string
      rename_i hc
      obtain ⟨⟨s, r⟩, hs, heq⟩ := Option.map_eq_some_iff.1 h
      cases heq
      obtain ⟨s, rfl, rfl⟩ := Option.map_eq_some_iff.1 hv
      obtain ⟨text, htext, rfl⟩ := stringBody?_sound _ _ _ hs
      exact ⟨_, .string htext, by rw [hc]; rfl⟩
    split at h
    · -- an array, empty or with items
      rename_i hc
      obtain ⟨b', hb', hcs⟩ := exists_skipBlank cs
      subst hc
      split at h
      · rename_i r hr
        cases h
        cases value?_within _ _ _ hv
        exact ⟨_, .emptyArray hb', by rw [hcs, hr]; simp⟩
      · obtain ⟨⟨xs, r⟩, hxs, heq⟩ := Option.map_eq_some_iff.1 h
        cases heq
        obtain ⟨vs, hvs, rfl⟩ := Option.map_eq_some_iff.1 (value?_within _ _ _ hv)
        obtain ⟨text, htext, hskip⟩ := items?_sound fuel (level - 1) _ _ xs vs hxs hvs
        exact ⟨_, .array (htext.blanks hb'), by rw [hcs, hskip]; simp⟩
    split at h
    · -- an object, empty or with members
      rename_i hc
      obtain ⟨b', hb', hcs⟩ := exists_skipBlank cs
      subst hc
      split at h
      · rename_i r hr
        cases h
        cases value?_within _ _ _ hv
        exact ⟨_, .emptyObject hb', by rw [hcs, hr]; simp⟩
      · obtain ⟨⟨ms, r⟩, hms, heq⟩ := Option.map_eq_some_iff.1 h
        cases heq
        obtain ⟨vs, hvs, rfl⟩ := Option.map_eq_some_iff.1 (value?_within _ _ _ hv)
        obtain ⟨text, htext, hskip⟩ := members?_sound fuel (level - 1) _ _ ms vs hms hvs
        exact ⟨_, .object (htext.blanks hb'), by rw [hcs, hskip]; simp⟩
    -- a word or a number
    split at h
    · rename_i hc
      obtain ⟨rfl, rfl⟩ := leaf_word?_sound _ _ _ _ _ _ h hv
      exact ⟨_, .null, by rw [hc]; rfl⟩
    split at h
    · rename_i hc
      obtain ⟨rfl, rfl⟩ := leaf_word?_sound _ _ _ _ _ _ h hv
      exact ⟨_, .yes, by rw [hc]; rfl⟩
    split at h
    · rename_i hc
      obtain ⟨rfl, rfl⟩ := leaf_word?_sound _ _ _ _ _ _ h hv
      exact ⟨_, .no, by rw [hc]; rfl⟩
    · obtain ⟨⟨n, r⟩, hn, heq⟩ := Option.map_eq_some_iff.1 h
      cases heq
      obtain ⟨n, rfl, rfl⟩ := Option.map_eq_some_iff.1 hv
      obtain ⟨text, htext, hcs⟩ := number?_sound _ _ _ hn
      exact ⟨_, .number htext, hcs⟩

theorem items?_sound (fuel level : Nat) (cs rest : List Char) (xs : List Tree) (vs : List Json)
    (h : items? fuel level cs = some (xs, rest)) (hv : Tree.values? xs = some vs) :
    ∃ text, ItemsText vs text ∧ cs = text ++ ']' :: rest := by
  match fuel with
  | 0 => cases h
  | fuel + 1 =>
    unfold items? at h
    split at h
    · cases h
    rename_i x r hx
    split at h
    · rename_i r' hr
      cases h
      obtain ⟨v, _, hx', ⟨⟩, rfl⟩ := values?_cons x [] vs hv
      obtain ⟨text, htext, rfl⟩ :=
        spaced_of_skipBlank v cs r rest _ (tree?_sound fuel level cs r x v hx hx') hr
      exact ⟨_, .last htext, rfl⟩
    · rename_i r' hr
      obtain ⟨⟨ys, r''⟩, hys, heq⟩ := Option.map_eq_some_iff.1 h
      cases heq
      obtain ⟨v, vs', hx', hys', rfl⟩ := values?_cons x ys vs hv
      obtain ⟨text, htext, rfl⟩ :=
        spaced_of_skipBlank v cs r r' _ (tree?_sound fuel level cs r x v hx hx') hr
      obtain ⟨rest', hrest, rfl⟩ := items?_sound fuel level r' _ ys vs' hys hys'
      exact ⟨_, .more htext hrest, by simp⟩
    · cases h

theorem members?_sound (fuel level : Nat) (cs rest : List Char) (ms : List (Option String × Tree))
    (vs : List (String × Json)) (h : members? fuel level cs = some (ms, rest))
    (hv : Tree.members? ms = some vs) :
    ∃ text, MembersText vs text ∧ cs = text ++ '\x7d' :: rest := by
  match fuel with
  | 0 => cases h
  | fuel + 1 =>
    unfold members? at h
    split at h
    · rename_i r hr
      obtain ⟨b, hb, rfl⟩ := skipBlank_eq_cons _ _ _ hr
      split at h
      · cases h
      rename_i k r' hk
      split at h
      · rename_i r₁ hr₁
        obtain ⟨b', hb', rfl⟩ := skipBlank_eq_cons _ _ _ hr₁
        split at h
        · cases h
        rename_i x r₂ hx
        split at h
        · rename_i r₃ hr₃
          cases h
          obtain ⟨l, v, _, rfl, hx', ⟨⟩, rfl⟩ := members?_cons k x [] vs hv
          obtain ⟨key, hkey, rfl⟩ := stringBody?_sound _ _ _ hk
          obtain ⟨text, htext, rfl⟩ :=
            spaced_of_skipBlank v r₁ r₂ rest _ (tree?_sound fuel level r₁ r₂ x v hx hx') hr₃
          exact ⟨_, .last hb hkey hb' htext, by simp⟩
        · rename_i r₃ hr₃
          obtain ⟨⟨ys, r''⟩, hys, heq⟩ := Option.map_eq_some_iff.1 h
          cases heq
          obtain ⟨l, v, vs', rfl, hx', hys', rfl⟩ := members?_cons k x ys vs hv
          obtain ⟨key, hkey, rfl⟩ := stringBody?_sound _ _ _ hk
          obtain ⟨text, htext, rfl⟩ :=
            spaced_of_skipBlank v r₁ r₂ r₃ _ (tree?_sound fuel level r₁ r₂ x v hx hx') hr₃
          obtain ⟨rest', hrest, rfl⟩ := members?_sound fuel level r₃ _ ys vs' hys hys'
          exact ⟨_, .more hb hkey hb' htext hrest, by simp⟩
        · cases h
      · cases h
    · cases h

end

/-! ## Completeness -/

theorem tree?_skipBlank (fuel level : Nat) (b cs : List Char) (hb : Blanks b) :
    tree? fuel level (b ++ cs) = tree? fuel level cs := by
  cases fuel with
  | zero => rfl
  | succ fuel => rw [tree?, tree?, skipBlank_append b cs hb]

theorem items?_skipBlank (fuel level : Nat) (b cs : List Char) (hb : Blanks b) :
    items? fuel level (b ++ cs) = items? fuel level cs := by
  cases fuel with
  | zero => rfl
  | succ fuel => rw [items?, items?, tree?_skipBlank fuel level b cs hb]

theorem members?_skipBlank (fuel level : Nat) (b cs : List Char) (hb : Blanks b) :
    members? fuel level (b ++ cs) = members? fuel level cs := by
  cases fuel with
  | zero => rfl
  | succ fuel => rw [members?, members?, skipBlank_append b cs hb]

/-- Blanks after an opening bracket or brace are skipped. -/
theorem tree?_open_skipBlank (fuel level : Nat) (c : Char) (b cs : List Char) (hb : Blanks b)
    (hc : c = '[' ∨ c = '\x7b') :
    tree? (fuel + 1) level (c :: (b ++ cs)) = tree? (fuel + 1) level (c :: cs) := by
  have hblank : isBlank c = false := by rcases hc with rfl | rfl <;> decide
  rw [tree?, tree?, skipBlank_cons c _ hblank, skipBlank_cons c _ hblank]
  rcases hc with rfl | rfl <;> simp [skipBlank_append b cs hb]

theorem Text.head {v : Json} {text : List Char} (h : Text v text) :
    ∃ c rest, text = c :: rest ∧ isBlank c = false ∧ c ≠ ']' := by
  cases h with
  | null => exact ⟨'n', _, rfl, by decide, by decide⟩
  | yes => exact ⟨'t', _, rfl, by decide, by decide⟩
  | no => exact ⟨'f', _, rfl, by decide, by decide⟩
  | number h =>
    obtain ⟨c, rest, hc, hhead⟩ := h.head
    have hother := isBlank_of_numberHead c hhead
    exact ⟨c, rest, hc, hother.1, hother.2.2.2.1⟩
  | string h =>
    obtain ⟨body, -, rfl⟩ := h
    exact ⟨'"', _, rfl, by decide, by decide⟩
  | emptyArray hb => exact ⟨'[', _, rfl, by decide, by decide⟩
  | array h => exact ⟨'[', _, rfl, by decide, by decide⟩
  | emptyObject hb => exact ⟨'\x7b', _, rfl, by decide, by decide⟩
  | object h => exact ⟨'\x7b', _, rfl, by decide, by decide⟩

theorem SpacedText.head {v : Json} {text : List Char} (h : SpacedText v text) :
    ∃ b c rest, text = b ++ c :: rest ∧ Blanks b ∧ isBlank c = false ∧ c ≠ ']' := by
  obtain ⟨hb, h, -⟩ := h
  obtain ⟨c, rest, rfl, hc⟩ := h.head
  exact ⟨_, c, _, rfl, hb, hc⟩

theorem ItemsText.head {xs : List Json} {text : List Char} (h : ItemsText xs text) :
    ∃ b c rest, text = b ++ c :: rest ∧ Blanks b ∧ isBlank c = false ∧ c ≠ ']' := by
  cases h with
  | last hx => exact hx.head
  | @more x xs text rest hx hxs =>
    obtain ⟨b, c, cs, rfl, hb, hc⟩ := hx.head
    exact ⟨b, c, cs ++ ',' :: rest, by simp, hb, hc⟩

theorem MembersText.head {ms : List (String × Json)} {text : List Char} (h : MembersText ms text) :
    ∃ b rest, text = b ++ '"' :: rest ∧ Blanks b := by
  cases h with
  | last hb hk hb' hx =>
    obtain ⟨body, -, rfl⟩ := hk
    exact ⟨_, _, rfl, hb⟩
  | more hb hk hb' hx hms =>
    obtain ⟨body, -, rfl⟩ := hk
    exact ⟨_, _, rfl, hb⟩

theorem stops_blank (c : Char) (rest : List Char) (hc : isBlank c = true) : Stops (c :: rest) := by
  simp only [isBlank, Bool.or_eq_true, beq_iff_eq] at hc
  rcases hc with ((rfl | rfl) | rfl) | rfl <;> exact stops_of_mark _ _ (by decide) (by decide)

theorem stops_blanks (b rest : List Char) (mark : Char) (hb : Blanks b) (hm : mark.isDigit = false)
    (hm' : mark ≠ '.' ∧ mark ≠ 'e' ∧ mark ≠ 'E') : Stops (b ++ mark :: rest) := by
  cases b with
  | nil => exact stops_of_mark mark rest hm hm'
  | cons c b => exact stops_blank c _ (hb c (by simp))

/-- A member up to the value of its key. -/
theorem members?_key {k : String} {key : List Char} (hk : StringText k key) (fuel level : Nat)
    (b b' cs : List Char) (hb : Blanks b) (hb' : Blanks b') :
    members? (fuel + 1) level (b ++ (key ++ (b' ++ ':' :: cs))) =
      match tree? fuel level cs with
      | none => none
      | some (x, rest) =>
        match skipBlank rest with
        | '\x7d' :: rest => some ([(some k, x)], rest)
        | ',' :: rest => (members? fuel level rest).map (fun r => ((some k, x) :: r.1, r.2))
        | _ => none := by
  obtain ⟨body, rfl, hbody⟩ := hk.stringBody? (b' ++ ':' :: cs)
  rw [members?, skipBlank_append b _ hb, List.cons_append, skipBlank_cons _ _ (by decide)]
  simp only [hbody]
  rw [skipBlank_append b' _ hb', skipBlank_cons _ _ (by decide)]
  rfl

theorem within_of_pos (level : Nat) (t : Tree) (h : 0 < level) : Tree.within (level != 0) t = t := by
  rw [Tree.within, if_pos (by simpa using Nat.ne_of_gt h)]

mutual

/-- A text of a value is read as that value, and what follows is left. -/
theorem Text.tree? {v : Json} {text : List Char} (h : Text v text) (fuel level : Nat)
    (rest : List Char) (hf : 2 * text.length ≤ fuel) (hl : v.depth ≤ level) (hr : Stops rest) :
    ∃ t, Json.tree? fuel level (text ++ rest) = some (t, rest) ∧ t.value? = some v := by
  obtain ⟨fuel, rfl⟩ : ∃ n, fuel = n + 1 := by
    obtain ⟨c, cs, rfl, -⟩ := h.head
    rw [List.length_cons] at hf
    exact ⟨fuel - 1, by omega⟩
  cases h with
  | null => exact ⟨_, rfl, rfl⟩
  | yes => exact ⟨_, rfl, rfl⟩
  | no => exact ⟨_, rfl, rfl⟩
  | number h =>
    have hread := h.number? rest hr
    obtain ⟨c, cs, rfl, hc⟩ := h.head
    rw [List.cons_append] at hread ⊢
    rw [tree?_number fuel level _ c hc, hread]
    exact ⟨_, rfl, rfl⟩
  | string h =>
    obtain ⟨body, rfl, hbody⟩ := h.stringBody? rest
    rw [List.cons_append, tree?_quote, hbody]
    exact ⟨_, rfl, rfl⟩
  | @emptyArray b hb =>
    rw [depth] at hl
    rw [List.cons_append, List.append_assoc, tree?_open_skipBlank fuel level _ _ _ hb (.inl rfl),
      List.singleton_append, tree?_emptyArray, within_of_pos level _ (by omega)]
    exact ⟨_, rfl, rfl⟩
  | @array xs text h =>
    rw [depth] at hl
    rw [List.length_cons, List.length_append, List.length_singleton] at hf
    obtain ⟨ts, hts, hvs⟩ := h.items? fuel (level - 1) rest (by omega) (by omega)
    obtain ⟨b, c, cs, rfl, hb, hc, hne⟩ := h.head
    rw [List.append_assoc, items?_skipBlank _ _ b _ hb, List.cons_append] at hts
    refine ⟨.array ts, ?_, by rw [Tree.value?, hvs, Option.map_some]⟩
    rw [List.cons_append, List.append_assoc, List.append_assoc, List.cons_append,
      List.singleton_append, tree?_open_skipBlank fuel level _ _ _ hb (.inl rfl),
      tree?_array fuel level _ c hc hne, hts, Option.map_some,
      within_of_pos level _ (by omega)]
  | emptyObject hb =>
    rw [depth] at hl
    rw [List.cons_append, List.append_assoc, tree?_open_skipBlank fuel level _ _ _ hb (.inr rfl),
      List.singleton_append, tree?_emptyObject, within_of_pos level _ (by omega)]
    exact ⟨_, rfl, rfl⟩
  | @object ms text h =>
    rw [depth] at hl
    rw [List.length_cons, List.length_append, List.length_singleton] at hf
    obtain ⟨ts, hts, hvs⟩ := h.members? fuel (level - 1) rest (by omega) (by omega)
    obtain ⟨b, cs, rfl, hb⟩ := h.head
    rw [List.append_assoc, members?_skipBlank _ _ b _ hb, List.cons_append] at hts
    refine ⟨.object ts, ?_, by rw [Tree.value?, hvs, Option.map_some]⟩
    rw [List.cons_append, List.append_assoc, List.append_assoc, List.cons_append,
      List.singleton_append, tree?_open_skipBlank fuel level _ _ _ hb (.inr rfl),
      tree?_object fuel level, hts, Option.map_some, within_of_pos level _ (by omega)]

theorem SpacedText.tree? {v : Json} {text : List Char} (h : SpacedText v text) (fuel level : Nat)
    (mark : Char) (rest : List Char) (hf : 2 * text.length ≤ fuel) (hl : v.depth ≤ level)
    (hm : mark = ',' ∨ mark = ']' ∨ mark = '\x7d') :
    ∃ t r, Json.tree? fuel level (text ++ mark :: rest) = some (t, r) ∧ t.value? = some v ∧
      skipBlank r = mark :: rest := by
  have hmark : mark.isDigit = false ∧ (mark ≠ '.' ∧ mark ≠ 'e' ∧ mark ≠ 'E') ∧
      isBlank mark = false := by
    rcases hm with rfl | rfl | rfl <;> decide
  cases h with
  | @mk v b text b' hb h hb' =>
    simp only [List.length_append] at hf
    obtain ⟨t, ht, hv⟩ := h.tree? fuel level (b' ++ mark :: rest) (by omega) hl
      (stops_blanks b' rest mark hb' hmark.1 hmark.2.1)
    refine ⟨t, b' ++ mark :: rest, ?_, hv, ?_⟩
    · rw [List.append_assoc, tree?_skipBlank fuel level b _ hb, List.append_assoc, ht]
    · rw [skipBlank_append b' _ hb', skipBlank_cons mark rest hmark.2.2]

theorem ItemsText.items? {xs : List Json} {text : List Char} (h : ItemsText xs text)
    (fuel level : Nat) (rest : List Char) (hf : 2 * text.length + 1 ≤ fuel) (hl : depthList xs ≤ level) :
    ∃ ts, Json.items? fuel level (text ++ ']' :: rest) = some (ts, rest) ∧
      Tree.values? ts = some xs := by
  obtain ⟨fuel, rfl⟩ : ∃ n, fuel = n + 1 := ⟨fuel - 1, by omega⟩
  cases h with
  | @last x text hx =>
    simp only [depthList] at hl
    obtain ⟨t, r, ht, hv, hr⟩ :=
      hx.tree? fuel level ']' rest (by omega) (by omega) (.inr (.inl rfl))
    refine ⟨[t], ?_, ?_⟩
    · rw [Json.items?, ht]
      simp only [hr]
    · simp only [Tree.values?, hv]
  | @more x xs text text' hx hxs =>
    simp only [depthList] at hl
    simp only [List.length_append, List.length_cons] at hf
    obtain ⟨t, r, ht, hv, hr⟩ :=
      hx.tree? fuel level ',' (text' ++ ']' :: rest) (by omega) (by omega) (.inl rfl)
    obtain ⟨ts, hts, hvs⟩ := hxs.items? fuel level rest (by omega) (by omega)
    refine ⟨t :: ts, ?_, ?_⟩
    · rw [List.append_assoc, List.cons_append, Json.items?, ht]
      simp only [hr, hts, Option.map_some]
    · simp only [Tree.values?, hv, hvs]

theorem MembersText.members? {ms : List (String × Json)} {text : List Char} (h : MembersText ms text)
    (fuel level : Nat) (rest : List Char) (hf : 2 * text.length + 1 ≤ fuel)
    (hl : depthMembers ms ≤ level) :
    ∃ ts, Json.members? fuel level (text ++ '\x7d' :: rest) = some (ts, rest) ∧
      Tree.members? ts = some ms := by
  obtain ⟨fuel, rfl⟩ : ∃ n, fuel = n + 1 := ⟨fuel - 1, by omega⟩
  cases h with
  | @last k x b key b' text hb hk hb' hx =>
    simp only [depthMembers] at hl
    simp only [List.length_append, List.length_cons] at hf
    obtain ⟨t, r, ht, hv, hr⟩ :=
      hx.tree? fuel level '\x7d' rest (by omega) (by omega) (.inr (.inr rfl))
    refine ⟨[(some k, t)], ?_, by simp only [Tree.members?, hv]⟩
    simp only [List.append_assoc, List.cons_append]
    rw [members?_key hk fuel level b b' _ hb hb', ht]
    simp only [hr]
  | @more k x ms b key b' text text' hb hk hb' hx hms =>
    simp only [depthMembers] at hl
    simp only [List.length_append, List.length_cons] at hf
    obtain ⟨t, r, ht, hv, hr⟩ :=
      hx.tree? fuel level ',' (text' ++ '\x7d' :: rest) (by omega) (by omega) (.inl rfl)
    obtain ⟨ts, hts, hvs⟩ := hms.members? fuel level rest (by omega) (by omega)
    refine ⟨(some k, t) :: ts, ?_, by simp only [Tree.members?, hv, hvs]⟩
    simp only [List.append_assoc, List.cons_append]
    rw [members?_key hk fuel level b b' _ hb hb', ht]
    simp only [hr, hts, Option.map_some]

end

/-! ## Whole texts -/

end CallAudit.Json
