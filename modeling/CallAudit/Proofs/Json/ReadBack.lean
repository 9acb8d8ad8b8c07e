import CallAudit.Proofs.Json.NumberText
import CallAudit.Proofs.Json.StringText

/-!
# Written JSON is read back

The reader after the printer. A value within the reader's limit of nesting whose numbers are ones that
JSON texts hold is read back from its text, whatever follows the text.

Results:
* `tree`: the tree that the text of a value is read as; it denotes the value.
* `tree?_chars`: the text of a value is read as its tree, and what follows is left.
* `read?_render`: the same for a whole text.
-/
namespace CallAudit.Json

mutual

/-- The tree of the value's text. -/
def tree : Json → Tree
  | array xs => .array (trees xs)
  | object ms => .object (memberTrees ms)
  | v => .leaf (some v)

def trees : List Json → List Tree
  | [] => []
  | x :: xs => tree x :: trees xs

def memberTrees : List (String × Json) → List (Option String × Tree)
  | [] => []
  | (k, x) :: ms => (some k, tree x) :: memberTrees ms

end

mutual

/-- Every number is one that JSON texts hold. -/
def Sound : Json → Prop
  | number n => n.Sound
  | array xs => SoundItems xs
  | object ms => SoundMembers ms
  | _ => True

def SoundItems : List Json → Prop
  | [] => True
  | x :: xs => Sound x ∧ SoundItems xs

def SoundMembers : List (String × Json) → Prop
  | [] => True
  | (_, x) :: ms => Sound x ∧ SoundMembers ms

end

mutual

theorem value?_tree (v : Json) : (tree v).value? = some v := by
  match v with
  | null | bool _ | number _ | string _ => rfl
  | array xs => simp only [tree, Tree.value?, values?_trees xs, Option.map_some]
  | object ms => simp only [tree, Tree.value?, members?_memberTrees ms, Option.map_some]

theorem values?_trees (xs : List Json) : Tree.values? (trees xs) = some xs := by
  match xs with
  | [] => rfl
  | x :: xs => simp only [trees, Tree.values?, value?_tree x, values?_trees xs]

theorem members?_memberTrees (ms : List (String × Json)) :
    Tree.members? (memberTrees ms) = some ms := by
  match ms with
  | [] => rfl
  | (k, x) :: ms => simp only [memberTrees, Tree.members?, value?_tree x, members?_memberTrees ms]

end

/-! ## First characters -/

theorem skipBlank_cons (c : Char) (cs : List Char) (h : isBlank c = false) :
    skipBlank (c :: cs) = c :: cs := by
  simp [skipBlank, h]

/-- A number starts with a digit or a minus. -/
theorem head_of_number? (cs : List Char) (r : Option Number × List Char) (h : number? cs = some r) :
    ∃ c rest, cs = c :: rest ∧ (c = '-' ∨ c.isDigit = true) := by
  unfold number? at h
  split at h
  rename_i negative rest heq
  split at heq
  · exact ⟨'-', _, rfl, .inl rfl⟩
  · cases heq
    cases hi : integerPart? cs with
    | none => simp [hi] at h
    | some p =>
      unfold integerPart? at hi
      split at hi
      · exact ⟨'0', _, rfl, .inr (by decide)⟩
      · cases cs with
        | nil => cases hi
        | cons c cs =>
          refine ⟨c, cs, rfl, .inr ?_⟩
          by_contra hc
          simp [Digits.span, hc] at hi

theorem text_eq_cons (n : Number) (hn : n.Sound) :
    ∃ c rest, n.text = c :: rest ∧ (c = '-' ∨ c.isDigit = true) := by
  have := number?_text n hn [] (by simp [Stops])
  rw [List.append_nil] at this
  exact head_of_number? _ _ this

/-- What a number starts with starts nothing else. -/
theorem isBlank_of_numberHead (c : Char) (h : c = '-' ∨ c.isDigit = true) :
    isBlank c = false ∧ c ≠ '"' ∧ c ≠ '[' ∧ c ≠ ']' ∧ c ≠ '\x7b' ∧ c ≠ 'n' ∧ c ≠ 't' ∧ c ≠ 'f' := by
  rcases h with rfl | h
  · decide
  · have hc := Char.isDigit_iff_toNat.1 h
    have hne : ∀ d : Char, d.isDigit = false → c ≠ d := by
      rintro d hd rfl
      rw [h] at hd
      cases hd
    refine ⟨?_, hne _ (by decide), hne _ (by decide), hne _ (by decide), hne _ (by decide),
      hne _ (by decide), hne _ (by decide), hne _ (by decide)⟩
    simp [isBlank, hne ' ' (by decide), hne '\n' (by decide), hne '\t' (by decide),
      hne '\r' (by decide)]

/-- A text starts with no blank and no closing bracket. -/
theorem chars_eq_cons (v : Json) (hv : v.Sound) :
    ∃ c rest, chars v = c :: rest ∧ isBlank c = false ∧ c ≠ ']' := by
  match v with
  | null => exact ⟨'n', _, rfl, by decide, by decide⟩
  | bool true => exact ⟨'t', _, rfl, by decide, by decide⟩
  | bool false => exact ⟨'f', _, rfl, by decide, by decide⟩
  | number n =>
    obtain ⟨c, rest, hc, hhead⟩ := text_eq_cons n hv
    have h := isBlank_of_numberHead c hhead
    exact ⟨c, rest, hc, h.1, h.2.2.2.1⟩
  | string s => exact ⟨'"', _, rfl, by decide, by decide⟩
  | array [] => exact ⟨'[', _, rfl, by decide, by decide⟩
  | array (x :: xs) => exact ⟨'[', _, rfl, by decide, by decide⟩
  | object [] => exact ⟨'\x7b', _, rfl, by decide, by decide⟩
  | object ((k, x) :: ms) => exact ⟨'\x7b', _, rfl, by decide, by decide⟩

/-! ## One step of the reader -/

section
variable (fuel level : Nat) (rest : List Char)

theorem tree?_quote : tree? (fuel + 1) level ('"' :: rest) =
    (stringBody? rest).map (fun r => (.leaf (r.1.map Json.string), r.2)) := by
  rw [tree?, skipBlank_cons _ _ (by decide)]
  rfl

theorem tree?_number (c : Char) (h : c = '-' ∨ c.isDigit = true) :
    tree? (fuel + 1) level (c :: rest) =
      (number? (c :: rest)).map (fun r => (.leaf (r.1.map Json.number), r.2)) := by
  obtain ⟨hb, hq, ha, -, ho, hn, ht, hf⟩ := isBlank_of_numberHead c h
  rw [tree?, skipBlank_cons _ _ hb]
  simp only [hq, ha, ho, hn, ht, hf, if_false]

theorem tree?_emptyArray : tree? (fuel + 1) level ('[' :: ']' :: rest) =
    some (Tree.within (level != 0) (.array []), rest) := by
  rw [tree?, skipBlank_cons _ _ (by decide)]
  rfl

theorem tree?_array (c : Char) (hb : isBlank c = false) (hc : c ≠ ']') :
    tree? (fuel + 1) level ('[' :: c :: rest) = (items? fuel (level - 1) (c :: rest)).map
      (fun r => (Tree.within (level != 0) (.array r.1), r.2)) := by
  rw [tree?, skipBlank_cons _ _ (by decide)]
  simp only [show ¬ '[' = '"' by decide, if_false, if_true]
  rw [skipBlank_cons c rest hb]
  split
  · rename_i heq
    simp only [List.cons.injEq] at heq
    exact absurd heq.1 hc
  · rfl

theorem tree?_emptyObject : tree? (fuel + 1) level ('\x7b' :: '\x7d' :: rest) =
    some (Tree.within (level != 0) (.object []), rest) := by
  rw [tree?, skipBlank_cons _ _ (by decide)]
  rfl

theorem tree?_object : tree? (fuel + 1) level ('\x7b' :: '"' :: rest) =
    (members? fuel (level - 1) ('"' :: rest)).map
      (fun r => (Tree.within (level != 0) (.object r.1), r.2)) := by
  rw [tree?, skipBlank_cons _ _ (by decide)]
  rfl

theorem items?_last (cs : List Char) (x : Tree) (h : tree? fuel level cs = some (x, ']' :: rest)) :
    items? (fuel + 1) level cs = some ([x], rest) := by
  rw [items?, h]
  rfl

theorem items?_more (cs : List Char) (x : Tree) (h : tree? fuel level cs = some (x, ',' :: rest)) :
    items? (fuel + 1) level cs = (items? fuel level rest).map (fun r => (x :: r.1, r.2)) := by
  rw [items?, h]
  rfl

theorem members?_last (k : String) (cs : List Char) (x : Tree)
    (h : tree? fuel level cs = some (x, '\x7d' :: rest)) :
    members? (fuel + 1) level (quote k ++ ':' :: cs) = some ([(some k, x)], rest) := by
  rw [members?, quote, List.cons_append, skipBlank_cons _ _ (by decide)]
  simp only [List.append_assoc, List.singleton_append, stringBody?_escape]
  rw [skipBlank_cons _ _ (by decide)]
  simp only [h]
  rfl

theorem members?_more (k : String) (cs : List Char) (x : Tree)
    (h : tree? fuel level cs = some (x, ',' :: rest)) :
    members? (fuel + 1) level (quote k ++ ':' :: cs) =
      (members? fuel level rest).map (fun r => ((some k, x) :: r.1, r.2)) := by
  rw [members?, quote, List.cons_append, skipBlank_cons _ _ (by decide)]
  simp only [List.append_assoc, List.singleton_append, stringBody?_escape]
  rw [skipBlank_cons _ _ (by decide)]
  simp only [h]
  rfl

end

/-! ## Whole values -/

theorem stops_of_mark (c : Char) (rest : List Char) (h : c.isDigit = false)
    (h' : c ≠ '.' ∧ c ≠ 'e' ∧ c ≠ 'E') : Stops (c :: rest) := by
  exact Digits.forall_head?_cons c rest ⟨h, h'⟩

theorem stops_itemsTail (xs : List Json) (rest : List Char) : Stops (itemsTail xs ++ rest) := by
  cases xs with
  | nil => exact stops_of_mark ']' _ (by decide) (by decide)
  | cons x xs => exact stops_of_mark ',' _ (by decide) (by decide)

theorem stops_membersTail (ms : List (String × Json)) (rest : List Char) :
    Stops (membersTail ms ++ rest) := by
  cases ms with
  | nil => exact stops_of_mark '\x7d' _ (by decide) (by decide)
  | cons m ms => exact stops_of_mark ',' _ (by decide) (by decide)

mutual

/-- The text of a value is read as its tree, and what follows is left. Two units of fuel for each
character are enough: one for the value that starts there and one for the list it stands in. -/
theorem tree?_chars (v : Json) (fuel level : Nat) (rest : List Char) (hv : v.Sound)
    (hf : 2 * (chars v).length ≤ fuel) (hl : v.depth ≤ level) (hr : Stops rest) :
    tree? fuel level (chars v ++ rest) = some (tree v, rest) := by
  match v, fuel, hv, hf, hl with
  | v, 0, hv, hf, _ =>
    obtain ⟨c, text, hc, -, -⟩ := chars_eq_cons v hv
    rw [hc, List.length_cons] at hf
    omega
  | null, _ + 1, _, _, _ => rfl
  | bool true, _ + 1, _, _, _ => rfl
  | bool false, _ + 1, _, _, _ => rfl
  | number n, fuel + 1, hv, _, _ =>
    obtain ⟨c, text, hc, hhead⟩ := text_eq_cons n hv
    have hread := number?_text n hv rest hr
    rw [hc, List.cons_append] at hread
    rw [chars, hc, List.cons_append, tree?_number fuel level _ c hhead, hread]
    rfl
  | string s, fuel + 1, _, _, _ =>
    rw [chars, quote, List.cons_append, tree?_quote, List.append_assoc, List.singleton_append,
      stringBody?_escape]
    rfl
  | array [], fuel + 1, _, _, hl =>
    simp only [depth, depthList] at hl
    rw [show chars (array []) = ['[', ']'] from rfl, List.cons_append, List.singleton_append,
      tree?_emptyArray, Tree.within, if_pos (by simpa using (by omega : level ≠ 0))]
    rfl
  | array (x :: xs), fuel + 1, hv, hf, hl =>
    simp only [depth, depthList] at hl
    rw [show chars (array (x :: xs)) = '[' :: (chars x ++ itemsTail xs) from rfl] at hf ⊢
    rw [List.length_cons] at hf
    have hitems := items?_chars x xs fuel (level - 1) rest hv.1 hv.2 (by omega) (by omega) (by omega)
    obtain ⟨c, text, hc, hb, hne⟩ := chars_eq_cons x hv.1
    rw [hc] at hitems ⊢
    simp only [List.cons_append, List.append_assoc] at hitems ⊢
    rw [tree?_array fuel level _ c hb hne, hitems, Option.map_some, Tree.within,
      if_pos (by simpa using (by omega : level ≠ 0))]
    rfl
  | object [], fuel + 1, _, _, hl =>
    simp only [depth, depthMembers] at hl
    rw [show chars (object []) = ['\x7b', '\x7d'] from rfl, List.cons_append, List.singleton_append,
      tree?_emptyObject, Tree.within, if_pos (by simpa using (by omega : level ≠ 0))]
    rfl
  | object ((k, x) :: ms), fuel + 1, hv, hf, hl =>
    simp only [depth, depthMembers] at hl
    rw [show chars (object ((k, x) :: ms)) =
      '\x7b' :: (quote k ++ ':' :: (chars x ++ membersTail ms)) from rfl] at hf ⊢
    rw [List.length_cons] at hf
    have hmembers := members?_chars k x ms fuel (level - 1) rest hv.1 hv.2 (by omega) (by omega)
      (by omega)
    simp only [quote, List.cons_append, List.append_assoc] at hmembers ⊢
    rw [tree?_object, hmembers, Option.map_some, Tree.within,
      if_pos (by simpa using (by omega : level ≠ 0))]
    rfl
  termination_by sizeOf v

theorem items?_chars (x : Json) (xs : List Json) (fuel level : Nat) (rest : List Char) (hx : x.Sound)
    (hxs : SoundItems xs) (hf : 2 * (chars x ++ itemsTail xs).length ≤ fuel + 1)
    (hl : x.depth ≤ level) (hls : depthList xs ≤ level) :
    items? fuel level (chars x ++ (itemsTail xs ++ rest)) = some (tree x :: trees xs, rest) := by
  obtain ⟨c, text, hc, -, -⟩ := chars_eq_cons x hx
  have hpos : 0 < (chars x).length := by rw [hc]; simp
  match xs, fuel, hxs, hf, hls with
  | xs, 0, _, hf, _ =>
    rw [List.length_append] at hf
    have : 0 < (itemsTail xs).length := by cases xs <;> simp [itemsTail]
    omega
  | [], fuel + 1, _, hf, _ =>
    rw [List.length_append, show itemsTail [] = [']'] from rfl, List.length_singleton] at hf
    exact items?_last fuel level rest _ (tree x)
      (tree?_chars x fuel level _ hx (by omega) hl (stops_itemsTail [] rest))
  | y :: ys, fuel + 1, hxs, hf, hls =>
    rw [List.length_append] at hf
    simp only [depthList] at hls
    have hread := tree?_chars x fuel level (itemsTail (y :: ys) ++ rest) hx
      (by rw [itemsTail, List.length_cons] at hf; omega) hl (stops_itemsTail (y :: ys) rest)
    rw [show itemsTail (y :: ys) = ',' :: (chars y ++ itemsTail ys) from rfl] at hf hread ⊢
    rw [List.length_cons] at hf
    simp only [List.cons_append, List.append_assoc] at hread ⊢
    rw [items?_more fuel level _ _ (tree x) hread,
      items?_chars y ys fuel level rest hxs.1 hxs.2 (by omega) (by omega) (by omega)]
    rfl
  termination_by sizeOf x + sizeOf xs + 1

theorem members?_chars (k : String) (x : Json) (ms : List (String × Json)) (fuel level : Nat)
    (rest : List Char) (hx : x.Sound) (hms : SoundMembers ms)
    (hf : 2 * (quote k ++ ':' :: (chars x ++ membersTail ms)).length ≤ fuel + 1)
    (hl : x.depth ≤ level) (hls : depthMembers ms ≤ level) :
    members? fuel level (quote k ++ ':' :: (chars x ++ (membersTail ms ++ rest))) =
      some ((some k, tree x) :: memberTrees ms, rest) := by
  match ms, fuel, hms, hf, hls with
  | ms, 0, _, hf, _ =>
    rw [List.length_append, List.length_cons, List.length_append] at hf
    have : 0 < (membersTail ms).length := by cases ms <;> simp [membersTail]
    omega
  | [], fuel + 1, _, hf, _ =>
    rw [List.length_append, List.length_cons, List.length_append] at hf
    exact members?_last fuel level rest k _ (tree x)
      (tree?_chars x fuel level _ hx (by omega) hl (stops_membersTail [] rest))
  | (l, y) :: ys, fuel + 1, hms, hf, hls =>
    rw [List.length_append, List.length_cons, List.length_append] at hf
    simp only [depthMembers] at hls
    have hread := tree?_chars x fuel level (membersTail ((l, y) :: ys) ++ rest) hx (by omega) hl
      (stops_membersTail ((l, y) :: ys) rest)
    rw [show membersTail ((l, y) :: ys) =
      ',' :: (quote l ++ ':' :: (chars y ++ membersTail ys)) from rfl] at hf hread ⊢
    rw [List.length_cons] at hf
    simp only [List.cons_append, List.append_assoc] at hread ⊢
    rw [members?_more fuel level _ k _ (tree x) hread,
      members?_chars l y ys fuel level rest hms.1 hms.2 (by omega) (by omega) (by omega)]
    rfl
  termination_by sizeOf x + sizeOf ms + 1

end

/-- A written value is read back as its tree. -/
theorem read?_render (v : Json) (hv : v.Sound) (hl : v.depth ≤ maxDepth) :
    read? v.render = some (tree v) := by
  have h := tree?_chars v (2 * (chars v).length + 2) maxDepth [] hv (by omega) hl (by simp [Stops])
  rw [List.append_nil] at h
  simp only [read?, render, String.toList_ofList, h]
  rfl

end CallAudit.Json
