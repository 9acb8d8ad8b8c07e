import CallAudit.Json.Fields

/-!
# Nesting of what is read

Results:
* `Tree.Fits`: a tree nests at most so many containers.
* `tree?_fits`, `read?_fits`: the reader's limit holds of every tree it gives.
* `depth_le_of_value?`: the value of a tree nests no deeper than the tree may.
* `fields?_fits`: the parts of a structure nest one level less.
-/
namespace CallAudit.Json

mutual

/-- At most `level` containers stand within each other; a leaf denotes no container. -/
def Tree.Fits (level : Nat) : Tree → Prop
  | .leaf v => ∀ w ∈ v, w.depth = 0
  | .array xs => 0 < level ∧ Tree.FitItems (level - 1) xs
  | .object ms => 0 < level ∧ Tree.FitMembers (level - 1) ms

def Tree.FitItems (level : Nat) : List Tree → Prop
  | [] => True
  | x :: xs => Tree.Fits level x ∧ Tree.FitItems level xs

def Tree.FitMembers (level : Nat) : List (Option String × Tree) → Prop
  | [] => True
  | (_, x) :: ms => Tree.Fits level x ∧ Tree.FitMembers level ms

end

theorem Tree.fitItems_iff (level : Nat) (xs : List Tree) :
    Tree.FitItems level xs ↔ ∀ x ∈ xs, x.Fits level := by
  induction xs with
  | nil => simp [Tree.FitItems]
  | cons x xs ih => simp [Tree.FitItems, ih]

/-! ## The reader's limit -/

theorem fits_within_array (level : Nat) (xs : List Tree) (h : Tree.FitItems (level - 1) xs) :
    (Tree.within (level != 0) (.array xs)).Fits level := by
  unfold Tree.within
  split
  · rename_i hl
    exact ⟨Nat.pos_of_ne_zero (by simpa using hl), h⟩
  · rintro _ ⟨⟩

theorem fits_within_object (level : Nat) (ms : List (Option String × Tree))
    (h : Tree.FitMembers (level - 1) ms) : (Tree.within (level != 0) (.object ms)).Fits level := by
  unfold Tree.within
  split
  · rename_i hl
    exact ⟨Nat.pos_of_ne_zero (by simpa using hl), h⟩
  · rintro _ ⟨⟩

/-- A leaf that holds what is read as no container. -/
theorem fits_leaf_map {α : Type} (f : α → Json) (hf : ∀ a, (f a).depth = 0) (v : Option α)
    (level : Nat) : (Tree.leaf (v.map f)).Fits level := by
  rintro _ hw
  obtain ⟨a, -, rfl⟩ := Option.map_eq_some_iff.1 hw
  exact hf a

mutual

theorem tree?_fits (fuel level : Nat) (cs : List Char) (r : Tree × List Char)
    (h : tree? fuel level cs = some r) : r.1.Fits level := by
  match fuel with
  | 0 => cases h
  | fuel + 1 =>
    unfold tree? at h
    split at h
    · cases h
    · split at h
      · obtain ⟨r, -, rfl⟩ := Option.map_eq_some_iff.1 h
        exact fits_leaf_map _ (fun _ => rfl) r.1 level
      · split at h
        · split at h
          · cases h
            exact fits_within_array level [] trivial
          · obtain ⟨r, hr, rfl⟩ := Option.map_eq_some_iff.1 h
            exact fits_within_array level r.1 (items?_fits fuel (level - 1) _ r hr)
        · split at h
          · split at h
            · cases h
              exact fits_within_object level [] trivial
            · obtain ⟨r, hr, rfl⟩ := Option.map_eq_some_iff.1 h
              exact fits_within_object level r.1 (members?_fits fuel (level - 1) _ r hr)
          · split at h
            · obtain ⟨r, -, rfl⟩ := Option.map_eq_some_iff.1 h
              rintro _ ⟨⟩
              rfl
            · split at h
              · obtain ⟨r, -, rfl⟩ := Option.map_eq_some_iff.1 h
                rintro _ ⟨⟩
                rfl
              · split at h
                · obtain ⟨r, -, rfl⟩ := Option.map_eq_some_iff.1 h
                  rintro _ ⟨⟩
                  rfl
                · obtain ⟨r, -, rfl⟩ := Option.map_eq_some_iff.1 h
                  exact fits_leaf_map _ (fun _ => rfl) r.1 level

theorem items?_fits (fuel level : Nat) (cs : List Char) (r : List Tree × List Char)
    (h : items? fuel level cs = some r) : Tree.FitItems level r.1 := by
  match fuel with
  | 0 => cases h
  | fuel + 1 =>
    unfold items? at h
    split at h
    · cases h
    · rename_i x rest hx
      have hfit := tree?_fits fuel level cs _ hx
      split at h
      · cases h
        exact ⟨hfit, trivial⟩
      · obtain ⟨r, hr, rfl⟩ := Option.map_eq_some_iff.1 h
        exact ⟨hfit, items?_fits fuel level _ r hr⟩
      · cases h

theorem members?_fits (fuel level : Nat) (cs : List Char)
    (r : List (Option String × Tree) × List Char) (h : members? fuel level cs = some r) :
    Tree.FitMembers level r.1 := by
  match fuel with
  | 0 => cases h
  | fuel + 1 =>
    unfold members? at h
    split at h
    · split at h
      · cases h
      · split at h
        · split at h
          · cases h
          · rename_i x rest hx
            have hfit := tree?_fits fuel level _ _ hx
            split at h
            · cases h
              exact ⟨hfit, trivial⟩
            · obtain ⟨r, hr, rfl⟩ := Option.map_eq_some_iff.1 h
              exact ⟨hfit, members?_fits fuel level _ r hr⟩
            · cases h
        · cases h
    · cases h

end

theorem read?_fits (s : String) (t : Tree) (h : read? s = some t) : t.Fits maxDepth := by
  unfold read? at h
  dsimp only at h
  split at h
  · rename_i t' rest hread
    split at h
    · cases h
      exact tree?_fits _ _ _ _ hread
    · cases h
  · cases h

mutual

/-- The value of a tree nests no deeper than the tree may. -/
theorem depth_le_of_value? (level : Nat) (t : Tree) (v : Json) (ht : t.Fits level)
    (h : t.value? = some v) : v.depth ≤ level := by
  match t with
  | .leaf w => exact Nat.le_trans (Nat.le_of_eq (ht v h)) (Nat.zero_le _)
  | .array xs =>
    obtain ⟨vs, hvs, rfl⟩ := Option.map_eq_some_iff.1 h
    have := depthList_le_of_values? (level - 1) xs vs ht.2 hvs
    have := ht.1
    rw [depth]
    omega
  | .object ms =>
    obtain ⟨vs, hvs, rfl⟩ := Option.map_eq_some_iff.1 h
    have := depthMembers_le_of_members? (level - 1) ms vs ht.2 hvs
    have := ht.1
    rw [depth]
    omega

theorem depthList_le_of_values? (level : Nat) (xs : List Tree) (vs : List Json)
    (ht : Tree.FitItems level xs) (h : Tree.values? xs = some vs) : depthList vs ≤ level := by
  match xs with
  | [] =>
    cases h
    exact Nat.zero_le _
  | x :: xs =>
    unfold Tree.values? at h
    split at h
    · rename_i v vs' hv hvs
      cases h
      exact Nat.max_le.2 ⟨depth_le_of_value? level x v ht.1 hv,
        depthList_le_of_values? level xs vs' ht.2 hvs⟩
    · cases h

theorem depthMembers_le_of_members? (level : Nat) (ms : List (Option String × Tree))
    (vs : List (String × Json)) (ht : Tree.FitMembers level ms) (h : Tree.members? ms = some vs) :
    depthMembers vs ≤ level := by
  match ms with
  | [] =>
    cases h
    exact Nat.zero_le _
  | (k, x) :: ms =>
    unfold Tree.members? at h
    split at h
    · rename_i v vs' hv hvs
      cases h
      exact Nat.max_le.2 ⟨depth_le_of_value? level x v ht.1 hv,
        depthMembers_le_of_members? level ms vs' ht.2 hvs⟩
    · cases h

end

/-! ## Parts of a structure -/

theorem keyed?_fits (level : Nat) (ms : List (Option String × Tree)) (ks : List (String × Tree))
    (ht : Tree.FitMembers level ms) (h : Tree.keyed? ms = some ks) : ∀ m ∈ ks, m.2.Fits level := by
  induction ms generalizing ks with
  | nil =>
    cases h
    rintro _ ⟨⟩
  | cons m ms ih =>
    obtain ⟨k, x⟩ := m
    simp only [Tree.keyed?, List.mapM_cons, Option.bind_eq_bind, Option.bind_eq_some_iff,
      Option.map_eq_some_iff] at h
    obtain ⟨_, ⟨k', -, rfl⟩, ks', hks, h⟩ := h
    cases h
    intro m hm
    rcases List.mem_cons.1 hm with rfl | hm
    · exact ht.1
    · exact ih ks' ht.2 hks m hm

theorem mem_of_slots? {α : Type} (names : List String) (ms : List (String × α))
    (slots : List (Option α)) (h : slots? names ms = some slots) (v : α) (hv : some v ∈ slots) :
    ∃ m ∈ ms, m.2 = v := by
  induction names generalizing slots with
  | nil =>
    cases h
    cases hv
  | cons n names ih =>
    simp only [slots?, List.mapM_cons, Option.bind_eq_bind, Option.bind_eq_some_iff] at h
    obtain ⟨slot, hslot, rest, hrest, h⟩ := h
    cases h
    rcases List.mem_cons.1 hv with rfl | hv
    · unfold slot? at hslot
      split at hslot
      · cases hslot
      · rename_i m hm
        cases hslot
        exact ⟨m, (List.mem_filter.1 (hm ▸ List.mem_singleton_self m)).1, rfl⟩
      · cases hslot
    · exact ih rest hrest hv

/-- The parts of a structure nest one level less than it may. -/
theorem fields?_fits (level : Nat) (names : List String) (t : Tree) (slots : List (Option Tree))
    (ht : t.Fits level) (h : t.fields? names = some slots) (x : Tree) (hx : some x ∈ slots) :
    x.Fits (level - 1) := by
  cases t with
  | leaf v => cases h
  | array xs =>
    simp only [Tree.fields?, placed?] at h
    split at h
    · cases h
      rcases List.mem_append.1 hx with hx | hx
      · obtain ⟨y, hy, heq⟩ := List.mem_map.1 hx
        cases heq
        exact (Tree.fitItems_iff _ xs).1 ht.2 _ (List.mem_of_mem_take hy)
      · cases (List.mem_replicate.1 hx).2
    · cases h
  | object ms =>
    obtain ⟨ks, hks, hslots⟩ := Option.bind_eq_some_iff.1 h
    obtain ⟨m, hm, rfl⟩ := mem_of_slots? names ks slots hslots x hx
    exact keyed?_fits _ ms ks ht.2 hks m hm

end CallAudit.Json
