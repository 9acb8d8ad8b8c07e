import CallAudit.Json.Fields
import CallAudit.Proofs.Json.ReadBack

/-!
# Structures are read back

A structure is written as an object that leaves out the fields without a value. Its reader finds every
field in its place again: what was left out is missing, and nothing else is.

Results:
* `slots?_present`: fields of distinct names are found where they were.
* `fields?_tree`: the same for the tree of the written object.
* `as?_tree`: a part is decoded from its tree as from its value.
-/
namespace CallAudit.Json

variable {α β : Type}

/-- The members that an object of these fields has. -/
def present (fields : List (String × Option α)) : List (String × α) :=
  fields.filterMap (fun f => f.2.map (fun v => (f.1, v)))

theorem present_some (k : String) (v : α) (fields : List (String × Option α)) :
    present ((k, some v) :: fields) = (k, v) :: present fields := rfl

theorem mem_present (m : String × α) (fields : List (String × Option α)) :
    m ∈ present fields ↔ (m.1, some m.2) ∈ fields := by
  simp only [present, List.mem_filterMap, Option.map_eq_some_iff]
  constructor
  · rintro ⟨⟨k, v⟩, hf, v', rfl, rfl⟩
    exact hf
  · intro hf
    exact ⟨_, hf, m.2, rfl, rfl⟩

theorem present_map (f : α → β) (fields : List (String × Option α)) :
    (present fields).map (fun m => (m.1, f m.2)) =
      present (fields.map (fun g => (g.1, g.2.map f))) := by
  induction fields with
  | nil => rfl
  | cons g fields ih =>
    obtain ⟨k, v⟩ := g
    cases v with
    | none => exact ih
    | some v => exact congrArg ((k, f v) :: ·) ih

/-- No other field has the name of a field. -/
theorem filter_present (fields : List (String × Option α)) (hn : (fields.map (·.1)).Nodup)
    (k : String) (v : Option α) (hf : (k, v) ∈ fields) :
    (present fields).filter (fun m => m.1 == k) = (v.map (fun v => (k, v))).toList := by
  induction fields with
  | nil => cases hf
  | cons g fields ih =>
    obtain ⟨l, w⟩ := g
    rw [List.map_cons, List.nodup_cons] at hn
    have hother : ∀ name, name ∉ fields.map (·.1) →
        (present fields).filter (fun m => m.1 == name) = [] := by
      intro name hname
      refine List.filter_eq_nil_iff.2 (fun m hm heq => hname ?_)
      exact List.mem_map.2 ⟨_, (mem_present m fields).1 hm, by simpa using heq⟩
    rcases List.mem_cons.1 hf with heq | htail
    · cases heq
      cases v with
      | none => exact hother k hn.1
      | some v => simpa [present_some] using hother k hn.1
    · have hne : l ≠ k := by
        rintro rfl
        exact hn.1 (List.mem_map.2 ⟨_, htail, rfl⟩)
      cases w with
      | none => exact ih hn.2 htail
      | some w => simpa [present_some, hne] using ih hn.2 htail

/-- Fields of distinct names are found where they were. -/
theorem slots?_present (fields : List (String × Option α)) (hn : (fields.map (·.1)).Nodup) :
    slots? (fields.map (·.1)) (present fields) = some (fields.map (·.2)) := by
  have hslot : ∀ part : List (String × Option α), (∀ f ∈ part, f ∈ fields) →
      slots? (part.map (·.1)) (present fields) = some (part.map (·.2)) := by
    intro part
    induction part with
    | nil => intro _; rfl
    | cons f part ih =>
      intro hpart
      obtain ⟨k, v⟩ := f
      have hrest := ih (fun f hf => hpart f (List.mem_cons_of_mem _ hf))
      have hfilter := filter_present fields hn k v (hpart _ (List.mem_cons_self ..))
      unfold slots? at hrest ⊢
      rw [List.map_cons, List.mapM_cons, slot?, hfilter, hrest]
      cases v <;> rfl
  exact hslot fields (fun _ hf => hf)

theorem keyed?_memberTrees (ms : List (String × Json)) :
    Tree.keyed? (memberTrees ms) = some (ms.map (fun m => (m.1, tree m.2))) := by
  induction ms with
  | nil => rfl
  | cons m ms ih =>
    obtain ⟨k, x⟩ := m
    unfold Tree.keyed? at ih ⊢
    rw [memberTrees, List.mapM_cons, ih]
    rfl

/-- The fields of a written structure are found where they were. -/
theorem fields?_tree (names : List String) (fields : List (String × Option Json))
    (hnames : fields.map (·.1) = names) (hn : names.Nodup) :
    Tree.fields? names (tree (object (present fields))) =
      some (fields.map (fun f => f.2.map tree)) := by
  subst hnames
  have hslots := slots?_present (fields.map (fun f => (f.1, f.2.map tree)))
    (by simpa [List.map_map, Function.comp_def] using hn)
  rw [tree, Tree.fields?, keyed?_memberTrees, Option.bind_some, present_map]
  simpa [List.map_map, Function.comp_def] using hslots

theorem as?_tree (decode : Json → Option α) (v : Json) : Tree.as? decode (tree v) = decode v := by
  rw [Tree.as?, value?_tree, Option.bind_some]

/-! ## The members of an object -/

theorem soundMembers_iff (ms : List (String × Json)) : SoundMembers ms ↔ ∀ m ∈ ms, m.2.Sound := by
  induction ms with
  | nil => simp [SoundMembers]
  | cons m ms ih =>
    obtain ⟨k, x⟩ := m
    simp [SoundMembers, ih]

theorem depthMembers_le_iff (ms : List (String × Json)) (n : Nat) :
    depthMembers ms ≤ n ↔ ∀ m ∈ ms, m.2.depth ≤ n := by
  induction ms with
  | nil => simp [depthMembers]
  | cons m ms ih =>
    obtain ⟨k, x⟩ := m
    simp [depthMembers, ih]

theorem sound_present (fields : List (String × Option Json)) (h : ∀ f ∈ fields, ∀ v ∈ f.2, v.Sound) :
    (object (present fields)).Sound :=
  (soundMembers_iff _).2 (fun m hm => h _ ((mem_present m fields).1 hm) m.2 rfl)

theorem depth_present_le (fields : List (String × Option Json)) (n : Nat)
    (h : ∀ f ∈ fields, ∀ v ∈ f.2, v.depth ≤ n) : (object (present fields)).depth ≤ n + 1 :=
  Nat.succ_le_succ ((depthMembers_le_iff _ n).2
    (fun m hm => h _ ((mem_present m fields).1 hm) m.2 rfl))

end CallAudit.Json
