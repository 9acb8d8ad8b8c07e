import CallAudit.Proofs.Json.Structures
import CallAudit.Snapshot

/-!
# Snapshots are read back

Results:
* `Keyed.ofList_of_sorted`: entries in key order are their own map.
* `Value.ofJson_toJson`: a value with finite numbers is read back in the same variant at every depth.
* `Snapshot.ofMembers_fieldsJson`: the same for a snapshot.
* `Snapshot.finite_ofMembers`, `Snapshot.depth_ofMembers_le`: what a snapshot of JSON holds is finite
  and nests no deeper than the JSON.
-/
namespace CallAudit

namespace Keyed

variable {α : Type}

theorem insert_of_lt (k : String) (v : α) (m : List (String × α)) (h : ∀ e ∈ m, e.1 < k) :
    insert k v m = m ++ [(k, v)] := by
  induction m with
  | nil => rfl
  | cons e m ih =>
    have hlt : e.1 < k := h e (List.mem_cons_self ..)
    have hnot : ¬ k < e.1 := fun hk => String.lt_irrefl k (String.lt_trans hk hlt)
    have hne : k ≠ e.1 := fun hk => String.lt_irrefl k (hk ▸ hlt)
    rw [insert, if_neg hnot, if_neg hne, ih (fun x hx => h x (List.mem_cons_of_mem _ hx))]
    rfl

theorem foldl_insert_of_sorted (es m : List (String × α)) (hes : Sorted es)
    (h : ∀ a ∈ m, ∀ b ∈ es, a.1 < b.1) :
    es.foldl (fun m e => insert e.1 e.2 m) m = m ++ es := by
  induction es generalizing m with
  | nil => simp
  | cons e es ih =>
    obtain ⟨hfirst, hrest⟩ := sorted_cons.1 hes
    rw [List.foldl_cons, insert_of_lt e.1 e.2 m (fun a ha => h a ha e (List.mem_cons_self ..)),
      ih _ hrest, List.append_assoc, List.singleton_append]
    intro a ha b hb
    rcases List.mem_append.1 ha with ha | ha
    · exact h a ha b (List.mem_cons_of_mem _ hb)
    · rw [List.mem_singleton.1 ha]
      exact hfirst b hb

/-- Entries in key order are their own map. -/
theorem ofList_of_sorted (es : List (String × α)) (h : Sorted es) : ofList es = es :=
  foldl_insert_of_sorted es [] h (by simp)

theorem mem_of_mem_foldl_insert (e : String × α) (es m : List (String × α))
    (h : e ∈ es.foldl (fun m e => insert e.1 e.2 m) m) : e ∈ m ∨ e ∈ es := by
  induction es generalizing m with
  | nil => exact .inl h
  | cons x es ih =>
    rcases ih _ h with h | h
    · rcases mem_insert h with rfl | h
      · exact .inr (List.mem_cons_self ..)
      · exact .inl h
    · exact .inr (List.mem_cons_of_mem _ h)

theorem mem_of_mem_ofList (e : String × α) (es : List (String × α)) (h : e ∈ ofList es) : e ∈ es := by
  rcases mem_of_mem_foldl_insert e es [] h with h | h
  · cases h
  · exact h

end Keyed

namespace Value

theorem finiteFields_iff (fs : List (String × Value)) :
    FiniteFields fs ↔ ∀ f ∈ fs, f.2.Finite := by
  induction fs with
  | nil => simp [FiniteFields]
  | cons f fs ih =>
    obtain ⟨k, x⟩ := f
    simp [FiniteFields, ih]

theorem fieldsJson_eq_map (fs : List (String × Value)) :
    fieldsJson fs = fs.map (fun f => (f.1, f.2.toJson)) := by
  induction fs with
  | nil => rfl
  | cons f fs ih =>
    obtain ⟨k, x⟩ := f
    rw [fieldsJson, ih, List.map_cons]

/-! ## Values and back -/

mutual

/-- A value with finite numbers is read back in the same variant at every depth. -/
theorem ofJson_toJson (v : Value) (hc : v.Canonical) (hf : v.Finite) : ofJson v.toJson = v := by
  match v with
  | null | bool _ | text _ => rfl
  | number x => exact if_pos hf
  | list xs => rw [toJson, ofJson, ofItems_itemsJson xs hc hf]
  | struct fs =>
    rw [toJson, ofJson, ofMembers_fieldsJson fs hc.2 hf, Keyed.ofList_of_sorted fs hc.1]

theorem ofItems_itemsJson (xs : List Value) (hc : CanonicalItems xs) (hf : FiniteItems xs) :
    ofItems (itemsJson xs) = xs := by
  match xs with
  | [] => rfl
  | x :: xs => rw [itemsJson, ofItems, ofJson_toJson x hc.1 hf.1, ofItems_itemsJson xs hc.2 hf.2]

theorem ofMembers_fieldsJson (fs : List (String × Value)) (hc : CanonicalFields fs)
    (hf : FiniteFields fs) : ofMembers (fieldsJson fs) = fs := by
  match fs with
  | [] => rfl
  | (k, x) :: fs =>
    rw [fieldsJson, ofMembers, ofJson_toJson x hc.1 hf.1, ofMembers_fieldsJson fs hc.2 hf.2]

end

mutual

/-- The numbers of a finite value are ones that JSON texts hold. -/
theorem sound_toJson (v : Value) (hf : v.Finite) : v.toJson.Sound := by
  match v with
  | null | bool _ | text _ => trivial
  | number x => exact hf
  | list xs => exact soundItems_itemsJson xs hf
  | struct fs => exact soundMembers_fieldsJson fs hf

theorem soundItems_itemsJson (xs : List Value) (hf : FiniteItems xs) :
    Json.SoundItems (itemsJson xs) := by
  match xs with
  | [] => trivial
  | x :: xs => exact ⟨sound_toJson x hf.1, soundItems_itemsJson xs hf.2⟩

theorem soundMembers_fieldsJson (fs : List (String × Value)) (hf : FiniteFields fs) :
    Json.SoundMembers (fieldsJson fs) := by
  match fs with
  | [] => trivial
  | (k, x) :: fs => exact ⟨sound_toJson x hf.1, soundMembers_fieldsJson fs hf.2⟩

end

/-! ## Values of JSON -/

mutual

/-- A value of JSON is finite: a number that is not is null. -/
theorem finite_ofJson (j : Json) : (ofJson j).Finite := by
  match j with
  | .null | .bool _ | .string _ => trivial
  | .number n =>
    rw [ofJson, ofFloat]
    split
    · assumption
    · trivial
  | .array xs => exact finiteItems_ofItems xs
  | .object ms =>
    exact (finiteFields_iff _).2 (fun f hf =>
      (finiteFields_iff _).1 (finiteFields_ofMembers ms) f (Keyed.mem_of_mem_ofList f _ hf))

theorem finiteItems_ofItems (xs : List Json) : FiniteItems (ofItems xs) := by
  match xs with
  | [] => trivial
  | x :: xs => exact ⟨finite_ofJson x, finiteItems_ofItems xs⟩

theorem finiteFields_ofMembers (ms : List (String × Json)) : FiniteFields (ofMembers ms) := by
  match ms with
  | [] => trivial
  | (k, x) :: ms => exact ⟨finite_ofJson x, finiteFields_ofMembers ms⟩

end

mutual

/-- A value nests no deeper than the JSON it comes from. -/
theorem depth_ofJson_le (j : Json) : (ofJson j).toJson.depth ≤ j.depth := by
  match j with
  | .null | .bool _ | .string _ => exact Nat.le_refl _
  | .number n =>
    rw [ofJson, ofFloat]
    split <;> exact Nat.le_refl _
  | .array xs => exact Nat.succ_le_succ (depthList_ofItems_le xs)
  | .object ms =>
    refine Nat.succ_le_succ ((Json.depthMembers_le_iff _ _).2 (fun m hm => ?_))
    rw [fieldsJson_eq_map] at hm
    obtain ⟨f, hf, rfl⟩ := List.mem_map.1 hm
    refine (Json.depthMembers_le_iff _ _).1 (depthMembers_ofMembers_le ms) (f.1, f.2.toJson) ?_
    rw [fieldsJson_eq_map]
    exact List.mem_map.2 ⟨f, Keyed.mem_of_mem_ofList f _ hf, rfl⟩

theorem depthList_ofItems_le (xs : List Json) :
    Json.depthList (itemsJson (ofItems xs)) ≤ Json.depthList xs := by
  match xs with
  | [] => exact Nat.le_refl _
  | x :: xs =>
    have hfirst := depth_ofJson_le x
    have hrest := depthList_ofItems_le xs
    simp only [ofItems, itemsJson, Json.depthList]
    omega

theorem depthMembers_ofMembers_le (ms : List (String × Json)) :
    Json.depthMembers (fieldsJson (ofMembers ms)) ≤ Json.depthMembers ms := by
  match ms with
  | [] => exact Nat.le_refl _
  | (k, x) :: ms =>
    have hfirst := depth_ofJson_le x
    have hrest := depthMembers_ofMembers_le ms
    simp only [ofMembers, fieldsJson, Json.depthMembers]
    omega

end

end Value

namespace Snapshot

/-- Every number in it is finite. -/
def Finite (s : Snapshot) : Prop := Value.FiniteFields s.fields

/-- A snapshot with finite numbers is read back. -/
theorem ofMembers_fieldsJson (s : Snapshot) (hf : s.Finite) :
    ofMembers (Value.fieldsJson s.fields) = s := by
  refine ext ?_
  calc Keyed.ofList (Value.ofMembers (Value.fieldsJson s.fields))
    _ = Keyed.ofList s.fields := by rw [Value.ofMembers_fieldsJson s.fields s.canonical hf]
    _ = s.fields := Keyed.ofList_of_sorted s.fields s.sorted

theorem sound_toJson (s : Snapshot) (hf : s.Finite) : s.toJson.Sound :=
  Value.soundMembers_fieldsJson s.fields hf

theorem finite_ofMembers (ms : List (String × Json)) : (ofMembers ms).Finite :=
  Value.finite_ofJson (.object ms)

theorem depth_ofMembers_le (ms : List (String × Json)) :
    (ofMembers ms).toJson.depth ≤ (Json.object ms).depth :=
  Value.depth_ofJson_le (.object ms)

theorem eq_empty_of_isEmpty (s : Snapshot) (h : s.isEmpty = true) : s = empty :=
  ext (List.isEmpty_iff.1 h)

end Snapshot

end CallAudit
