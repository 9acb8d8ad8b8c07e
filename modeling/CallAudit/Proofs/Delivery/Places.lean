import CallAudit.Processor.Delivery

/-!
# What paths lead to while files change

A path is walked through directories, so it leads to the same place as long as these stay. What a
program opens or makes only adds to the file system, and what it appends changes one file.

Results:
* `Extends`: nothing that stood somewhere was changed, and more may stand now.
* `adds_makeParents`, `opens_of_adds`: what is new when a file is opened: directories above it, and the
  empty file if there was none.
* `stat_of_extends`: a path that leads to something still leads to it.
* `stat_append`: a path to a file leads to that file after something was appended to it.
-/
namespace CallAudit.FileSystem

/-! ## Walks -/

/-- A walk only asks where directories stand. -/
theorem walk_of_directories (fs fs' : FileSystem)
    (h : ∀ p, fs.node? p = some .directory → fs'.node? p = some .directory) (names : List String) :
    ∀ start place, fs.walk start names = .ok place → fs'.walk start names = .ok place := by
  induction names with
  | nil => exact fun _ _ hw => hw
  | cons name rest ih =>
    intro start place hw
    simp only [walk] at hw ⊢
    split at hw
    · cases hw
    · cases hw
    · rename_i hd
      rw [h start hd]
      dsimp only
      split at hw
      · cases hw
      · rename_i hn
        rw [if_neg hn]
        exact ih _ _ hw

theorem reach_of_directories (fs fs' : FileSystem) (path : String) (place : Place)
    (h : ∀ p, fs.node? p = some .directory → fs'.node? p = some .directory)
    (hw : fs'.workingDirectory = fs.workingDirectory) (hr : fs.reach path = .ok place) :
    fs'.reach path = .ok place := by
  unfold reach at hr ⊢
  rw [hw]
  by_cases h1 : '\x00' ∈ path.toList
  · rw [if_pos h1] at hr
    cases hr
  by_cases h2 : path = ""
  · rw [if_neg h1, if_pos h2] at hr
    cases hr
  by_cases h3 : pathLimit < path.utf8ByteSize
  · rw [if_neg h1, if_neg h2, if_pos h3] at hr
    cases hr
  rw [if_neg h1, if_neg h2, if_neg h3] at hr ⊢
  exact walk_of_directories fs fs' h _ _ _ hr

/-! ## Additions -/

/-- All that stood somewhere still does. -/
structure Extends (fs fs' : FileSystem) : Prop where
  node : ∀ p n, fs.node? p = some n → fs'.node? p = some n
  workingDirectory : fs'.workingDirectory = fs.workingDirectory

theorem Extends.refl (fs : FileSystem) : Extends fs fs := ⟨fun _ _ h => h, rfl⟩

theorem Extends.trans {a b c : FileSystem} (h1 : Extends a b) (h2 : Extends b c) : Extends a c :=
  ⟨fun p n h => h2.node p n (h1.node p n h), h2.workingDirectory.trans h1.workingDirectory⟩

theorem extends_set (fs : FileSystem) (p : Place) (n : Node) (h : fs.node? p = none) :
    Extends fs (fs.set p n) := by
  refine ⟨fun q m hq => ?_, rfl⟩
  rw [node?_set, if_neg (by rintro rfl; rw [h] at hq; cases hq)]
  exact hq

theorem reach_of_extends (fs fs' : FileSystem) (path : String) (place : Place) (h : Extends fs fs')
    (hr : fs.reach path = .ok place) : fs'.reach path = .ok place :=
  reach_of_directories fs fs' path place (fun p => h.node p _) h.workingDirectory hr

/-- Nothing was changed, and what is new are directories to which one of the paths leads. -/
structure AddsDirectories (paths : List String) (fs fs' : FileSystem) : Prop
    extends Extends fs fs' where
  new : ∀ p n, fs.node? p = none → fs'.node? p = some n →
    n = .directory ∧ ∃ path ∈ paths, fs'.reach path = .ok p

theorem AddsDirectories.refl (paths : List String) (fs : FileSystem) : AddsDirectories paths fs fs :=
  ⟨Extends.refl fs, fun p n h hn => by rw [h] at hn; cases hn⟩

theorem AddsDirectories.mono {paths more : List String} {fs fs' : FileSystem}
    (h : AddsDirectories paths fs fs') (hsub : paths ⊆ more) : AddsDirectories more fs fs' := by
  refine ⟨h.toExtends, fun p n hp hn => ?_⟩
  obtain ⟨hd, path, hmem, hr⟩ := h.new p n hp hn
  exact ⟨hd, path, hsub hmem, hr⟩

theorem AddsDirectories.trans {paths : List String} {a b c : FileSystem}
    (h1 : AddsDirectories paths a b) (h2 : AddsDirectories paths b c) : AddsDirectories paths a c := by
  refine ⟨h1.toExtends.trans h2.toExtends, fun p n hp hn => ?_⟩
  cases hb : b.node? p with
  | none => exact h2.new p n hb hn
  | some m =>
    -- it is new in the first part, and stays where it is
    obtain ⟨hd, path, hmem, hr⟩ := h1.new p m hp hb
    have hm := h2.node p m hb
    rw [hn] at hm
    cases hm
    exact ⟨hd, path, hmem, reach_of_extends b c path p h2.toExtends hr⟩

theorem adds_makeDirectory (fs fs' : FileSystem) (path : String) (h : fs.makeDirectory path = .ok fs') :
    AddsDirectories [path] fs fs' := by
  unfold makeDirectory at h
  split at h
  · cases h
  · rename_i place hr
    split at h
    · cases h
    · rename_i hn
      cases h
      have hext := extends_set fs place .directory hn
      refine ⟨hext, fun p n hp hq => ?_⟩
      rw [node?_set] at hq
      split at hq
      · rename_i he
        subst he
        cases hq
        exact ⟨rfl, path, List.mem_singleton_self path, reach_of_extends fs _ path p hext hr⟩
      · rw [hp] at hq
        cases hq

theorem adds_makeAllOf (paths : List String) :
    ∀ fs : FileSystem, AddsDirectories paths fs (fs.makeAllOf paths).2 := by
  induction paths with
  | nil => exact AddsDirectories.refl []
  | cons path parents ih =>
    intro fs
    have hself : [path] ⊆ path :: parents := by simp
    unfold makeAllOf
    split
    · exact (adds_makeDirectory fs _ path ‹_›).mono hself
    · have hp := (ih fs).mono (List.subset_cons_self path parents)
      split
      · rename_i heq
        rw [heq] at hp
        exact hp
      · rename_i heq
        rw [heq] at hp
        split
        · exact hp.trans ((adds_makeDirectory _ _ path ‹_›).mono hself)
        · split <;> exact hp
    · split <;> exact AddsDirectories.refl _ fs

/-- The paths of the directories above a file, innermost first. -/
def above (path : String) : List String :=
  match Path.parent? path with
  | some parent => Path.ancestors parent
  | none => []

theorem adds_makeParents (fs : FileSystem) (path : String) :
    AddsDirectories (above path) fs (LineWriter.makeParents path fs).2 := by
  unfold LineWriter.makeParents above
  cases Path.parent? path with
  | none => exact AddsDirectories.refl [] fs
  | some parent =>
    dsimp only
    split
    · exact AddsDirectories.refl _ fs
    · exact adds_makeAllOf _ fs

/-- An open file is where its path leads. Either it was there, or it is new and empty. -/
theorem openAppend_ok (fs fs' : FileSystem) (path : String) (place : Place)
    (h : fs.openAppend path = .ok (place, fs')) :
    (fs' = fs ∧ ∃ content, fs.stat path = .ok (place, .file content)) ∨
      fs.node? place = none ∧ fs' = fs.set place (.file []) ∧
        fs'.stat path = .ok (place, .file []) := by
  unfold openAppend at h
  split at h
  · cases h
  · rename_i q hr
    split at h
    · cases h
    · rename_i hs
      split at h
      · cases h
      · rename_i content hn
        cases h
        exact .inl ⟨rfl, content, by simp [stat, hr, hn, hs]⟩
      · rename_i hn
        cases h
        have hext := extends_set fs place (.file []) hn
        have := reach_of_extends fs _ path place hext hr
        exact .inr ⟨hn, rfl, by simp [stat, this, node?_set, hs]⟩

/-- A file was opened by its path: nothing was changed, and what is new are the directories above it and
the file itself, empty. -/
structure Opens (path : String) (place : Place) (fs fs' : FileSystem) : Prop extends Extends fs fs' where
  stat : ∃ content, fs'.stat path = .ok (place, .file content)
  new : ∀ p n, fs.node? p = none → fs'.node? p = some n →
    p = place ∧ n = .file [] ∨ n = .directory ∧ ∃ parent ∈ above path, fs'.reach parent = .ok p

theorem opens_of_adds (fs made fs' : FileSystem) (path : String) (place : Place)
    (hm : AddsDirectories (above path) fs made) (h : made.openAppend path = .ok (place, fs')) :
    Opens path place fs fs' := by
  rcases openAppend_ok made fs' path place h with ⟨rfl, hs⟩ | ⟨hn, rfl, hs⟩
  · exact ⟨hm.toExtends, hs, fun p n hp hq => .inr (hm.new p n hp hq)⟩
  · have hext := extends_set made place (.file []) hn
    refine ⟨hm.toExtends.trans hext, ⟨[], hs⟩, fun p n hp hq => ?_⟩
    rw [node?_set] at hq
    split at hq
    · rename_i he
      cases hq
      exact .inl ⟨he, rfl⟩
    · obtain ⟨hd, parent, hmem, hr⟩ := hm.new p n hp hq
      exact .inr ⟨hd, parent, hmem, reach_of_extends made _ parent p hext hr⟩

/-! ## What a path leads to -/

/-- What a path leads to stands at the place it reaches. -/
theorem of_stat (fs : FileSystem) (path : String) (place : Place) (n : Node)
    (h : fs.stat path = .ok (place, n)) : fs.reach path = .ok place ∧ fs.node? place = some n := by
  unfold stat at h
  cases hr : fs.reach path with
  | error e => rw [hr] at h; cases h
  | ok p =>
    simp only [hr] at h
    split at h
    · cases h
    · rename_i hn
      split at h
      · cases h
      · cases h
        exact ⟨rfl, hn⟩
    · rename_i hn
      cases h
      exact ⟨rfl, hn⟩

theorem stat_of_extends (fs fs' : FileSystem) (path : String) (place : Place) (n : Node)
    (h : Extends fs fs') (hs : fs.stat path = .ok (place, n)) : fs'.stat path = .ok (place, n) := by
  obtain ⟨hr, hn⟩ := of_stat fs path place n hs
  unfold stat at hs ⊢
  simp only [hr, hn, reach_of_extends fs fs' path place h hr, h.node place n hn] at hs ⊢
  exact hs

theorem node?_append (fs : FileSystem) (place q : Place) (bytes : List UInt8) :
    (fs.append place bytes).node? q =
      if q = place then some (.file (fs.content place ++ bytes)) else fs.node? q := rfl

theorem content_of_node (fs : FileSystem) (place : Place) (content : List UInt8)
    (h : fs.node? place = some (.file content)) : fs.content place = content := by
  simp [FileSystem.content, h]

theorem append_nil (fs : FileSystem) (place : Place) (content : List UInt8)
    (h : fs.node? place = some (.file content)) : fs.append place [] = fs := by
  have hnode : (fs.append place []).node? = fs.node? := by
    funext q
    rw [node?_append, List.append_nil, content_of_node fs place content h]
    split
    · rename_i hq
      rw [hq, h]
    · rfl
  exact congrArg (FileSystem.mk · fs.workingDirectory) hnode

theorem append_append (fs : FileSystem) (place : Place) (bytes more : List UInt8) :
    (fs.append place bytes).append place more = fs.append place (bytes ++ more) := by
  have hcontent : (fs.append place bytes).content place = fs.content place ++ bytes :=
    content_of_node _ _ _ ((node?_append fs place place bytes).trans (if_pos rfl))
  have hnode : ((fs.append place bytes).append place more).node? =
      (fs.append place (bytes ++ more)).node? := by
    funext q
    rw [node?_append, node?_append, node?_append, hcontent, List.append_assoc]
    split <;> rfl
  exact congrArg (FileSystem.mk · fs.workingDirectory) hnode

theorem reach_append (fs : FileSystem) (path : String) (place q : Place) (bytes : List UInt8)
    (hn : fs.node? place ≠ some .directory) (hr : fs.reach path = .ok q) :
    (fs.append place bytes).reach path = .ok q := by
  refine reach_of_directories fs _ path q (fun p hp => ?_) rfl hr
  rw [node?_append, if_neg (by rintro rfl; exact hn hp)]
  exact hp

theorem stat_append (fs : FileSystem) (path : String) (place : Place) (content bytes : List UInt8)
    (h : fs.stat path = .ok (place, .file content)) :
    (fs.append place bytes).stat path = .ok (place, .file (content ++ bytes)) := by
  obtain ⟨hr, hn⟩ := of_stat fs path place _ h
  unfold stat at h ⊢
  simp only [hr, hn, reach_append fs path place place bytes (by simp [hn]) hr, node?_append, if_true,
    content_of_node fs place content hn] at h ⊢
  split at h
  · cases h
  · rename_i hs
    simp [hs]

end CallAudit.FileSystem
