import CallAudit.Config.Search
import CallAudit.Pattern.Reader
import CallAudit.Proofs.Delivery.Places
import CallAudit.Proofs.Setup.Shape
import CallAudit.Proofs.Text.Bytes

/-!
# The first existing file decides

A configuration is searched for at several paths. What comes of the search is settled by the first path
where something stands, and by what stands there: if that is no file, no text, no TOML of the right shape
or no valid configuration, the search ends with that fault and does not go on to the next path. So nothing
that stands at a later path has a say, nor which later paths there are.

Results:
* `Yields`: what a path comes to, by what stands there.
* `Settles`: the first path where something stands, and what that is.
* `load_of_settles`: a search comes to what the path that settles it comes to.
* `OtherFilesDiffer.sameAt`: changes to other files leave what stands at a path.
* `load_decided`: the whole, with the search that finds nothing.
-/
namespace CallAudit

/-! ## What a path leads to while other files change -/

namespace FileSystem

/-- The same stands at each of these paths, if anything does. -/
def SameAt (paths : List String) (fs fs' : FileSystem) : Prop :=
  ∀ path ∈ paths, ∀ n, (∃ place, fs'.stat path = .ok (place, n)) ↔ ∃ place, fs.stat path = .ok (place, n)

/-- Both have the same directories, and the same at the places of these paths. Other files may have been
changed, made or taken away. -/
structure OtherFilesDiffer (paths : List String) (fs fs' : FileSystem) : Prop where
  workingDirectory : fs'.workingDirectory = fs.workingDirectory
  directory : ∀ p, fs.node? p = some .directory ↔ fs'.node? p = some .directory
  node : ∀ path ∈ paths, ∀ place, fs.reach path = .ok place → fs'.node? place = fs.node? place

theorem stat_eq_ok_iff (fs : FileSystem) (path : String) (place : Place) (n : Node) :
    fs.stat path = .ok (place, n) ↔ fs.reach path = .ok place ∧ fs.node? place = some n ∧
      ∀ content, n = .file content → Path.endsInSlash path = false := by
  constructor
  · intro h
    obtain ⟨hr, hn⟩ := of_stat fs path place n h
    refine ⟨hr, hn, ?_⟩
    rintro content rfl
    cases hs : Path.endsInSlash path with
    | false => rfl
    | true => simp [stat, hr, hn, hs] at h
  · rintro ⟨hr, hn, hs⟩
    cases n with
    | file content => simp [stat, hr, hn, hs content rfl]
    | directory => simp [stat, hr, hn]

theorem contains_eq_true_iff (fs : FileSystem) (path : String) :
    fs.contains path = true ↔ ∃ n place, fs.stat path = .ok (place, n) := by
  unfold contains
  cases fs.stat path with
  | error e => simp [Except.toBool]
  | ok found => exact iff_of_true rfl ⟨found.2, found.1, rfl⟩

theorem SameAt.contains_eq {paths : List String} {fs fs' : FileSystem} (h : SameAt paths fs fs')
    (path : String) (hmem : path ∈ paths) : fs'.contains path = fs.contains path := by
  rw [Bool.eq_iff_iff, contains_eq_true_iff, contains_eq_true_iff]
  exact exists_congr (h path hmem)

/-- Walks go through directories, so other files do not turn them aside. -/
theorem OtherFilesDiffer.sameAt {paths : List String} {fs fs' : FileSystem}
    (h : OtherFilesDiffer paths fs fs') : SameAt paths fs fs' := by
  intro path hmem n
  refine exists_congr fun place => ?_
  have hreach : fs'.reach path = .ok place ↔ fs.reach path = .ok place :=
    ⟨reach_of_directories fs' fs path place (fun p => (h.directory p).2) h.workingDirectory.symm,
      reach_of_directories fs fs' path place (fun p => (h.directory p).1) h.workingDirectory⟩
  rw [stat_eq_ok_iff, stat_eq_ok_iff, hreach]
  refine and_congr_right fun hr => ?_
  rw [h.node path hmem place hr]

/-! ## Reading -/

theorem readText_of_directory (fs : FileSystem) (path : String) (place : Place)
    (h : fs.stat path = .ok (place, .directory)) : fs.readText path = .error .isADirectory := by
  simp only [readText, h]

theorem readText_of_file (fs : FileSystem) (path : String) (place : Place) (content : List UInt8)
    (h : fs.stat path = .ok (place, .file content)) :
    fs.readText path = match String.fromUTF8? content.toByteArray with
      | some text => .ok text
      | none => .error .notText := by
  have hbytes : (⟨content.toArray⟩ : ByteArray) = content.toByteArray :=
    ByteArray.ext (by simp)
  cases htext : String.fromUTF8? content.toByteArray <;> simp only [readText, h, hbytes, htext]

theorem readText_of_text (fs : FileSystem) (path : String) (place : Place) (text : String)
    (h : fs.stat path = .ok (place, .file text.toUTF8.toList)) : fs.readText path = .ok text := by
  rw [readText_of_file fs path place _ h, (fromUTF8?_eq_some text.toUTF8.toList text).2 rfl]

theorem readText_of_noText (fs : FileSystem) (path : String) (place : Place) (content : List UInt8)
    (h : fs.stat path = .ok (place, .file content)) (hno : ∀ text : String, content ≠ text.toUTF8.toList) :
    fs.readText path = .error .notText := by
  have hnone : String.fromUTF8? content.toByteArray = none :=
    Option.eq_none_iff_forall_ne_some.2 fun text ht => hno text ((fromUTF8?_eq_some content text).1 ht)
  rw [readText_of_file fs path place content h, hnone]

end FileSystem

namespace ConfigSearch

open FileSystem (Node SameAt OtherFilesDiffer)

/-! ## What settles a search -/

/-- What a path comes to, by what stands there. -/
inductive Yields [PatternEngine] (path : String) : Node → Except ConfigError AuditConfig → Prop
  | directory : Yields path .directory (.error (.unreadable path .isADirectory))
  | noText (content : List UInt8) (h : ∀ text : String, content ≠ text.toUTF8.toList) :
    Yields path (.file content) (.error (.unreadable path .notText))
  | malformed (text : String) (h : ∀ v c, Toml.read? text = some v → ¬ AuditConfig.Written .toml v c) :
    Yields path (.file text.toUTF8.toList) (.error (.malformed path))
  | invalid (text : String) (v : Json) (c : AuditConfig) (e : ConfigError) (hv : Toml.read? text = some v)
    (h : AuditConfig.Written .toml v c) (he : c.validate = .error e) :
    Yields path (.file text.toUTF8.toList) (.error e)
  | valid (text : String) (v : Json) (c : AuditConfig) (hv : Toml.read? text = some v)
    (h : AuditConfig.Written .toml v c) (hc : c.validate = .ok ()) :
    Yields path (.file text.toUTF8.toList) (.ok c)

/-- `path` is the first of the paths where something stands, and that is `n`. -/
def Settles (paths : List String) (fs : FileSystem) (path : String) (n : Node) : Prop :=
  ∃ before after place, paths = before ++ path :: after ∧
    (∀ p ∈ before, fs.contains p = false) ∧ fs.stat path = .ok (place, n)

theorem find?_of_settles (s : ConfigSearch) (fs : FileSystem) (path : String) (n : Node)
    (h : Settles s.paths fs path n) : s.find? fs = some path := by
  obtain ⟨before, after, place, hpaths, hbefore, hstat⟩ := h
  rw [find?, List.find?_eq_some_iff_append]
  refine ⟨(fs.contains_eq_true_iff path).2 ⟨n, place, hstat⟩, before, after, hpaths, fun p hp => ?_⟩
  rw [hbefore p hp]
  rfl

theorem find?_eq_none_iff (s : ConfigSearch) (fs : FileSystem) :
    s.find? fs = none ↔ ∀ p ∈ s.paths, fs.contains p = false := by
  simp only [find?, List.find?_eq_none, Bool.not_eq_true]

theorem exists_settles (s : ConfigSearch) (fs : FileSystem) (path : String) (h : s.find? fs = some path) :
    ∃ n, Settles s.paths fs path n := by
  rw [find?, List.find?_eq_some_iff_append] at h
  obtain ⟨hpath, before, after, hpaths, hbefore⟩ := h
  obtain ⟨n, place, hstat⟩ := (fs.contains_eq_true_iff path).1 hpath
  refine ⟨n, before, after, place, hpaths, fun p hp => ?_, hstat⟩
  simpa using hbefore p hp

theorem read_of_text (fs : FileSystem) (path text : String) (place : FileSystem.Place)
    (h : fs.stat path = .ok (place, .file text.toUTF8.toList)) :
    read path fs = match AuditConfig.ofToml? text with
      | some c => .ok c
      | none => .error (.malformed path) := by
  cases hc : AuditConfig.ofToml? text <;> simp only [read, fs.readText_of_text path place text h, hc]

/-- A search comes to what the path that settles it comes to. -/
theorem load_of_settles [PatternEngine] (s : ConfigSearch) (fs : FileSystem) (path : String) (n : Node)
    (h : Settles s.paths fs path n) : Yields path n (s.load fs) := by
  have hfind := s.find?_of_settles fs path n h
  obtain ⟨-, -, place, -, -, hstat⟩ := h
  cases n with
  | directory =>
    simp only [load, hfind, read, fs.readText_of_directory path place hstat]
    exact .directory
  | file content =>
    by_cases htext : ∃ text : String, content = text.toUTF8.toList
    · obtain ⟨text, rfl⟩ := htext
      have hread := read_of_text fs path text place hstat
      cases hc : AuditConfig.ofToml? text with
      | none =>
        simp only [load, hfind, hread, hc]
        exact .malformed text ((AuditConfig.ofToml?_eq_none_iff text).1 hc)
      | some c =>
        obtain ⟨v, hv, hwritten⟩ := (AuditConfig.ofToml?_eq_some_iff text c).1 hc
        cases hcheck : c.validate with
        | error e =>
          simp only [load, hfind, hread, hc, hcheck]
          exact .invalid text v c e hv hwritten hcheck
        | ok _ =>
          simp only [load, hfind, hread, hc, hcheck]
          exact .valid text v c hv hwritten hcheck
    · have hno : ∀ text : String, content ≠ text.toUTF8.toList := fun text he => htext ⟨text, he⟩
      simp only [load, hfind, read, fs.readText_of_noText path place content hstat hno]
      exact .noText content hno

/-! ## What has no say -/

theorem read_congr (fs fs' : FileSystem) (path : String) (place place' : FileSystem.Place) (n : Node)
    (h : fs.stat path = .ok (place, n)) (h' : fs'.stat path = .ok (place', n)) :
    read path fs' = read path fs := by
  have htext : fs'.readText path = fs.readText path := by
    rw [FileSystem.readText, FileSystem.readText, h, h']
    cases n <;> rfl
  rw [read, read, htext]

theorem load_congr [PatternEngine] (s s' : ConfigSearch) (fs fs' : FileSystem) (path : String) (n : Node)
    (h : Settles s.paths fs path n) (h' : Settles s'.paths fs' path n) : s'.load fs' = s.load fs := by
  have hfind := s.find?_of_settles fs path n h
  have hfind' := s'.find?_of_settles fs' path n h'
  obtain ⟨-, -, place, -, -, hstat⟩ := h
  obtain ⟨-, -, place', -, -, hstat'⟩ := h'
  have hread := read_congr fs fs' path place place' n hstat hstat'
  simp only [load, hfind, hfind', hread]

theorem Settles.append {paths : List String} {fs : FileSystem} {path : String} {n : Node}
    (h : Settles paths fs path n) (later : List String) : Settles (paths ++ later) fs path n := by
  obtain ⟨before, after, place, rfl, hbefore, hstat⟩ := h
  exact ⟨before, after ++ later, place, by simp, hbefore, hstat⟩

theorem Settles.of_sameAt {paths : List String} {fs fs' : FileSystem} {path : String} {n : Node}
    (h : Settles paths fs path n) (hsame : SameAt paths fs fs') : Settles paths fs' path n := by
  obtain ⟨before, after, place, rfl, hbefore, hstat⟩ := h
  obtain ⟨place', hstat'⟩ := (hsame path (by simp) n).2 ⟨place, hstat⟩
  refine ⟨before, after, place', rfl, fun p hp => ?_, hstat'⟩
  rw [hsame.contains_eq p (by simp [hp]), hbefore p hp]

/-- Once something stands at one of the first paths, later paths and what stands there have no say. -/
theorem load_of_sameAt [PatternEngine] (upTo later later' : List String) (fs fs' : FileSystem) (path : String)
    (hmem : path ∈ upTo) (hpath : fs.contains path = true) (hsame : SameAt upTo fs fs') :
    load ⟨upTo ++ later'⟩ fs' = load ⟨upTo ++ later⟩ fs := by
  cases hfind : find? ⟨upTo⟩ fs with
  | none =>
    have := (find?_eq_none_iff ⟨upTo⟩ fs).1 hfind path hmem
    rw [hpath] at this
    cases this
  | some first =>
    obtain ⟨n, hn⟩ := exists_settles ⟨upTo⟩ fs first hfind
    exact load_congr ⟨upTo ++ later⟩ ⟨upTo ++ later'⟩ fs fs' first n (hn.append later)
      ((hn.of_sameAt hsame).append later')

/-! ## The whole -/

theorem filter_error [PatternEngine] (c : AuditConfig) (e : ConfigError) (h : c.filter = .error e) :
    ∃ reason, e = .invalid reason := by
  unfold AuditConfig.filter at h
  split at h
  · cases h
  · cases h
    exact ⟨_, rfl⟩

/-- A check finds a configuration invalid and nothing else. -/
theorem validate_error [PatternEngine] (c : AuditConfig) (e : ConfigError) (h : c.validate = .error e) :
    ∃ reason, e = .invalid reason := by
  unfold AuditConfig.validate at h
  -- each fault gives its reason, that of the patterns by way of the filter
  repeat' split at h
  all_goals cases h
  all_goals first
    | exact ⟨_, rfl⟩
    | exact filter_error c _ ‹_›

/-- A path at which something stands never counts as not found. -/
theorem Yields.ne_notFound [PatternEngine] {path : String} {n : Node} {r : Except ConfigError AuditConfig}
    (h : Yields path n r) (searched : List String) : r ≠ .error (.notFound searched) := by
  rintro rfl
  cases h with
  | invalid text v c e _ _ he =>
    obtain ⟨reason, hreason⟩ := validate_error c _ he
    cases hreason

theorem Yields.validate [PatternEngine] {path : String} {n : Node} {c : AuditConfig}
    (h : Yields path n (.ok c)) : c.validate = .ok () := by
  cases h with
  | valid text v c _ _ hc => exact hc

theorem load_of_none [PatternEngine] (s : ConfigSearch) (fs : FileSystem) (h : s.find? fs = none) :
    s.load fs = .error (.notFound s.paths) := by
  simp only [load, h]

/-- **The first existing file decides.** A search finds nothing exactly if nothing stands at any of its
paths, and then it names them all, in order. Otherwise it comes to what the first path comes to where
something stands. Two searches that are settled by the same path, with the same there, come to the same.
So once something stands at one of the first paths, it makes no difference which paths are searched after
these and what stands there; changing, making or taking away other files is such a change. A configuration
that is found has passed the check. -/
theorem load_decided [PatternEngine] (s : ConfigSearch) (fs : FileSystem) :
    (∀ searched, s.load fs = .error (.notFound searched) ↔
      searched = s.paths ∧ ∀ p ∈ s.paths, fs.contains p = false) ∧
    ((∃ p ∈ s.paths, fs.contains p = true) → ∃ path n, Settles s.paths fs path n) ∧
    (∀ path n, Settles s.paths fs path n → Yields path n (s.load fs)) ∧
    (∀ (s' : ConfigSearch) fs' path n, Settles s.paths fs path n → Settles s'.paths fs' path n →
      s'.load fs' = s.load fs) ∧
    (∀ upTo later later' fs', s.paths = upTo ++ later → (∃ p ∈ upTo, fs.contains p = true) →
      SameAt upTo fs fs' → load ⟨upTo ++ later'⟩ fs' = s.load fs) ∧
    (∀ upTo fs', OtherFilesDiffer upTo fs fs' → SameAt upTo fs fs') ∧
    ∀ c, s.load fs = .ok c → c.validate = .ok () := by
  have hsettled : ∀ r, s.load fs = r → s.find? fs ≠ none → ∃ path n, Yields path n r := by
    rintro _ rfl hfind
    obtain ⟨path, hpath⟩ := Option.ne_none_iff_exists'.1 hfind
    obtain ⟨n, hn⟩ := s.exists_settles fs path hpath
    exact ⟨path, n, s.load_of_settles fs path n hn⟩
  refine ⟨fun searched => ⟨fun h => ?_, ?_⟩, ?_, s.load_of_settles fs,
    fun s' fs' path n => s.load_congr s' fs fs' path n, ?_, fun _ _ h => h.sameAt, fun c hc => ?_⟩
  · cases hfind : s.find? fs with
    | none =>
      rw [s.load_of_none fs hfind] at h
      cases h
      exact ⟨rfl, (s.find?_eq_none_iff fs).1 hfind⟩
    | some path =>
      obtain ⟨_, _, hyields⟩ := hsettled _ h (by simp [hfind])
      exact absurd rfl (hyields.ne_notFound searched)
  · rintro ⟨rfl, hnone⟩
    exact s.load_of_none fs ((s.find?_eq_none_iff fs).2 hnone)
  · rintro ⟨p, hp, hpath⟩
    cases hfind : s.find? fs with
    | none => exact absurd ((s.find?_eq_none_iff fs).1 hfind p hp) (by simp [hpath])
    | some path => exact ⟨path, s.exists_settles fs path hfind⟩
  · rintro upTo later later' fs' hpaths ⟨p, hp, hpath⟩ hsame
    obtain ⟨paths⟩ := s
    cases hpaths
    exact load_of_sameAt upTo later later' fs fs' p hp hpath hsame
  · by_cases hfind : s.find? fs = none
    · rw [s.load_of_none fs hfind] at hc
      cases hc
    · obtain ⟨_, _, hyields⟩ := hsettled _ hc hfind
      exact hyields.validate

/-- A working directory where a directory stands at `b.toml`, and `third` at `c.toml`. -/
def blocked (third : Option Node) : FileSystem where
  node? place :=
    if place = [] ∨ place = ["b.toml"] then some .directory
    else if place = ["c.toml"] then third else none
  workingDirectory := []

/-- A configuration with one rule. -/
def oneRule : String :=
  "rules = [\x7b selector = \"pkg.*\", directive = \"audit\", log_type = \"data_access\" \x7d]\n"

/-- A directory in the second place is not passed over for a good file in the third, and comes to the same
when that file is gone and no longer searched for. -/
theorem load_decided_blocked :
    let s : ConfigSearch := ⟨["a.toml", "b.toml", "c.toml"]⟩
    let fs := blocked (some (.file oneRule.toUTF8.toList))
    s.load fs = .error (.unreadable "b.toml" .isADirectory) ∧
      load ⟨["a.toml", "b.toml"]⟩ (blocked none) = s.load fs ∧
      load ⟨["a.toml"]⟩ fs = .error (.notFound ["a.toml"]) ∧
      ∃ c, load ⟨["c.toml"]⟩ fs = .ok c ∧ c.validate = .ok () := by
  intro s fs
  obtain ⟨-, -, hyields, -, hlater, hfiles, -⟩ := load_decided s fs
  obtain ⟨hnone, -⟩ := load_decided ⟨["a.toml"]⟩ fs
  obtain ⟨-, -, -, -, -, -, hvalid⟩ := load_decided ⟨["c.toml"]⟩ fs
  refine ⟨?_, ?_, ?_, ?_⟩
  · have hsettles : Settles s.paths fs "b.toml" .directory :=
      ⟨["a.toml"], ["c.toml"], ["b.toml"], rfl, by decide +kernel, rfl⟩
    generalize s.load fs = r at hyields
    cases hyields _ _ hsettles
    rfl
  · refine hlater ["a.toml", "b.toml"] ["c.toml"] [] (blocked none) rfl
      ⟨"b.toml", by simp, by decide +kernel⟩ (hfiles _ _ ⟨rfl, fun p => ?_, ?_⟩)
    · by_cases hd : p = [] ∨ p = ["b.toml"]
      · simp [fs, blocked, hd]
      · by_cases hc : p = ["c.toml"] <;> simp [fs, blocked, hd, hc]
    · have hreach : fs.reach "a.toml" = .ok ["a.toml"] ∧ fs.reach "b.toml" = .ok ["b.toml"] :=
        ⟨rfl, rfl⟩
      intro path hmem place hplace
      simp only [List.mem_cons, List.not_mem_nil, or_false] at hmem
      rcases hmem with rfl | rfl
      · cases hreach.1.symm.trans hplace
        rfl
      · cases hreach.2.symm.trans hplace
        rfl
  · exact (hnone ["a.toml"]).2 ⟨rfl, by decide +kernel⟩
  · have hok : (load ⟨["c.toml"]⟩ fs).isOk = true := by decide +kernel
    cases hc : load ⟨["c.toml"]⟩ fs with
    | error e => rw [hc] at hok; cases hok
    | ok c => exact ⟨c, rfl, hvalid c hc⟩

end ConfigSearch

end CallAudit
