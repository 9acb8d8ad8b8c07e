import CallAudit.MethodName
import CallAudit.Rule

/-!
# How a method may be written

A written name is split at its last slash, or at its last point if it has no slash, after the slashes in
front are dropped. `ReadAs` says how a name is read without saying how it is split: one rule for each form.
There is always exactly one reading, `readAs_iff`, and what is said of names is said form by form.

Results:
* `service_ne_empty_iff`: which written names have a service.
* `parse_slashes_append`: slashes in front count nothing.
* `full_parse_eq_self_iff`: a name is its own full name exactly if it has no slash.
* `parse_normalizes`: however a method is written, it gets one full name.
-/
namespace CallAudit.MethodName

/-- How a name without slashes in front is read: its full name and its service. -/
inductive ReadAs : List Char → List Char → List Char → Prop where
  | slash (service method : List Char) : '/' ∉ method →
      ReadAs (service ++ '/' :: method) (service ++ '.' :: method) service
  | point (service method : List Char) : '/' ∉ service → '/' ∉ method → '.' ∉ method →
      ReadAs (service ++ '.' :: method) (service ++ '.' :: method) service
  | bare (name : List Char) : '/' ∉ name → '.' ∉ name → ReadAs name name []

/-- Every name is read in one way. -/
theorem readAs_iff (cs full service : List Char) :
    ReadAs (cs.dropWhile (· == '/')) full service ↔ parseChars cs = (full, service) := by
  unfold parseChars
  dsimp only
  generalize cs.dropWhile (· == '/') = name
  constructor
  · rintro (⟨service, method, hm⟩ | ⟨service, method, hs, hm, hp⟩ | ⟨_, hs, hp⟩)
    · rw [splitLast?_eq_some_iff.2 ⟨rfl, hm⟩]
    · rw [splitLast?_eq_none_iff.2 (by simp [hs, hm]), splitLast?_eq_some_iff.2 ⟨rfl, hp⟩]
      rfl
    · rw [splitLast?_eq_none_iff.2 hs, splitLast?_eq_none_iff.2 hp]
      rfl
  · cases hslash : splitLast? '/' name with
    | some parts =>
      rintro ⟨⟩
      obtain ⟨rfl, hm⟩ := splitLast?_eq_some_iff.1 hslash
      exact .slash _ _ hm
    | none =>
      have hs : '/' ∉ name := splitLast?_eq_none_iff.1 hslash
      cases hpoint : splitLast? '.' name with
      | some parts =>
        rintro ⟨⟩
        obtain ⟨rfl, hp⟩ := splitLast?_eq_some_iff.1 hpoint
        rw [List.mem_append, List.mem_cons] at hs
        exact .point _ _ (fun h => hs (.inl h)) (fun h => hs (.inr (.inr h))) hp
      | none =>
        rintro ⟨⟩
        exact .bare _ hs (splitLast?_eq_none_iff.1 hpoint)

theorem readAs_parse (raw : String) :
    ReadAs (raw.toList.dropWhile (· == '/')) (parse raw).full.toList (parse raw).service.toList := by
  rw [readAs_iff, parse, String.toList_ofList, String.toList_ofList]

theorem parse_of_readAs (raw full service : String)
    (h : ReadAs (raw.toList.dropWhile (· == '/')) full.toList service.toList) :
    parse raw = ⟨full, service⟩ := by
  rw [parse, (readAs_iff _ _ _).1 h]
  dsimp only
  rw [String.ofList_toList, String.ofList_toList]

/-! ## Name and service -/

theorem ReadAs.full_of_service {cs full service : List Char} (h : ReadAs cs full service) :
    service = [] ∨ ∃ method, full = service ++ '.' :: method := by
  cases h with
  | slash _ method | point _ method => exact .inr ⟨method, rfl⟩
  | bare => exact .inl rfl

/-- Behind its service, a full name goes on with a point. -/
theorem full_eq_of_service (raw : String) :
    (parse raw).service = "" ∨ ∃ method, (parse raw).full = (parse raw).service ++ "." ++ method := by
  rcases (readAs_parse raw).full_of_service with h | ⟨method, h⟩
  · exact .inl (String.toList_eq_nil_iff.1 h)
  · refine .inr ⟨String.ofList method, String.toList_inj.1 ?_⟩
    simp [h]

theorem full_ne_empty (raw : String) (h : (parse raw).service ≠ "") : (parse raw).full ≠ "" := by
  rcases full_eq_of_service raw with hs | ⟨method, hf⟩
  · exact absurd hs h
  · rw [hf]
    intro he
    simpa using congrArg String.toList he

theorem ReadAs.service_ne_nil_iff {cs full service : List Char} (h : ReadAs cs full service)
    (hhead : ∀ rest, cs ≠ '/' :: rest) : service ≠ [] ↔ '/' ∈ cs ∨ '.' ∈ cs.tail := by
  cases h with
  | slash _ method =>
    refine iff_of_true ?_ (.inl (by simp))
    rintro rfl
    exact hhead method rfl
  | point _ method hs hm hp =>
    rw [or_iff_right (by simp [hs, hm])]
    cases service with
    | nil => exact iff_of_false (fun h => h rfl) hp
    | cons c service => exact iff_of_true (List.cons_ne_nil c service) (by simp)
  | bare _ hs hp =>
    exact iff_of_false (fun h => h rfl) (not_or.2 ⟨hs, fun h => hp (List.mem_of_mem_tail h)⟩)

/-- Which written names have a service: apart from slashes in front, those with a slash, or with a point
behind their first character. -/
theorem service_ne_empty_iff (raw : String) :
    (parse raw).service ≠ "" ↔
      '/' ∈ raw.toList.dropWhile (· == '/') ∨ '.' ∈ (raw.toList.dropWhile (· == '/')).tail := by
  have hhead : ∀ rest, raw.toList.dropWhile (· == '/') ≠ '/' :: rest := fun rest h => by
    have := List.head?_dropWhile_not (· == '/') raw.toList
    simp [h] at this
  rw [← (readAs_parse raw).service_ne_nil_iff hhead, ne_eq, ne_eq, String.toList_eq_nil_iff]

/-! ## Slashes -/

/-- Slashes in front count nothing. -/
theorem parse_slashes_append (n : Nat) (raw : String) :
    parse (String.ofList (List.replicate n '/') ++ raw) = parse raw := by
  have hdrop : (List.replicate n '/' ++ raw.toList).dropWhile (· == '/') =
      raw.toList.dropWhile (· == '/') :=
    List.dropWhile_append_of_pos (fun c hc => by simp [List.eq_of_mem_replicate hc])
  refine parse_of_readAs _ _ _ ?_
  rw [String.toList_append, String.toList_ofList, hdrop]
  exact readAs_parse raw

theorem dropWhile_slash_of_head (cs : List Char) (h : ∀ rest, cs ≠ '/' :: rest) :
    cs.dropWhile (· == '/') = cs := by
  cases cs with
  | nil => rfl
  | cons c rest =>
    have hc : c ≠ '/' := fun he => h rest (by rw [he])
    simp [hc]

theorem dropWhile_slash_of_notMem (cs : List Char) (h : '/' ∉ cs) : cs.dropWhile (· == '/') = cs :=
  dropWhile_slash_of_head cs (fun _ he => h (he ▸ List.mem_cons_self))

/-- A full name has one slash less than the written name has behind those in front. -/
theorem ReadAs.count_slash {cs full service : List Char} (h : ReadAs cs full service) :
    full.count '/' = cs.count '/' - 1 := by
  cases h with
  | slash _ method hm => simp [List.count_append, List.count_eq_zero.2 hm]
  | point _ method hs hm => simp [List.count_append, List.count_eq_zero.2 hm, List.count_eq_zero.2 hs]
  | bare _ hs => simp [List.count_eq_zero.2 hs]

theorem ReadAs.full_of_notMem {cs full service : List Char} (h : ReadAs cs full service)
    (hs : '/' ∉ cs) : full = cs := by
  cases h with
  | slash => exact absurd (by simp) hs
  | point | bare => rfl

theorem ReadAs.last_point {cs full service : List Char} (h : ReadAs cs full service) (hs : '/' ∉ cs)
    (hp : '.' ∈ cs) : ∃ method, cs = service ++ '.' :: method ∧ '.' ∉ method := by
  cases h with
  | slash => exact absurd (by simp) hs
  | point _ method _ _ hm => exact ⟨method, rfl, hm⟩
  | bare _ _ hno => exact absurd hp hno

/-- A name is its own full name exactly if it has no slash. -/
theorem full_parse_eq_self_iff (raw : String) : (parse raw).full = raw ↔ '/' ∉ raw.toList := by
  have hread := readAs_parse raw
  constructor
  · intro h
    have hcount := hread.count_slash
    have hle : (raw.toList.dropWhile (· == '/')).count '/' ≤ raw.toList.count '/' :=
      (List.dropWhile_sublist _).count_le _
    rw [h] at hcount
    exact List.count_eq_zero.1 (by omega)
  · intro h
    rw [dropWhile_slash_of_notMem raw.toList h] at hread
    exact String.toList_inj.1 (hread.full_of_notMem h)

/-! ## Service and method -/

section
variable (service method : String) (hne : service ≠ "") (hs : '/' ∉ service.toList)
variable (hm : '/' ∉ method.toList)
include hne hs hm

/-- Written with a slash. -/
theorem parse_slash : parse (service ++ "/" ++ method) = ⟨service ++ "." ++ method, service⟩ := by
  have hhead : ∀ rest, service.toList ++ '/' :: method.toList ≠ '/' :: rest := by
    intro rest he
    cases hc : service.toList with
    | nil => exact hne (String.toList_eq_nil_iff.1 hc)
    | cons c cs =>
      rw [hc] at he hs
      exact hs (by rw [(List.cons.inj he).1]; exact List.mem_cons_self)
  refine parse_of_readAs _ _ _ ?_
  rw [show (service ++ "/" ++ method).toList = service.toList ++ '/' :: method.toList by simp,
    show (service ++ "." ++ method).toList = service.toList ++ '.' :: method.toList by simp,
    dropWhile_slash_of_head _ hhead]
  exact .slash service.toList method.toList hm

/-- Written with a slash in front as well. -/
theorem parse_slashes : parse ("/" ++ service ++ "/" ++ method) = ⟨service ++ "." ++ method, service⟩ := by
  rw [show "/" ++ service ++ "/" ++ method = String.ofList (List.replicate 1 '/') ++
      (service ++ "/" ++ method) by simp [← String.toList_inj], parse_slashes_append]
  exact parse_slash service method hne hs hm

omit hne in
/-- Written with a point. -/
theorem full_parse_point : (parse (service ++ "." ++ method)).full = service ++ "." ++ method :=
  (full_parse_eq_self_iff _).2 (by simp [hs, hm])

omit hne in
/-- Then the service goes on to the last point. -/
theorem service_parse_point :
    (parse (service ++ "." ++ method)).service = service ↔ '.' ∉ method.toList := by
  have hchars : (service ++ "." ++ method).toList = service.toList ++ '.' :: method.toList := by simp
  have hslash : '/' ∉ service.toList ++ '.' :: method.toList := by simp [hs, hm]
  have hdrop := dropWhile_slash_of_notMem _ hslash
  constructor
  · intro h
    have hread := readAs_parse (service ++ "." ++ method)
    rw [hchars, hdrop, h] at hread
    obtain ⟨last, hlast, hp⟩ := hread.last_point hslash (by simp)
    rw [(List.cons.inj (List.append_cancel_left hlast)).2]
    exact hp
  · intro hp
    have hread : ReadAs ((service ++ "." ++ method).toList.dropWhile (· == '/'))
        (service ++ "." ++ method).toList service.toList := by
      rw [hchars, hdrop]
      exact .point service.toList method.toList hs hm hp
    rw [parse_of_readAs _ _ _ hread]

end

/-- **One full name for every way of writing.**
* Slashes in front count nothing, however many.
* A full name is its service, a point and the rest, where there is a service.
* A method of a service, neither with a slash, has one full name and hence one governing rule, whether it is
  written with a slash in front, with a slash between, or with a point. Written with slashes it has that
  service, and written with a point exactly if the method has no point of its own.
* A full name is its own full name exactly if the written name has at most one slash behind those in
  front. -/
theorem parse_normalizes :
    (∀ n raw, parse (String.ofList (List.replicate n '/') ++ raw) = parse raw) ∧
    (∀ raw, (parse raw).service = "" ∨
      ∃ method, (parse raw).full = (parse raw).service ++ "." ++ method) ∧
    (∀ service method : String, service ≠ "" → '/' ∉ service.toList → '/' ∉ method.toList →
      let name : MethodName := ⟨service ++ "." ++ method, service⟩
      let pointed := parse (service ++ "." ++ method)
      parse ("/" ++ service ++ "/" ++ method) = name ∧ parse (service ++ "/" ++ method) = name ∧
        pointed.full = name.full ∧ (pointed.service = service ↔ '.' ∉ method.toList) ∧
        ∀ rules, mostRelevant (parse ("/" ++ service ++ "/" ++ method)).full rules =
            mostRelevant pointed.full rules ∧
          mostRelevant (parse (service ++ "/" ++ method)).full rules =
            mostRelevant pointed.full rules) ∧
    ∀ raw, (parse (parse raw).full).full = (parse raw).full ↔
      (raw.toList.dropWhile (· == '/')).count '/' ≤ 1 := by
  refine ⟨parse_slashes_append, full_eq_of_service, fun service method hne hs hm => ?_, fun raw => ?_⟩
  · have hslashes := parse_slashes service method hne hs hm
    have hslash := parse_slash service method hne hs hm
    have hpoint := full_parse_point service method hs hm
    refine ⟨hslashes, hslash, hpoint, service_parse_point service method hs hm, fun rules => ?_⟩
    rw [hslashes, hslash, hpoint]
    exact ⟨rfl, rfl⟩
  · calc (parse (parse raw).full).full = (parse raw).full
      _ ↔ (parse raw).full.toList.count '/' = 0 := by
        rw [full_parse_eq_self_iff, List.count_eq_zero]
      _ ↔ (raw.toList.dropWhile (· == '/')).count '/' ≤ 1 := by
        rw [(readAs_parse raw).count_slash]
        omega

/-- A method with a point of its own belongs to another service where it is written with a point, and a name
with two slashes is no full name for good. -/
theorem parse_normalizes_pointed :
    parse "/pkg.Users/Get.All" = ⟨"pkg.Users.Get.All", "pkg.Users"⟩ ∧
      (parse "pkg.Users.Get.All").full = "pkg.Users.Get.All" ∧
      (parse "pkg.Users.Get.All").service ≠ "pkg.Users" ∧
      (parse (parse "//a/b.c").full).full = (parse "//a/b.c").full ∧
      (parse (parse "/a/b/c").full).full ≠ (parse "/a/b/c").full := by
  obtain ⟨-, -, hforms, hstable⟩ := parse_normalizes
  obtain ⟨hslashes, -, hpoint, hservice, -⟩ :=
    hforms "pkg.Users" "Get.All" (by decide) (by decide) (by decide)
  exact ⟨hslashes, hpoint, fun h => absurd (hservice.1 h) (by decide), (hstable "//a/b.c").2 (by decide),
    fun h => absurd ((hstable "/a/b/c").1 h) (by decide)⟩

end CallAudit.MethodName
