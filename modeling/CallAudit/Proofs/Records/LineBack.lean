import CallAudit.AuditRecord.Line
import CallAudit.Proofs.Json.Nesting
import CallAudit.Proofs.Records.Snapshots
import CallAudit.Proofs.Time.ReadBack

/-!
# Written records are read back

The line of a record is read as that record, field for field, whenever its numbers are finite, its
time is one that texts name and the line keeps within the reader's limit of nesting. Each of the three
holds of every record that was read. So a record read from any text is read again from its own line,
and writing and reading it once more changes nothing.

Results:
* `CallOutcome.ofTree?_toJson`, `AuditRecord.Body.ofTree?_toJson`, `AuditRecord.ofTree?_toJson`: each
  structure is read back from what it is written as.
* `AuditRecord.Legible`: what the line of a record needs to be read back.
* `AuditRecord.legible_of_parse?`: a record that was read has it.
-/
namespace CallAudit

namespace Json

theorem present_nil {α : Type} : present ([] : List (String × Option α)) = [] := rfl

theorem present_cons (k : String) (v : Option Json) (fields : List (String × Option Json)) :
    present ((k, v) :: fields) = optionalMember k v ++ present fields := by
  cases v <;> rfl

theorem optionalMember_some (k : String) (v : Json) : optionalMember k (some v) = [(k, v)] := rfl

/-! ## Optional parts -/

theorem withDefault?_some {α β : Type} (default : β) (decode : α → Option β) (v : α) :
    withDefault? default decode (some v) = decode v := rfl

/-- A text that is left out where it is empty is read back. -/
theorem withDefault?_nonemptyText (s : String) :
    withDefault? "" (Tree.as? string?) ((nonemptyText s).map tree) = some s := by
  unfold nonemptyText
  split
  · rename_i h
    rw [h]
    rfl
  · exact as?_tree string? (.string s)

theorem eq_string_of_nonemptyText (s : String) (v : Json) (h : v ∈ nonemptyText s) :
    ∃ t, v = .string t := by
  unfold nonemptyText at h
  split at h
  · cases h
  · exact ⟨s, (Option.some.inj h).symm⟩

theorem withDefault?_nullable_string (s : Option String) :
    withDefault? none (Tree.as? (nullable? string?)) ((s.map Json.string).map tree) = some s := by
  cases s with
  | none => rfl
  | some s => exact as?_tree (nullable? string?) (.string s)

/-- A snapshot is read back, and its absence too. -/
theorem withDefault?_nullable_snapshot (s : Option Snapshot) (h : ∀ t ∈ s, t.Finite) :
    withDefault? none (Tree.as? (nullable? snapshot?)) ((s.map Snapshot.toJson).map tree) = some s := by
  cases s with
  | none => rfl
  | some s =>
    refine (as?_tree (nullable? snapshot?) s.toJson).trans ?_
    exact congrArg (fun t => some (some t)) (s.ofMembers_fieldsJson (h s rfl))

theorem withDefault?_snapshot (s : Snapshot) (h : s.Finite) :
    withDefault? Snapshot.empty (Tree.as? snapshot?)
      ((if s.isEmpty then none else some s.toJson).map tree) = some s := by
  split
  · rename_i he
    exact congrArg some (s.eq_empty_of_isEmpty he).symm
  · refine (as?_tree snapshot? s.toJson).trans ?_
    exact congrArg some (s.ofMembers_fieldsJson h)

theorem int32?_toInt (n : Int32) : int32? (.number (.int n.toInt)) = some n := by
  rw [int32?, if_pos ⟨n.minValue_le_toInt, n.toInt_le⟩, Int32.ofInt_toInt]

theorem integral_toInt (n : Int32) : Number.Integral n.toInt := by
  have hlow : Int64.minValue.toInt ≤ Int32.minValue.toInt := by decide
  have hhigh : Int32.maxValue.toInt < UInt64.size := by decide
  exact ⟨Int.le_trans hlow n.minValue_le_toInt, Int.lt_of_le_of_lt n.toInt_le hhigh⟩

theorem texts?_map_string (es : List (String × String)) :
    texts? (es.map (fun e => (e.1, Json.string e.2))) = some es := by
  induction es with
  | nil => rfl
  | cons e es ih => simp only [List.map_cons, texts?, string?, ih]

theorem textMap?_toJson (d : Dict String) : textMap? d.toJson = some d := by
  rw [Dict.toJson, textMap?, Dict.map, texts?_map_string, Option.map_some]
  exact congrArg some (Dict.ext (Keyed.ofList_of_sorted d.entries d.sorted))

end Json

open Json (present)

/-! ## The status of a call -/

namespace CallOutcome

def fields (s : CallOutcome) : List (String × Option Json) :=
  [("code", some (.number (.int s.code.toInt))), ("message", Json.nonemptyText s.message)]

theorem toJson_eq (s : CallOutcome) : s.toJson = .object (present s.fields) := by
  simp only [toJson, fields, Json.present_cons, Json.present_nil, Json.optionalMember_some,
    List.append_nil]

theorem ofTree?_toJson (s : CallOutcome) : ofTree? (Json.tree s.toJson) = some s := by
  have hfields := Json.fields?_tree ["code", "message"] s.fields rfl (by decide)
  unfold ofTree?
  rw [toJson_eq, hfields]
  simp only [fields, List.map_cons, List.map_nil, Option.map_some, Option.bind_eq_bind,
    Option.bind_some, Json.as?_tree, Json.int32?_toInt, Json.withDefault?_nonemptyText]

theorem sound_toJson (s : CallOutcome) : s.toJson.Sound := by
  rw [toJson_eq]
  refine Json.sound_present _ (fun f hf v hv => ?_)
  simp only [fields, List.mem_cons, List.not_mem_nil, or_false] at hf
  rcases hf with rfl | rfl
  · cases hv
    exact Json.integral_toInt s.code
  · obtain ⟨t, rfl⟩ := Json.eq_string_of_nonemptyText s.message v hv
    trivial

theorem depth_toJson (s : CallOutcome) : s.toJson.depth = 1 := by
  rw [toJson, Json.nonemptyText]
  split <;> rfl

end CallOutcome

/-- A status is read back, and its absence too. -/
theorem AuditRecord.optionalOutcome?_toJson (s : Option CallOutcome) :
    optionalOutcome? ((s.map CallOutcome.toJson).map Json.tree) = some s := by
  cases s with
  | none => rfl
  | some s => exact congrArg (Option.map some) s.ofTree?_toJson

/-! ## The call -/

namespace AuditRecord.Body

def fields (b : Body) : List (String × Option Json) :=
  [("method_name", some (.string b.methodName)), ("service_name", some (.string b.serviceName)),
    ("resource_name", Json.nonemptyText b.resourceName),
    ("principal_email", some (.string b.principalEmail)),
    ("request", b.request.map Snapshot.toJson), ("response", b.response.map Snapshot.toJson),
    ("status", b.status.map CallOutcome.toJson),
    ("metadata", if b.metadata.isEmpty then none else some b.metadata.toJson)]

theorem toJson_eq (b : Body) : b.toJson = .object (present b.fields) := by
  simp only [toJson, fields, Json.present_cons, Json.present_nil, Json.optionalMember_some,
    List.append_assoc, List.cons_append, List.nil_append, List.append_nil]

/-- The snapshots of a call. -/
def snapshots (b : Body) : List Snapshot := b.request.toList ++ b.response.toList ++ [b.metadata]

/-- Every number of the snapshots is finite. -/
def Finite (b : Body) : Prop := ∀ s ∈ b.snapshots, s.Finite

theorem mem_snapshots (b : Body) (s : Snapshot) :
    s ∈ b.snapshots ↔ s ∈ b.request ∨ s ∈ b.response ∨ s = b.metadata := by
  simp [snapshots]

theorem ofTree?_toJson (b : Body) (h : b.Finite) : ofTree? (Json.tree b.toJson) = some b := by
  have hreq : ∀ s ∈ b.request, s.Finite := fun s hs => h s ((b.mem_snapshots s).2 (.inl hs))
  have hres : ∀ s ∈ b.response, s.Finite := fun s hs => h s ((b.mem_snapshots s).2 (.inr (.inl hs)))
  have hmeta : b.metadata.Finite := h _ ((b.mem_snapshots _).2 (.inr (.inr rfl)))
  have hfields := Json.fields?_tree ["method_name", "service_name", "resource_name",
    "principal_email", "request", "response", "status", "metadata"] b.fields rfl (by decide)
  unfold ofTree?
  rw [toJson_eq, hfields]
  simp only [fields, List.map_cons, List.map_nil, Option.map_some, Option.bind_eq_bind,
    Option.bind_some, Json.as?_tree, Json.withDefault?_nonemptyText,
    Json.withDefault?_nullable_snapshot _ hreq, Json.withDefault?_nullable_snapshot _ hres,
    Json.withDefault?_snapshot _ hmeta, optionalOutcome?_toJson, Json.string?]

/-- The values of the fields: texts, snapshots and the status. -/
theorem cases_of_mem_fields (b : Body) (f : String × Option Json) (hf : f ∈ b.fields) (v : Json)
    (hv : v ∈ f.2) : (∃ s, v = .string s) ∨ (∃ s ∈ b.snapshots, v = s.toJson) ∨
      ∃ s : CallOutcome, v = s.toJson := by
  simp only [fields, List.mem_cons, List.not_mem_nil, or_false] at hf
  rcases hf with rfl | rfl | rfl | rfl | rfl | rfl | rfl | rfl
  · exact .inl ⟨_, (Option.some.inj hv).symm⟩
  · exact .inl ⟨_, (Option.some.inj hv).symm⟩
  · exact .inl (Json.eq_string_of_nonemptyText _ v hv)
  · exact .inl ⟨_, (Option.some.inj hv).symm⟩
  · obtain ⟨s, hs, rfl⟩ := Option.map_eq_some_iff.1 hv
    exact .inr (.inl ⟨s, (b.mem_snapshots s).2 (.inl hs), rfl⟩)
  · obtain ⟨s, hs, rfl⟩ := Option.map_eq_some_iff.1 hv
    exact .inr (.inl ⟨s, (b.mem_snapshots s).2 (.inr (.inl hs)), rfl⟩)
  · obtain ⟨s, -, rfl⟩ := Option.map_eq_some_iff.1 hv
    exact .inr (.inr ⟨s, rfl⟩)
  · dsimp only at hv
    split at hv
    · cases hv
    · exact .inr (.inl ⟨_, (b.mem_snapshots _).2 (.inr (.inr rfl)), (Option.some.inj hv).symm⟩)

theorem sound_toJson (b : Body) (h : b.Finite) : b.toJson.Sound := by
  rw [toJson_eq]
  refine Json.sound_present _ (fun f hf v hv => ?_)
  rcases b.cases_of_mem_fields f hf v hv with ⟨s, rfl⟩ | ⟨s, hs, rfl⟩ | ⟨s, rfl⟩
  · trivial
  · exact s.sound_toJson (h s hs)
  · exact s.sound_toJson

/-- The object of a call nests one level more than its snapshots and its status. -/
theorem depth_toJson_le (b : Body) (level : Nat) (h : ∀ s ∈ b.snapshots, s.toJson.depth ≤ level + 1) :
    b.toJson.depth ≤ level + 2 := by
  rw [toJson_eq]
  refine Json.depth_present_le _ _ (fun f hf v hv => ?_)
  rcases b.cases_of_mem_fields f hf v hv with ⟨s, rfl⟩ | ⟨s, hs, rfl⟩ | ⟨s, rfl⟩
  · exact Nat.zero_le _
  · exact h s hs
  · rw [s.depth_toJson]
    omega

end AuditRecord.Body

/-! ## The record -/

theorem Dict.sound_toJson (d : Dict String) : d.toJson.Sound :=
  (Json.soundMembers_iff _).2 (fun m hm => by
    obtain ⟨e, -, rfl⟩ := List.mem_map.1 hm
    trivial)

theorem Dict.depth_toJson_le (d : Dict String) : d.toJson.depth ≤ 1 :=
  Nat.succ_le_succ ((Json.depthMembers_le_iff _ 0).2 (fun m hm => by
    obtain ⟨e, -, rfl⟩ := List.mem_map.1 hm
    exact Nat.le_refl 0))

namespace AuditRecord

def fields (r : AuditRecord) : List (String × Option Json) :=
  [("log_type", some (.string r.logType.name)), ("mode", some (.string r.mode.name)),
    ("payload", some r.body.toJson), ("labels", some r.labels.toJson),
    ("operation", r.operation.map Json.string), ("timestamp", some (.string r.timestamp.render))]

theorem toJson_eq (r : AuditRecord) : r.toJson = .object (present r.fields) := by
  simp only [toJson, fields, Json.present_cons, Json.present_nil, Json.optionalMember_some,
    List.cons_append, List.nil_append, List.append_nil]

theorem ofTree?_toJson (r : AuditRecord) (h : r.body.Finite) (ht : r.timestamp.Representable) :
    ofTree? (Json.tree r.toJson) = some r := by
  have hfields := Json.fields?_tree ["log_type", "mode", "payload", "labels", "operation",
    "timestamp"] r.fields rfl (by decide)
  unfold ofTree?
  rw [toJson_eq, hfields]
  simp only [fields, List.map_cons, List.map_nil, Option.map_some, Option.bind_eq_bind,
    Option.bind_some, Json.as?_tree, Json.named?, Json.variant?, LogType.ofName?_name,
    LogMode.ofName?_name, Body.ofTree?_toJson _ h, Json.withDefault?_some, Json.textMap?_toJson,
    Json.withDefault?_nullable_string, Json.string?, Timestamp.parse?_render _ ht]

/-- The values of the fields: texts, the call and the labels. -/
theorem cases_of_mem_fields (r : AuditRecord) (f : String × Option Json) (hf : f ∈ r.fields) (v : Json)
    (hv : v ∈ f.2) : (∃ s, v = .string s) ∨ v = r.body.toJson ∨ v = r.labels.toJson := by
  simp only [fields, List.mem_cons, List.not_mem_nil, or_false] at hf
  rcases hf with rfl | rfl | rfl | rfl | rfl | rfl
  · exact .inl ⟨_, (Option.some.inj hv).symm⟩
  · exact .inl ⟨_, (Option.some.inj hv).symm⟩
  · exact .inr (.inl (Option.some.inj hv).symm)
  · exact .inr (.inr (Option.some.inj hv).symm)
  · obtain ⟨s, -, rfl⟩ := Option.map_eq_some_iff.1 hv
    exact .inl ⟨s, rfl⟩
  · exact .inl ⟨_, (Option.some.inj hv).symm⟩

theorem sound_toJson (r : AuditRecord) (h : r.body.Finite) : r.toJson.Sound := by
  rw [toJson_eq]
  refine Json.sound_present _ (fun f hf v hv => ?_)
  rcases r.cases_of_mem_fields f hf v hv with ⟨s, rfl⟩ | rfl | rfl
  · trivial
  · exact r.body.sound_toJson h
  · exact r.labels.sound_toJson

theorem depth_toJson_le (r : AuditRecord) (level : Nat) (h : r.body.toJson.depth ≤ level + 1) :
    r.toJson.depth ≤ level + 2 := by
  rw [toJson_eq]
  refine Json.depth_present_le _ _ (fun f hf v hv => ?_)
  rcases r.cases_of_mem_fields f hf v hv with ⟨s, rfl⟩ | rfl | rfl
  · exact Nat.zero_le _
  · exact h
  · exact Nat.le_trans r.labels.depth_toJson_le (Nat.le_add_left 1 level)

/-- What the line of a record needs to be read back. -/
structure Legible (r : AuditRecord) : Prop where
  finite : r.body.Finite
  representable : r.timestamp.Representable
  depth_le : r.toJson.depth ≤ Json.maxDepth

/-- A legible record is read back from its line. -/
theorem parse?_line_of_legible (r : AuditRecord) (h : r.Legible) : parse? r.line = some r := by
  rw [parse?, line, Json.read?_render r.toJson (r.sound_toJson h.finite) h.depth_le, Option.bind_some,
    r.ofTree?_toJson h.finite h.representable]

end AuditRecord

/-! ## Records that were read -/

namespace Json

/-- What a snapshot that was read holds. -/
theorem snapshot?_spec (level : Nat) (t : Tree) (s : Snapshot) (ht : t.Fits level)
    (h : t.as? snapshot? = some s) : s.Finite ∧ s.toJson.depth ≤ level := by
  obtain ⟨v, hv, h⟩ := Option.bind_eq_some_iff.1 h
  cases v with
  | object ms =>
    cases h
    exact ⟨Snapshot.finite_ofMembers ms,
      Nat.le_trans (Snapshot.depth_ofMembers_le ms) (depth_le_of_value? level t _ ht hv)⟩
  | _ => cases h

theorem nullable_snapshot?_spec (level : Nat) (slot : Option Tree) (o : Option Snapshot)
    (ht : ∀ t, slot = some t → t.Fits level)
    (h : withDefault? none (Tree.as? (nullable? snapshot?)) slot = some o) :
    ∀ s ∈ o, s.Finite ∧ s.toJson.depth ≤ level := by
  rintro s rfl
  cases slot with
  | none => cases h
  | some t =>
    refine snapshot?_spec level t s (ht t rfl) ?_
    obtain ⟨v, hv, h⟩ := Option.bind_eq_some_iff.1 h
    rw [Tree.as?, hv, Option.bind_some]
    cases v with
    | object ms =>
      cases h
      rfl
    | null => cases h
    | _ => cases h

end Json

namespace AuditRecord

/-- The snapshots of a call that was read are finite and nest no deeper than its members may. -/
theorem Body.snapshots_of_ofTree? (level : Nat) (t : Json.Tree) (b : Body) (ht : t.Fits (level + 2))
    (h : ofTree? t = some b) : ∀ s ∈ b.snapshots, s.Finite ∧ s.toJson.depth ≤ level + 1 := by
  intro s hs
  unfold ofTree? at h
  split at h
  · rename_i method service resource principal request response status metadata hfields
    simp only [Option.bind_eq_bind, Option.bind_eq_some_iff] at h
    obtain ⟨_, -, _, -, _, -, _, -, req, hreq, res, hres, _, -, m, hmeta, h⟩ := h
    cases h
    have hfit := Json.fields?_fits (level + 2) _ t _ ht hfields
    rcases (mem_snapshots _ s).1 hs with hs | hs | rfl
    · exact Json.nullable_snapshot?_spec (level + 1) request req
        (by rintro x rfl; exact hfit x (by simp)) hreq s hs
    · exact Json.nullable_snapshot?_spec (level + 1) response res
        (by rintro x rfl; exact hfit x (by simp)) hres s hs
    · cases metadata with
      | none =>
        cases hmeta
        exact ⟨trivial, Nat.succ_le_succ (Nat.zero_le _)⟩
      | some x => exact Json.snapshot?_spec (level + 1) x _ (hfit x (by simp)) hmeta
  · cases h

/-- **A record that was read is legible.** -/
theorem legible_of_parse? (s : String) (r : AuditRecord) (h : parse? s = some r) : r.Legible := by
  obtain ⟨t, ht, h⟩ := Option.bind_eq_some_iff.1 h
  have hfits := Json.read?_fits s t ht
  unfold ofTree? at h
  split at h
  · rename_i logType mode body labels operation timestamp hfields
    simp only [Option.bind_eq_bind, Option.bind_eq_some_iff] at h
    obtain ⟨_, -, _, -, b, ⟨x, hx, hbody⟩, _, -, _, -, time, ⟨_, -, htime⟩, h⟩ := h
    cases h
    obtain ⟨v, -, htime⟩ := Option.bind_eq_some_iff.1 htime
    obtain ⟨text, -, htime⟩ := Option.bind_eq_some_iff.1 htime
    have hfit := Json.fields?_fits Json.maxDepth _ t _ hfits hfields x (by simp [hx])
    have hsnapshots := Body.snapshots_of_ofTree? 124 x b hfit hbody
    exact ⟨fun s hs => (hsnapshots s hs).1, Timestamp.representable_of_parse? text time htime,
      depth_toJson_le _ 125 (b.depth_toJson_le 124 (fun s hs => (hsnapshots s hs).2))⟩
  · cases h

/-- The text after `n` rounds of reading a record from it and writing the record's line; none once it
holds no record. -/
def rewritten : Nat → String → Option String
  | 0, text => some text
  | n + 1, text => (parse? text).bind (fun r => rewritten n r.line)

theorem rewritten_line (r : AuditRecord) (h : parse? r.line = some r) (n : Nat) :
    rewritten n r.line = some r.line := by
  induction n with
  | zero => rfl
  | succ n ih => rw [rewritten, h, Option.bind_some, ih]

/-- **The line of a record is read back as that record**, in every field and at every depth, exactly
when the record is legible. A record that any text holds is read back from its own line, and any number
of rounds of reading and writing gives that line. -/
theorem parse?_line (r : AuditRecord) :
    (parse? r.line = some r ↔ r.Legible) ∧
      ∀ text, parse? text = some r →
        parse? r.line = some r ∧ ∀ n, rewritten (n + 1) text = some r.line := by
  refine ⟨⟨legible_of_parse? r.line r, parse?_line_of_legible r⟩, fun text h => ?_⟩
  have hline := parse?_line_of_legible r (legible_of_parse? text r h)
  refine ⟨hline, fun n => ?_⟩
  rw [rewritten, h, Option.bind_some, rewritten_line r hline n]

/-- A record whose request nests, whose response has no fields and whose status has no message. -/
def nested : AuditRecord where
  logType := .dataAccess
  mode := .failClose
  body := {
    methodName := "pkg.Service.Get"
    serviceName := "pkg.Service"
    principalEmail := "a\"b"
    request := some (Snapshot.ofMembers
      [("z", .array [.null, .object [], .number (.int (-7))]), ("a", .string "\n\x01é")])
    response := some Snapshot.empty
    status := some ⟨-1, ""⟩ }
  labels := Dict.ofList [("env", "prod")]
  timestamp := { day := 20000, second := 86399, nanos := 1500000000 }

/-- It is read from a text of another layout, and from its own line. -/
theorem parse?_line_nested :
    let text := "[\"data_access\", \"fail_close\", [\"pkg.Service.Get\", \"pkg.Service\", \"\"," ++
      "\"a\\u0022b\", \x7b\"z\": [null, \x7b\x7d, -7.0], \"a\": \"\\n\\u0001é\"\x7d, \x7b\x7d, [-1]]," ++
      "\x7b\"env\": \"test\", \"env\": \"prod\"\x7d, null, \"2024-10-04t23:59:60.5Z\"]"
    nested.Legible ∧ parse? nested.line = some nested ∧ parse? text = some nested ∧
      ∀ n, rewritten (n + 1) text = some nested.line := by
  intro text
  have hread : parse? text = some nested := by decide +kernel
  obtain ⟨hiff, hagain⟩ := parse?_line nested
  obtain ⟨hline, hrounds⟩ := hagain text hread
  exact ⟨hiff.1 hline, hline, hread, hrounds⟩

end AuditRecord

end CallAudit
