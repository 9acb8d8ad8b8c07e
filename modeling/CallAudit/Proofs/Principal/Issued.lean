import CallAudit.Json.Printer
import CallAudit.Proofs.Principal.TokenGrammar

/-!
# Issued tokens name their principal

Who issues a token writes its claims as compact JSON text, the text as base64, and header and signature
around it. The call that carries such a token is the call of the email among the claims.

Results:
* `Json.parse?_render`: written JSON is read back, nested up to the limit.
* `Token.claims_issue`: the claims of an issued token.
* `FromRawJwt.principal_issue`: the principal of a call with an issued token.
-/
namespace CallAudit

/-- A written value is the value that is read. -/
theorem Json.parse?_render (v : Json) (hv : v.Sound) (hl : v.depth ≤ maxDepth) :
    parse? v.render = some v := by
  rw [parse?, read?_render v hv hl, Option.bind_some, value?_tree]

namespace Token

/-- The token of these claims, its payload padded with this many marks. -/
def issue (header : String) (claims : Json) (padding : Nat) (signature : String) : String :=
  header ++ "." ++ String.ofList (Base64Url.encode claims.render.toUTF8.toList) ++
    String.ofList (List.replicate padding '=') ++ "." ++ signature

theorem encloses_issue (header signature : String) (claims : Json) (padding : Nat)
    (hh : '.' ∉ header.toList) (hs : '.' ∉ signature.toList) :
    Encloses (issue header claims padding signature)
      (Base64Url.encode claims.render.toUTF8.toList) := by
  refine ⟨header.toList, signature.toList, padding, hh, hs, ?_⟩
  have hpoint : ".".toList = ['.'] := rfl
  simp only [issue, String.toList_append, String.toList_ofList, hpoint, List.append_assoc,
    List.cons_append, List.nil_append]

theorem issue_ne_empty (header signature : String) (claims : Json) (padding : Nat) :
    issue header claims padding signature ≠ "" := by
  intro h
  have hpoint : '.' ∈ (issue header claims padding signature).toList := by
    simp [issue, String.toList_append]
  rw [h] at hpoint
  cases hpoint

/-- The claims of an issued token are the members that were written. -/
theorem claims_issue (header signature : String) (ms : List (String × Json)) (padding : Nat)
    (hms : (Json.object ms).Sound) (hl : (Json.object ms).depth ≤ Json.maxDepth)
    (hh : '.' ∉ header.toList) (hs : '.' ∉ signature.toList) :
    claims (issue header (.object ms) padding signature) =
      .ok (Keyed.ofList (Json.canonicalMembers ms)) := by
  have hread : members? (Json.object ms).render.toUTF8.toList =
      some (Keyed.ofList (Json.canonicalMembers ms)) := by
    rw [members?, (fromUTF8?_eq_some _ _).2 rfl, Option.bind_some, Json.parse?_render _ hms hl]
  exact (claims_eq_ok_iff _ _).2
    ⟨_, encloses_issue header signature (.object ms) padding hh hs, hread⟩

end Token

namespace FromRawJwt

variable {σ : Type}

/-- The email of an issued token is the principal of the call: whatever else the claims and the headers
hold, whatever stands around the payload, and in any case of the letters of key and lead. -/
theorem principal_issue (x : FromRawJwt σ) (source : JwtSource) (ms : List (String × Json))
    (email header signature lead key : String) (padding : Nat)
    (before after : List (String × String)) (state : σ)
    (hsources : x.sources = [source])
    (haccepts : ∀ token s, (x.verifier.verify token s).1 = .ok ())
    (hms : (Json.object ms).Sound) (hl : (Json.object ms).depth ≤ 127)
    (hemail : (Json.object ms).get? "email" = some (.string email))
    (hh : '.' ∉ header.toList) (hs : '.' ∉ signature.toList)
    (hlead : Ascii.Same lead source.lead) (hkey : Ascii.Same source.key key)
    (hafter : ∀ e ∈ after, ¬ Ascii.Same source.key e.1) :
    (x.principal (some (Metadata.ofList (before ++
      (key, lead ++ Token.issue header (.object ms) padding signature) :: after))) state).1 =
        .ok email := by
  generalize htoken : Token.issue header (.object ms) padding signature = token
  have hoffers : source.Offers (Metadata.ofList (before ++ (key, lead ++ token) :: after)) token := by
    refine ⟨lead, ?_, hlead, htoken ▸ Token.issue_ne_empty header signature (.object ms) padding⟩
    exact (Metadata.get?_ofList_eq_some_iff _ _ _).2 ⟨before, key, after, rfl, hkey, hafter⟩
  have hchosen : chooseToken? x.sources
      (Metadata.ofList (before ++ (key, lead ++ token) :: after)) = some token :=
    (chooseToken?_eq_some_iff _ _ _).2 ⟨[], source, [], hsources, hoffers, by simp⟩
  have hclaims := Token.claims_issue header signature ms padding hms hl hh hs
  have hget : Keyed.get? "email" (Keyed.ofList (Json.canonicalMembers ms)) =
      some (.string email) := by
    rw [Json.get?_canonicalMembers, hemail]
    rfl
  rw [htoken] at hclaims
  rw [x.principal_of_some _ state token hchosen, haccepts]
  exact ((decodePrincipal_iff token).1 email).2 ⟨_, hclaims, hget⟩

/-- An email with a quote, a line break and a character beyond 16 bits, between claims of other types. -/
theorem principal_issue_quoted :
    let x : FromRawJwt Unit := { sources := [⟨"authorization", "Bearer "⟩] }
    let claims : Json := .object [("aud", .array [.null, .bool true]), ("email", .string "\"a\n𝄞"),
      ("exp", .number (.int 1700000000))]
    (x.principal (some (Metadata.ofList [("Cookie", "id"),
      ("AUTHORIZATION", "bEARER " ++ Token.issue "e30" claims 2 "")])) ()).1 = .ok "\"a\n𝄞" :=
  principal_issue _ ⟨"authorization", "Bearer "⟩ _ _ "e30" "" "bEARER " "AUTHORIZATION" 2
    [("Cookie", "id")] [] () rfl (fun _ _ => rfl)
    ⟨⟨trivial, trivial, trivial⟩, trivial, show Json.Number.Integral _ by decide, trivial⟩
    (by decide) rfl (by decide) (by decide) (by decide) (by decide) (by simp)

end FromRawJwt

end CallAudit
