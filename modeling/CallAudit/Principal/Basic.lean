import CallAudit.Metadata
import CallAudit.Principal.Token

/-!
# Who calls

The principal of a call is the email in the claims of its token. The token is what a source finds in
the call's metadata: the value of its key, without its lead. The first source that finds a non-empty
token decides; a verifier judges that token before its claims are read, and no later source is asked.

* `JwtSource.strip?`: what follows the lead.
* `chooseToken?`: the token that decides.
* `FromRawJwt.principal`: the email, or what is wrong.
-/
namespace CallAudit

/-- Why a call has no principal. -/
inductive PrincipalError where
  | missingMetadata
  | noMatchingCredential
  | malformedToken (fault : TokenFault)
  | missingClaim (name : String)
  | invalidClaimType (name : String)
  /-- refused by the verifier -/
  | rejected (reason : String)
  deriving DecidableEq, Repr

def PrincipalError.message : PrincipalError → String
  | missingMetadata => "call carries no metadata"
  | noMatchingCredential => "no matching credential found in call metadata"
  | malformedToken fault => "malformed token: " ++ fault.message
  | missingClaim name => "token is missing the '" ++ name ++ "' claim"
  | invalidClaimType name => "invalid claim type: '" ++ name ++ "' is not a string"
  | rejected reason => "token rejected: " ++ reason

/-- Where a token may stand: a metadata key, and the text in front of the token. -/
structure JwtSource where
  key : String
  lead : String := ""
  deriving DecidableEq, Repr

namespace JwtSource

/-- The value after the lead, if it starts with the lead up to ASCII case. -/
def strip? (s : JwtSource) (value : String) : Option String := Ascii.stripLead? s.lead value

/-- The non-empty token that the source finds. -/
def token? (s : JwtSource) (m : Metadata) : Option String :=
  match (m.get? s.key).bind s.strip? with
  | some t => if t = "" then none else some t
  | none => none

end JwtSource

/-- The token of the first source that finds one. -/
def chooseToken? (sources : List JwtSource) (m : Metadata) : Option String :=
  sources.findSome? (fun s => s.token? m)

/-- Judges a token before its claims are trusted. It may keep a state. -/
structure Verifier (σ : Type) where
  verify : String → σ → Except PrincipalError Unit × σ
  /-- does it refuse anything at all? -/
  enforcing : Bool

/-- Trusts every token. -/
def Verifier.trusting (σ : Type) : Verifier σ := ⟨fun _ s => (.ok (), s), false⟩

/-- The claim that names the principal. -/
def emailClaim : String := "email"

/-- The email among the claims. -/
def emailOf (claims : List (String × Json)) : Except PrincipalError String :=
  match Keyed.get? emailClaim claims with
  | none => .error (.missingClaim emailClaim)
  | some (.string email) => .ok email
  | some _ => .error (.invalidClaimType emailClaim)

/-- The email in a token. -/
def decodePrincipal (token : String) : Except PrincipalError String :=
  match Token.claims token with
  | .error fault => .error (.malformedToken fault)
  | .ok claims => emailOf claims

/-- Finds the principal in a token of the metadata. -/
structure FromRawJwt (σ : Type) where
  sources : List JwtSource
  verifier : Verifier σ := Verifier.trusting σ

namespace FromRawJwt

variable {σ : Type}

/-- The principal of a call with this metadata. -/
def principal (x : FromRawJwt σ) (metadata : Option Metadata) (state : σ) :
    Except PrincipalError String × σ :=
  match metadata with
  | none => (.error .missingMetadata, state)
  | some m =>
    match chooseToken? x.sources m with
    | none => (.error .noMatchingCredential, state)
    | some token =>
      match x.verifier.verify token state with
      | (.error e, state) => (.error e, state)
      | (.ok (), state) => (decodePrincipal token, state)

end FromRawJwt

end CallAudit
