import CallAudit.Json.Reader
import CallAudit.Principal.Base64Url
import CallAudit.Text.Split

/-!
# Tokens and their claims

A bearer token has three parts joined by points: header, payload and signature. The payload is
URL-safe base64 of a JSON object, the claims; padding after it is ignored. Header and signature are
not looked at.

* `Token.claims`: the claims of a token, or what is wrong with it.
-/
namespace CallAudit

/-- What keeps a token from being read. -/
inductive TokenFault where
  | partCount
  | payload (e : Base64Url.DecodeError)
  /-- the payload is no JSON object -/
  | claims
  deriving DecidableEq, Repr

def TokenFault.message : TokenFault → String
  | partCount => "token must have 3 parts"
  | payload e => "failed to decode payload: " ++ e.message
  | claims => "failed to parse claims: "

namespace Token

/-- The payload part of a token. -/
def payloadPart? (token : List Char) : Option (List Char) :=
  match splitAll '.' token with
  | [_, payload, _] => some payload
  | _ => none

/-- The payload without its padding. -/
def unpadded (payload : List Char) : List Char := (payload.reverse.dropWhile (· == '=')).reverse

/-- The members of the JSON object that the bytes hold, in key order, the last of each key. -/
def members? (bytes : List UInt8) : Option (List (String × Json)) :=
  match (String.fromUTF8? bytes.toByteArray).bind Json.parse? with
  | some (.object ms) => some (Keyed.ofList (Json.canonicalMembers ms))
  | _ => none

/-- The claims of a token. -/
def claims (token : String) : Except TokenFault (List (String × Json)) :=
  match payloadPart? token.toList with
  | none => .error .partCount
  | some payload =>
    match Base64Url.decode (String.ofList (unpadded payload)).toUTF8.toList with
    | .error e => .error (.payload e)
    | .ok bytes =>
      match members? bytes with
      | some ms => .ok ms
      | none => .error .claims

end Token

end CallAudit
