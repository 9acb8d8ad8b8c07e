import CallAudit.Principal.Basic

/-!
# One credential decides

Which token a call is judged by is a matter of its metadata and the sources alone: the verifier sees that
token and no other, and there is no second try. So that it can be said what the verifier is asked, it is
made to note every token that it is given.

Results:
* `chooseToken?_eq_some_iff`: the token is what the first source that offers one offers.
* `principal_noting`: noting changes nothing.
* `principal_decides`: without an offer the verifier is not asked; with one it is asked once, on the
  chosen token, and the result is its refusal or what that token decodes to. Headers that no source up
  to the chosen one looks up have no say.
-/
namespace CallAudit

variable {σ : Type}

/-! ## Offers -/

/-- The headers have a value for the key of the source, and the value is its lead, in any case of the
letters, and the token after it. -/
def JwtSource.Offers (s : JwtSource) (m : Metadata) (token : String) : Prop :=
  ∃ head, m.get? s.key = some (head ++ token) ∧ Ascii.Same head s.lead ∧ token ≠ ""

/-- The token that the first source with an offer offers. -/
def Chosen (sources : List JwtSource) (m : Metadata) (token : String) : Prop :=
  ∃ before s after, sources = before ++ s :: after ∧ s.Offers m token ∧
    ∀ r ∈ before, ∀ t, ¬ r.Offers m t

theorem JwtSource.token?_eq_some_iff (s : JwtSource) (m : Metadata) (token : String) :
    s.token? m = some token ↔ s.Offers m token := by
  unfold JwtSource.token?
  constructor
  · intro h
    split at h
    · rename_i t ht
      split at h
      · cases h
      · rename_i hne
        cases h
        obtain ⟨value, hvalue, hstrip⟩ := Option.bind_eq_some_iff.1 ht
        obtain ⟨head, rfl, hhead⟩ := Ascii.stripLead?_eq_some_iff.1 hstrip
        exact ⟨head, hvalue, hhead, hne⟩
    · cases h
  · rintro ⟨head, hvalue, hhead, hne⟩
    rw [hvalue, Option.bind_some, JwtSource.strip?,
      Ascii.stripLead?_eq_some_iff.2 ⟨head, rfl, hhead⟩]
    exact if_neg hne

theorem JwtSource.token?_eq_none_iff (s : JwtSource) (m : Metadata) :
    s.token? m = none ↔ ∀ token, ¬ s.Offers m token := by
  simp only [Option.eq_none_iff_forall_ne_some, ne_eq, JwtSource.token?_eq_some_iff]

theorem chooseToken?_eq_some_iff (sources : List JwtSource) (m : Metadata) (token : String) :
    chooseToken? sources m = some token ↔ Chosen sources m token := by
  simp only [chooseToken?, List.findSome?_eq_some_iff, JwtSource.token?_eq_some_iff,
    JwtSource.token?_eq_none_iff, Chosen]

theorem chooseToken?_eq_none_iff (sources : List JwtSource) (m : Metadata) :
    chooseToken? sources m = none ↔ ∀ s ∈ sources, ∀ token, ¬ s.Offers m token := by
  simp only [chooseToken?, List.findSome?_eq_none_iff, JwtSource.token?_eq_none_iff]

/-- Only the look-ups of the sources up to the one that offers a token count. -/
theorem chooseToken?_congr (before after : List JwtSource) (s : JwtSource) (m m' : Metadata)
    (token : String) (hs : s.Offers m token)
    (hsame : ∀ r ∈ before ++ [s], m'.get? r.key = m.get? r.key) :
    chooseToken? (before ++ s :: after) m' = chooseToken? (before ++ s :: after) m := by
  have htoken : ∀ r ∈ before ++ [s], r.token? m' = r.token? m := fun r hr => by
    rw [JwtSource.token?, JwtSource.token?, hsame r hr]
  have hfound := (s.token?_eq_some_iff m token).2 hs
  have hfound' : s.token? m' = some token := (htoken s (by simp)).trans hfound
  have hbefore : before.findSome? (fun r => r.token? m') = before.findSome? (fun r => r.token? m) := by
    induction before with
    | nil => rfl
    | cons r before ih =>
      rw [List.findSome?_cons, List.findSome?_cons, htoken r (by simp),
        ih (fun r hr => hsame r (List.mem_cons_of_mem _ hr))
          (fun r hr => htoken r (List.mem_cons_of_mem _ hr))]
  rw [chooseToken?, chooseToken?, List.findSome?_append, List.findSome?_append, hbefore,
    List.findSome?_cons, List.findSome?_cons, hfound, hfound']

/-! ## What the verifier is asked -/

/-- The verifier, noting every token that it is given. -/
def Verifier.noting (v : Verifier σ) : Verifier (σ × List String) where
  verify token state :=
    let (verdict, own) := v.verify token state.1
    (verdict, (own, state.2 ++ [token]))
  enforcing := v.enforcing

namespace FromRawJwt

def noting (x : FromRawJwt σ) : FromRawJwt (σ × List String) := ⟨x.sources, x.verifier.noting⟩

theorem principal_of_none (x : FromRawJwt σ) (m : Metadata) (state : σ)
    (h : chooseToken? x.sources m = none) :
    x.principal (some m) state = (.error .noMatchingCredential, state) := by
  simp only [principal, h]

theorem principal_of_some (x : FromRawJwt σ) (m : Metadata) (state : σ) (token : String)
    (h : chooseToken? x.sources m = some token) :
    x.principal (some m) state =
      ((x.verifier.verify token state).1.bind (fun _ => decodePrincipal token),
        (x.verifier.verify token state).2) := by
  simp only [principal, h]
  split <;> rename_i hv <;> rw [hv] <;> rfl

theorem principal_noting (x : FromRawJwt σ) (metadata : Option Metadata) (state : σ)
    (asked : List String) :
    (x.noting.principal metadata (state, asked)).1 = (x.principal metadata state).1 ∧
      (x.noting.principal metadata (state, asked)).2.1 = (x.principal metadata state).2 := by
  cases metadata with
  | none => exact ⟨rfl, rfl⟩
  | some m =>
    cases h : chooseToken? x.sources m with
    | none => rw [principal_of_none _ _ _ h, principal_of_none x.noting _ _ h]; exact ⟨rfl, rfl⟩
    | some token =>
      rw [principal_of_some _ _ _ _ h, principal_of_some x.noting _ _ _ h]
      exact ⟨rfl, rfl⟩

/-- One credential decides. The first part says what the sources look up: the header inserted last under
any spelling of the key. -/
theorem principal_decides (x : FromRawJwt σ) (m : Metadata) (state : σ) (asked : List String) :
    (∀ es key value, (Metadata.ofList es).get? key = some value ↔ Metadata.Holds es key value) ∧
    ((∀ s ∈ x.sources, ∀ token, ¬ s.Offers m token) →
      x.noting.principal (some m) (state, asked) = (.error .noMatchingCredential, (state, asked))) ∧
    (∀ token, Chosen x.sources m token →
      (x.noting.principal (some m) (state, asked)).2 =
        ((x.verifier.verify token state).2, asked ++ [token]) ∧
      (∀ e, (x.verifier.verify token state).1 = .error e →
        (x.noting.principal (some m) (state, asked)).1 = .error e) ∧
      ((x.verifier.verify token state).1 = .ok () →
        (x.noting.principal (some m) (state, asked)).1 = decodePrincipal token)) ∧
    (∀ before s after token m', x.sources = before ++ s :: after → s.Offers m token →
      (∀ r ∈ before ++ [s], m'.get? r.key = m.get? r.key) →
      x.noting.principal (some m') (state, asked) = x.noting.principal (some m) (state, asked)) ∧
    x.principal (some m) state =
      ((x.noting.principal (some m) (state, asked)).1,
        (x.noting.principal (some m) (state, asked)).2.1) := by
  refine ⟨Metadata.get?_ofList_eq_some_iff, ?_, ?_, ?_, ?_⟩
  · intro hnone
    exact principal_of_none x.noting m _ ((chooseToken?_eq_none_iff _ _).2 hnone)
  · intro token hchosen
    rw [principal_of_some x.noting m _ token ((chooseToken?_eq_some_iff _ _ _).2 hchosen)]
    refine ⟨rfl, fun e he => ?_, fun hok => ?_⟩
    · show (x.verifier.verify token state).1.bind _ = _
      rw [he]
      rfl
    · show (x.verifier.verify token state).1.bind _ = _
      rw [hok]
      rfl
  · intro before s after token m' hsources hs hsame
    have hchoose : chooseToken? x.noting.sources m' = chooseToken? x.noting.sources m := by
      show chooseToken? x.sources m' = chooseToken? x.sources m
      rw [hsources, chooseToken?_congr before after s m m' token hs hsame]
    simp only [principal, hchoose]
  · obtain ⟨hresult, hstate⟩ := principal_noting x (some m) state asked
    rw [hresult, hstate]

/-- A bad token under the first key is not passed over for a good one under the second. -/
theorem principal_decides_first :
    let x : FromRawJwt Unit :=
      { sources := [⟨"authorization", "Bearer "⟩, ⟨"x-jwt-assertion", ""⟩] }
    let m := Metadata.ofList
      [("x-jwt-assertion", "e30.eyJlbWFpbCI6ImEifQ.c"), ("Authorization", "bearer not-a-jwt")]
    let m' := Metadata.ofList [("AUTHORIZATION", "bearer not-a-jwt"), ("Cookie", "id")]
    x.noting.principal (some m) ((), []) =
        (.error (.malformedToken .partCount), ((), ["not-a-jwt"])) ∧
      x.noting.principal (some m') ((), []) = x.noting.principal (some m) ((), []) ∧
      x.noting.principal (some Metadata.empty) ((), []) =
        (.error .noMatchingCredential, ((), [])) := by
  intro x m m'
  have hs : (⟨"authorization", "Bearer "⟩ : JwtSource).Offers m "not-a-jwt" :=
    ⟨"bearer ", by decide +kernel, by decide, by decide⟩
  have hchosen : Chosen x.sources m "not-a-jwt" := ⟨[], _, _, rfl, hs, by simp⟩
  obtain ⟨-, -, hsome, hsame, -⟩ := principal_decides x m () []
  obtain ⟨-, hnone, -⟩ := principal_decides x Metadata.empty () []
  obtain ⟨hasked, -, hdecoded⟩ := hsome "not-a-jwt" hchosen
  refine ⟨Prod.ext ((hdecoded rfl).trans rfl) hasked, ?_, hnone ?_⟩
  · refine hsame [] _ _ "not-a-jwt" m' rfl hs ?_
    simp only [List.nil_append, List.mem_singleton, forall_eq]
    decide +kernel
  · rintro s - token ⟨head, hget, -⟩
    cases hget

end FromRawJwt

end CallAudit
