import RpcGuard.Credentials
import RpcGuard.Proofs.Base64
import RpcGuard.Proofs.Jwt.Anatomy
import RpcGuard.Proofs.Outcome
import RpcGuard.Proofs.Presentation
import RpcGuard.Proofs.Text.Utf8
import Mathlib.Data.Bool.AllAny
import Mathlib.Data.List.Forall2

/-!
# Attached credentials are read

The two sides of a call agree about its header. A token of visible characters can be attached to any
request, which then has no other authorization header, and the guard decides about the request by
verifying just this token (`Guard.attached_token_is_verified`). It would do the same for every other
spelling of the header: the scheme in any case of letters, any spaces and tabs behind it, and any
around the whole (`SpellsBearer`).

All of these texts are ASCII, so that a header value is read as the characters that it was written
from (`headerText_encode`). From there on `Spells` says what the guard finds in it.
-/

namespace RpcGuard

open Text (Blank Trimmed isBlank)

/-! ## Characters of headers -/

/-- A visible character, other than the space. -/
def IsTokenChar (c : Char) : Prop := 0x21 ≤ c.toNat ∧ c.toNat ≤ 0x7E

/-- A space or a tab. -/
def IsPadding (c : Char) : Prop := c = ' ' ∨ c = '\t'

/-- A character that the guard reads in a header. -/
def IsHeaderChar (c : Char) : Prop := IsTokenChar c ∨ IsPadding c

instance : DecidablePred IsTokenChar := fun c =>
  inferInstanceAs (Decidable (0x21 ≤ c.toNat ∧ c.toNat ≤ 0x7E))

instance : DecidablePred IsPadding := fun c => inferInstanceAs (Decidable (c = ' ' ∨ c = '\t'))

instance : DecidablePred IsHeaderChar := fun c =>
  inferInstanceAs (Decidable (IsTokenChar c ∨ IsPadding c))

theorem IsPadding.isBlank {c : Char} (h : IsPadding c) : isBlank c = true := by
  rcases h with rfl | rfl <;> decide

theorem IsTokenChar.not_isBlank {c : Char} (h : IsTokenChar c) : isBlank c = false := by
  obtain ⟨hlow, hhigh⟩ := h
  simp [Text.isBlank]
  omega

/-- The code of the character is that of a visible byte. -/
theorem IsHeaderChar.bounds {c : Char} (h : IsHeaderChar c) :
    (0x20 ≤ c.toNat ∧ c.toNat ≤ 0x7E) ∨ c.toNat = 9 := by
  rcases h with ⟨hlow, hhigh⟩ | rfl | rfl
  · exact .inl ⟨by omega, hhigh⟩
  · exact .inl (by decide)
  · exact .inr rfl

/-- The character fits in a byte. -/
theorem IsHeaderChar.toNat_byte {c : Char} (h : IsHeaderChar c) :
    (UInt8.ofNat c.toNat).toNat = c.toNat := by
  have hbounds := h.bounds
  exact Base64.toNat_ofNat_of_lt (by omega)

/-- The character is ASCII. -/
theorem IsHeaderChar.ascii {c : Char} (h : IsHeaderChar c) : c.toNat < 0x80 := by
  have hbounds := h.bounds
  omega

/-- What is written is read. -/
theorem headerText_encode {cs : List Char} (h : ∀ c ∈ cs, IsHeaderChar c) :
    headerText (Utf8.encode cs) = cs :=
  Utf8.chars_encode_ascii fun c hc => (h c hc).ascii

theorem isVisible_of_mem_encode {cs : List Char} (h : ∀ c ∈ cs, IsHeaderChar c) :
    ∀ b ∈ Utf8.encode cs, IsVisible b := by
  rw [Utf8.encode_ascii fun c hc => (h c hc).ascii]
  intro b hb
  obtain ⟨c, hc, rfl⟩ := List.mem_map.mp hb
  unfold IsVisible
  rw [UInt8.le_iff_toNat_le, UInt8.le_iff_toNat_le, ← UInt8.toNat_inj, (h c hc).toNat_byte]
  exact (h c hc).bounds

/-- What a guard reads in a header, a header may hold. -/
theorem isHeaderByte_of_isVisible {b : UInt8} (h : IsVisible b) :
    BearerCredentials.isHeaderByte b = true := by
  unfold BearerCredentials.isHeaderByte
  rcases h with ⟨hlow, hhigh⟩ | rfl
  · have hne : b ≠ 0x7F := by
      rintro rfl
      exact absurd hhigh (by decide)
    simp [hlow, hne]
  · rfl

/-! ## Spellings -/

/-- The letters of the word, each as it is or as a capital. -/
def InAnyCase (word : List Char) (cs : List Char) : Prop :=
  List.Forall₂ (fun c letter => c = letter ∨ c = letter.toUpper) cs word

/-- The value has the token behind the scheme of bearer tokens in any case of letters, with spaces
and tabs between the two and perhaps around them. -/
def SpellsBearer (token : String) (value : Bytes) : Prop :=
  ∃ before scheme gap after : List Char,
    value = Utf8.encode (before ++ (scheme ++ gap ++ token.toList) ++ after) ∧
    InAnyCase "bearer".toList scheme ∧ gap ≠ [] ∧
    (∀ c ∈ before, IsPadding c) ∧ (∀ c ∈ gap, IsPadding c) ∧ ∀ c ∈ after, IsPadding c

/-- What holds of the letters of a word and of their capitals, holds of the word in any case. -/
theorem InAnyCase.forall {word cs : List Char} {P : Char → Prop} (h : InAnyCase word cs)
    (hword : ∀ letter ∈ word, P letter ∧ P letter.toUpper) : ∀ c ∈ cs, P c := by
  induction h with
  | nil =>
    intro c hc
    cases hc
  | cons hc _ ih =>
    obtain ⟨hletter, hrest⟩ := List.forall_mem_cons.mp hword
    refine List.forall_mem_cons.mpr ⟨?_, ih hrest⟩
    rcases hc with rfl | rfl
    · exact hletter.1
    · exact hletter.2

/-- In lower case, a word in any case is the word. -/
theorem InAnyCase.map_toLower {word cs : List Char} (h : InAnyCase word cs)
    (hword : ∀ letter ∈ word, letter.toLower = letter ∧ letter.toUpper.toLower = letter) :
    cs.map Char.toLower = word := by
  induction h with
  | nil => rfl
  | cons hc _ ih =>
    obtain ⟨hletter, hrest⟩ := List.forall_mem_cons.mp hword
    rw [List.map_cons, ih hrest]
    rcases hc with rfl | rfl
    · rw [hletter.1]
    · rw [hletter.2]

section Spelling

variable {token : String} {value : Bytes}

/-- A call with a spelled bearer token presents the token. -/
theorem presents_of_spellsBearer (htoken : ∀ c ∈ token.toList, IsTokenChar c)
    (hvalue : SpellsBearer token value) {hs : Headers}
    (hfirst : hs.FirstIs "authorization" value) :
    ∃ scheme, Presents hs scheme token.toList ∧ Guard.isBearer scheme = true := by
  obtain ⟨before, scheme, gap, after, rfl, hscheme, hgap, hbefore, hbetween, hafter⟩ := hvalue
  have hletters : ∀ c ∈ scheme, IsTokenChar c :=
    hscheme.forall (List.all_iff_forall_prop.mp (by decide))
  have hchars : ∀ c ∈ before ++ (scheme ++ gap ++ token.toList) ++ after, IsHeaderChar c := by
    intro c hc
    simp only [List.mem_append] at hc
    rcases hc with (hc | (hc | hc) | hc) | hc
    · exact .inr (hbefore c hc)
    · exact .inl (hletters c hc)
    · exact .inr (hbetween c hc)
    · exact .inl (htoken c hc)
    · exact .inr (hafter c hc)
  have hlower : scheme.map Char.toLower = "bearer".toList :=
    hscheme.map_toLower (List.all_iff_forall_prop.mp (by decide))
  have hlayout : Layout (before ++ (scheme ++ gap ++ token.toList) ++ after) before scheme gap
      token.toList after :=
    { text_eq := rfl
      before_blank := fun c hc => (hbefore c hc).isBlank
      gap_blank := fun c hc => (hbetween c hc).isBlank
      after_blank := fun c hc => (hafter c hc).isBlank
      scheme_ne_nil := by
        rintro rfl
        cases hscheme
      scheme_solid := fun c hc => (hletters c hc).not_isBlank
      token_trimmed := Text.trimmed_of_solid fun c hc => (htoken c hc).not_isBlank
      separated := fun hnil => absurd hnil hgap }
  refine ⟨scheme, ⟨_, hfirst, isVisible_of_mem_encode hchars, ?_⟩, beq_iff_eq.mpr hlower⟩
  rw [headerText_encode hchars]
  exact ⟨before, gap, after, hlayout⟩

end Spelling

/-! ## Decisions by a token -/

namespace Guard

/-- What becomes of a call whose token was verified with this result. -/
def judge (g : Guard) (path : String) : Except Rejection VerifiedToken → Decision
  | .ok v =>
    if g.resources.permits g.policies (serviceAndMethod path).1 (serviceAndMethod path).2 v.claims
    then .allow v
    else .reject .permissionDenied
  | .error reason => .reject reason

/-- A call of which a token is read is decided by the verification of the token. -/
theorem authorizeWith_of_bearerToken {g : Guard} {τ : Type} {resolve : Resolver τ} {now : UInt64}
    {path : String} {hs : Headers} {token : String}
    (hskip : (serviceAndMethod path).1 ∉ g.skipped)
    (hread : g.bearerToken (serviceAndMethod path).1 hs = .ok token) (s : τ) :
    let verified := g.verifier.verifyWith resolve now token s
    g.authorizeWith resolve now path hs s = (g.judge path verified.1, verified.2) := by
  unfold authorizeWith judge
  dsimp only
  rw [if_neg hskip, hread]
  dsimp only
  rcases g.verifier.verifyWith resolve now token s with ⟨reason | v, after⟩
  · rfl
  · dsimp only
    split
    · rfl
    · rfl

end Guard

/-! ## Attaching a token -/

namespace BearerCredentials

/-- The header that is attached is one of the spellings. -/
theorem spellsBearer_bytes (token : String) :
    SpellsBearer token (Utf8.bytes ("Bearer " ++ token)) := by
  have hchars : ("Bearer " ++ token).toList =
      [] ++ ("Bearer".toList ++ [' '] ++ token.toList) ++ [] := by
    rw [String.toList_append]
    simp
  refine ⟨[], "Bearer".toList, [' '], [], congrArg Utf8.encode hchars, ?_, ?_, ?_, ?_, ?_⟩
  · exact .cons (.inr rfl) <| .cons (.inl rfl) <| .cons (.inl rfl) <| .cons (.inl rfl) <|
      .cons (.inl rfl) <| .cons (.inl rfl) .nil
  · simp
  · simp
  · simp [IsPadding]
  · simp

/-- Credentials can be made of a token of visible characters. -/
theorem ofToken?_of_tokenChars {token : String} (htoken : ∀ c ∈ token.toList, IsTokenChar c) :
    ofToken? token = some ⟨Utf8.bytes ("Bearer " ++ token)⟩ := by
  have hchars : ∀ c ∈ ("Bearer " ++ token).toList, IsHeaderChar c := by
    intro c hc
    rw [String.toList_append, List.mem_append] at hc
    rcases hc with hc | hc
    · have hword : ∀ c ∈ "Bearer ".toList, IsHeaderChar c :=
        List.all_iff_forall_prop.mp (by decide)
      exact hword c hc
    · exact .inl (htoken c hc)
  have hvisible := isVisible_of_mem_encode hchars
  unfold ofToken?
  exact if_pos (List.all_eq_true.mpr fun b hb => isHeaderByte_of_isVisible (hvisible b hb))

/-- Whatever was there before, the attached header is the only one of its name. -/
theorem filter_apply (c : BearerCredentials) (hs : Headers) :
    (c.apply hs).filter (fun h => h.1 = "authorization") = [("authorization", c.value)] := by
  have hnone : (hs.filter fun h => h.1 ≠ "authorization").filter
      (fun h => h.1 = "authorization") = [] := by
    simp [List.filter_filter]
  unfold apply
  rw [List.filter_append, hnone]
  simp

theorem firstIs_apply (c : BearerCredentials) (hs : Headers) :
    (c.apply hs).FirstIs "authorization" c.value :=
  ⟨hs.filter fun h => h.1 ≠ "authorization", [], rfl, by simp⟩

end BearerCredentials

/-- A written token can stand in a header. -/
theorem Jwt.isTokenChar_of_mem_written {header payload signature : Bytes} :
    ∀ c ∈ (Jwt.written header payload signature).toList, IsTokenChar c := by
  have hencode : ∀ (bs : Bytes), ∀ c ∈ Base64.encode .urlSafe bs, IsTokenChar c := by
    intro bs c hc
    obtain ⟨hlow, hhigh⟩ := Base64.code_of_mem_encode hc
    exact ⟨by omega, by omega⟩
  intro c hc
  simp only [Jwt.written, String.toList_ofList, List.mem_append, List.mem_cons] at hc
  rcases hc with hc | rfl | hc | rfl | hc
  · exact hencode header c hc
  · decide
  · exact hencode payload c hc
  · decide
  · exact hencode signature c hc

/-- The headers of a call with a bearer token and nothing else. -/
def Headers.bearing (token : String) : Headers :=
  [("authorization", Utf8.bytes ("Bearer " ++ token))]

/-- A written token is presented as it is. -/
theorem Guard.presents_written {header payload signature : Bytes} :
    let token := Jwt.written header payload signature
    ∃ scheme, Presents (.bearing token) scheme token.toList ∧ isBearer scheme = true ∧
      token.toList ≠ [] := by
  intro token
  have hfirst : Headers.FirstIs (.bearing token) "authorization"
      (Utf8.bytes ("Bearer " ++ token)) := ⟨[], [], rfl, by simp⟩
  obtain ⟨scheme, hpresents, hbearer⟩ := presents_of_spellsBearer Jwt.isTokenChar_of_mem_written
    (BearerCredentials.spellsBearer_bytes token) hfirst
  exact ⟨scheme, hpresents, hbearer, by simp [token, Jwt.written]⟩

/-- A call with a written token for its bearer token is decided by the verification of the token. -/
theorem Guard.authorize_of_written {σ : Type} {g : Guard} {f : Fetcher σ} {uptime : Uptime}
    {now : UInt64} {path : String} {shared : Shared σ} {header payload signature : Bytes}
    (hskip : (serviceAndMethod path).1 ∉ g.skipped) :
    let token := Jwt.written header payload signature
    (g.authorize f uptime now path (.bearing token) shared).1 =
      g.judge path (g.verifier.verify f uptime now token shared).1 := by
  intro token
  have hread : g.bearerToken (serviceAndMethod path).1 (.bearing token) = .ok token :=
    bearerToken_eq_ok_iff.mpr presents_written
  exact congrArg Prod.fst (authorizeWith_of_bearerToken hskip hread shared)

/-- **An attached token is verified**: a token of visible characters can be attached to requests
with any headers, and is then in the only authorization header. Of a service that is not skipped,
the guard decides about the request by verifying just this token; and about every request whose
first authorization header spells the token in another way, it decides the same. -/
theorem Guard.attached_token_is_verified {token : String} (hne : token ≠ "")
    (htoken : ∀ c ∈ token.toList, IsTokenChar c) :
    ∃ credentials, BearerCredentials.ofToken? token = some credentials ∧
      (∀ hs, (credentials.apply hs).filter (fun h => h.1 = "authorization") =
        [("authorization", credentials.value)]) ∧
      ∀ {σ : Type} (g : Guard) (f : Fetcher σ) (uptime : Uptime) (now : UInt64) (path : String)
        (s : Shared σ), (serviceAndMethod path).1 ∉ g.skipped →
        let verified := g.verifier.verify f uptime now token s
        ∀ hs,
          g.authorize f uptime now path (credentials.apply hs) s =
            (g.judge path verified.1, verified.2) ∧
          ∀ respelled value, SpellsBearer token value →
            Headers.FirstIs respelled "authorization" value →
            g.authorize f uptime now path respelled s =
              g.authorize f uptime now path (credentials.apply hs) s := by
  refine ⟨_, BearerCredentials.ofToken?_of_tokenChars htoken, BearerCredentials.filter_apply _, ?_⟩
  intro σ g f uptime now path s hskip verified hs
  -- the header that is attached is treated like every spelling of it
  have hspelled : ∀ value, SpellsBearer token value → ∀ hs : Headers,
      hs.FirstIs "authorization" value →
      g.authorize f uptime now path hs s = (g.judge path verified.1, verified.2) := by
    intro value hvalue hs hfirst
    obtain ⟨scheme, hpresents, hbearer⟩ := presents_of_spellsBearer htoken hvalue hfirst
    have hnonempty : token.toList ≠ [] := by simpa using hne
    exact authorizeWith_of_bearerToken hskip
      (bearerToken_eq_ok_iff.mpr ⟨scheme, hpresents, hbearer, hnonempty⟩) s
  have hattached := hspelled _ (BearerCredentials.spellsBearer_bytes token) _
    (BearerCredentials.firstIs_apply _ hs)
  refine ⟨hattached, fun respelled value hvalue hfirst => ?_⟩
  exact (hspelled value hvalue respelled hfirst).trans hattached.symm

/-- A token that is attached to a request with two authorization headers, and the same token in
another spelling: both calls get as far as the search for its key. -/
theorem Guard.attached_token_is_verified_orders :
    let token := "eyJhbGciOiJSUzI1NiJ9.e30.AA"
    let g : Guard := ⟨⟨some "issuer", 0, .unconfigured⟩, ⟨none, []⟩,
      ⟨[("shop.Orders", [("Get", .permitAll)])]⟩, .reject, []⟩
    let decide? := fun hs =>
      (g.authorize Fetch.unreachable 0 0 "/shop.Orders/Get" hs ⟨none, ()⟩).1
    let hs : Headers := [("authorization", Utf8.bytes "Basic eDp5"), ("te", Utf8.bytes "trailers"),
      ("authorization", Utf8.bytes "Bearer e30")]
    let respelled : Headers := [("authorization", Utf8.bytes ("\tBEARER \t" ++ token ++ " "))]
    token ≠ "" ∧ (∀ c ∈ token.toList, IsTokenChar c) ∧ ∃ credentials,
      BearerCredentials.ofToken? token = some credentials ∧
      decide? (credentials.apply hs) = .reject (.keyUnavailable .unconfigured) ∧
      decide? respelled = .reject (.keyUnavailable .unconfigured) := by
  intro token g decide? hs respelled
  have hne : token ≠ "" := by decide
  have htoken : ∀ c ∈ token.toList, IsTokenChar c :=
    List.all_iff_forall_prop.mp (by decide +kernel)
  have hskip : (serviceAndMethod "/shop.Orders/Get").1 ∉ g.skipped := List.not_mem_nil
  have hspells : SpellsBearer token (Utf8.bytes ("\tBEARER \t" ++ token ++ " ")) := by
    refine ⟨['\t'], "BEARER".toList, [' ', '\t'], [' '], by decide +kernel, ?_, by simp, ?_, ?_, ?_⟩
    · unfold InAnyCase
      decide +kernel
    · simp [IsPadding]
    · simp [IsPadding]
    · simp [IsPadding]
  obtain ⟨credentials, hcredentials, -, hdecides⟩ := attached_token_is_verified hne htoken
  obtain ⟨hattached, hrespelled⟩ :=
    hdecides g Fetch.unreachable 0 0 "/shop.Orders/Get" ⟨none, ()⟩ hskip hs
  have hverified : (g.verifier.verify Fetch.unreachable 0 0 token ⟨none, ()⟩).1 =
      .error (.keyUnavailable .unconfigured) := by
    have hread : (Jwt.Token.read token).isOk = true := by decide +kernel
    obtain ⟨t, ht⟩ := Outcome.isOk_iff.mp hread
    unfold Verifier.verify Verifier.verifyWith
    rw [ht]
    rfl
  have hdecision : decide? (credentials.apply hs) = .reject (.keyUnavailable .unconfigured) := by
    show (g.authorize _ _ _ _ _ _).1 = _
    rw [hattached, hverified]
    rfl
  refine ⟨hne, htoken, credentials, hcredentials, hdecision, ?_⟩
  show (g.authorize _ _ _ _ _ _).1 = _
  rw [hrespelled respelled _ hspells ⟨[], [], rfl, by simp⟩]
  exact hdecision

end RpcGuard
