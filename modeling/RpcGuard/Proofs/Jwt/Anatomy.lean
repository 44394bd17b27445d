import RpcGuard.Jwt.Token
import RpcGuard.Proofs.Base64
import RpcGuard.Proofs.Json.Reading
import RpcGuard.Proofs.Outcome

/-!
# The anatomy of tokens

What `Token.read` finds in a token, said without a reader: an `Anatomy` holds the three segments
and what the first two of them encode, and `Malformed` are the ways in which a token has none. A
token is read as the parts of its anatomy (`Token.read_eq_ok_iff`), and refused for what is wrong
with it (`Token.read_eq_error_iff`).
-/

namespace RpcGuard.Jwt

/-! ## Segments -/

/-- The token is these three segments, with dots between them and none inside. -/
structure Segmented (token : String) (first second third : List Char) : Prop where
  spelled : token.toList = first ++ '.' :: (second ++ '.' :: third)
  first_undotted : '.' ∉ first
  second_undotted : '.' ∉ second
  third_undotted : '.' ∉ third

/-- What lies between separators contains none. -/
theorem notMem_of_mem_splitOn {α : Type} [BEq α] [LawfulBEq α] {x : α} {xs piece : List α}
    (h : piece ∈ xs.splitOn x) : x ∉ piece := by
  induction xs generalizing piece with
  | nil =>
    rw [List.splitOn_nil] at h
    obtain rfl := List.mem_singleton.mp h
    exact List.not_mem_nil
  | cons y ys ih =>
    rw [List.splitOn_cons_eq_if_modifyHead] at h
    split at h
    · rcases List.mem_cons.mp h with rfl | hrest
      · exact List.not_mem_nil
      · exact ih hrest
    · next hne =>
      -- the first piece of the rest grows by `y`, which is no separator
      cases hsplit : ys.splitOn x with
      | nil => exact absurd hsplit (List.splitOn_ne_nil x ys)
      | cons piece' pieces =>
        rw [hsplit, List.modifyHead_cons] at h
        rcases List.mem_cons.mp h with rfl | hrest
        · have hpiece' : x ∉ piece' := ih (hsplit ▸ List.mem_cons_self)
          intro hmem
          rcases List.mem_cons.mp hmem with rfl | hmem
          · exact hne BEq.rfl
          · exact hpiece' hmem
        · exact ih (hsplit ▸ List.mem_cons_of_mem _ hrest)

theorem segments_eq_iff {token : String} {first second third : List Char} :
    Token.segments token = [first, second, third] ↔ Segmented token first second third := by
  unfold Token.segments
  constructor
  · intro h
    have hundotted : ∀ piece ∈ [first, second, third], '.' ∉ piece := fun piece hpiece =>
      notMem_of_mem_splitOn (h ▸ hpiece)
    have hspelled : ['.'].intercalate (token.toList.splitOn '.') = token.toList :=
      List.intercalate_splitOn '.'
    rw [h] at hspelled
    exact { spelled := by rw [← hspelled]; simp [List.intercalate_cons_cons]
            first_undotted := hundotted first (by simp)
            second_undotted := hundotted second (by simp)
            third_undotted := hundotted third (by simp) }
  · intro h
    rw [h.spelled, List.splitOn_append_cons_self_of_not_mem h.first_undotted,
      List.splitOn_append_cons_self_of_not_mem h.second_undotted,
      List.splitOn_eq_singleton h.third_undotted]

/-! ## Anatomies and faults -/

/-- A token taken apart, with the proof that its parts are what its segments encode. -/
structure Anatomy (token : String) where
  first : List Char
  second : List Char
  third : List Char
  headerText : Bytes
  payload : Bytes
  header : Header
  claims : Claims
  segmented : Segmented token first second third
  first_encodes : first = Base64.encode .urlSafe headerText
  header_read : Header.read? headerText = some header
  second_encodes : second = Base64.encode .urlSafe payload
  claims_read : Claims.read payload = .ok claims

namespace Anatomy

variable {token : String}

/-- The bytes that the signature is of: the first two segments as they stand in the token. -/
def signedPart (a : Anatomy token) : Bytes := Utf8.encode (a.first ++ '.' :: a.second)

/-- The parts that the checks of a token look at. -/
def toToken (a : Anatomy token) : Token where
  header := a.header
  claims := a.claims
  payload := a.payload
  signedPart := a.signedPart
  signature := a.third

/-- The object in the payload has no two members for the audience. -/
def NamesAudienceOnce (a : Anatomy token) : Prop :=
  ∀ ms, Json.Syntax.parse? a.payload = some (.object ms) →
    ms.countP (fun m => Json.text? m.1 == some "aud") ≤ 1

end Anatomy

/-- The token that writes a header, a payload and a signature. -/
def written (headerText payload signature : Bytes) : String :=
  String.ofList (Base64.encode .urlSafe headerText ++ '.' ::
    (Base64.encode .urlSafe payload ++ '.' :: Base64.encode .urlSafe signature))

/-- A written token has the anatomy that it was written from. -/
def Anatomy.ofWritten {headerText payload : Bytes} (signature : Bytes) {header : Header}
    {claims : Claims} (hheader : Header.read? headerText = some header)
    (hclaims : Claims.read payload = .ok claims) :
    Anatomy (written headerText payload signature) where
  first := Base64.encode .urlSafe headerText
  second := Base64.encode .urlSafe payload
  third := Base64.encode .urlSafe signature
  headerText := headerText
  payload := payload
  header := header
  claims := claims
  segmented :=
    { spelled := String.toList_ofList
      first_undotted := Base64.dot_notMem_encode headerText
      second_undotted := Base64.dot_notMem_encode payload
      third_undotted := Base64.dot_notMem_encode signature }
  first_encodes := rfl
  header_read := hheader
  second_encodes := rfl
  claims_read := hclaims

/-- What is wrong with a token that has no anatomy. Whatever comes earlier in this list goes first:
the segments, then the header, then the payload. -/
inductive Malformed (token : String) : TokenFault → Prop where
  | notThreeSegments (h : ∀ first second third, ¬Segmented token first second third) :
    Malformed token .notThreeSegments
  | headerEncoding {first second third : List Char} (h : Segmented token first second third)
    (hfirst : ∀ bs, first ≠ Base64.encode .urlSafe bs) : Malformed token .base64
  | header {first second third : List Char} (h : Segmented token first second third)
    {text : Bytes} (hfirst : first = Base64.encode .urlSafe text)
    (hheader : Header.read? text = none) : Malformed token .json
  | payloadEncoding {first second third : List Char} (h : Segmented token first second third)
    {text : Bytes} (hfirst : first = Base64.encode .urlSafe text) {header : Header}
    (hheader : Header.read? text = some header)
    (hsecond : ∀ bs, second ≠ Base64.encode .urlSafe bs) : Malformed token .payloadEncoding
  | claims {first second third : List Char} (h : Segmented token first second third)
    {text : Bytes} (hfirst : first = Base64.encode .urlSafe text) {header : Header}
    (hheader : Header.read? text = some header) {payload : Bytes}
    (hsecond : second = Base64.encode .urlSafe payload) {fault : Claims.Fault}
    (hclaims : Claims.read payload = .error fault) : Malformed token (.claims fault)

/-! ## Taking apart -/

namespace Token

variable {token : String}

theorem read_of_anatomy (a : Anatomy token) : read token = .ok a.toToken := by
  have hfirst := Base64.decode?_urlSafe_eq_some_iff.mpr a.first_encodes
  have hsecond := Base64.decode?_urlSafe_eq_some_iff.mpr a.second_encodes
  simp only [read, segments_eq_iff.mpr a.segmented, hfirst, a.header_read, hsecond, a.claims_read]
  rfl

theorem read_of_malformed {fault : TokenFault} (h : Malformed token fault) :
    read token = .error fault := by
  cases h with
  | notThreeSegments hsegments =>
    unfold read
    split
    · next hsplit => exact absurd (segments_eq_iff.mp hsplit) (hsegments _ _ _)
    · rfl
  | headerEncoding hsegments hfirst =>
    simp only [read, segments_eq_iff.mpr hsegments, Base64.decode?_urlSafe_eq_none_iff.mpr hfirst]
  | header hsegments hfirst hheader =>
    have hfirst := Base64.decode?_urlSafe_eq_some_iff.mpr hfirst
    simp only [read, segments_eq_iff.mpr hsegments, hfirst, hheader]
  | payloadEncoding hsegments hfirst hheader hsecond =>
    have hfirst := Base64.decode?_urlSafe_eq_some_iff.mpr hfirst
    have hsecond := Base64.decode?_urlSafe_eq_none_iff.mpr hsecond
    simp only [read, segments_eq_iff.mpr hsegments, hfirst, hheader, hsecond]
  | claims hsegments hfirst hheader hsecond hclaims =>
    have hfirst := Base64.decode?_urlSafe_eq_some_iff.mpr hfirst
    have hsecond := Base64.decode?_urlSafe_eq_some_iff.mpr hsecond
    simp only [read, segments_eq_iff.mpr hsegments, hfirst, hheader, hsecond, hclaims]

/-- A token that has no anatomy is malformed in one of the ways. -/
theorem anatomy_or_malformed (token : String) :
    Nonempty (Anatomy token) ∨ ∃ fault, Malformed token fault := by
  by_cases hsegments : ∃ first second third, segments token = [first, second, third]
  · obtain ⟨first, second, third, hsplit⟩ := hsegments
    have hsegmented := segments_eq_iff.mp hsplit
    cases hfirst : Base64.decode? .urlSafe first with
    | none =>
      have hfirst := Base64.decode?_urlSafe_eq_none_iff.mp hfirst
      exact .inr ⟨_, .headerEncoding hsegmented hfirst⟩
    | some text =>
      have hfirst := Base64.decode?_urlSafe_eq_some_iff.mp hfirst
      cases hheader : Header.read? text with
      | none => exact .inr ⟨_, .header hsegmented hfirst hheader⟩
      | some header =>
        cases hsecond : Base64.decode? .urlSafe second with
        | none =>
          have hsecond := Base64.decode?_urlSafe_eq_none_iff.mp hsecond
          exact .inr ⟨_, .payloadEncoding hsegmented hfirst hheader hsecond⟩
        | some payload =>
          have hsecond := Base64.decode?_urlSafe_eq_some_iff.mp hsecond
          cases hclaims : Claims.read payload with
          | error fault => exact .inr ⟨_, .claims hsegmented hfirst hheader hsecond hclaims⟩
          | ok claims =>
            exact .inl ⟨{ first, second, third, headerText := text, payload, header, claims
                          segmented := hsegmented, first_encodes := hfirst, header_read := hheader
                          second_encodes := hsecond, claims_read := hclaims }⟩
  · refine .inr ⟨_, .notThreeSegments fun first second third hsegmented => hsegments ?_⟩
    exact ⟨first, second, third, segments_eq_iff.mpr hsegmented⟩

/-- A token is read exactly if it has an anatomy, as the parts of that. -/
theorem read_eq_ok_iff {t : Token} :
    read token = .ok t ↔ ∃ a : Anatomy token, a.toToken = t := by
  constructor
  · intro h
    rcases anatomy_or_malformed token with ⟨⟨a⟩⟩ | ⟨fault, hfault⟩
    · rw [read_of_anatomy a] at h
      exact ⟨a, Except.ok.inj h⟩
    · rw [read_of_malformed hfault] at h
      cases h
  · rintro ⟨a, rfl⟩
    exact read_of_anatomy a

/-- A token is refused for what is wrong with it. -/
theorem read_eq_error_iff {fault : TokenFault} :
    read token = .error fault ↔ Malformed token fault := by
  constructor
  · intro h
    rcases anatomy_or_malformed token with ⟨⟨a⟩⟩ | ⟨fault', hfault⟩
    · rw [read_of_anatomy a] at h
      cases h
    · rw [read_of_malformed hfault] at h
      exact Except.error.inj h ▸ hfault
  · exact read_of_malformed

/-! ## The audience -/

/-- The payload of an anatomy is an object. -/
theorem exists_members (a : Anatomy token) :
    ∃ ms, Json.Opening.read a.payload = ⟨ms, true⟩ := by
  obtain ⟨draft, -, h⟩ := Outcome.bind_eq_ok_iff.mp a.claims_read
  refine ⟨(Json.Opening.read a.payload).members, ?_⟩
  split at h
  · next hcomplete => rw [← hcomplete]
  · cases h

theorem repeatsAudience_eq_false_iff (a : Anatomy token) :
    a.toToken.repeatsAudience = false ↔ a.NamesAudienceOnce := by
  obtain ⟨ms, hms⟩ := exists_members a
  have hparse := Json.Opening.read_eq_complete_iff.mp hms
  have hrepeats : a.toToken.repeatsAudience =
      decide (1 < ms.countP fun m => Json.text? m.1 == some "aud") := by
    unfold repeatsAudience
    rw [List.countP_eq_length_filter]
    show decide (1 < ((Json.Opening.read a.payload).members.filter _).length) = _
    rw [hms]
  rw [hrepeats, decide_eq_false_iff_not, Nat.not_lt]
  constructor
  · intro hcount ms' hms'
    obtain rfl := Json.Syntax.object.inj (Option.some.inj (hparse.symm.trans hms'))
    exact hcount
  · intro honce
    exact honce ms hparse

/-- A payload without an audience does not repeat it. -/
theorem namesAudienceOnce_of_none {a : Anatomy token}
    (h : ((Json.Opening.read a.payload).members.filter
      fun m => Json.text? m.1 == some "aud").length = 0) : a.NamesAudienceOnce := by
  rw [← repeatsAudience_eq_false_iff, repeatsAudience]
  simp only [Anatomy.toToken, h, Nat.not_lt_zero, decide_false]

end Token

end RpcGuard.Jwt
