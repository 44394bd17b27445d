import RpcGuard.Guard
import RpcGuard.Proofs.Text.Trimming
import Mathlib.Data.List.TakeDrop

/-!
# What a call presents

A call presents a scheme and a token if its first authorization header is a visible text that has
the two in this order, with white space around and between them. `Spells` and `Presents` say so
without a procedure; `spells_iff` and `presents_iff` tie them to the reading of headers, and
`bearerToken_eq_ok_iff` and `bearerToken_eq_passThrough_iff` say what the guard makes of a call
before it looks at any token.
-/

namespace RpcGuard

open Text (Blank Trimmed isBlank trimChars)

/-! ## Scheme and token -/

/-- The parts of an authorization text. -/
structure Layout (text before scheme gap token after : List Char) : Prop where
  text_eq : text = before ++ (scheme ++ gap ++ token) ++ after
  before_blank : Blank before
  gap_blank : Blank gap
  after_blank : Blank after
  scheme_ne_nil : scheme ≠ []
  scheme_solid : ∀ c ∈ scheme, isBlank c = false
  token_trimmed : Trimmed token
  /-- Only a missing token needs no gap in front of it. -/
  separated : gap = [] → token = []

/-- The text has the scheme and the token, and white space around and between them. -/
def Spells (text scheme token : List Char) : Prop :=
  ∃ before gap after, Layout text before scheme gap token after

/-- With a token behind the gap, scheme and token have no white space at their ends. -/
theorem trimmed_scheme_token {scheme gap token : List Char} (hs : Trimmed scheme)
    (hne : scheme ≠ []) (ht : Trimmed token) (htne : token ≠ []) :
    Trimmed (scheme ++ gap ++ token) where
  head c hc := by
    obtain ⟨d, ds, rfl⟩ := List.exists_cons_of_ne_nil hne
    exact hs.head c hc
  last c hc := by
    rw [List.getLast?_append, List.getLast?_eq_some_getLast htne] at hc
    refine ht.last c ?_
    rw [List.getLast?_eq_some_getLast htne]
    exact hc

namespace Layout

variable {text before scheme gap token after : List Char}

/-- What is left of the text when the white space around it is gone. -/
theorem trimChars_eq (h : Layout text before scheme gap token after) :
    trimChars text = if token = [] then scheme else scheme ++ gap ++ token := by
  have hs : Trimmed scheme := Text.trimmed_of_solid h.scheme_solid
  split
  · next htoken =>
    subst htoken
    have htext : text = before ++ scheme ++ (gap ++ after) := by
      rw [h.text_eq]
      simp only [List.append_nil, List.append_assoc]
    rw [htext]
    exact Text.trimChars_padded h.before_blank hs (h.gap_blank.append h.after_blank)
  · next htoken =>
    rw [h.text_eq]
    exact Text.trimChars_padded h.before_blank
      (trimmed_scheme_token hs h.scheme_ne_nil h.token_trimmed htoken) h.after_blank

end Layout

/-- The scheme ends at the first white space. -/
theorem schemeAndToken_of_solid {scheme rest : List Char}
    (hs : ∀ c ∈ scheme, isBlank c = false) (hr : ∀ c ∈ rest.head?, isBlank c = true) :
    Guard.schemeAndToken (scheme ++ rest) = (scheme, trimChars rest) := by
  have hp : ∀ c ∈ scheme, (!isBlank c) = true := by
    intro c hc
    rw [hs c hc]
    rfl
  have htake : rest.takeWhile (fun c => !isBlank c) = [] := by
    cases rest with
    | nil => rfl
    | cons c rest => simp [hr c rfl]
  have hdrop : rest.dropWhile (fun c => !isBlank c) = rest := by
    cases rest with
    | nil => rfl
    | cons c rest => simp [hr c rfl]
  unfold Guard.schemeAndToken
  rw [List.span_eq_takeWhile_dropWhile, List.takeWhile_append_of_pos hp, htake, List.append_nil,
    List.dropWhile_append_of_pos hp, hdrop]

/-- A text that has a scheme and a token is read as these two. -/
theorem schemeAndToken_of_spells {text scheme token : List Char} (h : Spells text scheme token) :
    trimChars text ≠ [] ∧ Guard.schemeAndToken (trimChars text) = (scheme, token) := by
  obtain ⟨before, gap, after, h⟩ := h
  rw [h.trimChars_eq]
  split
  · next htoken =>
    subst htoken
    refine ⟨h.scheme_ne_nil, ?_⟩
    have hread : Guard.schemeAndToken (scheme ++ []) = (scheme, trimChars []) :=
      schemeAndToken_of_solid h.scheme_solid (fun c hc => by cases hc)
    rwa [List.append_nil] at hread
  · next htoken =>
    have hgap : gap ≠ [] := fun hgap => htoken (h.separated hgap)
    refine ⟨?_, ?_⟩
    · intro hnil
      exact htoken (List.append_eq_nil_iff.mp hnil).2
    · have hhead : ∀ c ∈ (gap ++ token).head?, isBlank c = true := by
        obtain ⟨d, ds, rfl⟩ := List.exists_cons_of_ne_nil hgap
        intro c hc
        obtain rfl := Option.some.inj hc
        exact h.gap_blank _ List.mem_cons_self
      have htrim : trimChars (gap ++ token) = token := by
        have hpad := Text.trimChars_padded h.gap_blank h.token_trimmed Text.blank_nil
        rwa [List.append_nil] at hpad
      rw [List.append_assoc, schemeAndToken_of_solid h.scheme_solid hhead, htrim]

/-- A text that is not blank has a scheme and a token. -/
theorem exists_spells {text : List Char} (h : trimChars text ≠ []) :
    ∃ scheme token, Spells text scheme token := by
  obtain ⟨before, after, hbefore, hafter, htrim, htext⟩ := Text.exists_padding text
  generalize trimChars text = mid at h htrim htext
  -- the scheme is what precedes the first white space of the middle
  have hmid : mid.takeWhile (fun c => !isBlank c) ++ mid.dropWhile (fun c => !isBlank c) = mid :=
    List.takeWhile_append_dropWhile
  have hsolid : ∀ c ∈ mid.takeWhile (fun c => !isBlank c), isBlank c = false := by
    intro c hc
    simpa using List.all_eq_true.mp List.all_takeWhile c hc
  have hne : mid.takeWhile (fun c => !isBlank c) ≠ [] := by
    obtain ⟨c, cs, rfl⟩ := List.exists_cons_of_ne_nil h
    simp [htrim.head c rfl]
  have hhead : ∀ c ∈ (mid.dropWhile (fun c => !isBlank c)).head?, isBlank c = true := by
    intro c hc
    have hnot := List.head?_dropWhile_not (fun c => !isBlank c) mid
    rw [Option.mem_def.mp hc] at hnot
    simpa using hnot
  generalize mid.takeWhile (fun c => !isBlank c) = scheme at hmid hsolid hne
  generalize mid.dropWhile (fun c => !isBlank c) = rest at hmid hhead
  obtain ⟨gap, tail, hgap, htail, htoken, hrest⟩ := Text.exists_padding rest
  refine ⟨scheme, trimChars rest, before, gap, tail ++ after, ?_⟩
  refine { text_eq := ?_, before_blank := hbefore, gap_blank := hgap,
           after_blank := htail.append hafter, scheme_ne_nil := hne, scheme_solid := hsolid,
           token_trimmed := htoken, separated := ?_ }
  · rw [htext, ← hmid]
    conv_lhs => rw [hrest]
    simp only [List.append_assoc]
  · intro hnil
    by_contra hsome
    obtain ⟨c, cs, hcs⟩ := List.exists_cons_of_ne_nil hsome
    have hblank : isBlank c = true := by
      refine hhead c ?_
      rw [hrest, hnil, hcs]
      rfl
    have hnot : isBlank c = false := by
      refine htoken.head c ?_
      rw [hcs]
      rfl
    rw [hblank] at hnot
    cases hnot

/-- The guard reads the scheme and the token that a text has, and only a blank text has none. -/
theorem spells_iff {text scheme token : List Char} :
    Spells text scheme token ↔
      trimChars text ≠ [] ∧ Guard.schemeAndToken (trimChars text) = (scheme, token) := by
  constructor
  · exact schemeAndToken_of_spells
  · rintro ⟨hne, hread⟩
    obtain ⟨scheme', token', h⟩ := exists_spells hne
    have hread' := (schemeAndToken_of_spells h).2
    rw [hread] at hread'
    obtain ⟨rfl, rfl⟩ := Prod.mk.inj hread'
    exact h

/-! ## Headers -/

/-- The first header with the name has the value. -/
def Headers.FirstIs (hs : Headers) (name : String) (value : Bytes) : Prop :=
  ∃ before after, hs = before ++ (name, value) :: after ∧ ∀ h ∈ before, h.1 ≠ name

theorem Headers.first?_eq_some_iff {hs : Headers} {name : String} {value : Bytes} :
    hs.first? name = some value ↔ hs.FirstIs name value := by
  unfold Headers.first? Headers.FirstIs
  rw [List.lookup_eq_some_iff]
  refine exists_congr fun before => exists_congr fun after => and_congr_right fun _ => ?_
  refine forall_congr' fun h => forall_congr' fun _ => ?_
  rw [bne_iff_ne]
  exact ne_comm

theorem Headers.FirstIs.unique {hs : Headers} {name : String} {value value' : Bytes}
    (h : hs.FirstIs name value) (h' : hs.FirstIs name value') : value = value' :=
  Option.some.inj
    ((Headers.first?_eq_some_iff.mpr h).symm.trans (Headers.first?_eq_some_iff.mpr h'))

/-- The characters of a header value. -/
def headerText (value : Bytes) : List Char := value.map fun b => Char.ofNat b.toNat

/-- Visible ASCII, the space or the tab. -/
def IsVisible (b : UInt8) : Prop := (0x20 ≤ b ∧ b ≤ 0x7E) ∨ b = 9

theorem isVisible_iff {b : UInt8} : Guard.isVisible b = true ↔ IsVisible b := by
  unfold Guard.isVisible IsVisible
  simp only [Bool.or_eq_true, Bool.and_eq_true, decide_eq_true_eq, beq_iff_eq,
    UInt8.le_iff_toNat_le, UInt8.lt_iff_toNat_lt]
  refine or_congr_left (and_congr_right fun _ => ?_)
  exact Nat.lt_succ_iff

/-- The first authorization header of the call is a visible text with the scheme and the token. -/
def Presents (hs : Headers) (scheme token : List Char) : Prop :=
  ∃ value, hs.FirstIs "authorization" value ∧ (∀ b ∈ value, IsVisible b) ∧
    Spells (headerText value) scheme token

namespace Guard

/-- The credentials of a call are its authorization text without the white space around it. -/
theorem credentials_eq_ok_iff {hs : Headers} {text : List Char} :
    credentials hs = .ok text ↔
      ∃ value, hs.FirstIs "authorization" value ∧ (∀ b ∈ value, IsVisible b) ∧
        trimChars (headerText value) = text ∧ text ≠ [] := by
  unfold credentials
  simp only [← Headers.first?_eq_some_iff, ← isVisible_iff, ← List.all_eq_true]
  cases hs.first? "authorization" with
  | none => simp
  | some value =>
    by_cases hvisible : value.all isVisible = true
    · by_cases hblank : trimChars (headerText value) = []
      · have hread : (trimChars (value.map fun b => Char.ofNat b.toNat)).isEmpty = true :=
          List.isEmpty_iff.mpr hblank
        simp only [hvisible, if_true, hread]
        constructor
        · intro h
          cases h
        · rintro ⟨value', hvalue, -, htext, hne⟩
          obtain rfl := Option.some.inj hvalue
          exact absurd (htext.symm.trans hblank) hne
      · have hread : (trimChars (value.map fun b => Char.ofNat b.toNat)).isEmpty = false :=
          List.isEmpty_eq_false_iff.mpr hblank
        simp only [hvisible, if_true, hread, Bool.false_eq_true, if_false]
        constructor
        · intro h
          obtain rfl := Except.ok.inj h
          exact ⟨value, rfl, hvisible, rfl, hblank⟩
        · rintro ⟨value', hvalue, -, htext, -⟩
          obtain rfl := Option.some.inj hvalue
          exact congrArg Except.ok htext
    · simp only [hvisible, Bool.false_eq_true, if_false]
      constructor
      · intro h
        cases h
      · rintro ⟨value', hvalue, hvisible', -⟩
        obtain rfl := Option.some.inj hvalue
        exact absurd hvisible' hvisible

/-- A call presents what its credentials are read as. -/
theorem presents_iff {hs : Headers} {scheme token : List Char} :
    Presents hs scheme token ↔
      ∃ text, credentials hs = .ok text ∧ schemeAndToken text = (scheme, token) := by
  constructor
  · rintro ⟨value, hfirst, hvisible, hspells⟩
    obtain ⟨hne, hread⟩ := spells_iff.mp hspells
    exact ⟨_, credentials_eq_ok_iff.mpr ⟨value, hfirst, hvisible, rfl, hne⟩, hread⟩
  · rintro ⟨text, hcred, hread⟩
    obtain ⟨value, hfirst, hvisible, rfl, hne⟩ := credentials_eq_ok_iff.mp hcred
    exact ⟨value, hfirst, hvisible, spells_iff.mpr ⟨hne, hread⟩⟩

variable {g : Guard} {service : String} {hs : Headers} {scheme token : List Char}

/-- What the guard makes of a scheme and a token. -/
theorem bearerToken_of_presents (h : Presents hs scheme token) :
    g.bearerToken service hs =
      if isBearer scheme = true then
        if token = [] then .error (.reject .missingToken) else .ok (String.ofList token)
      else if g.unknownScheme = .reject ∧ g.policies.isSecured service = true then
        .error (.reject (.unsupportedScheme (String.ofList scheme)))
      else .error .passThrough := by
  obtain ⟨text, hcred, hread⟩ := presents_iff.mp h
  unfold bearerToken
  simp only [hcred, hread]
  by_cases hb : isBearer scheme = true
  · simp [hb]
  · simp [hb]

/-- A call that presents nothing is rejected. -/
theorem bearerToken_of_not_presents (g : Guard) (service : String)
    (h : ∀ scheme token, ¬Presents hs scheme token) :
    ∃ reason, g.bearerToken service hs = .error (.reject reason) := by
  unfold bearerToken
  cases hcred : credentials hs with
  | error reason => exact ⟨reason, rfl⟩
  | ok text => exact absurd (presents_iff.mpr ⟨text, hcred, rfl⟩) (h _ _)

/-- A call that is not rejected at sight presents something. -/
theorem exists_presents {x : Except Decision String} (h : g.bearerToken service hs = x)
    (hx : ∀ reason, x ≠ .error (.reject reason)) : ∃ scheme token, Presents hs scheme token := by
  by_contra hnone
  obtain ⟨reason, hreason⟩ := bearerToken_of_not_presents g service
    fun scheme token hp => hnone ⟨scheme, token, hp⟩
  exact hx reason (h.symm.trans hreason)

/-- The guard admits no call before it has seen a token. -/
theorem bearerToken_ne_allow (v : VerifiedToken) :
    g.bearerToken service hs ≠ .error (.allow v) := by
  intro hread
  obtain ⟨scheme, token, hp⟩ := exists_presents hread (fun reason h => by cases h)
  rw [bearerToken_of_presents hp] at hread
  split at hread <;> split at hread <;> cases hread

theorem bearerToken_eq_ok_iff {token : String} :
    g.bearerToken service hs = .ok token ↔
      ∃ scheme, Presents hs scheme token.toList ∧ isBearer scheme = true ∧ token.toList ≠ [] := by
  constructor
  · intro hread
    obtain ⟨scheme, cs, hp⟩ := exists_presents hread (fun reason h => by cases h)
    rw [bearerToken_of_presents hp] at hread
    split at hread
    · next hb =>
      split at hread
      · cases hread
      · next hne =>
        obtain rfl := Except.ok.inj hread
        rw [String.toList_ofList]
        exact ⟨scheme, hp, hb, hne⟩
    · split at hread <;> cases hread
  · rintro ⟨scheme, hp, hb, hne⟩
    rw [bearerToken_of_presents hp, if_pos hb, if_neg hne, String.ofList_toList]

theorem bearerToken_eq_passThrough_iff :
    g.bearerToken service hs = .error .passThrough ↔
      ∃ scheme token, Presents hs scheme token ∧ isBearer scheme = false ∧
        (g.unknownScheme = .passThrough ∨ g.policies.isSecured service = false) := by
  constructor
  · intro hread
    obtain ⟨scheme, token, hp⟩ := exists_presents hread (fun reason h => by cases h)
    rw [bearerToken_of_presents hp] at hread
    split at hread
    · split at hread <;> cases hread
    · next hb =>
      split at hread
      · cases hread
      · next hpass =>
        refine ⟨scheme, token, hp, Bool.eq_false_iff.mpr hb, ?_⟩
        cases hscheme : g.unknownScheme with
        | passThrough => exact .inl rfl
        | reject => exact .inr (Bool.eq_false_iff.mpr fun hsec => hpass ⟨hscheme, hsec⟩)
  · rintro ⟨scheme, token, hp, hb, hpass⟩
    have hnot : ¬(g.unknownScheme = .reject ∧ g.policies.isSecured service = true) := by
      rintro ⟨hscheme, hsec⟩
      rcases hpass with hpass | hpass
      · rw [hpass] at hscheme
        cases hscheme
      · rw [hpass] at hsec
        cases hsec
    rw [bearerToken_of_presents hp, if_neg (Bool.eq_false_iff.mp hb), if_neg hnot]

end Guard

end RpcGuard
