import Mathlib.Data.List.TakeDrop
import Mathlib.Data.List.TakeWhile
import RpcGuard.Proofs.Outcome
import RpcGuard.Url.Parser

/-!
# Authorities of URLs

Where a URL of a special scheme leads is told by its scheme and by the text between the slashes
behind the scheme and the next slash, question mark or hash (`Url.authority?`). Two texts with the
same scheme and authority are URLs alike or faulty alike, and as URLs have the same scheme, user,
password, host and port (`Url.parse_atPath_congr`): whatever stands behind the authority is path,
query and fragment.
-/

namespace RpcGuard.Url

/-! ## Parts of an authority -/

/-- The URL with another path, and without query and fragment. -/
def atPath (u : Url) (path : List String) : Url :=
  { u with path := .segments path, query := none, fragment := none }

/-- The parts of an authority as they are written. `after` is what follows the host. -/
structure Parts where
  user : List Char
  password : List Char
  host : List Char
  after : List Char

/-- The parts of an authority. -/
def parts (authority : List Char) : Parts :=
  let (info, hostPort) := splitUser authority
  let (user, password) := (info.getD []).span (· != ':')
  let (host, after) := spanHost false hostPort
  ⟨user, password.drop 1, host, after⟩

/-- The port that follows a host, if one does, and what comes next. -/
def portAfter (scheme : String) (after rest : List Char) : Except Fault (Option Nat × List Char) :=
  match after with
  | [] => .ok (none, rest)
  | _ :: digits => portOf scheme (digits ++ rest)

/-- The URL of the parts, with the path, query and fragment that a text spells. -/
def assembled (scheme : String) (p : Parts) (host : Host) (port : Option Nat) (rest : List Char) :
    Url :=
  withSuffix {
    scheme
    user := String.ofList (Percent.encode userEscapes p.user)
    password := String.ofList (Percent.encode userEscapes p.password)
    host := some host
    port
    path := .segments (pathOf scheme (untilQuery rest).1) } (untilQuery rest).2

/-- A suffix sets query and fragment. -/
theorem withSuffix_eq (u : Url) (cs : List Char) : ∃ query fragment,
    withSuffix u cs = { u with query := query, fragment := fragment } := by
  unfold withSuffix
  split
  · exact ⟨_, _, rfl⟩
  · exact ⟨_, _, rfl⟩

theorem scheme_withSuffix (u : Url) (cs : List Char) : (withSuffix u cs).scheme = u.scheme := by
  obtain ⟨query, fragment, heq⟩ := withSuffix_eq u cs
  rw [heq]

section
variable {scheme : String}

/-- A special scheme needs a host; the rest is read in the order of the text. -/
theorem afterSlashes_of_special (hspecial : isSpecial scheme = true) (cs : List Char) :
    afterSlashes scheme cs =
      let p := parts (cs.takeWhile fun c => !endsAuthority true c)
      if p.host = [] then .error .emptyHost
      else Host.ofDomain p.host >>= fun host =>
        portAfter scheme p.after (cs.dropWhile fun c => !endsAuthority true c) >>= fun q =>
          .ok (assembled scheme p host q.1 q.2) := by
  have hspan := List.span_eq_takeWhile_dropWhile (fun c => !endsAuthority true c) cs
  generalize cs.takeWhile (fun c => !endsAuthority true c) = authority at hspan ⊢
  generalize cs.dropWhile (fun c => !endsAuthority true c) = rest at hspan ⊢
  rcases hsplit : splitUser authority with ⟨info, hostPort⟩
  rcases huser : (info.getD []).span (· != ':') with ⟨user, password⟩
  rcases hhost : spanHost false hostPort with ⟨hostText, after⟩
  have hparts : parts authority = ⟨user, password.drop 1, hostText, after⟩ := by
    simp only [parts, hsplit, huser, hhost]
  rw [hparts]
  unfold afterSlashes
  simp only [hspecial, hspan, hsplit, huser, hhost]
  by_cases hempty : hostText = []
  · -- refused at one of two places, for the same reason
    subst hempty
    rw [if_pos rfl]
    split
    · rfl
    · rfl
  · -- all other checks are about empty hosts
    have hne : hostText.isEmpty = false := by simpa using hempty
    have hfilled : hostPort.isEmpty = false := by
      rw [Bool.eq_false_iff, ne_eq, List.isEmpty_iff]
      rintro rfl
      cases hhost
      exact hempty rfl
    simp only [hne, hfilled, Bool.false_eq_true, false_and, and_false, if_false, if_true]
    rw [if_neg hempty]
    cases after <;> rfl

theorem scheme_of_afterSlashes {cs : List Char} {u : Url} (h : afterSlashes scheme cs = .ok u) :
    u.scheme = scheme := by
  rcases hspan : cs.span (fun c => !endsAuthority (isSpecial scheme) c) with ⟨authority, rest⟩
  rcases hsplit : splitUser authority with ⟨info, hostPort⟩
  rcases huser : (info.getD []).span (· != ':') with ⟨user, password⟩
  rcases hhost : spanHost false hostPort with ⟨hostText, after⟩
  unfold afterSlashes at h
  simp only [hspan, hsplit, huser, hhost] at h
  -- whatever way is taken, it ends in a fault or in a URL with the scheme and some suffix
  split at h
  · cases h
  split at h
  · cases h
  split at h
  all_goals
    obtain ⟨host, -, h⟩ := Outcome.bind_eq_ok_iff.mp h
    split at h
    · cases h
    split at h
    all_goals
      obtain ⟨⟨port, rest⟩, -, h⟩ := Outcome.bind_eq_ok_iff.mp h
      split at h
      · cases h
      · cases h
        exact scheme_withSuffix _ _

end

/-! ## The rest of a text -/

theorem span_append_of_head {p : Char → Bool} {t : List Char} (ht : ∀ c ∈ t.head?, p c = false)
    (s : List Char) : (s ++ t).span p = ((s.span p).1, (s.span p).2 ++ t) := by
  simp only [List.span_eq_takeWhile_dropWhile]
  induction s with
  | nil =>
    cases t with
    | nil => rfl
    | cons c t =>
      have hc : ¬ p c = true := by simp [ht c rfl]
      rw [List.nil_append, List.takeWhile_cons_of_neg hc, List.dropWhile_cons_of_neg hc]
      rfl
  | cons c s ih =>
    obtain ⟨htake, hdrop⟩ := Prod.mk.inj ih
    by_cases hc : p c = true
    · rw [List.cons_append, List.takeWhile_cons_of_pos hc, List.dropWhile_cons_of_pos hc, htake,
        hdrop, List.takeWhile_cons_of_pos hc, List.dropWhile_cons_of_pos hc]
    · rw [List.cons_append, List.takeWhile_cons_of_neg hc, List.dropWhile_cons_of_neg hc,
        List.takeWhile_cons_of_neg hc, List.dropWhile_cons_of_neg hc, List.cons_append]

theorem not_isDigit_of_endsAuthority {c : Char} (h : endsAuthority true c = true) :
    c.isDigit = false := by
  simp only [endsAuthority, Bool.or_eq_true, Bool.and_eq_true, beq_iff_eq, true_and] at h
  rcases h with ((rfl | rfl) | rfl) | rfl <;> decide

section
variable {scheme : String} {rest : List Char}

/-- A port is the same whatever stands behind the authority. -/
theorem portOf_append (hrest : ∀ c ∈ rest.head?, endsAuthority true c = true) (cs : List Char) :
    portOf scheme (cs ++ rest) = (portOf scheme cs).map fun q => (q.1, q.2 ++ rest) := by
  have hspan := span_append_of_head
    (fun c hc => not_isDigit_of_endsAuthority (hrest c hc)) cs
  rcases hdigits : cs.span Char.isDigit with ⟨digits, after⟩
  rw [hdigits] at hspan
  unfold portOf
  simp only [hspan, hdigits]
  split
  · rfl
  cases after with
  | cons c after =>
    simp only [List.cons_append]
    split <;> rfl
  | nil =>
    cases rest with
    | nil => rfl
    | cons c rest =>
      simp only [List.nil_append, hrest c rfl, if_true]
      rfl

theorem portAfter_eq_map (hrest : ∀ c ∈ rest.head?, endsAuthority true c = true)
    (after : List Char) :
    portAfter scheme after rest = (portAfter scheme after []).map fun q => (q.1, q.2 ++ rest) := by
  cases after with
  | nil => rfl
  | cons c digits =>
    unfold portAfter
    dsimp only
    rw [portOf_append hrest, List.append_nil]

/-- What stands behind the authority tells path, query and fragment. -/
theorem atPath_assembled (p : Parts) (host : Host) (port : Option Nat) (rest rest' : List Char)
    (path : List String) :
    (assembled scheme p host port rest).atPath path =
      (assembled scheme p host port rest').atPath path := by
  obtain ⟨query, fragment, heq⟩ := withSuffix_eq _ (untilQuery rest).2
  obtain ⟨query', fragment', heq'⟩ := withSuffix_eq _ (untilQuery rest').2
  rw [assembled, heq, assembled, heq']
  rfl

theorem host_assembled {p : Parts} {host : Host} {port : Option Nat} :
    (assembled scheme p host port rest).host = some host := by
  obtain ⟨query, fragment, heq⟩ := withSuffix_eq _ (untilQuery rest).2
  rw [assembled, heq]

theorem path_assembled {p : Parts} {host : Host} {port : Option Nat} :
    (assembled scheme p host port rest).path =
      .segments (pathOf scheme (untilQuery rest).1) := by
  obtain ⟨query, fragment, heq⟩ := withSuffix_eq _ (untilQuery rest).2
  rw [assembled, heq]

/-- Apart from path, query and fragment, a URL is that of its authority. -/
theorem afterSlashes_atPath (hspecial : isSpecial scheme = true) (cs : List Char)
    (path : List String) :
    (afterSlashes scheme cs).map (·.atPath path) =
      (afterSlashes scheme (cs.takeWhile fun c => !endsAuthority true c)).map (·.atPath path) := by
  have hrest : ∀ c ∈ (cs.dropWhile fun c => !endsAuthority true c).head?,
      endsAuthority true c = true := by
    intro c hc
    have hnot := List.head?_dropWhile_not (fun c => !endsAuthority true c) cs
    rw [Option.mem_def.mp hc] at hnot
    simpa using hnot
  have hnone : (cs.takeWhile fun c => !endsAuthority true c).dropWhile
      (fun c => !endsAuthority true c) = [] :=
    List.dropWhile_eq_nil_iff.mpr fun c hc => List.all_eq_true.mp List.all_takeWhile c hc
  rw [afterSlashes_of_special hspecial, afterSlashes_of_special hspecial, List.takeWhile_idem,
    hnone]
  dsimp only
  split
  · rfl
  cases Host.ofDomain (parts (cs.takeWhile fun c => !endsAuthority true c)).host with
  | error fault => rfl
  | ok host =>
    rw [portAfter_eq_map hrest]
    cases portAfter scheme (parts (cs.takeWhile fun c => !endsAuthority true c)).after [] with
    | error fault => rfl
    | ok q => exact congrArg Except.ok (atPath_assembled _ host q.1 _ _ path)

end

/-! ## Texts -/

/-- The scheme of a text and its authority, as they are written behind any number of slashes. -/
def authority? (s : String) : Option (String × List Char) :=
  (scheme? (cleaned s.toList)).map fun (scheme, rest) =>
    (scheme, (rest.dropWhile (isSlash true)).takeWhile fun c => !endsAuthority true c)

theorem scheme_of_ofFile {cs : List Char} {u : Url} (h : ofFile cs = .ok u) :
    u.scheme = "file" := by
  have hfile : ∀ host cs, (fileOf host cs).scheme = "file" := fun _ _ => scheme_withSuffix _ _
  unfold ofFile at h
  dsimp only at h
  split at h
  · split at h
    · split at h
      · split at h
        · split at h
          · cases h
            exact hfile _ _
          · obtain ⟨host, -, h⟩ := Outcome.bind_eq_ok_iff.mp h
            cases h
            exact hfile _ _
        · cases h
          exact hfile _ _
      · cases h
        exact hfile _ _
    · cases h
      exact hfile _ _
  · cases h
    exact hfile _ _

theorem scheme_of_ofOther {scheme : String} {cs : List Char} {u : Url}
    (h : ofOther scheme cs = .ok u) : u.scheme = scheme := by
  unfold ofOther at h
  split at h
  · exact scheme_of_afterSlashes h
  · cases h
    exact scheme_withSuffix _ _
  · cases h
    exact scheme_withSuffix _ _

/-- The scheme of a URL is the one that its text begins with. -/
theorem scheme?_of_parse {s : String} {u : Url} (h : parse s = .ok u) :
    ∃ rest, scheme? (cleaned s.toList) = some (u.scheme, rest) := by
  unfold parse at h
  split at h
  · cases h
  · next scheme rest hscheme =>
    have heq : u.scheme = scheme := by
      split at h
      · next hfile => rw [scheme_of_ofFile h, hfile]
      split at h
      · exact scheme_of_afterSlashes h
      · exact scheme_of_ofOther h
    exact ⟨rest, heq ▸ hscheme⟩

theorem parse_of_authority? {s : String} {scheme : String} {authority : List Char}
    (h : authority? s = some (scheme, authority)) (hfile : scheme ≠ "file")
    (hspecial : isSpecial scheme = true) (path : List String) :
    (parse s).map (·.atPath path) = (afterSlashes scheme authority).map (·.atPath path) := by
  obtain ⟨⟨scheme, rest⟩, hscheme, heq⟩ := Option.map_eq_some_iff.mp h
  obtain ⟨rfl, rfl⟩ := Prod.mk.inj heq
  unfold parse
  rw [hscheme]
  dsimp only
  rw [if_neg hfile, if_pos hspecial, afterSlashes_atPath hspecial]

/-- A URL of a special scheme has a host and a hierarchy of segments. -/
theorem exists_host_of_parse {s : String} {u : Url} (h : parse s = .ok u)
    (hfile : u.scheme ≠ "file") (hspecial : isSpecial u.scheme = true) :
    ∃ authority host parts, authority? s = some (u.scheme, authority) ∧ u.host = some host ∧
      u.path = .segments parts := by
  obtain ⟨rest, hscheme⟩ := scheme?_of_parse h
  unfold parse at h
  rw [hscheme] at h
  dsimp only at h
  rw [if_neg hfile, if_pos hspecial, afterSlashes_of_special hspecial] at h
  dsimp only at h
  split at h
  · cases h
  obtain ⟨host, -, h⟩ := Outcome.bind_eq_ok_iff.mp h
  obtain ⟨q, -, h⟩ := Outcome.bind_eq_ok_iff.mp h
  have hu := Except.ok.inj h
  exact ⟨_, host, pathOf u.scheme (untilQuery q.2).1, congrArg (Option.map _) hscheme,
    (congrArg Url.host hu).symm.trans host_assembled,
    (congrArg Url.path hu).symm.trans path_assembled⟩

/-! ## Schemes in front -/

/-- What stands in front of a text counts if nothing in it is a control or a space. -/
theorem cleaned_append {front : List Char} (hplain : front.all fun c => 0x20 < c.toNat)
    (hne : front ≠ []) (cs : List Char) : ∃ rest, cleaned (front ++ cs) = front ++ rest := by
  have hfront : ∀ c ∈ front, 0x20 < c.toNat := fun c hc =>
    of_decide_eq_true (List.all_eq_true.mp hplain c hc)
  have hhead : ∀ {front : List Char}, (∀ c ∈ front, 0x20 < c.toNat) → front ≠ [] → ∀ rest,
      (front ++ rest).dropWhile (fun c => decide (c.toNat ≤ 0x20)) = front ++ rest := by
    intro front hfront hne rest
    obtain ⟨c, front, rfl⟩ := List.exists_cons_of_ne_nil hne
    refine List.dropWhile_cons_of_neg ?_
    simpa using hfront c List.mem_cons_self
  have hreverse : (front ++ cs).reverse.dropWhile (fun c => decide (c.toNat ≤ 0x20)) =
      cs.reverse.dropWhile (fun c => decide (c.toNat ≤ 0x20)) ++ front.reverse := by
    rw [List.reverse_append, List.dropWhile_append]
    split
    · next hnil =>
      have hback := hhead (fun c hc => hfront c (List.mem_reverse.mp hc))
        (by simpa using hne : front.reverse ≠ []) []
      rw [List.append_nil] at hback
      rw [hback, List.isEmpty_iff.mp hnil, List.nil_append]
    · rfl
  have hkept : front.filter (fun c => !(c == '\t' || c == '\n' || c == '\r')) = front := by
    refine List.filter_eq_self.mpr fun c hc => ?_
    have hhigh := hfront c hc
    simp only [Bool.not_eq_true', Bool.or_eq_false_iff, beq_eq_false_iff_ne]
    refine ⟨⟨?_, ?_⟩, ?_⟩ <;> rintro rfl <;> exact absurd hhigh (by decide)
  unfold cleaned
  dsimp only
  rw [hhead hfront hne, hreverse, List.reverse_append, List.reverse_reverse, List.filter_append,
    hkept]
  exact ⟨_, rfl⟩

theorem scheme?_https (rest : List Char) :
    scheme? ("https://".toList ++ rest) = some ("https", "//".toList ++ rest) :=
  rfl

/-- A text behind `https` and slashes has this scheme. -/
theorem scheme_of_parse_https {s : String} {u : Url} (h : parse ("https://" ++ s) = .ok u) :
    u.scheme = "https" := by
  obtain ⟨rest, hscheme⟩ := scheme?_of_parse h
  have hplain : "https://".toList.all fun c => 0x20 < c.toNat := by decide
  obtain ⟨rest', hcleaned⟩ := cleaned_append hplain (by decide) s.toList
  rw [String.toList_append, hcleaned, scheme?_https] at hscheme
  exact (Prod.mk.inj (Option.some.inj hscheme)).1.symm

end RpcGuard.Url
