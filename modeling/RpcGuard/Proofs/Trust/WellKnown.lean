import RpcGuard.Proofs.Keys.Armor
import RpcGuard.Proofs.Url.Authority
import RpcGuard.Trust

/-!
# The well-known document of a domain

Whatever address a domain is given as, its keys come from the well-known path of that very origin
(`Trust.well_known_keeps_origin`): scheme, user, host and port are those of the address, and the
path, the query and the fragment of the address do not count.
-/

namespace RpcGuard

/-! ## Absolute paths -/

namespace Url

variable {u v : Url} {reference : AbsolutePath}

theorem join_eq_error_iff {reason : Fault} :
    u.join reference = .error reason ↔
      (∃ text, u.path = .plain text) ∧ reason = .noHierarchy := by
  unfold join
  cases u.path with
  | plain text => simp [eq_comm]
  | segments parts => simp

theorem scheme_of_join (h : u.join reference = .ok v) : v.scheme = u.scheme := by
  unfold join at h
  split at h
  · cases h
  · obtain rfl := Except.ok.inj h
    exact scheme_withSuffix _ _

/-- As a text without a query, the reference spells these segments, whichever characters are
slashes. -/
def AbsolutePath.Spells (reference : AbsolutePath) (segments : List String) : Prop :=
  ∃ text, untilQuery ((cleaned reference.text.toList).drop 1) = (text, []) ∧
    ∀ special, extendedAll false [] (pieces special text) = segments

/-- Only a file keeps something of its path. -/
theorem join_eq_atPath {parts segments : List String} (hspells : reference.Spells segments)
    (hfile : u.scheme ≠ "file") (hpath : u.path = .segments parts) :
    u.join reference = .ok (u.atPath segments) := by
  obtain ⟨text, htext, hsegments⟩ := hspells
  unfold join
  rw [hpath, htext]
  have hdrive : (parts.take 1).filter (fun _ => false) = [] :=
    List.filter_eq_nil_iff.mpr fun _ _ => Bool.false_ne_true
  simp only [beq_false_of_ne hfile, Bool.false_and, hdrive, hsegments]
  rfl

theorem toString_atPath {host : Host} (hhost : u.host = some host) (path : List String) :
    (u.atPath path).toString =
      u.scheme ++ ":" ++ u.authority ++ String.join (path.map ("/" ++ ·)) := by
  have hpath : (u.atPath path).pathText = String.join (path.map ("/" ++ ·)) := by
    unfold pathText atPath
    simp only [hhost]
  have hsuffix : ∀ s : String, s ++ "" ++ "" = s := fun s => by
    rw [String.append_empty, String.append_empty]
  rw [← hpath]
  exact hsuffix _

end Url

/-! ## Addresses -/

namespace Trust

variable {domain : String} {url : Url}

/-- The segments of the well-known path. -/
def wellKnownSegments : List String := [".well-known", "jwks.json"]

theorem spells_wellKnownPath : wellKnownPath.Spells wellKnownSegments :=
  ⟨".well-known/jwks.json".toList, by decide +kernel, by decide +kernel⟩

/-- An address is given a scheme if it has none. -/
theorem withScheme_of_contains (h : "://".toList <:+: domain.toList) : withScheme domain = domain :=
  if_pos (Pem.contains_iff.mpr h)

theorem withScheme_of_not_contains (h : ¬"://".toList <:+: domain.toList) :
    withScheme domain = "https://" ++ domain :=
  if_neg (mt Pem.contains_iff.mp h)

theorem readUrl_eq (address : String) :
    readUrl address = (Url.parse address).mapError fun reason => ⟨address, reason⟩ := by
  unfold readUrl
  cases Url.parse address <;> rfl

theorem wellKnownUrl_eq (domain : String) :
    wellKnownUrl domain =
      ((Url.parse (withScheme domain)).mapError fun reason => ⟨withScheme domain, reason⟩) >>=
        fun base => (base.join wellKnownPath).mapError fun reason => ⟨domain, reason⟩ := by
  unfold wellKnownUrl
  rw [readUrl_eq]
  refine congrArg _ (funext fun base => ?_)
  cases base.join wellKnownPath <;> rfl

/-- The well-known document is that of a URL which the path can be resolved against. -/
theorem wellKnownUrl_eq_ok_iff :
    wellKnownUrl domain = .ok url ↔
      ∃ base, Url.parse (withScheme domain) = .ok base ∧ base.join wellKnownPath = .ok url := by
  rw [wellKnownUrl_eq, Outcome.bind_eq_ok_iff]
  exact exists_congr fun base => and_congr Outcome.mapError_eq_ok_iff Outcome.mapError_eq_ok_iff

/-- There is none if the address is no URL, or one without a hierarchy. -/
theorem wellKnownUrl_eq_error_iff {fault : Fault} :
    wellKnownUrl domain = .error fault ↔
      (∃ reason, Url.parse (withScheme domain) = .error reason ∧
        fault = ⟨withScheme domain, reason⟩) ∨
      ∃ base text, Url.parse (withScheme domain) = .ok base ∧ base.path = .plain text ∧
        fault = ⟨domain, .noHierarchy⟩ := by
  rw [wellKnownUrl_eq, Outcome.bind_eq_error_iff]
  refine or_congr ?_ ?_
  · rw [Outcome.mapError_eq_error_iff]
    exact exists_congr fun reason => and_congr_right fun _ => eq_comm
  · refine exists_congr fun base => ?_
    rw [Outcome.mapError_eq_ok_iff, Outcome.mapError_eq_error_iff]
    constructor
    · rintro ⟨hbase, reason, hjoin, rfl⟩
      obtain ⟨⟨text, hpath⟩, rfl⟩ := Url.join_eq_error_iff.mp hjoin
      exact ⟨text, hbase, hpath, rfl⟩
    · rintro ⟨text, hbase, hpath, rfl⟩
      exact ⟨hbase, _, Url.join_eq_error_iff.mpr ⟨⟨text, hpath⟩, rfl⟩, rfl⟩

/-- The well-known document of a URL of a special scheme, that of a file apart. -/
theorem wellKnownUrl_of_special {base : Url} (hbase : Url.parse (withScheme domain) = .ok base)
    (hfile : base.scheme ≠ "file") (hspecial : Url.isSpecial base.scheme = true) :
    wellKnownUrl domain = .ok (base.atPath wellKnownSegments) := by
  obtain ⟨-, -, parts, -, -, hpath⟩ := Url.exists_host_of_parse hbase hfile hspecial
  exact wellKnownUrl_eq_ok_iff.mpr
    ⟨base, hbase, Url.join_eq_atPath spells_wellKnownPath hfile hpath⟩

/-- **The well-known document keeps the origin**: take the text of a domain with `https` in front if
there is no `://` in it. If this is no URL, or one without a hierarchy, the address is refused with
the fault. If the answer is a URL for `http` or `https`, it is the URL of the text with the
well-known path and without query and fragment; so its scheme, user, host and port are those of the
text. Only the scheme of the text and its authority count: whatever else may stand behind them, the
answer is the same. -/
theorem well_known_keeps_origin (domain : String) :
    ("://".toList <:+: domain.toList → withScheme domain = domain) ∧
    (¬"://".toList <:+: domain.toList → withScheme domain = "https://" ++ domain) ∧
    (∀ fault, wellKnownUrl domain = .error fault ↔
      (∃ reason, Url.parse (withScheme domain) = .error reason ∧
        fault = ⟨withScheme domain, reason⟩) ∨
      ∃ base text, Url.parse (withScheme domain) = .ok base ∧ base.path = .plain text ∧
        fault = ⟨domain, .noHierarchy⟩) ∧
    ∀ url, wellKnownUrl domain = .ok url → url.scheme = "http" ∨ url.scheme = "https" →
      ∃ base host authority, Url.parse (withScheme domain) = .ok base ∧ base.host = some host ∧
        url = { base with
          path := .segments [".well-known", "jwks.json"], query := none, fragment := none } ∧
        url.toString = base.scheme ++ ":" ++ base.authority ++ "/.well-known/jwks.json" ∧
        (¬"://".toList <:+: domain.toList → url.scheme = "https") ∧
        Url.authority? (withScheme domain) = some (url.scheme, authority) ∧
        ∀ other, Url.authority? (withScheme other) = some (url.scheme, authority) →
          wellKnownUrl other = .ok url := by
  refine ⟨withScheme_of_contains, withScheme_of_not_contains,
    fun _ => wellKnownUrl_eq_error_iff, ?_⟩
  intro url hurl hscheme
  obtain ⟨base, hbase, hjoin⟩ := wellKnownUrl_eq_ok_iff.mp hurl
  rw [Url.scheme_of_join hjoin] at hscheme
  have hfile : base.scheme ≠ "file" := by
    rcases hscheme with h | h <;> rw [h] <;> decide
  have hspecial : Url.isSpecial base.scheme = true := by
    rcases hscheme with h | h <;> rw [h] <;> decide
  obtain rfl := Except.ok.inj ((wellKnownUrl_of_special hbase hfile hspecial).symm.trans hurl)
  obtain ⟨authority, host, -, hauthority, hhost, -⟩ :=
    Url.exists_host_of_parse hbase hfile hspecial
  refine ⟨base, host, authority, hbase, hhost, rfl, Url.toString_atPath hhost _, ?_, hauthority, ?_⟩
  · intro hdomain
    rw [withScheme_of_not_contains hdomain] at hbase
    show base.scheme = "https"
    exact Url.scheme_of_parse_https hbase
  · intro other hother
    have hsame := (Url.parse_of_authority? hother hfile hspecial wellKnownSegments).trans
      (Url.parse_of_authority? hauthority hfile hspecial wellKnownSegments).symm
    rw [hbase] at hsame
    -- the URL of the other text may differ from `base` in what the well-known path replaces
    obtain ⟨base', hbase', hequal⟩ := Outcome.map_eq_ok_iff.mp hsame
    have hscheme' : (base'.atPath wellKnownSegments).scheme =
        (base.atPath wellKnownSegments).scheme := congrArg Url.scheme hequal
    change base'.scheme = base.scheme at hscheme'
    rw [← hscheme'] at hfile hspecial
    rw [wellKnownUrl_of_special hbase' hfile hspecial, hequal]

/-- A user, an address in brackets and a port, with another host in what follows; and a domain
alone, with another one in its query. -/
theorem well_known_keeps_origin_before_at :
    (∃ url, wellKnownUrl "HTTP:\\\\u:p@[2001:DB8::1]:8080\\x@other.example?y#://" = .ok url ∧
      url.toString = "http://u:p@[2001:db8::1]:8080/.well-known/jwks.json" ∧
      wellKnownUrl "http://u:p@[2001:DB8::1]:8080" = .ok url) ∧
    ∃ url, wellKnownUrl "auth.example?realm=@other.example" = .ok url ∧
      url.toString = "https://auth.example/.well-known/jwks.json" ∧
      wellKnownUrl "https://auth.example" = .ok url := by
  refine ⟨?_, ?_⟩
  · have hurl : wellKnownUrl "HTTP:\\\\u:p@[2001:DB8::1]:8080\\x@other.example?y#://" = .ok {
        scheme := "http", user := "u", password := "p"
        host := some (.ipv6 [0x2001, 0xdb8, 0, 0, 0, 0, 0, 1]), port := some 8080
        path := .segments [".well-known", "jwks.json"] } := by decide +kernel
    obtain ⟨-, -, authority, -, -, -, -, -, hauthority, hother⟩ :=
      (well_known_keeps_origin _).2.2.2 _ hurl (.inl rfl)
    have hsame : Url.authority? (withScheme "http://u:p@[2001:DB8::1]:8080") = Url.authority?
        (withScheme "HTTP:\\\\u:p@[2001:DB8::1]:8080\\x@other.example?y#://") := by decide +kernel
    exact ⟨_, hurl, by decide +kernel, hother _ (hsame.trans hauthority)⟩
  · have hurl : wellKnownUrl "auth.example?realm=@other.example" = .ok {
        scheme := "https", host := some (.name "auth.example")
        path := .segments [".well-known", "jwks.json"] } := by decide +kernel
    obtain ⟨-, -, authority, -, -, -, -, -, hauthority, hother⟩ :=
      (well_known_keeps_origin _).2.2.2 _ hurl (.inr rfl)
    have hsame : Url.authority? (withScheme "https://auth.example") =
        Url.authority? (withScheme "auth.example?realm=@other.example") := by decide +kernel
    exact ⟨_, hurl, by decide +kernel, hother _ (hsame.trans hauthority)⟩

end Trust

end RpcGuard
