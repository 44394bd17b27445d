import RpcGuard.Proofs.Outcome
import RpcGuard.Proofs.Yaml.Commentary
import RpcGuard.Settings.Files

/-!
# Overlays without settings

What becomes of settings under an overlay that sets none. The values of the files are merged first
and read as settings afterwards, so it is the value of the overlay that counts: an empty mapping
leaves a mapping as it is, but null, which is also what a file of comments writes, takes its place.
-/

namespace RpcGuard

open Yaml (Commentary Value)

/-! ## Merging -/

namespace Yaml.Value

/-- The entries of a mapping without a tag. -/
def mapping? : Value → Option (List (Value × Value))
  | mapping es => some es
  | _ => none

theorem mapping?_eq_some_iff {v : Value} {es : List (Value × Value)} :
    v.mapping? = some es ↔ v = mapping es := by
  cases v with
  | mapping es' => simp [mapping?]
  | null | bool | number | string | sequence | tagged => simp [mapping?]

/-- Null takes the place of any value. -/
theorem merge_null (v : Value) : merge null v = null := by
  cases v <;> rfl

/-- No entries change no mapping. -/
theorem merge_nil_mapping (es : List (Value × Value)) : merge (mapping []) (mapping es) = mapping es :=
  rfl

/-- A mapping without entries takes the place of whatever is no mapping. -/
theorem merge_nil_of_mapping?_eq_none {v : Value} (h : v.mapping? = none) :
    merge (mapping []) v = mapping [] := by
  cases v with
  | mapping es => cases h
  | null | bool | number | string | sequence | tagged => rfl

end Yaml.Value

/-! ## Loading -/

namespace Settings

/-- What a base file writes on its own. -/
theorem load_none_eq_ok_iff {base : Option Bytes} {s : Settings} :
    load base none = .ok s ↔ ∃ v, fileValue base = .ok v ∧ ofValue? v = some s := by
  unfold load
  rw [Outcome.bind_eq_ok_iff]
  refine exists_congr fun v => and_congr_right fun _ => ?_
  rw [Outcome.bind_eq_ok_iff]
  constructor
  · rintro ⟨u, hu, h⟩
    obtain rfl : v = u := Except.ok.inj hu
    dsimp only at h
    cases hv : ofValue? v with
    | none =>
      rw [hv] at h
      cases h
    | some s' =>
      rw [hv] at h
      exact congrArg some (Except.ok.inj h)
  · intro hs
    refine ⟨v, rfl, ?_⟩
    dsimp only
    rw [hs]
    rfl

/-- An overlay counts by its value. -/
theorem load_some_eq_ok {base file : Option Bytes} {v w : Value} {s : Settings}
    (hbase : fileValue base = .ok v) (hfile : fileValue file = .ok w)
    (hmerged : ofValue? (w.merge v) = some s) : load base (some file) = .ok s := by
  unfold load
  refine Outcome.bind_eq_ok_iff.mpr ⟨v, hbase, Outcome.bind_eq_ok_iff.mpr ⟨w, hfile, ?_⟩⟩
  refine Outcome.bind_eq_ok_iff.mpr ⟨w.merge v, rfl, ?_⟩
  dsimp only
  rw [hmerged]
  rfl

/-- Only a mapping or null writes settings, perhaps behind tags. -/
theorem untagged_of_ofValue? {v : Value} {s : Settings} (h : ofValue? v = some s) :
    (∃ es, v.untagged = .mapping es) ∨ v.untagged = .null ∧ s = {} := by
  unfold ofValue? Merged.entries? at h
  cases hv : v.untagged with
  | mapping es => exact .inl ⟨es, rfl⟩
  | null =>
    rw [hv] at h
    exact .inr ⟨rfl, (Option.some.inj h).symm⟩
  | bool | number | string | sequence | tagged =>
    rw [hv] at h
    cases h

/-- A file of comments writes null. -/
theorem fileValue_of_commentary {file : Bytes} {text : String}
    (htext : Utf8.text? file = some text) (hcommentary : Commentary text.toList) :
    fileValue (some file) = .ok .null := by
  unfold fileValue
  rw [Option.bind_some, htext]
  simp only [Value.ofText?_of_commentary hcommentary]

/-- What null is laid over is forgotten. -/
theorem load_of_null {base file : Option Bytes} {s : Settings} (hbase : load base none = .ok s)
    (hfile : fileValue file = .ok .null) : load base (some file) = .ok {} := by
  obtain ⟨v, hv, -⟩ := load_none_eq_ok_iff.mp hbase
  refine load_some_eq_ok hv hfile ?_
  rw [Value.merge_null]
  rfl

/-- **Overlays without settings**: let a base file write settings on its own. An overlay of blank
lines and comments, the empty one among them, writes null, and under an overlay that writes null the
settings are all forgotten: what is loaded are the defaults. An overlay with the empty mapping
leaves them as they are, except those of a base with a tag, which are forgotten too. -/
theorem load_of_overlay_without_settings {base : Option Bytes} {s : Settings}
    (hbase : load base none = .ok s) :
    (∀ file text, Utf8.text? file = some text → Commentary text.toList →
      fileValue (some file) = .ok .null) ∧
    (∀ file, fileValue (some file) = .ok .null → load base (some (some file)) = .ok {}) ∧
    ∀ file, fileValue (some file) = .ok (.mapping []) → ∃ v, fileValue base = .ok v ∧
      (v.untagged = v → load base (some (some file)) = .ok s) ∧
      (v.untagged ≠ v → load base (some (some file)) = .ok {}) := by
  refine ⟨fun _ _ => fileValue_of_commentary, fun _ => load_of_null hbase, ?_⟩
  intro file hfile
  obtain ⟨v, hv, hs⟩ := load_none_eq_ok_iff.mp hbase
  refine ⟨v, hv, ?_⟩
  cases hmapping : v.mapping? with
  | some es =>
    obtain rfl := Value.mapping?_eq_some_iff.mp hmapping
    have hkept : load base (some (some file)) = .ok s := by
      refine load_some_eq_ok hv hfile ?_
      rwa [Value.merge_nil_mapping]
    exact ⟨fun _ => hkept, fun htagged => absurd rfl htagged⟩
  | none =>
    have hforgotten : load base (some (some file)) = .ok {} := by
      refine load_some_eq_ok hv hfile ?_
      rw [Value.merge_nil_of_mapping?_eq_none hmapping]
      rfl
    refine ⟨fun hplain => ?_, fun _ => hforgotten⟩
    -- a base that is no mapping and has no tag is null, and leaves all settings out
    obtain ⟨es, hes⟩ | ⟨-, hdefaults⟩ := untagged_of_ofValue? hs
    · have hentries : v.mapping? = some es := by
        rw [← hplain, hes]
        rfl
      rw [hmapping] at hentries
      cases hentries
    · rw [hdefaults]
      exact hforgotten

/-- A base with an issuer under an empty file and under the empty mapping. -/
theorem load_of_overlay_without_settings_issuer :
    let base := some (Utf8.bytes "issuer: a")
    load base none = .ok { issuer := some "a" } ∧ load base (some (some [])) = .ok {} ∧
      load base (some (some (Utf8.bytes "\x7b\x7d"))) = .ok { issuer := some "a" } := by
  intro base
  have hbase : load base none = .ok { issuer := some "a" } :=
    Outcome.toOption_eq_some_iff.mp (by decide +kernel)
  have hcases := load_of_overlay_without_settings hbase
  have hempty : load base (some (some [])) = .ok {} :=
    hcases.2.1 [] (hcases.1 [] "" rfl .nil)
  have hbraces : ((fileValue (some (Utf8.bytes "\x7b\x7d"))).toOption.bind Value.mapping?).map
      List.isEmpty = some true := by decide +kernel
  have hmapping : ((fileValue base).toOption.bind Value.mapping?).isSome = true := by
    decide +kernel
  have hfile : fileValue (some (Utf8.bytes "\x7b\x7d")) = .ok (.mapping []) := by
    obtain ⟨es, hes, hnone⟩ := Option.map_eq_some_iff.mp hbraces
    obtain ⟨w, hw, hentries⟩ := Option.bind_eq_some_iff.mp hes
    rw [Outcome.toOption_eq_some_iff.mp hw, Value.mapping?_eq_some_iff.mp hentries,
      List.isEmpty_iff.mp hnone]
  obtain ⟨v, hv, hkept, -⟩ := hcases.2.2 _ hfile
  rw [hv] at hmapping
  obtain ⟨es, hes⟩ := Option.isSome_iff_exists.mp hmapping
  have hplain : v.untagged = v := by
    rw [Value.mapping?_eq_some_iff.mp hes]
    rfl
  exact ⟨hbase, hempty, hkept hplain⟩

/-- An empty overlay has the issuer of a base forgotten. -/
theorem load_of_empty_overlay_ne :
    let base := some (Utf8.bytes "issuer: a")
    load base none = .ok { issuer := some "a" } ∧
      load base (some (some [])) ≠ load base none := by
  intro base
  have hbase : load base none = .ok { issuer := some "a" } :=
    Outcome.toOption_eq_some_iff.mp (by decide +kernel)
  have hoverlay : load base (some (some [])) = .ok {} :=
    Outcome.toOption_eq_some_iff.mp (by decide +kernel)
  refine ⟨hbase, fun h => ?_⟩
  rw [hbase, hoverlay] at h
  cases h

end Settings

end RpcGuard
