import RpcGuard.Keys.Source
import RpcGuard.Proofs.Claims.Reading
import RpcGuard.Proofs.Json.Locality
import RpcGuard.Proofs.Keys.Armor

/-!
# Spellings of a public key

A public key in the settings is a key document or a PEM text, each as it is or in base64, and what
it is does not depend on how it is spelled (`Trust.public_key_spellings`). That the spellings cannot
be mistaken for one another rests on their characters: an object begins with a brace, which is no
symbol of base64 and no byte that a key in DER begins with, and the start of an armored block has
dashes, which are no symbols either.
-/

namespace RpcGuard

open Text (Blank Trimmed isBlank)

/-! ## Symbols of base64 -/

theorem Base64.not_isBlank_of_mem_encode {c : Char} {bs : Bytes} (h : c ∈ encode .standard bs) :
    isBlank c = false := by
  obtain ⟨hlow, hhigh⟩ := code_of_mem_encode h
  simp [Text.isBlank]
  omega

theorem Base64.filter_encode (bs : Bytes) :
    (encode .standard bs).filter (fun c => !isBlank c) = encode .standard bs :=
  List.filter_eq_self.mpr fun c hc => by rw [not_isBlank_of_mem_encode hc]; rfl

/-- White space around a text in base64 would be seen. -/
theorem Base64.trimChars_encode (bs : Bytes) :
    Text.trimChars (encode .standard bs) = encode .standard bs :=
  (Text.trimmed_of_solid fun _ => not_isBlank_of_mem_encode).trimChars_eq

/-! ## Key documents -/

theorem Json.Syntax.isSpace_eq_false {b : UInt8} (h : 0x20 < b.toNat) : isSpace b = false := by
  refine Bool.eq_false_iff.mpr fun hspace => ?_
  simp only [isSpace, Bool.or_eq_true, beq_iff_eq] at hspace
  rcases hspace with ((rfl | rfl) | rfl) | rfl <;> exact absurd h (by decide)

namespace Trust

theorem isJsonObject_iff {bs : Bytes} :
    isJsonObject bs = true ↔ ∃ members, Json.parse? bs = some (.object members) := by
  unfold isJsonObject
  cases Json.parse? bs with
  | none => simp
  | some j => cases j <;> simp [Json.isObject]

/-- An object begins with a brace, perhaps behind white space. -/
theorem skipSpace_of_isJsonObject {bs : Bytes} (h : isJsonObject bs = true) :
    ∃ r, Json.Syntax.skipSpace bs = Json.Syntax.ascii '{' :: r := by
  obtain ⟨members, hmembers⟩ := isJsonObject_iff.mp h
  obtain ⟨ms, hms, -⟩ := Json.parse?_eq_object_iff.mp hmembers
  exact Json.Syntax.head_of_parse? hms

/-- An object without what is written around its braces is an object. -/
theorem isJsonObject_of_padded {u v w : Bytes} (hu : Json.Syntax.ascii '{' ∉ u)
    (hw : Json.Syntax.ascii '}' ∉ w) (h : isJsonObject (u ++ v ++ w) = true) :
    isJsonObject v = true := by
  obtain ⟨members, hmembers⟩ := isJsonObject_iff.mp h
  obtain ⟨ms, hms, hread⟩ := Json.parse?_eq_object_iff.mp hmembers
  have hv := Json.Syntax.parse?_of_padded hu hw hms
  exact isJsonObject_iff.mpr ⟨members, Json.parse?_eq_object_iff.mpr ⟨ms, hv, hread⟩⟩

/-- An object stays one when its text is trimmed: no brace is trimmed away. -/
theorem isJsonObject_trim {text : String} (h : isJsonObject (Utf8.bytes text) = true) :
    isJsonObject (Utf8.bytes (Text.trim text)) = true := by
  obtain ⟨before, after, hbefore, hafter, -, htext⟩ := Text.exists_padding text.toList
  have hbrace : ∀ {c : Char} {cs : List Char}, Blank cs → c.toNat < 0x80 → isBlank c = false →
      Json.Syntax.ascii c ∉ Utf8.encode cs := by
    intro c cs hblank hc hsolid hmem
    cases (hblank c (Utf8.mem_of_mem_encode hc hmem)).symm.trans hsolid
  refine isJsonObject_of_padded (hbrace hbefore (c := '{') (by decide) (by decide))
    (hbrace hafter (c := '}') (by decide) (by decide)) ?_
  rw [Utf8.bytes, htext, Utf8.encode, List.flatMap_append, List.flatMap_append] at h
  rw [Utf8.bytes, Text.trim, String.toList_ofList]
  exact h

/-- What begins with neither white space nor a brace is no object. -/
theorem isJsonObject_eq_false {b : UInt8} {bs : Bytes} (hspace : Json.Syntax.isSpace b = false)
    (hbrace : b ≠ Json.Syntax.ascii '{') : isJsonObject (b :: bs) = false := by
  refine Bool.eq_false_iff.mpr fun h => ?_
  obtain ⟨r, hr⟩ := skipSpace_of_isJsonObject h
  rw [Json.Syntax.skipSpace, List.dropWhile_cons_of_neg (Bool.eq_false_iff.mp hspace)] at hr
  exact hbrace (List.cons.inj hr).1

/-- Nor is a text that begins as base64 does. -/
theorem isJsonObject_of_head {cs : List Char}
    (h : ∀ c ∈ cs.head?, 0x2B ≤ c.toNat ∧ c.toNat ≤ 0x7A) :
    isJsonObject (Utf8.encode cs) = false := by
  cases cs with
  | nil => decide
  | cons c cs =>
    obtain ⟨hlow, hhigh⟩ := h c rfl
    have hbyte : (UInt8.ofNat c.toNat).toNat = c.toNat := Base64.toNat_ofNat_of_lt (by omega)
    have hencode : Utf8.encode (c :: cs) = UInt8.ofNat c.toNat :: Utf8.encode cs := by
      show Utf8.encodeChar c ++ Utf8.encode cs = _
      rw [Utf8.encodeChar_ascii (by omega)]
      rfl
    rw [hencode]
    refine isJsonObject_eq_false ?_ ?_
    · exact Json.Syntax.isSpace_eq_false (by omega)
    · rw [ne_eq, ← UInt8.toNat_inj, hbyte]
      have hbrace : (Json.Syntax.ascii '{').toNat = 0x7B := by decide
      omega

/-- No text is an object as it is and has a reading in base64. -/
theorem decode?_of_isJsonObject {key : String} (h : isJsonObject (Utf8.bytes key) = true) :
    Base64.decode? .standard key.toList = none := by
  refine Option.eq_none_iff_forall_ne_some.mpr fun bs hbs => ?_
  have hkey := Base64.decode?_standard_eq_some_iff.mp hbs
  have hfalse : isJsonObject (Utf8.bytes key) = false := isJsonObject_of_head fun c hc =>
    Base64.code_of_mem_encode (hkey ▸ List.mem_of_mem_head? hc)
  rw [hfalse] at h
  cases h

theorem documentText?_of_isJsonObject {key : String} (h : isJsonObject (Utf8.bytes key) = true) :
    documentText? key = some key := by
  unfold documentText?
  rw [decode?_of_isJsonObject h, h]
  rfl

theorem documentText?_base64 {key : String} (h : isJsonObject (Utf8.bytes key) = true) :
    documentText? (String.ofList (Base64.encode .standard (Utf8.bytes key))) = some key := by
  have hdecode : Base64.decode? .standard (Base64.encode .standard (Utf8.bytes key)) =
      some (Utf8.bytes key) := Base64.decode?_standard_eq_some_iff.mpr rfl
  unfold documentText?
  rw [String.toList_ofList, hdecode]
  simp [Utf8.text?_bytes, h]

/-- A text that is an object neither as it is nor in base64 is no key document. -/
theorem documentText?_eq_none {key : String}
    (hdecoded : ∀ bs, Base64.decode? .standard key.toList = some bs → isJsonObject bs = false)
    (hkey : isJsonObject (Utf8.bytes key) = false) : documentText? key = none := by
  unfold documentText?
  rw [hkey]
  cases hbs : Base64.decode? .standard key.toList with
  | none => rfl
  | some bs =>
    cases htext : Utf8.text? bs <;> simp [htext, hdecoded bs hbs]

/-! ## The source that a key is -/

theorem ofPublicKey_of_documentText? {key text : String} (h : documentText? key = some text) :
    ofPublicKey key = .document text := by
  rw [ofPublicKey, h]

theorem ofPublicKey_of_none {key : String} (h : documentText? key = none) :
    ofPublicKey key = .pem (String.ofList (Pem.armored key.toList)) := by
  rw [ofPublicKey, h]

/-! ## Bodies of keys -/

/-- The text is the base64 of the bytes, apart from white space in it. -/
def IsBody (text : List Char) (key : Bytes) : Prop :=
  text.filter (fun c => !isBlank c) = Base64.encode .standard key

namespace IsBody

variable {text : List Char} {key : Bytes}

/-- All other characters of a body are those of the base64. -/
theorem mem_encode (h : IsBody text key) {c : Char} (hc : c ∈ text) (hsolid : isBlank c = false) :
    c ∈ Base64.encode .standard key := by
  rw [← h]
  exact List.mem_filter.mpr ⟨hc, by rw [hsolid]; rfl⟩

/-- A key in DER, which begins with the byte of a sequence, is no key document. -/
theorem documentText?_eq_none {rest : Bytes} (h : IsBody text (0x30 :: rest))
    (htrimmed : Trimmed text) : documentText? (String.ofList text) = none := by
  refine Trust.documentText?_eq_none (fun bs hbs => ?_) ?_
  · have hencode := Base64.decode?_standard_eq_some_iff.mp hbs
    rw [String.toList_ofList] at hencode
    rw [IsBody, hencode, Base64.filter_encode] at h
    rw [Base64.encode_standard_inj h]
    exact isJsonObject_eq_false (by decide) (by decide)
  · rw [Utf8.bytes, String.toList_ofList]
    exact isJsonObject_of_head fun c hc =>
      Base64.code_of_mem_encode (h.mem_encode (List.mem_of_mem_head? hc) (htrimmed.head c hc))

/-- A body holds no start of a block, and is armored. -/
theorem armored_eq (h : IsBody text key) :
    Pem.armored text = Pem.armoredBody (Base64.encode .standard key) := by
  have hcontains : ¬ Pem.contains Pem.armorStart.toList text = true := by
    intro hstart
    have hdash : '-' ∈ text := (Pem.contains_iff.mp hstart).subset Pem.dash_mem_armorStart
    exact Base64.dash_notMem_encode key (h.mem_encode hdash (by decide))
  rw [Pem.armored, if_neg hcontains]
  exact Pem.armoredBody_congr (h.trans (Base64.filter_encode key).symm)

end IsBody

/-! ## Spellings -/

section OnlyKey

variable {s : Settings} (hdomain : Text.nonBlank s.jwksDomain = none)
  (hendpoint : Text.nonBlank s.jwksEndpoint = none)

include hdomain hendpoint

/-- The public key is the source where it is the only one. -/
theorem select_publicKey {text : String} (hne : Text.trimChars text.toList ≠ []) :
    select { s with publicKey := some text } = .ok (some (ofPublicKey (Text.trim text))) := by
  unfold select
  dsimp only
  rw [hdomain, hendpoint, Text.nonBlank_some hne]

/-- A key document as it is. -/
theorem select_of_isJsonObject {text : String}
    (h : isJsonObject (Utf8.bytes (Text.trim text)) = true) :
    select { s with publicKey := some text } = .ok (some (.document (Text.trim text))) := by
  have hne : Text.trimChars text.toList ≠ [] := by
    intro hnil
    have hempty : isJsonObject (Utf8.bytes (String.ofList [])) = false := by decide
    rw [Text.trim, hnil, hempty] at h
    cases h
  rw [select_publicKey hdomain hendpoint hne,
    ofPublicKey_of_documentText? (documentText?_of_isJsonObject h)]

/-- A key document in base64. -/
theorem select_of_base64 {text : String} (h : isJsonObject (Utf8.bytes text) = true) :
    select { s with
      publicKey := some (String.ofList (Base64.encode .standard (Utf8.bytes text))) } =
      .ok (some (.document text)) := by
  have hne : Base64.encode .standard (Utf8.bytes text) ≠ [] := by
    intro hnil
    have hempty : Utf8.bytes text = [] :=
      Base64.encode_standard_inj (hnil.trans (rfl : [] = Base64.encode .standard []))
    rw [hempty] at h
    cases h.symm.trans (show isJsonObject [] = false by decide)
  have htrim : Text.trim (String.ofList (Base64.encode .standard (Utf8.bytes text))) =
      String.ofList (Base64.encode .standard (Utf8.bytes text)) := by
    rw [Text.trim, String.toList_ofList, Base64.trimChars_encode]
  rw [select_publicKey hdomain hendpoint, htrim,
    ofPublicKey_of_documentText? (documentText?_base64 h)]
  rw [String.toList_ofList, Base64.trimChars_encode]
  exact hne

/-- A text with the start of a block. -/
theorem select_of_armorStart {text : String} (hstart : Pem.armorStart.toList <:+: text.toList)
    (h : isJsonObject (Utf8.bytes (Text.trim text)) = false) :
    select { s with publicKey := some text } = .ok (some (.pem (Text.trim text))) := by
  have htrim : Pem.armorStart.toList <:+: Text.trimChars text.toList :=
    Pem.infix_trimChars Pem.armorStart_solid (List.ne_nil_of_mem Pem.dash_mem_armorStart) hstart
  have hdash : '-' ∈ Text.trimChars text.toList := htrim.subset Pem.dash_mem_armorStart
  have hnone : documentText? (Text.trim text) = none := by
    refine documentText?_eq_none (fun bs hbs => ?_) h
    have hencode := Base64.decode?_standard_eq_some_iff.mp hbs
    rw [Text.trim, String.toList_ofList] at hencode
    exact absurd (hencode ▸ hdash) (Base64.dash_notMem_encode bs)
  have hcontains : Pem.contains Pem.armorStart.toList (Text.trim text).toList = true := by
    rw [Pem.contains_iff, Text.trim, String.toList_ofList]
    exact htrim
  rw [select_publicKey hdomain hendpoint (List.ne_nil_of_mem hdash), ofPublicKey_of_none hnone,
    Pem.armored, if_pos hcontains, String.ofList_toList]

/-- Such a text without white space around it. -/
theorem select_of_pem {chars : List Char} (htrim : Text.trimChars chars = chars)
    (hstart : Pem.contains Pem.armorStart.toList chars = true)
    (h : isJsonObject (Utf8.encode chars) = false) :
    select { s with publicKey := some (String.ofList chars) } =
      .ok (some (.pem (String.ofList chars))) := by
  have htext : Text.trim (String.ofList chars) = String.ofList chars := by
    rw [Text.trim, String.toList_ofList, htrim]
  have hselect := select_of_armorStart hdomain hendpoint
    (show Pem.armorStart.toList <:+: (String.ofList chars).toList by
      rw [String.toList_ofList]
      exact Pem.contains_iff.mp hstart)
  rw [htext, Utf8.bytes, String.toList_ofList] at hselect
  exact hselect h

/-- The bare body of a key in DER, with white space anywhere. -/
theorem select_of_body {text : String} {rest : Bytes}
    (h : IsBody text.toList (0x30 :: rest)) :
    select { s with publicKey := some text } =
      .ok (some (.pem (String.ofList
        (Pem.armoredBody (Base64.encode .standard (0x30 :: rest)))))) := by
  have htrim : IsBody (Text.trimChars text.toList) (0x30 :: rest) :=
    (Text.filter_trimChars _).trans h
  have hne : Text.trimChars text.toList ≠ [] := by
    intro hnil
    rw [hnil] at htrim
    cases Base64.encode_standard_inj ((rfl : Base64.encode .standard [] = []).trans htrim)
  rw [select_publicKey hdomain hendpoint hne, Text.trim,
    ofPublicKey_of_none (htrim.documentText?_eq_none (Text.trimmed_trimChars _)),
    String.toList_ofList, htrim.armored_eq]

/-- **Spellings of a public key**: let the public key be the only source of keys in the settings. A
key document is the same source as it is, without white space around it, and in base64. A key in
DER, in base64 with white space anywhere, is always one and the same PEM text, its armored block. A
text with the start of a block is the PEM text that it is, apart from white space around it, unless
that is an object; and armoring does not change what is armored. No text that is an object, with the
white space around it or without, is taken for a PEM text. -/
theorem public_key_spellings :
    (∀ text, isJsonObject (Utf8.bytes text) = true → Trimmed text.toList →
      select { s with publicKey := some text } = .ok (some (.document text)) ∧
      select { s with
        publicKey := some (String.ofList (Base64.encode .standard (Utf8.bytes text))) } =
        .ok (some (.document text))) ∧
    (∀ key, key.head? = some 0x30 →
      ∃ pem, Pem.IsBlockOf (Base64.encode .standard key) (String.toList pem) ∧
        ∀ text : String, IsBody text.toList key →
          select { s with publicKey := some text } = .ok (some (.pem pem))) ∧
    (∀ text : String, Pem.armorStart.toList <:+: text.toList →
      isJsonObject (Utf8.bytes (Text.trim text)) = false →
        select { s with publicKey := some text } = .ok (some (.pem (Text.trim text)))) ∧
    (∀ text, Pem.armored (Pem.armored text) = Pem.armored text) ∧
    ∀ text, isJsonObject (Utf8.bytes text) = true ∨
        isJsonObject (Utf8.bytes (Text.trim text)) = true →
      select { s with publicKey := some text } = .ok (some (.document (Text.trim text))) := by
  refine ⟨fun text h htrimmed => ⟨?_, select_of_base64 hdomain hendpoint h⟩, fun key hkey => ?_,
    fun text => select_of_armorStart hdomain hendpoint, Pem.armored_armored,
    fun text h => select_of_isJsonObject hdomain hendpoint (h.elim isJsonObject_trim id)⟩
  · have htrim : Text.trim text = text := by
      rw [Text.trim, htrimmed.trimChars_eq, String.ofList_toList]
    rw [select_of_isJsonObject hdomain hendpoint (htrim.symm ▸ h), htrim]
  · obtain ⟨rest, rfl⟩ := List.head?_eq_some_iff.mp hkey
    refine ⟨_, ?_, fun text => select_of_body hdomain hendpoint⟩
    rw [String.toList_ofList]
    refine Pem.isBlockOf_armoredBody (Base64.filter_encode _) fun c hc => ?_
    exact Nat.lt_of_le_of_lt (Base64.code_of_mem_encode hc).2 (by decide)

end OnlyKey

/-- Without other sources: an empty document in both spellings and with white space around it, the
shortest key with and without white space in it, and a text that only begins like a block. -/
theorem public_key_spellings_empty :
    select { publicKey := some "\x7b\x7d" } = .ok (some (.document "\x7b\x7d")) ∧
    select { publicKey := some "e30=" } = .ok (some (.document "\x7b\x7d")) ∧
    (∃ pem, Pem.IsBlockOf "MAA=".toList (String.toList pem) ∧
      select { publicKey := some "MAA=" } = .ok (some (.pem pem)) ∧
      select { publicKey := some " MA\nA=" } = .ok (some (.pem pem))) ∧
    select { publicKey := some "\t-----BEGIN" } = .ok (some (.pem "-----BEGIN")) ∧
    select { publicKey := some "\n\x7b\x7d " } = .ok (some (.document "\x7b\x7d")) := by
  obtain ⟨hdocument, hkey, harmored, -, hpadded⟩ :=
    public_key_spellings (s := {}) rfl rfl
  have htrimmed : Text.trimChars "\x7b\x7d".toList = "\x7b\x7d".toList := by decide +kernel
  obtain ⟨hplain, hbase64⟩ := hdocument "\x7b\x7d" (by decide +kernel)
    (htrimmed ▸ Text.trimmed_trimChars _)
  obtain ⟨pem, hblock, hbody⟩ := hkey [0x30, 0x00] rfl
  have hencode : Base64.encode .standard [0x30, 0x00] = "MAA=".toList := by decide +kernel
  rw [hencode] at hblock
  refine ⟨hplain, ?_, ⟨pem, hblock, hbody _ ?_, hbody _ ?_⟩, ?_, ?_⟩
  · have htext : String.ofList (Base64.encode .standard (Utf8.bytes "\x7b\x7d")) = "e30=" := by
      decide +kernel
    rwa [htext] at hbase64
  · unfold IsBody
    decide +kernel
  · unfold IsBody
    decide +kernel
  · have htrim : Text.trim "\t-----BEGIN" = "-----BEGIN" := by decide +kernel
    rw [← htrim]
    exact harmored _ (Pem.contains_iff.mp (by decide +kernel)) (by decide +kernel)
  · have htrim : Text.trim "\n\x7b\x7d " = "\x7b\x7d" := by decide +kernel
    rw [← htrim]
    exact hpadded _ (.inl (by decide +kernel))

/-- The text of an object may hold the start of a block, and what is no object may become one
without the white space around it: the no-break space is none of JSON. -/
theorem public_key_trimmed_to_object :
    ¬ ∀ text : String, Pem.armorStart.toList <:+: text.toList →
      isJsonObject (Utf8.bytes text) = false →
        select { publicKey := some text } = .ok (some (.pem (Text.trim text))) := by
  intro h
  have hpem := h "\u00a0\x7b\"-----BEGIN\":1\x7d" (Pem.contains_iff.mp (by decide +kernel))
    (by decide +kernel)
  have hobject : isJsonObject
      (Utf8.bytes (Text.trim "\u00a0\x7b\"-----BEGIN\":1\x7d")) = true := by decide +kernel
  have hdocument := select_of_isJsonObject (s := {}) rfl rfl hobject
  rw [hdocument] at hpem
  cases hpem

end Trust

/-- The key of a PEM text that is nothing but the armor of a key. -/
theorem KeySource.ofTrust_of_pem {chars : List Char} {der : Bytes} (options : CacheOptions)
    (hread : Pem.read? chars = some ⟨"RSA PUBLIC KEY", der⟩)
    (hitems : (Asn1.read? der).isSome = true) :
    KeySource.ofTrust (some (.pem (String.ofList chars))) options =
      .ok (.static ⟨none, .der der⟩) := by
  obtain ⟨items, hitems⟩ := Option.isSome_iff_exists.mp hitems
  show KeySource.ofPem (String.ofList chars) = _
  unfold KeySource.ofPem TrustedKey.ofPem
  rw [String.toList_ofList, hread]
  dsimp only
  rw [hitems]
  rfl

end RpcGuard
