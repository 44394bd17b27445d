import Mathlib.Data.List.Forall2
import Mathlib.Data.List.Nodup
import RpcGuard.Keys.Jwk
import RpcGuard.Proofs.Equality
import RpcGuard.Proofs.Json.Writing

/-!
# Writing key documents

How keys are written, and that they are read back (`Jwk.documents_read_back`). A key may be written
as any object with its fields among the members (`Jwk.IsWritten`): the members may stand in any
order, a missing text is left out or null, and members of other names do not count. The same goes
for a set of keys and its member `keys`. Of the two shapes of a document a set comes first, be the
object a key as well.

Every list of keys has such a text (`Jwk.setText`), whatever strings are in it.
-/

namespace RpcGuard

/-- What is found of a name is the first member that has it. -/
theorem Dictionary.lookup_eq_head?_filter {α β : Type} [DecidableEq α] (k : α)
    (ps : List (α × β)) : ps.lookup k = (ps.filter fun p => p.1 = k).head?.map Prod.snd := by
  induction ps with
  | nil => rfl
  | cons p ps ih =>
    obtain ⟨k', v⟩ := p
    by_cases h : k = k'
    · subst h
      rw [List.lookup_cons_self, List.filter_cons_of_pos (by simp)]
      rfl
    · have hbeq : (k == k') = false := beq_eq_false_iff_ne.mpr h
      rw [List.lookup_cons, hbeq, List.filter_cons_of_neg (by simpa using Ne.symm h)]
      exact ih

namespace Jwk

/-! ## Keys as objects -/

/-- The fields with their texts, in the order of the array form. -/
def fields (k : Jwk) : List (String × Option String) :=
  [("kid", k.kid), ("kty", some k.kty), ("alg", k.alg), ("n", k.n), ("e", k.e)]

/-- The members that have the name of a field, if it has this text: one with the text, or, if there
is none, null or nothing. -/
inductive WritesField (name : String) : Option String → List (String × Json) → Prop where
  | text (s : String) : WritesField name (some s) [(name, .string s)]
  | null : WritesField name none [(name, .null)]
  | omitted : WritesField name none []

/-- The members write the key. Their order does not count, nor do members of other names. -/
def IsWrittenBy (k : Jwk) (members : List (String × Json)) : Prop :=
  ∀ field ∈ k.fields, WritesField field.1 field.2 (members.filter fun m => m.1 = field.1)

/-- The value is an object that writes the key. -/
def IsWritten (k : Jwk) (j : Json) : Prop :=
  ∃ members, j = .object members ∧ k.IsWrittenBy members

theorem isWrittenBy_iff {k : Jwk} {members : List (String × Json)} :
    k.IsWrittenBy members ↔
      WritesField "kid" k.kid (members.filter fun m => m.1 = "kid") ∧
      WritesField "kty" (some k.kty) (members.filter fun m => m.1 = "kty") ∧
      WritesField "alg" k.alg (members.filter fun m => m.1 = "alg") ∧
      WritesField "n" k.n (members.filter fun m => m.1 = "n") ∧
      WritesField "e" k.e (members.filter fun m => m.1 = "e") := by
  simp [IsWrittenBy, fields]

theorem mem_fieldNames_iff {k : Jwk} {name : String} :
    name ∈ fieldNames ↔ ∃ value, (name, value) ∈ k.fields := by
  have hnames : fieldNames = k.fields.map Prod.fst := rfl
  rw [hnames, List.mem_map]
  constructor
  · rintro ⟨⟨_, value⟩, hfield, rfl⟩
    exact ⟨value, hfield⟩
  · rintro ⟨value, hfield⟩
    exact ⟨_, hfield, rfl⟩

theorem WritesField.optional?_eq {name : String} {value : Option String}
    {ms : List (String × Json)} (h : WritesField name value ms) :
    optional? (ms.head?.map Prod.snd) = some value := by
  cases h <;> rfl

theorem WritesField.length_le {name : String} {value : Option String} {ms : List (String × Json)}
    (h : WritesField name value ms) : ms.length ≤ 1 := by
  cases h <;> simp

theorem eq_string_of_optional? {x : Option Json} {s : String} (h : optional? x = some (some s)) :
    x = some (.string s) := by
  unfold optional? at h
  split at h <;> simp_all

theorem ofFields?_of_fields {k : Jwk} {field : String → Option Json}
    (h : ∀ f ∈ k.fields, optional? (field f.1) = some f.2) : ofFields? field = some k := by
  simp only [fields, List.forall_mem_cons] at h
  obtain ⟨hkid, hkty, halg, hn, he, -⟩ := h
  unfold ofFields?
  rw [eq_string_of_optional? hkty, hkid, halg, hn, he]
  rfl

section
variable {k : Jwk} {members : List (String × Json)}

theorem filter_known {name : String} (hname : name ∈ fieldNames) :
    ((members.filter fun m => m.1 ∈ fieldNames).filter fun m => m.1 = name) =
      members.filter fun m => m.1 = name := by
  rw [List.filter_filter]
  refine List.filter_congr fun m _ => ?_
  by_cases h : m.1 = name
  · rw [h, decide_eq_true hname, Bool.and_true]
  · rw [decide_eq_false h, Bool.false_and]

/-- No field is repeated. -/
theorem IsWrittenBy.nodup (h : k.IsWrittenBy members) :
    ((members.filter fun m => m.1 ∈ fieldNames).map Prod.fst).Nodup := by
  -- a name is counted by its members, of which a field has one at most
  rw [List.nodup_iff_count_le_one]
  intro name
  by_cases hname : name ∈ fieldNames
  · obtain ⟨value, hfield⟩ := (mem_fieldNames_iff (k := k)).mp hname
    have hlength := (h _ hfield).length_le
    rw [← filter_known hname] at hlength
    rw [List.count_eq_countP, List.countP_map, List.countP_eq_length_filter]
    exact hlength
  · rw [List.count_eq_zero_of_not_mem]
    · exact Nat.zero_le _
    · intro hmem
      obtain ⟨m, hm, rfl⟩ := List.mem_map.mp hmem
      exact hname (of_decide_eq_true (List.mem_filter.mp hm).2)

/-- A written key is read. -/
theorem IsWrittenBy.ofJson?_eq (h : k.IsWrittenBy members) :
    ofJson? (.object members) = some k := by
  unfold ofJson?
  dsimp only
  rw [if_pos h.nodup]
  refine ofFields?_of_fields fun field hfield => ?_
  have hname : field.1 ∈ fieldNames := mem_fieldNames_iff.mpr ⟨_, hfield⟩
  rw [Dictionary.lookup_eq_head?_filter, filter_known hname]
  exact (h field hfield).optional?_eq

end

theorem mapM_ofJson?_of_isWritten {keys : List Jwk} {items : List Json}
    (h : List.Forall₂ IsWritten keys items) : items.mapM ofJson? = some keys := by
  induction h with
  | nil => rfl
  | cons hkey _ ih =>
    obtain ⟨members, rfl, hwritten⟩ := hkey
    rw [List.mapM_cons, hwritten.ofJson?_eq, ih]
    rfl

/-! ## Documents -/

section
variable {text : Bytes} {members : List (String × Json)}

/-- An object whose member `keys` is an array of keys is their set, whatever else is in it. -/
theorem readDocument?_of_set {items : List Json} {keys : List Jwk}
    (hparse : Json.parse? text = some (.object members))
    (hkeys : (members.filter fun m => m.1 = "keys") = [("keys", .array items)])
    (hitems : items.mapM ofJson? = some keys) : readDocument? text = some keys := by
  have hset : setOfJson? (.object members) = some keys := by
    unfold setOfJson?
    dsimp only
    rw [hkeys]
    exact hitems
  unfold readDocument? documentOfJson?
  rw [hparse, Option.bind_eq_bind, Option.bind_some, hset]
  rfl

/-- A key without a member `keys` is a document. -/
theorem readDocument?_of_single {k : Jwk} (hparse : Json.parse? text = some (.object members))
    (hkeys : ∀ m ∈ members, m.1 ≠ "keys") (hkey : ofJson? (.object members) = some k) :
    readDocument? text = some [k] := by
  have hnone : (members.filter fun m => m.1 = "keys") = [] :=
    List.filter_eq_nil_iff.mpr fun m hm => by simpa using hkeys m hm
  have hset : setOfJson? (.object members) = none := by
    unfold setOfJson?
    dsimp only
    rw [hnone]
  unfold readDocument? documentOfJson?
  rw [hparse, Option.bind_eq_bind, Option.bind_some, hset, hkey]
  rfl

end

/-! ## A text for each document -/

/-- The members of the fields that have a text. -/
def present {β : Type} (write : String → β) (fs : List (String × Option String)) :
    List (String × β) :=
  fs.filterMap fun f => f.2.map fun s => (f.1, write s)

/-- The text of a key: an object of the fields that have a text. -/
def text (k : Jwk) : Bytes := Json.objectText (present Json.quoted k.fields)

/-- The text of a set of keys. -/
def setText (keys : List Jwk) : Bytes :=
  Json.objectText [("keys", Json.Syntax.arrayText (keys.map text))]

theorem mem_present {β : Type} {write : String → β} {fs : List (String × Option String)}
    {m : String × β} (h : m ∈ present write fs) : m.1 ∈ fs.map Prod.fst := by
  obtain ⟨f, hf, hm⟩ := List.mem_filterMap.mp h
  obtain ⟨s, -, rfl⟩ := Option.map_eq_some_iff.mp hm
  exact List.mem_map_of_mem hf

theorem filter_present_of_notMem {β : Type} {write : String → β}
    {fs : List (String × Option String)} {name : String} (h : name ∉ fs.map Prod.fst) :
    ((present write fs).filter fun m => m.1 = name) = [] := by
  refine List.filter_eq_nil_iff.mpr fun m hm heq => h ?_
  rw [← of_decide_eq_true heq]
  exact mem_present hm

/-- There is one member of a name, or none. -/
theorem filter_present {β : Type} {write : String → β} {fs : List (String × Option String)}
    (hnames : (fs.map Prod.fst).Nodup) {f : String × Option String} (hf : f ∈ fs) :
    ((present write fs).filter fun m => m.1 = f.1) =
      (f.2.map fun s => (f.1, write s)).toList := by
  induction fs with
  | nil => cases hf
  | cons f' fs ih =>
    obtain ⟨hnotMem, hnames'⟩ := List.nodup_cons.mp hnames
    have hcons : present write (f' :: fs) =
        (f'.2.map fun s => (f'.1, write s)).toList ++ present write fs := by
      cases hvalue : f'.2 <;> simp [present, hvalue]
    rw [hcons, List.filter_append]
    rcases List.mem_cons.mp hf with rfl | hmem
    · rw [filter_present_of_notMem hnotMem, List.append_nil]
      cases f.2 <;> simp
    · have hne : f'.1 ≠ f.1 := fun heq => hnotMem (heq ▸ List.mem_map_of_mem hmem)
      rw [ih hnames' hmem]
      cases f'.2 <;> simp [hne]

theorem isWrittenBy_present (k : Jwk) : k.IsWrittenBy (present .string k.fields) := by
  have hnames : (k.fields.map Prod.fst).Nodup := show fieldNames.Nodup by decide
  intro field hfield
  rw [filter_present hnames hfield]
  cases field.2 with
  | none => exact .omitted
  | some s => exact .text s

/-- A key is the object of its fields. -/
def toJson (k : Jwk) : Json := .object (present .string k.fields)

theorem writes_text (depth : Nat) (k : Jwk) : Json.Writes (depth + 1) k.text k.toJson := by
  have hpieces : ∀ piece ∈ present (fun s => (Json.quoted s, Json.string s)) k.fields,
      Json.Writes depth piece.2.1 piece.2.2 := by
    intro piece hpiece
    obtain ⟨f, -, hf⟩ := List.mem_filterMap.mp hpiece
    obtain ⟨s, -, rfl⟩ := Option.map_eq_some_iff.mp hf
    exact Json.writes_quoted depth s
  have hwrites := Json.Writes.object hpieces
  simpa [present, text, toJson, List.map_filterMap, Option.map_map, Function.comp_def]
    using hwrites

theorem writes_setText (depth : Nat) (keys : List Jwk) :
    Json.Writes (depth + 3) (setText keys) (.object [("keys", .array (keys.map toJson))]) := by
  have hpieces : ∀ piece ∈ keys.map fun k => (k.text, k.toJson),
      Json.Writes (depth + 1) piece.1 piece.2 := by
    intro piece hpiece
    obtain ⟨k, -, rfl⟩ := List.mem_map.mp hpiece
    exact writes_text depth k
  have hkeys := Json.Writes.array hpieces
  rw [List.map_map, List.map_map] at hkeys
  have hmember : ∀ piece ∈ [("keys", Json.Syntax.arrayText (keys.map text),
      Json.array (keys.map toJson))], Json.Writes (depth + 2) piece.2.1 piece.2.2 :=
    List.forall_mem_singleton.mpr hkeys
  exact Json.Writes.object hmember

theorem isWritten_toJson (keys : List Jwk) : List.Forall₂ IsWritten keys (keys.map toJson) := by
  induction keys with
  | nil => exact .nil
  | cons k keys ih => exact .cons ⟨_, rfl, k.isWrittenBy_present⟩ ih

/-- **Key documents are read back**: whatever text is read as an object whose one member `keys` is
an array of objects that write the keys of a list, the keys of the document are this list; and of
an object that writes one key and has no member `keys`, they are this key alone. An object with one
member `keys`, an array whose items are keys, is the set of them whatever its other members are,
and so even if the object itself is a key. Every list of keys, and every single key, has such a
text. -/
theorem documents_read_back :
    (∀ (keys : List Jwk) (text : Bytes) (members : List (String × Json)) (items : List Json),
      Json.parse? text = some (.object members) →
      (members.filter fun m => m.1 = "keys") = [("keys", .array items)] →
      List.Forall₂ IsWritten keys items → readDocument? text = some keys) ∧
    (∀ (k : Jwk) (text : Bytes) (members : List (String × Json)),
      Json.parse? text = some (.object members) → k.IsWrittenBy members →
      (∀ m ∈ members, m.1 ≠ "keys") → readDocument? text = some [k]) ∧
    (∀ (keys : List Jwk) (text : Bytes) (members : List (String × Json)) (items : List Json),
      Json.parse? text = some (.object members) →
      (members.filter fun m => m.1 = "keys") = [("keys", .array items)] →
      items.mapM ofJson? = some keys → readDocument? text = some keys) ∧
    (∀ keys, readDocument? (setText keys) = some keys) ∧
    ∀ k : Jwk, readDocument? k.text = some [k] := by
  refine ⟨?_, ?_, ?_, ?_, ?_⟩
  · intro keys text members items hparse hkeys hitems
    exact readDocument?_of_set hparse hkeys (mapM_ofJson?_of_isWritten hitems)
  · intro k text members hparse hwritten hkeys
    exact readDocument?_of_single hparse hkeys hwritten.ofJson?_eq
  · intro keys text members items hparse hkeys hitems
    exact readDocument?_of_set hparse hkeys hitems
  · intro keys
    exact readDocument?_of_set (writes_setText 124 keys).parse? rfl
      (mapM_ofJson?_of_isWritten (isWritten_toJson keys))
  · intro k
    have hkeys : ∀ m ∈ present Json.string k.fields, m.1 ≠ "keys" := by
      intro m hm heq
      have hmem : "keys" ∈ fieldNames := heq ▸ mem_present hm
      exact absurd hmem (by decide)
    exact readDocument?_of_single (writes_text 126 k).parse? hkeys k.isWrittenBy_present.ofJson?_eq

/-- A set of two keys among other members, in an object that is a key itself; and a key alone. -/
theorem documents_read_back_out_of_order :
    readDocument? (Utf8.bytes ("\x7b\"use\":[\x7b\"keys\":7\x7d],\"kty\":\"oct\",\"keys\":[" ++
      "\x7b\"n\":\"AQ\",\"x5c\":[\"kid\"],\"kty\":\"RSA\",\"alg\":null,\"kid\":\"\"\x7d," ++
      "\x7b\"kty\":\"EC\"\x7d]\x7d")) =
        some [⟨some "", "RSA", none, some "AQ", none⟩, ⟨none, "EC", none, none, none⟩] ∧
    readDocument? (Utf8.bytes "\x7b\"e\":\"Aw\",\"use\":\"sig\",\"kty\":\"RSA\",\"n\":null\x7d") =
      some [⟨none, "RSA", none, none, some "Aw"⟩] := by
  refine ⟨?_, ?_⟩
  · have hparse : Json.parse? (Utf8.bytes
        ("\x7b\"use\":[\x7b\"keys\":7\x7d],\"kty\":\"oct\",\"keys\":[" ++
        "\x7b\"n\":\"AQ\",\"x5c\":[\"kid\"],\"kty\":\"RSA\",\"alg\":null,\"kid\":\"\"\x7d," ++
        "\x7b\"kty\":\"EC\"\x7d]\x7d")) = some (.object
          [("use", .array [.object [("keys", .number (.natural 7))]]),
            ("kty", .string "oct"),
            ("keys", .array [
              .object [("n", .string "AQ"), ("x5c", .array [.string "kid"]), ("kty", .string "RSA"),
                ("alg", .null), ("kid", .string "")],
              .object [("kty", .string "EC")]])]) := by
      decide +kernel
    refine documents_read_back.1 _ _ _ _ hparse rfl (.cons ⟨_, rfl, ?_⟩ (.cons ⟨_, rfl, ?_⟩ .nil))
    · exact isWrittenBy_iff.mpr ⟨.text "", .text "RSA", .null, .text "AQ", .omitted⟩
    · exact isWrittenBy_iff.mpr ⟨.omitted, .text "EC", .omitted, .omitted, .omitted⟩
  · have hparse : Json.parse? (Utf8.bytes
        "\x7b\"e\":\"Aw\",\"use\":\"sig\",\"kty\":\"RSA\",\"n\":null\x7d") = some (.object
          [("e", .string "Aw"), ("use", .string "sig"), ("kty", .string "RSA"), ("n", .null)]) := by
      decide +kernel
    refine documents_read_back.2.1 _ _ _ hparse ?_ (by decide)
    exact isWrittenBy_iff.mpr ⟨.omitted, .text "RSA", .omitted, .null, .text "Aw"⟩

end Jwk

end RpcGuard
