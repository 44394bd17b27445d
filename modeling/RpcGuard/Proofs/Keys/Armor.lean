import RpcGuard.Keys.Armor
import RpcGuard.Proofs.Text.Trimming
import RpcGuard.Proofs.Text.Utf8

/-!
# Armored keys

Armoring puts the body of a key into lines and loses nothing of it: the lines have at most 64
characters, and one after another they are the body (`Pem.isBlockOf_armoredBody`). A text that is
armored already stays as it is (`Pem.armored_armored`).
-/

namespace RpcGuard.Pem

open Text (Blank isBlank)

/-! ## Searching a text -/

theorem contains_iff {part text : List Char} : contains part text = true ↔ part <:+: text := by
  induction text with
  | nil => simp [contains]
  | cons c cs ih =>
    rw [contains, Bool.or_eq_true, ih, List.isPrefixOf_iff_prefix, List.infix_cons_iff]

/-- What begins with white space cannot begin a part without any. -/
theorem infix_of_blank_append {part before rest : List Char} (hb : Blank before)
    (hpart : ∀ c ∈ part, isBlank c = false) (hne : part ≠ []) (h : part <:+: before ++ rest) :
    part <:+: rest := by
  induction before with
  | nil => exact h
  | cons b before ih =>
    obtain ⟨hblank, hbefore⟩ := List.forall_mem_cons.mp hb
    rcases List.infix_cons_iff.mp h with hprefix | hinfix
    · obtain ⟨c, cs, rfl⟩ := List.exists_cons_of_ne_nil hne
      obtain ⟨rfl, -⟩ := List.cons_prefix_cons.mp hprefix
      cases hblank.symm.trans (hpart c List.mem_cons_self)
    · exact ih hbefore hinfix

/-- A part without white space is found in the trimmed text. -/
theorem infix_trimChars {part text : List Char} (hpart : ∀ c ∈ part, isBlank c = false)
    (hne : part ≠ []) (h : part <:+: text) : part <:+: Text.trimChars text := by
  obtain ⟨before, after, hbefore, hafter, -, htext⟩ := Text.exists_padding text
  rw [htext, List.append_assoc] at h
  have hfront := infix_of_blank_append hbefore hpart hne h
  rw [← List.reverse_infix, List.reverse_append] at hfront
  refine List.reverse_infix.mp (infix_of_blank_append hafter.reverse ?_ ?_ hfront)
  · exact fun c hc => hpart c (List.mem_reverse.mp hc)
  · exact fun hnil => hne (List.reverse_eq_nil_iff.mp hnil)

/-- The start of a block has no white space in it. -/
theorem armorStart_solid : ∀ c ∈ armorStart.toList, isBlank c = false := by
  have hall : armorStart.toList.all (fun c => !isBlank c) = true := by decide +kernel
  intro c hc
  simpa using List.all_eq_true.mp hall c hc

/-- It begins with a dash. -/
theorem dash_mem_armorStart : '-' ∈ armorStart.toList :=
  List.elem_iff.mp (by decide +kernel)

/-! ## Runs -/

/-- The runs of a byte string, given fuel for each byte, are the byte string. -/
theorem flatten_runs {n fuel : Nat} {bs : Bytes} (hn : 0 < n) (hfuel : bs.length ≤ fuel) :
    (runs n fuel bs).flatten = bs := by
  fun_induction runs n fuel bs with
  | case1 => rfl
  | case2 bs hne => exact absurd (List.length_eq_zero_iff.mp (Nat.le_zero.mp hfuel)) hne
  | case3 bs fuel hne ih =>
    have hpos := List.length_pos_iff.mpr hne
    rw [List.flatten_cons, ih (by rw [List.length_drop]; omega), List.take_append_drop]

theorem length_of_mem_runs {n fuel : Nat} {bs line : Bytes} (hn : 0 < n)
    (h : line ∈ runs n fuel bs) : 0 < line.length ∧ line.length ≤ n := by
  fun_induction runs n fuel bs with
  | case1 => cases h
  | case2 => cases h
  | case3 bs fuel hne ih =>
    have hpos := List.length_pos_iff.mpr hne
    rcases List.mem_cons.mp h with rfl | h
    · rw [List.length_take]
      omega
    · exact ih h

/-! ## Blocks -/

/-- The armored block of a public key with this body, in lines of at most 64 characters. -/
def IsBlockOf (body pem : List Char) : Prop :=
  ∃ lines : List (List Char), (∀ line ∈ lines, 0 < line.length ∧ line.length ≤ 64) ∧
    lines.flatten = body ∧
    pem = "-----BEGIN PUBLIC KEY-----\n".toList ++ (lines.map (· ++ ['\n'])).flatten ++
      "-----END PUBLIC KEY-----\n".toList

/-- White space does not count. -/
theorem armoredBody_congr {text text' : List Char}
    (h : text.filter (fun c => !isBlank c) = text'.filter fun c => !isBlank c) :
    armoredBody text = armoredBody text' := by
  unfold armoredBody
  rw [h]

/-- A body of ASCII characters is armored as it is, apart from its white space. -/
theorem isBlockOf_armoredBody {text body : List Char}
    (hbody : text.filter (fun c => !isBlank c) = body) (hascii : ∀ c ∈ body, c.toNat < 0x80) :
    IsBlockOf body (armoredBody text) := by
  have hflat : (runs 64 (Utf8.encode body).length (Utf8.encode body)).flatten = Utf8.encode body :=
    flatten_runs (by decide) (Nat.le_refl _)
  have hline : ∀ run ∈ runs 64 (Utf8.encode body).length (Utf8.encode body),
      Utf8.decodeLossy run = run.map fun b => Char.ofNat b.toNat := by
    intro run hrun
    refine Utf8.decodeLossy_ascii fun b hb => Utf8.lt_of_mem_encode_ascii hascii b ?_
    have hmem := List.mem_flatten.mpr ⟨run, hrun, hb⟩
    rwa [hflat] at hmem
  refine ⟨(runs 64 (Utf8.encode body).length (Utf8.encode body)).map Utf8.decodeLossy, ?_, ?_, ?_⟩
  · intro line hmem
    obtain ⟨run, hrun, rfl⟩ := List.mem_map.mp hmem
    rw [hline run hrun, List.length_map]
    exact length_of_mem_runs (by decide) hrun
  · rw [List.map_congr_left hline, ← List.map_flatten, hflat]
    exact Utf8.chars_encode_ascii hascii
  · unfold armoredBody
    rw [hbody, List.map_map]
    rfl

/-- A block begins with the start of one. -/
theorem contains_armoredBody (text : List Char) :
    contains armorStart.toList (armoredBody text) = true := by
  have hstart : armorStart.toList <+: "-----BEGIN PUBLIC KEY-----\n".toList :=
    List.isPrefixOf_iff_prefix.mp (by decide +kernel)
  rw [contains_iff]
  unfold armoredBody
  rw [List.append_assoc]
  exact (hstart.trans (List.prefix_append _ _)).isInfix

/-- Armoring a text again changes nothing. -/
theorem armored_armored (text : List Char) : armored (armored text) = armored text := by
  have hcontains : contains armorStart.toList (armored text) = true := by
    rw [armored]
    split
    · assumption
    · exact contains_armoredBody text
  rw [armored.eq_def (armored text), if_pos hcontains]

end RpcGuard.Pem
