import RpcGuard.Proofs.Base64
import RpcGuard.Text.Utf8

/-!
# UTF-8 is read back

Every text is read back from its bytes (`Utf8.text?_bytes`). The argument goes character by
character, and for a character by the number of its bytes: `decode?_encodeChar_append` says that a
reader takes just these bytes and finds just this character.
-/

namespace RpcGuard.Utf8

/-! ## Classes of bytes -/

/-- The byte that continues a character with six bits. -/
def tail (k : Nat) : UInt8 := UInt8.ofNat (0x80 + k % 64)

theorem toNat_tail (k : Nat) : (tail k).toNat = 0x80 + k % 64 :=
  Base64.toNat_ofNat_of_lt (by omega)

theorem low_tail (k : Nat) : low (tail k) = k % 64 := by
  rw [low, toNat_tail]
  omega

theorem isTail_iff {b : UInt8} : isTail b = true ↔ 0x80 ≤ b.toNat ∧ b.toNat ≤ 0xBF := by
  simp [isTail, UInt8.le_iff_toNat_le]

theorem isTail_tail (k : Nat) : isTail (tail k) = true := by
  rw [isTail_iff, toNat_tail]
  omega

theorem isPair_iff {a b : UInt8} :
    isPair a b = true ↔ 0xC2 ≤ a.toNat ∧ a.toNat ≤ 0xDF ∧ isTail b = true := by
  simp [isPair, UInt8.le_iff_toNat_le, and_assoc]

theorem beginsTriple_iff {a b : UInt8} :
    beginsTriple a b = true ↔
      a.toNat = 0xE0 ∧ 0xA0 ≤ b.toNat ∧ b.toNat ≤ 0xBF ∨
        a.toNat = 0xED ∧ 0x80 ≤ b.toNat ∧ b.toNat ≤ 0x9F ∨
        0xE1 ≤ a.toNat ∧ a.toNat ≤ 0xEF ∧ a.toNat ≠ 0xED ∧ isTail b = true := by
  simp [beginsTriple, UInt8.le_iff_toNat_le, ← UInt8.toNat_inj, and_assoc, or_assoc]

theorem beginsQuad_iff {a b : UInt8} :
    beginsQuad a b = true ↔
      a.toNat = 0xF0 ∧ 0x90 ≤ b.toNat ∧ b.toNat ≤ 0xBF ∨
        a.toNat = 0xF4 ∧ 0x80 ≤ b.toNat ∧ b.toNat ≤ 0x8F ∨
        0xF1 ≤ a.toNat ∧ a.toNat ≤ 0xF3 ∧ isTail b = true := by
  simp [beginsQuad, UInt8.le_iff_toNat_le, ← UInt8.toNat_inj, and_assoc, or_assoc]

/-! ## One character -/

/-- The codes of characters are those below `0x110000`, apart from the surrogates. -/
theorem toNat_bounds (c : Char) : c.toNat < 0xD800 ∨ 0xDFFF < c.toNat ∧ c.toNat < 0x110000 :=
  c.valid

theorem not_isPair {a b : UInt8} (ha : 0xE0 ≤ a.toNat) : ¬ isPair a b = true := by
  rw [isPair_iff]
  omega

theorem not_beginsTriple {a b : UInt8} (ha : 0xF0 ≤ a.toNat) : ¬ beginsTriple a b = true := by
  rw [beginsTriple_iff]
  omega

theorem not_ascii {a : UInt8} (ha : 0x80 ≤ a.toNat) : ¬ a < 0x80 := by
  rw [UInt8.lt_iff_toNat_lt]
  exact Nat.not_lt.mpr ha

theorem decode?_one {a : UInt8} {c : Char} (ha : a.toNat < 0x80) (hc : a.toNat = c.toNat)
    (rest : Bytes) : decode? (a :: rest) = (decode? rest).map (c :: ·) := by
  rw [decode?.eq_def]
  dsimp only
  rw [if_pos (UInt8.lt_iff_toNat_lt.mpr ha), hc, Char.ofNat_toNat]

theorem decode?_two {a b : UInt8} {c : Char} (hab : isPair a b = true)
    (hc : a.toNat % 32 * 64 + low b = c.toNat) (rest : Bytes) :
    decode? (a :: b :: rest) = (decode? rest).map (c :: ·) := by
  have ha := (isPair_iff.mp hab).1
  rw [decode?.eq_def]
  dsimp only
  rw [if_neg (not_ascii (by omega)), if_pos hab, charOfPair, hc, Char.ofNat_toNat]

theorem decode?_three {a b d : UInt8} {c : Char} (ha : 0xE0 ≤ a.toNat)
    (hab : beginsTriple a b = true) (hd : isTail d = true)
    (hc : a.toNat % 16 * 4096 + low b * 64 + low d = c.toNat) (rest : Bytes) :
    decode? (a :: b :: d :: rest) = (decode? rest).map (c :: ·) := by
  rw [decode?.eq_def]
  dsimp only
  rw [if_neg (not_ascii (by omega)), if_neg (not_isPair ha),
    if_pos (Bool.and_eq_true_iff.mpr ⟨hab, hd⟩), charOfTriple, hc, Char.ofNat_toNat]

theorem decode?_four {a b d e : UInt8} {c : Char} (ha : 0xF0 ≤ a.toNat)
    (hab : beginsQuad a b = true) (hd : isTail d = true) (he : isTail e = true)
    (hc : a.toNat % 8 * 262144 + low b * 4096 + low d * 64 + low e = c.toNat) (rest : Bytes) :
    decode? (a :: b :: d :: e :: rest) = (decode? rest).map (c :: ·) := by
  have hthree : ¬ (beginsTriple a b && isTail d) = true := fun h =>
    not_beginsTriple ha (Bool.and_eq_true_iff.mp h).1
  rw [decode?.eq_def]
  dsimp only
  rw [if_neg (not_ascii (by omega)), if_neg (not_isPair (by omega)), if_neg hthree,
    if_pos (by rw [hab, hd, he]; rfl), charOfQuad, hc, Char.ofNat_toNat]

/-- A text that begins with the bytes of a character is read as that character and what follows.
The bounds that each class of bytes sets are those of the characters so written. -/
theorem decode?_encodeChar_append (c : Char) (rest : Bytes) :
    decode? (encodeChar c ++ rest) = (decode? rest).map (c :: ·) := by
  have hbounds := toNat_bounds c
  unfold encodeChar
  dsimp only
  split
  · next hone =>
    have ha : (UInt8.ofNat c.toNat).toNat = c.toNat := Base64.toNat_ofNat_of_lt (by omega)
    exact decode?_one (by omega) ha rest
  · next hone =>
    split
    · next htwo =>
      have ha : (UInt8.ofNat (0xC0 + c.toNat / 64)).toNat = 0xC0 + c.toNat / 64 :=
        Base64.toNat_ofNat_of_lt (by omega)
      refine decode?_two (b := tail c.toNat) ?_ ?_ rest
      · rw [isPair_iff, ha]
        exact ⟨by omega, by omega, isTail_tail _⟩
      · rw [ha, low_tail]
        omega
    · next htwo =>
      split
      · next hthree =>
        have ha : (UInt8.ofNat (0xE0 + c.toNat / 4096)).toNat = 0xE0 + c.toNat / 4096 :=
          Base64.toNat_ofNat_of_lt (by omega)
        refine decode?_three (b := tail (c.toNat / 64)) (d := tail c.toNat) ?_ ?_
          (isTail_tail _) ?_ rest
        · omega
        · rw [beginsTriple_iff, ha, isTail_iff, toNat_tail]
          omega
        · rw [ha, low_tail, low_tail]
          omega
      · next hthree =>
        have ha : (UInt8.ofNat (0xF0 + c.toNat / 262144)).toNat = 0xF0 + c.toNat / 262144 :=
          Base64.toNat_ofNat_of_lt (by omega)
        refine decode?_four (b := tail (c.toNat / 4096)) (d := tail (c.toNat / 64))
          (e := tail c.toNat) ?_ ?_ (isTail_tail _) (isTail_tail _) ?_ rest
        · omega
        · rw [beginsQuad_iff, ha, isTail_iff, toNat_tail]
          omega
        · rw [ha, low_tail, low_tail, low_tail]
          omega

/-! ## Texts -/

theorem decode?_encode (cs : List Char) : decode? (encode cs) = some cs := by
  induction cs with
  | nil => rfl
  | cons c cs ih =>
    show decode? (encodeChar c ++ encode cs) = _
    rw [decode?_encodeChar_append, ih]
    rfl

/-- Every text is read back from its bytes. -/
theorem text?_bytes (s : String) : text? (bytes s) = some s := by
  unfold text? bytes
  rw [decode?_encode, Option.map_some, String.ofList_toList]

theorem encodeChar_ascii {c : Char} (h : c.toNat < 0x80) :
    encodeChar c = [UInt8.ofNat c.toNat] :=
  if_pos h

/-- A text of ASCII characters is written with one byte for each. -/
theorem encode_ascii {cs : List Char} (h : ∀ c ∈ cs, c.toNat < 0x80) :
    encode cs = cs.map fun c => UInt8.ofNat c.toNat := by
  induction cs with
  | nil => rfl
  | cons c cs ih =>
    obtain ⟨hc, hcs⟩ := List.forall_mem_cons.mp h
    show encodeChar c ++ encode cs = _
    rw [encodeChar_ascii hc, ih hcs]
    rfl

/-- ASCII characters are found again in their bytes. -/
theorem chars_encode_ascii {cs : List Char} (h : ∀ c ∈ cs, c.toNat < 0x80) :
    (encode cs).map (fun b => Char.ofNat b.toNat) = cs := by
  rw [encode_ascii h, List.map_map]
  refine (List.map_congr_left fun c hc => ?_).trans (List.map_id cs)
  have hcode := h c hc
  show Char.ofNat (UInt8.ofNat c.toNat).toNat = c
  rw [Base64.toNat_ofNat_of_lt (by omega), Char.ofNat_toNat]

/-- Other characters are written without ASCII bytes. -/
theorem le_of_mem_encodeChar {c : Char} (h : 0x80 ≤ c.toNat) :
    ∀ b ∈ encodeChar c, 0x80 ≤ b.toNat := by
  have hbounds := toNat_bounds c
  have hlead : ∀ n, 0x80 ≤ n → n < 0x100 → 0x80 ≤ (UInt8.ofNat n).toNat := by
    intro n hn hlt
    rw [Base64.toNat_ofNat_of_lt (by omega)]
    exact hn
  have htail : ∀ k, 0x80 ≤ (UInt8.ofNat (0x80 + k % 64)).toNat := fun k =>
    hlead _ (by omega) (by omega)
  unfold encodeChar
  dsimp only
  rw [if_neg (by omega)]
  split
  · simp only [List.forall_mem_cons]
    exact ⟨hlead _ (by omega) (by omega), htail _, fun b hb => by cases hb⟩
  · split
    · simp only [List.forall_mem_cons]
      exact ⟨hlead _ (by omega) (by omega), htail _, htail _, fun b hb => by cases hb⟩
    · simp only [List.forall_mem_cons]
      exact ⟨hlead _ (by omega) (by omega), htail _, htail _, htail _, fun b hb => by cases hb⟩

/-- The byte of an ASCII character stands for no other character, nor for a part of one. -/
theorem mem_of_mem_encode {c : Char} {cs : List Char} (hc : c.toNat < 0x80)
    (h : UInt8.ofNat c.toNat ∈ encode cs) : c ∈ cs := by
  have hbyte : (UInt8.ofNat c.toNat).toNat = c.toNat := Base64.toNat_ofNat_of_lt (by omega)
  obtain ⟨d, hd, hmem⟩ := List.mem_flatMap.mp h
  by_cases hascii : d.toNat < 0x80
  · rw [encodeChar_ascii hascii, List.mem_singleton, ← UInt8.toNat_inj, hbyte,
      Base64.toNat_ofNat_of_lt (by omega)] at hmem
    rw [← Char.ofNat_toNat c, hmem, Char.ofNat_toNat]
    exact hd
  · have hle := le_of_mem_encodeChar (by omega) _ hmem
    omega

theorem lt_of_mem_encode_ascii {cs : List Char} (h : ∀ c ∈ cs, c.toNat < 0x80) :
    ∀ b ∈ encode cs, b < 0x80 := by
  rw [encode_ascii h]
  intro b hb
  obtain ⟨c, hc, rfl⟩ := List.mem_map.mp hb
  have hcode := h c hc
  rw [UInt8.lt_iff_toNat_lt, Base64.toNat_ofNat_of_lt (by omega)]
  exact hcode

/-- ASCII bytes are read one by one. -/
theorem decodeLossy_ascii {bs : Bytes} (h : ∀ b ∈ bs, b < 0x80) :
    decodeLossy bs = bs.map fun b => Char.ofNat b.toNat := by
  induction bs with
  | nil => rfl
  | cons b bs ih =>
    obtain ⟨hb, hbs⟩ := List.forall_mem_cons.mp h
    rw [decodeLossy.eq_def]
    dsimp only
    rw [if_pos hb, ih hbs, List.map_cons]

end RpcGuard.Utf8
