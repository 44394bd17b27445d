import RpcGuard.Proofs.Claims.Payloads
import RpcGuard.Proofs.Rounding

/-!
# Dates

What a number is as a date. A natural number of 64 bits is kept, whatever its size. Any other number
is judged by its binary64 value: one that lies from zero on below `2^64` is rounded to a whole
second, a half going up, and no other number is a date (`Claims.date_of_number`).

A value below `2^64` is rounded to a date of 64 bits because of the format: a value of 53 bits that
has a fraction is far below the bound (`Binary64.lt_of_toNatBelow?`). So it counts where the values
come from, which are those that numerals are read as (`Json.inFormat_of_number?`).
-/

namespace RpcGuard

-- Powers of naturals are those of the core library, whatever else is imported.
attribute [local instance (high)] instPowNat

/-! ## Numbers as binary64 values -/

/-- The binary64 value of a number: for an integer, the closest one. -/
def Number.binary64? : Number → Option Binary64
  | natural n => (Binary64.nearest? n.toNat 1).map (.ofMagnitude false)
  | negative n => (Binary64.nearest? n.natAbs 1).map (.ofMagnitude true)
  | float x => some x

namespace Json

theorem inFormat_of_number? {x : Decimal} {y : Binary64} (h : number? x = some (.float y)) :
    y.InFormat := by
  unfold number? at h
  dsimp only at h
  split at h
  · cases h
  · split at h
    · cases h
    · obtain ⟨z, hz, heq⟩ := Option.map_eq_some_iff.mp h
      obtain rfl := Number.float.inj heq
      exact Decimal.inFormat_of_quick? hz

/-- A numeral without point, exponent and sign is kept as it is if it has 64 bits. -/
theorem number?_of_isWhole {x : Decimal} (hwhole : x.isWhole = true) (hsign : x.negative = false)
    (hlt : Decimal.valueOf x.whole < 2 ^ (64 : Nat)) :
    number? x = some (.natural (UInt64.ofNat (Decimal.valueOf x.whole))) := by
  unfold number?
  dsimp only
  exact if_pos ⟨hwhole, by rw [hsign]; rfl, hlt⟩

/-- Nothing else is. -/
theorem ne_natural_of_number? {x : Decimal} {n : Number} (hread : number? x = some n)
    (hnot : ¬(x.isWhole = true ∧ x.negative = false ∧ Decimal.valueOf x.whole < 2 ^ (64 : Nat)))
    (m : UInt64) : n ≠ .natural m := by
  rintro rfl
  unfold number? at hread
  dsimp only at hread
  split at hread
  · next h => exact hnot ⟨h.1, by simpa using h.2.1, h.2.2⟩
  · split at hread
    · cases hread
    · obtain ⟨y, -, heq⟩ := Option.map_eq_some_iff.mp hread
      cases heq

/-! ## Members as they are written -/

theorem ofMembers?_cons_eq_some_iff {depth : ℕ} {key : Bytes} {x : Syntax}
    {ms : List (Bytes × Syntax)} {members : List (String × Json)} :
    ofMembers? depth ((key, x) :: ms) = some members ↔
      ∃ k v rest, text? key = some k ∧ ofSyntax? depth x = some v ∧
        ofMembers? depth ms = some rest ∧ members = (k, v) :: rest := by
  rw [ofMembers?]
  simp only [Option.bind_eq_bind, Option.bind_eq_some_iff]
  constructor
  · rintro ⟨k, hk, v, hv, rest, hrest, heq⟩
    exact ⟨k, v, rest, hk, hv, hrest, (Option.some.inj heq).symm⟩
  · rintro ⟨k, v, rest, hk, hv, hrest, rfl⟩
    exact ⟨k, hk, v, hv, rest, hrest, rfl⟩

theorem ofMembers?_append_eq_some_iff {depth : ℕ} {ms ms' : List (Bytes × Syntax)}
    {members : List (String × Json)} :
    ofMembers? depth (ms ++ ms') = some members ↔
      ∃ first second, ofMembers? depth ms = some first ∧ ofMembers? depth ms' = some second ∧
        members = first ++ second := by
  induction ms generalizing members with
  | nil => simp [ofMembers?]
  | cons m ms ih =>
    obtain ⟨key, x⟩ := m
    simp only [List.cons_append, ofMembers?_cons_eq_some_iff, ih]
    constructor
    · rintro ⟨k, v, _, hk, hv, ⟨first, second, hfirst, hsecond, rfl⟩, rfl⟩
      exact ⟨(k, v) :: first, second, ⟨k, v, first, hk, hv, hfirst, rfl⟩, hsecond, rfl⟩
    · rintro ⟨_, second, ⟨k, v, first, hk, hv, hfirst, rfl⟩, hsecond, rfl⟩
      exact ⟨k, v, _, hk, hv, ⟨first, second, hfirst, hsecond, rfl⟩, rfl⟩

end Json

/-! ## One date -/

namespace Claims

/-- A natural number is kept as a date. -/
theorem dateOf_natural (n : UInt64) : dateOf (.number (.natural n)) = .ok (some n) := rfl

/-- The date that a numeral other than a natural number is read as. -/
theorem dateOf_number {y : Decimal} {n : Number} (hread : Json.number? y = some n)
    (hnatural : ∀ m, n ≠ .natural m) :
    ∃ x q, n.binary64? = some x ∧ x.InFormat ∧ x.value? = some q ∧
      (0 ≤ q ∧ q < (2 ^ (64 : Nat) : ℕ) →
        ⌊q + 1 / 2⌋₊ < 2 ^ (64 : Nat) ∧
          dateOf (.number n) = .ok (some (UInt64.ofNat ⌊q + 1 / 2⌋₊))) ∧
      (¬(0 ≤ q ∧ q < (2 ^ (64 : Nat) : ℕ)) → dateOf (.number n) = .error .dateOutOfRange) := by
  cases n with
  | natural m => exact absurd rfl (hnatural m)
  | negative n =>
    obtain ⟨hle, hneg⟩ := Json.range_of_number? hread
    obtain ⟨x, hx, hpos⟩ := Binary64.exists_nearest?_one (n := n.natAbs) (by omega) (by omega)
    have hbelow : -(1 : ℚ) * (x.significand * 2 ^ x.exponent) < 0 := by
      have hsignificand : (0 : ℚ) < x.significand := Nat.cast_pos.mpr hpos
      rw [neg_one_mul]
      exact neg_neg_of_pos (by positivity)
    refine ⟨.ofMagnitude true x, _, ?_, Binary64.inFormat_of_nearest? hx, rfl, ?_, fun _ => rfl⟩
    · rw [Number.binary64?, hx]
      rfl
    · rintro ⟨hnonneg, -⟩
      exact absurd hbelow (not_lt.mpr hnonneg)
  | float x =>
    have hformat := Json.inFormat_of_number? hread
    cases x with
    | infinite s => cases hformat
    | nan => cases hformat
    | finite s m e =>
      refine ⟨_, _, rfl, hformat, rfl, fun hwithin => ?_, fun hwithin => ?_⟩
      · have hrounded := (Binary64.toNatBelow?_eq_some_iff (x := .finite s m e) rfl).mpr
          ⟨hwithin, rfl⟩
        refine ⟨Binary64.lt_of_toNatBelow? hformat (by decide) hrounded, ?_⟩
        unfold dateOf
        dsimp only
        rw [hrounded]
      · have hnone : (Binary64.finite s m e).toNatBelow? (2 ^ (64 : Nat)) = none := by
          rw [Option.eq_none_iff_forall_ne_some]
          intro k hk
          exact hwithin ((Binary64.toNatBelow?_eq_some_iff rfl).mp hk).1
        unfold dateOf
        dsimp only
        rw [hnone]

/-! ## The dates of a payload -/

/-- The typed claims that are dates. -/
inductive DateName where
  | expiry | notBefore | issuedAt
  deriving DecidableEq, Repr

/-- The typed claim that a date is. -/
def DateName.name : DateName → Name
  | expiry => .expiry
  | notBefore => .notBefore
  | issuedAt => .issuedAt

/-- A date among the claims. -/
def date (c : Claims) : DateName → Option UInt64
  | .expiry => c.expiry
  | .notBefore => c.notBefore
  | .issuedAt => c.issuedAt

/-- A date is set by the members of its own name. -/
theorem isField_date (which : DateName) : IsField which.name (·.date which) dateOf where
  own h := by
    have hset := of_set h
    cases which with
    | expiry | notBefore | issuedAt =>
      obtain ⟨x, hx, rfl⟩ := hset
      exact hx
  other {_ _ _ name'} hname h := by
    have hset := of_set h
    cases name' with
    | issuer | subject =>
      obtain ⟨x, -, rfl⟩ := hset
      cases which <;> rfl
    | resourceAccess | roles =>
      dsimp only at hset
      rw [hset]
      cases which <;> rfl
    | expiry =>
      obtain ⟨x, -, rfl⟩ := hset
      cases which with
      | expiry => exact absurd rfl hname
      | notBefore | issuedAt => rfl
    | notBefore =>
      obtain ⟨x, -, rfl⟩ := hset
      cases which with
      | notBefore => exact absurd rfl hname
      | expiry | issuedAt => rfl
    | issuedAt =>
      obtain ⟨x, -, rfl⟩ := hset
      cases which with
      | issuedAt => exact absurd rfl hname
      | expiry | notBefore => rfl
  extra _ _ := by cases which <;> rfl

theorem Name.fits_null (name : Name) : name.Fits .null := by
  cases name with
  | issuer | subject | expiry | notBefore | issuedAt => exact .inl rfl
  | resourceAccess | roles => trivial

/-- A number fits a date if it is read as one. -/
theorem DateName.fits_number_iff (which : DateName) {y : Decimal} {n : Number}
    (hread : Json.number? y = some n) :
    which.name.Fits (.number n) ↔ ∃ d, dateOf (.number n) = .ok d := by
  have hdate : which.name.Fits (.number n) ↔ (Json.number n).IsDate := by cases which <;> rfl
  rw [hdate, exists_dateOf_eq_ok_iff]
  intro m hm
  obtain rfl := Json.number.inj hm
  exact (Json.range_of_number? hread).2

section Payload

variable {payload : Bytes} {before after : List (String × Json)} {name : Name} {v : Json}

/-- What is wrong with an object is the value of a member or what is wrong with null in its
place. -/
theorem refused_replace_iff :
    Refused (before ++ (name.text, v) :: after) ↔
      ¬name.Fits v ∨ Refused (before ++ (name.text, .null) :: after) := by
  -- the names are the same
  have hnames : ∀ w : Json, (before ++ (name.text, w) :: after).map Prod.fst =
      before.map Prod.fst ++ name.text :: after.map Prod.fst := fun w => by
    rw [List.map_append, List.map_cons]
  have hmem : ∀ {m : String × Json} {w : Json}, m ∈ before ++ (name.text, w) :: after ↔
      m = (name.text, w) ∨ m ∈ before ++ after := by
    intro m w
    rw [List.mem_append, List.mem_cons, List.mem_append]
    exact or_left_comm
  constructor
  · rintro (@⟨name', hcount⟩ | @⟨name', w, hw, hmisfit⟩)
    · rw [hnames] at hcount
      exact .inr (.repeated (by rwa [hnames]))
    · rcases hmem.mp hw with heq | hother
      · obtain ⟨htext, rfl⟩ := Prod.mk.inj heq
        obtain rfl := Name.text_inj htext
        exact .inl hmisfit
      · exact .inr (.misfit (hmem.mpr (.inr hother)) hmisfit)
  · rintro (hmisfit | @⟨name', hcount⟩ | @⟨name', w, hw, hmisfit⟩)
    · exact .misfit (hmem.mpr (.inl rfl)) hmisfit
    · rw [hnames] at hcount
      exact .repeated (by rwa [hnames])
    · rcases hmem.mp hw with heq | hother
      · obtain ⟨-, rfl⟩ := Prod.mk.inj heq
        exact absurd name'.fits_null hmisfit
      · exact .misfit (hmem.mpr (.inr hother)) hmisfit

/-- A typed claim is there once, so its value is that of any member of its name. -/
theorem lastValue?_of_not_refused (h : ¬Refused (before ++ (name.text, v) :: after)) :
    Dictionary.lastValue? name.text (before ++ (name.text, v) :: after) = some v := by
  have hcount : ¬1 < ((before ++ (name.text, v) :: after).map Prod.fst).count name.text :=
    fun hcount => h (.repeated hcount)
  have hafter : name.text ∉ after.map Prod.fst := by
    intro hmem
    have hpos := List.count_pos_iff.mpr hmem
    rw [List.map_append, List.count_append, List.map_cons, List.count_cons_self] at hcount
    omega
  have hnone : Dictionary.lastValue? name.text after = none := by
    rw [← Option.not_isSome_iff_eq_none, Dictionary.isSome_lastValue?_iff]
    exact hafter
  clear h hcount
  induction before with
  | nil =>
    rw [List.nil_append, Dictionary.lastValue?, hnone]
    exact if_pos rfl
  | cons m before ih => rw [List.cons_append, Dictionary.lastValue?, ih]

end Payload

/-- The members, as they are written, are those of an object that has claims. -/
def Accepted (ms : List (Bytes × Json.Syntax)) : Prop :=
  ∃ members, Json.ofMembers? valueDepth ms = some members ∧ ¬Refused members

section Written

variable {payload : Bytes} {ms before after : List (Bytes × Json.Syntax)}

theorem exists_read_eq_ok_iff (hobject : Json.Syntax.parse? payload = some (.object ms)) :
    (∃ c, read payload = .ok c) ↔ Accepted ms := by
  constructor
  · rintro ⟨c, hread⟩
    obtain ⟨members, d, hparse, htakes, -⟩ := read_eq_ok_iff.mp hread
    obtain ⟨ms', hms', hmembers⟩ := Json.parse?_eq_object_iff.mp hparse
    obtain rfl := Json.Syntax.object.inj (Option.some.inj (hms'.symm.trans hobject))
    exact ⟨members, hmembers, fun hrefused => (refused_iff hparse).mp hrefused ⟨d, htakes⟩⟩
  · rintro ⟨members, hmembers, hnot⟩
    have hparse := Json.parse?_eq_object_iff.mpr ⟨ms, hobject, hmembers⟩
    rw [refused_iff hparse, Classical.not_not] at hnot
    obtain ⟨d, htakes⟩ := hnot
    exact ⟨_, (read_eq_ok_iff_of_parse hparse).mpr ⟨d, htakes, rfl⟩⟩

/-- An object has claims if the value of a typed claim can be read and fits, and the object with
null in its place has claims. -/
theorem accepted_iff {key : Bytes} {name : Name} (hkey : Json.text? key = some name.text)
    {x : Json.Syntax} :
    Accepted (before ++ (key, x) :: after) ↔
      (∃ v, Json.ofSyntax? valueDepth x = some v ∧ name.Fits v) ∧
        Accepted (before ++ (key, .null) :: after) := by
  have hnull : Json.ofSyntax? valueDepth .null = some .null := rfl
  unfold Accepted
  simp only [Json.ofMembers?_append_eq_some_iff, Json.ofMembers?_cons_eq_some_iff, hkey, hnull]
  constructor
  · rintro ⟨_, ⟨first, _, hfirst, ⟨k, v, rest, hk, hv, hrest, rfl⟩, rfl⟩, hnot⟩
    obtain rfl := Option.some.inj hk
    rw [refused_replace_iff, not_or, Classical.not_not] at hnot
    exact ⟨⟨v, hv, hnot.1⟩, _, ⟨first, _, hfirst, ⟨_, _, rest, rfl, rfl, hrest, rfl⟩, rfl⟩, hnot.2⟩
  · rintro ⟨⟨v, hv, hfits⟩, _, ⟨first, _, hfirst, ⟨k, w, rest, hk, hw, hrest, rfl⟩, rfl⟩, hnot⟩
    obtain rfl := Option.some.inj hk
    obtain rfl := Option.some.inj hw
    refine ⟨_, ⟨first, _, hfirst, ⟨_, v, rest, rfl, hv, hrest, rfl⟩, rfl⟩, ?_⟩
    rw [refused_replace_iff, not_or, Classical.not_not]
    exact ⟨hfits, hnot⟩

/-- A date that is written as a number has the value that the number has as a date. -/
theorem dateOf_of_read {which : DateName} {key : Bytes} {y : Decimal} {n : Number} {c : Claims}
    (hkey : Json.text? key = some which.name.text) (hnumber : Json.number? y = some n)
    (hobject : Json.Syntax.parse? payload = some (.object (before ++ (key, .number y) :: after)))
    (hread : read payload = .ok c) : dateOf (.number n) = .ok (c.date which) := by
  obtain ⟨members, hmembers, hnot⟩ := (exists_read_eq_ok_iff hobject).mp ⟨c, hread⟩
  have hparse := Json.parse?_eq_object_iff.mpr ⟨_, hobject, hmembers⟩
  obtain ⟨first, _, -, hsecond, rfl⟩ := Json.ofMembers?_append_eq_some_iff.mp hmembers
  obtain ⟨k, v, rest, hk, hv, -, rfl⟩ := Json.ofMembers?_cons_eq_some_iff.mp hsecond
  obtain rfl := Option.some.inj (hk.symm.trans hkey)
  rw [Json.ofSyntax?, hnumber] at hv
  obtain rfl := Option.some.inj hv
  exact (read_field (isField_date which) hread hparse).1 _ (lastValue?_of_not_refused hnot)

end Written

/-- **Dates are exact**: let one of the dates of a payload be written as a number. If that is a
natural number of 64 bits, the payload has claims exactly if it has with null in place of the date,
and the date is that number, without loss. Otherwise the number is beyond all binary64 values, and
the payload has no claims, or it has a binary64 value `q`, a significand of 53 bits times a power of
two. The payload then has claims exactly if it has with null in place of the date, and `q` is not
below zero, but below `2^64`. The date is `q` rounded to the closest natural number, a half going
up, which has 64 bits again. -/
theorem date_of_number {which : DateName} {payload key : Bytes} {y : Decimal}
    {before after : List (Bytes × Json.Syntax)} (hkey : Json.text? key = some which.name.text)
    (hobject : Json.Syntax.parse? payload =
      some (.object (before ++ (key, .number y) :: after))) :
    (y.isWhole = true ∧ y.negative = false ∧ Decimal.valueOf y.whole < 2 ^ 64 →
      ((∃ c, read payload = .ok c) ↔ Accepted (before ++ (key, .null) :: after)) ∧
      ∀ c, read payload = .ok c →
        ∃ d, c.date which = some d ∧ d.toNat = Decimal.valueOf y.whole) ∧
    (¬(y.isWhole = true ∧ y.negative = false ∧ Decimal.valueOf y.whole < 2 ^ 64) →
      (Json.number? y = none ∧ ¬∃ c, read payload = .ok c) ∨
      ∃ n x q, Json.number? y = some n ∧ n.binary64? = some x ∧ x.InFormat ∧ x.value? = some q ∧
        ((∃ c, read payload = .ok c) ↔
          (0 ≤ q ∧ q < 2 ^ 64) ∧ Accepted (before ++ (key, .null) :: after)) ∧
        ∀ c, read payload = .ok c →
          ∃ d, c.date which = some d ∧ d.toNat = ⌊q + 1 / 2⌋₊ ∧ ⌊q + 1 / 2⌋₊ < 2 ^ 64) := by
  have hclaims : (∃ c, read payload = .ok c) ↔ (∃ n, Json.number? y = some n ∧
      ∃ d, dateOf (.number n) = .ok d) ∧ Accepted (before ++ (key, .null) :: after) := by
    rw [exists_read_eq_ok_iff hobject, accepted_iff hkey, Json.ofSyntax?]
    refine and_congr_left fun _ => ⟨?_, ?_⟩
    · rintro ⟨v, hv, hfits⟩
      obtain ⟨n, hn, rfl⟩ := Option.map_eq_some_iff.mp hv
      exact ⟨n, hn, (which.fits_number_iff hn).mp hfits⟩
    · rintro ⟨n, hn, hd⟩
      exact ⟨_, Option.map_eq_some_iff.mpr ⟨n, hn, rfl⟩, (which.fits_number_iff hn).mpr hd⟩
  refine ⟨?_, fun hnot => ?_⟩
  · rintro ⟨hwhole, hsign, hlt⟩
    have hnumber := Json.number?_of_isWhole hwhole hsign hlt
    refine ⟨hclaims.trans (and_iff_right ⟨_, hnumber, _, dateOf_natural _⟩), fun c hread => ?_⟩
    have hdate := (dateOf_natural _).symm.trans (dateOf_of_read hkey hnumber hobject hread)
    exact ⟨_, (Except.ok.inj hdate).symm, UInt64.toNat_ofNat_of_lt' hlt⟩
  · cases hnumber : Json.number? y with
    | none =>
      refine .inl ⟨rfl, fun hread => ?_⟩
      obtain ⟨⟨n, hn, -⟩, -⟩ := hclaims.mp hread
      cases hnumber.symm.trans hn
    | some n =>
      have hnatural := Json.ne_natural_of_number? hnumber hnot
      obtain ⟨x, q, hx, hformat, hq, hwithin, hbeyond⟩ := dateOf_number hnumber hnatural
      have hbound : ((2 ^ (64 : Nat) : ℕ) : ℚ) = 2 ^ 64 := by norm_num
      rw [hbound] at hwithin hbeyond
      have hrange : (∃ n', Json.number? y = some n' ∧ ∃ d, dateOf (.number n') = .ok d) ↔
          0 ≤ q ∧ q < 2 ^ 64 := by
        constructor
        · rintro ⟨n', hn', d, hd⟩
          obtain rfl := Option.some.inj (hn'.symm.trans hnumber)
          by_contra hoff
          cases hd.symm.trans (hbeyond hoff)
        · intro hq
          exact ⟨n, hnumber, _, (hwithin hq).2⟩
      refine .inr ⟨n, x, q, rfl, hx, hformat, hq, ?_, fun c hread => ?_⟩
      · rw [hclaims, hrange]
      · obtain ⟨hlt, hok⟩ := hwithin (hrange.mp (hclaims.mp ⟨c, hread⟩).1)
        have hdate := hok.symm.trans (dateOf_of_read hkey hnumber hobject hread)
        exact ⟨_, (Except.ok.inj hdate).symm, UInt64.toNat_ofNat_of_lt' hlt, hlt⟩

/-- The value next below one half is rounded down, and an odd number above `2^53` is kept. -/
theorem date_of_number_below_half :
    (∃ c, read (Utf8.bytes "\x7b\"nbf\":0.49999999999999994\x7d") = .ok c ∧
      c.notBefore = some 0) ∧
    ∃ c, read (Utf8.bytes "\x7b\"exp\":9007199254740993\x7d") = .ok c ∧
      c.expiry = some 9007199254740993 := by
  refine ⟨?_, ?_⟩
  · have hobject : Json.Syntax.parse? (Utf8.bytes "\x7b\"nbf\":0.49999999999999994\x7d") =
        some (.object ([] ++ (Utf8.bytes "nbf", .number ⟨false, [0],
          some [4, 9, 9, 9, 9, 9, 9, 9, 9, 9, 9, 9, 9, 9, 9, 9, 4], none⟩) :: [])) := by
      decide +kernel
    have hread : (read (Utf8.bytes "\x7b\"nbf\":0.49999999999999994\x7d")).isOk = true := by
      decide +kernel
    have hnumber : Json.number? ⟨false, [0],
        some [4, 9, 9, 9, 9, 9, 9, 9, 9, 9, 9, 9, 9, 9, 9, 9, 4], none⟩ =
          some (.float (.finite false 9007199254740991 (-54))) := by decide +kernel
    have hkey : Json.text? (Utf8.bytes "nbf") = some DateName.notBefore.name.text := by
      decide +kernel
    rcases (date_of_number hkey hobject).2 (by decide) with
      ⟨hnone, -⟩ | ⟨n, x, q, hn, hx, -, hq, -, hdate⟩
    · cases hnone.symm.trans hnumber
    · obtain rfl := Option.some.inj (hnumber.symm.trans hn)
      obtain rfl := Option.some.inj hx
      obtain rfl := Option.some.inj hq
      obtain ⟨c, hc⟩ := Outcome.isOk_iff.mp hread
      obtain ⟨d, hd, hrounded, -⟩ := hdate c hc
      have hzero : d.toNat = 0 := by
        rw [hrounded, Nat.floor_eq_zero]
        norm_num
      exact ⟨c, hc, hd.trans (congrArg some (UInt64.toNat_inj.mp hzero))⟩
  · have hobject : Json.Syntax.parse? (Utf8.bytes "\x7b\"exp\":9007199254740993\x7d") =
        some (.object ([] ++ (Utf8.bytes "exp", .number ⟨false,
          [9, 0, 0, 7, 1, 9, 9, 2, 5, 4, 7, 4, 0, 9, 9, 3], none, none⟩) :: [])) := by
      decide +kernel
    have hread : (read (Utf8.bytes "\x7b\"exp\":9007199254740993\x7d")).isOk = true := by
      decide +kernel
    have hkey : Json.text? (Utf8.bytes "exp") = some DateName.expiry.name.text := by
      decide +kernel
    have hdate := ((date_of_number hkey hobject).1 (by decide)).2
    obtain ⟨c, hc⟩ := Outcome.isOk_iff.mp hread
    obtain ⟨d, hd, hkept⟩ := hdate c hc
    exact ⟨c, hc, hd.trans (congrArg some (UInt64.toNat_inj.mp (hkept.trans (by decide))))⟩

end Claims

end RpcGuard
