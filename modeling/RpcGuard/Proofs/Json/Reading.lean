import RpcGuard.Json.Syntax

/-!
# Reading objects

Two readers take an object apart: `Syntax.parse?` reads a whole text, and `Opening.read` reads
members up to the first fault. They agree on texts without a fault: an opening is complete exactly
if the text is an object, and its members are those of the object (`Opening.read_eq_complete_iff`).

The readers call one another with different fuel, so the argument needs that fuel does not matter:
whoever reads something uses up bytes, and as many steps as it uses up bytes are enough
(`Syntax.members?_of_length_le`).
-/

namespace RpcGuard.Json

namespace Syntax

/-! ## Every reader uses up bytes -/

/-- A reader whose result is only rewritten leaves what the reader left. -/
theorem exists_of_map {α γ : Type} {g : α × Bytes → γ × Bytes} {x : Option (α × Bytes)} {c : γ}
    {t : Bytes} (h : x.map g = some (c, t)) (hg : ∀ p, (g p).2 = p.2) :
    ∃ a, x = some (a, t) ∧ g (a, t) = (c, t) := by
  obtain ⟨⟨a, r⟩, hx, hgx⟩ := Option.map_eq_some_iff.mp h
  have hr : r = t := by
    have := hg (a, r)
    rw [hgx] at this
    exact this.symm
  subst hr
  exact ⟨a, hx, hgx⟩

theorem length_skipSpace_le (bs : Bytes) : (skipSpace bs).length ≤ bs.length :=
  (List.dropWhile_sublist isSpace).length_le

theorem length_of_stringBody? {bs s t : Bytes} (h : stringBody? bs = some (s, t)) :
    t.length < bs.length := by
  fun_induction stringBody? bs generalizing s t with
  | case1 => cases h
  | case2 r =>
    obtain ⟨-, rfl⟩ := Prod.mk.inj (Option.some.inj h)
    exact Nat.lt_succ_self _
  | case3 => cases h
  | case4 => cases h
  | case5 e r _ _ _ ih =>
    obtain ⟨s', hr, -⟩ := exists_of_map h fun _ => rfl
    have := ih hr
    simp only [List.length_cons]
    omega
  | case6 h₁ h₂ h₃ h₄ r _ _ _ _ ih =>
    obtain ⟨s', hr, -⟩ := exists_of_map h fun _ => rfl
    have := ih hr
    simp only [List.length_cons]
    omega
  | case7 => cases h
  | case8 => cases h
  | case9 => cases h
  | case10 b r _ _ _ ih =>
    obtain ⟨s', hr, -⟩ := exists_of_map h fun _ => rfl
    have := ih hr
    simp only [List.length_cons]
    omega

theorem length_spanDigits (bs : Bytes) :
    (spanDigits bs).2.length + (spanDigits bs).1.length = bs.length := by
  fun_induction spanDigits bs with
  | case1 => rfl
  | case2 b r d hd ds t hspan ih =>
    rw [hspan] at ih
    simp only [List.length_cons]
    dsimp only at ih
    omega
  | case3 => rfl

theorem length_of_digits? {bs t : Bytes} {ds : List Nat} (h : digits? bs = some (ds, t)) :
    t.length < bs.length := by
  have hspan := length_spanDigits bs
  unfold digits? at h
  split at h
  · cases h
  · next hne =>
    have hpos : (spanDigits bs).1 ≠ [] := fun hnil => hne _ (Prod.ext hnil rfl)
    have := List.length_pos_iff.mpr hpos
    rw [Option.some.inj h] at hspan this
    dsimp only at hspan this
    omega

theorem length_of_whole? {bs t : Bytes} {ds : List Nat} (h : whole? bs = some (ds, t)) :
    t.length < bs.length := by
  unfold whole? at h
  split at h
  · cases h
  · exact length_of_digits? h

theorem length_of_fraction? {bs t : Bytes} {ds : Option (List Nat)}
    (h : fraction? bs = some (ds, t)) : t.length ≤ bs.length := by
  unfold fraction? at h
  split at h
  · next b r =>
    split at h
    · obtain ⟨ds', hr, -⟩ := exists_of_map h fun _ => rfl
      have := length_of_digits? hr
      simp only [List.length_cons]
      omega
    · obtain ⟨-, rfl⟩ := Prod.mk.inj (Option.some.inj h)
      exact Nat.le_refl _
  · obtain ⟨-, rfl⟩ := Prod.mk.inj (Option.some.inj h)
    exact Nat.le_refl _

theorem length_sign_le (bs : Bytes) : (sign bs).2.length ≤ bs.length := by
  unfold sign
  split
  · split
    · exact Nat.le_succ _
    · split
      · exact Nat.le_succ _
      · exact Nat.le_refl _
  · exact Nat.le_refl _

theorem length_of_exponent? {bs t : Bytes} {e : Option Decimal.Exponent}
    (h : exponent? bs = some (e, t)) : t.length ≤ bs.length := by
  unfold exponent? at h
  split at h
  · next b r =>
    split at h
    · dsimp only at h
      obtain ⟨ds, hr, -⟩ := exists_of_map h fun _ => rfl
      have := length_of_digits? hr
      have := length_sign_le r
      simp only [List.length_cons]
      omega
    · obtain ⟨-, rfl⟩ := Prod.mk.inj (Option.some.inj h)
      exact Nat.le_refl _
  · obtain ⟨-, rfl⟩ := Prod.mk.inj (Option.some.inj h)
    exact Nat.le_refl _

theorem length_of_number? {bs t : Bytes} {x : Decimal} (h : number? bs = some (x, t)) :
    t.length < bs.length := by
  unfold number? at h
  simp only [Option.bind_eq_bind, Option.bind_eq_some_iff] at h
  obtain ⟨⟨ds, r₁⟩, h₁, ⟨fr, r₂⟩, h₂, ⟨ex, r₃⟩, h₃, h₄⟩ := h
  obtain ⟨-, rfl⟩ := Prod.mk.inj (Option.some.inj h₄)
  have hle : r₃.length ≤ r₁.length :=
    Nat.le_trans (length_of_exponent? h₃) (length_of_fraction? h₂)
  refine Nat.lt_of_lt_of_le (Nat.lt_of_le_of_lt hle (length_of_whole? h₁)) ?_
  -- what is left to show is that the sign is at most one byte
  split
  · split
    · exact Nat.le_succ _
    · exact Nat.le_refl _
  · exact Nat.le_refl _

theorem length_of_word? {w : String} {bs t : Bytes} (h : word? w bs = some t) :
    t.length ≤ bs.length := by
  unfold word? at h
  dsimp only at h
  split at h
  · obtain rfl := Option.some.inj h
    exact (List.drop_sublist _ _).length_le
  · cases h

/-- A value that is written as a fixed word. -/
theorem length_of_map_word? {w : String} {bs t : Bytes} {x y : Syntax}
    (h : ((word? w bs).map fun t => (y, t)) = some (x, t)) : t.length ≤ bs.length := by
  obtain ⟨t', ht', hx⟩ := Option.map_eq_some_iff.mp h
  obtain ⟨-, rfl⟩ := Prod.mk.inj hx
  exact length_of_word? ht'

theorem length_of_key? {bs k t : Bytes} (h : key? bs = some (k, t)) :
    t.length < bs.length := by
  unfold key? at h
  split at h
  · next b r =>
    split at h
    · split at h
      · next k' r' hbody =>
        have hr : r'.length < r.length := length_of_stringBody? hbody
        split at h
        · next c r'' hskip =>
          have hr' : r''.length < r'.length := by
            have := length_skipSpace_le r'
            rw [hskip] at this
            exact this
          split at h
          · obtain ⟨-, rfl⟩ := Prod.mk.inj (Option.some.inj h)
            have := length_skipSpace_le r''
            simp only [List.length_cons]
            omega
          · cases h
        · cases h
      · cases h
    · cases h
  · cases h

/-! ## Fuel

A value that uses up `n` bytes is read with any fuel from `n` on. -/

/-- Whatever is read with a given fuel uses up bytes, and needs no more fuel than the bytes that it
uses up. -/
def Settles {α : Type} (reader : Nat → Bytes → Option (α × Bytes)) (fuel : Nat) : Prop :=
  ∀ bs x t, reader fuel bs = some (x, t) →
    t.length < bs.length ∧ ∀ m, bs.length ≤ m + t.length → reader m bs = some (x, t)

/-- Whoever uses up bytes has fuel left for a call. -/
theorem exists_succ_of_consumed {m a b : Nat} (hlt : b < a) (hm : a ≤ m + b) :
    ∃ n, m = n + 1 :=
  Nat.exists_eq_succ_of_ne_zero (by omega)

/-- Only arrays and objects ask for fuel. -/
theorem value?_scalar {b : UInt8} {r : Bytes} (harray : b ≠ ascii '[') (hobject : b ≠ ascii '{')
    (n m : Nat) : value? (n + 1) (b :: r) = value? (m + 1) (b :: r) := by
  simp only [value?, if_neg harray, if_neg hobject]

theorem length_of_scalar {b : UInt8} {r t : Bytes} {x : Syntax} {n : Nat}
    (harray : b ≠ ascii '[') (hobject : b ≠ ascii '{')
    (h : value? (n + 1) (b :: r) = some (x, t)) : t.length < (b :: r).length := by
  simp only [value?, if_neg harray, if_neg hobject] at h
  split at h
  · obtain ⟨s, hs, -⟩ := exists_of_map h fun _ => rfl
    exact Nat.lt_succ_of_lt (length_of_stringBody? hs)
  · split at h
    · exact Nat.lt_succ_of_le (length_of_map_word? h)
    · split at h
      · exact Nat.lt_succ_of_le (length_of_map_word? h)
      · split at h
        · exact Nat.lt_succ_of_le (length_of_map_word? h)
        · obtain ⟨d, hd, -⟩ := exists_of_map h fun _ => rfl
          exact length_of_number? hd

theorem value?_array (n : Nat) (r : Bytes) :
    value? (n + 1) (ascii '[' :: r) =
      match skipSpace r with
      | c :: r' =>
        if c = ascii ']' then some (.array [], r')
        else (items? n (c :: r')).map fun (xs, t) => (.array xs, t)
      | [] => none := by
  have hstring : ascii '[' ≠ ascii '"' := by decide
  unfold value?
  exact (if_neg hstring).trans (if_pos rfl)

theorem value?_object (n : Nat) (r : Bytes) :
    value? (n + 1) (ascii '{' :: r) =
      match skipSpace r with
      | c :: r' =>
        if c = ascii '}' then some (.object [], r')
        else (members? n (c :: r')).map fun (ms, t) => (.object ms, t)
      | [] => none := by
  have hstring : ascii '{' ≠ ascii '"' := by decide
  have harray : ascii '{' ≠ ascii '[' := by decide
  unfold value?
  exact (if_neg hstring).trans ((if_neg harray).trans (if_pos rfl))

/-- An array or object settles if what stands between its brackets does. -/
theorem settles_bracket {α : Type} {inner : Nat → Bytes → Option (α × Bytes)} {n : Nat}
    (hinner : Settles inner n) {close : UInt8} {empty : Syntax} {g : α × Bytes → Syntax × Bytes}
    (hg : ∀ p, (g p).2 = p.2) {r t : Bytes} {x : Syntax} {reader : Nat → Option (Syntax × Bytes)}
    (hreader : ∀ n, reader n = match skipSpace r with
      | c :: r' => if c = close then some (empty, r') else (inner n (c :: r')).map g
      | [] => none)
    (h : reader n = some (x, t)) :
    t.length < r.length ∧ ∀ m, r.length ≤ m + t.length → reader m = some (x, t) := by
  simp only [hreader] at h ⊢
  have hskip := length_skipSpace_le r
  cases hr : skipSpace r with
  | nil =>
    rw [hr] at h
    cases h
  | cons c r' =>
    rw [hr] at h hskip
    dsimp only at h ⊢
    by_cases hclose : c = close
    · simp only [if_pos hclose] at h ⊢
      obtain ⟨-, rfl⟩ := Prod.mk.inj (Option.some.inj h)
      exact ⟨hskip, fun _ _ => h⟩
    · simp only [if_neg hclose] at h ⊢
      obtain ⟨a, ha, hga⟩ := exists_of_map h hg
      obtain ⟨hlt, henough⟩ := hinner _ _ _ ha
      refine ⟨Nat.lt_of_lt_of_le hlt hskip, fun m hm => ?_⟩
      rw [henough m (Nat.le_trans hskip hm), Option.map_some, hga]

theorem settles_value? {n : Nat} (hitems : Settles items? n) (hmembers : Settles members? n) :
    Settles value? (n + 1) := by
  intro bs x t h
  cases bs with
  | nil => cases h
  | cons b r =>
    by_cases harray : b = ascii '['
    · subst harray
      obtain ⟨hlt, henough⟩ := settles_bracket hitems (fun _ => rfl)
        (fun n => value?_array n r) h
      refine ⟨Nat.lt_succ_of_lt hlt, fun m hm => ?_⟩
      obtain ⟨m, rfl⟩ := exists_succ_of_consumed (Nat.lt_succ_of_lt hlt) hm
      refine henough m ?_
      simp only [List.length_cons] at hm
      omega
    · by_cases hobject : b = ascii '{'
      · subst hobject
        obtain ⟨hlt, henough⟩ := settles_bracket hmembers (fun _ => rfl)
          (fun n => value?_object n r) h
        refine ⟨Nat.lt_succ_of_lt hlt, fun m hm => ?_⟩
        obtain ⟨m, rfl⟩ := exists_succ_of_consumed (Nat.lt_succ_of_lt hlt) hm
        refine henough m ?_
        simp only [List.length_cons] at hm
        omega
      · have hlt := length_of_scalar harray hobject h
        refine ⟨hlt, fun m hm => ?_⟩
        obtain ⟨m, rfl⟩ := exists_succ_of_consumed hlt hm
        rw [value?_scalar harray hobject m n]
        exact h

/-- A member: its key, and its value read with the given fuel. -/
def member? (n : Nat) (bs : Bytes) : Option ((Bytes × Syntax) × Bytes) :=
  match key? bs with
  | none => none
  | some (k, r) => (value? n r).map fun (x, t) => ((k, x), t)

theorem settles_member? {n : Nat} (hvalue : Settles value? n) : Settles member? n := by
  rintro bs ⟨k, x⟩ t h
  unfold member? at h ⊢
  cases hkey : key? bs with
  | none =>
    rw [hkey] at h
    cases h
  | some kr =>
    obtain ⟨k', r⟩ := kr
    rw [hkey] at h
    have hr := length_of_key? hkey
    obtain ⟨x', hx, hkx⟩ := exists_of_map h fun _ => rfl
    obtain ⟨hlt, henough⟩ := hvalue _ _ _ hx
    refine ⟨Nat.lt_trans hlt hr, fun m hm => ?_⟩
    dsimp only
    rw [henough m (by omega)]
    exact congrArg some hkx

/-- The entries of a sequence from the first on, with commas between them and a last byte behind. -/
structure IsSequence {α : Type} (seq : Nat → Bytes → Option (List α × Bytes))
    (entry : Nat → Bytes → Option (α × Bytes)) (close : UInt8) : Prop where
  zero : ∀ bs, seq 0 bs = none
  succ : ∀ n bs, seq (n + 1) bs =
    match entry n bs with
    | none => none
    | some (x, r) =>
      match skipSpace r with
      | c :: r =>
        if c = close then some ([x], r)
        else if c = ascii ',' then (seq n (skipSpace r)).map fun (xs, t) => (x :: xs, t)
        else none
      | [] => none

theorem isSequence_items? : IsSequence items? value? (ascii ']') where
  zero _ := by rw [items?]
  succ n bs := by
    rw [items?]
    cases value? n bs <;> rfl

theorem isSequence_members? : IsSequence members? member? (ascii '}') where
  zero _ := by rw [members?]
  succ n bs := by
    rw [members?, member?]
    cases key? bs with
    | none => rfl
    | some kr =>
      dsimp only
      cases value? n kr.2 <;> rfl

/-- A sequence settles if its entries do. -/
theorem IsSequence.settles {α : Type} {seq : Nat → Bytes → Option (List α × Bytes)}
    {entry : Nat → Bytes → Option (α × Bytes)} {close : UInt8} (hseq : IsSequence seq entry close)
    {n : Nat} (hentry : Settles entry n) (hrest : Settles seq n) : Settles seq (n + 1) := by
  intro bs xs t h
  rw [hseq.succ] at h
  cases hx : entry n bs with
  | none =>
    rw [hx] at h
    cases h
  | some xr =>
    obtain ⟨x, r⟩ := xr
    obtain ⟨hr, henough⟩ := hentry _ _ _ hx
    rw [hx] at h
    dsimp only at h
    cases hskip : skipSpace r with
    | nil =>
      rw [hskip] at h
      cases h
    | cons c r' =>
      have hr' : r'.length < r.length := by
        have := length_skipSpace_le r
        rw [hskip] at this
        exact this
      rw [hskip] at h
      dsimp only at h
      by_cases hclose : c = close
      · rw [if_pos hclose] at h
        obtain ⟨rfl, rfl⟩ := Prod.mk.inj (Option.some.inj h)
        refine ⟨by omega, fun m hm => ?_⟩
        obtain ⟨m, rfl⟩ := exists_succ_of_consumed (by omega) hm
        rw [hseq.succ, henough m (by omega)]
        dsimp only
        rw [hskip]
        exact if_pos hclose
      · by_cases hcomma : c = ascii ','
        · rw [if_neg hclose, if_pos hcomma] at h
          obtain ⟨xs', hxs', hcons⟩ := exists_of_map h fun _ => rfl
          have hspace := length_skipSpace_le r'
          obtain ⟨hlt, hmore⟩ := hrest _ _ _ hxs'
          refine ⟨by omega, fun m hm => ?_⟩
          obtain ⟨m, rfl⟩ := exists_succ_of_consumed (by omega) hm
          rw [hseq.succ, henough m (by omega)]
          dsimp only
          rw [hskip]
          dsimp only
          rw [if_neg hclose, if_pos hcomma, hmore m (by omega), Option.map_some, hcons]
        · rw [if_neg hclose, if_neg hcomma] at h
          cases h

theorem settles (n : Nat) : Settles value? n ∧ Settles items? n ∧ Settles members? n := by
  -- one induction for the three readers, which call one another with one less fuel
  induction n with
  | zero =>
    refine ⟨fun bs x t h => ?_, fun bs x t h => ?_, fun bs x t h => ?_⟩
    · rw [value?] at h
      cases h
    · rw [isSequence_items?.zero] at h
      cases h
    · rw [isSequence_members?.zero] at h
      cases h
  | succ n ih =>
    obtain ⟨hvalue, hitems, hmembers⟩ := ih
    exact ⟨settles_value? hitems hmembers, isSequence_items?.settles hvalue hitems,
      isSequence_members?.settles (settles_member? hvalue) hmembers⟩

/-- Members that are read with some fuel are read with as much fuel as there are bytes. -/
theorem members?_of_length_le {n m : Nat} {bs t : Bytes} {ms : List (Bytes × Syntax)}
    (h : members? n bs = some (ms, t)) (hm : bs.length ≤ m) : members? m bs = some (ms, t) :=
  ((settles n).2.2 _ _ _ h).2 m (Nat.le_trans hm (Nat.le_add_right _ _))

/-- What is read as something else than an object is none. -/
theorem not_object_of_map {α : Type} {g : α → Syntax × Bytes} (hg : ∀ a ms, (g a).1 ≠ .object ms)
    {x : Option α} {ms : List (Bytes × Syntax)} {t : Bytes} :
    x.map g ≠ some (.object ms, t) := by
  intro h
  obtain ⟨a, -, ha⟩ := Option.map_eq_some_iff.mp h
  refine hg a ms ?_
  rw [ha]

/-- Only what begins with a brace is an object. -/
theorem head_of_object {n : Nat} {b : UInt8} {r t : Bytes} {ms : List (Bytes × Syntax)}
    (h : value? (n + 1) (b :: r) = some (.object ms, t)) : b = ascii '{' := by
  refine Decidable.byContradiction fun hobject => ?_
  simp only [value?, if_neg hobject] at h
  split at h
  · exact not_object_of_map (fun _ _ => Syntax.noConfusion) h
  · split at h
    · split at h
      · split at h
        · cases (Prod.mk.inj (Option.some.inj h)).1
        · exact not_object_of_map (fun _ _ => Syntax.noConfusion) h
      · cases h
    · split at h
      · exact not_object_of_map (fun _ _ => Syntax.noConfusion) h
      · split at h
        · exact not_object_of_map (fun _ _ => Syntax.noConfusion) h
        · split at h
          · exact not_object_of_map (fun _ _ => Syntax.noConfusion) h
          · exact not_object_of_map (fun _ _ => Syntax.noConfusion) h

end Syntax

/-! ## The two readers -/

namespace Opening

open Syntax (skipSpace ascii)

/-- Members are complete exactly if they are read, with nothing but white space behind them. -/
theorem ofMembers_eq_iff {n : Nat} {bs : Bytes} {ms : List (Bytes × Syntax)} :
    ofMembers n bs = ⟨ms, true⟩ ↔
      ∃ t, Syntax.members? n bs = some (ms, t) ∧ (skipSpace t).isEmpty = true := by
  induction n generalizing bs ms with
  | zero => simp [ofMembers, fault, Syntax.members?]
  | succ n ih =>
    rw [ofMembers, Syntax.members?]
    cases Syntax.key? bs with
    | none => simp [fault]
    | some kr =>
      obtain ⟨k, r⟩ := kr
      dsimp only
      cases Syntax.value? n r with
      | none => simp [fault]
      | some xr =>
        obtain ⟨x, r'⟩ := xr
        dsimp only
        cases skipSpace r' with
        | nil => simp [fault]
        | cons c r'' =>
          dsimp only
          by_cases hclose : c = ascii '}'
          · simp only [if_pos hclose, ended, Opening.mk.injEq, Option.some.injEq, Prod.mk.injEq]
            constructor
            · rintro ⟨rfl, hspace⟩
              exact ⟨r'', ⟨rfl, rfl⟩, hspace⟩
            · rintro ⟨_, ⟨rfl, rfl⟩, hspace⟩
              exact ⟨rfl, hspace⟩
          · by_cases hcomma : c = ascii ','
            · simp only [if_neg hclose, if_pos hcomma, Opening.mk.injEq, Option.map_eq_some_iff]
              constructor
              · rintro ⟨rfl, hcomplete⟩
                have hrest : ofMembers n (skipSpace r'') =
                    ⟨(ofMembers n (skipSpace r'')).members, true⟩ := by
                  rw [← hcomplete]
                obtain ⟨t, ht, hspace⟩ := ih.mp hrest
                exact ⟨t, ⟨_, ht, rfl⟩, hspace⟩
              · rintro ⟨t, ⟨⟨ms', t'⟩, hms', heq⟩, hspace⟩
                obtain ⟨rfl, rfl⟩ := Prod.mk.inj heq
                have hrest := ih.mpr ⟨t', hms', hspace⟩
                rw [hrest]
                exact ⟨rfl, rfl⟩
            · simp [if_neg hclose, if_neg hcomma, fault]

/-- An opening is complete exactly if the whole text is an object; it then has all its members. -/
theorem read_eq_complete_iff {bs : Bytes} {ms : List (Bytes × Syntax)} :
    read bs = ⟨ms, true⟩ ↔ Syntax.parse? bs = some (.object ms) := by
  unfold read Syntax.parse? Syntax.fuelFor
  have hlength := Syntax.length_skipSpace_le bs
  cases hskip : skipSpace bs with
  | nil => simp [fault, Syntax.value?]
  | cons b r =>
    rw [hskip] at hlength
    dsimp only
    by_cases hbrace : b = ascii '{'
    · subst hbrace
      rw [if_pos rfl, Syntax.value?_object]
      have hlength' := Syntax.length_skipSpace_le r
      cases hskip' : skipSpace r with
      | nil => simp [fault]
      | cons c r' =>
        rw [hskip'] at hlength'
        dsimp only
        by_cases hclose : c = ascii '}'
        · simp only [if_pos hclose, ended, Opening.mk.injEq, Option.ite_none_right_eq_some,
            Option.some.injEq, Syntax.object.injEq]
          exact And.comm
        · simp only [if_neg hclose, ofMembers_eq_iff]
          -- the two readers set out with different fuel, and both have enough
          have hfuel : ∀ {m t}, Syntax.members? (2 * bs.length + 2) (c :: r') = some (m, t) ↔
              Syntax.members? (2 * bs.length + 1) (c :: r') = some (m, t) := by
            intro m t
            simp only [List.length_cons] at hlength hlength'
            exact ⟨fun h => Syntax.members?_of_length_le h (by simp only [List.length_cons]; omega),
              fun h => Syntax.members?_of_length_le h (by simp only [List.length_cons]; omega)⟩
          simp only [hfuel]
          cases Syntax.members? (2 * bs.length + 1) (c :: r') with
          | none => simp
          | some mt =>
            obtain ⟨ms', t⟩ := mt
            simp only [Option.some.injEq, Prod.mk.injEq, Option.map_some,
              Option.ite_none_right_eq_some, Syntax.object.injEq]
            constructor
            · rintro ⟨_, ⟨rfl, rfl⟩, hspace⟩
              exact ⟨hspace, rfl⟩
            · rintro ⟨hspace, rfl⟩
              exact ⟨t, ⟨rfl, rfl⟩, hspace⟩
    · rw [if_neg hbrace]
      refine iff_of_false (by simp [fault]) fun h => hbrace ?_
      split at h
      · next x t hvalue =>
        split at h
        · obtain rfl := Option.some.inj h
          exact Syntax.head_of_object hvalue
        · cases h
      · cases h

end Opening

end RpcGuard.Json
