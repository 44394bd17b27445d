import RpcGuard.Base64

/-!
# Canonical base64

Reading strict base64 inverts writing it, and accepts nothing else: a text without padding has a
reading exactly if it is the one writing of some byte string (`decode?_urlSafe_eq_some_iff`). The
argument goes symbol by symbol (`value?_eq_some_iff`) and then group by group
(`bytesOfSextets?_eq_some_iff`).
-/

namespace RpcGuard.Base64

/-! ## Symbols -/

/-- Every value below 64 is read back from its symbol. -/
theorem value?_symbol (a : Alphabet) {v : Nat} (h : v < 64) : a.value? (a.symbol v) = some v := by
  have hall : ∀ v < 64, a.value? (a.symbol v) = some v := by
    cases a <;> decide
  exact hall v h

/-- A symbol that has a value is the symbol of that value. -/
theorem symbol_of_value? {a : Alphabet} {c : Char} {v : Nat} (h : a.value? c = some v) :
    v < 64 ∧ a.symbol v = c := by
  have hc : Char.ofNat c.toNat = c := Char.ofNat_toNat c
  unfold Alphabet.value? at h
  dsimp only at h
  unfold Alphabet.symbol
  split at h
  · next hu =>
    obtain rfl := Option.some.inj h
    refine ⟨by omega, ?_⟩
    rw [if_pos (by omega), Nat.sub_add_cancel hu.1, hc]
  · split at h
    · next hl =>
      obtain rfl := Option.some.inj h
      refine ⟨by omega, ?_⟩
      rw [if_neg (by omega), if_pos (by omega), Nat.add_sub_cancel, Nat.sub_add_cancel hl.1, hc]
    · split at h
      · next hd =>
        obtain rfl := Option.some.inj h
        refine ⟨by omega, ?_⟩
        rw [if_neg (by omega), if_neg (by omega), if_pos (by omega), Nat.add_sub_cancel,
          Nat.sub_add_cancel hd.1, hc]
      · split at h
        · next hp =>
          obtain rfl := Option.some.inj h
          exact ⟨by decide, hp.symm⟩
        · split at h
          · next hs =>
            obtain rfl := Option.some.inj h
            exact ⟨by decide, hs.symm⟩
          · cases h

theorem value?_eq_some_iff {a : Alphabet} {c : Char} {v : Nat} :
    a.value? c = some v ↔ v < 64 ∧ a.symbol v = c := by
  constructor
  · exact symbol_of_value?
  · rintro ⟨hv, rfl⟩
    exact value?_symbol a hv

/-- A text spells values exactly if it is made of their symbols. -/
theorem mapM_value?_eq_some_iff {a : Alphabet} {cs : List Char} {xs : List Nat} :
    cs.mapM a.value? = some xs ↔ (∀ x ∈ xs, x < 64) ∧ xs.map a.symbol = cs := by
  induction cs generalizing xs with
  | nil => cases xs <;> simp
  | cons c cs ih =>
    cases xs with
    | nil => simp [Option.bind_eq_some_iff]
    | cons x xs =>
      have hcons : (c :: cs).mapM a.value? = some (x :: xs) ↔
          a.value? c = some x ∧ cs.mapM a.value? = some xs := by
        simp [List.mapM_cons, Option.bind_eq_some_iff]
      rw [hcons, ih, value?_eq_some_iff]
      simp only [List.forall_mem_cons, List.map_cons, List.cons.injEq]
      constructor
      · rintro ⟨⟨hx, hc⟩, hxs, hcs⟩
        exact ⟨⟨hx, hxs⟩, hc, hcs⟩
      · rintro ⟨⟨hx, hxs⟩, hc, hcs⟩
        exact ⟨⟨hx, hc⟩, hxs, hcs⟩

/-! ## Groups -/

theorem sextets_lt (bs : Bytes) : ∀ x ∈ sextets bs, x < 64 := by
  fun_induction sextets bs with
  | case1 => simp
  | case2 x =>
    have := x.toNat_lt
    simp only [List.forall_mem_cons, List.not_mem_nil, false_implies, implies_true, and_true]
    omega
  | case3 x y =>
    have := x.toNat_lt
    have := y.toNat_lt
    simp only [List.forall_mem_cons, List.not_mem_nil, false_implies, implies_true, and_true]
    omega
  | case4 x y z rest ih =>
    have := x.toNat_lt
    have := y.toNat_lt
    have := z.toNat_lt
    simp only [List.forall_mem_cons]
    exact ⟨by omega, by omega, by omega, by omega, ih⟩

/-- The bytes of a byte string's own sextets are the byte string. -/
theorem bytesOfSextets?_sextets (bs : Bytes) : bytesOfSextets? (sextets bs) = some bs := by
  fun_induction sextets bs with
  | case1 => rfl
  | case2 x =>
    have := x.toNat_lt
    have hx : x.toNat / 4 * 4 + x.toNat % 4 * 16 / 16 = x.toNat := by omega
    rw [bytesOfSextets?, if_pos (by omega), hx, UInt8.ofNat_toNat]
  | case3 x y =>
    have := x.toNat_lt
    have := y.toNat_lt
    have hx : x.toNat / 4 * 4 + (x.toNat % 4 * 16 + y.toNat / 16) / 16 = x.toNat := by omega
    have hy : (x.toNat % 4 * 16 + y.toNat / 16) % 16 * 16 + y.toNat % 16 * 4 / 4 = y.toNat := by
      omega
    rw [bytesOfSextets?, if_pos (by omega), hx, hy, UInt8.ofNat_toNat, UInt8.ofNat_toNat]
  | case4 x y z rest ih =>
    have := x.toNat_lt
    have := y.toNat_lt
    have := z.toNat_lt
    have hx : x.toNat / 4 * 4 + (x.toNat % 4 * 16 + y.toNat / 16) / 16 = x.toNat := by omega
    have hy : (x.toNat % 4 * 16 + y.toNat / 16) % 16 * 16 + (y.toNat % 16 * 4 + z.toNat / 64) / 4 =
        y.toNat := by omega
    have hz : (y.toNat % 16 * 4 + z.toNat / 64) % 4 * 64 + z.toNat % 64 = z.toNat := by omega
    rw [bytesOfSextets?, ih, Option.map_some, hx, hy, hz, UInt8.ofNat_toNat, UInt8.ofNat_toNat,
      UInt8.ofNat_toNat]

theorem toNat_ofNat_of_lt {n : Nat} (h : n < 256) : (UInt8.ofNat n).toNat = n := by
  rw [UInt8.toNat_ofNat', Nat.mod_eq_of_lt h]

/-- Sextets that spell bytes are the sextets of those bytes. -/
theorem sextets_of_bytesOfSextets? {xs : List Nat} {bs : Bytes} (hlt : ∀ x ∈ xs, x < 64)
    (h : bytesOfSextets? xs = some bs) : xs = sextets bs := by
  fun_induction bytesOfSextets? xs generalizing bs with
  | case1 =>
    obtain rfl := Option.some.inj h
    rfl
  | case2 => cases h
  | case3 a b hb =>
    obtain rfl := Option.some.inj h
    simp only [List.forall_mem_cons] at hlt
    obtain ⟨ha, hb', -⟩ := hlt
    rw [sextets, toNat_ofNat_of_lt (by omega)]
    congr 1
    · omega
    · congr 1
      omega
  | case4 => cases h
  | case5 a b c hc =>
    obtain rfl := Option.some.inj h
    simp only [List.forall_mem_cons] at hlt
    obtain ⟨ha, hb, hc', -⟩ := hlt
    rw [sextets, toNat_ofNat_of_lt (by omega), toNat_ofNat_of_lt (by omega)]
    congr 1
    · omega
    · congr 1
      · omega
      · congr 1
        omega
  | case6 => cases h
  | case7 a b c d rest ih =>
    obtain ⟨bs', hrest, rfl⟩ := Option.map_eq_some_iff.mp h
    simp only [List.forall_mem_cons] at hlt
    obtain ⟨ha, hb, hc, hd, hr⟩ := hlt
    rw [sextets, toNat_ofNat_of_lt (by omega), toNat_ofNat_of_lt (by omega),
      toNat_ofNat_of_lt (by omega), ← ih hr hrest]
    congr 1
    · omega
    · congr 1
      · omega
      · congr 1
        · omega
        · congr 1
          omega

theorem bytesOfSextets?_eq_some_iff {xs : List Nat} {bs : Bytes} (hlt : ∀ x ∈ xs, x < 64) :
    bytesOfSextets? xs = some bs ↔ xs = sextets bs := by
  constructor
  · exact sextets_of_bytesOfSextets? hlt
  · rintro rfl
    exact bytesOfSextets?_sextets bs

/-! ## Texts -/

/-- A text without padding is read exactly if it is the writing of what is read. -/
theorem decode?_urlSafe_eq_some_iff {cs : List Char} {bs : Bytes} :
    decode? .urlSafe cs = some bs ↔ cs = encode .urlSafe bs := by
  have hdecode : decode? .urlSafe cs = some bs ↔
      ∃ xs, cs.mapM Alphabet.urlSafe.value? = some xs ∧ bytesOfSextets? xs = some bs := by
    simp [decode?, Option.bind_eq_some_iff]
  rw [hdecode]
  constructor
  · rintro ⟨xs, hxs, hbs⟩
    obtain ⟨hlt, rfl⟩ := mapM_value?_eq_some_iff.mp hxs
    rw [(bytesOfSextets?_eq_some_iff hlt).mp hbs]
    rfl
  · rintro rfl
    exact ⟨sextets bs, mapM_value?_eq_some_iff.mpr ⟨sextets_lt bs, rfl⟩,
      bytesOfSextets?_sextets bs⟩

/-- A text without padding has no reading exactly if it is the writing of nothing. -/
theorem decode?_urlSafe_eq_none_iff {cs : List Char} :
    decode? .urlSafe cs = none ↔ ∀ bs, cs ≠ encode .urlSafe bs := by
  rw [Option.eq_none_iff_forall_ne_some]
  exact forall_congr' fun bs => not_congr decode?_urlSafe_eq_some_iff

/-- A character without a value is no symbol. -/
theorem notMem_symbols {a : Alphabet} {c : Char} (hc : a.value? c = none) (bs : Bytes) :
    c ∉ (sextets bs).map a.symbol := by
  intro hmem
  obtain ⟨v, hv, hsymbol⟩ := List.mem_map.mp hmem
  have hvalue := value?_symbol a (sextets_lt bs v hv)
  rw [hsymbol, hc] at hvalue
  cases hvalue

/-- No symbol is a dot, so that texts without padding can be told apart with dots between them. -/
theorem dot_notMem_encode (bs : Bytes) : '.' ∉ encode .urlSafe bs :=
  notMem_symbols (by decide) bs

/-! ## Padded texts -/

/-- One symbol alone would spell no byte. -/
theorem length_sextets_ne_one (bs : Bytes) : (sextets bs).length % 4 ≠ 1 := by
  fun_induction sextets bs with
  | case1 => decide
  | case2 x => simp
  | case3 x y => simp
  | case4 x y z rest ih =>
    simp only [List.length_cons]
    omega

/-- What is left without padding, and how much padding there was. -/
theorem of_unpad? {cs body : List Char} (h : unpad? cs = some body) :
    cs.length % 4 = 0 ∧ ∃ k ≤ 2, cs = body ++ List.replicate k '=' := by
  unfold unpad? at h
  split at h
  · next hlength =>
    refine ⟨hlength, ?_⟩
    have hbody := Option.some.inj h
    split at hbody
    · next r hr =>
      refine ⟨2, by decide, ?_⟩
      rw [← hbody, ← List.reverse_reverse cs, hr]
      simp
    · next r _ hr =>
      refine ⟨1, by decide, ?_⟩
      rw [← hbody, ← List.reverse_reverse cs, hr]
      simp
    · refine ⟨0, by decide, ?_⟩
      rw [hbody]
      simp
  · cases h

theorem length_padded (body : List Char) : (body ++ padding body.length).length % 4 = 0 := by
  rw [List.length_append, padding, List.length_replicate]
  omega

/-- Padding is taken off a body that holds none. -/
theorem unpad?_padded {body : List Char} (hbody : '=' ∉ body) (hlength : body.length % 4 ≠ 1) :
    unpad? (body ++ padding body.length) = some body := by
  have hreverse : '=' ∉ body.reverse := fun h => hbody (List.mem_reverse.mp h)
  rw [unpad?, if_pos (length_padded body)]
  -- The amount of padding is that of the three lengths that a body can have.
  obtain h | h | h : body.length % 4 = 0 ∨ body.length % 4 = 2 ∨ body.length % 4 = 3 := by omega
  · have hpad : padding body.length = [] := by rw [padding, h]; rfl
    rw [hpad, List.append_nil]
    split
    · next r hr => exact absurd (hr ▸ List.mem_cons_self) hreverse
    · next r _ hr => exact absurd (hr ▸ List.mem_cons_self) hreverse
    · rfl
  · have hpad : padding body.length = ['=', '='] := by rw [padding, h]; rfl
    rw [hpad, List.reverse_append]
    show some body.reverse.reverse = some body
    rw [List.reverse_reverse]
  · have hpad : padding body.length = ['='] := by rw [padding, h]; rfl
    have hback : (body ++ ['=']).reverse = '=' :: body.reverse := List.reverse_append
    rw [hpad, hback]
    split
    · next r hr => exact absurd ((List.cons.inj hr).2 ▸ List.mem_cons_self) hreverse
    · next r _ hr => rw [← (List.cons.inj hr).2, List.reverse_reverse]
    · next _ hne => exact absurd rfl (hne body.reverse)

/-- A padded text is read exactly if it is the writing of what is read. -/
theorem decode?_standard_eq_some_iff {cs : List Char} {bs : Bytes} :
    decode? .standard cs = some bs ↔ cs = encode .standard bs := by
  have hdecode : decode? .standard cs = some bs ↔
      ∃ body, unpad? cs = some body ∧
        ∃ xs, body.mapM Alphabet.standard.value? = some xs ∧ bytesOfSextets? xs = some bs := by
    simp [decode?, Option.bind_eq_some_iff]
  rw [hdecode]
  constructor
  · rintro ⟨body, hunpad, xs, hxs, hbs⟩
    obtain ⟨hlt, rfl⟩ := mapM_value?_eq_some_iff.mp hxs
    obtain rfl := (bytesOfSextets?_eq_some_iff hlt).mp hbs
    obtain ⟨hlength, k, hk, hcs⟩ := of_unpad? hunpad
    have hone := length_sextets_ne_one bs
    rw [hcs, List.length_append, List.length_replicate, List.length_map] at hlength
    have hpad : k = (4 - (sextets bs).length % 4) % 4 := by omega
    rw [hcs, hpad, encode, padding, List.length_map]
  · rintro rfl
    have hlength : ((sextets bs).map Alphabet.standard.symbol).length % 4 ≠ 1 := by
      rw [List.length_map]
      exact length_sextets_ne_one bs
    exact ⟨_, unpad?_padded (notMem_symbols (by decide) bs) hlength, sextets bs,
      mapM_value?_eq_some_iff.mpr ⟨sextets_lt bs, rfl⟩, bytesOfSextets?_sextets bs⟩

theorem code_of_value? {a : Alphabet} {c : Char} (h : (a.value? c).isSome) :
    0x2B ≤ c.toNat ∧ c.toNat ≤ 0x7A := by
  obtain ⟨v, hv⟩ := Option.isSome_iff_exists.mp h
  obtain ⟨hlt, rfl⟩ := symbol_of_value? hv
  have hall : ∀ v < 64, 0x2B ≤ (a.symbol v).toNat ∧ (a.symbol v).toNat ≤ 0x7A := by
    cases a <;> decide
  exact hall v hlt

/-- A text in base64 is made of symbols and of padding. -/
theorem of_mem_encode {a : Alphabet} {c : Char} {bs : Bytes} (h : c ∈ encode a bs) :
    (a.value? c).isSome ∨ c = '=' := by
  have hsymbol : c ∈ (sextets bs).map a.symbol → (a.value? c).isSome = true := fun hmem =>
    Option.isSome_iff_ne_none.mpr fun hnone => notMem_symbols hnone bs hmem
  cases a with
  | standard =>
    rcases List.mem_append.mp h with h | h
    · exact .inl (hsymbol h)
    · exact .inr (List.eq_of_mem_replicate h)
  | urlSafe => exact .inl (hsymbol h)

theorem code_of_mem_encode {a : Alphabet} {c : Char} {bs : Bytes} (h : c ∈ encode a bs) :
    0x2B ≤ c.toNat ∧ c.toNat ≤ 0x7A := by
  rcases of_mem_encode h with hvalue | rfl
  · exact code_of_value? hvalue
  · decide

theorem dash_notMem_encode (bs : Bytes) : '-' ∉ encode .standard bs := by
  intro h
  rcases of_mem_encode h with hvalue | heq
  · exact absurd hvalue (by decide)
  · exact absurd heq (by decide)

/-- Padded texts of different byte strings are different. -/
theorem encode_standard_inj {bs ds : Bytes} (h : encode .standard bs = encode .standard ds) :
    bs = ds := by
  have hbs := decode?_standard_eq_some_iff.mpr (rfl : encode .standard bs = _)
  rw [h, decode?_standard_eq_some_iff.mpr rfl] at hbs
  exact (Option.some.inj hbs).symm

end RpcGuard.Base64
