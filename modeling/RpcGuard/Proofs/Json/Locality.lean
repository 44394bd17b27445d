import RpcGuard.Proofs.Json.Reading

/-!
# What a reader looks at

Every reader of `RpcGuard.Json.Syntax` takes a piece off the front of a text. What it makes of the
piece depends on the piece alone, apart from one byte behind it, at which white space and digits end
(`Syntax.Local`). So a value may be cut out of a text and set down before something else.

For objects this says where they end: an object reaches from a brace to a brace, and what stands
around these counts as white space or makes the text no object at all (`Syntax.parse?_of_padded`).
-/

namespace RpcGuard.Json.Syntax

/-! ## Local readers -/

/-- The byte ends an entry of an array or of an object. -/
def EndsEntry (b : UInt8) : Prop := b = ascii ',' ∨ b = ascii ']' ∨ b = ascii '}'

/-- What may stand in the place of a rest: what begins as the rest does, or ends an entry. -/
def Follows (p rest : Bytes) : Prop := ∀ b ∈ p.head?, b ∈ rest.head? ∨ EndsEntry b

theorem follows_append (s p : Bytes) : Follows p (p ++ s) := by
  intro b hb
  refine .inl ?_
  rw [List.head?_append, Option.mem_def.mp hb]
  rfl

theorem Follows.append_left {p rest : Bytes} (h : Follows p rest) (s : Bytes) :
    Follows (s ++ p) (s ++ rest) := by
  cases s with
  | nil => exact h
  | cons b s => exact fun c hc => .inl hc

/-- A reader takes a piece off a text, and takes the same piece with the same result off every text
in which something that may follow stands behind it. -/
def Local {α : Type} (read : Bytes → Option (α × Bytes)) : Prop :=
  ∀ bs x rest, read bs = some (x, rest) →
    ∃ s, bs = s ++ rest ∧ ∀ p, Follows p rest → read (s ++ p) = some (x, p)

namespace Local

variable {α γ : Type}

theorem pure (x : α) : Local fun bs => some (x, bs) := by
  intro bs y rest h
  obtain ⟨rfl, rfl⟩ := Prod.mk.inj (Option.some.inj h)
  exact ⟨[], rfl, fun _ _ => rfl⟩

theorem fail : Local fun _ => (none : Option (α × Bytes)) := by
  intro bs x rest h
  cases h

theorem ite {c : Prop} [Decidable c] {f g : Bytes → Option (α × Bytes)} (hf : c → Local f)
    (hg : ¬ c → Local g) : Local fun bs => if c then f bs else g bs := by
  by_cases hc : c
  · simpa only [if_pos hc] using hf hc
  · simpa only [if_neg hc] using hg hc

theorem map {f : Bytes → Option (α × Bytes)} (hf : Local f) (g : α → γ) :
    Local fun bs => (f bs).map fun (x, rest) => (g x, rest) := by
  intro bs y rest h
  obtain ⟨x, hx, hy⟩ := exists_of_map h fun _ => rfl
  obtain ⟨s, hbs, hs⟩ := hf _ _ _ hx
  refine ⟨s, hbs, fun p hp => ?_⟩
  dsimp only
  rw [hs p hp, Option.map_some]
  exact congrArg some (Prod.ext (show g x = y from congrArg Prod.fst hy) rfl)

/-- One reader after the other. What may follow the second piece may follow both. -/
theorem bind {f : Bytes → Option (α × Bytes)} {g : α → Bytes → Option (γ × Bytes)}
    (hf : Local f) (hg : ∀ x, Local (g x)) :
    Local fun bs => (f bs).bind fun xr => g xr.1 xr.2 := by
  intro bs y rest h
  obtain ⟨⟨x, mid⟩, hx, hy⟩ := Option.bind_eq_some_iff.mp h
  obtain ⟨s, rfl, hs⟩ := hf _ _ _ hx
  obtain ⟨s', rfl, hs'⟩ := hg x _ _ _ hy
  refine ⟨s ++ s', (List.append_assoc ..).symm, fun p hp => ?_⟩
  dsimp only
  rw [List.append_assoc, hs _ (hp.append_left s'), Option.bind_some]
  exact hs' p hp

theorem filter {f : Bytes → Option (α × Bytes)} (hf : Local f) (keep : α → Bool) :
    Local fun bs => (f bs).filter fun xr => keep xr.1 := by
  intro bs x rest h
  obtain ⟨hx, hkeep⟩ := Option.filter_eq_some_iff.mp h
  obtain ⟨s, rfl, hs⟩ := hf _ _ _ hx
  refine ⟨s, rfl, fun p hp => ?_⟩
  dsimp only
  rw [hs p hp]
  exact Option.filter_eq_some_iff.mpr ⟨rfl, hkeep⟩

/-- A reader that asks for a first byte. -/
theorem of_cons {f : Bytes → Option (α × Bytes)} (hnil : f [] = none)
    (hcons : ∀ b, Local fun r => f (b :: r)) : Local f := by
  intro bs x rest h
  cases bs with
  | nil =>
    rw [hnil] at h
    cases h
  | cons b r =>
    obtain ⟨s, hr, hs⟩ := hcons b _ _ _ h
    exact ⟨b :: s, congrArg (b :: ·) hr, hs⟩

/-- A reader that uses up bytes, behind the first of them. -/
theorem behind {f : Bytes → Option (α × Bytes)} (hf : Local f)
    (huses : ∀ {bs x rest}, f bs = some (x, rest) → rest.length < bs.length) (b : UInt8) :
    Local fun r => f (b :: r) := by
  intro r x rest h
  obtain ⟨s, hbs, hs⟩ := hf _ _ _ h
  cases s with
  | nil => exact absurd (huses h) (by rw [hbs]; exact Nat.lt_irrefl _)
  | cons c s =>
    obtain ⟨rfl, hr⟩ := List.cons.inj hbs
    exact ⟨s, hr, hs⟩

/-- A part that is there if a byte announces it. -/
theorem optional (announces : UInt8 → Prop) [DecidablePred announces]
    {f : UInt8 → Bytes → Option (α × Bytes)} {absent : α} {g : Bytes → Option (α × Bytes)}
    (hends : ∀ b, EndsEntry b → ¬ announces b) (hf : ∀ b, Local (f b))
    (hnil : g [] = some (absent, []))
    (hcons : ∀ b r, g (b :: r) = if announces b then f b r else some (absent, b :: r)) :
    Local g := by
  have habsent : ∀ rest, (∀ b ∈ rest.head?, ¬ announces b) → g rest = some (absent, rest) := by
    intro rest hrest
    cases rest with
    | nil => exact hnil
    | cons b r => rw [hcons, if_neg (hrest b rfl)]
  have hfollows : ∀ rest, (∀ b ∈ rest.head?, ¬ announces b) → ∀ p, Follows p rest →
      g p = some (absent, p) := fun rest hrest p hp =>
    habsent p fun b hb => (hp b hb).elim (hrest b) (hends b)
  intro bs x rest h
  by_cases hbs : ∀ b ∈ bs.head?, ¬ announces b
  · rw [habsent bs hbs] at h
    obtain ⟨rfl, rfl⟩ := Prod.mk.inj (Option.some.inj h)
    exact ⟨[], rfl, hfollows bs hbs⟩
  · cases bs with
    | nil => exact absurd (fun b hb => by cases hb) hbs
    | cons b r =>
      have hb : announces b := Decidable.byContradiction fun hb =>
        hbs fun c hc => Option.some.inj hc ▸ hb
      rw [hcons, if_pos hb] at h
      obtain ⟨s, rfl, hs⟩ := hf b _ _ _ h
      refine ⟨b :: s, rfl, fun p hp => ?_⟩
      rw [List.cons_append, hcons, if_pos hb]
      exact hs p hp

end Local

/-! ## White space, strings and numbers -/

theorem not_isSpace_of_endsEntry {b : UInt8} (h : EndsEntry b) : ¬ isSpace b = true := by
  rcases h with rfl | rfl | rfl <;> decide

theorem digit?_of_endsEntry {b : UInt8} (h : EndsEntry b) : digit? b = none := by
  rcases h with rfl | rfl | rfl <;> decide

theorem skipSpace_of_head {bs : Bytes} (h : ∀ b ∈ bs.head?, ¬ isSpace b = true) :
    skipSpace bs = bs := by
  cases bs with
  | nil => rfl
  | cons b r => exact List.dropWhile_cons_of_neg (h b rfl)

theorem local_skipSpace : Local fun bs => some ((), skipSpace bs) := by
  intro bs x rest h
  obtain ⟨-, rfl⟩ := Prod.mk.inj (Option.some.inj h)
  refine ⟨bs.takeWhile isSpace, List.takeWhile_append_dropWhile.symm, fun p hp => ?_⟩
  have hpieces : ∀ b ∈ bs.takeWhile isSpace, isSpace b = true := fun b hb =>
    List.all_eq_true.mp List.all_takeWhile b hb
  have hhead : ∀ b ∈ p.head?, ¬ isSpace b = true := by
    intro b hb
    rcases hp b hb with hrest | hends
    · have hnot := List.head?_dropWhile_not isSpace bs
      rw [show (bs.dropWhile isSpace).head? = some b from hrest] at hnot
      exact Bool.eq_false_iff.mp hnot
    · exact not_isSpace_of_endsEntry hends
  show some ((), List.dropWhile isSpace (_ ++ p)) = some ((), p)
  rw [List.dropWhile_append_of_pos hpieces]
  exact congrArg (fun r => some ((), r)) (skipSpace_of_head hhead)

theorem local_stringBody? : Local stringBody? := by
  intro bs x rest h
  fun_induction stringBody? bs generalizing x rest with
  | case1 => cases h
  | case2 r =>
    obtain ⟨rfl, rfl⟩ := Prod.mk.inj (Option.some.inj h)
    exact ⟨[ascii '"'], rfl, fun p _ => by rw [List.singleton_append, stringBody?.eq_def]; rfl⟩
  | case3 => cases h
  | case4 => cases h
  | case5 e r hescape hquote hcontrol ih =>
    obtain ⟨x', hx', hx⟩ := exists_of_map h fun _ => rfl
    obtain ⟨s, rfl, hs⟩ := ih _ _ hx'
    obtain ⟨rfl, -⟩ := Prod.mk.inj hx
    refine ⟨_ :: e :: s, rfl, fun p hp => ?_⟩
    rw [List.cons_append, List.cons_append, stringBody?.eq_def]
    dsimp only
    rw [if_neg hquote, if_neg hcontrol, if_pos rfl, if_pos hescape, hs p hp, Option.map_some]
  | case6 h₁ h₂ h₃ h₄ r hhex hquote hcontrol hescape ih =>
    obtain ⟨x', hx', hx⟩ := exists_of_map h fun _ => rfl
    obtain ⟨s, rfl, hs⟩ := ih _ _ hx'
    obtain ⟨rfl, -⟩ := Prod.mk.inj hx
    refine ⟨_ :: _ :: h₁ :: h₂ :: h₃ :: h₄ :: s, rfl, fun p hp => ?_⟩
    simp only [List.cons_append]
    rw [stringBody?.eq_def]
    dsimp only
    rw [if_neg hquote, if_neg hcontrol, if_pos rfl, if_neg hescape, if_pos rfl, if_pos hhex,
      hs p hp, Option.map_some]
  | case7 => cases h
  | case8 => cases h
  | case9 => cases h
  | case10 b r hquote hcontrol hbackslash ih =>
    obtain ⟨x', hx', hx⟩ := exists_of_map h fun _ => rfl
    obtain ⟨s, rfl, hs⟩ := ih _ _ hx'
    obtain ⟨rfl, -⟩ := Prod.mk.inj hx
    refine ⟨b :: s, rfl, fun p hp => ?_⟩
    rw [List.cons_append, stringBody?.eq_def]
    dsimp only
    rw [if_neg hquote, if_neg hcontrol, if_neg hbackslash, hs p hp, Option.map_some]

theorem spanDigits_of_head {bs : Bytes} (h : ∀ b ∈ bs.head?, digit? b = none) :
    spanDigits bs = ([], bs) := by
  cases bs with
  | nil => rfl
  | cons b r => rw [spanDigits, h b rfl]

/-- No digit that follows a number is one of its own. -/
theorem digit?_of_follows {p rest : Bytes} (hrest : ∀ b ∈ rest.head?, digit? b = none)
    (hp : Follows p rest) : ∀ b ∈ p.head?, digit? b = none := fun b hb =>
  (hp b hb).elim (hrest b) digit?_of_endsEntry

theorem local_spanDigits : Local fun bs => some (spanDigits bs) := by
  intro bs ds rest h
  replace h : spanDigits bs = (ds, rest) := Option.some.inj h
  suffices ∃ s, bs = s ++ rest ∧ ∀ p, Follows p rest → spanDigits (s ++ p) = (ds, p) from
    this.imp fun s hs => ⟨hs.1, fun p hp => congrArg some (hs.2 p hp)⟩
  fun_induction spanDigits bs generalizing ds rest with
  | case1 =>
    obtain ⟨rfl, rfl⟩ := Prod.mk.inj h
    exact ⟨[], rfl, fun p hp =>
      spanDigits_of_head (digit?_of_follows (fun b hb => by cases hb) hp)⟩
  | case2 b r d hd ds' t hspan ih =>
    obtain ⟨rfl, rfl⟩ := Prod.mk.inj h
    obtain ⟨s, rfl, hs⟩ := ih _ _ hspan
    refine ⟨b :: s, rfl, fun p hp => ?_⟩
    rw [List.cons_append, spanDigits, hd]
    dsimp only
    rw [hs p hp]
  | case3 b r hd =>
    obtain ⟨rfl, rfl⟩ := Prod.mk.inj h
    have hhead : ∀ c ∈ (b :: r).head?, digit? c = none := fun c hc => Option.some.inj hc ▸ hd
    exact ⟨[], rfl, fun p hp => spanDigits_of_head (digit?_of_follows hhead hp)⟩

theorem local_digits? : Local digits? := by
  have heq : digits? = fun bs => (some (spanDigits bs)).filter fun xr => !xr.1.isEmpty := by
    funext bs
    unfold digits?
    rcases spanDigits bs with ⟨_ | ⟨d, ds⟩, rest⟩ <;> rfl
  rw [heq]
  exact local_spanDigits.filter fun ds => !ds.isEmpty

/-- No zero stands in front of another digit. -/
def isWhole : List Nat → Bool
  | 0 :: _ :: _ => false
  | _ => true

theorem local_whole? : Local whole? := by
  have heq : whole? = fun bs => (digits? bs).filter fun xr => isWhole xr.1 := by
    funext bs
    unfold whole?
    rcases digits? bs with _ | ⟨_ | ⟨_ | d, _ | ⟨d', ds⟩⟩, rest⟩ <;> rfl
  rw [heq]
  exact local_digits?.filter isWhole

theorem local_fraction? : Local fraction? :=
  .optional (· = ascii '.') (by rintro b (rfl | rfl | rfl) <;> decide)
    (fun _ => local_digits?.map some) rfl fun _ _ => rfl

theorem local_sign : Local fun bs => some (sign bs) := by
  refine .optional (fun b => b = ascii '-' ∨ b = ascii '+')
    (by rintro b (rfl | rfl | rfl) <;> decide) (fun b => .pure (decide (b = ascii '-'))) rfl
    fun b r => ?_
  by_cases hminus : b = ascii '-'
  · simp [sign, hminus]
  · simp [sign, hminus]
    split <;> rfl

theorem local_exponent? : Local exponent? :=
  .optional (fun b => b = ascii 'e' ∨ b = ascii 'E') (by rintro b (rfl | rfl | rfl) <;> decide)
    (fun _ => local_sign.bind fun negative =>
      local_digits?.map fun ds => some (Decimal.Exponent.mk negative ds))
    rfl fun _ _ => rfl

/-- The minus sign of a number, if there is one. -/
def minus : Bytes → Bool × Bytes
  | b :: r => if b = ascii '-' then (true, r) else (false, b :: r)
  | [] => (false, [])

theorem local_minus : Local fun bs => some (minus bs) :=
  .optional (· = ascii '-') (by rintro b (rfl | rfl | rfl) <;> decide) (fun _ => .pure true) rfl
    fun b r => by
      unfold minus
      dsimp only
      split <;> rfl

theorem local_number? : Local number? := by
  have heq : number? = fun bs => (some (minus bs)).bind fun sr =>
      (whole? sr.2).bind fun wr => (fraction? wr.2).bind fun fr => (exponent? fr.2).bind fun er =>
        some (⟨sr.1, wr.1, fr.1, er.1⟩, er.2) := by
    funext bs
    cases bs <;> rfl
  rw [heq]
  exact local_minus.bind fun negative => local_whole?.bind fun whole =>
    local_fraction?.bind fun fraction => local_exponent?.bind fun exponent =>
      .pure (⟨negative, whole, fraction, exponent⟩ : Decimal)

/-! ## Values -/

/-- A value that is written as a fixed word. -/
theorem local_word? (w : String) (x : Syntax) :
    Local fun r => (word? w r).map fun rest => (x, rest) := by
  intro bs y rest h
  obtain ⟨rest', hword, hy⟩ := Option.map_eq_some_iff.mp h
  obtain ⟨rfl, rfl⟩ := Prod.mk.inj hy
  unfold word? at hword
  obtain ⟨hstart, hdrop⟩ := Option.ite_none_right_eq_some.mp hword
  obtain ⟨t, rfl⟩ := List.isPrefixOf_iff_prefix.mp hstart
  rw [List.drop_left] at hdrop
  obtain rfl := Option.some.inj hdrop
  refine ⟨w.toList.map ascii, rfl, fun p _ => ?_⟩
  dsimp only
  unfold word?
  dsimp only
  rw [if_pos (List.isPrefixOf_iff_prefix.mpr (List.prefix_append _ p)), List.drop_left,
    Option.map_some]

/-- White space, and then a reader that asks for a first byte. -/
theorem Local.after_skipSpace {α : Type} {f : Bytes → Option (α × Bytes)} (hnil : f [] = none)
    (hcons : ∀ b, Local fun r => f (b :: r)) : Local fun bs => f (skipSpace bs) :=
  local_skipSpace.bind fun _ => .of_cons hnil hcons

/-- The colon behind a key. -/
def colon? (key : Bytes) : Bytes → Option (Bytes × Bytes)
  | c :: r => if c = ascii ':' then some (key, skipSpace r) else none
  | [] => none

theorem local_colon? (key : Bytes) : Local fun bs => colon? key (skipSpace bs) :=
  .after_skipSpace rfl fun _ =>
    .ite (fun _ => local_skipSpace.bind fun _ => .pure key) fun _ => .fail

theorem local_key? : Local key? := by
  refine .of_cons rfl fun b => ?_
  have heq : (fun r => key? (b :: r)) = fun r => if b = ascii '"' then
      (stringBody? r).bind fun kr => colon? kr.1 (skipSpace kr.2) else none := by
    funext r
    unfold key?
    dsimp only
    cases stringBody? r <;> rfl
  rw [heq]
  exact .ite (fun _ => local_stringBody?.bind fun k => local_colon? k) fun _ => .fail

theorem local_member? {n : Nat} (hvalue : Local (value? n)) : Local (member? n) := by
  have heq : member? n = fun bs => (key? bs).bind fun kr =>
      (value? n kr.2).map fun xr => ((kr.1, xr.1), xr.2) := by
    funext bs
    unfold member?
    cases key? bs <;> rfl
  rw [heq]
  exact local_key?.bind fun k => hvalue.map fun x => (k, x)

/-- What is read behind the opening of a bracket: its closing, or what stands inside. -/
def bracket {α : Type} (close : UInt8) (empty : Syntax) (g : α → Syntax)
    (inner : Bytes → Option (α × Bytes)) : Bytes → Option (Syntax × Bytes)
  | c :: r => if c = close then some (empty, r) else (inner (c :: r)).map fun (x, t) => (g x, t)
  | [] => none

theorem local_bracket {α : Type} {inner : Bytes → Option (α × Bytes)} (hinner : Local inner)
    (huses : ∀ {bs x rest}, inner bs = some (x, rest) → rest.length < bs.length) (close : UInt8)
    (empty : Syntax) (g : α → Syntax) :
    Local fun r => bracket close empty g inner (skipSpace r) :=
  .after_skipSpace rfl fun c => .ite (fun _ => .pure empty) fun _ => (hinner.behind huses c).map g

theorem local_value? {n : Nat} (hitems : Local (items? n)) (hmembers : Local (members? n)) :
    Local (value? (n + 1)) := by
  refine .of_cons rfl fun b => ?_
  unfold value?
  refine .ite (fun _ => local_stringBody?.map Syntax.string) fun _ => ?_
  refine .ite (fun _ => ?_) fun _ => .ite (fun _ => ?_) fun _ => ?_
  · exact local_bracket hitems (fun h => ((settles n).2.1 _ _ _ h).1) (ascii ']') (.array []) .array
  · exact local_bracket hmembers (fun h => ((settles n).2.2 _ _ _ h).1) (ascii '}') (.object [])
      .object
  · exact .ite (fun _ => local_word? _ _) fun _ => .ite (fun _ => local_word? _ _) fun _ =>
      .ite (fun _ => local_word? _ _) fun _ =>
        (local_number?.behind length_of_number? b).map Syntax.number

/-- What is read behind an entry of a sequence: its closing, or a comma and more entries. -/
def entriesAfter {α : Type} (close : UInt8) (more : Bytes → Option (List α × Bytes)) (x : α) :
    Bytes → Option (List α × Bytes)
  | c :: r =>
    if c = close then some ([x], r)
    else if c = ascii ',' then (more (skipSpace r)).map fun (xs, t) => (x :: xs, t)
    else none
  | [] => none

theorem IsSequence.succ_eq {α : Type} {seq : Nat → Bytes → Option (List α × Bytes)}
    {entry : Nat → Bytes → Option (α × Bytes)} {close : UInt8} (hseq : IsSequence seq entry close)
    (n : Nat) :
    seq (n + 1) = fun bs => (entry n bs).bind fun xr =>
      entriesAfter close (seq n) xr.1 (skipSpace xr.2) := by
  funext bs
  rw [hseq.succ]
  cases entry n bs <;> rfl

/-- A sequence is read locally if its entries are. -/
theorem IsSequence.local {α : Type} {seq : Nat → Bytes → Option (List α × Bytes)}
    {entry : Nat → Bytes → Option (α × Bytes)} {close : UInt8} (hseq : IsSequence seq entry close)
    {n : Nat} (hentry : Local (entry n)) (hrest : Local (seq n)) : Local (seq (n + 1)) := by
  have hafter : ∀ x, Local fun bs => entriesAfter close (seq n) x (skipSpace bs) := fun x =>
    .after_skipSpace rfl fun c => .ite (fun _ => .pure [x]) fun _ =>
      .ite (fun _ => (local_skipSpace.bind fun _ => hrest).map (x :: ·)) fun _ => .fail
  rw [hseq.succ_eq]
  exact hentry.bind hafter

/-- All readers of values are local. -/
theorem local_readers (n : Nat) :
    Local (value? n) ∧ Local (items? n) ∧ Local (members? n) := by
  induction n with
  | zero =>
    refine ⟨?_, ?_, ?_⟩ <;> intro bs x rest h
    · rw [value?] at h
      cases h
    · rw [isSequence_items?.zero] at h
      cases h
    · rw [isSequence_members?.zero] at h
      cases h
  | succ n ih =>
    obtain ⟨hvalue, hitems, hmembers⟩ := ih
    exact ⟨local_value? hitems hmembers, isSequence_items?.local hvalue hitems,
      isSequence_members?.local (local_member? hvalue) hmembers⟩

/-! ## Where objects end -/

theorem exists_append_skipSpace (bs : Bytes) : ∃ s, bs = s ++ skipSpace bs :=
  ⟨bs.takeWhile isSpace, List.takeWhile_append_dropWhile.symm⟩

/-- A sequence ends with its closing byte. -/
theorem IsSequence.ends {α : Type} {seq : Nat → Bytes → Option (List α × Bytes)}
    {entry : Nat → Bytes → Option (α × Bytes)} {close : UInt8} (hseq : IsSequence seq entry close)
    (hentry : ∀ n, Local (entry n)) {n : Nat} {bs rest : Bytes} {xs : List α}
    (h : seq n bs = some (xs, rest)) : ∃ s, bs = s ++ close :: rest := by
  induction n generalizing bs xs with
  | zero =>
    rw [hseq.zero] at h
    cases h
  | succ n ih =>
    rw [hseq.succ_eq] at h
    obtain ⟨⟨x, r⟩, hx, hafter⟩ := Option.bind_eq_some_iff.mp h
    obtain ⟨piece, rfl, -⟩ := hentry n _ _ _ hx
    obtain ⟨space, hr⟩ := exists_append_skipSpace r
    cases hskip : skipSpace r with
    | nil =>
      rw [hskip] at hafter
      cases hafter
    | cons c r' =>
      simp only [hskip, entriesAfter] at hafter
      split at hafter
      · next hclose =>
        obtain ⟨-, rfl⟩ := Prod.mk.inj (Option.some.inj hafter)
        exact ⟨piece ++ space, by rw [hr, hskip, hclose, List.append_assoc]⟩
      · obtain ⟨-, hafter⟩ := Option.ite_none_right_eq_some.mp hafter
        obtain ⟨xs', hxs', -⟩ := exists_of_map hafter fun _ => rfl
        obtain ⟨entries, hentries⟩ := ih hxs'
        obtain ⟨space', hr'⟩ := exists_append_skipSpace r'
        refine ⟨piece ++ space ++ c :: (space' ++ entries), ?_⟩
        rw [hr, hskip, hr', hentries]
        simp

/-- An object ends with its closing brace. -/
theorem ends_of_object {n : Nat} {bs rest : Bytes} {ms : List (Bytes × Syntax)}
    (h : value? n bs = some (.object ms, rest)) : ∃ s, bs = s ++ ascii '}' :: rest := by
  cases n with
  | zero =>
    rw [value?] at h
    cases h
  | succ n =>
    cases bs with
    | nil => cases h
    | cons b r =>
      obtain rfl := head_of_object h
      rw [value?_object] at h
      obtain ⟨space, hr⟩ := exists_append_skipSpace r
      cases hskip : skipSpace r with
      | nil =>
        rw [hskip] at h
        cases h
      | cons c r' =>
        rw [hskip] at h hr
        dsimp only at h
        split at h
        · next hclose =>
          obtain ⟨-, rfl⟩ := Prod.mk.inj (Option.some.inj h)
          exact ⟨ascii '{' :: space, by rw [hr, hclose]; rfl⟩
        · obtain ⟨ms', hms', -⟩ := exists_of_map h fun _ => rfl
          obtain ⟨s, hs⟩ := isSequence_members?.ends
            (fun n => local_member? (local_readers n).1) hms'
          exact ⟨ascii '{' :: (space ++ s), by rw [hr, hs]; simp⟩

/-- A whole text writes what is read of it with any fuel, if nothing but white space is left. -/
theorem parse?_eq_some_iff {bs : Bytes} {x : Syntax} :
    parse? bs = some x ↔
      ∃ n rest, value? n (skipSpace bs) = some (x, rest) ∧ skipSpace rest = [] := by
  constructor
  · intro h
    unfold parse? at h
    split at h
    · next y rest hread =>
      obtain ⟨hrest, hx⟩ := Option.ite_none_right_eq_some.mp h
      obtain rfl := Option.some.inj hx
      exact ⟨_, rest, hread, List.isEmpty_iff.mp hrest⟩
    · cases h
  · rintro ⟨n, rest, hread, hrest⟩
    have hlength := length_skipSpace_le bs
    have hfuel : value? (fuelFor bs) (skipSpace bs) = some (x, rest) :=
      ((settles n).1 _ _ _ hread).2 _ (by unfold fuelFor; omega)
    unfold parse?
    rw [hfuel]
    dsimp only
    rw [if_pos (List.isEmpty_iff.mpr hrest)]

/-- Only what begins with a brace, perhaps behind white space, is an object. -/
theorem head_of_parse? {bs : Bytes} {ms : List (Bytes × Syntax)}
    (h : parse? bs = some (.object ms)) : ∃ r, skipSpace bs = ascii '{' :: r := by
  obtain ⟨n, rest, hread, -⟩ := parse?_eq_some_iff.mp h
  cases n with
  | zero =>
    rw [value?] at hread
    cases hread
  | succ n =>
    cases hskip : skipSpace bs with
    | nil =>
      rw [hskip] at hread
      cases hread
    | cons b r =>
      rw [hskip] at hread
      exact ⟨r, congrArg (· :: r) (head_of_object hread)⟩

/-- What stands behind the last brace of an object does not count. -/
theorem parse?_of_append {v w : Bytes} {ms : List (Bytes × Syntax)} (hw : ascii '}' ∉ w)
    (h : parse? (v ++ w) = some (.object ms)) : parse? v = some (.object ms) := by
  obtain ⟨n, rest, hread, hrest⟩ := parse?_eq_some_iff.mp h
  have hlocal : Local fun bs => value? n (skipSpace bs) :=
    local_skipSpace.bind fun _ => (local_readers n).1
  obtain ⟨piece, hpiece, hread'⟩ := hlocal _ _ _ hread
  have hends : ∃ s, piece = s ++ [ascii '}'] := by
    obtain ⟨s, hs⟩ := ends_of_object hread
    obtain ⟨space, hspace⟩ := exists_append_skipSpace (v ++ w)
    refine ⟨space ++ s, (List.append_left_inj rest).mp ?_⟩
    rw [← hpiece, hspace, hs]
    simp
  -- the piece ends within `v`: it ends with a brace, and `w` has none
  have hwithin : ∃ a, v = piece ++ a ∧ rest = a ++ w := by
    rcases List.append_eq_append_iff.mp hpiece with ⟨a, ha, hsplit⟩ | hwithin
    · rcases List.eq_nil_or_concat a with rfl | ⟨a, b, rfl⟩
      · exact ⟨[], by simpa using ha.symm, hsplit.symm⟩
      · obtain ⟨s, hs⟩ := hends
        rw [ha, List.concat_eq_append, ← List.append_assoc] at hs
        obtain rfl : b = ascii '}' := List.cons.inj (List.append_inj_right' hs rfl) |>.1
        exact absurd (by simp [hsplit]) hw
    · exact hwithin
  obtain ⟨a, rfl, rfl⟩ := hwithin
  refine parse?_eq_some_iff.mpr ⟨n, a, hread' a (follows_append w a), ?_⟩
  rw [skipSpace, List.dropWhile_append] at hrest
  split at hrest
  · next hempty => exact List.isEmpty_iff.mp hempty
  · exact (List.append_eq_nil_iff.mp hrest).1

/-- Nor does what stands in front of the first. -/
theorem parse?_of_append_left {u v : Bytes} {ms : List (Bytes × Syntax)} (hu : ascii '{' ∉ u)
    (h : parse? (u ++ v) = some (.object ms)) : parse? v = some (.object ms) := by
  obtain ⟨r, hr⟩ := head_of_parse? h
  have hskip : skipSpace (u ++ v) = skipSpace v := by
    rw [skipSpace, List.dropWhile_append] at hr ⊢
    split
    · rfl
    · next hne =>
      rw [if_neg hne] at hr
      obtain ⟨b, s, hs⟩ := List.exists_cons_of_ne_nil (mt List.isEmpty_iff.mpr hne)
      rw [hs, List.cons_append] at hr
      obtain rfl := (List.cons.inj hr).1
      exact absurd ((List.dropWhile_sublist isSpace).subset (hs ▸ List.mem_cons_self)) hu
  rw [parse?_eq_some_iff, hskip, ← parse?_eq_some_iff] at h
  exact h

/-- An object is the same without what is written around its braces. -/
theorem parse?_of_padded {u v w : Bytes} {ms : List (Bytes × Syntax)} (hu : ascii '{' ∉ u)
    (hw : ascii '}' ∉ w) (h : parse? (u ++ v ++ w) = some (.object ms)) :
    parse? v = some (.object ms) :=
  parse?_of_append_left hu (parse?_of_append hw h)

end RpcGuard.Json.Syntax
