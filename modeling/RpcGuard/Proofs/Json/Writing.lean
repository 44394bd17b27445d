import RpcGuard.Json.Value
import RpcGuard.Proofs.Json.Locality
import RpcGuard.Proofs.Text.Utf8

/-!
# Writing JSON

How texts of values are put together: a string between quotes, values between brackets, and members
between braces. Whatever is put together so is read back (`Json.writes_quoted`,
`Json.Writes.array`, `Json.Writes.object`). The values inside are given by any texts that are read
as them, with the white space around them, and count one level of nesting less.
-/

namespace RpcGuard.Json

namespace Syntax

/-! ## Strings -/

/-- A hexadecimal digit. -/
def hexDigit (n : Nat) : UInt8 := ascii (Digits.ofValue n)

theorem value?_hexDigit : ∀ n < 16, Digits.value? (hexDigit n).toNat = some n := by decide

/-- A byte in the body of a string. -/
def escaped (b : UInt8) : Bytes :=
  if b = ascii '"' ∨ b = ascii '\\' then [ascii '\\', b]
  else if b < 0x20 then
    [ascii '\\', ascii 'u', ascii '0', ascii '0', hexDigit (b.toNat / 16), hexDigit (b.toNat % 16)]
  else [b]

/-- The body of a string that stands for the bytes. -/
def body (bs : Bytes) : Bytes := bs.flatMap escaped

theorem isHexDigit_hexDigit {n : Nat} (h : n < 16) : isHexDigit (hexDigit n) = true := by
  rw [isHexDigit, value?_hexDigit n h]
  rfl

theorem stringBody?_escaped (b : UInt8) (rest : Bytes) :
    stringBody? (escaped b ++ rest) = (stringBody? rest).map fun (s, t) => (escaped b ++ s, t) := by
  have hquote : ascii '\\' ≠ ascii '"' := by decide
  have hcontrol : ¬ ascii '\\' < 0x20 := by decide
  unfold escaped
  split
  · next h =>
    have hescape : isEscape b = true := by rcases h with rfl | rfl <;> decide
    rw [List.cons_append, List.singleton_append, stringBody?.eq_def]
    dsimp only
    rw [if_neg hquote, if_neg hcontrol, if_pos rfl, if_pos hescape]
    rfl
  · next h =>
    obtain ⟨hne, hne'⟩ := not_or.mp h
    split
    · next hlow =>
      have hb : b.toNat < 0x20 := UInt8.lt_iff_toNat_lt.mp hlow
      have hu : ¬ isEscape (ascii 'u') = true := by decide
      have hdigits : (isHexDigit (ascii '0') && isHexDigit (ascii '0') &&
          isHexDigit (hexDigit (b.toNat / 16)) && isHexDigit (hexDigit (b.toNat % 16))) = true := by
        rw [isHexDigit_hexDigit (by omega), isHexDigit_hexDigit (by omega)]
        decide
      simp only [List.cons_append, List.nil_append]
      rw [stringBody?.eq_def]
      dsimp only
      rw [if_neg hquote, if_neg hcontrol, if_pos rfl, if_neg hu, if_pos rfl, if_pos hdigits]
    · next hlow =>
      rw [List.singleton_append, stringBody?.eq_def]
      dsimp only
      rw [if_neg hne, if_neg hlow, if_neg hne']
      rfl

/-- A body ends at the quote behind it. -/
theorem stringBody?_body (bs rest : Bytes) :
    stringBody? (body bs ++ ascii '"' :: rest) = some (body bs, rest) := by
  induction bs with
  | nil =>
    rw [body, List.flatMap_nil, List.nil_append, stringBody?.eq_def]
    exact if_pos rfl
  | cons b bs ih =>
    have hcons : body (b :: bs) = escaped b ++ body bs := List.flatMap_cons
    rw [hcons, List.append_assoc, stringBody?_escaped, ih]
    rfl

/-! ## Entries -/

/-- The text is that of an entry: whatever may follow an entry, the reader takes the text and the
white space around it, and finds the entry. -/
def Reads {α : Type} (entry : Nat → Bytes → Option (α × Bytes)) (text : Bytes) (x : α) : Prop :=
  ∀ p n, (∀ b ∈ p.head?, EndsEntry b) → text.length ≤ n →
    ∃ r, entry n (skipSpace (text ++ p)) = some (x, r) ∧ skipSpace r = p

theorem skipSpace_append_of_blank {s p : Bytes} (hs : skipSpace s = [])
    (hp : ∀ b ∈ p.head?, EndsEntry b) : skipSpace (s ++ p) = p := by
  have hall : s.takeWhile isSpace = s := by
    have hsplit := List.takeWhile_append_dropWhile (p := isSpace) (l := s)
    rwa [show s.dropWhile isSpace = [] from hs, List.append_nil] at hsplit
  have hblank : ∀ b ∈ s, isSpace b = true := fun b hb =>
    List.all_eq_true.mp List.all_takeWhile b (hall.symm ▸ hb)
  rw [skipSpace, List.dropWhile_append_of_pos hblank]
  exact skipSpace_of_head fun b hb => not_isSpace_of_endsEntry (hp b hb)

/-- The text of a value may stand as an entry. -/
theorem reads_of_parse? {text : Bytes} {x : Syntax} (h : parse? text = some x) :
    Reads value? text x := by
  intro p n hp hn
  obtain ⟨m, rest, hread, hrest⟩ := parse?_eq_some_iff.mp h
  -- the value is read the same in front of the rest, and then with any fuel that is enough
  have hlocal : Local fun bs => value? m (skipSpace bs) :=
    local_skipSpace.bind fun _ => (local_readers m).1
  obtain ⟨s, rfl, hs⟩ := hlocal _ _ _ hread
  have hfollows : Follows (rest ++ p) rest := by
    intro b hb
    cases rest with
    | nil => exact .inr (hp b hb)
    | cons c rest => exact .inl hb
  have hread' := hs _ hfollows
  have hskip := skipSpace_append_of_blank hrest hp
  refine ⟨rest ++ p, ?_, hskip⟩
  rw [List.append_assoc]
  refine ((settles m).1 _ _ _ hread').2 n ?_
  have hlength := length_skipSpace_le (s ++ (rest ++ p))
  simp only [List.length_append] at hlength hn ⊢
  omega

/-- The entries with commas between them, and a closing byte behind. -/
def entriesText (close : UInt8) : List Bytes → Bytes
  | [] => [close]
  | [text] => text ++ [close]
  | text :: texts => text ++ ascii ',' :: entriesText close texts

/-- A sequence of entries is read entry by entry. -/
theorem IsSequence.reads {α : Type} {seq : Nat → Bytes → Option (List α × Bytes)}
    {entry : Nat → Bytes → Option (α × Bytes)} {close : UInt8} (hseq : IsSequence seq entry close)
    (hclose : EndsEntry close) (hcomma : ascii ',' ≠ close) {pieces : List (Bytes × α)}
    (hne : pieces ≠ []) (h : ∀ piece ∈ pieces, Reads entry piece.1 piece.2) {n : Nat}
    (hn : (entriesText close (pieces.map Prod.fst)).length ≤ n) :
    seq n (skipSpace (entriesText close (pieces.map Prod.fst))) =
      some (pieces.map Prod.snd, []) := by
  induction pieces generalizing n with
  | nil => exact absurd rfl hne
  | cons piece pieces ih =>
    obtain ⟨text, x⟩ := piece
    obtain ⟨hpiece, hpieces⟩ := List.forall_mem_cons.mp h
    cases pieces with
    | nil =>
      simp only [List.map_cons, List.map_nil, entriesText, List.length_append,
        List.length_singleton] at hn ⊢
      obtain ⟨n, rfl⟩ := Nat.exists_eq_add_of_le' (Nat.le_of_add_left_le hn)
      obtain ⟨r, hr, hskip⟩ := hpiece [close] n (fun b hb => Option.some.inj hb ▸ hclose)
        (show text.length ≤ n by omega)
      rw [hseq.succ, hr]
      dsimp only
      rw [hskip]
      exact if_pos rfl
    | cons piece' pieces =>
      have hentries : entriesText close (((text, x) :: piece' :: pieces).map Prod.fst) =
          text ++ ascii ',' :: entriesText close ((piece' :: pieces).map Prod.fst) := rfl
      rw [hentries] at hn ⊢
      simp only [List.length_append, List.length_cons] at hn
      obtain ⟨n, rfl⟩ := Nat.exists_eq_add_of_le' (Nat.le_of_add_left_le (Nat.le_of_add_left_le hn))
      obtain ⟨r, hr, hskip⟩ := hpiece
        (ascii ',' :: entriesText close ((piece' :: pieces).map Prod.fst)) n
        (fun b hb => Option.some.inj hb ▸ .inl rfl) (show text.length ≤ n by omega)
      rw [hseq.succ, hr]
      dsimp only
      rw [hskip]
      dsimp only
      rw [if_neg hcomma, if_pos rfl, ih (List.cons_ne_nil _ _) hpieces (by omega)]
      rfl

/-! ## Arrays and objects -/

/-- What stands between brackets is read, be it nothing. An entry does not begin with the closing
byte. -/
theorem IsSequence.bracket_entriesText {α : Type} {seq : Nat → Bytes → Option (List α × Bytes)}
    {entry : Nat → Bytes → Option (α × Bytes)} {close : UInt8} (hseq : IsSequence seq entry close)
    (hclose : EndsEntry close) (hcomma : ascii ',' ≠ close) (hempty : ∀ n, entry n [] = none)
    (hnone : ∀ n r, entry n (close :: r) = none) (g : List α → Syntax) {pieces : List (Bytes × α)}
    (h : ∀ piece ∈ pieces, Reads entry piece.1 piece.2) {n : Nat}
    (hn : (entriesText close (pieces.map Prod.fst)).length ≤ n) :
    bracket close (g []) g (seq n) (skipSpace (entriesText close (pieces.map Prod.fst))) =
      some (g (pieces.map Prod.snd), []) := by
  by_cases hne : pieces = []
  · subst hne
    have hskip : skipSpace [close] = [close] :=
      skipSpace_of_head fun b hb => Option.some.inj hb ▸ not_isSpace_of_endsEntry hclose
    rw [List.map_nil, entriesText, hskip]
    exact if_pos rfl
  · -- the bracket is not closed at once, or the sequence could not be read
    have hread := hseq.reads hclose hcomma hne h hn
    cases n with
    | zero =>
      rw [hseq.zero] at hread
      cases hread
    | succ n =>
      cases hskip : skipSpace (entriesText close (pieces.map Prod.fst)) with
      | nil =>
        rw [hskip, hseq.succ, hempty] at hread
        cases hread
      | cons c r =>
        have hc : c ≠ close := by
          rintro rfl
          rw [hskip, hseq.succ, hnone] at hread
          cases hread
        rw [hskip] at hread
        rw [bracket, if_neg hc, hread]
        rfl

/-- The text of an array with the texts of its items. -/
def arrayText (texts : List Bytes) : Bytes := ascii '[' :: entriesText (ascii ']') texts

/-- The text of a member with the bytes of its name and the text of its value. -/
def memberText (name value : Bytes) : Bytes :=
  ascii '"' :: (body name ++ ascii '"' :: ascii ':' :: value)

/-- The text of an object with the names and texts of its members. -/
def objectText (ms : List (Bytes × Bytes)) : Bytes :=
  ascii '{' :: entriesText (ascii '}') (ms.map fun m => memberText m.1 m.2)

theorem reads_memberText {text : Bytes} {x : Syntax} (h : parse? text = some x) (name : Bytes) :
    Reads member? (memberText name text) (body name, x) := by
  intro p n hp hn
  have hquote : ∀ b ∈ (memberText name text ++ p).head?, ¬ isSpace b = true := by
    intro b hb
    obtain rfl := Option.some.inj hb
    decide
  have hkey : key? (memberText name text ++ p) = some (body name, skipSpace (text ++ p)) := by
    have hcons : memberText name text ++ p =
        ascii '"' :: (body name ++ ascii '"' :: (ascii ':' :: (text ++ p))) := by
      simp [memberText]
    have hcolon : skipSpace (ascii ':' :: (text ++ p)) = ascii ':' :: (text ++ p) :=
      skipSpace_of_head fun b hb => Option.some.inj hb ▸ by decide
    rw [hcons, key?, if_pos rfl, stringBody?_body]
    dsimp only
    rw [hcolon]
    exact if_pos rfl
  obtain ⟨r, hr, hskip⟩ := reads_of_parse? h p n hp (by
    simp only [memberText, List.length_cons, List.length_append] at hn
    omega)
  refine ⟨r, ?_, hskip⟩
  rw [skipSpace_of_head hquote, member?, hkey]
  dsimp only
  rw [hr]
  rfl

theorem value?_nil (n : Nat) : value? n [] = none := by
  cases n <;> rfl

theorem value?_bracket (n : Nat) (r : Bytes) : value? n (ascii ']' :: r) = none := by
  cases n <;> rfl

theorem member?_nil (n : Nat) : member? n [] = none := rfl

theorem member?_brace (n : Nat) (r : Bytes) : member? n (ascii '}' :: r) = none := rfl

/-- What is put between brackets is the array of it. -/
theorem parse?_arrayText {pieces : List (Bytes × Syntax)}
    (h : ∀ piece ∈ pieces, parse? piece.1 = some piece.2) :
    parse? (arrayText (pieces.map Prod.fst)) = some (.array (pieces.map Prod.snd)) := by
  have hskip : skipSpace (arrayText (pieces.map Prod.fst)) = arrayText (pieces.map Prod.fst) :=
    skipSpace_of_head fun b hb => Option.some.inj hb ▸ by decide
  refine parse?_eq_some_iff.mpr
    ⟨(entriesText (ascii ']') (pieces.map Prod.fst)).length + 1, [], ?_, rfl⟩
  rw [hskip, arrayText, value?_array]
  exact isSequence_items?.bracket_entriesText (.inr (.inl rfl)) (by decide) value?_nil
    value?_bracket .array (fun piece hpiece => reads_of_parse? (h piece hpiece)) (Nat.le_refl _)

/-- What is put between braces is the object of it. -/
theorem parse?_objectText {pieces : List (Bytes × Bytes × Syntax)}
    (h : ∀ piece ∈ pieces, parse? piece.2.1 = some piece.2.2) :
    parse? (objectText (pieces.map fun piece => (piece.1, piece.2.1))) =
      some (.object (pieces.map fun piece => (body piece.1, piece.2.2))) := by
  let entries := pieces.map fun piece =>
    (memberText piece.1 piece.2.1, (body piece.1, piece.2.2))
  have htext : objectText (pieces.map fun piece => (piece.1, piece.2.1)) =
      ascii '{' :: entriesText (ascii '}') (entries.map Prod.fst) := by
    rw [objectText, List.map_map, List.map_map]
    rfl
  have hmembers : (pieces.map fun piece => (body piece.1, piece.2.2)) = entries.map Prod.snd := by
    rw [List.map_map]
    rfl
  have hreads : ∀ entry ∈ entries, Reads member? entry.1 entry.2 := by
    intro entry hentry
    obtain ⟨piece, hpiece, rfl⟩ := List.mem_map.mp hentry
    exact reads_memberText (h piece hpiece) piece.1
  have hskip : skipSpace (ascii '{' :: entriesText (ascii '}') (entries.map Prod.fst)) =
      ascii '{' :: entriesText (ascii '}') (entries.map Prod.fst) :=
    skipSpace_of_head fun b hb => Option.some.inj hb ▸ by decide
  refine parse?_eq_some_iff.mpr
    ⟨(entriesText (ascii '}') (entries.map Prod.fst)).length + 1, [], ?_, rfl⟩
  rw [htext, hmembers, hskip, value?_object]
  exact isSequence_members?.bracket_entriesText (.inr (.inr rfl)) (by decide) member?_nil
    member?_brace .object hreads (Nat.le_refl _)

/-- What is put between quotes is the string of it. -/
theorem parse?_quoted (bs : Bytes) :
    parse? (ascii '"' :: (body bs ++ [ascii '"'])) = some (.string (body bs)) := by
  have hskip : skipSpace (ascii '"' :: (body bs ++ [ascii '"'])) =
      ascii '"' :: (body bs ++ [ascii '"']) :=
    skipSpace_of_head fun b hb => Option.some.inj hb ▸ by decide
  refine parse?_eq_some_iff.mpr ⟨1, [], ?_, rfl⟩
  rw [hskip, value?, if_pos rfl, stringBody?_body]
  rfl

end Syntax

theorem unescape?_escaped (b : UInt8) (rest : Bytes) :
    unescape? (Syntax.escaped b ++ rest) = (unescape? rest).map (b :: ·) := by
  unfold Syntax.escaped
  split
  · next h =>
    have hne : b ≠ Syntax.ascii 'u' := by rcases h with rfl | rfl <;> decide
    have hescaped : escaped? b = some b := by rcases h with rfl | rfl <;> decide
    rw [List.cons_append, List.singleton_append, unescape?.eq_def]
    dsimp only
    rw [if_pos rfl, if_neg hne, hescaped]
  · next h =>
    split
    · next hlow =>
      have hb : b.toNat < 0x20 := UInt8.lt_iff_toNat_lt.mp hlow
      have hhex : hex4? (Syntax.ascii '0') (Syntax.ascii '0') (Syntax.hexDigit (b.toNat / 16))
          (Syntax.hexDigit (b.toNat % 16)) = some b.toNat := by
        unfold hex4?
        rw [Syntax.value?_hexDigit _ (by omega), Syntax.value?_hexDigit _ (by omega)]
        show some (0 * 4096 + 0 * 256 + b.toNat / 16 * 16 + b.toNat % 16) = _
        congr 1
        omega
      have hchar : ∀ n < 0x20, Utf8.encodeChar (Char.ofNat n) = [UInt8.ofNat n] := by decide
      simp only [List.cons_append, List.nil_append]
      rw [unescape?.eq_def]
      dsimp only
      rw [if_pos rfl, if_pos rfl, hhex]
      dsimp only
      rw [if_pos (.inl (by omega)), hchar _ hb, UInt8.ofNat_toNat]
      rfl
    · next hlow =>
      rw [List.singleton_append, unescape?.eq_def]
      dsimp only
      rw [if_neg (not_or.mp h).2]

theorem unescape?_body (bs : Bytes) : unescape? (Syntax.body bs) = some bs := by
  induction bs with
  | nil => rfl
  | cons b bs ih =>
    have hcons : Syntax.body (b :: bs) = Syntax.escaped b ++ Syntax.body bs := List.flatMap_cons
    rw [hcons, unescape?_escaped, ih]
    rfl

theorem text?_body (s : String) : text? (Syntax.body (Utf8.bytes s)) = some s := by
  unfold text?
  rw [unescape?_body]
  exact Utf8.text?_bytes s

/-! ## Values -/

/-- The text is read as the value, which may hold `depth` levels of arrays and objects. -/
def Writes (depth : Nat) (text : Bytes) (j : Json) : Prop :=
  ∃ x, Syntax.parse? text = some x ∧ ofSyntax? depth x = some j

/-- A string between quotes. -/
def quoted (s : String) : Bytes :=
  Syntax.ascii '"' :: (Syntax.body (Utf8.bytes s) ++ [Syntax.ascii '"'])

/-- The text of an object with the names and texts of its members. -/
def objectText (ms : List (String × Bytes)) : Bytes :=
  Syntax.objectText (ms.map fun m => (Utf8.bytes m.1, m.2))

theorem writes_quoted (depth : Nat) (s : String) : Writes depth (quoted s) (.string s) := by
  refine ⟨_, Syntax.parse?_quoted _, ?_⟩
  rw [ofSyntax?, text?_body]
  rfl

/-- The values of an array are written between its brackets. -/
theorem Writes.array {depth : Nat} {pieces : List (Bytes × Json)}
    (h : ∀ piece ∈ pieces, Writes depth piece.1 piece.2) :
    Writes (depth + 1) (Syntax.arrayText (pieces.map Prod.fst)) (.array (pieces.map Prod.snd)) := by
  have hentries : ∃ entries : List (Bytes × Syntax),
      entries.map Prod.fst = pieces.map Prod.fst ∧
      (∀ entry ∈ entries, Syntax.parse? entry.1 = some entry.2) ∧
      ofItems? depth (entries.map Prod.snd) = some (pieces.map Prod.snd) := by
    induction pieces with
    | nil => exact ⟨[], rfl, List.forall_mem_nil _, by rw [List.map_nil, List.map_nil, ofItems?]⟩
    | cons piece pieces ih =>
      obtain ⟨⟨x, hx, hj⟩, hpieces⟩ := List.forall_mem_cons.mp h
      obtain ⟨entries, htexts, hparse, hvalues⟩ := ih hpieces
      refine ⟨(piece.1, x) :: entries, congrArg (piece.1 :: ·) htexts,
        List.forall_mem_cons.mpr ⟨hx, hparse⟩, ?_⟩
      rw [List.map_cons, List.map_cons, ofItems?, hj, hvalues]
      rfl
  obtain ⟨entries, htexts, hparse, hvalues⟩ := hentries
  refine ⟨_, htexts ▸ Syntax.parse?_arrayText hparse, ?_⟩
  rw [ofSyntax?, hvalues]
  rfl

/-- The members of an object are written between its braces. -/
theorem Writes.object {depth : Nat} {pieces : List (String × Bytes × Json)}
    (h : ∀ piece ∈ pieces, Writes depth piece.2.1 piece.2.2) :
    Writes (depth + 1) (objectText (pieces.map fun piece => (piece.1, piece.2.1)))
      (.object (pieces.map fun piece => (piece.1, piece.2.2))) := by
  have hentries : ∃ entries : List (Bytes × Bytes × Syntax),
      (entries.map fun entry => (entry.1, entry.2.1)) =
        (pieces.map fun piece => (Utf8.bytes piece.1, piece.2.1)) ∧
      (∀ entry ∈ entries, Syntax.parse? entry.2.1 = some entry.2.2) ∧
      ofMembers? depth (entries.map fun entry => (Syntax.body entry.1, entry.2.2)) =
        some (pieces.map fun piece => (piece.1, piece.2.2)) := by
    induction pieces with
    | nil => exact ⟨[], rfl, List.forall_mem_nil _, by rw [List.map_nil, List.map_nil, ofMembers?]⟩
    | cons piece pieces ih =>
      obtain ⟨⟨x, hx, hj⟩, hpieces⟩ := List.forall_mem_cons.mp h
      obtain ⟨entries, htexts, hparse, hvalues⟩ := ih hpieces
      refine ⟨(Utf8.bytes piece.1, piece.2.1, x) :: entries,
        congrArg ((Utf8.bytes piece.1, piece.2.1) :: ·) htexts,
        List.forall_mem_cons.mpr ⟨hx, hparse⟩, ?_⟩
      rw [List.map_cons, List.map_cons, ofMembers?, text?_body, hj, hvalues]
      rfl
  obtain ⟨entries, htexts, hparse, hvalues⟩ := hentries
  have htext : objectText (pieces.map fun piece => (piece.1, piece.2.1)) =
      Syntax.objectText (entries.map fun entry => (entry.1, entry.2.1)) := by
    rw [objectText, List.map_map, htexts]
    rfl
  refine ⟨_, htext ▸ Syntax.parse?_objectText hparse, ?_⟩
  rw [ofSyntax?, hvalues]
  rfl

theorem Writes.parse? {text : Bytes} {j : Json} (h : Writes maxDepth text j) :
    parse? text = some j := by
  obtain ⟨x, hx, hj⟩ := h
  exact Option.bind_eq_some_iff.mpr ⟨x, hx, hj⟩

end RpcGuard.Json
