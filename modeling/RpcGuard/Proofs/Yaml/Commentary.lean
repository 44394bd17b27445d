import RpcGuard.Yaml.Value

/-!
# Texts of comments

A text of blank lines and comments writes null. The scanner passes such a text a line at a time
(`Scanner.skipInLine_rest`), so it comes to the end before it has a token, and a document without
tokens is empty.
-/

namespace RpcGuard.Yaml

/-! ## The grammar -/

/-- A line without tokens, in its three parts: perhaps a byte order mark, spaces, and perhaps a
comment. -/
structure BareLine (mark spaces comment : List Char) : Prop where
  marked : mark = [] ∨ mark = ['\ufeff']
  spaced : ∀ c ∈ spaces, c = ' '
  signed : comment = [] ∨ comment.head? = some '#'
  readable : ∀ c ∈ comment, isReadable c = true ∧ isBreak c = false

/-- A text whose lines are all bare. -/
inductive Commentary : List Char → Prop where
  | last {mark spaces comment : List Char} (hline : BareLine mark spaces comment) :
      Commentary (mark ++ (spaces ++ comment))
  | line {mark spaces comment rest : List Char} {b : Char}
      (hline : BareLine mark spaces comment) (hbreak : isBreak b = true)
      (hrest : Commentary rest) : Commentary (mark ++ (spaces ++ (comment ++ b :: rest)))

theorem isReadable_of_isBreak {c : Char} (h : isBreak c = true) : isReadable c = true := by
  simp only [isBreak, Bool.or_eq_true, beq_iff_eq] at h
  simp only [isReadable, Bool.or_eq_true, Bool.and_eq_true, beq_iff_eq, decide_eq_true_eq]
  omega

theorem bareLine_nil : BareLine [] [] [] where
  marked := .inl rfl
  spaced := by simp
  signed := .inl rfl
  readable := by simp

/-- What a bare line consists of can be read, and none of it ends the line. -/
theorem BareLine.mem {mark spaces comment : List Char} (h : BareLine mark spaces comment)
    {c : Char} (hc : c ∈ mark ++ (spaces ++ comment)) : isReadable c = true ∧ isBreak c = false := by
  rw [List.mem_append, List.mem_append] at hc
  obtain hc | hc | hc := hc
  · obtain hmark | hmark := h.marked
    · rw [hmark] at hc
      cases hc
    · rw [hmark, List.mem_singleton] at hc
      subst hc
      decide
  · rw [h.spaced c hc]
    decide
  · exact h.readable c hc

section Parts

variable {mark spaces comment rest : List Char}

/-- What follows the spaces is a comment or the end of the line. -/
theorem BareLine.head (h : BareLine mark spaces comment) (hrest : endsLine rest = true) :
    ∀ x ∈ (comment ++ rest).head?, x = '#' ∨ isBreak x = true := by
  intro x hx
  cases comment with
  | nil =>
    cases rest with
    | nil => cases hx
    | cons y tail =>
      obtain rfl : y = x := by simpa using hx
      exact .inr hrest
  | cons sign tail =>
    obtain rfl : sign = x := by simpa using hx
    exact .inl (by simpa using h.signed)

/-- There is no second byte order mark. -/
theorem BareLine.head_ne_mark (h : BareLine mark spaces comment) (hrest : endsLine rest = true) :
    ∀ x ∈ (spaces ++ (comment ++ rest)).head?, x ≠ '\ufeff' := by
  intro x hx
  rintro rfl
  cases spaces with
  | nil => exact absurd (h.head hrest _ hx) (by decide)
  | cons space tail =>
    obtain rfl : space = '\ufeff' := by simpa using hx
    exact absurd (h.spaced _ List.mem_cons_self) (by decide)

/-- Where no tab counts, it is just the spaces that are skipped. -/
theorem BareLine.dropWhile_spaces (h : BareLine mark spaces comment)
    (hrest : endsLine rest = true) :
    (spaces ++ (comment ++ rest)).dropWhile (fun x => x == ' ' || (false && x == '\t')) =
      comment ++ rest := by
  have hpast : ∀ x ∈ spaces, (x == ' ' || (false && x == '\t')) = true := by
    intro x hx
    rw [h.spaced x hx]
    rfl
  rw [List.dropWhile_append_of_pos hpast]
  cases hcs : comment ++ rest with
  | nil => rfl
  | cons x tail =>
    refine List.dropWhile_cons_of_neg ?_
    intro hspace
    obtain rfl : x = ' ' := by simpa using hspace
    exact absurd (h.head hrest ' ' (by rw [hcs]; rfl)) (by decide)

end Parts

namespace Commentary

theorem nil : Commentary [] := .last bareLine_nil

theorem readable {cs : List Char} (h : Commentary cs) : ∀ c ∈ cs, isReadable c = true := by
  induction h with
  | last hline => exact fun c hc => (hline.mem hc).1
  | line hline hbreak _ ih =>
    intro c hc
    rw [← List.append_assoc, ← List.append_assoc, List.mem_append, List.mem_cons,
      List.append_assoc] at hc
    obtain hc | rfl | hc := hc
    · exact (hline.mem hc).1
    · exact isReadable_of_isBreak hbreak
    · exact ih c hc

/-- What follows a line end at the start is commentary too. -/
theorem of_cons_break {b : Char} {rest : List Char} (hb : isBreak b = true)
    (h : Commentary (b :: rest)) : Commentary rest := by
  generalize hcs : b :: rest = cs at h
  cases h with
  | last hline =>
    have hmem := hline.mem (hcs ▸ List.mem_cons_self)
    rw [hb] at hmem
    exact absurd hmem.2 (by decide)
  | @line mark spaces comment _ _ hline _ hrest =>
    rw [← List.append_assoc, ← List.append_assoc, List.append_assoc mark] at hcs
    cases hparts : mark ++ (spaces ++ comment) with
    | nil =>
      rw [hparts] at hcs
      obtain ⟨-, rfl⟩ := List.cons.inj hcs
      exact hrest
    | cons c cs =>
      -- here the line end would be a part of the first line
      rw [hparts] at hcs
      obtain ⟨rfl, -⟩ := List.cons.inj hcs
      have hmem := hline.mem (hparts ▸ List.mem_cons_self)
      rw [hb] at hmem
      exact absurd hmem.2 (by decide)

end Commentary

/-! ## Passing a line -/

namespace Cursor

variable {c : Cursor}

/-- Moving to an end of the text. -/
theorem moveTo_rest {before rest : List Char} (h : c.rest = before ++ rest) :
    (c.moveTo rest).rest = rest := by
  show c.rest.drop (c.rest.length - rest.length) = rest
  have hlength : c.rest.length - rest.length = before.length := by
    rw [h, List.length_append]
    omega
  rw [hlength, h]
  exact List.drop_left

theorem skipByteOrderMark_rest {mark rest : List Char} (hmark : mark = [] ∨ mark = ['\ufeff'])
    (hrest : ∀ x ∈ rest.head?, x ≠ '\ufeff') (hc : c.rest = mark ++ rest) (hcolumn : c.column = 0) :
    c.skipByteOrderMark.rest = rest := by
  unfold skipByteOrderMark
  obtain rfl | rfl := hmark
  · rw [List.nil_append] at hc
    cases hx : rest with
    | nil =>
      rw [hc, hx]
      simp only
      rw [hc, hx]
    | cons x tail =>
      have hother : (x.toNat == 0xFEFF) = false := by
        have hne : x ≠ '\ufeff' := hrest x (by simp [hx])
        rw [beq_eq_false_iff_ne]
        exact fun heq => hne (Char.toNat_inj.mp heq)
      rw [hc, hx]
      simp [hother, hc, hx]
  · rw [hc]
    simp [hcolumn, advance, hc]

/-- A comment ends where its line ends. -/
theorem skipComment_rest {comment rest : List Char}
    (hcomment : comment = [] ∨ comment.head? = some '#')
    (hreadable : ∀ x ∈ comment, isBreak x = false) (hrest : endsLine rest = true)
    (hc : c.rest = comment ++ rest) : c.skipComment.rest = rest := by
  cases comment with
  | nil =>
    rw [List.nil_append] at hc
    unfold skipComment
    split
    · rename_i tail hsign
      -- the sign of a comment ends no line
      rw [← hc, hsign] at hrest
      have hbreak : isBreak '#' = true := hrest
      exact absurd hbreak (by decide)
    · exact hc
  | cons sign tail =>
    have hsign : sign = '#' := by simpa using hcomment
    have hskip : c.skipComment = c.skipLine := by
      unfold skipComment
      rw [hc, hsign]
      rfl
    have hdrop : c.rest.dropWhile (fun x => !isBreak x) = rest := by
      have hpast : ∀ x ∈ sign :: tail, (!isBreak x) = true := by
        intro x hx
        rw [hreadable x hx]
        rfl
      rw [hc, List.dropWhile_append_of_pos hpast]
      cases rest with
      | nil => rfl
      | cons x rest =>
        have hbreak : isBreak x = true := hrest
        simp [hbreak]
    rw [hskip, skipLine, hdrop]
    exact moveTo_rest hc

/-- Behind a line end a new line starts. A carriage return takes a line feed with it. -/
theorem takeBreak_of_isBreak {b : Char} {rest : List Char} (hb : isBreak b = true)
    (hc : c.rest = b :: rest) :
    ∃ x next, c.takeBreak = some (x, next) ∧ next.column = 0 ∧
      (next.rest = rest ∨ rest = '\n' :: next.rest) := by
  unfold takeBreak
  rw [hc]
  split
  · rename_i after heq
    obtain ⟨-, rfl⟩ := List.cons.inj heq
    exact ⟨_, _, rfl, rfl, .inr rfl⟩
  · rename_i x after _ heq
    obtain ⟨rfl, rfl⟩ := List.cons.inj heq
    by_cases hkept : b.toNat = 0x2028 ∨ b.toNat = 0x2029
    · simp only [hb, Bool.not_true, Bool.false_eq_true, if_false, if_pos hkept]
      exact ⟨_, _, rfl, rfl, .inl rfl⟩
    · simp only [hb, Bool.not_true, Bool.false_eq_true, if_false, if_neg hkept]
      exact ⟨_, _, rfl, rfl, .inl rfl⟩
  · rename_i heq
    cases heq

theorem takeBreak_of_nil (hc : c.rest = []) : c.takeBreak = none := by
  unfold takeBreak
  rw [hc]

end Cursor

namespace Scanner

variable {s : Scanner}

/-- The scanner comes to the end of a bare line. -/
theorem skipInLine_rest {mark spaces comment rest : List Char}
    (hline : BareLine mark spaces comment) (hrest : endsLine rest = true)
    (hs : s.cursor.rest = mark ++ (spaces ++ (comment ++ rest))) (hcolumn : s.cursor.column = 0)
    (hkey : s.keyAllowed = true) (hflow : s.flowKeys = []) : s.skipInLine.rest = rest := by
  have htabs : (s.inFlow || !s.keyAllowed) = false := by
    simp [inFlow, hkey, hflow]
  have hmark : s.cursor.skipByteOrderMark.rest = spaces ++ (comment ++ rest) :=
    Cursor.skipByteOrderMark_rest hline.marked (hline.head_ne_mark hrest) hs hcolumn
  have hspaces := hline.dropWhile_spaces hrest
  unfold skipInLine
  simp only [htabs, hmark, hspaces]
  have hcomment : ∀ x ∈ comment, isBreak x = false := fun x hx => (hline.readable x hx).2
  exact Cursor.skipComment_rest hline.signed hcomment hrest (Cursor.moveTo_rest hmark)

/-- The scanner comes to the end of commentary. -/
theorem skipToToken_of_commentary {fuel : Nat} {cs : List Char} (hcs : Commentary cs)
    (hfuel : cs.length < fuel) (hs : s.cursor.rest = cs) (hcolumn : s.cursor.column = 0)
    (hkey : s.keyAllowed = true) (hflow : s.flowKeys = []) :
    ∃ c : Cursor, c.rest = [] ∧ skipToToken fuel s = { s with cursor := c } := by
  -- a line is left behind at each step, and with a carriage return the line feed after it
  induction fuel generalizing cs s with
  | zero => omega
  | succ fuel ih =>
    cases hcs with
    | @last mark spaces comment hline =>
      have hend : s.skipInLine.rest = [] :=
        skipInLine_rest hline rfl (by rw [hs, List.append_nil]) hcolumn hkey hflow
      refine ⟨s.skipInLine, hend, ?_⟩
      rw [skipToToken, Cursor.takeBreak_of_nil hend]
    | @line mark spaces comment rest b hline hbreak hrest =>
      have hend : s.skipInLine.rest = b :: rest :=
        skipInLine_rest hline hbreak hs hcolumn hkey hflow
      obtain ⟨x, next, hnext, hstart, hafter⟩ := Cursor.takeBreak_of_isBreak hbreak hend
      have hlater : skipToToken (fuel + 1) s = skipToToken fuel { s with cursor := next } := by
        rw [skipToToken, hnext]
        simp [hkey]
      have hcommentary : Commentary next.rest := by
        obtain hafter | hafter := hafter
        · rwa [hafter]
        · rw [hafter] at hrest
          exact hrest.of_cons_break (by decide)
      have hlength : next.rest.length < fuel := by
        have hshorter : next.rest.length ≤ rest.length := by
          obtain hafter | hafter := hafter
          · exact Nat.le_of_eq (congrArg List.length hafter)
          · rw [hafter]
            simp
        simp only [List.length_append, List.length_cons] at hfuel
        omega
      rw [hlater]
      -- the next line starts with the same scanner but for its cursor
      exact ih (s := { s with cursor := next }) hcommentary hlength rfl hstart hkey hflow

/-- Without indentation no block is open that could be closed. -/
theorem closeBlocks_of_fresh {c : Cursor} {column : Int} (h : -1 ≤ column) :
    closeBlocks { cursor := c } column = { cursor := c } := by
  have hopen : ¬column < -1 := by omega
  show closeBlocks.go column { cursor := c } [] = { cursor := c }
  rw [closeBlocks.go]
  exact if_neg hopen

/-- Commentary has no tokens. -/
theorem run?_of_commentary {fuel : Nat} {cs : List Char} (hcs : Commentary cs) :
    (run? (fuel + 1) { cursor := { rest := cs } }).map (·.tokens) = some [.ended] := by
  obtain ⟨c, hrest, hskip⟩ := skipToToken_of_commentary (s := { cursor := { rest := cs } }) hcs
    (Nat.lt_succ_self _) rfl rfl rfl rfl
  have hfuel : (Cursor.fuel { rest := cs }) = cs.length + 1 := rfl
  have hstale : dropStaleKeys? { cursor := c } = some { cursor := c } := rfl
  have hclosed : closeBlocks { cursor := c } c.column = { cursor := c } :=
    closeBlocks_of_fresh (by omega)
  have hrun : run? (fuel + 1) { cursor := { rest := cs } } = finish? { cursor := c } := by
    rw [run?, hfuel, hskip, hstale]
    simp [hclosed, hrest]
  rw [hrun, finish?, closeBlocks_of_fresh (by omega)]
  rfl

end Scanner

/-! ## No tokens, no value -/

theorem Token.ofText?_of_commentary {cs : List Char} (h : Commentary cs) :
    Token.ofText? cs = some [.ended] := by
  have hreadable : cs.all isReadable = true := List.all_eq_true.mpr h.readable
  have htokens : (Scanner.run? (cs.length + 1 + 1) { cursor := { rest := cs } }).map (·.tokens) =
      some [.ended] := Scanner.run?_of_commentary h
  unfold Token.ofText?
  rw [if_pos hreadable]
  show (Scanner.run? (cs.length + 1 + 1) { cursor := { rest := cs } }).map
    (fun s => s.tokens.reverse) = some [.ended]
  cases hrun : Scanner.run? (cs.length + 1 + 1) { cursor := { rest := cs } } with
  | none =>
    rw [hrun] at htokens
    cases htokens
  | some s =>
    rw [hrun] at htokens
    have hlast : s.tokens = [.ended] := Option.some.inj htokens
    simp [hlast]

/-- **Commentary writes null**: a text of blank lines and comments, the empty text among them, is a
document whose value is null. -/
theorem Value.ofText?_of_commentary {text : String} (h : Commentary text.toList) :
    Value.ofText? text = some .null := by
  unfold Value.ofText? Document.ofText?
  rw [Token.ofText?_of_commentary h]
  rfl

end RpcGuard.Yaml
