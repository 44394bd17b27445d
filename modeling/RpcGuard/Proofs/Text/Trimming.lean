import RpcGuard.Text.Blank

/-!
# Trimming

Trimming finds the one part of a text that has no white space at its ends and nothing but white
space around it: `trimChars_padded` says that it finds such a part, `exists_padding` that there
always is one.
-/

namespace RpcGuard.Text

/-- Nothing but white space. -/
def Blank (cs : List Char) : Prop := ∀ c ∈ cs, isBlank c = true

/-- No white space at either end. -/
structure Trimmed (cs : List Char) : Prop where
  head : ∀ c ∈ cs.head?, isBlank c = false
  last : ∀ c ∈ cs.getLast?, isBlank c = false

/-- A text without white space has none at its ends. -/
theorem trimmed_of_solid {cs : List Char} (hsolid : ∀ c ∈ cs, isBlank c = false) : Trimmed cs where
  head c hc := hsolid c (List.mem_of_mem_head? hc)
  last c hc := hsolid c (List.mem_of_mem_getLast? hc)

theorem blank_nil : Blank [] := by
  intro c hc
  cases hc

theorem Blank.append {cs ds : List Char} (hc : Blank cs) (hd : Blank ds) : Blank (cs ++ ds) := by
  intro c h
  rcases List.mem_append.mp h with h | h
  · exact hc c h
  · exact hd c h

theorem Blank.reverse {cs : List Char} (h : Blank cs) : Blank cs.reverse :=
  fun c hc => h c (List.mem_reverse.mp hc)

theorem blank_takeWhile (cs : List Char) : Blank (cs.takeWhile isBlank) :=
  fun _ hc => List.all_eq_true.mp List.all_takeWhile _ hc

/-- Skipping white space stops where the text has none in front. -/
theorem dropWhile_blank_append {before rest : List Char} (hb : Blank before)
    (hr : ∀ c ∈ rest.head?, isBlank c = false) : (before ++ rest).dropWhile isBlank = rest := by
  rw [List.dropWhile_append_of_pos hb]
  cases rest with
  | nil => rfl
  | cons c rest =>
    refine List.dropWhile_cons_of_neg ?_
    rw [hr c rfl]
    exact Bool.false_ne_true

theorem dropWhile_blank {cs : List Char} (h : Blank cs) : cs.dropWhile isBlank = [] := by
  have hdrop : (cs ++ []).dropWhile isBlank = [] :=
    dropWhile_blank_append h (fun c hc => by cases hc)
  rwa [List.append_nil] at hdrop

/-- Trimming finds the part that has no white space at its ends. -/
theorem trimChars_padded {before mid after : List Char} (hb : Blank before) (hm : Trimmed mid)
    (ha : Blank after) : trimChars (before ++ mid ++ after) = mid := by
  unfold trimChars
  cases mid with
  | nil =>
    rw [List.append_nil, dropWhile_blank (hb.append ha)]
    rfl
  | cons c rest =>
    have hfront : (before ++ (c :: rest) ++ after).dropWhile isBlank = (c :: rest) ++ after := by
      rw [List.append_assoc]
      exact dropWhile_blank_append hb hm.head
    have hback : ((c :: rest) ++ after).reverse.dropWhile isBlank = (c :: rest).reverse := by
      rw [List.reverse_append]
      refine dropWhile_blank_append ha.reverse ?_
      rw [List.head?_reverse]
      exact hm.last
    rw [hfront, hback, List.reverse_reverse]

theorem Trimmed.trimChars_eq {cs : List Char} (h : Trimmed cs) : trimChars cs = cs := by
  have hpadded := trimChars_padded blank_nil h blank_nil
  rwa [List.nil_append, List.append_nil] at hpadded

/-- The first character after skipping white space is none. -/
theorem head_dropWhile_blank (cs : List Char) :
    ∀ c ∈ (cs.dropWhile isBlank).head?, isBlank c = false := by
  intro c hc
  have h := List.head?_dropWhile_not isBlank cs
  rw [Option.mem_def.mp hc] at h
  exact h

/-- Every text is its trimmed part with white space around it. -/
theorem exists_padding (cs : List Char) :
    ∃ before after, Blank before ∧ Blank after ∧ Trimmed (trimChars cs) ∧
      cs = before ++ trimChars cs ++ after := by
  have hmid : cs.dropWhile isBlank =
      trimChars cs ++ ((cs.dropWhile isBlank).reverse.takeWhile isBlank).reverse := by
    unfold trimChars
    rw [← List.reverse_append, List.takeWhile_append_dropWhile, List.reverse_reverse]
  refine ⟨cs.takeWhile isBlank, ((cs.dropWhile isBlank).reverse.takeWhile isBlank).reverse,
    blank_takeWhile cs, (blank_takeWhile _).reverse, ⟨?_, ?_⟩, ?_⟩
  · intro c hc
    refine head_dropWhile_blank cs c ?_
    rw [hmid, List.head?_append, Option.mem_def.mp hc]
    rfl
  · unfold trimChars
    rw [List.getLast?_reverse]
    exact head_dropWhile_blank _
  · rw [List.append_assoc, ← hmid, List.takeWhile_append_dropWhile]

theorem trimmed_trimChars (cs : List Char) : Trimmed (trimChars cs) := by
  obtain ⟨-, -, -, -, htrimmed, -⟩ := exists_padding cs
  exact htrimmed

/-- Of a blank text, and of no other, nothing is left. -/
theorem trimChars_eq_nil_iff {cs : List Char} : trimChars cs = [] ↔ Blank cs := by
  constructor
  · intro h
    obtain ⟨before, after, hbefore, hafter, -, hcs⟩ := exists_padding cs
    rw [hcs, h, List.append_nil]
    exact hbefore.append hafter
  · intro h
    unfold trimChars
    rw [dropWhile_blank h]
    rfl

/-- Trimming takes away nothing but white space. -/
theorem filter_trimChars (cs : List Char) :
    (trimChars cs).filter (fun c => !isBlank c) = cs.filter fun c => !isBlank c := by
  obtain ⟨before, after, hbefore, hafter, -, hcs⟩ := exists_padding cs
  have hnone : ∀ ds, Blank ds → ds.filter (fun c => !isBlank c) = [] := fun ds hds =>
    List.filter_eq_nil_iff.mpr fun c hc => by simp [hds c hc]
  conv => rhs; rw [hcs]
  rw [List.filter_append, List.filter_append, hnone before hbefore, hnone after hafter,
    List.append_nil, List.nil_append]

theorem Trimmed.not_blank {cs : List Char} (h : Trimmed cs) (hne : cs ≠ []) : ¬ Blank cs := by
  intro hblank
  obtain ⟨c, ds, rfl⟩ := List.exists_cons_of_ne_nil hne
  cases (hblank c List.mem_cons_self).symm.trans (h.head c rfl)

/-- What counts is not blank. -/
theorem not_blank_of_nonBlank {s : Option String} {t : String} (h : nonBlank s = some t) :
    ¬ Blank t.toList := by
  obtain ⟨hmap, hne⟩ := Option.filter_eq_some_iff.mp h
  obtain ⟨u, -, rfl⟩ := Option.map_eq_some_iff.mp hmap
  rw [trim, String.toList_ofList]
  refine (trimmed_trimChars _).not_blank fun hnil => ?_
  rw [trim, hnil] at hne
  exact absurd hne (by decide)

/-- A text of which something is left counts, without the white space around it. -/
theorem nonBlank_some {s : String} (h : trimChars s.toList ≠ []) :
    nonBlank (some s) = some (trim s) := by
  have hne : (trim s).isEmpty = false := by
    rw [Bool.eq_false_iff, ne_eq, String.isEmpty_iff, trim, String.ofList_eq_empty_iff]
    exact h
  show (some (trim s)).filter (fun t => !t.isEmpty) = _
  rw [Option.filter_some, hne]
  rfl

end RpcGuard.Text
