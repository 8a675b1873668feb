import CrateGen.Proofs.Text.Flush

namespace CrateGen.Text

section Split

variable {α : Type} [BEq α] {sep : α} {as bs : List α} {before rest : List (List α)}
  {last first : List α}

theorem splitAt_ne_nil (sep : α) (as : List α) : splitAt sep as ≠ [] := by
  unfold splitAt
  split
  · exact List.cons_ne_nil _ _
  · split
    · exact List.cons_ne_nil _ _
    · split <;> exact List.cons_ne_nil _ _

theorem splitAt_of_eq {a : α} (ha : (a == sep) = true) (as : List α) :
    splitAt sep (a :: as) = [] :: splitAt sep as := by
  rw [splitAt, if_pos ha]

theorem splitAt_of_ne {a : α} (ha : ¬(a == sep) = true) (h : splitAt sep as = first :: rest) :
    splitAt sep (a :: as) = (a :: first) :: rest := by
  rw [splitAt, if_neg ha, h]

/-- The last piece of a list and the first one of what is put behind it become one piece. -/
theorem splitAt_join (h : splitAt sep as = before ++ [last])
    (h' : splitAt sep bs = first :: rest) :
    splitAt sep (as ++ bs) = before ++ (last ++ first) :: rest := by
  induction as generalizing before last with
  | nil =>
    rw [splitAt, List.singleton_eq_append_iff] at h
    obtain ⟨rfl, h⟩ | ⟨-, h⟩ := h
    · cases h
      exact h'
    · cases h
  | cons a as ih =>
    obtain ⟨piece, pieces, hp⟩ := List.exists_cons_of_ne_nil (splitAt_ne_nil sep as)
    by_cases ha : (a == sep) = true
    · rw [splitAt_of_eq ha] at h
      cases before with
      | nil => exact absurd (List.cons.inj h).2 (splitAt_ne_nil sep as)
      | cons b before =>
        obtain ⟨rfl, hrest⟩ := List.cons.inj h
        rw [List.cons_append, splitAt_of_eq ha, ih hrest]
        rfl
    · rw [splitAt_of_ne ha hp] at h
      cases before with
      | nil =>
        obtain ⟨rfl, rfl⟩ := List.cons.inj h
        have hrest : splitAt sep (as ++ bs) = (piece ++ first) :: rest := @ih [] piece hp
        rw [List.cons_append, splitAt_of_ne ha hrest]
        rfl
      | cons b before =>
        obtain ⟨rfl, rfl⟩ := List.cons.inj h
        have hrest : splitAt sep (as ++ bs) = piece :: (before ++ (last ++ first) :: rest) :=
          @ih (piece :: before) last hp
        rw [List.cons_append, splitAt_of_ne ha hrest]
        rfl

theorem intercalate_splitAt [LawfulBEq α] (sep : α) (as : List α) :
    [sep].intercalate (splitAt sep as) = as := by
  induction as with
  | nil => rfl
  | cons a as ih =>
    obtain ⟨first, rest, hp⟩ := List.exists_cons_of_ne_nil (splitAt_ne_nil sep as)
    rw [hp] at ih
    by_cases ha : (a == sep) = true
    · rw [splitAt_of_eq ha, hp, List.intercalate_cons_cons, ih, eq_of_beq ha]
      rfl
    · rw [splitAt_of_ne ha hp]
      cases rest with
      | nil =>
        rw [List.intercalate_singleton] at ih ⊢
        rw [ih]
      | cons next rest =>
        rw [List.intercalate_cons_cons] at ih ⊢
        rw [List.cons_append, List.cons_append, ih]

theorem not_mem_of_mem_splitAt [LawfulBEq α] {piece : List α} (h : piece ∈ splitAt sep as) :
    sep ∉ piece := by
  induction as generalizing piece with
  | nil =>
    rw [splitAt, List.mem_singleton] at h
    rw [h]
    exact List.not_mem_nil
  | cons a as ih =>
    by_cases ha : (a == sep) = true
    · rw [splitAt_of_eq ha] at h
      rcases List.mem_cons.mp h with rfl | h
      · exact List.not_mem_nil
      · exact ih h
    · obtain ⟨first, rest, hp⟩ := List.exists_cons_of_ne_nil (splitAt_ne_nil sep as)
      rw [splitAt_of_ne ha hp] at h
      rw [hp] at ih
      rcases List.mem_cons.mp h with rfl | h
      · rw [List.mem_cons, not_or]
        exact ⟨fun he => ha (beq_iff_eq.mpr he.symm), ih List.mem_cons_self⟩
      · exact ih (List.mem_cons_of_mem _ h)

end Split

variable {s t last first : String} {before rest : List String}

theorem lines_ne_nil (s : String) : lines s ≠ [] := by
  unfold lines
  rw [ne_eq, List.map_eq_nil_iff]
  exact splitAt_ne_nil '\n' s.toList

theorem splitAt_toList (s : String) : splitAt '\n' s.toList = (lines s).map String.toList := by
  unfold lines
  rw [List.map_map]
  exact (List.map_id'' (fun l => String.toList_ofList) _).symm

theorem noBreak_of_mem_lines {l : String} (h : l ∈ lines s) : '\n' ∉ l.toList := by
  have hpiece : l.toList ∈ splitAt '\n' s.toList := by
    rw [splitAt_toList]
    exact List.mem_map_of_mem h
  exact not_mem_of_mem_splitAt hpiece

theorem lines_append (h : lines s = before ++ [last]) (h' : lines t = first :: rest) :
    lines (s ++ t) = before ++ (last ++ first) :: rest := by
  have hs := splitAt_toList s
  have ht := splitAt_toList t
  rw [h, List.map_append, List.map_singleton] at hs
  rw [h', List.map_cons] at ht
  have hst := splitAt_join hs ht
  unfold lines
  rw [String.toList_append, hst, ← String.toList_append, List.map_append, List.map_cons]
  simp only [List.map_map, Function.comp_def, String.ofList_toList, List.map_id']

theorem exists_last_line (s : String) : ∃ before last, lines s = before ++ [last] :=
  ⟨_, _, (List.dropLast_append_getLast (lines_ne_nil s)).symm⟩

theorem lines_newline (s t : String) : lines (s ++ "\n" ++ t) = lines s ++ lines t := by
  obtain ⟨before, last, hs⟩ := exists_last_line s
  obtain ⟨first, rest, ht⟩ := List.exists_cons_of_ne_nil (lines_ne_nil t)
  have hbreak : lines ("\n" ++ t) = "" :: lines t := by
    have h : lines "\n" = [""] ++ [""] := by decide
    rw [lines_append h ht, String.empty_append, ht]
    rfl
  rw [String.append_assoc, lines_append hs hbreak, String.append_empty, hs, ht, List.append_assoc]
  rfl

theorem lines_ended (s : String) : lines (s ++ "\n") = lines s ++ [""] := by
  rw [← String.append_empty (s := s ++ "\n"), lines_newline]
  rfl

theorem lines_gap (s t : String) : lines (s ++ "\n\n" ++ t) = lines s ++ "" :: lines t := by
  have hgap : s ++ "\n\n" ++ t = s ++ "\n" ++ ("" ++ "\n" ++ t) := by
    rw [String.empty_append, ← String.append_assoc, @String.append_assoc s "\n" "\n"]
    rfl
  rw [hgap, lines_newline, lines_newline]
  rfl

theorem lines_unlines {ls : List String} (hne : ls ≠ []) (h : ∀ l ∈ ls, '\n' ∉ l.toList) :
    lines (unlines ls) = ls := by
  obtain ⟨first, rest, rfl⟩ := List.exists_cons_of_ne_nil hne
  unfold lines
  rw [splitAt_unlines h, List.map_map]
  exact List.map_id'' (fun l => String.ofList_toList) _

theorem lines_of_noBreak (h : '\n' ∉ s.toList) : lines s = [s] := by
  unfold lines
  rw [splitAt_of_notMem h, List.map_singleton, String.ofList_toList]

theorem unlines_lines (s : String) : unlines (lines s) = s := by
  apply String.toList_inj.mp
  unfold unlines
  rw [String.toList_intercalate, ← splitAt_toList]
  exact intercalate_splitAt '\n' s.toList

/-- Between separators that end lines, a text keeps its lines. -/
theorem lines_infix_intercalate {sep : String} {ls : List String}
    (hsep : ∀ s t, ∃ gap, lines (s ++ sep ++ t) = lines s ++ gap ++ lines t) (hs : s ∈ ls) :
    lines s <:+: lines (sep.intercalate ls) := by
  induction ls with
  | nil => cases hs
  | cons a rest ih =>
    cases rest with
    | nil =>
      refine ⟨[], [], ?_⟩
      rw [List.nil_append, List.append_nil, List.mem_singleton.mp hs,
        String.intercalate_singleton]
    | cons b rest =>
      obtain ⟨gap, hgap⟩ := hsep a (sep.intercalate (b :: rest))
      rw [String.intercalate_cons_cons, hgap]
      rcases List.mem_cons.mp hs with rfl | hs
      · rw [List.append_assoc]
        exact (List.prefix_append _ _).isInfix
      · exact (ih hs).trans (List.suffix_append _ _).isInfix

theorem lines_infix_unlines {ls : List String} (hs : s ∈ ls) :
    lines s <:+: lines (unlines ls) :=
  lines_infix_intercalate (fun s t => ⟨[], by rw [lines_newline, List.append_nil]⟩) hs

theorem ne_empty_of_lines_infix (h : lines s <:+: lines t) (hs : s ≠ "") : t ≠ "" := by
  rintro rfl
  obtain ⟨first, rest, hlines⟩ := List.exists_cons_of_ne_nil (lines_ne_nil s)
  rw [hlines] at h
  have hfirst : first = "" := List.mem_singleton.mp (h.subset List.mem_cons_self)
  have hrest : rest = [] :=
    List.eq_nil_of_length_eq_zero (Nat.le_zero.mp (Nat.le_of_succ_le_succ h.length_le))
  rw [hfirst, hrest] at hlines
  apply hs
  rw [← unlines_lines s, hlines]
  rfl

theorem unlines_append (ls : List String) (l : String) :
    unlines (ls ++ [l]) = String.join (ls.map (· ++ "\n")) ++ l := by
  unfold unlines
  induction ls with
  | nil => rw [List.nil_append, String.intercalate_singleton, List.map_nil, String.join_nil,
      String.empty_append]
  | cons a ls ih =>
    have hne : ls ++ [l] ≠ [] := List.append_ne_nil_of_right_ne_nil ls (List.cons_ne_nil l [])
    rw [List.cons_append, String.intercalate_cons_of_ne_nil hne, ih, List.map_cons,
      String.join_cons]
    simp only [String.append_assoc]

theorem unlines_cons (l : String) (ls : List String) :
    unlines (l :: ls) = l ++ String.join (ls.map ("\n" ++ ·)) := by
  unfold unlines
  induction ls generalizing l with
  | nil => rw [String.intercalate_singleton, List.map_nil, String.join_nil, String.append_empty]
  | cons a ls ih =>
    rw [String.intercalate_cons_cons, ih, List.map_cons, String.join_cons, String.append_assoc,
      String.append_assoc]

theorem isBlankText_append (s t : String) :
    isBlankText (s ++ t) = (isBlankText s && isBlankText t) := by
  unfold isBlankText
  rw [String.toList_append, List.all_append]

theorem isBlankText_unlines (ls : List String) :
    isBlankText (unlines ls) = ls.all isBlankText := by
  have hjoin (ls : List String) :
      isBlankText (String.join (ls.map ("\n" ++ ·))) = ls.all isBlankText := by
    induction ls with
    | nil => rfl
    | cons l ls ih =>
      rw [List.map_cons, String.join_cons, isBlankText_append, isBlankText_append, ih]
      rfl
  cases ls with
  | nil => rfl
  | cons l ls =>
    rw [unlines_cons, isBlankText_append, hjoin]
    rfl

theorem dropTrailing_append {α : Type} {p : α → Bool} {as bs : List α} (hne : as ≠ [])
    (h : as.getLast?.any p = false) : dropTrailing p (as ++ bs) = as ++ dropTrailing p bs := by
  induction as with
  | nil => exact absurd rfl hne
  | cons a as ih =>
    cases as with
    | nil =>
      have ha : p a = false := h
      rw [List.singleton_append, dropTrailing]
      cases dropTrailing p bs with
      | nil => simp only [ha, Bool.false_eq_true, ↓reduceIte, List.append_nil]
      | cons b bs => rfl
    | cons a' as =>
      rw [List.cons_append, dropTrailing, ih (List.cons_ne_nil a' as)
        (by rwa [List.getLast?_cons_cons] at h)]
      rfl

theorem dropTrailing_newline (p : Char → Bool) (cs : List Char) :
    dropTrailing p ('\n' :: cs) = [] ∨ ∃ rest, dropTrailing p ('\n' :: cs) = '\n' :: rest := by
  rw [dropTrailing]
  cases dropTrailing p cs with
  | nil =>
    cases p '\n' with
    | true => exact .inl rfl
    | false => exact .inr ⟨[], rfl⟩
  | cons c cs => exact .inr ⟨_, rfl⟩

/-- Lines down to one that ends in what is kept are kept. What is left of those behind it is the
same whatever stands before. -/
theorem lines_dropTrailing (p : Char → Bool) (after : List String) :
    ∃ after', ∀ {s l : String} {before : List String}, lines s = before ++ l :: after → l ≠ "" →
      l.toList.getLast?.any p = false →
      lines (.ofList (dropTrailing p s.toList)) = before ++ l :: after' := by
  -- Dropping stops behind the line that is kept, so the text is cut there.
  have hcut {s l : String} {before : List String} (h : lines s = before ++ l :: after)
      (hne : l ≠ "") (hl : l.toList.getLast?.any p = false) :
      lines (unlines (before ++ [l])) = before ++ [l] ∧ (unlines (before ++ [l])).toList ≠ [] ∧
        (unlines (before ++ [l])).toList.getLast?.any p = false := by
    have hne' : l.toList ≠ [] := by
      rwa [ne_eq, String.toList_eq_nil_iff]
    refine ⟨lines_unlines (List.append_ne_nil_of_right_ne_nil before (List.cons_ne_nil l [])) ?_,
      ?_, ?_⟩
    · intro l' hl'
      apply noBreak_of_mem_lines (s := s)
      rw [h, List.append_cons]
      exact List.mem_append_left _ hl'
    · rw [unlines_append, String.toList_append]
      exact List.append_ne_nil_of_right_ne_nil _ hne'
    · rw [unlines_append, String.toList_append, List.getLast?_append_of_ne_nil _ hne']
      exact hl
  cases after with
  | nil =>
    refine ⟨[], fun {s l before} h hne hl => ?_⟩
    obtain ⟨hlines, -, hlast⟩ := hcut h hne hl
    rw [← unlines_lines s, h, dropTrailing_of_getLast hlast, String.ofList_toList]
    exact hlines
  | cons a after =>
    have hs {s l : String} {before : List String} (h : lines s = before ++ l :: a :: after) :
        s.toList = (unlines (before ++ [l])).toList ++ '\n' :: (unlines (a :: after)).toList := by
      have hne : before ++ [l] ≠ [] :=
        List.append_ne_nil_of_right_ne_nil before (List.cons_ne_nil l [])
      have hsplit : s = unlines (before ++ [l]) ++ "\n" ++ unlines (a :: after) := by
        rw [unlines, unlines,
          ← String.intercalate_append_of_ne_nil hne (List.cons_ne_nil a after), ← unlines,
          List.append_assoc, List.singleton_append, ← h, unlines_lines]
      rw [hsplit, String.toList_append, String.toList_append, List.append_assoc]
      rfl
    rcases dropTrailing_newline p (unlines (a :: after)).toList with hnil | ⟨rest, hrest⟩
    · refine ⟨[], fun {s l before} h hne hl => ?_⟩
      obtain ⟨hlines, hne', hlast⟩ := hcut h hne hl
      rw [hs h, dropTrailing_append hne' hlast, hnil, List.append_nil, String.ofList_toList]
      exact hlines
    · refine ⟨lines (.ofList rest), fun {s l before} h hne hl => ?_⟩
      obtain ⟨hlines, hne', hlast⟩ := hcut h hne hl
      have hjoin : String.ofList ((unlines (before ++ [l])).toList ++ '\n' :: rest) =
          unlines (before ++ [l]) ++ "\n" ++ .ofList rest := by
        apply String.toList_inj.mp
        simp only [String.toList_append, String.toList_ofList, List.append_assoc]
        rfl
      rw [hs h, dropTrailing_append hne' hlast, hrest, hjoin, lines_newline, hlines,
        List.append_assoc]
      rfl

/-- Lines down to one that ends in ink are not trimmed. -/
theorem lines_trimEnd (after : List String) :
    ∃ after', ∀ {s l : String} {before : List String}, lines s = before ++ l :: after →
      endsFlush l = true → lines (trimEnd s) = before ++ l :: after' := by
  obtain ⟨after', hdrop⟩ := lines_dropTrailing isBlank after
  refine ⟨after', fun {s l before} h hl => hdrop h ?_ (any_blank_of_endsFlush hl)⟩
  rintro rfl
  cases hl

end CrateGen.Text
