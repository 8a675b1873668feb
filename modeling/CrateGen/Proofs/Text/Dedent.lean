import CrateGen.Proofs.Text.Lines
import Mathlib.Data.List.Forall2

/-!
What dedenting does to a text. It takes one blank line off either end, the indentation that all
lines share off every line, and the blanks off the end of every line. Nothing else is lost, and how
far the text as a whole was indented does not matter.
-/

namespace CrateGen.Text

/-! ## Blanks at the ends of a line -/

section

variable {α : Type} {p : α → Bool} {a : α} {as bs : List α}

theorem dropTrailing_cons (p : α → Bool) (a : α) (as : List α) :
    dropTrailing p (a :: as) = if (a :: as).all p then [] else a :: dropTrailing p as := by
  induction as generalizing a with
  | nil => cases ha : p a <;> simp [dropTrailing, ha]
  | cons b as ih =>
    rw [dropTrailing, ih b, List.all_cons (a := a)]
    cases hall : (b :: as).all p with
    | true => cases ha : p a <;> simp
    | false => simp

theorem dropTrailing_eq_nil : dropTrailing p as = [] ↔ as.all p = true := by
  cases as with
  | nil => simp [dropTrailing]
  | cons a as =>
    rw [dropTrailing_cons]
    cases (a :: as).all p <;> simp

/-- In front of what is not dropped altogether, everything is kept. -/
theorem dropTrailing_append_of_not_all (h : bs.all p = false) :
    dropTrailing p (as ++ bs) = as ++ dropTrailing p bs := by
  induction as with
  | nil => rfl
  | cons a as ih =>
    have hall : (a :: (as ++ bs)).all p = false := by
      rw [List.all_cons, List.all_append, h, Bool.and_false, Bool.and_false]
    rw [List.cons_append, dropTrailing_cons, hall, ih]
    rfl

theorem getLast?_dropTrailing (p : α → Bool) (as : List α) :
    (dropTrailing p as).getLast?.any p = false := by
  induction as with
  | nil => rfl
  | cons a as ih =>
    rw [dropTrailing]
    cases hrest : dropTrailing p as with
    | nil => cases ha : p a <;> simp [ha]
    | cons b rest =>
      rw [hrest] at ih
      simpa using ih

theorem mem_of_mem_dropTrailing (h : a ∈ dropTrailing p as) : a ∈ as := by
  induction as with
  | nil => exact h
  | cons b as ih =>
    rw [dropTrailing_cons] at h
    split at h
    · cases h
    · rcases List.mem_cons.mp h with rfl | h
      · exact List.mem_cons_self
      · exact List.mem_cons_of_mem _ (ih h)

/-- It does not matter which end is cleared first. -/
theorem dropTrailing_dropWhile (p : α → Bool) (as : List α) :
    dropTrailing p (as.dropWhile p) = (dropTrailing p as).dropWhile p := by
  induction as with
  | nil => rfl
  | cons a as ih =>
    cases ha : p a with
    | true =>
      rw [List.dropWhile_cons_of_pos ha, ih, dropTrailing_cons]
      split
      · next hall =>
        rw [List.all_cons, ha, Bool.true_and] at hall
        rw [dropTrailing_eq_nil.mpr hall]
      · rw [List.dropWhile_cons_of_pos ha]
    | false =>
      have hall : (a :: as).all p = false := by
        rw [List.all_cons, ha, Bool.false_and]
      have hpos : ¬p a = true := by simp [ha]
      rw [List.dropWhile_cons_of_neg hpos, dropTrailing_cons, hall]
      exact (List.dropWhile_cons_of_neg hpos).symm

end

/-! ## A line -/

section

variable {indent : Nat} {l rest : List Char} {ls : List (List Char)}

/-- Within the indentation of a line only blanks are cut. -/
theorem dropBytes?_of_le (h : indent ≤ indentWidth l) (hrest : dropBytes? indent l = some rest) :
    ∃ margin, l = margin ++ rest ∧ margin.all isBlank = true ∧ indentWidth margin = indent := by
  induction l generalizing indent with
  | nil =>
    cases Nat.le_zero.mp h
    cases hrest
    exact ⟨[], rfl, rfl, rfl⟩
  | cons c l ih =>
    cases indent with
    | zero =>
      cases hrest
      exact ⟨[], rfl, rfl, rfl⟩
    | succ n =>
      rw [indentWidth] at h
      rw [dropBytes?] at hrest
      split at hrest
      · next hsize =>
        split at h
        · next hc =>
          obtain ⟨margin, hl, hmargin, hwidth⟩ := ih (by omega) hrest
          refine ⟨c :: margin, by rw [hl, List.cons_append], ?_, ?_⟩
          · rw [List.all_cons, hc, hmargin, Bool.and_true]
          · rw [indentWidth, if_pos hc, hwidth]
            omega
        · omega
      · cases hrest

/-- The whole indentation of a line ends where a character starts. -/
theorem dropBytes?_indentWidth (l : List Char) :
    dropBytes? (indentWidth l) l = some (l.dropWhile isBlank) := by
  induction l with
  | nil => rfl
  | cons c l ih =>
    rw [indentWidth, List.dropWhile_cons]
    cases hc : isBlank c with
    | true =>
      obtain ⟨n, hn⟩ := Nat.exists_eq_succ_of_ne_zero (Nat.ne_of_gt (Char.utf8Size_pos c))
      rw [if_pos rfl, if_pos rfl, hn, Nat.succ_add, dropBytes?, if_pos (by omega), hn, ← ih]
      congr 1
      omega
    | false => rfl

theorem dedentLine_margin (hall : l.all isBlank = false) (h : indent ≤ indentWidth l) :
    ∃ margin, dropTrailing isBlank l = margin ++ dedentLine indent l ∧
      margin.all isBlank = true ∧
      (indentWidth margin = indent ∨
        dropBytes? indent l = none ∧ margin = l.takeWhile isBlank) := by
  obtain ⟨margin, hl, hmargin, hwidth⟩ : ∃ margin,
      l = margin ++ (dropBytes? indent l).getD (l.dropWhile isBlank) ∧
        margin.all isBlank = true ∧
        (indentWidth margin = indent ∨
          dropBytes? indent l = none ∧ margin = l.takeWhile isBlank) := by
    cases hrest : dropBytes? indent l with
    | some rest =>
      obtain ⟨margin, hl, hmargin, hwidth⟩ := dropBytes?_of_le h hrest
      exact ⟨margin, hl, hmargin, .inl hwidth⟩
    | none =>
      exact ⟨_, List.takeWhile_append_dropWhile.symm, List.all_takeWhile, .inr ⟨rfl, rfl⟩⟩
  refine ⟨margin, ?_, hmargin, hwidth⟩
  have hrest : ((dropBytes? indent l).getD (l.dropWhile isBlank)).all isBlank = false := by
    rwa [hl, List.all_append, hmargin, Bool.true_and] at hall
  rw [dedentLine, hall]
  conv_lhs => rw [hl]
  exact dropTrailing_append_of_not_all hrest

theorem dedentLine_blank (h : l.all isBlank = true) : dedentLine indent l = [] :=
  if_pos h

theorem getLast?_dedentLine (indent : Nat) (l : List Char) :
    (dedentLine indent l).getLast?.any isBlank = false := by
  unfold dedentLine
  split
  · rfl
  · exact getLast?_dropTrailing isBlank _

theorem dropTrailing_dedentLine (indent : Nat) (l : List Char) :
    dropTrailing isBlank (dedentLine indent l) = dedentLine indent l :=
  dropTrailing_of_getLast (getLast?_dedentLine indent l)

theorem exists_ink (h : l.all isBlank = false) :
    ∃ c rest, l.dropWhile isBlank = c :: rest ∧ isBlank c = false := by
  induction l with
  | nil => cases h
  | cons c l ih =>
    cases hc : isBlank c with
    | true =>
      rw [List.all_cons, hc, Bool.true_and] at h
      rw [List.dropWhile_cons_of_pos hc]
      exact ih h
    | false => exact ⟨c, l, List.dropWhile_cons_of_neg (by simp [hc]), hc⟩

theorem head?_dedentLine (h : l.all isBlank = false) :
    (dedentLine (indentWidth l) l).head?.any (!isBlank ·) = true := by
  obtain ⟨c, rest, hl, hc⟩ := exists_ink h
  have hall : (c :: rest).all isBlank = false := by
    rw [List.all_cons, hc, Bool.false_and]
  rw [dedentLine, h, dropBytes?_indentWidth, Option.getD_some, hl, dropTrailing_cons, hall]
  simp [hc]

/-! ## The lines of a text -/

/-- A line behind `n` spaces. Blank lines stay as they are. -/
def shiftLine (n : Nat) (l : List Char) : List Char :=
  if l.all isBlank then l else List.replicate n ' ' ++ l

theorem dropBytes?_spaces (n indent : Nat) (l : List Char) :
    dropBytes? (n + indent) (List.replicate n ' ' ++ l) = dropBytes? indent l := by
  induction n with
  | zero => simp
  | succ n ih =>
    have hsize : ' '.utf8Size = 1 := rfl
    rw [Nat.succ_add, List.replicate_succ, List.cons_append, dropBytes?, hsize,
      if_pos (by omega), ← ih]
    rfl

theorem dropWhile_spaces (n : Nat) (l : List Char) :
    (List.replicate n ' ' ++ l).dropWhile isBlank = l.dropWhile isBlank := by
  induction n with
  | zero => rfl
  | succ n ih =>
    rw [List.replicate_succ, List.cons_append, List.dropWhile_cons_of_pos (by decide), ih]

theorem indentWidth_spaces (n : Nat) (l : List Char) :
    indentWidth (List.replicate n ' ' ++ l) = n + indentWidth l := by
  induction n with
  | zero => simp
  | succ n ih =>
    have hsize : ' '.utf8Size = 1 := rfl
    rw [List.replicate_succ, List.cons_append, indentWidth, if_pos (by decide), ih, hsize]
    omega

theorem all_shiftLine (n : Nat) (l : List Char) :
    (shiftLine n l).all isBlank = l.all isBlank := by
  have hspace : isBlank ' ' = true := rfl
  unfold shiftLine
  split
  · rfl
  · simp [hspace]

theorem dedentLine_shiftLine (n : Nat) (h : l.all isBlank = false) :
    dedentLine (n + indent) (shiftLine n l) = dedentLine indent l := by
  have hshift : shiftLine n l = List.replicate n ' ' ++ l := if_neg (by simp [h])
  unfold dedentLine
  rw [all_shiftLine, h, hshift, dropBytes?_spaces, dropWhile_spaces]

theorem commonIndent_le (hl : l ∈ ls) (h : l.all isBlank = false) :
    commonIndent ls ≤ indentWidth l := by
  have hmem : indentWidth l ∈ (ls.filter (!·.all isBlank)).map indentWidth :=
    List.mem_map_of_mem (List.mem_filter.mpr ⟨hl, by simp [h]⟩)
  unfold commonIndent
  cases hmin : ((ls.filter (!·.all isBlank)).map indentWidth).min? with
  | none => exact Nat.zero_le _
  | some n => exact (List.min?_eq_some_iff.mp hmin).2 _ hmem

theorem exists_commonIndent (hl : l ∈ ls) (h : l.all isBlank = false) :
    ∃ l ∈ ls, l.all isBlank = false ∧ indentWidth l = commonIndent ls := by
  have hmem : indentWidth l ∈ (ls.filter (!·.all isBlank)).map indentWidth :=
    List.mem_map_of_mem (List.mem_filter.mpr ⟨hl, by simp [h]⟩)
  unfold commonIndent
  cases hmin : ((ls.filter (!·.all isBlank)).map indentWidth).min? with
  | none =>
    rw [List.min?_eq_none_iff.mp hmin] at hmem
    cases hmem
  | some n =>
    obtain ⟨l', hl', hwidth⟩ := List.mem_map.mp (List.min?_eq_some_iff.mp hmin).1
    obtain ⟨hl', hall⟩ := List.mem_filter.mp hl'
    exact ⟨l', hl', by simpa using hall, hwidth⟩

theorem commonIndent_shift (n : Nat) (hl : l ∈ ls) (h : l.all isBlank = false) :
    commonIndent (ls.map (shiftLine n)) = n + commonIndent ls := by
  have hwidth (l : List Char) (h : l.all isBlank = false) :
      indentWidth (shiftLine n l) = n + indentWidth l := by
    rw [shiftLine, h]
    exact indentWidth_spaces n l
  have hshift (l : List Char) (h : l.all isBlank = false) :
      (shiftLine n l).all isBlank = false := (all_shiftLine n l).trans h
  apply Nat.le_antisymm
  · obtain ⟨l', hl', hall, hmin⟩ := exists_commonIndent hl h
    rw [← hmin, ← hwidth l' hall]
    exact commonIndent_le (List.mem_map_of_mem hl') (hshift l' hall)
  · obtain ⟨l', hl', hall, hmin⟩ := exists_commonIndent (List.mem_map_of_mem hl) (hshift l h)
    obtain ⟨l', hmem, rfl⟩ := List.mem_map.mp hl'
    rw [all_shiftLine] at hall
    rw [← hmin, hwidth l' hall]
    exact Nat.add_le_add_left (commonIndent_le hmem hall) n

theorem exists_dropBlankFirst (ls : List (List Char)) :
    ∃ first, ls = first ++ dropBlankFirst ls ∧ first.length ≤ 1 ∧
      ∀ l ∈ first, l.all isBlank = true := by
  unfold dropBlankFirst
  split
  · next l next rest =>
    split
    · next hl => exact ⟨[l], rfl, Nat.le_refl 1, by simpa using hl⟩
    · exact ⟨[], rfl, Nat.zero_le 1, by simp⟩
  · exact ⟨[], rfl, Nat.zero_le 1, by simp⟩

theorem exists_dropBlankLast (ls : List (List Char)) :
    ∃ last, ls = dropBlankLast ls ++ last ∧ last.length ≤ 1 ∧
      ∀ l ∈ last, l.all isBlank = true := by
  fun_induction dropBlankLast ls with
  | case1 => exact ⟨[], rfl, Nat.zero_le 1, by simp⟩
  | case2 l => exact ⟨[], rfl, Nat.zero_le 1, by simp⟩
  | case3 l last hlast => exact ⟨[last], rfl, Nat.le_refl 1, by simpa using hlast⟩
  | case4 l last => exact ⟨[], rfl, Nat.zero_le 1, by simp⟩
  | case5 l rest h1 h2 ih =>
    obtain ⟨last, hls, hlast⟩ := ih
    exact ⟨last, by rw [List.cons_append, ← hls], hlast⟩

theorem dropBlankFirst_ne_nil (h : ls ≠ []) : dropBlankFirst ls ≠ [] := by
  unfold dropBlankFirst
  split
  · split <;> simp
  · exact h

theorem dropBlankLast_ne_nil (h : ls ≠ []) : dropBlankLast ls ≠ [] := by
  fun_induction dropBlankLast ls <;> simp_all

theorem dropBlankFirst_map {f : List Char → List Char}
    (hf : ∀ l, (f l).all isBlank = l.all isBlank) (ls : List (List Char)) :
    dropBlankFirst (ls.map f) = (dropBlankFirst ls).map f := by
  match ls with
  | [] => rfl
  | [l] => rfl
  | l :: next :: rest =>
    simp only [List.map_cons, dropBlankFirst, hf]
    split <;> rfl

theorem dropBlankLast_map {f : List Char → List Char}
    (hf : ∀ l, (f l).all isBlank = l.all isBlank) (ls : List (List Char)) :
    dropBlankLast (ls.map f) = (dropBlankLast ls).map f := by
  induction ls with
  | nil => rfl
  | cons l ls ih =>
    match ls with
    | [] => rfl
    | [last] =>
      simp only [List.map_cons, List.map_nil, dropBlankLast, hf]
      split <;> rfl
    | next :: other :: rest => exact congrArg (f l :: ·) ih

end

/-! ## A text -/

variable {s t l l' : String} {indent : Nat}

theorem isBlankText_iff : isBlankText l = true ↔ trim l = "" := by
  rw [isBlankText, trim, String.ofList_eq_empty_iff, dropTrailing_eq_nil]
  conv_lhs => rw [← List.takeWhile_append_dropWhile (p := isBlank) (l := l.toList)]
  rw [List.all_append, List.all_takeWhile, Bool.true_and]

/-- What becomes of a line. Of a blank line nothing is left; others lose the blanks at their end and
the indentation, or all blanks in front if no character starts behind the indentation. -/
structure LineDedented (indent : Nat) (l l' : String) : Prop where
  margin : ∃ margin, trimEnd l = margin ++ l' ∧ isBlankText margin = true ∧
    (isBlankText l = false → indentWidth margin.toList = indent ∨
      dropBytes? indent l.toList = none ∧ margin = leading l)
  blank : isBlankText l = true → l' = ""
  trimmed : trimEnd l' = l'

namespace LineDedented

theorem trim (h : LineDedented indent l l') : Text.trim l' = Text.trim l := by
  obtain ⟨margin, hl, hmargin, -⟩ := h.margin
  have htrim (s : String) : Text.trim s = .ofList ((trimEnd s).toList.dropWhile isBlank) := by
    rw [Text.trim, dropTrailing_dropWhile, trimEnd, String.toList_ofList]
  rw [htrim l, hl, htrim l', h.trimmed, String.toList_append,
    List.dropWhile_append_of_pos fun c hc => List.all_eq_true.mp hmargin c hc]

theorem isBlankText (h : LineDedented indent l l') : Text.isBlankText l' = Text.isBlankText l := by
  rw [Bool.eq_iff_iff, isBlankText_iff, isBlankText_iff, h.trim]

theorem noBreak (h : LineDedented indent l l') (hl : '\n' ∉ l.toList) : '\n' ∉ l'.toList := by
  obtain ⟨margin, hmargin, -⟩ := h.margin
  intro hmem
  apply hl
  apply mem_of_mem_dropTrailing (p := isBlank)
  rw [← String.toList_ofList (l := dropTrailing _ _), ← trimEnd, hmargin, String.toList_append]
  exact List.mem_append_right _ hmem

end LineDedented

/-- The contents of the lines that are not blank, without the blanks around them. -/
def contents (s : String) : List String :=
  ((lines s).filter (!isBlankText ·)).map trim

/-- A text with `n` spaces in front of every line that is not blank. -/
def shift (n : Nat) (s : String) : String :=
  unlines ((lines s).map fun l => .ofList (shiftLine n l.toList))

/-- What becomes of a text. -/
structure Dedented (s t : String) : Prop where
  contents : contents t = contents s
  lines : ∃ first kept last indent, lines s = first ++ kept ++ last ∧
    first.length ≤ 1 ∧ last.length ≤ 1 ∧ (∀ l ∈ first ++ last, isBlankText l = true) ∧
    List.Forall₂ (LineDedented indent) kept (lines t)
  margin : (∃ l ∈ Text.lines s, isBlankText l = false) → ∃ l ∈ Text.lines t, startsFlush l = true

theorem lineDedented (h : isBlankText l = true ∨ indent ≤ indentWidth l.toList) :
    LineDedented indent l (.ofList (dedentLine indent l.toList)) where
  margin := by
    cases hl : isBlankText l with
    | true =>
      refine ⟨"", ?_, rfl, Bool.noConfusion⟩
      rw [trimEnd, dropTrailing_eq_nil.mpr hl, dedentLine_blank hl]
      rfl
    | false =>
      obtain ⟨margin, hmargin, hblank, hwidth⟩ :=
        dedentLine_margin hl (h.resolve_left (by simp [hl]))
      refine ⟨.ofList margin, ?_, ?_, fun _ => ?_⟩
      · rw [trimEnd, hmargin, String.ofList_append]
      · rw [isBlankText, String.toList_ofList, hblank]
      · rw [String.toList_ofList]
        exact hwidth.imp_right fun hm => ⟨hm.1, by rw [hm.2, leading]⟩
  blank hl := by
    rw [dedentLine_blank hl]
  trimmed := by
    rw [trimEnd, String.toList_ofList, dropTrailing_dedentLine]

/-- The lines of a text that dedenting keeps. -/
def keptLines (s : String) : List String :=
  (dropBlankLast (dropBlankFirst (splitAt '\n' s.toList))).map .ofList

/-- The indentation that is taken off a text. -/
def margin (s : String) : Nat :=
  commonIndent ((keptLines s).map String.toList)

theorem toList_keptLines (s : String) :
    (keptLines s).map String.toList = dropBlankLast (dropBlankFirst (splitAt '\n' s.toList)) := by
  rw [keptLines, List.map_map]
  exact List.map_id'' (fun l => String.toList_ofList) _

theorem keptLines_ne_nil (s : String) : keptLines s ≠ [] := by
  rw [keptLines, ne_eq, List.map_eq_nil_iff]
  exact dropBlankLast_ne_nil (dropBlankFirst_ne_nil (splitAt_ne_nil '\n' s.toList))

theorem lines_eq_keptLines (s : String) : ∃ first last,
    lines s = first ++ keptLines s ++ last ∧ first.length ≤ 1 ∧ last.length ≤ 1 ∧
      ∀ l ∈ first ++ last, isBlankText l = true := by
  obtain ⟨first, hfirst, hlen, hblank⟩ := exists_dropBlankFirst (splitAt '\n' s.toList)
  obtain ⟨last, hlast, hlen', hblank'⟩ :=
    exists_dropBlankLast (dropBlankFirst (splitAt '\n' s.toList))
  refine ⟨first.map .ofList, last.map .ofList, ?_, by simpa using hlen, by simpa using hlen', ?_⟩
  · rw [lines, keptLines, List.append_assoc, ← List.map_append, ← hlast, ← List.map_append,
      ← hfirst]
  · intro l hl
    rw [← List.map_append] at hl
    obtain ⟨cs, hcs, rfl⟩ := List.mem_map.mp hl
    rw [isBlankText, String.toList_ofList]
    exact (List.mem_append.mp hcs).elim (hblank cs) (hblank' cs)

theorem lineDedented_of_mem (hl : l ∈ keptLines s) :
    LineDedented (margin s) l (.ofList (dedentLine (margin s) l.toList)) := by
  apply lineDedented
  cases h : isBlankText l with
  | true => exact .inl rfl
  | false => exact .inr (commonIndent_le (List.mem_map_of_mem hl) h)

theorem lines_dedent (s : String) : lines (dedent s) =
    (keptLines s).map fun l => .ofList (dedentLine (margin s) l.toList) := by
  have hlines : dedent s =
      unlines ((keptLines s).map fun l => .ofList (dedentLine (margin s) l.toList)) := by
    rw [dedent, margin, toList_keptLines, keptLines, List.map_map, List.map_map]
    simp only [Function.comp_def, String.toList_ofList]
  rw [hlines, lines_unlines]
  · simpa using keptLines_ne_nil s
  · intro l' hl'
    obtain ⟨l, hl, rfl⟩ := List.mem_map.mp hl'
    obtain ⟨first, last, hs, -⟩ := lines_eq_keptLines s
    apply (lineDedented_of_mem hl).noBreak
    apply noBreak_of_mem_lines (s := s)
    rw [hs]
    exact List.mem_append_left _ (List.mem_append_right _ hl)

theorem contents_eq_of_forall₂ {ls ls' : List String}
    (h : List.Forall₂ (LineDedented indent) ls ls') :
    (ls'.filter (!isBlankText ·)).map trim = (ls.filter (!isBlankText ·)).map trim := by
  induction h with
  | nil => rfl
  | @cons l l' ls ls' hl _ ih =>
    rw [List.filter_cons, List.filter_cons, hl.isBlankText]
    cases isBlankText l with
    | true => exact ih
    | false => simp [hl.trim, ih]

/-- Dedenting drops blank lines at the ends and takes blanks off the ends of the others. -/
theorem dedented (s : String) : Dedented s (dedent s) := by
  obtain ⟨first, last, hs, hfirst, hlast, hblank⟩ := lines_eq_keptLines s
  have hkept : List.Forall₂ (LineDedented (margin s)) (keptLines s) (lines (dedent s)) := by
    rw [lines_dedent, List.forall₂_map_right_iff, List.forall₂_same]
    exact fun l hl => lineDedented_of_mem hl
  have hfilter : (lines s).filter (!isBlankText ·) = (keptLines s).filter (!isBlankText ·) := by
    have hnil (ls : List String) (h : ∀ l ∈ ls, l ∈ first ++ last) :
        ls.filter (!isBlankText ·) = [] := by
      rw [List.filter_eq_nil_iff]
      intro l hl
      simp [hblank l (h l hl)]
    rw [hs, List.filter_append, List.filter_append,
      hnil first fun l hl => List.mem_append_left _ hl,
      hnil last fun l hl => List.mem_append_right _ hl, List.nil_append, List.append_nil]
  refine ⟨?_, ⟨first, _, last, _, hs, hfirst, hlast, hblank, hkept⟩, ?_⟩
  · rw [contents, contents, hfilter, contents_eq_of_forall₂ hkept]
  · rintro ⟨l, hl, hink⟩
    have hmem : l ∈ (keptLines s).filter (!isBlankText ·) := by
      rw [← hfilter]
      exact List.mem_filter.mpr ⟨hl, by simp [hink]⟩
    obtain ⟨cs, hcs, hall, hwidth⟩ :=
      exists_commonIndent (List.mem_map_of_mem (List.mem_filter.mp hmem).1) hink
    obtain ⟨l', hl', rfl⟩ := List.mem_map.mp hcs
    rw [lines_dedent]
    refine ⟨_, List.mem_map_of_mem hl', ?_⟩
    rw [startsFlush, String.toList_ofList, margin, ← hwidth]
    exact head?_dedentLine hall

theorem splitAt_shift (n : Nat) (s : String) : splitAt '\n' (shift n s).toList =
    (splitAt '\n' s.toList).map (shiftLine n) := by
  rw [splitAt_toList, shift, lines_unlines, splitAt_toList, List.map_map, List.map_map]
  · simp only [Function.comp_def, String.toList_ofList]
  · simpa using lines_ne_nil s
  · intro l' hl'
    obtain ⟨l, hl, rfl⟩ := List.mem_map.mp hl'
    have hbreak := noBreak_of_mem_lines hl
    rw [String.toList_ofList, shiftLine]
    split
    · exact hbreak
    · simpa using hbreak

theorem dedent_shift (n : Nat) (s : String) : dedent (shift n s) = dedent s := by
  have hlines (ls : List (List Char)) :
      (ls.map (shiftLine n)).map (dedentLine (commonIndent (ls.map (shiftLine n)))) =
        ls.map (dedentLine (commonIndent ls)) := by
    rw [List.map_map]
    apply List.map_congr_left
    intro l hl
    cases h : l.all isBlank with
    | true =>
      rw [dedentLine_blank h]
      exact dedentLine_blank ((all_shiftLine n l).trans h)
    | false =>
      rw [Function.comp_apply, commonIndent_shift n hl h]
      exact dedentLine_shiftLine n h
  rw [dedent, dedent, splitAt_shift, dropBlankFirst_map (all_shiftLine n),
    dropBlankLast_map (all_shiftLine n), hlines]

/-- Dedenting takes indentation off a text, and blank lines and blanks at its ends, but no
contents. The result is the same for a text that is indented further as a whole. -/
theorem dedent_keeps_contents (s : String) :
    Dedented s (dedent s) ∧ ∀ n, dedent (shift n s) = dedent s :=
  ⟨dedented s, fun n => dedent_shift n s⟩

/-- The indentation that the lines share ends inside the wide blank of the first, which loses all
of its own. Of the two blank lines at the end one is dropped. -/
example : dedent "\n\u3000  a \n \tb\n\t\n" = "a\nb\n" := by
  decide +kernel

end CrateGen.Text
