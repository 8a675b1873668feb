import CrateGen.Code.Page
import CrateGen.Proofs.Text.Lines
import Mathlib.Data.List.TakeWhile

/-!
A text that is put behind another one. Its first line goes on with the last line there, and its
later lines are moved behind the blanks that this line starts with.
-/

namespace CrateGen.Text

variable {s t blanks : String} {above : List String}

/-- A line behind blanks. An empty line stays empty. -/
def hangLine (blanks l : String) : String :=
  if l == "" then l else blanks ++ l

theorem hangLine_of_ne {l : String} (h : l ≠ "") : hangLine blanks l = blanks ++ l :=
  if_neg fun he => h (eq_of_beq he)

theorem lines_hang {first : String} {rest : List String} (hblanks : '\n' ∉ blanks.toList)
    (h : lines s = first :: rest) :
    lines (hang blanks s) = first :: rest.map (hangLine blanks) := by
  have hbreak (l : String) (hl : l ∈ first :: rest) : '\n' ∉ l.toList := by
    apply noBreak_of_mem_lines (s := s)
    rwa [h]
  unfold hang
  rw [h]
  apply lines_unlines (List.cons_ne_nil _ _)
  intro l hl
  rcases List.mem_cons.mp hl with rfl | hl
  · exact hbreak l List.mem_cons_self
  · obtain ⟨l', hl', rfl⟩ := List.mem_map.mp hl
    have hl' := hbreak l' (List.mem_cons_of_mem _ hl')
    split
    · exact hl'
    · exact noBreak_append hblanks hl'

theorem hang_nothing (s : String) : hang "" s = s := by
  have hlines := unlines_lines s
  unfold hang
  cases h : lines s with
  | nil => exact absurd h (lines_ne_nil s)
  | cons first rest =>
    have hmap : rest.map (fun l => if l == "" then l else "" ++ l) = rest :=
      (List.map_congr_left fun l _ => by rw [String.empty_append, ite_self]).trans
        (List.map_id' rest)
    dsimp only
    rw [hmap, ← h, hlines]

theorem lastIndent_behind (above s : String) :
    lastIndent (above ++ "\n" ++ s) = lastIndent s := by
  unfold lastIndent
  rw [lines_newline, List.getLast?_append_of_ne_nil _ (lines_ne_nil s)]

/-- The indentation ends where the ink of the last line starts. -/
theorem lastIndent_of_line {ink : String} (h : lines s = above ++ [blanks ++ ink])
    (hblanks : isBlankText blanks = true) (hink : ∀ c ∈ ink.toList.head?, isBlank c = false) :
    lastIndent s = blanks := by
  have hfront : ∀ c ∈ blanks.toList, isBlank c = true := List.all_eq_true.mp hblanks
  have hstop : ink.toList.takeWhile isBlank = [] := by
    cases hcs : ink.toList with
    | nil => rfl
    | cons c cs =>
      rw [hcs] at hink
      rw [List.takeWhile_cons, hink c rfl]
      rfl
  unfold lastIndent leading
  rw [h, List.getLast?_concat, Option.getD_some, String.toList_append,
    List.takeWhile_append_of_pos hfront, hstop, List.append_nil, String.ofList_toList]

theorem lastIndent_of_blank (h : lines s = above ++ [blanks]) (hblanks : isBlankText blanks = true) :
    lastIndent s = blanks := by
  have hline : lines s = above ++ [blanks ++ ""] := by
    rwa [String.append_empty]
  exact lastIndent_of_line hline hblanks nofun

/-- Of a text behind another one the later lines that are not empty start with the blanks that the
last line there starts with. -/
theorem lines_append_hang {ink first : String} {rest : List String}
    (hs : lines s = above ++ [blanks ++ ink]) (hblanks : isBlankText blanks = true)
    (hink : ∀ c ∈ ink.toList.head?, isBlank c = false) (ht : lines t = first :: rest) :
    lines (s ++ hang (lastIndent s) t) =
      above ++ (blanks ++ ink ++ first) :: rest.map (hangLine blanks) := by
  have hbreak : '\n' ∉ blanks.toList := by
    have hline : '\n' ∉ (blanks ++ ink).toList := by
      apply noBreak_of_mem_lines (s := s)
      rw [hs]
      exact List.mem_append_right _ List.mem_cons_self
    intro hmem
    rw [String.toList_append] at hline
    exact hline (List.mem_append_left _ hmem)
  rw [lastIndent_of_line hs hblanks hink]
  exact lines_append hs (lines_hang hbreak ht)

end CrateGen.Text
