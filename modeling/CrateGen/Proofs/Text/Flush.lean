import CrateGen.Text.Dedent
import CrateGen.Text.Quoted
import Mathlib.Data.List.Basic
import Mathlib.Tactic.SplitIfs

namespace CrateGen.Text

variable {α : Type} {l : List α} {s t : String} {ls : List String}

theorem splitAt_of_notMem [BEq α] [LawfulBEq α] {sep : α} (h : sep ∉ l) : splitAt sep l = [l] := by
  induction l with
  | nil => rfl
  | cons c l ih =>
    obtain ⟨hc, hl⟩ := not_or.mp (mt List.mem_cons.mpr h)
    rw [splitAt, if_neg (fun he => hc (eq_of_beq he).symm), ih hl]

theorem splitAt_append [BEq α] [LawfulBEq α] {sep : α} (h : sep ∉ l) (rest : List α) :
    splitAt sep (l ++ sep :: rest) = l :: splitAt sep rest := by
  induction l with
  | nil =>
    rw [List.nil_append, splitAt, if_pos (beq_self_eq_true sep)]
  | cons c l ih =>
    obtain ⟨hc, hl⟩ := not_or.mp (mt List.mem_cons.mpr h)
    rw [List.cons_append, splitAt, if_neg (fun he => hc (eq_of_beq he).symm), ih hl]

theorem splitAt_intercalate [BEq α] [LawfulBEq α] {sep : α} {first : List α}
    {rest : List (List α)} (h : ∀ piece ∈ first :: rest, sep ∉ piece) :
    splitAt sep ([sep].intercalate (first :: rest)) = first :: rest := by
  induction rest generalizing first with
  | nil =>
    rw [List.intercalate_singleton]
    exact splitAt_of_notMem (h first List.mem_cons_self)
  | cons next rest ih =>
    rw [List.intercalate_cons_cons, List.append_assoc, List.singleton_append,
      splitAt_append (h first List.mem_cons_self),
      ih fun piece hp => h piece (List.mem_cons_of_mem _ hp)]

theorem splitAt_unlines {first : String} {rest : List String}
    (h : ∀ l ∈ first :: rest, '\n' ∉ l.toList) :
    splitAt '\n' (unlines (first :: rest)).toList = (first :: rest).map String.toList := by
  rw [unlines, String.toList_intercalate]
  refine splitAt_intercalate fun piece hp => ?_
  rw [← List.map_cons] at hp
  obtain ⟨l, hl, rfl⟩ := List.mem_map.mp hp
  exact h l hl

theorem dropTrailing_of_getLast {p : α → Bool} (h : l.getLast?.any p = false) :
    dropTrailing p l = l := by
  induction l with
  | nil => rfl
  | cons a l ih =>
    cases l with
    | nil =>
      have ha : p a = false := h
      simp only [dropTrailing, ha, Bool.false_eq_true, ↓reduceIte]
    | cons b l =>
      have ih := ih (by rwa [List.getLast?_cons_cons] at h)
      rw [dropTrailing, ih]

/-- A text whose first character is not blank. -/
def startsFlush (s : String) : Bool :=
  s.toList.head?.any fun c => !isBlank c

/-- A text whose last character is not blank. -/
def endsFlush (s : String) : Bool :=
  s.toList.getLast?.any fun c => !isBlank c

theorem startsFlush_literal {cs : List Char} (h : s = .ofList cs)
    (hc : (cs.head?.any fun c => !isBlank c) = true) : startsFlush s = true := by
  rw [h, startsFlush, String.toList_ofList]
  exact hc

theorem endsFlush_literal {cs : List Char} (h : s = .ofList cs)
    (hc : (cs.getLast?.any fun c => !isBlank c) = true) : endsFlush s = true := by
  rw [h, endsFlush, String.toList_ofList]
  exact hc

/-- A line whose last character is not blank. -/
structure Firm (s : String) : Prop where
  noBreak : '\n' ∉ s.toList
  ends : endsFlush s = true

theorem noBreak_append (hs : '\n' ∉ s.toList) (ht : '\n' ∉ t.toList) :
    '\n' ∉ (s ++ t).toList := by
  rw [String.toList_append, List.mem_append]
  exact fun h => h.elim hs ht

theorem startsFlush_append (hs : startsFlush s = true) : startsFlush (s ++ t) = true := by
  rw [startsFlush, String.toList_append]
  rw [startsFlush] at hs
  cases h : s.toList with
  | nil =>
    rw [h] at hs
    cases hs
  | cons c cs =>
    rw [h] at hs
    exact hs

theorem endsFlush_append (ht : endsFlush t = true) : endsFlush (s ++ t) = true := by
  rw [endsFlush, String.toList_append]
  rw [endsFlush] at ht
  cases h : t.toList.getLast? with
  | none =>
    rw [h] at ht
    cases ht
  | some c =>
    rw [h] at ht
    rw [List.getLast?_append, h]
    exact ht

theorem not_all_blank_of_startsFlush (h : startsFlush s = true) : s.toList.all isBlank = false := by
  rw [startsFlush] at h
  cases hs : s.toList with
  | nil =>
    rw [hs] at h
    cases h
  | cons c cs =>
    rw [hs] at h
    have hc : (!isBlank c) = true := h
    rw [Bool.not_eq_true'] at hc
    rw [List.all_cons, hc, Bool.false_and]

theorem any_blank_of_endsFlush (h : endsFlush s = true) :
    s.toList.getLast?.any isBlank = false := by
  rw [endsFlush] at h
  cases hs : s.toList.getLast? with
  | none => rfl
  | some c =>
    rw [hs] at h
    have hc : (!isBlank c) = true := h
    rw [Bool.not_eq_true'] at hc
    exact hc

theorem not_all_blank_of_endsFlush (h : endsFlush s = true) : s.toList.all isBlank = false := by
  rw [endsFlush] at h
  cases hs : s.toList.getLast? with
  | none =>
    rw [hs] at h
    cases h
  | some c =>
    rw [hs] at h
    have hc : (!isBlank c) = true := h
    rw [← Bool.not_eq_true, List.all_eq_true]
    intro hall
    rw [hall c (List.mem_of_getLast? hs)] at hc
    cases hc

theorem trim_of_startsFlush (hs : startsFlush s = true) : trim s = trimEnd s := by
  have hdrop : s.toList.dropWhile isBlank = s.toList := by
    rw [startsFlush] at hs
    cases h : s.toList with
    | nil => rfl
    | cons c cs =>
      rw [h] at hs
      have hc : (!isBlank c) = true := hs
      rw [Bool.not_eq_true'] at hc
      rw [List.dropWhile_cons, if_neg (by rw [hc]; exact Bool.false_ne_true)]
  rw [trim, hdrop, trimEnd]

theorem trim_of_flush (hs : startsFlush s = true) (he : endsFlush s = true) : trim s = s := by
  rw [trim_of_startsFlush hs, trimEnd, dropTrailing_of_getLast (any_blank_of_endsFlush he),
    String.ofList_toList]

theorem trim_literal {cs : List Char} (h : s = .ofList cs)
    (hs : (cs.head?.any fun c => !isBlank c) = true)
    (he : (cs.getLast?.any fun c => !isBlank c) = true) : trim s = s :=
  trim_of_flush (startsFlush_literal h hs) (endsFlush_literal h he)

theorem dedentLine_zero (h : s = "" ∨ endsFlush s = true) : dedentLine 0 s.toList = s.toList := by
  rcases h with rfl | h
  · rfl
  · rw [dedentLine, if_neg (by rw [not_all_blank_of_endsFlush h]; exact Bool.false_ne_true)]
    have hdrop : dropBytes? 0 s.toList = some s.toList := by
      cases s.toList <;> rfl
    rw [hdrop, Option.getD_some, dropTrailing_of_getLast (any_blank_of_endsFlush h)]

theorem dropBlankLast_of_getLast {ls : List (List Char)}
    (h : ∀ l, ls.getLast? = some l → l.all isBlank = false) : dropBlankLast ls = ls := by
  induction ls with
  | nil => rfl
  | cons l ls ih =>
    match ls with
    | [] => rfl
    | [last] =>
      rw [dropBlankLast, if_neg (by rw [h last rfl]; exact Bool.false_ne_true)]
    | next :: other :: rest =>
      change l :: dropBlankLast (next :: other :: rest) = _
      rw [ih fun last hl => h last hl]

theorem dedent_unlines {first : String} {rest : List String} (hs : startsFlush first = true)
    (h : ∀ l ∈ first :: rest, l = "" ∨ Firm l)
    (he : ∀ l, (first :: rest).getLast? = some l → endsFlush l = true) :
    dedent (unlines (first :: rest)) = unlines (first :: rest) := by
  have hsplit : splitAt '\n' (unlines (first :: rest)).toList =
      (first :: rest).map String.toList := by
    refine splitAt_unlines fun l hl => ?_
    rcases h l hl with rfl | hf
    · exact List.not_mem_nil
    · exact hf.noBreak
  have hfirst : dropBlankFirst ((first :: rest).map String.toList) =
      (first :: rest).map String.toList := by
    cases rest with
    | nil => rfl
    | cons next rest =>
      simp only [List.map_cons, dropBlankFirst, not_all_blank_of_startsFlush hs,
        Bool.false_eq_true, ↓reduceIte]
  have hlast : dropBlankLast ((first :: rest).map String.toList) =
      (first :: rest).map String.toList := by
    refine dropBlankLast_of_getLast fun l hl => ?_
    rw [List.getLast?_map, Option.map_eq_some_iff] at hl
    obtain ⟨s, hs, rfl⟩ := hl
    exact not_all_blank_of_endsFlush (he s hs)
  have hindent : commonIndent ((first :: rest).map String.toList) = 0 := by
    have hzero : indentWidth first.toList = 0 := by
      rw [startsFlush] at hs
      cases hf : first.toList with
      | nil => rfl
      | cons c cs =>
        rw [hf] at hs
        have hc : (!isBlank c) = true := hs
        rw [Bool.not_eq_true'] at hc
        rw [indentWidth, if_neg (by rw [hc]; exact Bool.false_ne_true)]
    rw [commonIndent, List.map_cons, List.filter_cons,
      if_pos (by rw [not_all_blank_of_startsFlush hs]; rfl), List.map_cons, hzero]
    cases hm : (0 :: (List.filter (fun l : List Char => !l.all isBlank)
        (rest.map String.toList)).map indentWidth).min? with
    | none => rfl
    | some n =>
      have hle := (List.min?_eq_some_iff.mp hm).2 0 List.mem_cons_self
      exact Nat.le_zero.mp hle
  have hlines : ((first :: rest).map String.toList).map (dedentLine 0) =
      (first :: rest).map String.toList := by
    rw [List.map_map]
    refine List.map_congr_left fun l hl => ?_
    exact dedentLine_zero ((h l hl).imp_right Firm.ends)
  rw [dedent, hsplit, hfirst, hlast, hindent, hlines, List.map_map]
  congr 1
  exact List.map_id'' (fun s => String.ofList_toList) _

theorem dedent_line (hs : startsFlush s = true) (h : Firm s) : dedent s = s := by
  have hu : unlines [s] = s := by
    rw [unlines, String.intercalate_singleton]
  rw [← hu]
  refine dedent_unlines hs (fun l hl => ?_) fun l hl => ?_
  · cases List.mem_singleton.mp hl
    exact .inr h
  · cases hl
    exact h.ends

theorem dedent_paragraph {first : String} {rest : List String}
    (hs : startsFlush first = true) (h : (first :: rest).Forall Firm) :
    dedent (unlines (first :: rest)) = unlines (first :: rest) := by
  have hall := List.forall_iff_forall_mem.mp h
  exact dedent_unlines hs (fun l hl => .inr (hall l hl))
    fun l hl => (hall l (List.mem_of_getLast? hl)).ends

theorem digitChar_ne_newline : ∀ n < 16, Nat.digitChar n ≠ '\n' := by
  decide

theorem noBreak_toDigitsCore (fuel n : Nat) {ds : List Char} (h : '\n' ∉ ds) :
    '\n' ∉ Nat.toDigitsCore 16 fuel n ds := by
  induction fuel generalizing n ds with
  | zero => exact h
  | succ fuel ih =>
    have hne := digitChar_ne_newline (n % 16) (Nat.mod_lt n (by decide))
    have hcons : '\n' ∉ Nat.digitChar (n % 16) :: ds :=
      fun hm => (List.mem_cons.mp hm).elim (fun he => hne he.symm) h
    rw [Nat.toDigitsCore]
    split
    · exact hcons
    · exact ih _ hcons

theorem noBreak_quoteChar (c : Char) : '\n' ∉ quoteChar c := by
  by_cases hc : c = '\n'
  · subst hc
    decide
  have hhex : '\n' ∉ hex c.toNat := by
    rw [hex, Nat.toDigits]
    exact noBreak_toDigitsCore _ _ List.not_mem_nil
  rw [quoteChar, if_neg (c := c = '\n') hc]
  split_ifs
  all_goals simp [hhex, Ne.symm hc]

theorem noBreak_quote (s : String) : '\n' ∉ (quote s).toList := by
  rw [quote, String.toList_ofList]
  simp only [List.cons_append, List.mem_cons, List.mem_append, List.mem_flatMap, List.not_mem_nil,
    or_false, not_or, not_exists, not_and]
  exact ⟨by decide, fun c _ => noBreak_quoteChar c, by decide⟩

theorem startsFlush_quote (s : String) : startsFlush (quote s) = true := by
  rw [startsFlush, quote, String.toList_ofList]
  rfl

theorem endsFlush_quote (s : String) : endsFlush (quote s) = true := by
  rw [endsFlush, quote, String.toList_ofList, List.getLast?_concat]
  rfl

end CrateGen.Text
