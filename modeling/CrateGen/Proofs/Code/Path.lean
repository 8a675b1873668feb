import CrateGen.Code.Symbol

namespace CrateGen.Path

variable {path before after : String} {cs front back : List Char}

theorem eq_of_splitLastChars? (h : splitLastChars? cs = some (front, back)) :
    cs = front ++ ':' :: ':' :: back := by
  induction cs generalizing front with
  | nil => cases h
  | cons c cs ih =>
    unfold splitLastChars? at h
    split at h
    · next hs =>
      cases h
      rw [ih hs]
      rfl
    · split at h
      · cases h
        rfl
      · cases h

theorem eq_of_splitLast? (h : splitLast? path = some (before, after)) :
    path = before ++ "::" ++ after := by
  obtain ⟨⟨front, back⟩, hchars, hparts⟩ := Option.map_eq_some_iff.mp h
  cases hparts
  apply String.toList_inj.mp
  simp only [eq_of_splitLastChars? hchars, String.toList_append, String.toList_ofList,
    List.append_assoc]
  rfl

/-- Nothing is split off behind the last separator. -/
theorem splitLastChars?_append (hback : splitLastChars? back = none)
    (hcolon : back.head? ≠ some ':') (front : List Char) :
    splitLastChars? (front ++ ':' :: ':' :: back) = some (front, back) := by
  induction front with
  | nil =>
    have hone : splitLastChars? (':' :: back) = none := by
      unfold splitLastChars?
      rw [hback]
      cases back with
      | nil => rfl
      | cons c back =>
        dsimp only
        split
        · next heq => exact absurd (congrArg List.head? heq) hcolon
        · rfl
    rw [List.nil_append]
    unfold splitLastChars?
    rw [hone]
    rfl
  | cons c front ih =>
    rw [List.cons_append]
    unfold splitLastChars?
    rw [ih]

theorem splitLast?_append (hafter : splitLastChars? after.toList = none)
    (hcolon : after.toList.head? ≠ some ':') (before : String) :
    splitLast? (before ++ "::" ++ after) = some (before, after) := by
  have hpath : (before ++ "::" ++ after).toList =
      before.toList ++ ':' :: ':' :: after.toList := by
    rw [String.toList_append, String.toList_append, List.append_assoc]
    rfl
  rw [splitLast?, hpath, splitLastChars?_append hafter hcolon, Option.map_some]
  simp only [String.ofList_toList]

end CrateGen.Path
