namespace CrateGen.Text

/-- The pieces between the separators; a list of `n` separators has `n + 1` pieces. -/
def splitAt [BEq α] (sep : α) : List α → List (List α)
  | [] => [[]]
  | c :: cs =>
    if c == sep then [] :: splitAt sep cs
    else
      match splitAt sep cs with
      | [] => [[c]]
      | piece :: pieces => (c :: piece) :: pieces

/-- What stands before and after the first separator. -/
def splitFirst? [BEq α] (sep : α) : List α → Option (List α × List α)
  | [] => none
  | c :: cs =>
    if c == sep then some ([], cs)
    else (splitFirst? sep cs).map fun (before, after) => (c :: before, after)

def lines (s : String) : List String :=
  (splitAt '\n' s.toList).map .ofList

def unlines (ls : List String) : String :=
  "\n".intercalate ls

def startsWith (s start : String) : Bool :=
  start.toList.isPrefixOf s.toList

def endsWith (s ending : String) : Bool :=
  ending.toList.isSuffixOf s.toList

/-- The lines of a text in which each line feed ends a line, with or without a carriage return
before it. -/
def terminatedLines (s : String) : List String :=
  let pieces := splitAt '\n' s.toList
  let ended := pieces.dropLast.map fun l => if l.getLast? = some '\r' then l.dropLast else l
  let rest := pieces.getLast?.getD []
  (ended ++ if rest.isEmpty then [] else [rest]).map .ofList

end CrateGen.Text
