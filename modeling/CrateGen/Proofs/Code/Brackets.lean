import CrateGen.Code.SymbolTable
import CrateGen.Proofs.Code.Page
import CrateGen.Proofs.Code.Path
import CrateGen.Proofs.Code.Writes
import CrateGen.Proofs.Name.Word

/-!
The brackets of generated text. What a text does to the brackets that stand open depends on its
brackets only, and texts are put together so that these stay in order: a text whose brackets match
can stand anywhere, and indentation, line ends and debug markers have none.
-/

namespace CrateGen

namespace Text

def closer? : Char → Option Char
  | '(' => some ')'
  | '[' => some ']'
  | '{' => some '}'
  | _ => none

def isBracket (c : Char) : Bool :=
  ['(', ')', '[', ']', '{', '}'].contains c

def brackets (s : String) : List Char :=
  s.toList.filter isBracket

/-- The closing brackets that are awaited behind a bracket, the innermost first. A closing bracket
must be the one that is awaited next. -/
def behindBracket (awaited : List Char) (c : Char) : Option (List Char) :=
  match closer? c with
  | some close => some (close :: awaited)
  | none => if awaited.head? = some c then some awaited.tail else none

/-- The closing brackets that are awaited behind a text; nothing if the text closes a bracket that
is not the last one open. -/
def behind (awaited : List Char) (s : String) : Option (List Char) :=
  (brackets s).foldlM behindBracket awaited

/-- Every bracket of the text is closed in it by its partner, in order. -/
def Balanced (s : String) : Prop :=
  behind [] s = some []

/-- The brackets of a text are nested at each of its prefixes, and none is open at its end. -/
structure WellBracketed (s : String) : Prop where
  nested : ∀ front rest, s = front ++ rest → (behind [] front).isSome = true
  closed : Balanced s

variable {s t : String} {awaited awaited' : List Char} {c : Char}

instance (s : String) : Decidable (Balanced s) :=
  inferInstanceAs (Decidable (_ = _))

/-! ## What stands open -/

theorem behindBracket_frame (h : behindBracket awaited c = some awaited') (outer : List Char) :
    behindBracket (awaited ++ outer) c = some (awaited' ++ outer) := by
  unfold behindBracket at h ⊢
  cases hc : closer? c with
  | some close =>
    rw [hc] at h
    cases h
    rfl
  | none =>
    rw [hc] at h
    cases awaited with
    | nil => cases h
    | cons close rest =>
      rw [List.head?_cons, List.tail_cons] at h
      rw [List.cons_append, List.head?_cons, List.tail_cons]
      by_cases heq : some close = some c
      · rw [if_pos heq] at h ⊢
        cases h
        rfl
      · rw [if_neg heq] at h
        cases h

/-- Brackets that were open before stay open around a text. -/
theorem behind_frame (h : behind awaited s = some awaited') (outer : List Char) :
    behind (awaited ++ outer) s = some (awaited' ++ outer) := by
  unfold behind at h ⊢
  generalize brackets s = cs at h ⊢
  induction cs generalizing awaited with
  | nil =>
    cases h
    rfl
  | cons c cs ih =>
    rw [List.foldlM_cons] at h ⊢
    obtain ⟨next, hnext, hrest⟩ := Option.bind_eq_some_iff.mp h
    exact Option.bind_eq_some_iff.mpr ⟨next ++ outer, behindBracket_frame hnext outer, ih hrest⟩

theorem Balanced.behind (h : Balanced s) (awaited : List Char) :
    behind awaited s = some awaited :=
  behind_frame h awaited

theorem brackets_append (s t : String) : brackets (s ++ t) = brackets s ++ brackets t := by
  unfold brackets
  rw [String.toList_append, List.filter_append]

theorem behind_append (awaited : List Char) (s t : String) :
    behind awaited (s ++ t) = (behind awaited s).bind fun next => behind next t := by
  unfold Text.behind
  rw [brackets_append, List.foldlM_append]
  rfl

theorem Balanced.congr (h : Balanced s) (heq : brackets t = brackets s) : Balanced t := by
  unfold Balanced Text.behind at h ⊢
  rw [heq]
  exact h

theorem Balanced.of_brackets (h : brackets s = []) : Balanced s := by
  unfold Balanced Text.behind
  rw [h]
  rfl

theorem Balanced.append (hs : Balanced s) (ht : Balanced t) : Balanced (s ++ t) := by
  unfold Balanced at hs ⊢
  rw [behind_append, hs]
  exact ht

theorem Balanced.enclosed {before after : String} (h : Balanced (before ++ after))
    (hs : Balanced s) : Balanced (before ++ s ++ after) := by
  unfold Balanced at h ⊢
  rw [behind_append] at h
  obtain ⟨awaited, hbefore, hafter⟩ := Option.bind_eq_some_iff.mp h
  rw [behind_append, behind_append, hbefore, Option.bind_some, hs.behind, Option.bind_some]
  exact hafter

theorem Balanced.wellBracketed (h : Balanced s) : WellBracketed s where
  nested front rest heq := by
    unfold Balanced at h
    rw [heq, behind_append] at h
    obtain ⟨awaited, hfront, -⟩ := Option.bind_eq_some_iff.mp h
    rw [hfront]
    rfl
  closed := h

/-- Wherever the text stands, it closes a bracket that is not the last one open. -/
def Broken (s : String) : Prop :=
  ∀ awaited, behind awaited s = none

theorem Broken.append (h : Broken s) (t : String) : Broken (s ++ t) := by
  intro awaited
  rw [behind_append, h]
  rfl

theorem Broken.append_left (h : Broken t) (s : String) : Broken (s ++ t) := by
  intro awaited
  rw [behind_append]
  cases behind awaited s with
  | none => rfl
  | some next => exact h next

/-- What a text leaves open cannot be closed by another bracket. -/
theorem broken_of_open (h : behind [] s = some [c]) (hc : c ≠ '}') {rest : List Char}
    (ht : brackets t = '}' :: rest) : Broken (s ++ t) := by
  intro awaited
  have hopen : behind awaited s = some (c :: awaited) :=
    behind_frame h awaited
  have hclose : behindBracket (c :: awaited) '}' = none :=
    if_neg fun heq => hc (Option.some.inj heq)
  rw [behind_append, hopen, Option.bind_some, behind, ht, List.foldlM_cons, hclose]
  rfl

theorem Broken.congr (h : Broken s) (heq : brackets t = brackets s) : Broken t := by
  unfold Broken Text.behind at h ⊢
  rw [heq]
  exact h

theorem Broken.not_wellBracketed (h : Broken s) : ¬WellBracketed s := by
  intro hs
  have hclosed : behind [] s = some [] := hs.closed
  rw [h] at hclosed
  cases hclosed

/-! ## Texts without brackets of their own -/

theorem brackets_eq_nil (h : ∀ c ∈ s.toList, isBracket c = false) : brackets s = [] :=
  List.filter_eq_nil_iff.mpr fun c hc => Bool.eq_false_iff.mp (h c hc)

/-- No character of a class is a bracket if no bracket is one of the class. -/
theorem isBracket_of_class {p : Char → Bool}
    (hno : (['(', ')', '[', ']', '{', '}'].any p) = false) (h : p c = true) :
    isBracket c = false := by
  rw [isBracket, ← Bool.not_eq_true, List.contains_iff_mem]
  intro hmem
  exact List.any_eq_false.mp hno c hmem h

theorem isBracket_of_isAsciiWord (h : Name.isAsciiWord c = true) : isBracket c = false :=
  isBracket_of_class (by decide) h

theorem isBracket_of_isBlank (h : isBlank c = true) : isBracket c = false :=
  isBracket_of_class (by decide) h

theorem brackets_leading (s : String) : brackets (leading s) = [] := by
  refine brackets_eq_nil fun c hc => isBracket_of_isBlank ?_
  rw [leading, String.toList_ofList] at hc
  exact List.all_eq_true.mp List.all_takeWhile c hc

theorem brackets_of_isWord (h : Name.IsWord s) : brackets s = [] :=
  brackets_eq_nil fun c hc => isBracket_of_isAsciiWord (List.all_eq_true.mp h c hc)

theorem quoteChar_of_isAsciiWord (h : Name.isAsciiWord c = true) : quoteChar c = [c] :=
  Name.ascii_cases (P := fun c => Name.isAsciiWord c = true → quoteChar c = [c])
    (by decide +kernel) (Name.toNat_lt_of_isAsciiWord h) h

theorem brackets_quote (h : Name.IsWord s) : brackets (quote s) = [] := by
  refine brackets_eq_nil fun c hc => ?_
  rw [quote, String.toList_ofList, List.mem_append, List.mem_cons, List.mem_flatMap,
    List.mem_singleton] at hc
  rcases hc with (rfl | ⟨d, hd, hc⟩) | rfl
  · rfl
  · have hword := List.all_eq_true.mp h d hd
    rw [quoteChar_of_isAsciiWord hword, List.mem_singleton] at hc
    rw [hc]
    exact isBracket_of_isAsciiWord hword
  · rfl

theorem brackets_escape (s : String) : brackets (Name.escape s) = brackets s := by
  rw [Name.escape]
  split
  · rw [brackets_append]
    exact List.append_nil _
  split
  · rw [brackets_append]
    rfl
  · rfl

theorem brackets_setter (field : String) : brackets (Name.setter field) = brackets field := by
  have hdrop (cs : List Char) :
      (Name.dropRawMarkers cs).filter isBracket = cs.filter isBracket := by
    induction cs using Name.dropRawMarkers.induct with
    | case1 rest ih =>
      rw [Name.dropRawMarkers, ih]
      rfl
    | case2 cs hcs =>
      rw [Name.dropRawMarkers]
      exact hcs
  rw [Name.setter, brackets_append]
  unfold brackets
  rw [String.toList_ofList (l := Name.dropRawMarkers field.toList), hdrop]
  rfl

/-! ## Lines -/

theorem brackets_join (ss : List String) : brackets (String.join ss) = ss.flatMap brackets := by
  induction ss with
  | nil => rfl
  | cons s ss ih => rw [String.join_cons, brackets_append, ih, List.flatMap_cons]

theorem brackets_unlines (ls : List String) : brackets (unlines ls) = ls.flatMap brackets := by
  cases ls with
  | nil => rfl
  | cons l ls =>
    have hrest : (ls.map ("\n" ++ ·)).flatMap brackets = ls.flatMap brackets := by
      rw [List.flatMap_map]
      refine congrArg List.flatten (List.map_congr_left fun l _ => ?_)
      rw [brackets_append]
      rfl
    rw [unlines_cons, brackets_append, brackets_join, hrest, List.flatMap_cons]

theorem Balanced.unlines {ls : List String} (h : Balanced (String.join ls)) :
    Balanced (unlines ls) :=
  h.congr ((brackets_unlines ls).trans (brackets_join ls).symm)

/-- The brackets of a text whose lines are changed without any bracket coming or going. -/
theorem brackets_mapLines {f g : String → String} (hf : ∀ l, brackets (f l) = brackets l)
    (hg : ∀ l, brackets (g l) = brackets l) {first : String} {rest : List String}
    (h : lines s = first :: rest) : brackets (unlines (f first :: rest.map g)) = brackets s := by
  have hrest : (rest.map g).flatMap brackets = rest.flatMap brackets := by
    rw [List.flatMap_map]
    exact congrArg List.flatten (List.map_congr_left fun l _ => hg l)
  rw [brackets_unlines, List.flatMap_cons, hf, hrest, ← List.flatMap_cons, ← h,
    ← brackets_unlines, unlines_lines]

theorem brackets_hang (h : brackets t = []) (s : String) : brackets (hang t s) = brackets s := by
  unfold hang
  cases hl : lines s with
  | nil => exact absurd hl (lines_ne_nil s)
  | cons first rest =>
    refine brackets_mapLines (f := id) (fun _ => rfl) (fun l => ?_) hl
    split
    · rfl
    · rw [brackets_append, h, List.nil_append]

end Text

open Text (Balanced brackets brackets_append)

/-! ## Names in generated code -/

theorem CargoDependency.brackets_pathName (d : CargoDependency) :
    brackets d.pathName = brackets d.name := by
  unfold brackets
  rw [pathName, String.toList_ofList]
  induction d.name.toList with
  | nil => rfl
  | cons c cs ih =>
    rw [List.map_cons, List.filter_cons, List.filter_cons, ih]
    split
    · next hc =>
      rw [hc]
      rfl
    · rfl

namespace Symbol

variable {name ns : String}

theorem name_named (name ns : String) : (named name ns : Symbol Code).name = name :=
  rfl

theorem balanced_named (hname : Balanced name) (hns : Balanced ns) :
    Balanced (named name ns : Symbol Code).type := by
  unfold named
  dsimp only
  split
  · exact hname
  · exact (hns.append (by decide)).append hname

theorem balanced_builder_named (hname : Balanced name) (hns : Balanced ns) :
    Balanced (named name ns : Symbol Code).builder.type :=
  balanced_named (hname.append (by decide)) (hns.append (by decide))

theorem balanced_ofRuntimeType {t : RuntimeType Code} (h : Balanced t.path) :
    Balanced (ofRuntimeType t).type := by
  refine h.congr ?_
  unfold ofRuntimeType
  cases hs : Path.splitLast? t.path with
  | none => rfl
  | some parts =>
    obtain ⟨ns, name⟩ := parts
    rw [Path.eq_of_splitLast? hs]
    dsimp only [Option.getD_some, named]
    split
    · next hns =>
      rw [hns, brackets_append]
      rfl
    · rfl

end Symbol

namespace SymbolTable

variable {s : Shape}

theorem balanced_typeName (h : s.id.IsWords) : Balanced (typeName s) :=
  .of_brackets ((Text.brackets_escape _).trans (Text.brackets_of_isWord h.1.pascalCase))

theorem balanced_memberName (t : SymbolTable) (h : s.id.IsWords) : Balanced (t.memberName s) := by
  have hname : Name.IsWord (s.id.member.getD s.id.name) := by
    cases hm : s.id.member with
    | none => exact h.1
    | some member => exact h.2 member hm
  refine .of_brackets ((Text.brackets_escape _).trans (Text.brackets_of_isWord ?_))
  split
  · exact hname.pascalCase
  · exact hname.snakeCase

end SymbolTable

/-! ## Templates -/

namespace Template

@[simp] def Part.shown : Part → String
  | .text s => s
  | .hole _ name => name

def shown (parts : List Part) : String :=
  String.join (parts.map Part.shown)

@[simp] theorem shown_nil : shown [] = "" :=
  rfl

@[simp] theorem shown_cons (part : Part) (parts : List Part) :
    shown (part :: parts) = part.shown ++ shown parts :=
  String.join_cons

theorem brackets_fillFrom (out : String) (parts : List Part) :
    brackets (fillFrom out parts) = brackets (out ++ shown parts) := by
  induction parts generalizing out with
  | nil =>
    rw [shown_nil, String.append_empty]
    rfl
  | cons part parts ih =>
    rw [shown_cons, ← String.append_assoc, brackets_append (out ++ part.shown)]
    cases part with
    | text s =>
      rw [fillFrom, ih, brackets_append]
      rfl
    | hole key name =>
      have hhang : brackets (Text.hang (Text.lastIndent out) name) = brackets name :=
        Text.brackets_hang (Text.brackets_leading _) name
      rw [fillFrom, ih, brackets_append, brackets_append out, brackets_append out, hhang]
      rfl

theorem shown_append (parts parts' : List Part) :
    shown (parts ++ parts') = shown parts ++ shown parts' := by
  rw [shown, List.map_append, String.join_append]
  rfl

theorem brackets_fill (lines : List (List Part)) :
    brackets (fill (sheet lines)) = brackets (shown lines.flatten) := by
  rw [fill, brackets_fillFrom, String.empty_append]
  induction lines with
  | nil => rfl
  | cons line lines ih =>
    cases lines with
    | nil => rw [sheet, List.intercalate_singleton, List.flatten_singleton]
    | cons next rest =>
      have hbreak : brackets (shown [.text "\n"]) = [] := rfl
      have hlines : (line :: next :: rest).flatten = line ++ (next :: rest).flatten := rfl
      rw [sheet, List.intercalate_cons_cons, shown_append, shown_append, ← sheet, brackets_append,
        brackets_append, ih, hbreak, List.append_nil, hlines, shown_append, brackets_append]

end Template

/-! ## Pages -/

def Entry.joined (es : List Entry) : String :=
  String.join (es.map Entry.text)

namespace Entry

variable {es es' : List Entry}

theorem joined_cons (e : Entry) (es : List Entry) : joined (e :: es) = e.text ++ joined es :=
  String.join_cons

theorem joined_singleton (e : Entry) : joined [e] = e.text := by
  rw [joined_cons]
  exact String.append_empty

theorem joined_append (es es' : List Entry) : joined (es ++ es') = joined es ++ joined es' := by
  rw [joined, List.map_append, String.join_append]
  rfl

theorem joined_deeper (es : List Entry) : joined (es.map Entry.deeper) = joined es := by
  rw [joined, List.map_map]
  rfl

theorem joined_block (start : LineStart) (before after : String) (body : List Entry) :
    joined (block start before after body) = before ++ joined body ++ after := by
  rw [block, List.cons_append, joined_cons, joined_append, joined_deeper, joined_singleton,
    ← String.append_assoc]

end Entry

/-- A page goes on with a text that has the brackets of the given one. -/
def Page.GoesOn (p : Page) (s : String) (q : Page) : Prop :=
  ∃ added, q.text = p.text ++ added ∧ brackets added = brackets s

namespace Page

variable {p q r : Page} {s t : String}

theorem GoesOn.trans (h : p.GoesOn s q) (h' : q.GoesOn t r) : p.GoesOn (s ++ t) r := by
  obtain ⟨added, htext, hs⟩ := h
  obtain ⟨added', htext', ht⟩ := h'
  refine ⟨added ++ added', ?_, ?_⟩
  · rw [htext', htext, String.append_assoc]
  · rw [brackets_append, brackets_append, hs, ht]

theorem GoesOn.congr (h : p.GoesOn s q) (heq : brackets s = brackets t) : p.GoesOn t q := by
  obtain ⟨added, htext, hs⟩ := h
  exact ⟨added, htext, hs.trans heq⟩

theorem goesOn_newline (p : Page) : p.GoesOn "" p.newline :=
  ⟨"\n", p.text_newline, rfl⟩

theorem goesOn_ensureNewline (p : Page) : p.GoesOn "" p.ensureNewline := by
  refine ⟨_, p.text_ensureNewline.1, ?_⟩
  unfold lineEnd
  split <;> rfl

theorem brackets_indentLine (level : Nat) (l : String) :
    brackets (indentLine level l) = brackets l := by
  have hindent : brackets (indentation level) = [] := by
    refine Text.brackets_eq_nil fun c hc => ?_
    rw [indentation, String.toList_ofList] at hc
    rw [List.eq_of_mem_replicate hc]
    rfl
  unfold indentLine
  split
  · next h => rw [eq_of_beq h]
  · rw [brackets_append, hindent, List.nil_append]

theorem goesOn_emit (p : Page) (level : Nat) (s : String) : p.GoesOn s (p.emit level s) := by
  obtain ⟨first, rest, hlines, htext⟩ := p.text_emit level s
  refine ⟨_, htext, Text.brackets_mapLines (f := piece level p.atLineStart) (fun l => ?_)
    (brackets_indentLine level) hlines⟩
  unfold piece
  split
  · exact brackets_indentLine level l
  · rfl

theorem goesOn_write (debug : Bool) (level : Nat) (p : Page) (e : Entry) :
    p.GoesOn e.text (p.write debug level e) := by
  have hsame : p.GoesOn "" p := ⟨"", String.append_empty.symm, rfl⟩
  have hentry {q : Page} (hstart : p.GoesOn "" q) :
      p.GoesOn e.text (q.emit (level + e.depth) e.text).newline := by
    have hwritten :=
      (hstart.trans (goesOn_emit _ (level + e.depth) e.text)).trans (goesOn_newline _)
    rw [String.empty_append, String.append_empty] at hwritten
    exact hwritten
  rw [write]
  cases e.start with
  | marked =>
    dsimp only
    split
    · exact hentry (((p.goesOn_emit _ debugMarker).trans (goesOn_newline _)).congr rfl)
    · exact hentry hsame
  | plain => exact hentry hsame
  | fresh => exact hentry p.goesOn_ensureNewline

theorem goesOn_writeAll (debug : Bool) (level : Nat) (p : Page) (es : List Entry) :
    p.GoesOn (Entry.joined es) (p.writeAll debug level es) := by
  induction es generalizing p with
  | nil => exact ⟨"", String.append_empty.symm, rfl⟩
  | cons e es ih =>
    rw [Entry.joined_cons]
    exact (goesOn_write debug level p e).trans (ih _)

end Page

theorem Writer.goesOn_wrote (w : Writer) (es : List Entry) (ds : Dependencies) :
    w.page.GoesOn (Entry.joined es) (w.wrote es ds).page :=
  w.page.goesOn_writeAll w.debugMode w.level es

end CrateGen
