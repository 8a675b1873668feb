import CrateGen.Proofs.Code.Brackets
import CrateGen.Proofs.EventStream.Program

/-!
Every statement of a generated unmarshaller is printed with matching brackets if the brackets of
the names in it match. Each template is read once with its names skipped, and the statements follow
by induction, with the blocks around them put together from both ends.
-/

namespace CrateGen.EventStream

open Template (Part fill sheet shown shown_append shown_cons shown_nil)
open Text (behind_append)

def Expr.Balanced : Expr → Prop
  | .blob | .text => True
  | .parse parser subject => Text.Balanced parser.path ∧ Text.Balanced subject
  | .header reader => Text.Balanced reader

def Held.Balanced : Held → Prop
  | .built type => Text.Balanced type.type
  | .parsed | .builder => True

mutual

/-- The brackets of all names in a statement match. -/
def Stmt.Balanced : Stmt → Prop
  | .skip | .unknownEvent | .genericError | .failException => True
  | .seq first second => first.Balanced ∧ second.Balanced
  | .letBuilder _ type => Text.Balanced type.type
  | .letParsed value => value.Balanced
  | .letGeneric parser => Text.Balanced parser.path
  | .checkContentType expected => Text.Balanced expected ∧ Text.Balanced (Text.quote expected)
  | .set field _ value => Text.Balanced field ∧ value.Balanced
  | .fillBuilder parser subject => Text.Balanced parser.path ∧ Text.Balanced subject
  | .fillAndReturn parser subject variant =>
    Text.Balanced parser.path ∧ Text.Balanced subject ∧ Text.Balanced variant
  | .forHeaders arms | .chooseType arms => Stmt.ArmsBalanced arms
  | .choose _ arms binder last =>
    Stmt.ArmsBalanced arms ∧ Text.Balanced binder ∧ last.Balanced
  | .ifType label body => Text.Balanced (Text.quote label) ∧ body.Balanced
  | .event variant held => Text.Balanced variant ∧ held.Balanced
  | .returnPlainError variant => Text.Balanced variant
  | .fail message binder => Text.Balanced message ∧ Text.Balanced binder

def Stmt.ArmsBalanced : List (String × Stmt) → Prop
  | [] => True
  | (label, body) :: arms =>
    Text.Balanced (Text.quote label) ∧ body.Balanced ∧ Stmt.ArmsBalanced arms

end

theorem Stmt.armsBalanced {arms : List (String × Stmt)}
    (h : ∀ arm ∈ arms, Text.Balanced (Text.quote arm.1) ∧ arm.2.Balanced) :
    Stmt.ArmsBalanced arms := by
  induction arms with
  | nil => trivial
  | cons arm arms ih =>
    obtain ⟨hlabel, hbody⟩ := h arm List.mem_cons_self
    exact ⟨hlabel, hbody, ih fun a ha => h a (List.mem_cons_of_mem _ ha)⟩

namespace Printing

variable {n : Names}

theorem balanced_sheet {lines : List (List Part)} (h : Text.Balanced (shown lines.flatten)) :
    Text.Balanced (fill (sheet lines)) :=
  h.congr (Template.brackets_fill lines)

theorem balanced_item {lines : List (List Part)} (h : Text.Balanced (shown lines.flatten)) :
    Text.Balanced (Entry.joined (item lines)) := by
  rw [item, Entry.joined_singleton]
  exact balanced_sheet h

theorem balanced_braces {header : String} {body : List Entry} (hheader : Text.Balanced header)
    (hbody : Text.Balanced (Entry.joined body)) :
    Text.Balanced (Entry.joined (braces header body)) := by
  have hboth : Text.Balanced (header ++ r" {" ++ r"}") := by
    rw [String.append_assoc]
    exact hheader.append (by decide)
  rw [braces, Entry.joined_block]
  exact hboth.enclosed hbody

theorem broken_braces {body : List Entry} (h : Text.Broken (Entry.joined body)) (header : String) :
    Text.Broken (Entry.joined (braces header body)) := by
  rw [braces, Entry.joined_block]
  exact (h.append_left _).append _

/-- Braces are broken by a bracket that is left open in them. -/
theorem broken_braces_of_open {body : List Entry} {c : Char}
    (h : Text.behind [] (Entry.joined body) = some [c]) (hc : c ≠ '}') (header : String) :
    Text.Broken (Entry.joined (braces header body)) := by
  rw [braces, Entry.joined_block, String.append_assoc]
  exact (Text.broken_of_open h hc rfl).append_left _

variable (hn : ∀ key, Text.Balanced (n key))
include hn

theorem balanced_parse {parser : RuntimeType Code} {subject : String}
    (hparser : Text.Balanced parser.path) (hsubject : Text.Balanced subject) :
    Text.Balanced (Entry.joined (item (parse n parser subject))) := by
  apply balanced_item
  simp only [Text.Balanced, parse, parserCall, unmarshalling, shared, List.flatten_cons,
    List.flatten_nil, shown_append, shown_cons, shown_nil, Part.shown, behind_append,
    (hn _).behind, hparser.behind, hsubject.behind, Option.bind_some]
  rfl

theorem balanced_fillBuilder {parser : RuntimeType Code} {subject : String}
    (hparser : Text.Balanced parser.path) (hsubject : Text.Balanced subject) :
    Text.Balanced (shown (fillBuilder n parser subject).flatten) := by
  simp only [Text.Balanced, fillBuilder, parserCall, unmarshalling, shared, List.flatten_cons,
    List.flatten_nil, shown_append, shown_cons, shown_nil, Part.shown, behind_append,
    (hn _).behind, hparser.behind, hsubject.behind, Option.bind_some]
  rfl

theorem balanced_expr {value : Expr} (h : value.Balanced) :
    Text.Balanced (Entry.joined (item (expr n value))) := by
  cases value with
  | blob =>
    apply balanced_item
    simp only [Text.Balanced, expr, shared, List.flatten_cons, List.flatten_nil, shown_append,
      shown_cons, shown_nil, Part.shown, behind_append, (hn _).behind, Option.bind_some]
    rfl
  | text =>
    apply balanced_item
    simp only [Text.Balanced, expr, shared, List.flatten_cons, List.flatten_nil, shown_append,
      shown_cons, shown_nil, Part.shown, behind_append, (hn _).behind, Option.bind_some]
    rfl
  | parse parser subject => exact balanced_parse hn h.1 h.2
  | header reader =>
    have hreader : Text.Balanced reader := h
    apply balanced_item
    simp only [Text.Balanced, expr, shared, List.flatten_cons, List.flatten_nil, shown_append,
      shown_cons, shown_nil, Part.shown, behind_append, (hn _).behind, hreader.behind,
      Option.bind_some]
    rfl

theorem balanced_set {field : String} {value : Expr} (isOptional : Bool)
    (hfield : Text.Balanced field) (hvalue : value.Balanced) :
    Text.Balanced (Entry.joined (set n field isOptional value)) := by
  have hexpr := balanced_expr hn hvalue
  have hsome : Text.Balanced ("Some(" ++ ")") := by
    decide
  have hsetter : Text.Balanced ("builder = builder." ++ Name.setter field ++ "(" ++ ");") := by
    rw [String.append_assoc]
    exact Text.Balanced.enclosed (by decide) (hfield.congr (Text.brackets_setter field))
  rw [set, Entry.joined_block]
  refine hsetter.enclosed ?_
  split
  · rw [Entry.joined_block]
    exact hsome.enclosed hexpr
  · exact hexpr

theorem balanced_contentTypeGuard {expected : String} (h : Text.Balanced expected)
    (hquote : Text.Balanced (Text.quote expected)) :
    Text.Balanced (Entry.joined (item (contentTypeGuard n expected))) := by
  apply balanced_item
  simp only [Text.Balanced, contentTypeGuard, shared, List.flatten_cons, List.flatten_nil,
    shown_append, shown_cons, shown_nil, Part.shown, behind_append, (hn _).behind, h.behind,
    hquote.behind, Option.bind_some]
  rfl

theorem balanced_letGeneric {parser : RuntimeType Code} (h : Text.Balanced parser.path) :
    Text.Balanced (Entry.joined (item (letGeneric n parser))) := by
  apply balanced_item
  simp only [Text.Balanced, letGeneric, shared, List.flatten_cons, List.flatten_nil, shown_append,
    shown_cons, shown_nil, Part.shown, behind_append, (hn _).behind, h.behind, Option.bind_some]
  rfl

theorem balanced_returnError {variant : String} (h : Text.Balanced variant) :
    Text.Balanced (shown (returnError n variant).flatten) := by
  simp only [Text.Balanced, returnError, shared, List.flatten_cons, List.flatten_nil, shown_append,
    shown_cons, shown_nil, Part.shown, behind_append, (hn _).behind, h.behind, Option.bind_some]
  rfl

theorem balanced_returnPlainError {variant : String} (h : Text.Balanced variant) :
    Text.Balanced (Entry.joined (item (returnPlainError n variant))) := by
  apply balanced_item
  simp only [Text.Balanced, returnPlainError, shared, List.flatten_cons, List.flatten_nil,
    shown_append, shown_cons, shown_nil, Part.shown, behind_append, (hn _).behind, h.behind,
    Option.bind_some]
  rfl

theorem balanced_eventResult {variant : String} {h : Held} (hvariant : Text.Balanced variant)
    (hheld : h.Balanced) : Text.Balanced (Entry.joined (item [eventResult n variant h])) := by
  have hcontent : Text.Balanced (shown (held h)) := by
    cases h with
    | built type => exact Text.Balanced.append hheld (by decide)
    | parsed => decide
    | builder => decide
  apply balanced_item
  simp only [Text.Balanced, eventResult, shared, List.flatten_cons, List.flatten_nil, shown_append,
    shown_cons, shown_nil, Part.shown, behind_append, (hn _).behind, hvariant.behind,
    hcontent.behind, Option.bind_some]
  rfl

theorem balanced_fail {message binder : String} (hmessage : Text.Balanced message)
    (hbinder : Text.Balanced binder) :
    Text.Balanced (Entry.joined (item [fail n message binder])) := by
  apply balanced_item
  simp only [Text.Balanced, fail, unmarshalling, shared, List.flatten_cons, List.flatten_nil,
    shown_append, shown_cons, shown_nil, Part.shown, behind_append, (hn _).behind,
    hmessage.behind, hbinder.behind, Option.bind_some]
  rfl

theorem balanced_failException : Text.Balanced (Entry.joined (item (failException n))) := by
  apply balanced_item
  simp only [Text.Balanced, failException, shared, List.flatten_cons, List.flatten_nil,
    shown_append, shown_cons, shown_nil, Part.shown, behind_append, (hn _).behind, Option.bind_some]
  rfl

theorem balanced_otherHeader : Text.Balanced (Entry.joined (otherHeader n)) := by
  rw [otherHeader, Entry.joined_cons]
  refine Text.Balanced.append (by decide) (balanced_braces (by decide) (balanced_item ?_))
  simp only [Text.Balanced, shared, List.flatten_cons, List.flatten_nil, shown_append, shown_cons,
    shown_nil, Part.shown, behind_append, (hn _).behind, Option.bind_some]
  rfl

end Printing

mutual

theorem Stmt.balanced_print {n : Names} (hn : ∀ key, Text.Balanced (n key)) :
    ∀ s : Stmt, s.Balanced → Text.Balanced (Entry.joined (s.print n))
  | .skip, _ => rfl
  | .seq first second, h => by
    rw [Stmt.print, Entry.joined_append]
    exact (balanced_print hn first h.1).append (balanced_print hn second h.2)
  | .letBuilder isMutable type, h => by
    have htype : Text.Balanced type.type := h
    have hlet : Text.Balanced (if isMutable then "let mut" else "let") := by
      cases isMutable <;> decide
    rw [Stmt.print]
    apply Printing.balanced_item
    simp only [Text.Balanced, Printing.letBuilder, List.flatten_cons, List.flatten_nil,
      shown_append, shown_cons, shown_nil, Part.shown, behind_append, hlet.behind, htype.behind,
      Option.bind_some]
    rfl
  | .letParsed value, h => by
    have hlet : Text.Balanced ("let parsed =" ++ ";") := by
      decide
    rw [Stmt.print, Entry.joined_block]
    exact hlet.enclosed (Printing.balanced_expr hn h)
  | .letGeneric parser, h => Printing.balanced_letGeneric hn h
  | .checkContentType expected, h => Printing.balanced_contentTypeGuard hn h.1 h.2
  | .set field isOptional value, h => Printing.balanced_set hn isOptional h.1 h.2
  | .fillBuilder parser subject, h =>
    Printing.balanced_item (Printing.balanced_fillBuilder hn h.1 h.2)
  | .fillAndReturn parser subject variant, h => by
    rw [Stmt.print]
    apply Printing.balanced_item
    rw [List.flatten_append, shown_append]
    exact (Printing.balanced_fillBuilder hn h.1 h.2.1).append
      (Printing.balanced_returnError hn h.2.2)
  | .forHeaders arms, h => by
    rw [Stmt.print]
    apply Printing.balanced_braces (by decide)
    apply Printing.balanced_braces (by decide)
    rw [Entry.joined_append]
    exact (balanced_printArms hn arms h).append (Printing.balanced_otherHeader hn)
  | .choose subject arms binder last, h => by
    have hmatch : Text.Balanced ("match " ++ subject.text) := by
      cases subject <;> decide
    rw [Stmt.print]
    apply Printing.balanced_braces hmatch
    rw [Entry.joined_append]
    exact (balanced_printArms hn arms h.1).append
      (Printing.balanced_braces (h.2.1.append (by decide)) (balanced_print hn last h.2.2))
  | .chooseType arms, h => by
    rw [Stmt.print]
    apply Printing.balanced_braces (by decide)
    rw [Entry.joined_append]
    exact (balanced_printArms hn arms h).append (by decide)
  | .ifType label body, h => by
    have hif : Text.Balanced ("if " ++ Subject.eventType.text ++ " == ") := by
      decide
    rw [Stmt.print]
    exact Printing.balanced_braces (hif.append h.1) (balanced_print hn body h.2)
  | .event variant held, h => Printing.balanced_eventResult hn h.1 h.2
  | .unknownEvent, _ => by
    rw [Stmt.print]
    apply Printing.balanced_item
    simp only [Text.Balanced, Printing.shared, List.flatten_cons, List.flatten_nil, shown_append,
      shown_cons, shown_nil, Part.shown, behind_append, (hn _).behind, Option.bind_some]
    rfl
  | .returnPlainError variant, h => Printing.balanced_returnPlainError hn h
  | .genericError, _ => by
    rw [Stmt.print]
    apply Printing.balanced_item
    simp only [Text.Balanced, Printing.shared, List.flatten_cons, List.flatten_nil, shown_append,
      shown_cons, shown_nil, Part.shown, behind_append, (hn _).behind, Option.bind_some]
    rfl
  | .fail message binder, h => Printing.balanced_fail hn h.1 h.2
  | .failException, _ => Printing.balanced_failException hn

theorem Stmt.balanced_printArms {n : Names} (hn : ∀ key, Text.Balanced (n key)) :
    ∀ arms : List (String × Stmt), Stmt.ArmsBalanced arms →
      Text.Balanced (Entry.joined (Stmt.printArms n arms))
  | [], _ => rfl
  | (label, body) :: arms, h => by
    rw [Stmt.printArms, Entry.joined_append]
    exact (Printing.balanced_braces (h.1.append (by decide)) (balanced_print hn body h.2.1)).append
      (balanced_printArms hn arms h.2.2)

end

end CrateGen.EventStream
