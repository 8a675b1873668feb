import CrateGen.Proofs.EventStream.Printed

namespace CrateGen.EventStream

open Template (Part Clean IsLine fill sheet)

/-- The texts that an unmarshaller writes into templates have no line ends and no directives. -/
structure Plan.Named (plan : Plan) : Prop where
  unmarshaller : ∃ stem, Clean stem ∧ plan.unmarshaller = stem ++ "Unmarshaller"
  events : ∀ branch ∈ plan.events, Clean branch.variant ∧ branch.body.Named
  errors : ∀ branch ∈ plan.errors, Clean branch.eventType ∧ Clean branch.variant

section

variable {n : Names} {scopes : List Scope}

theorem writes_fail (h : Shares n scopes) {message binder : String} (hm : Clean message)
    (hb : Clean binder) :
    Code.Writes scopes
      (Code.template ("return Err(" ++ unmarshalling message binder ++ ");") [])
      ((Stmt.fail message binder).print n) := by
  rw [Stmt.print]
  refine Code.Writes.template rfl ⟨?_, Text.startsFlush_literal rfl (by decide), ?_, ?_⟩
  · simp only [Printing.fail, Printing.unmarshalling, Printing.shared, unmarshalling, hole,
      List.map_cons, List.map_nil, Template.written, List.foldr_cons, List.foldr_nil, Part.written,
      String.append_assoc, String.append_empty, Text.unlines, String.intercalate_singleton,
      List.cons_append, List.nil_append]
  · exact ⟨fits_literal rfl (by decide), h.push_nil "Error" (by decide),
      fits_literal rfl (by decide), hm, fits_literal rfl (by decide), hb,
      fits_literal rfl (by decide), fits_literal rfl (by decide)⟩
  · exact Text.endsFlush_literal rfl (by decide)

theorem writes_unknownEvent (h : Shares n scopes) :
    Code.Writes scopes
      (Code.template ("Ok(" ++ hole "UnmarshalledMessage" ++ "::Event(" ++ hole "Output" ++ "::" ++
        unknownVariant ++ "))") [])
      (Stmt.unknownEvent.print n) := by
  rw [Stmt.print]
  refine Code.Writes.template rfl ⟨?_, Text.startsFlush_literal rfl (by decide), ?_, ?_⟩
  · simp only [Printing.shared, hole, List.map_cons, List.map_nil, Template.written,
      List.foldr_cons, List.foldr_nil, Part.written, String.append_assoc, String.append_empty,
      Text.unlines, String.intercalate_singleton]
  · exact ⟨fits_literal rfl (by decide), h.push_nil "UnmarshalledMessage" (by decide),
      fits_literal rfl (by decide), h.push_nil "Output" (by decide),
      fits_literal rfl (by decide), fits_literal rfl (by decide), fits_literal rfl (by decide)⟩
  · exact Text.endsFlush_literal rfl (by decide)

theorem matchType_eq :
    "match response_headers.smithy_type.as_str()" = "match " ++ Subject.eventType.text := by
  decide

theorem writes_events (h : Shares n scopes) {plan : Plan} (hplan : plan.Named) :
    Code.Writes scopes plan.writeEvents (plan.eventStmt.print n) := by
  have harms : Code.Writes scopes (Code.join (plan.events.map writeEvent))
      (Stmt.printArms n (plan.events.map EventBranch.arm)) := by
    refine writes_arms fun branch hb => ?_
    obtain ⟨hvariant, hbody⟩ := hplan.events branch hb
    exact writes_labelled branch.eventType (writes_body h hvariant hbody)
  have hlast : Code.Writes scopes (writeUnknownEvent plan.target)
      (Printing.braces "_unknown_variant =>" (plan.catchAll.print n)) := by
    rw [Plan.catchAll]
    refine writes_block rfl (by decide) (by decide) (by decide) ?_
    split
    · exact writes_unknownEvent h
    · exact writes_fail h (Clean.literal rfl (by decide)) (Clean.literal rfl (by decide))
  rw [Plan.writeEvents, Plan.eventStmt, Stmt.print, ← matchType_eq]
  exact writes_block rfl (by decide) (by decide) (by decide) (harms.seq hlast)

/-! ## Exceptions -/

theorem isLine_fillBuilder (h : Shares n scopes) {parser : RuntimeType Code} {subject : String}
    (hs : Clean subject) :
    (Printing.fillBuilder n parser subject).Forall
      (IsLine ([(lowercase "parser", "parser", .type parser)] :: scopes)) := by
  have hcall : IsLine ([(lowercase "parser", "parser", .type parser)] :: scopes)
      [.text "builder = ", .hole "parser" parser.path,
        .text "(&message.payload()[..], builder)"] := by
    refine ⟨⟨?_, ?_, ?_⟩, ?_⟩
    · exact fits_literal rfl (by decide)
    · exact fits_own (by decide) rfl
    · exact fits_literal rfl (by decide)
    · exact Text.endsFlush_literal rfl (by decide)
  exact isLine_parserCall (h.push (own_ne_shared "parser" (by decide)) (.type parser)) hcall hs
    (.inr rfl)

theorem written_fillBuilder (parser : RuntimeType Code) (subject : String) :
    fillError subject = (Printing.fillBuilder n parser subject).map Template.written := by
  have hend : r"    })?" ++ ";" = r"    })?;" := by
    decide
  simp only [Printing.fillBuilder, Printing.parserCall, Printing.unmarshalling, Printing.shared,
    fillError, parserCall, unmarshalling, hole, hend, List.map_cons, List.map_nil,
    Template.written, List.foldr_cons, List.foldr_nil, Part.written, String.append_assoc,
    String.append_empty, List.cons_append, List.nil_append]

theorem writes_fillBuilder (h : Shares n scopes) (parser : RuntimeType Code) {subject : String}
    (hs : Clean subject) :
    Code.Writes scopes (Code.template (paragraph (fillError subject)) [typeArg "parser" parser])
      ((Stmt.fillBuilder parser subject).print n) := by
  rw [Stmt.print, written_fillBuilder (n := n) parser]
  exact Code.Writes.template rfl
    ⟨rfl, Text.startsFlush_literal rfl (by decide), isLine_fillBuilder h hs⟩

theorem writes_fillAndReturn (h : Shares n scopes) (parser : RuntimeType Code)
    {subject variant : String} (hs : Clean subject) (hv : Clean variant) :
    Code.Writes scopes
      (Code.template (paragraph (fillError subject ++ [
        "return Ok(" ++ hole "UnmarshalledMessage" ++ "::Error(",
        "    " ++ hole "OpError" ++ "::new(",
        "        " ++ hole "OpError" ++ "Kind::" ++ variant ++ "(builder.build()),",
        "        generic,",
        "    )",
        "))"])) [typeArg "parser" parser])
      ((Stmt.fillAndReturn parser subject variant).print n) := by
  have hshares := h.push (own_ne_shared "parser" (by decide)) (.type parser)
  rw [Stmt.print]
  refine Code.Writes.template rfl ⟨?_, Text.startsFlush_literal rfl (by decide),
    List.forall_append.mpr ⟨isLine_fillBuilder h hs, ⟨?_, ?_⟩, ⟨?_, ?_⟩, ⟨?_, ?_⟩, ?_, ?_, ?_⟩⟩
  · rw [paragraph, written_fillBuilder (n := n) parser, List.map_append]
    simp only [Printing.returnError, Printing.shared, hole, List.map_cons, List.map_nil,
      Template.written, List.foldr_cons, List.foldr_nil, Part.written, String.append_assoc,
      String.append_empty]
  · exact ⟨fits_literal rfl (by decide), hshares "UnmarshalledMessage" (by decide),
      fits_literal rfl (by decide)⟩
  · exact Text.endsFlush_literal rfl (by decide)
  · exact ⟨fits_literal rfl (by decide), hshares "OpError" (by decide),
      fits_literal rfl (by decide)⟩
  · exact Text.endsFlush_literal rfl (by decide)
  · exact ⟨fits_literal rfl (by decide), hshares "OpError" (by decide),
      fits_literal rfl (by decide), hv, fits_literal rfl (by decide)⟩
  · exact Text.endsFlush_literal rfl (by decide)
  · exact isLine_literal rfl (by decide) (by decide)
  · exact isLine_literal rfl (by decide) (by decide)
  · exact isLine_literal rfl (by decide) (by decide)

theorem writes_returnPlainError (h : Shares n scopes) {variant : String} (hv : Clean variant) :
    Code.Writes scopes
      (Code.template (paragraph [
        "return Ok(" ++ hole "UnmarshalledMessage" ++ "::Error(",
        "    " ++ hole "OpError" ++ "::" ++ variant ++ "(",
        "        builder.build()",
        "    )",
        "))"]) [])
      ((Stmt.returnPlainError variant).print n) := by
  rw [Stmt.print]
  refine Code.Writes.template rfl ⟨?_, Text.startsFlush_literal rfl (by decide),
    ⟨?_, ?_⟩, ⟨?_, ?_⟩, ?_, ?_, ?_⟩
  · simp only [Printing.returnPlainError, Printing.shared, paragraph, hole, List.map_cons,
      List.map_nil, Template.written, List.foldr_cons, List.foldr_nil, Part.written,
      String.append_assoc, String.append_empty]
  · exact ⟨fits_literal rfl (by decide), h.push_nil "UnmarshalledMessage" (by decide),
      fits_literal rfl (by decide)⟩
  · exact Text.endsFlush_literal rfl (by decide)
  · exact ⟨fits_literal rfl (by decide), h.push_nil "OpError" (by decide),
      fits_literal rfl (by decide), hv, fits_literal rfl (by decide)⟩
  · exact Text.endsFlush_literal rfl (by decide)
  · exact isLine_literal rfl (by decide) (by decide)
  · exact isLine_literal rfl (by decide) (by decide)
  · exact isLine_literal rfl (by decide) (by decide)

theorem writes_modeledError (h : Shares n scopes) (plan : Plan) {branch : ErrorBranch}
    (he : Clean branch.eventType) (hv : Clean branch.variant) :
    Code.Writes scopes (plan.writeModeledError branch)
      ((branch.stmt plan.target).print n) := by
  unfold Plan.writeModeledError ErrorBranch.stmt
  cases plan.target with
  | client =>
    cases branch.parser with
    | none => exact .nothing
    | some parser =>
      exact (writes_letMutBuilder branch.builder).seq (writes_fillAndReturn h parser he hv)
  | server =>
    cases branch.parser with
    | none =>
      have hbuilder : Code.Writes scopes _ _ := writes_letBuilder (n := n) false branch.builder
      have hnothing := hbuilder.seq .nothing
      rw [List.append_nil] at hnothing
      exact hnothing.seq (writes_returnPlainError h hv)
    | some parser =>
      exact ((writes_letBuilder true branch.builder).seq (writes_fillBuilder h parser he)).seq
        (writes_returnPlainError h hv)

theorem writes_errorChoice (h : Shares n scopes) {plan : Plan} (hplan : plan.Named) :
    Code.Writes scopes plan.writeErrorBranches (plan.errorChoice.print n) := by
  have hbranch (branch : ErrorBranch) (hb : branch ∈ plan.errors) :=
    writes_modeledError h plan (hplan.errors branch hb).1 (hplan.errors branch hb).2
  rw [Plan.writeErrorBranches, Plan.errorChoice]
  cases herrors : plan.errors with
  | nil => exact .nothing
  | cons branch rest =>
    rw [herrors] at hbranch
    cases rest with
    | nil =>
      have hif : "if response_headers.smithy_type.as_str() == " =
          "if " ++ Subject.eventType.text ++ " == " := by
        decide
      have hstarts : Text.startsFlush ("if response_headers.smithy_type.as_str() == " ++
          Text.quote branch.eventType) = true :=
        Text.startsFlush_append (Text.startsFlush_literal rfl (by decide))
      have hfirm : Text.Firm ("if response_headers.smithy_type.as_str() == " ++
          Text.quote branch.eventType) :=
        ⟨Text.noBreak_append (Clean.literal rfl (by decide)).noBreak (Text.noBreak_quote _),
          Text.endsFlush_append (Text.endsFlush_quote _)⟩
      have hblock := Code.Writes.block hstarts hfirm (hbranch branch List.mem_cons_self)
      dsimp only
      rw [Stmt.print, ← hif]
      exact hblock
    | cons next rest =>
      have harms : Code.Writes scopes
          (Code.join ((branch :: next :: rest).map fun branch =>
            Code.block (Text.quote branch.eventType ++ " =>") (plan.writeModeledError branch)))
          (Stmt.printArms n ((branch :: next :: rest).map (ErrorBranch.arm plan.target))) :=
        writes_arms fun b hb => writes_labelled b.eventType (hbranch b hb)
      have hother : Code.Writes scopes (Code.line "_ => {}") [⟨.marked, 0, "_ => {}"⟩] :=
        Code.Writes.line (Text.dedent_line (Text.startsFlush_literal rfl (by decide))
          ⟨(Clean.literal rfl (by decide)).noBreak, Text.endsFlush_literal rfl (by decide)⟩)
      dsimp only
      rw [Stmt.print, ← matchType_eq]
      exact writes_block rfl (by decide) (by decide) (by decide) (harms.seq hother)

theorem writes_letGeneric (h : Shares n scopes) (parser : RuntimeType Code) :
    Code.Writes scopes
      (Code.template (paragraph [
        "let generic = match " ++ hole "parse_generic_error" ++ r"(message.payload()) {",
        "    Ok(generic) => generic,",
        "    Err(err) => return Ok(" ++ hole "UnmarshalledMessage" ++ "::Error(" ++
          hole "OpError" ++ "::unhandled(err))),",
        r"};"]) [typeArg "parse_generic_error" parser])
      ((Stmt.letGeneric parser).print n) := by
  have hshares := h.push (own_ne_shared "parse_generic_error" (by decide)) (.type parser)
  rw [Stmt.print]
  refine Code.Writes.template rfl ⟨?_, Text.startsFlush_literal rfl (by decide),
    ⟨?_, ?_⟩, ?_, ⟨?_, ?_⟩, ?_⟩
  · simp only [Printing.letGeneric, Printing.shared, paragraph, hole, List.map_cons, List.map_nil,
      Template.written, List.foldr_cons, List.foldr_nil, Part.written, String.append_assoc,
      String.append_empty]
  · exact ⟨fits_literal rfl (by decide), fits_own (by decide) rfl,
      fits_literal rfl (by decide)⟩
  · exact Text.endsFlush_literal rfl (by decide)
  · exact isLine_literal rfl (by decide) (by decide)
  · exact ⟨fits_literal rfl (by decide), hshares "UnmarshalledMessage" (by decide),
      fits_literal rfl (by decide), hshares "OpError" (by decide), fits_literal rfl (by decide)⟩
  · exact Text.endsFlush_literal rfl (by decide)
  · exact isLine_literal rfl (by decide) (by decide)

theorem writes_genericError (h : Shares n scopes) :
    Code.Writes scopes
      (Code.template ("Ok(" ++ hole "UnmarshalledMessage" ++ "::Error(" ++ hole "OpError" ++
        "::generic(generic)))") [])
      (Stmt.genericError.print n) := by
  rw [Stmt.print]
  refine Code.Writes.template rfl ⟨?_, Text.startsFlush_literal rfl (by decide), ?_, ?_⟩
  · simp only [Printing.shared, hole, List.map_cons, List.map_nil, Template.written,
      List.foldr_cons, List.foldr_nil, Part.written, String.append_assoc, String.append_empty,
      Text.unlines, String.intercalate_singleton]
  · exact ⟨fits_literal rfl (by decide), h.push_nil "UnmarshalledMessage" (by decide),
      fits_literal rfl (by decide), h.push_nil "OpError" (by decide),
      fits_literal rfl (by decide)⟩
  · exact Text.endsFlush_literal rfl (by decide)

theorem writes_failException (h : Shares n scopes) :
    Code.Writes scopes
      (Code.template (paragraph [
        "return Err(" ++ hole "Error" ++ "::unmarshalling(",
        "    format!(\"unrecognized exception: {}\", response_headers.smithy_type.as_str()),",
        "));"]) [])
      (Stmt.failException.print n) := by
  rw [Stmt.print]
  refine Code.Writes.template rfl ⟨?_, Text.startsFlush_literal rfl (by decide),
    ⟨?_, ?_⟩, ?_, ?_⟩
  · simp only [Printing.failException, Printing.shared, paragraph, hole, List.map_cons,
      List.map_nil, Template.written, List.foldr_cons, List.foldr_nil, Part.written,
      String.append_assoc, String.append_empty]
  · exact ⟨fits_literal rfl (by decide), h.push_nil "Error" (by decide),
      fits_literal rfl (by decide)⟩
  · exact Text.endsFlush_literal rfl (by decide)
  · exact isLine_literal rfl (by decide) (by decide)
  · exact isLine_literal rfl (by decide) (by decide)

theorem writes_errors (h : Shares n scopes) {plan : Plan} (hplan : plan.Named) :
    Code.Writes scopes plan.writeErrors (plan.errorStmt.print n) := by
  have hchoice := writes_errorChoice h hplan
  unfold Plan.writeErrors Plan.errorStmt Plan.genericStmt Plan.lastStmt
  refine Code.Writes.seq (Code.Writes.seq ?_ hchoice) ?_
  · cases plan.genericErrorParser with
    | none => exact .nothing
    | some parser => exact writes_letGeneric h parser
  · cases plan.target with
    | client => exact writes_genericError h
    | server => exact writes_failException h

/-! ## The whole unmarshaller -/

theorem writes_dispatch (h : Shares n scopes) {plan : Plan} (hplan : plan.Named) :
    Code.Writes scopes plan.writeDispatch
      (Printing.readHeaders n ++ plan.program.print n) := by
  have hread : Code.Writes scopes
      (Code.template ("let response_headers = " ++ hole "expect_fns" ++
        "::parse_response_headers(message)?;") []) (Printing.readHeaders n) := by
    refine Code.Writes.template rfl ⟨?_, Text.startsFlush_literal rfl (by decide), ?_, ?_⟩
    · simp only [Printing.shared, hole, List.map_cons, List.map_nil, Template.written,
        List.foldr_cons, List.foldr_nil, Part.written, String.append_assoc, String.append_empty,
        Text.unlines, String.intercalate_singleton]
    · exact ⟨fits_literal rfl (by decide), h.push_nil "expect_fns" (by decide),
        fits_literal rfl (by decide)⟩
    · exact Text.endsFlush_literal rfl (by decide)
  have hevent := writes_labelled "event" (writes_events h hplan)
  have hexception := writes_labelled "exception" (writes_errors h hplan)
  have hother : Code.Writes scopes (Code.block "value =>" (Code.template
      ("return Err(" ++ unmarshalling "unrecognized :message-type" "value" ++ ");") []))
      (Printing.braces "value =>" ((Stmt.fail "unrecognized :message-type" "value").print n)) :=
    writes_block rfl (by decide) (by decide) (by decide)
      (writes_fail h (Clean.literal rfl (by decide)) (Clean.literal rfl (by decide)))
  have hmatch : "match response_headers.message_type.as_str()" =
      "match " ++ Subject.messageType.text := by
    decide
  have hquotes : "\"event\" =>" = Text.quote "event" ++ " =>" ∧
      "\"exception\" =>" = Text.quote "exception" ++ " =>" := by
    rw [quote_plain.2.2.1, quote_plain.2.2.2]
    decide
  have hvalue : "value" ++ " =>" = "value =>" := by
    decide
  have harms := (hevent.seq hexception).seq hother
  rw [Plan.writeDispatch, hquotes.1, hquotes.2, Plan.program, Stmt.print, ← hmatch, hvalue,
    Stmt.printArms, Stmt.printArms, Stmt.printArms, List.append_nil]
  exact hread.seq (writes_block rfl (by decide) (by decide) (by decide) harms)

end

def Plan.bound (plan : Plan) : Scope :=
  plan.scope.map fun a => (lowercase a.1, a.1, a.2)

def Plan.names (plan : Plan) : Names := fun key =>
  ((plan.bound.get? (lowercase key)).bind Template.text?).getD ""

/-- The unit struct of an unmarshaller with its constructor. -/
def Plan.declaration (plan : Plan) : List String :=
  ["#[non_exhaustive]",
   "#[derive(Debug)]",
   "pub struct " ++ plan.unmarshaller ++ ";",
   "",
   "impl " ++ plan.unmarshaller ++ r" {",
   r"    pub fn new() -> Self {",
   "        " ++ plan.unmarshaller,
   r"    }",
   r"}"]

namespace Printing

variable (n : Names)

def implHeader (unmarshaller : String) : List (List Part) :=
  [[.text "impl ", shared n "UnmarshallMessage", .text " for ", .text unmarshaller]]

def functionHeader : List (List Part) :=
  [[.text "fn unmarshall("],
   [.text "    &self,"],
   [.text "    message: &", shared n "Message"],
   [.text ") -> std::result::Result<", shared n "UnmarshalledMessage",
    .text "<Self::Output, Self::Error>, ", shared n "Error", .text ">"]]

end Printing

/-- The text of an unmarshaller: a function whose body is the program of the plan. -/
def Plan.printed (plan : Plan) : List Entry :=
  ⟨.marked, 0, Text.unlines plan.declaration⟩ ::
    Printing.braces (fill (sheet (Printing.implHeader plan.names plan.unmarshaller)))
      (Printing.item [[.text "type Output = ", Printing.shared plan.names "Output", .text ";"]] ++
        Printing.item [[.text "type Error = ", Printing.shared plan.names "OpError", .text ";"]] ++
        Printing.braces (fill (sheet (Printing.functionHeader plan.names)))
          (Printing.readHeaders plan.names ++ plan.program.print plan.names))

theorem sharedKeys_nodup : (sharedKeys.map lowercase).Nodup := by
  have hnodup := keys_sound.2
  rw [List.map_append] at hnodup
  exact (List.nodup_append.mp hnodup).2.1

/-- In the scope of an unmarshaller the shared keys stand for their names. -/
theorem Plan.shares (plan : Plan) (scopes : List Scope) :
    Shares plan.names (plan.bound :: scopes) := by
  have hnodup : (plan.scope.map fun a => lowercase a.1).Nodup := sharedKeys_nodup
  intro key hkey
  refine ⟨keys_sound.1 key (List.mem_append_right _ hkey), ?_⟩
  have hkeys : key ∈ plan.scope.map (·.1) := hkey
  obtain ⟨⟨k, arg⟩, hmem, hk⟩ := List.mem_map.mp hkeys
  have hk : key = k := hk.symm
  subst hk
  have hget : plan.bound.get? (lowercase key) = some arg := Scope.get?_ofArgs hnodup hmem
  have htext : (Template.text? arg).isSome = true := by
    have hall : ∀ a ∈ plan.scope, (Template.text? a.2).isSome = true :=
      List.forall_iff_forall_mem.mp ⟨rfl, rfl, rfl, rfl, rfl, rfl, rfl, rfl, rfl⟩
    exact hall _ hmem
  obtain ⟨name, hname⟩ := Option.isSome_iff_exists.mp htext
  refine ⟨arg, ?_, ?_⟩
  · rw [Scope.lookup, List.findSome?_cons, hget]
  · rw [Plan.names, hget, Option.bind_some, hname, Option.getD_some]

theorem startsFlush_fillFrom {out : String} (h : Text.startsFlush out = true) (parts : List Part) :
    Text.startsFlush (Template.fillFrom out parts) = true := by
  induction parts generalizing out with
  | nil => exact h
  | cons part parts ih =>
    cases part with
    | text s => exact ih (Text.startsFlush_append h)
    | hole key name => exact ih (Text.startsFlush_append h)

theorem startsFlush_fill {s : String} (h : Text.startsFlush s = true) (parts : List Part) :
    Text.startsFlush (fill (.text s :: parts)) = true := by
  refine startsFlush_fillFrom ?_ parts
  rw [String.empty_append]
  exact h

theorem Plan.Named.unmarshaller_flush {plan : Plan} (hplan : plan.Named) :
    Clean plan.unmarshaller ∧ Text.endsFlush plan.unmarshaller = true := by
  obtain ⟨stem, hstem, hname⟩ := hplan.unmarshaller
  rw [hname]
  exact ⟨hstem.append (Clean.literal rfl (by decide)),
    Text.endsFlush_append (Text.endsFlush_literal rfl (by decide))⟩

theorem writes_declaration (scopes : List Scope) {plan : Plan} (hplan : plan.Named) :
    Code.Writes scopes plan.writeDeclaration [⟨.marked, 0, Text.unlines plan.declaration⟩] := by
  obtain ⟨hclean, hends⟩ := hplan.unmarshaller_flush
  have hliteral {s : String} {cs : List Char} (h : s = .ofList cs)
      (hc : (Template.isPlain cs && !cs.contains '\n') = true)
      (he : (cs.getLast?.any fun c => !isBlank c) = true) : s = "" ∨ Text.Firm s :=
    .inr ⟨(Clean.literal h hc).noBreak, Text.endsFlush_literal h he⟩
  have hstruct : Text.Firm ("pub struct " ++ plan.unmarshaller ++ ";") :=
    ⟨((Clean.literal rfl (by decide)).append hclean |>.append (Clean.literal rfl (by decide))).noBreak,
      Text.endsFlush_append (Text.endsFlush_literal rfl (by decide))⟩
  have himpl : Text.Firm ("impl " ++ plan.unmarshaller ++ r" {") :=
    ⟨((Clean.literal rfl (by decide)).append hclean |>.append (Clean.literal rfl (by decide))).noBreak,
      Text.endsFlush_append (Text.endsFlush_literal rfl (by decide))⟩
  have hself : Text.Firm ("        " ++ plan.unmarshaller) :=
    ⟨((Clean.literal rfl (by decide)).append hclean).noBreak, Text.endsFlush_append hends⟩
  refine Code.Writes.line (Text.dedent_unlines (Text.startsFlush_literal rfl (by decide))
    (List.forall_iff_forall_mem.mp ⟨?_, ?_, ?_, ?_, ?_, ?_, ?_, ?_, ?_⟩) fun last hl => ?_)
  · exact hliteral rfl (by decide) (by decide)
  · exact hliteral rfl (by decide) (by decide)
  · exact .inr hstruct
  · exact .inl rfl
  · exact .inr himpl
  · exact hliteral rfl (by decide) (by decide)
  · exact .inr hself
  · exact hliteral rfl (by decide) (by decide)
  · exact hliteral rfl (by decide) (by decide)
  · cases hl
    exact Text.endsFlush_literal rfl (by decide)

/-- The code of an unmarshaller writes the program of the plan into its function. -/
theorem Plan.Named.writes {plan : Plan} (hplan : plan.Named) (scopes : List Scope) :
    Code.Writes scopes plan.writeUnmarshaller plan.printed := by
  obtain ⟨hclean, hends⟩ := hplan.unmarshaller_flush
  have h := plan.shares scopes
  refine (writes_declaration scopes hplan).seq (Code.Writes.scope
    (Scope.ofArgs_eq_ok sharedKeys_nodup) ?_)
  refine Code.Writes.blockTemplate rfl ⟨?_, Text.startsFlush_literal rfl (by decide), ?_, ?_⟩ ?_ ?_
  · simp only [Printing.implHeader, Printing.shared, hole, List.map_cons, List.map_nil,
      Template.written, List.foldr_cons, List.foldr_nil, Part.written, String.append_assoc,
      String.append_empty, Text.unlines, String.intercalate_singleton]
  · exact ⟨fits_literal rfl (by decide), h.push_nil "UnmarshallMessage" (by decide),
      fits_literal rfl (by decide), hclean⟩
  · exact hends
  · exact startsFlush_fill (Text.startsFlush_literal rfl (by decide)) _
  have hin := h.push_nil
  refine Code.Writes.seq (Code.Writes.seq ?_ ?_) ?_
  · refine Code.Writes.template rfl ⟨?_, Text.startsFlush_literal rfl (by decide), ?_, ?_⟩
    · simp only [Printing.shared, hole, List.map_cons, List.map_nil, Template.written,
        List.foldr_cons, List.foldr_nil, Part.written, String.append_assoc, String.append_empty,
        Text.unlines, String.intercalate_singleton]
    · exact ⟨fits_literal rfl (by decide), hin.push_nil "Output" (by decide),
        fits_literal rfl (by decide)⟩
    · exact Text.endsFlush_literal rfl (by decide)
  · refine Code.Writes.template rfl ⟨?_, Text.startsFlush_literal rfl (by decide), ?_, ?_⟩
    · simp only [Printing.shared, hole, List.map_cons, List.map_nil, Template.written,
        List.foldr_cons, List.foldr_nil, Part.written, String.append_assoc, String.append_empty,
        Text.unlines, String.intercalate_singleton]
    · exact ⟨fits_literal rfl (by decide), hin.push_nil "OpError" (by decide),
        fits_literal rfl (by decide)⟩
    · exact Text.endsFlush_literal rfl (by decide)
  · refine Code.Writes.blockTemplate rfl ⟨?_, Text.startsFlush_literal rfl (by decide),
      ?_, ?_, ⟨?_, ?_⟩, ?_, ?_⟩ ?_ (writes_dispatch hin.push_nil hplan)
    · simp only [Printing.functionHeader, Printing.shared, paragraph, hole, List.map_cons,
        List.map_nil, Template.written, List.foldr_cons, List.foldr_nil, Part.written,
        String.append_assoc, String.append_empty]
    · exact isLine_literal rfl (by decide) (by decide)
    · exact isLine_literal rfl (by decide) (by decide)
    · exact ⟨fits_literal rfl (by decide), hin.push_nil "Message" (by decide)⟩
    · exact trivial
    · exact ⟨fits_literal rfl (by decide), hin.push_nil "UnmarshalledMessage" (by decide),
        fits_literal rfl (by decide), hin.push_nil "Error" (by decide),
        fits_literal rfl (by decide)⟩
    · exact Text.endsFlush_literal rfl (by decide)
    · exact startsFlush_fill (Text.startsFlush_literal rfl (by decide)) _

end CrateGen.EventStream
