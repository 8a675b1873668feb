import CrateGen.Code.Writer

namespace CrateGen

/-- Why a run stops early: it failed, or its code is spliced into itself more deeply than the run
allows. -/
inductive Halt where
  | failed (e : Error)
  | exhausted

/-- Actions on a state that is kept when they stop early. -/
abbrev Action (σ : Type) := ExceptT Halt (StateM σ)

namespace Action

def fail (e : Error) : Action σ α :=
  throw (.failed e)

def ofExcept : Except Error α → Action σ α
  | .ok a => pure a
  | .error e => fail e

/-- Runs an action between two changes of the state; the second is made however it ends. -/
def between (enter leave : σ → σ) (action : Action σ α) : Action σ α :=
  ExceptT.mk fun s =>
    let (result, s) := action.run.run (enter s)
    (result, leave s)

/-- Runs an action as far as it goes, and does not fail with it. -/
def attempt (action : Action σ Unit) : Action σ Unit :=
  ExceptT.mk fun s =>
    match action.run.run s with
    | (.error (.failed _), s) => (.ok (), s)
    | outcome => outcome

end Action

abbrev WriterM := Action Writer

namespace WriterM

def inScope (args : List (String × Arg Code)) (action : WriterM α) : WriterM α := do
  let scope ← Action.ofExcept (Scope.ofArgs args)
  Action.between (·.pushScope scope) Writer.popScope action

/-- Runs an action one level deeper between two lines, of which the last is written however the
action ends. -/
def within (before after : String) (action : WriterM α) : WriterM α :=
  Action.between (·.openBlock (Text.trim before)) (·.closeBlock (Text.trim after)) action

/-- Runs an action on a fragment of the file. Names given out in it stay given out, however it
ends. -/
def onFragment (ns : String → String) (action : WriterM Unit) : WriterM Writer :=
  ExceptT.mk fun w =>
    let (result, child) := action.run.run (w.fragment (ns w.ns))
    (result.map fun _ => child, { w with issued := child.issued })

def blockHeader (header : String) : String :=
  if header == "" then r"{" else header ++ r" {"

end WriterM

namespace Code

variable (splice : Code → WriterM Unit)

/-- The text of a fragment, without the line ends at its end. What it records is recorded by the
writer too. -/
def renderFragment (c : Code) : WriterM String := do
  let child ← WriterM.onFragment id (splice c)
  modify (·.merge child)
  return .ofList (Text.dropTrailing (· == '\n') child.page.text.toList)

/-- The text of an argument, by the letter of its directive: a type's path (`T`), a fragment
(`W`), or a link in documentation (`D`). -/
def renderArg (key : String) (kind : Char) (arg : Arg Code) : WriterM String :=
  let invalid (expected : String) : WriterM String :=
    Action.fail (.invalidTemplateArgument key kind expected)
  match kind, arg with
  | 'T', .symbol s => do
    modify (·.mention s)
    return s.type
  | 'T', .type t => do
    modify (·.mentionType t)
    return t.path
  | 'T', .literal l => return l
  | 'T', .code c => renderFragment splice c
  | 'W', .code c => renderFragment splice c
  | 'W', _ => invalid "a writable"
  | 'D', .symbol s => do
    modify (·.mention s)
    return "[`" ++ s.name ++ "`](" ++ s.type ++ ")"
  | 'D', .type t => do
    modify (·.mentionType t)
    return "[`" ++ t.name ++ "`](" ++ t.path ++ ")"
  | 'D', _ => invalid "a symbol or runtime type"
  | _, _ => invalid "one of `:T`, `:W`, `:D`"

def renderDirective (key : String) (kind : Char) : WriterM String := do
  match Scope.lookup (← get).scopes key with
  | none => Action.fail (.unbound key [])
  | some arg => renderArg splice key kind arg

/-- Renders the pieces of a canonical template behind the text `out`. Later lines of an argument
are indented like the line that it stands on. -/
def expand (out : String) : List Template.Piece → WriterM String
  | [] => return out
  | .char c :: rest => expand (out.push c) rest
  | .sharp :: rest => expand (out.push '#') rest
  | .directive key kind :: rest => do
    let text ← renderDirective splice key (kind.getD 'T')
    expand (out ++ Text.hang (Text.lastIndent out) text) rest

/-- The text of a template in the scopes in force. -/
def renderTemplate (template : String) : WriterM String := do
  let scopes := (← get).scopes
  let canonical ← Action.ofExcept
    (Template.canonicalize scopes (Text.dedent template).toList)
  expand splice "" (Template.Form.canonical.pieces 0 canonical)

/-- Runs code on a writer. Fragments that templates refer to are run by `splice`. -/
def exec : Code → WriterM Unit
  | .nothing => pure ()
  | .seq first second => do
    exec first
    exec second
  | .fail e => Action.fail e
  | .attempt body => Action.attempt (exec body)
  | .line text => modify fun w => w.mark.emitLine (Text.dedent text)
  | .inlineText text => modify (·.emit (Text.dedent text))
  | .template text args => do
    let rendered ← WriterM.inScope args (renderTemplate splice text)
    modify fun w => w.mark.emitLine rendered
  | .inlineTemplate text args => do
    let rendered ← WriterM.inScope args (renderTemplate splice text)
    modify (·.emit rendered)
  | .scope args body => WriterM.inScope args (exec body)
  | .openBlock header => modify (·.openBlock header)
  | .closeBlock footer => modify (·.closeBlock footer)
  | .within before after body => WriterM.within before after (exec body)
  | .block header body => do
    modify Writer.mark
    WriterM.within (WriterM.blockHeader (Text.dedent header)) r"}" (exec body)
  | .blockTemplate header args body => do
    modify Writer.mark
    WriterM.inScope args do
      let header ← renderTemplate splice header
      WriterM.within (WriterM.blockHeader header) r"}" (exec body)
  | .withinTemplate before after args body =>
    WriterM.inScope args do
      let before ← renderTemplate splice before
      let after ← renderTemplate splice after
      WriterM.within before after (exec body)
  | .comment style text => modify (·.comment style text)
  | .addUse path => modify (·.addUse path)
  | .declare m => modify (·.declare m)
  | .depend d => modify (·.depend d)
  | .mention s => modify (·.mention s)
  | .withName base body => do
    let name := (← get).freshName base
    modify (·.issue name)
    exec (body name)
  | .look body => do
    exec (body (← get).view)
  | .preamble body => do
    let child ← WriterM.onFragment id (exec body)
    modify fun w =>
      let w := w.merge child
      { w with preamble := w.preamble ++ [Text.trimEnd child.page.text] }
  | .inlineModule m body => do
    let inner ← WriterM.onFragment (· ++ "::" ++ m.name) (exec body)
    modify (·.embed m inner)

/-- Runs code on a writer. `depth` bounds how deeply fragments are spliced into fragments. -/
def run : Nat → Code → WriterM Unit
  | 0 => fun _ => throw .exhausted
  | depth + 1 => exec (run depth)

end Code

end CrateGen
