import CrateGen.Code.FileTree
import CrateGen.Code.Run
import CrateGen.Settings

namespace CrateGen

/-- The generated crate: a writer for each file by its path, and for each inline module a writer
of its own by its full path, which becomes a block of its parent when the crate is finalized. -/
structure Crate where
  showsBanner : Bool := false
  debugMode : Bool := false
  files : Std.ExtTreeMap String Writer := ∅
  inlineModules : Std.ExtTreeMap String (Module × Writer) := ∅
  /-- The keys of the inline items rendered so far, in order. -/
  rendered : List String := []
  finalized : Bool := false

abbrev CrateM := Action Crate

namespace Crate

def ofSettings (s : Settings) : Crate :=
  { showsBanner := s.codegen.includeBanner, debugMode := s.codegen.debugMode }

def newFile (c : Crate) (m : Module) : Writer :=
  { Writer.ofModule m with showsBanner := c.showsBanner, debugMode := c.debugMode }

def newInline? (c : Crate) (m : Module) : Except Error Writer := do
  let w ← Writer.ofFile? m.filePath m.fullPath
  return { w with showsBanner := false, debugMode := c.debugMode }

def modifyFile (c : Crate) (path : String) (f : Writer → Writer) : Crate :=
  { c with files := c.files.modify path f }

/-- Creates the file of the first module of a chain unless it exists, and declares it in the file
of the next, which is created first. -/
def openChain (c : Crate) : List Module → Crate
  | [] => c
  | m :: above =>
    if c.files.contains m.filePath then c
    else
      let c := match above with
        | [] => c
        | parent :: _ => (c.openChain above).modifyFile parent.filePath (·.declare m)
      { c with files := c.files.insertIfNew m.filePath (c.newFile m) }

/-- Creates the file of a file module unless it exists. -/
def openFile (c : Crate) (m : Module) : Crate :=
  c.openChain m.fileChain

def onFile (path : String) (action : WriterM Unit) : CrateM Unit :=
  ExceptT.mk fun c =>
    match c.files[path]? with
    | none => (.error (.failed (.unknownFile path)), c)
    | some w =>
      let (result, w) := action.run.run w
      (result, { c with files := c.files.insert path w })

def onInline (path : String) (action : WriterM Unit) : CrateM Unit :=
  ExceptT.mk fun c =>
    match c.inlineModules[path]? with
    | none => (.error (.failed (.unknownFile path)), c)
    | some (m, w) =>
      let (result, w) := action.run.run w
      (result, { c with inlineModules := c.inlineModules.insert path (m, w) })

def openInline (m : Module) : CrateM Unit := do
  let c ← get
  if !c.inlineModules.contains m.fullPath then
    let w ← Action.ofExcept (c.newInline? m)
    set { c with inlineModules := c.inlineModules.insert m.fullPath (m, w) }

/-- Runs an action on the writer of a module, which is created when it is first written to. -/
def onModule (m : Module) (action : WriterM Unit) : CrateM Unit := do
  if m.isInline then
    modify (·.openFile m.fileOwner)
    openInline m
    onInline m.fullPath action
  else
    modify (·.openFile m)
    onFile m.filePath action

variable (fuel : Nat)

/-- Writes code into a module. `fuel` bounds how deeply fragments are spliced. -/
def write (m : Module) (code : Code) : CrateM Unit :=
  onModule m (code.run fuel)

def writers (c : Crate) : List Writer :=
  c.files.values ++ c.inlineModules.values.map (·.2)

/-- The inline items that some writer refers to and that are not rendered yet, in the order of
their keys; of items with the same key the one of the last writer. -/
def pending (c : Crate) : List (InlineItem Code) :=
  let items := c.writers.flatMap fun w => w.dependencies.inline.values
  let fresh := items.filter fun i => !c.rendered.contains i.key
  (fresh.foldl (fun m i => m.insert i.key i) (∅ : Std.ExtTreeMap String (InlineItem Code))).values

def renderItems : List (InlineItem Code) → CrateM Unit
  | [] => pure ()
  | i :: rest => do
    modify fun c => { c with rendered := c.rendered ++ [i.key] }
    write fuel i.module i.code
    renderItems rest

/-- Renders pending items until none is left, in at most `rounds` rounds. -/
def renderPending : Nat → CrateM Unit
  | 0 => throw .exhausted
  | rounds + 1 => do
    let items := (← get).pending
    if items.isEmpty then pure ()
    else
      renderItems fuel items
      renderPending rounds

/-- The module with the deepest path; of several the first. -/
def deepest? (ms : List (String × Module × Writer)) : Option (String × Module × Writer) :=
  ms.foldl (fun best entry =>
    match best with
    | none => some entry
    | some b => if Path.depth b.1 < Path.depth entry.1 then some entry else best) none

/-- Embeds the deepest module into its parent until none is left. A parent that is inline and was
not written to is created for it. Every step takes a module off and adds at most its parent, so
`steps` is never short when it is at least the number of modules and their ancestors. -/
def embedModules (steps : Nat) (ms : Std.ExtTreeMap String (Module × Writer)) : CrateM Unit := do
  match steps, deepest? ms.toList with
  | 0, _ => pure ()
  | _, none => pure ()
  | steps + 1, some (path, m, w) =>
    let ms := ms.erase path
    match m.parent? with
    | some parent =>
      if parent.isInline then
        let (p, pw) ← match ms[parent.fullPath]? with
          | some entry => pure entry
          | none => do
            let pw ← Action.ofExcept ((← get).newInline? parent)
            pure (parent, pw)
        embedModules steps (ms.insert parent.fullPath (p, pw.embed m w))
      else
        embedInFile m w
        embedModules steps ms
    | none =>
      embedInFile m w
      embedModules steps ms
where
  /-- Embeds a module into the file of its owner. -/
  embedInFile (m : Module) (w : Writer) : CrateM Unit :=
    modify fun c => (c.openFile m.fileOwner).modifyFile m.fileOwner.filePath (·.embed m w)

def embedAll : CrateM Unit := do
  let ms := (← get).inlineModules
  modify fun c => { c with inlineModules := ∅ }
  let steps := (ms.values.flatMap fun (m, _) => m :: m.ancestors).length
  embedModules steps ms

/-- Renders every inline item that something refers to and embeds the inline modules. A crate is
finalized once. -/
def finalize : CrateM Unit := do
  if (← get).finalized then return
  renderPending fuel fuel
  embedAll
  modify fun c => { c with finalized := true }

def paths (c : Crate) : List String :=
  c.files.keys

def render (c : Crate) (path : String) : Except Error String :=
  match c.files[path]? with
  | some w => .ok w.render
  | none => .error (.unknownFile path)

def renderAll (c : Crate) : List (String × String) :=
  c.files.toList.map fun (path, w) => (path, w.render)

/-- Writes every file into an empty directory, in the order of the paths. -/
def writeAll (c : Crate) : Except Error FileTree :=
  c.renderAll.foldlM (fun t (path, text) => t.write path text) {}

/-- Reads every file from the directory that the crate is written to. A path that leads to the
same file as a later one reads the text of the later one. -/
def readAll (c : Crate) (t : FileTree) : Except Error (List (String × String)) :=
  c.paths.mapM fun path => return (path, ← t.read path)

def dependencies (c : Crate) : List CargoDependency :=
  (c.writers.foldl (fun s w => w.dependencies.cargo.foldl (fun s d => s.insert d) s)
    (∅ : Std.ExtTreeSet CargoDependency)).toList

end Crate

end CrateGen
