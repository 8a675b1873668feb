import CrateGen.Error
import CrateGen.Settings
import CrateGen.Text.Blank

namespace CrateGen

open Json (Document Fault Value)

namespace Json.Document

def asString : Document → Except Fault String
  | .string (some s) => .ok s
  | .string none => .error .malformed
  | doc => doc.mismatch "a string"

def asBoolean : Document → Except Fault Bool
  | .boolean b => .ok b
  | doc => doc.mismatch "a boolean"

def asOptionalString : Document → Except Fault (Option String)
  | .null => .ok none
  | doc => some <$> doc.asString

def asNull : Document → Except Fault Unit
  | .null => .ok ()
  | doc => doc.mismatch "unit"

def asShapeId (doc : Document) : Except Fault ShapeId := do
  let raw ← doc.asString
  match ShapeId.parse? raw with
  | some id => return id
  | none => throw (.invalidShapeId raw)

end Json.Document

namespace ShapeId

def serialize (id : ShapeId) : String :=
  .ofList (Value.string id.display).print

/-- Reads a whole text that holds an id as a string. -/
def read (text : String) : Except Fault ShapeId := do
  let (doc, ended) := Document.read text.toList
  let id ← doc.asShapeId
  if ended then return id else throw .malformed

end ShapeId

namespace Target

def name : Target → String
  | .client => "client"
  | .server => "server"

def ofName (name : String) : Except Fault Target :=
  if name = "client" then .ok .client
  else if name = "server" then .ok .server
  else .error (.unknownVariant name ["client", "server"])

/-- A target is given by its name, or by an object with its name as the only key and null as the
value. -/
def ofDocument : Document → Except Fault Target
  | .string (some s) => ofName s
  | .object ((some key, value) :: rest) closed => do
    let target ← ofName key
    value.asNull
    if rest.isEmpty && closed then return target else throw .malformed
  | _ => .error .malformed

end Target

namespace Settings

/-- Sets a field that has no value yet. -/
def setOnce (name : String) (old : Option α) (value : Except Fault α) : Except Fault (Option α) :=
  if old.isSome then .error (.duplicateField name) else some <$> value

/-- Reads the members of an object in order with `put`, which gets each key and its value; then
the object must be closed. -/
def readObject (put : δ → String → Document → Except Fault δ) (closed : Bool) (draft : δ) :
    List (Option String × Document) → Except Fault δ
  | [] => if closed then .ok draft else .error .malformed
  | (some key, value) :: rest => do
    let draft ← put draft key value
    readObject put closed draft rest
  | _ => .error .malformed

/-- The next item of an array that lists fields in order; `missing` gives the field that a
closed array leaves out. -/
def nextItem (closed : Bool) (read : Document → Except Fault α) (missing : Except Fault α) :
    List Document → Except Fault (α × List Document)
  | [] => if closed then missing.map (·, []) else .error .malformed
  | item :: rest => (read item).map (·, rest)

/-- An array of fields must be closed and hold no more items. -/
def endItems (closed : Bool) : List Document → Except Fault Unit
  | [] => if closed then .ok () else .error .malformed
  | _ => .error .malformed

end Settings

open Settings (setOnce readObject nextItem endItems)

namespace CodegenOptions

structure Draft where
  target : Option Target := none
  includeBanner : Option Bool := none
  debugMode : Option Bool := none

def Draft.put (d : Draft) (key : String) (value : Document) : Except Fault Draft := do
  match key with
  | "target" => return { d with target := ← setOnce key d.target (Target.ofDocument value) }
  | "includeBanner" =>
    return { d with includeBanner := ← setOnce key d.includeBanner value.asBoolean }
  | "debugMode" => return { d with debugMode := ← setOnce key d.debugMode value.asBoolean }
  | _ => return d

/-- An object or an array of the fields; what is left out has its default. -/
def ofDocument : Document → Except Fault CodegenOptions
  | .object members closed => do
    let d ← readObject Draft.put closed {} members
    let default : CodegenOptions := {}
    return {
      target := d.target.getD default.target
      includeBanner := d.includeBanner.getD default.includeBanner
      debugMode := d.debugMode.getD default.debugMode }
  | .array items closed => do
    let default : CodegenOptions := {}
    let (target, items) ← nextItem closed Target.ofDocument (.ok default.target) items
    let (includeBanner, items) ← nextItem closed (·.asBoolean) (.ok default.includeBanner) items
    let (debugMode, items) ← nextItem closed (·.asBoolean) (.ok default.debugMode) items
    endItems closed items
    return { target, includeBanner, debugMode }
  | doc => doc.mismatch "struct CodegenConfig"

end CodegenOptions

namespace RuntimePackages

structure Draft where
  eventStreamCrate : Option String := none
  httpCrate : Option String := none
  typesCrate : Option String := none
  version : Option String := none

def Draft.put (d : Draft) (key : String) (value : Document) : Except Fault Draft := do
  match key with
  | "eventStreamCrate" =>
    return { d with eventStreamCrate := ← setOnce key d.eventStreamCrate value.asString }
  | "httpCrate" => return { d with httpCrate := ← setOnce key d.httpCrate value.asString }
  | "typesCrate" => return { d with typesCrate := ← setOnce key d.typesCrate value.asString }
  | "version" => return { d with version := ← setOnce key d.version value.asString }
  | _ => return d

/-- An object or an array of the fields; what is left out has its default. -/
def ofDocument : Document → Except Fault RuntimePackages
  | .object members closed => do
    let d ← readObject Draft.put closed {} members
    let default : RuntimePackages := {}
    return {
      eventStreamCrate := d.eventStreamCrate.getD default.eventStreamCrate
      httpCrate := d.httpCrate.getD default.httpCrate
      typesCrate := d.typesCrate.getD default.typesCrate
      version := d.version.getD default.version }
  | .array items closed => do
    let default : RuntimePackages := {}
    let (eventStreamCrate, items) ←
      nextItem closed (·.asString) (.ok default.eventStreamCrate) items
    let (httpCrate, items) ← nextItem closed (·.asString) (.ok default.httpCrate) items
    let (typesCrate, items) ← nextItem closed (·.asString) (.ok default.typesCrate) items
    let (version, items) ← nextItem closed (·.asString) (.ok default.version) items
    endItems closed items
    return { eventStreamCrate, httpCrate, typesCrate, version }
  | doc => doc.mismatch "struct RuntimeConfig"

end RuntimePackages

namespace Settings

structure Draft where
  service : Option ShapeId := none
  moduleName : Option String := none
  moduleVersion : Option String := none
  moduleDescription : Option (Option String) := none
  codegen : Option CodegenOptions := none
  runtime : Option RuntimePackages := none

def Draft.put (d : Draft) (key : String) (value : Document) : Except Fault Draft := do
  match key with
  | "service" => return { d with service := ← setOnce key d.service value.asShapeId }
  | "moduleName" => return { d with moduleName := ← setOnce key d.moduleName value.asString }
  | "moduleVersion" =>
    return { d with moduleVersion := ← setOnce key d.moduleVersion value.asString }
  | "moduleDescription" =>
    return { d with
      moduleDescription := ← setOnce key d.moduleDescription value.asOptionalString }
  | "codegen" =>
    return { d with codegen := ← setOnce key d.codegen (CodegenOptions.ofDocument value) }
  | "runtimeConfig" =>
    return { d with runtime := ← setOnce key d.runtime (RuntimePackages.ofDocument value) }
  | _ => return d

def defaultVersion : String := "0.1.0"

/-- The settings of a draft; the service and the module name have no default. -/
def Draft.settings (d : Draft) : Except Fault Settings := do
  let some service := d.service | throw (.missingField "service")
  let some moduleName := d.moduleName | throw (.missingField "moduleName")
  return {
    service, moduleName
    moduleVersion := d.moduleVersion.getD defaultVersion
    moduleDescription := d.moduleDescription.getD none
    codegen := d.codegen.getD {}
    runtime := d.runtime.getD {} }

def tooShort (length : Nat) : Except Fault α :=
  .error (.invalidLength length "struct CodegenSettings with 6 elements")

/-- Settings are an object or an array of their fields in order. -/
def ofDocument : Document → Except Fault Settings
  | .object members closed => do
    let d ← readObject Draft.put closed {} members
    d.settings
  | .array items closed => do
    let (service, items) ← nextItem closed (·.asShapeId) (tooShort 0) items
    let (moduleName, items) ← nextItem closed (·.asString) (tooShort 1) items
    let (moduleVersion, items) ← nextItem closed (·.asString) (.ok defaultVersion) items
    let (moduleDescription, items) ← nextItem closed (·.asOptionalString) (.ok none) items
    let (codegen, items) ← nextItem closed CodegenOptions.ofDocument (.ok {}) items
    let (runtime, items) ← nextItem closed RuntimePackages.ofDocument (.ok {}) items
    endItems closed items
    return { service, moduleName, moduleVersion, moduleDescription, codegen, runtime }
  | doc => doc.mismatch "struct CodegenSettings"

/-- Reads a whole text; the first fault in it wins. -/
def read (text : String) : Except Fault Settings := do
  let (doc, ended) := Document.read text.toList
  let settings ← ofDocument doc
  if ended then return settings else throw .malformed

/-- The module name and the version of the runtime crates must not be blank. -/
def validate (s : Settings) : Except Error Unit :=
  if Text.isBlankText s.moduleName then .error (.blankSetting "moduleName")
  else if Text.isBlankText s.runtime.version then .error (.blankSetting "runtimeConfig.version")
  else .ok ()

def parse (text : String) : Except Error Settings := do
  let settings ← (read text).mapError .json
  settings.validate
  return settings

/-- Settings as an object, fields in order; an absent description is left out. -/
def toValue (s : Settings) : Value :=
  .object <|
    [("service", .string s.service.display), ("moduleName", .string s.moduleName),
     ("moduleVersion", .string s.moduleVersion)] ++
    (s.moduleDescription.map fun d => ("moduleDescription", Value.string d)).toList ++
    [("codegen", .object [("target", .string s.codegen.target.name),
        ("includeBanner", .boolean s.codegen.includeBanner),
        ("debugMode", .boolean s.codegen.debugMode)]),
     ("runtimeConfig", .object [("eventStreamCrate", .string s.runtime.eventStreamCrate),
        ("httpCrate", .string s.runtime.httpCrate), ("typesCrate", .string s.runtime.typesCrate),
        ("version", .string s.runtime.version)])]

def serialize (s : Settings) : String :=
  .ofList s.toValue.print

end Settings

end CrateGen
