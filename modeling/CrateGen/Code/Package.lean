import CrateGen.Code.Basic
import CrateGen.Settings

namespace CrateGen

namespace RuntimePackages

variable (r : RuntimePackages)

def package (name : String) : RuntimeType Code :=
  CargoDependency.toType { name, version := r.version }

def eventStream : RuntimeType Code :=
  r.package r.eventStreamCrate

def http : RuntimeType Code :=
  r.package r.httpCrate

def types : RuntimeType Code :=
  r.package r.typesCrate

def blob : RuntimeType Code :=
  r.types.resolve "Blob"

def dateTime : RuntimeType Code :=
  r.types.resolve "DateTime"

end RuntimePackages

def tracing : RuntimeType Code :=
  CargoDependency.toType { name := "tracing", version := "0.1" }

end CrateGen
