import Endpoint.Source.Grammar

/-!
Source files that are read together, each with the module that it holds.
-/

namespace Endpoint

structure SourceUnit where
  path : String
  module : List String
  file : Source.File

/-- Reads the text of a source file. -/
def SourceUnit.read (path : String) (module : List String) (text : String) :
    Except Source.Fault SourceUnit := do
  return ⟨path, module, ← Source.File.read text⟩

end Endpoint
