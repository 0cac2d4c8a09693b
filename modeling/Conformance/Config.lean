import Conformance.Format
import Conformance.NameSet
/-!
What can be set in an environment: how strictly documents are read, which formats are left
unchecked, and how deep schemas may nest.
-/

namespace Conformance

/-- The settings of an environment that are not tables. -/
structure Config where
  /-- Whether unknown and inapplicable constraints are errors. -/
  strict : Bool := false
  ignoreAllFormats : Bool := false
  /-- The normal names of the formats that are not checked, in order. -/
  ignoredFormats : List String := []
  /-- How deep sub-schemas may nest. -/
  maxDepth : Nat := 64
  deriving DecidableEq, Repr

namespace Config

/-- Whether a format is left unchecked. -/
def ignoresFormat (config : Config) (name : String) : Bool :=
  config.ignoreAllFormats || decide (Format.normalName name ∈ config.ignoredFormats)

/-- Leaves a format unchecked. -/
def ignoreFormat (config : Config) (name : String) : Config :=
  { config with
    ignoredFormats := NameSet.insert (Format.normalName name) config.ignoredFormats }

/-- Has a format checked again. -/
def unignoreFormat (config : Config) (name : String) : Config :=
  { config with
    ignoredFormats := NameSet.remove (Format.normalName name) config.ignoredFormats }

end Config

end Conformance
