import Conformance.Config
import Conformance.Registry
import Conformance.TypeTable
/-!
The settings of an environment: everything that the meaning of a document depends on, apart from
the schemas that it names. A change replaces one part of the settings.
-/

namespace Conformance

/-- What a document is compiled against. -/
structure Settings where
  constraints : Registry
  types : TypeTable
  formats : FormatTable
  config : Config
  deriving DecidableEq, Repr

/-- A change of settings. -/
inductive Change where
  | config (config : Config)
  | strict (strict : Bool)
  | ignoreAllFormats (ignore : Bool)
  | ignoreFormat (name : String)
  | unignoreFormat (name : String)
  | type (name : String) (kinds : KindSet)
  | format (name : String) (grammar : Format)
  /-- Registers a constraint, in place of one of its name if `overwrite`. -/
  | constraint (definition : Definition) (overwrite : Bool)
  deriving DecidableEq, Repr

/-- Applies a change. The registration of a constraint may be refused. -/
def Settings.change (settings : Settings) : Change → Except RegistryError Settings
  | .config config => .ok { settings with config := config }
  | .strict strict => .ok { settings with config := { settings.config with strict := strict } }
  | .ignoreAllFormats ignore =>
    .ok { settings with config := { settings.config with ignoreAllFormats := ignore } }
  | .ignoreFormat name => .ok { settings with config := settings.config.ignoreFormat name }
  | .unignoreFormat name => .ok { settings with config := settings.config.unignoreFormat name }
  | .type name kinds => .ok { settings with types := Table.put settings.types name kinds }
  | .format name grammar =>
    .ok { settings with formats := settings.formats.register name grammar }
  | .constraint definition overwrite =>
    (settings.constraints.register definition overwrite).map fun constraints =>
      { settings with constraints := constraints }

end Conformance
