import Conformance.Environment
/-!
Histories of environments. An environment begins without schemas and changes by one operation after
the other, of which some fail. A schema that is handed in may come from any environment and from
any time, and every operation may visit the cached schemas in an order of its own.
-/

namespace Conformance

/-- What can be done to an environment. -/
inductive Operation where
  | build (material : Material) (name : Option String) (strict : Option Bool)
  | revise (schema : Schema) (document : Value)
  | remove (name : String)
  | recompile
  | change (change : Change)

namespace Environment

/-- The environment that an operation leaves, whether the operation succeeds or fails. -/
def perform (environment : Environment) (walk : Walk) : Operation → Environment
  | .build material name strict => (environment.build walk material name strict).2
  | .revise schema document => (environment.revise walk schema document).2
  | .remove name => (environment.remove name).2
  | .recompile => (environment.recompile walk).2
  | .change change => (environment.change walk change).2

/-- The environments that some history leads to. -/
inductive Reachable : Environment → Prop where
  | initial (identity : Nat) (name : String) (constraints : Registry) (types : TypeTable)
      (config : Config) : Reachable (ofTables identity name constraints types config)
  | perform {environment : Environment} (walk : Walk) (operation : Operation)
      (reached : Reachable environment) : Reachable (environment.perform walk operation)

end Environment

end Conformance
