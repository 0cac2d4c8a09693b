import Conformance.CompileError
import Conformance.NameSet
import Conformance.Schema
/-!
Scripts of compilations. The constraints of a document are bound by a script, which does nothing by
itself: it ends with a result or an error, or asks for the schema of a document that stands inside,
or for the schema of a name, and goes on with the answer. To run a script is to answer what it asks
for, with a cache at hand, and to collect the names that the document refers to.
-/

namespace Conformance

/-- The schemas that an environment keeps, under their names. -/
abbrev Cache := Table Schema

/-- A compilation, which may renew cached schemas. What was renewed stays so when it fails. -/
abbrev Compiling := ExceptT CompileError (StateM Cache)

namespace Compiling

variable {α β : Type}

/-- What comes of a compilation that begins with a cache: a result or an error, and the cache that
it leaves. -/
def outcome (action : Compiling α) (cache : Cache) : Except CompileError α × Cache :=
  action.run.run cache

@[simp]
theorem outcome_pure (result : α) (cache : Cache) :
    outcome (pure result) cache = (.ok result, cache) := rfl

@[simp]
theorem outcome_throw (error : CompileError) (cache : Cache) :
    outcome (throw error : Compiling α) cache = (.error error, cache) := rfl

theorem outcome_bind (first : Compiling α) (next : α → Compiling β) (cache : Cache) :
    outcome (first >>= next) cache =
      match first.outcome cache with
      | (.ok result, after) => (next result).outcome after
      | (.error error, after) => (.error error, after) := by
  change StateT.run (ExceptT.run first >>= ExceptT.bindCont next) cache = _
  rw [StateT.run_bind]
  unfold outcome
  cases ran : first.run.run cache with
  | mk result after => cases result <;> rfl

end Compiling

/-- A script of the compilation of one document. -/
inductive Binding (α : Type) where
  | done (result : α)
  | failed (error : CompileError)
  /-- Asks for the schema of a document that stands inside this one. -/
  | inner (document : Value) (next : Schema → Binding α)
  /-- Asks for the schema of a name. -/
  | named (name : String) (next : Schema → Binding α)

namespace Binding

variable {α β : Type}

/-- Goes on with another script when the first has a result. -/
def bind : Binding α → (α → Binding β) → Binding β
  | .done result, next => next result
  | .failed error, _ => .failed error
  | .inner document rest, next => .inner document fun schema => (rest schema).bind next
  | .named name rest, next => .named name fun schema => (rest schema).bind next

instance : Monad Binding where
  pure := .done
  bind := .bind

/-- A result that needs no answers. -/
def ofExcept : Except CompileError α → Binding α
  | .ok result => .done result
  | .error error => .failed error

instance : MonadLift (Except CompileError) Binding where
  monadLift := ofExcept

/-- Answers what a script asks for, and collects the names of the schemas that the document refers
to, itself or through the documents inside it. -/
def run (inner : Value → Compiling Schema) (named : String → Compiling Schema) :
    NameSet → Binding α → Compiling (α × NameSet)
  | references, .done result => pure (result, references)
  | _, .failed error => throw error
  | references, .inner document next => do
    let schema ← inner document
    (next schema).run inner named (NameSet.union references schema.references)
  | references, .named name next => do
    let schema ← named name
    (next schema).run inner named (NameSet.insert name references)

end Binding

end Conformance
