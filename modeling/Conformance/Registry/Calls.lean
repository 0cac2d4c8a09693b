import Conformance.Registry
/-!
Calls on a registry in place. A call looks at the registry, may be refused, and writes to its two tables one
after the other; what it has written stays when it is refused later. Each call comes to what the operation
of its name makes of the registry, and one that is refused has written nothing.
-/

namespace Conformance

/-- A call on a registry in place, which may be refused. -/
abbrev Registering := ExceptT RegistryError (StateM Registry)

namespace Registering

variable {α β : Type}

/-- What comes of a call on a registry: a result or an error, and the registry that it leaves. -/
def outcome (call : Registering α) (registry : Registry) : Except RegistryError α × Registry :=
  call.run.run registry

/-- Puts in a definition. -/
def register (definition : Definition) (overwrite : Bool) : Registering Unit := do
  ofExcept (checkName definition.name)
  let name := (← get).inflect definition.name
  if name.isEmpty then throw (.invalidName definition.name)
  if name ∈ reservedNames ∨ (overwrite = false ∧ Table.has (← get).definitions name) then
    throw (.nameCollision name)
  modify (·.define definition)

/-- Makes an alias of a constraint. -/
def addAlias (synonym target : String) : Registering Unit := do
  let some target := (← get).resolve target | throw (.unknownConstraint target)
  let synonym := (← get).inflect synonym
  if Table.has (← get).definitions synonym ∨ synonym ∈ reservedNames then
    throw (.nameCollision synonym)
  modify fun registry => { registry with aliases := Table.put registry.aliases synonym target }

/-- Removes a constraint, its aliases first. -/
def remove (name : String) : Registering (Option Definition) := do
  let some name := (← get).resolve name | return none
  modify fun registry =>
    { registry with aliases := registry.aliases.filter fun entry => !decide (entry.2 = name) }
  let removed := Table.lookup (← get).definitions name
  modify fun registry => { registry with definitions := Table.remove registry.definitions name }
  return removed

variable (registry : Registry)

theorem outcome_bind (first : Registering α) (next : α → Registering β) :
    outcome (first >>= next) registry =
      match first.outcome registry with
      | (.ok result, after) => (next result).outcome after
      | (.error error, after) => (.error error, after) := by
  change StateT.run (ExceptT.run first >>= ExceptT.bindCont next) registry = _
  rw [StateT.run_bind]
  unfold outcome
  cases ran : first.run.run registry with
  | mk result after => cases result <;> rfl

@[simp]
theorem outcome_pure (result : α) : outcome (pure result) registry = (.ok result, registry) := rfl

@[simp]
theorem outcome_get_bind (next : Registry → Registering β) :
    outcome (get >>= next) registry = (next registry).outcome registry := rfl

theorem outcome_register (definition : Definition) (overwrite : Bool) :
    (register definition overwrite).outcome registry =
      match registry.register definition overwrite with
      | .ok next => (.ok (), next)
      | .error error => (.error error, registry) := by
  unfold register Registry.register
  cases checkName definition.name with
  | error error => rfl
  | ok checked =>
      rw [outcome_bind]
      dsimp only [ofExcept, outcome_pure]
      rw [outcome_get_bind]
      split
      · rfl
      · rw [outcome_get_bind]
        split
        · rfl
        · rfl

theorem outcome_addAlias (synonym target : String) :
    (addAlias synonym target).outcome registry =
      match registry.addAlias synonym target with
      | .ok next => (.ok (), next)
      | .error error => (.error error, registry) := by
  unfold addAlias Registry.addAlias
  rw [outcome_get_bind]
  cases registry.resolve target with
  | none => rfl
  | some target =>
      change outcome (get >>= _) registry = _
      rw [outcome_get_bind, outcome_get_bind]
      dsimp only
      split
      · rfl
      · rfl

theorem outcome_remove (name : String) :
    (remove name).outcome registry =
      (.ok (registry.remove name).1, (registry.remove name).2) := by
  unfold remove Registry.remove
  rw [outcome_get_bind]
  cases registry.resolve name with
  | none => rfl
  | some name => rfl

end Registering

end Conformance
