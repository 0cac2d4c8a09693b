import Conformance.Check
/-!
Behaviours: the two ways in which an instance is treated. Validation refuses an instance with a
failure or lets it pass; conversion makes a value of it or refuses it. Both are told whether the
instance is partial. The operations below build the behaviour of a rule from the behaviours that it
delegates to: validation reports every delegation that fails, conversion stops at the first.
-/

namespace Conformance

/-- What validation and conversion do with an instance. The first argument says whether the
instance is partial. -/
structure Behaviour where
  check : Bool → Value → Option Failure
  convert : Bool → Value → Except Failure Value

namespace Behaviour

/-- Whether validation lets an instance pass. -/
def accepts (behaviour : Behaviour) (isPartial : Bool) (subject : Value) : Bool :=
  (behaviour.check isPartial subject).isNone

/-- Lets every instance pass. -/
def pass : Behaviour where
  check _ _ := none
  convert _ subject := .ok subject

/-- Refuses every instance. -/
def refuse : Behaviour where
  check _ _ := some (.ofCause .nothingAllowed)
  convert _ _ := .error (.ofCause .nothingAllowed)

/-- Conversion leaves what validation lets pass as it is, and refuses what validation refuses. -/
def ofCheck (check : Bool → Value → Option Failure) : Behaviour where
  check := check
  convert isPartial subject :=
    match check isPartial subject with
    | none => .ok subject
    | some failure => .error failure

/-- The behaviour of a check. -/
def ofRule (rule : Check) : Behaviour where
  check isPartial subject := (rule.violation? isPartial subject).map .ofCause
  convert isPartial subject := (rule.convert isPartial subject).mapError .ofCause

/-- Puts a step in front of the path of every failure. -/
def under (segment : Segment) (behaviour : Behaviour) : Behaviour where
  check isPartial subject := (behaviour.check isPartial subject).map (.under segment)
  convert isPartial subject := (behaviour.convert isPartial subject).mapError (.under segment)

/-- Hands on instances of the applicable kinds only. Others pass, or are refused when `strict`. -/
def guarded (applicable : KindSet) (strict : Bool) (behaviour : Behaviour) : Behaviour where
  check isPartial subject :=
    if applicable.contains subject.kind then behaviour.check isPartial subject
    else if strict then some (.ofCause (.notApplicable subject.kind applicable))
    else none
  convert isPartial subject :=
    if applicable.contains subject.kind then behaviour.convert isPartial subject
    else if strict then .error (.ofCause (.notApplicable subject.kind applicable))
    else .ok subject

/-- A part of an instance that a rule hands on: the step to it, the behaviour and the part. -/
structure Delegation where
  segment : Segment
  behaviour : Behaviour
  subject : Value

namespace Delegation

/-- The failure of a delegation, with its step. -/
def failure? (isPartial : Bool) (delegation : Delegation) : Option Failure :=
  (delegation.behaviour.check isPartial delegation.subject).map (.under delegation.segment)

/-- What conversion makes of the part. -/
def convert (isPartial : Bool) (delegation : Delegation) : Except Failure Value :=
  (delegation.behaviour.convert isPartial delegation.subject).mapError (.under delegation.segment)

end Delegation

/-- The failures of all delegations, in order. -/
def failures (isPartial : Bool) (delegations : List Delegation) : List Failure :=
  delegations.filterMap (Delegation.failure? isPartial)

/-- A composite of the failures, if there are any. -/
def compositeOf? (cause : Cause) : List Failure → Option Failure
  | [] => none
  | parts => some (.composite cause parts)

/-- An instance handed to several behaviours, numbered in order. -/
def branches (behaviours : List Behaviour) (subject : Value) : List Delegation :=
  behaviours.mapIdx (fun position behaviour => ⟨.index position, behaviour, subject⟩)

/-- The items of an array, each handed to the behaviour at its position or to the last one. -/
def itemDelegations (positional : List Behaviour) (rest : Behaviour) (items : List Value) :
    List Delegation :=
  items.mapIdx (fun position item => ⟨.index position, (positional[position]?).getD rest, item⟩)

/-- Arrays have at least as many items as there are positional behaviours. -/
def items (positional : List Behaviour) (rest : Behaviour) : Behaviour where
  check isPartial subject :=
    match subject with
    | .array items =>
      if items.length < positional.length then
        some (.ofCause (.missingItems positional.length items.length))
      else compositeOf? .itemsFail (failures isPartial (itemDelegations positional rest items))
    | other => some (.ofCause (.unexpectedKind .array other.kind))
  convert isPartial subject :=
    match subject with
    | .array items =>
      if items.length < positional.length then
        .error (.ofCause (.missingItems positional.length items.length))
      else
        ((itemDelegations positional rest items).mapM (Delegation.convert isPartial)).map .array
    | other => .error (.ofCause (.unexpectedKind .array other.kind))

/-- Some item of an array passes. -/
def contains (behaviour : Behaviour) : Behaviour :=
  ofCheck fun isPartial subject =>
    match subject with
    | .array items =>
      if items.any (behaviour.accepts isPartial) then none else some (.ofCause .noItemMatches)
    | other => some (.ofCause (.unexpectedKind .array other.kind))

/-- The entries of an object that are handed on, each under its key. Keys that the object lacks
are left out. -/
def entryDelegations (selected : List (String × Behaviour)) (entries : List (String × Value)) :
    List Delegation :=
  selected.filterMap fun choice =>
    (Table.lookup entries choice.1).map fun value => ⟨.key choice.1, choice.2, value⟩

/-- Converts one entry in its place. -/
def convertEntry (isPartial : Bool) (entries : List (String × Value))
    (choice : String × Behaviour) : Except Failure (List (String × Value)) :=
  match Table.lookup entries choice.1 with
  | none => .ok entries
  | some value =>
    (Delegation.convert isPartial ⟨.key choice.1, choice.2, value⟩).map
      (Table.put entries choice.1)

/-- The entries that `select` picks, by key, for the keys of an object. -/
def onEntries (select : List String → List (String × Behaviour)) : Behaviour where
  check isPartial subject :=
    match subject with
    | .object entries =>
      compositeOf? .entriesFail
        (failures isPartial (entryDelegations (select (Table.names entries)) entries))
    | other => some (.ofCause (.unexpectedKind .object other.kind))
  convert isPartial subject :=
    match subject with
    | .object entries =>
      ((select (Table.names entries)).foldlM (convertEntry isPartial) entries).map .object
    | other => .error (.ofCause (.unexpectedKind .object other.kind))

/-- The entries with the listed names. -/
def entries (listed : List (String × Behaviour)) : Behaviour :=
  onEntries fun names => listed.filter (fun choice => decide (choice.1 ∈ names))

/-- The entries whose names match a pattern: each for every pattern that it matches. -/
def patternEntries (listed : List (Pattern × Behaviour)) : Behaviour :=
  onEntries fun names =>
    names.flatMap fun name =>
      (listed.filter (fun choice => choice.1.isMatch name)).map fun choice => (name, choice.2)

/-- Whether an entry is neither listed by name nor by a pattern. -/
def isAdditional (listed : List String) (patterns : List Pattern) (name : String) : Bool :=
  !decide (name ∈ listed) && !patterns.any (·.isMatch name)

/-- The entries that are neither listed by name nor by a pattern. -/
def additionalEntries (listed : List String) (patterns : List Pattern) (behaviour : Behaviour) :
    Behaviour :=
  onEntries fun names =>
    (names.filter (isAdditional listed patterns)).map fun name => (name, behaviour)

/-- Every name of an entry passes as a string. -/
def entryNames (behaviour : Behaviour) : Behaviour :=
  ofCheck fun isPartial subject =>
    match subject with
    | .object entries =>
      compositeOf? .entryNamesFail (failures isPartial
        ((Table.names entries).map fun name => ⟨.key name, behaviour, .string name⟩))
    | other => some (.ofCause (.unexpectedKind .object other.kind))

/-- What the presence of an entry asks for. -/
inductive Demand where
  /-- Other entries. A partial instance need not have them. -/
  | peers (names : List String)
  /-- A behaviour that the whole instance has to pass. -/
  | whole (behaviour : Behaviour)

/-- What an object does with a demand whose entry is present. -/
def Demand.behaviour (key : String) (entries : List (String × Value)) : Demand → Behaviour
  | .peers names =>
    ofCheck fun isPartial _ =>
      let absent := Check.missing entries names
      if isPartial || absent.isEmpty then none else some (.ofCause (.missingPeers key absent))
  | .whole behaviour => behaviour

/-- The demands whose entries are present in an object. -/
def demandDelegations (demands : List (String × Demand)) (entries : List (String × Value)) :
    List Delegation :=
  (demands.filter fun demand => Table.has entries demand.1).map fun demand =>
    ⟨.key demand.1, demand.2.behaviour demand.1 entries, .object entries⟩

/-- Converts an instance as one demand asks. -/
def convertDemand (isPartial : Bool) (subject : Value) (demand : String × Demand) :
    Except Failure Value :=
  match subject with
  | .object entries =>
    if Table.has entries demand.1 then
      Delegation.convert isPartial
        ⟨.key demand.1, demand.2.behaviour demand.1 entries, subject⟩
    else .ok subject
  | other => .error (.ofCause (.unexpectedKind .object other.kind))

/-- What each present entry asks for. Without demands every instance passes. -/
def dependencies (demands : List (String × Demand)) : Behaviour where
  check isPartial subject :=
    match demands, subject with
    | [], _ => none
    | _, .object entries =>
      compositeOf? .dependenciesFail (failures isPartial (demandDelegations demands entries))
    | _, other => some (.ofCause (.unexpectedKind .object other.kind))
  convert isPartial subject := demands.foldlM (convertDemand isPartial) subject

/-- All branches pass; conversion threads the instance through them. -/
def allOf (behaviours : List Behaviour) : Behaviour where
  check isPartial subject :=
    compositeOf? .allFail (failures isPartial (branches behaviours subject))
  convert isPartial subject :=
    (branches behaviours subject).foldlM
      (fun value branch => Delegation.convert isPartial { branch with subject := value }) subject

/-- The first conversion that succeeds, or all the failures. -/
def firstConversion (isPartial : Bool) : List Delegation → Except (List Failure) Value
  | [] => .error []
  | branch :: rest =>
    match branch.convert isPartial with
    | .ok value => .ok value
    | .error failure => (firstConversion isPartial rest).mapError (failure :: ·)

/-- Some branch passes; conversion takes the first that succeeds. -/
def anyOf (behaviours : List Behaviour) : Behaviour where
  check isPartial subject :=
    let parts := failures isPartial (branches behaviours subject)
    if parts.length = behaviours.length then some (.composite .noneMatch parts) else none
  convert isPartial subject :=
    (firstConversion isPartial (branches behaviours subject)).mapError (.composite .noneMatch)

/-- The outcome of every branch. -/
def results (isPartial : Bool) (delegations : List Delegation) :
    List (Delegation × Option Failure) :=
  delegations.map fun delegation => (delegation, delegation.failure? isPartial)

/-- The branches that pass, with their positions. -/
def passing (results : List (Delegation × Option Failure)) : List (Delegation × Nat) :=
  (results.zipIdx.filter fun result => result.1.2.isNone).map fun result => (result.1.1, result.2)

/-- Why a number of passing branches other than one is refused. -/
def notOne (results : List (Delegation × Option Failure)) : Failure :=
  match passing results with
  | [] => .composite .noneMatch (results.filterMap Prod.snd)
  | several => .ofCause (.severalMatch (several.map Prod.snd))

/-- Exactly one branch passes; conversion is that branch's. -/
def oneOf (behaviours : List Behaviour) : Behaviour where
  check isPartial subject :=
    let outcomes := results isPartial (branches behaviours subject)
    match passing outcomes with
    | [_] => none
    | _ => some (notOne outcomes)
  convert isPartial subject :=
    let outcomes := results isPartial (branches behaviours subject)
    match passing outcomes with
    | [(branch, _)] => branch.convert isPartial
    | _ => .error (notOne outcomes)

/-- The behaviour does not let the instance pass. -/
def negation (behaviour : Behaviour) : Behaviour :=
  ofCheck fun isPartial subject =>
    if behaviour.accepts isPartial subject then some (.ofCause .forbiddenMatch) else none

/-- A branch of a conditional. Validation reports its failure as the only part of another. -/
def branch (label : String) : Option Behaviour → Behaviour
  | none => pass
  | some behaviour =>
    { check := fun isPartial subject =>
        (behaviour.check isPartial subject).map fun failure =>
          (Failure.composite (.branchFails label) [failure]).under (.label label)
      convert := (behaviour.under (.label label)).convert }

/-- One branch for the instances that pass the condition, the other for the rest. The condition
never converts. -/
def conditional (condition : Behaviour) (positive negative : Option Behaviour) : Behaviour where
  check isPartial subject :=
    (if condition.accepts isPartial subject then branch "then" positive
      else branch "else" negative).check isPartial subject
  convert isPartial subject :=
    (if condition.accepts isPartial subject then branch "then" positive
      else branch "else" negative).convert isPartial subject

end Behaviour

/-- A step of a schema: the name of a constraint, whether its failure ends validation, and its
behaviour. -/
structure Step where
  name : String
  terminal : Bool
  behaviour : Behaviour

namespace Step

/-- The outcome of every step that validation reaches: nothing, or a failure attributed to the step
and the schema. -/
def outcomes (schema : String) (isPartial : Bool) (subject : Value) :
    List Step → List (String × Option Failure)
  | [] => []
  | step :: rest =>
    match step.behaviour.check isPartial subject with
    | none => (step.name, none) :: outcomes schema isPartial subject rest
    | some failure =>
      (step.name, some (failure.attributed step.name schema)) ::
        if step.terminal then [] else outcomes schema isPartial subject rest

/-- What conversion makes of an instance in one step. -/
def convert (schema : String) (isPartial : Bool) (subject : Value) (step : Step) :
    Except Failure Value :=
  (step.behaviour.convert isPartial subject).mapError (.attributed step.name schema)

/-- The outcomes of a schema folded into one failure, if there is one. -/
def fold (schema : String) (outcomes : List (String × Option Failure)) : Option Failure :=
  match outcomes.filterMap Prod.snd with
  | [] => none
  | parts => some (.mk none (.schemaFails schema) [] parts (some schema))

/-- Validation runs the steps and folds their outcomes; conversion threads the instance through
them. -/
def sequence (schema : String) (steps : List Step) : Behaviour where
  check isPartial subject := fold schema (outcomes schema isPartial subject steps)
  convert isPartial subject := steps.foldlM (convert schema isPartial) subject

end Step

end Conformance
