import Conformance.Config.Draft
import Conformance.Yaml.Scalar
/-!
Reading configurations from YAML documents: a mapping of fields, or a sequence of their values in
order. A document without content gives the default.
-/

namespace Conformance.Config

open Yaml (Node)

def booleanOf? : Node → Option Bool
  | .scalar true text => Yaml.bool? text
  | _ => none

def depthOfNode? : Node → Option Nat
  | .scalar true text =>
    match Yaml.whole? text.toList with
    | some value =>
      if text.toList.head? = some '-' then none
      else match depthOf value with
        | .ok depth => some depth
        | .error _ => none
    | none => none
  | _ => none

/-- The text of a scalar, whatever it spells. -/
def scalarText? : Node → Option String
  | .scalar _ text => some text
  | _ => none

/-- The texts of a sequence. A sequence may be left out. -/
def namesOf? : Node → Option (List String)
  | .sequence items => items.mapM scalarText?
  | .scalar true "" => some []
  | _ => none

/-- Takes the value of a field from a node. -/
def Draft.takeNode? (draft : Draft) (field : Field) (node : Node) : Option Draft :=
  let given := field :: draft.given
  match field with
  | .strict =>
    (booleanOf? node).map fun value => ⟨{ draft.config with strict := value }, given⟩
  | .ignoreAllFormats =>
    (booleanOf? node).map fun value => ⟨{ draft.config with ignoreAllFormats := value }, given⟩
  | .ignoredFormats =>
    (namesOf? node).map fun names =>
      ⟨{ draft.config with ignoredFormats := normalNames names }, given⟩
  | .maxDepth =>
    (depthOfNode? node).map fun depth => ⟨{ draft.config with maxDepth := depth }, given⟩

/-- Takes an entry of a mapping. -/
def Draft.takeEntry? (draft : Draft) (entry : Node × Node) : Option Draft :=
  (scalarText? entry.1).bind fun name =>
    match draft.claim name with
    | .ok field => draft.takeNode? field entry.2
    | .error _ => none

/-- Reads a configuration from a node. -/
def ofNode? : Node → Option Config
  | .mapping entries => (entries.foldlM Draft.takeEntry? {}).map Draft.config
  | .sequence items =>
    if items.length ≤ Field.all.length then
      ((Field.all.zip items).foldlM
        (fun (draft : Draft) part => draft.takeNode? part.1 part.2) {}).map Draft.config
    else none
  | .scalar true "" => some {}
  | .scalar _ _ => none

/-- Reads a configuration from a YAML document. -/
def ofYaml? (text : String) : Option Config :=
  match Node.ofText? text with
  | none => none
  | some none => some {}
  | some (some node) => ofNode? node

end Conformance.Config
