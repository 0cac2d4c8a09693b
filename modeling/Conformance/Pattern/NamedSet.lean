import Conformance.Pattern.Break
/-!
The sets that patterns name: by a name alone, or by a name and a value.
-/

namespace Conformance.Pattern.CharSet

/-- The set of a property given by its name alone. The three short names that also abbreviate
other properties mean general categories. -/
def ofName? (name : String) : Option CharSet :=
  let plain := plainName name
  let trait := if plain ∈ ["cf", "sc", "lc"] then Option.none else ofTrait? plain
  (trait.orElse fun _ => ofCategory? plain).orElse fun _ => ofScript? plain

/-- The set of a property given by its name and its value. -/
def ofNameAndValue? (name value : String) : Option CharSet :=
  let value := plainName value
  match plainName name with
  | "gc" | "generalcategory" => ofCategory? value
  | "sc" | "script" => ofScript? value
  | "scx" | "scriptextensions" => ofScriptUse? value
  | "age" => ofVersion? value
  | "gcb" | "graphemeclusterbreak" => named? clusterBreaks value
  | "wb" | "wordbreak" => named? wordBreaks value
  | "sb" | "sentencebreak" => named? sentenceBreaks value
  | _ => Option.none

end Conformance.Pattern.CharSet
