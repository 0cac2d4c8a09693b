import Conformance.Registry
/-!
The two built-in registries: the base registry, whose names are words joined by underscores, and
its projection with the names of JSON Schema.
-/

namespace Conformance.Registry

open Definition

/-- The constraints of the base registry, in order. -/
def baseDefinitions : List Definition :=
  [general "type" "must be of type \x7bvalue\x7d" .ofKinds,
    general "enum" "must be one of: \x7bvalue\x7d" .among,
    general "const" "must be \x7bvalue\x7d" .constant,
    general "default" "a default value" .remark,
    general "name" "the name of the schema" .remark,
    general "description" "a description of the schema" .remark,
    general "title" "the title of the schema" .remark,
    general "examples" "example values" .remark,
    general "deprecated" "whether the schema is deprecated" .remark,
    on .number "multiple_of" "must be a multiple of \x7bvalue\x7d" .multipleOf,
    on .number "maximum" "must be no larger than \x7bvalue\x7d" .maximum,
    on .number "minimum" "must be no smaller than \x7bvalue\x7d" .minimum,
    on .number "exclusive_maximum" "must be smaller than \x7bvalue\x7d" .exclusiveMaximum,
    on .number "exclusive_minimum" "must be larger than \x7bvalue\x7d" .exclusiveMinimum,
    on .string "max_length" "must be no longer than \x7bvalue\x7d" .maxLength,
    on .string "min_length" "must be no shorter than \x7bvalue\x7d" .minLength,
    on .string "pattern" "must match the pattern \x7bvalue\x7d" .pattern,
    on .string "format" "must match the format \x7bvalue\x7d" .format,
    on .array "items" "items must match the given schema: \x7bvalue\x7d" .items,
    general "additional_items" "items beyond the positional schemas must match: \x7bvalue\x7d"
      .remark,
    on .array "max_items" "sequence must not have more than \x7bvalue\x7d items" .maxSize,
    on .array "min_items" "sequence must not have less than \x7bvalue\x7d items" .minSize,
    on .array "unique_items" "sequence must have all unique items" .uniqueItems,
    on .array "contains" "sequence must contain an item that matches the schema: \x7bvalue\x7d"
      .contains,
    on .object "min_entries" "must have at least \x7bvalue\x7d entries" .minSize,
    on .object "max_entries" "must have no more than \x7bvalue\x7d entries" .maxSize,
    on .object "required" "must have the required keys: \x7bvalue\x7d" .required,
    on .object "entries" "entries must match their schemas" .entries,
    on .object "pattern_entries"
      "entries with names that match the given pattern must match the sub-schemas: \x7bvalue\x7d"
      .patternEntries,
    on .object "additional_entries" "additional entries must match the sub-schema: \x7bvalue\x7d"
      .additionalEntries,
    on .object "dependencies" "dependant schemas must validate" .dependencies,
    on .object "entry_names" "entry names must match the given schema" .entryNames,
    general "all_of" "must match all of the given schemas" .allOf,
    general "any_of" "must match at least one of the given schemas" .anyOf,
    general "one_of" "must match exactly one of the given schemas" .oneOf,
    general "not" "must not match the given schema: \x7bvalue\x7d" .negation,
    general "if" "if the instance matches \x7bvalue\x7d, it must match `then`, otherwise `else`"
      .conditional,
    general "then" "schema applied when `if` matches" .remark,
    general "else" "schema applied when `if` does not match" .remark]

/-- The base registry. -/
def base : Registry := baseDefinitions.foldl define (empty .underscore)

/-- The tables of the base registry. To decide something of them, begin with this equation: it is long to bring
all names into the convention again. -/
theorem base_eq : base =
    ⟨.underscore, baseDefinitions.map fun definition => (definition.name, definition), []⟩ := by
  decide +kernel

/-- The constraints that keep their names in JSON Schema. -/
def jsonSchemaNames : List String :=
  ["additionalItems", "allOf", "anyOf", "const", "contains", "dependencies", "else", "enum",
    "exclusiveMaximum", "exclusiveMinimum", "format", "if", "items", "maxItems", "maxLength",
    "maximum", "minItems", "minLength", "minimum", "multipleOf", "not", "oneOf", "pattern",
    "required", "then", "type", "uniqueItems", "default", "description", "title", "examples",
    "deprecated"]

/-- The constraints that JSON Schema names otherwise: the new name and the one in the base. -/
def jsonSchemaRenames : List (String × String) :=
  [("additionalProperties", "additional_entries"), ("maxProperties", "max_entries"),
    ("patternProperties", "pattern_entries"), ("minProperties", "min_entries"),
    ("properties", "entries"), ("propertyNames", "entry_names")]

/-- The registry of JSON Schema. -/
def jsonSchema : Registry :=
  base.cloneWith (some jsonSchemaNames) jsonSchemaRenames (some .lowerCamel)

/-- The constraints of JSON Schema: those of the base registry, without the name of the schema, under other
names. -/
def jsonSchemaDefinitions : Table Definition :=
  List.zipWith (fun name definition => (name, { definition with name := name }))
    ["type", "enum", "const", "default", "description", "title", "examples", "deprecated", "multipleOf",
      "maximum", "minimum", "exclusiveMaximum", "exclusiveMinimum", "maxLength", "minLength", "pattern",
      "format", "items", "additionalItems", "maxItems", "minItems", "uniqueItems", "contains",
      "minProperties", "maxProperties", "required", "properties", "patternProperties",
      "additionalProperties", "dependencies", "propertyNames", "allOf", "anyOf", "oneOf", "not", "if",
      "then", "else"]
    (baseDefinitions.filter fun definition => definition.name != "name")

/-- The tables of the registry of JSON Schema. To decide something of them, begin with this equation: the
projection of the base registry is long to evaluate. -/
theorem jsonSchema_eq : jsonSchema = ⟨.lowerCamel, jsonSchemaDefinitions,
    [("minEntries", "minProperties"), ("maxEntries", "maxProperties"), ("entries", "properties"),
      ("patternEntries", "patternProperties"), ("additionalEntries", "additionalProperties"),
      ("entryNames", "propertyNames")]⟩ := by
  unfold jsonSchema
  rw [base_eq]
  decide +kernel

/-- What holds of both built-in registries holds of a registry that is one of them. -/
theorem of_builtin {holds : Registry → Prop} {registry : Registry} (ofBase : holds base)
    (ofJsonSchema : holds jsonSchema) (builtin : registry = base ∨ registry = jsonSchema) :
    holds registry := by
  rcases builtin with same | same
  · exact same ▸ ofBase
  · exact same ▸ ofJsonSchema

end Conformance.Registry
