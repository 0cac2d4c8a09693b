import Conformance.Kind
import Conformance.Table
/-!
Type tables give the kinds that a dialect's type names denote.
-/

namespace Conformance

/-- What each type name of a dialect denotes, in order. -/
abbrev TypeTable := Table KindSet

namespace TypeTable

/-- The type names of the native dialect. -/
def native : TypeTable :=
  [("int", .singleton .integer), ("float", .singleton .float), ("number", .number),
    ("str", .singleton .string), ("bytes", .singleton .bytes), ("list", .singleton .array),
    ("sequence", .singleton .array), ("tuple", .singleton .array),
    ("dict", .singleton .object), ("mapping", .singleton .object),
    ("bool", .singleton .boolean), ("none", .singleton .null), ("object", .any)]

/-- The type names of JSON Schema. -/
def jsonSchema : TypeTable :=
  [("number", .number), ("integer", .singleton .integer), ("string", .singleton .string),
    ("object", .singleton .object), ("array", .singleton .array),
    ("boolean", .singleton .boolean), ("null", .singleton .null)]

end TypeTable

end Conformance
