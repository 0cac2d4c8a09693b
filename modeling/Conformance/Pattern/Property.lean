import Conformance.Pattern.CharSet
/-!
The sets of the general categories, scripts and versions of characters, under the names that
patterns give them.
-/

namespace Conformance.Pattern

/-- A name in lower case, without blanks, hyphens and underscores. -/
def foldedName (name : List Char) : List Char :=
  (name.filter (fun char =>
    char.toNat < 128 && char != ' ' && char != '_' && char != '-')).map Char.toLower

/-- A name of a property in its plain form, without a leading `is`. The abbreviation `isc` is the
one name that is not cut. -/
def plainName (name : String) : String :=
  match name.toList with
  | first :: second :: rest =>
    if (first == 'i' || first == 'I') && (second == 's' || second == 'S') then
      let kept := foldedName rest
      if kept = ['c'] then "isc" else String.ofList kept
    else String.ofList (foldedName (first :: second :: rest))
  | short => String.ofList (foldedName short)

/-- The place of the entry that has a name. -/
def placeOf? (names : List (List String)) (name : String) : Option Nat :=
  names.findIdx? (fun entry => entry.contains name)

namespace CharSet

/-- The first of some named sets that has a name. -/
def named? (sets : List (List String × CharSet)) (name : String) : Option CharSet :=
  (sets.find? (fun entry => entry.1.contains name)).map (·.2)

/-- The characters of some general categories, given by their short names. -/
def ofCategories (shorts : List String) : CharSet :=
  .categories (shorts.filterMap (placeOf? categoryNames))

/-- A general category by its plain name. -/
def ofCategory? (name : String) : Option CharSet :=
  match name with
  | "any" => some all
  | "assigned" => some (.complement (ofCategories ["cn"]))
  | "ascii" => some ascii
  | name =>
    match placeOf? categoryNames name with
    | some place => some (.categories [place])
    | Option.none =>
      (categoryGroups.find? (fun group => group.1.contains name)).map fun group =>
        ofCategories group.2

/-- A script by its plain name. -/
def ofScript? (name : String) : Option CharSet := (placeOf? scriptNames name).map .script

/-- The characters of a script, given by its short name. -/
def ofShortScript (short : String) : CharSet := (ofScript? short).getD .none

/-- The characters that a script uses, by its plain name. What some script uses besides its own
is not counted as common to all scripts or inherited from the character in front. -/
def ofScriptUse? (name : String) : Option CharSet :=
  (placeOf? scriptNames name).map fun place =>
    let short := ((scriptNames[place]?).bind List.head?).getD ""
    if short ∈ ["zyyy", "zinh"] then
      .diff (.script place) (unions (scriptUses.map (fun use => .bounds use.2)))
    else
      match scriptUses.find? (fun use => use.1 == short) with
      | some use => .union (.script place) (.bounds use.2)
      | Option.none => .script place

/-- The characters of a version and of those in front of it, by the version's plain name. -/
def ofVersion? (name : String) : Option CharSet := (placeOf? versionNames name).map .since

/-- The decimal digits of all scripts. -/
def digit : CharSet := ofCategories ["nd"]

/-- The digits and all other characters of numbers. -/
def number : CharSet := ofCategories ["nd", "nl", "no"]

end CharSet

end Conformance.Pattern
