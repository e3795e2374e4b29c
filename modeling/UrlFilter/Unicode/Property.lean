import UrlFilter.Unicode.Age
import UrlFilter.Unicode.BinaryProperty
import UrlFilter.Unicode.Category
import UrlFilter.Unicode.Ranges
import UrlFilter.Unicode.Script
import UrlFilter.Unicode.Segmentation
import UrlFilter.Text.Basic

/-!
# Looking up a property by name

A class of characters can be asked for by the name of a binary property, of a general category or
of a script, or as a value of a property that has values.  Names are compared loosely: case,
blanks, hyphens, underscores and a leading `is` do not count.

A lone name is tried as a property first, then as a category, then as a script.  Three short names
that belong both to a category and to a property without classes name the category.
-/

namespace UrlFilter.Unicode

/-- Why a class of characters cannot be looked up. -/
inductive PropertyFault where
  /-- There is no property of that name. -/
  | unknownProperty
  /-- The property has no value of that name. -/
  | unknownValue
  deriving DecidableEq, Repr

/-- A question for a class of characters. -/
inductive PropertyQuery where
  /-- The characters that a lone name stands for. -/
  | named (name : Text)
  /-- The characters with this value of a property. -/
  | valued (property value : Text)
  deriving DecidableEq, Repr

/-! ## Loose names -/

/-- The text behind a leading `is`, in any case. -/
def withoutIs : Text → Option Text
  | a :: b :: r => if Text.asciiLower a = 'i' ∧ Text.asciiLower b = 's' then some r else none
  | _ => none

/-- The part of a name that counts when names are compared. -/
def looseChars (name : Text) : Text :=
  (name.filter fun c => c.toNat < 128 && c != ' ' && c != '_' && c != '-').map Text.asciiLower

/-- A name in the form that the tables hold.  The name `isc` is not `c` behind a leading `is`. -/
def looseName (name : Text) : Text :=
  match withoutIs name with
  | some r => if looseChars r = ['c'] then ['i', 's', 'c'] else looseChars r
  | none => looseChars name

/-! ## Lookup -/

/-- The ranges of the first entry that has a name. -/
def findEntry (table : List (String × List String)) (name : Text) : Option Ranges :=
  (table.find? fun entry => (tableWords entry.1).contains name).map fun entry =>
    Ranges.ofLines entry.2

/-- The ranges of the parts of a group of categories. -/
def groupRanges (parts : List String) : Ranges :=
  (parts.filterMap fun part => findEntry categories part.toList).flatten

/-- The characters of a general category or of one of the three classes beside them. -/
def category? (name : Text) : Option Ranges :=
  if name = "any".toList then some [(0, 0x10FFFF)]
  else if name = "ascii".toList then some [(0, 0x7F)]
  else if name = "assigned".toList then
    some (((categories.filter fun entry => !(tableWords entry.1).contains "cn".toList).map
      fun entry => Ranges.ofLines entry.2).flatten)
  else
    match categoryGroups.find? fun group => (tableWords group.1).contains name with
    | some group => some (groupRanges group.2)
    | none => findEntry categories name

/-- Whether a name is that of a property that stands for no class. -/
def isOtherProperty (name : Text) : Bool :=
  otherProperties.any fun line => (tableWords line).contains name

/-- The short names that a category shares with a property without classes. -/
def sharedNames : List Text := ["cf".toList, "sc".toList, "lc".toList]

/-- The class that a lone name stands for. -/
def namedClass (name : Text) : Except PropertyFault Ranges :=
  match if sharedNames.contains name then none else findEntry binaryProperties name with
  | some ranges => .ok ranges
  | none =>
    if isOtherProperty name && !sharedNames.contains name then .error .unknownProperty
    else
      match category? name with
      | some ranges => .ok ranges
      | none =>
        match findEntry scripts name with
        | some ranges => .ok ranges
        | none =>
          if (nameOnlyCategories ++ nameOnlyScripts).any fun word => word.toList == name then
            .error .unknownValue
          else .error .unknownProperty

/-- The characters that were assigned in the version of a name or before. -/
def age? (name : Text) : Option Ranges :=
  match ages.span fun entry => !(tableWords entry.1).contains name with
  | (older, entry :: _) =>
    some ((older ++ [entry]).map fun version => Ranges.ofLines version.2).flatten
  | (_, []) => none

/-- The class of a value of a property, where the property has classes. -/
def valueTable? (property value : Text) : Option Ranges :=
  if ["gc".toList, "generalcategory".toList].contains property then category? value
  else if ["sc".toList, "script".toList].contains property then findEntry scripts value
  else if ["scx".toList, "scriptextensions".toList].contains property then
    findEntry scriptExtensions value
  else if property = "age".toList then age? value
  else if ["gcb".toList, "graphemeclusterbreak".toList].contains property then
    findEntry graphemeBreaks value
  else if ["wb".toList, "wordbreak".toList].contains property then findEntry wordBreaks value
  else if ["sb".toList, "sentencebreak".toList].contains property then
    findEntry sentenceBreaks value
  else none

/-- The class of a value of a property. -/
def valueClass (property value : Text) : Except PropertyFault Ranges :=
  if isOtherProperty property || (findEntry binaryProperties property).isSome then
    match valueTable? property value with
    | some ranges => .ok ranges
    | none => .error .unknownValue
  else .error .unknownProperty

/-- The class of characters that a query asks for. -/
def PropertyQuery.lookup : PropertyQuery → Except PropertyFault Ranges
  | .named name => namedClass (looseName name)
  | .valued property value => valueClass (looseName property) (looseName value)

end UrlFilter.Unicode
