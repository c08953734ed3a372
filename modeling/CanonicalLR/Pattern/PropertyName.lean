import CanonicalLR.Unicode.Property
import CanonicalLR.Unicode.Script
import CanonicalLR.Unicode.Edition

/-!
Classes of characters that a pattern names by a property, such as `Greek`, `Lu` or `age=6.0`. Names
are compared loosely.
-/

namespace CanonicalLR.Pattern

open Unicode

/-- A name as it is compared: in lower case, without `is` in front, and without blanks, hyphens, low
lines and characters beyond ASCII. The name `isc` is not `c` with something in front. -/
def comparable (name : List Char) : List Char :=
  let kept (name : List Char) :=
    (name.filter fun c => decide (c.toNat < 128) && !(c == ' ' || c == '-' || c == '_')).map
      Char.toLower
  match name with
  | i :: s :: rest =>
      if i.toLower == 'i' && s.toLower == 's' then
        if kept rest == ['c'] then ['i', 's', 'c'] else kept rest
      else kept name
  | _ => kept name

/-- Whether one of the names is the one asked for, which is given as it is compared. -/
def goesBy (names : List String) (name : List Char) : Bool :=
  names.any fun known => comparable known.toList == name

def categoryNamed? (name : List Char) : Option CharSet :=
  if goesBy ["Any"] name then some CharSet.empty.compl
  else if goesBy ["Assigned"] name then some (Category.chars .unassigned).compl
  else if goesBy ["ASCII"] name then some (.span '\x00' '\x7f')
  else (Category.named.find? fun row => goesBy row.1 name).map fun row => Category.charsOf row.2

def scriptNamed? (name : List Char) : Option Script :=
  Script.named.find? fun script => goesBy script.names name

/-- The characters of all editions up to the one that is named. -/
def editionNamed? (name : List Char) : Option CharSet :=
  (Edition.inOrder.findIdx? fun edition => goesBy edition.names name).map fun last =>
    Edition.charsOf (Edition.inOrder.take (last + 1))

/-- The class with a name of its own: that of a yes-or-no property, of a category or of a script. -/
def classNamed? (name : List Char) : Option CharSet :=
  let name := comparable name
  match Property.named.find? fun property => goesBy property.names name with
  | some property => some property.chars
  | none => categoryNamed? name <|> (scriptNamed? name).map Script.chars

/-- The class of the characters for which a property has a value. -/
def classValued? (property value : List Char) : Option CharSet :=
  let property := comparable property
  let value := comparable value
  if goesBy ["gc", "General_Category"] property then categoryNamed? value
  else if goesBy ["sc", "Script"] property then (scriptNamed? value).map Script.chars
  else if goesBy ["scx", "Script_Extensions"] property then
    (scriptNamed? value).map fun script => script.charsInUse Script.named
  else if goesBy ["age"] property then editionNamed? value
  else none

/-- Splits a text at the first place where `mark` stands. -/
def splitAt? (mark : List Char) : List Char → Option (List Char × List Char)
  | [] => none
  | c :: rest =>
      if mark.isPrefixOf (c :: rest) then some ([], (c :: rest).drop mark.length)
      else (splitAt? mark rest).map fun (front, back) => (c :: front, back)

/-- The class that stands between the braces of a property: a name, or a property with a value after
a colon or an equals sign. The sign `!=` asks for all other values; the answer says whether it
does. -/
def classInBraces? (text : List Char) : Option (Bool × CharSet) :=
  match splitAt? ['!', '='] text with
  | some (property, value) => (classValued? property value).map fun chars => (true, chars)
  | none =>
      match splitAt? [':'] text <|> splitAt? ['='] text with
      | some (property, value) => (classValued? property value).map fun chars => (false, chars)
      | none => (classNamed? text).map fun chars => (false, chars)

end CanonicalLR.Pattern
