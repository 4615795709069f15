import FocusLayout.Text.Property.Age
import FocusLayout.Text.Property.Binary
import FocusLayout.Text.Property.CaseFold
import FocusLayout.Text.Property.Category
import FocusLayout.Text.Property.Script

/-!
# Character properties by name

- `named?` finds a property, category or script by its loose name: case, blanks, hyphens, underscores and a leading
  "is" do not count (`looseName`);
- `valued?` finds the code points for which a property has a value;
- the classes that other modules need: word characters, decimal digits, letters and numbers, and what is shown escaped.
-/

namespace FocusLayout.Text.Property

/-- A name as it is compared: lower case ASCII, without separators and without a leading "is". -/
def looseName (name : String) : String :=
  let strip (cs : List Char) : List Char :=
    (cs.filter fun c => c.toNat ≤ 0x7F && c != ' ' && c != '_' && c != '-').map Char.toLower
  match name.toList with
  | i :: s :: rest =>
    if i.toLower == 'i' && s.toLower == 's' then
      let short := strip rest
      if short == ['c'] then "isc" else String.ofList short
    else String.ofList (strip name.toList)
  | cs => String.ofList (strip cs)

/-- Every code point. -/
def anyCodePoint : CodePoints := .range 0 CodePoints.last

/-- The general categories and the sets named like them. -/
def categoryNamed? (loose : String) : Option CodePoints :=
  match loose with
  | "any" => some anyCodePoint
  | "assigned" => some (ofCategories ["Cn"]).complement
  | "ascii" => some (.range 0 0x7F)
  | _ => (categoriesNamed loose).map ofCategories

/-- The property, category or script with a name; of an abbreviation that is both, the category is meant. -/
def named? (name : String) : Option CodePoints :=
  let loose := looseName name
  let property := if ["cf", "sc", "lc"].contains loose then none else propertyNamed? loose
  property.or ((categoryNamed? loose).or ((scriptNamed? loose).map ofScript))

/-- The code points for which a property has a value. -/
def valued? (name value : String) : Option CodePoints :=
  let value := looseName value
  match looseName name with
  | "gc" | "generalcategory" => categoryNamed? value
  | "sc" | "script" => (scriptNamed? value).map ofScript
  | "scx" | "scriptextensions" => (scriptNamed? value).map ofScriptExtended
  | "age" => ofAge? value
  | _ => none

/-- Decimal digits. -/
def decimalDigits : CodePoints := ofCategories ["Nd"]

/-- Letters, marks, decimal digits, connectors and joiners. -/
def wordCharacters : CodePoints :=
  alphabetic.union ((ofCategories ["Mn", "Mc", "Me", "Nd", "Pc"]).union joinControl)

/-- Letters and numbers of every kind. -/
def alphanumeric : CodePoints :=
  alphabetic.union (ofCategories ["Nd", "Nl", "No"])

/-- Controls, format characters, separators other than the space, and what is private or unassigned. -/
def unprintable : CodePoints :=
  (ofCategories ["Cc", "Cf", "Cn", "Co", "Cs", "Zl", "Zp", "Zs"]).diff (.range 0x20 0x20)

end FocusLayout.Text.Property
