import FocusLayout.Text.Blank
import FocusLayout.Text.Fields
import FocusLayout.Text.Utf8

/-!
# The layout names property

The server keeps rules, model, layouts, variants and options as NUL-separated fields of one property. `ofProperty`
reads the layout names: the third field, as text, cut at commas, each name trimmed and blank ones left out.
-/

namespace FocusLayout.Layout.Names

/-- The names in a text: what stands between commas, trimmed, unless it is blank. -/
def ofText (text : List Char) : List String :=
  (((Text.fields (· == ',') text).map Text.trim).filter (!·.isEmpty)).map String.ofList

/-- The layout names in the value of the property. -/
def ofProperty (bytes : List UInt8) : List String :=
  match (Text.fields (· == 0) bytes)[2]? with
  | some field => ofText (Text.Utf8.decodeLossy field)
  | none => []

end FocusLayout.Layout.Names
