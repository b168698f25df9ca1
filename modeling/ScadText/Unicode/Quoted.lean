import ScadText.Text.Quoted
import ScadText.Unicode.Printable

/-!
# Texts in quotes with the printable characters of Unicode
-/

namespace ScadText.Unicode

/-- A text in quotes, as messages show it. -/
def quoted (text : String) : String := String.ofList (Text.quote isPrintable text.toList)

end ScadText.Unicode
