import Redirects.Unicode.Property

/-!
# Blanks

Blank characters at the ends of a text.
-/

namespace Redirects.Text

/-- The characters without the blanks at either end. -/
def trimChars (text : List Char) : List Char :=
  ((text.dropWhile Unicode.isSpace).reverse.dropWhile Unicode.isSpace).reverse

/-- The text without the blanks at either end. -/
def trim (text : String) : String := String.ofList (trimChars text.toList)

end Redirects.Text
