/-!
# Texts as bytes

How many bytes characters take, a text cut at a byte offset, and the text that a
row of bytes writes.
-/

namespace Redirects.Text

/-- The number of bytes that characters take. -/
def byteLength (text : List Char) : Nat := text.foldr (fun c rest => c.utf8Size + rest) 0

/-- The text from a byte offset on; nothing where the offset is past the end or inside a character. -/
def dropBytes? : Nat → List Char → Option (List Char)
  | 0, text => some text
  | _ + 1, [] => none
  | count + 1, c :: text =>
    if c.utf8Size ≤ count + 1 then dropBytes? (count + 1 - c.utf8Size) text else none

/-- The byte order of texts, which is the order of their code points. -/
def precedes (first second : String) : Bool := first < second || first == second

/-- The text that bytes write, if they are UTF-8. -/
def ofBytes? (bytes : List UInt8) : Option String := String.fromUTF8? (ByteArray.mk bytes.toArray)

end Redirects.Text
