/-!
# Shortened texts

Texts cut to a width, and counted nouns.
-/

namespace Redirects.Text

/-- The mark that stands for what was cut. -/
def ellipsis : Char := '…'

/-- At most `width` characters of a text: its start and its end with an ellipsis between, the start
having the odd character. -/
def shortenChars (width : Nat) (text : List Char) : List Char :=
  if text.length ≤ width then text
  else if width ≤ 1 then [ellipsis].take width
  else
    let kept := width - 1
    let front := (kept + 1) / 2
    let back := kept - front
    text.take front ++ ellipsis :: text.drop (text.length - back)

/-- At most `width` characters of a text. -/
def shorten (text : String) (width : Nat) : String :=
  String.ofList (shortenChars width text.toList)

/-- A count and its noun, which takes an s unless the count is one. -/
def counted (count : Nat) (noun : String) : String :=
  if count = 1 then s!"{count} {noun}" else s!"{count} {noun}s"

end Redirects.Text
