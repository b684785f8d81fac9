/-!
# Messages that a terminal only shows

A message may hold text from outside, and a terminal obeys some of the characters it is sent. The
controls by which a terminal rings, moves back, turns the page, deletes or begins an order of its
own are therefore written by their numbers. Line breaks, tabs and the remaining controls stay as
they are, and so does the backslash: a message is shown, it is not read back.
-/

namespace SessionReplay.Log

/-- The controls of one byte that are written by their numbers: bell, backspace, form feed, escape
and delete. -/
def shownControls : List Nat := [0x07, 0x08, 0x0c, 0x1b, 0x7f]

/-- How a character stands in a message: the controls of one byte as two hexadecimal digits after
`\x`, those of the second block of controls in braces after `\u`. -/
def messageChar (c : Char) : List Char :=
  let n := c.toNat
  if shownControls.contains n then
    ['\\', 'x', Nat.digitChar (n / 16), Nat.digitChar (n % 16)]
  else if 0x80 ≤ n ∧ n ≤ 0x9f then
    ['\\', 'u', '\x7b'] ++ Nat.toDigits 16 n ++ ['\x7d']
  else [c]

/-- The shown form of a message. -/
def messageText (message : String) : String :=
  String.ofList (message.toList.flatMap messageChar)

end SessionReplay.Log
