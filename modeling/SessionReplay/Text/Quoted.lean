import SessionReplay.Text.Unprintable

/-!
# Quoted log values

A text value in a log line stands in double quotes. Quotes and backslashes are escaped, so are the
line controls, and a character without a shape of its own is written by its code point.
-/

namespace SessionReplay.Text

/-- How a character stands inside a quoted log value. -/
def quoteChar (c : Char) : List Char :=
  if c = '"' then ['\\', '"']
  else if c = '\\' then ['\\', '\\']
  else if c.toNat = 0 then ['\\', '0']
  else if c.toNat = 9 then ['\\', 't']
  else if c.toNat = 10 then ['\\', 'n']
  else if c.toNat = 13 then ['\\', 'r']
  else if inRanges unprintableRanges c then
    ['\\', 'u', '\x7b'] ++ Nat.toDigits 16 c.toNat ++ ['\x7d']
  else [c]

/-- A text as a quoted log value. -/
def quoted (text : String) : String :=
  String.ofList ('"' :: text.toList.flatMap quoteChar ++ ['"'])

end SessionReplay.Text
