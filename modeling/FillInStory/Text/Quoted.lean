import FillInStory.Text.Printable
import FillInStory.Text.GraphemeExtend
import FillInStory.Text.Utf8

/-! # Quoted texts

Log records and failure messages quote texts and paths: the text stands between double quotes, and what
could be misread or would not show is escaped. Paths escape the apostrophe as well, plain texts do not.
Header values are quoted byte by byte.
-/

namespace FillInStory.Text

/-- A character escaped by its code point. -/
def escapedCodePoint (c : Char) : Text := "\\u\x7b" ++ hexadecimal c.toNat ++ "\x7d"

/-- A character as it stands between quotes. -/
def quotedChar (escapeApostrophe : Bool) (c : Char) : Text :=
  if c = '\x00' then "\\0"
  else if c = '\t' then "\\t"
  else if c = '\r' then "\\r"
  else if c = '\n' then "\\n"
  else if c = '"' || c = '\\' || (escapeApostrophe && c = '\'') then ['\\', c]
  else if isGraphemeExtend c || !isPrintable c then escapedCodePoint c
  else [c]

def quoted (t : Text) : Text := '"' :: t.flatMap (quotedChar false) ++ ['"']

def quotedPath (t : Text) : Text := '"' :: t.flatMap (quotedChar true) ++ ['"']

/-- A byte of a header value as it stands between quotes: visible ASCII and the tab as they are, a
quote after a backslash, all else by its number. -/
def quotedByte (b : UInt8) : Text :=
  if b = 34 then "\\\""
  else if (32 ≤ b && b < 127) || b = 9 then [Char.ofNat b.toNat]
  else "\\x" ++ hexadecimal b.toNat

def quotedHeader (t : Text) : Text := '"' :: (utf8 t).flatMap quotedByte ++ ['"']

end FillInStory.Text
