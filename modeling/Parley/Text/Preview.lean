import Parley.Text.Blank
import Parley.Text.Unprintable

/-!
# Texts as people see them

Messages show a text between double quotes.  Quotes, backslashes and the common control characters
are written with a backslash, every other character that cannot be shown by its number (`quoted`).
A log shows a text that may be long by its `preview`: the text itself when it is short enough, and
otherwise its beginning with a note of the full length.

`Text.quoted` is how `Debug` shows a text, and `Text.preview` models `truncate_for_log`.
-/

namespace Parley

namespace Text

/-! ### Quoted texts -/

/-- The number of a character in hexadecimal digits, between braces. -/
def numbered (c : Char) : Chars := ['\\', 'u', '{'] ++ Nat.toDigits 16 c.toNat ++ ['}']

/-- The written form of one character inside quotes. -/
def escaped (c : Char) : Chars :=
  if c = '"' then ['\\', '"']
  else if c = '\\' then ['\\', '\\']
  else if c = '\t' then ['\\', 't']
  else if c = '\n' then ['\\', 'n']
  else if c = '\r' then ['\\', 'r']
  else if c.toNat = 0 then ['\\', '0']
  else if unprintable c then numbered c
  else [c]

/-- The text between quotes. -/
def quoted (s : String) : String := String.ofList ('"' :: s.toList.flatMap escaped ++ ['"'])

example : quoted "a\"b\\\n\x01" = "\"a\\\"b\\\\\\n\\u\x7b1\x7d\"" := by decide +kernel

/-! ### Previews -/

/-- The text itself if it has at most `limit` characters, else its first `limit` characters and
the number of all of them. -/
def preview (limit : Nat) (s : String) : String :=
  if s.length ≤ limit then s
  else String.ofList (s.toList.take limit) ++ "... (" ++ toString s.length ++ " chars)"

end Text

end Parley
