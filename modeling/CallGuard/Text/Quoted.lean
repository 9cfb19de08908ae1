import CallGuard.Text.Numeral
import CallGuard.Text.Property

/-! Quoted form of a text for diagnostics: a quote and a backslash are escaped, so are
tab, line ends and the null character by name, and whatever cannot be seen on its own by
its code point. -/

namespace CallGuard.Text

/-- The quoted form of one character. -/
def quotedChar (c : Char) : List Char :=
  if c = '"' then ['\\', '"']
  else if c = '\\' then ['\\', '\\']
  else if c = '\n' then ['\\', 'n']
  else if c = '\r' then ['\\', 'r']
  else if c = '\t' then ['\\', 't']
  else if c.toNat = 0 then ['\\', '0']
  else if c.toNat < 127 && 32 ≤ c.toNat then [c]
  else if extending.has c || unprintable.has c then
    '\\' :: 'u' :: '\x7b' :: Numeral.render 16 c.toNat ++ ['\x7d']
  else [c]

/-- A text between quotes. -/
def quoted (s : String) : String :=
  String.ofList ('"' :: (s.toList.flatMap quotedChar) ++ ['"'])

/-- A record in diagnostic form: its name and its fields with their texts. -/
def record (name : String) (fields : List (String × String)) : String :=
  name ++ " \x7b " ++ ", ".intercalate (fields.map fun (f, v) => f ++ ": " ++ v) ++ " \x7d"

end CallGuard.Text
