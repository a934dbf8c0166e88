/-!
Compact JSON text: strings with the standard escapes, and objects whose members stand in the order
in which they are given.
-/

namespace WriteBarrier.Text.Json

/-- A character inside a JSON string.  Quotes, backslashes and the control characters below the
space are escaped, the latter by a letter where JSON has one and by their number otherwise. -/
def escape (c : Char) : List Char :=
  if c = '"' then ['\\', '"']
  else if c = '\\' then ['\\', '\\']
  else if c = '\n' then ['\\', 'n']
  else if c = '\r' then ['\\', 'r']
  else if c = '\t' then ['\\', 't']
  else if c = '\x08' then ['\\', 'b']
  else if c = '\x0c' then ['\\', 'f']
  else if c.toNat < 32 then
    ['\\', 'u', '0', '0', Nat.digitChar (c.toNat / 16), Nat.digitChar (c.toNat % 16)]
  else [c]

/-- The characters of a quoted string. -/
def quote (cs : List Char) : List Char :=
  '"' :: (cs.flatMap escape ++ ['"'])

def text (s : String) : String :=
  String.ofList (quote s.toList)

def number (n : UInt64) : String :=
  n.toNat.repr

/-- An object, from its members' names and written values. -/
def object (members : List (String × String)) : String :=
  "\x7b" ++ ",".intercalate (members.map fun m => text m.1 ++ ":" ++ m.2) ++ "\x7d"

end WriteBarrier.Text.Json
