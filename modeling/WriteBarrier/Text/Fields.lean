/-!
A named record written with its fields, on one line or with one field a line.
-/

namespace WriteBarrier.Text

/-- A field and its written value. -/
abbrev Field := String × String

def fields (name : String) (entries : List Field) : String :=
  name ++ " \x7b " ++ ", ".intercalate (entries.map fun e => e.1 ++ ": " ++ e.2) ++ " \x7d"

/-- The record with one indented field a line, each line ended by a comma. -/
def tallFields (name : String) (entries : List Field) : String :=
  name ++ " \x7b\n" ++ String.join (entries.map fun e => "    " ++ e.1 ++ ": " ++ e.2 ++ ",\n") ++
    "\x7d"

end WriteBarrier.Text
