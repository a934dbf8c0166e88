/-!
Numerals: decimal, and hexadecimal with its `0x` mark.
-/

namespace WriteBarrier.Text

/-- The decimal numeral of a word. -/
def decimal (n : UInt64) : String :=
  n.toNat.repr

/-- The shortest lower-case hexadecimal numeral, marked `0x`. -/
def hex (n : UInt64) : String :=
  "0x" ++ String.ofList (Nat.toDigits 16 n.toNat)

/-- The hexadecimal numeral with all sixteen digits of a word, marked `0x`. -/
def fullHex (n : UInt64) : String :=
  let digits := Nat.toDigits 16 n.toNat
  "0x" ++ String.ofList (List.replicate (16 - digits.length) '0' ++ digits)

/-- The two lower-case hexadecimal digits of a byte. -/
def byteHex (b : UInt8) : List Char :=
  [Nat.digitChar (b.toNat / 16), Nat.digitChar (b.toNat % 16)]

/-- Bytes written one after the other, two digits each. -/
def bytesHex (bytes : List UInt8) : String :=
  String.ofList (bytes.flatMap byteHex)

/-- The words `true` and `false`. -/
def truth : Bool → String
  | true => "true"
  | false => "false"

end WriteBarrier.Text
