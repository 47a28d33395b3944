import MetricAlgebra.Unicode.Property

/-!
# Quoted texts

A text between double quotes in which every character can be seen: quotes and backslashes are
escaped, and so is all that prints nothing of its own or joins the character before it.
-/

namespace MetricAlgebra.Text

/-- Whether a character shows as itself inside quotes. -/
def isShown (c : Char) : Bool :=
  Unicode.printable.contains c.toNat && !Unicode.graphemeExtend.contains c.toNat

/-- A character by its code point, in lower-case hexadecimal without leading zeros. -/
def codePointEscape (c : Char) : List Char :=
  ['\\', 'u', '{'] ++ Nat.toDigits 16 c.toNat ++ ['}']

/-- A character as it is written inside quotes. -/
def quotedChar (c : Char) : List Char :=
  match c with
  | '\x00' => ['\\', '0']
  | '\t' => ['\\', 't']
  | '\r' => ['\\', 'r']
  | '\n' => ['\\', 'n']
  | '\\' => ['\\', '\\']
  | '"' => ['\\', '"']
  | c => if isShown c then [c] else codePointEscape c

/-- A text between double quotes, escaped. -/
def quoted (text : String) : String :=
  String.ofList ('"' :: text.toList.flatMap quotedChar ++ ['"'])

end MetricAlgebra.Text
