import Landscape.Text.Property

namespace Landscape.Text

/-!
# Quoted text

Two ways to put a text between quotes: for documents, where only the quote, the backslash and
control characters are escaped, and for messages, where everything is escaped that cannot be
seen by itself.
-/

def hexDigit (n : Nat) : Char := if n < 10 then Char.ofNat (48 + n) else Char.ofNat (87 + n)

def hexDigits (n : Nat) : List Char := Nat.toDigits 16 n

/-! ## In documents -/

/-- One character of a text inside a document. -/
def escapeChar (c : Char) : List Char :=
  if c = '"' then ['\\', '"']
  else if c = '\\' then ['\\', '\\']
  else if c = '\n' then ['\\', 'n']
  else if c = '\r' then ['\\', 'r']
  else if c = '\t' then ['\\', 't']
  else if c.toNat = 8 then ['\\', 'b']
  else if c.toNat = 12 then ['\\', 'f']
  else if c.toNat < 32 then
    ['\\', 'u', '0', '0', hexDigit (c.toNat / 16), hexDigit (c.toNat % 16)]
  else [c]

/-- A text inside a document. -/
def inDocument (s : String) : List Char := '"' :: s.toList.flatMap escapeChar ++ ['"']

/-! ## In messages -/

/-- Whether a character is neither a blank other than the space nor invisible. -/
def isPrintable (c : Char) : Bool :=
  c = ' ' ||
    !([Category.control, .format, .privateUse, .unassigned, .lineSeparator, .paragraphSeparator,
        .spaceSeparator].any fun k => k.contains c.toNat)

/-- One character of a text inside a message. -/
def messageChar (c : Char) : List Char :=
  if c.toNat = 0 then ['\\', '0']
  else if c = '\t' then ['\\', 't']
  else if c = '\r' then ['\\', 'r']
  else if c = '\n' then ['\\', 'n']
  else if c = '\\' then ['\\', '\\']
  else if c = '"' then ['\\', '"']
  else if Property.graphemeExtend.contains c.toNat || !isPrintable c then
    ['\\', 'u', '{'] ++ hexDigits c.toNat ++ ['}']
  else [c]

/-- A text inside a message. -/
def inMessage (s : String) : String := String.ofList ('"' :: s.toList.flatMap messageChar ++ ['"'])

end Landscape.Text
