import InverterBridge.Number.Hexadecimal

/-!
# Quoted strings of documents

A document string stands between double quotes.  A quote and a backslash are
escaped, control characters below the space by their short escape or by four
hexadecimal digits, and every other character stands for itself.
-/

namespace InverterBridge.Quoted

/-- One character as it is written between quotes. -/
def escape (character : Char) : List Char :=
  if character == '"' then ['\\', '"']
  else if character == '\\' then ['\\', '\\']
  else if character == '\x08' then ['\\', 'b']
  else if character == '\x0c' then ['\\', 'f']
  else if character == '\n' then ['\\', 'n']
  else if character == '\r' then ['\\', 'r']
  else if character == '\t' then ['\\', 't']
  else if character.toNat < 0x20 then
    ['\\', 'u', '0', '0', hexDigit (character.toNat / 16), hexDigit (character.toNat % 16)]
  else [character]

/-- The text between the quotes. -/
def body (text : List Char) : List Char :=
  text.flatMap escape

/-- A string in quotes. -/
def encode (text : List Char) : List Char :=
  '"' :: (body text ++ ['"'])

@[simp]
theorem body_nil : body [] = [] :=
  rfl

@[simp]
theorem body_cons (character : Char) (text : List Char) :
    body (character :: text) = escape character ++ body text :=
  rfl

end InverterBridge.Quoted
