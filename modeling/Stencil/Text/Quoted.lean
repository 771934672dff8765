import Stencil.Text.Printable

/-!
# Quoted texts

The quoted form of a text stands between single quotes, or between double quotes when it holds
single quotes and no double ones. The backslash, the chosen quote and everything that is not
printable are escaped, so a quoted text is one line.
-/

namespace Stencil.Text

def hexDigits (width n : Nat) : Text := padLeft '0' width (Nat.toDigits 16 n)

def quoteFor (t : Text) : Char :=
  if t.contains '\x27' && !t.contains '\x22' then '\x22' else '\x27'

def escapeChar (quote c : Char) : Text :=
  if c = quote ∨ c = '\\' then ['\\', c]
  else if c = '\n' then ['\\', 'n']
  else if c = '\r' then ['\\', 'r']
  else if c = '\t' then ['\\', 't']
  else if isPrintable c then [c]
  else if c.toNat < 0x100 then '\\' :: 'x' :: hexDigits 2 c.toNat
  else if c.toNat < 0x10000 then '\\' :: 'u' :: hexDigits 4 c.toNat
  else '\\' :: 'U' :: hexDigits 8 c.toNat

def quoted (t : Text) : Text :=
  let quote := quoteFor t
  quote :: t.flatMap (escapeChar quote) ++ [quote]

end Stencil.Text
