import PeppolStatistics.Text.Printable
import PeppolStatistics.Text.Numeral

/-!
# Quoted texts

Messages that name an offending text show it in quotes. Single quotes are used, double quotes if
the text holds a single quote and no double quote; the chosen quote, the backslash and the
characters that cannot be seen are escaped.
-/

namespace PeppolStatistics

namespace Quoted

/-- The quote for a text. -/
def quoteFor (cs : List Char) : Char :=
  if cs.contains '\'' && !cs.contains '"' then '"' else '\''

/-- One character between quotes. -/
def escape (quote c : Char) : List Char :=
  if c == quote || c == '\\' then ['\\', c]
  else if c == '\n' then ['\\', 'n']
  else if c == '\r' then ['\\', 'r']
  else if c == '\t' then ['\\', 't']
  else if isPrintable c then [c]
  else if c.toNat < 0x100 then '\\' :: 'x' :: Numeral.paddedHex 2 c.toNat
  else if c.toNat < 0x10000 then '\\' :: 'u' :: Numeral.paddedHex 4 c.toNat
  else '\\' :: 'U' :: Numeral.paddedHex 8 c.toNat

/-- A text in quotes. -/
def encode (cs : List Char) : List Char :=
  let quote := quoteFor cs
  quote :: cs.flatMap (escape quote) ++ [quote]

end Quoted

/-- A text in quotes, as messages show it. -/
def quoted (s : String) : String := String.ofList (Quoted.encode s.toList)

end PeppolStatistics
