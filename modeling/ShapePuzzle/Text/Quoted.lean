import ShapePuzzle.Text.Half
import ShapePuzzle.Text.Hexadecimal
import ShapePuzzle.Text.Printable

/-!
# Quoted text

A text stands between single quotes, or between double quotes if it holds single ones only. The quote in use,
the backslash and whatever cannot be printed are escaped.
-/
namespace ShapePuzzle

def escapeCode (n : Nat) : List Char :=
  if n < 0x100 then '\\' :: 'x' :: hexPlaces 2 n
  else if n < 0x10000 then '\\' :: 'u' :: hexPlaces 4 n
  else '\\' :: 'U' :: hexPlaces 8 n

def escapeChar (quote c : Char) : List Char :=
  if c = quote ∨ c = '\\' then ['\\', c]
  else if c = '\n' then ['\\', 'n']
  else if c = '\r' then ['\\', 'r']
  else if c = '\t' then ['\\', 't']
  else if isPrintable c then [c]
  else escapeCode (codeOf c)

def quoteFor (cs : List Char) : Char :=
  if cs.contains '\x27' && !cs.contains '\x22' then '\x22' else '\x27'

def quoted (s : String) : String :=
  let cs := s.toList
  let quote := quoteFor cs
  String.ofList (quote :: cs.flatMap (escapeChar quote) ++ [quote])

end ShapePuzzle
