import ShapePuzzle.Number.Literal

/-!
# Numerals in JSON

The longest numeral that starts a text, and what follows it. A point or an exponent belongs to the numeral only
if digits stand behind it.
-/
namespace ShapePuzzle.Json.Numeral

def takeMinus : List Char → Option Char × List Char
  | '-' :: rest => (some '-', rest)
  | cs => (none, cs)

/-- A nought in front is the whole part. -/
def takeWhole : List Char → List Char × List Char
  | '0' :: rest => (['0'], rest)
  | cs => (cs.takeWhile Char.isDigit, cs.dropWhile Char.isDigit)

def takeFraction (cs : List Char) : Option (List Char) × List Char :=
  match cs with
  | '.' :: rest => match rest.takeWhile Char.isDigit with
    | [] => (none, cs)
    | digits => (some digits, rest.dropWhile Char.isDigit)
  | _ => (none, cs)

def takeExponent (cs : List Char) : Option (Option Char × List Char) × List Char :=
  match cs with
  | 'e' :: rest | 'E' :: rest =>
    let (sign, rest) := splitSign rest
    match rest.takeWhile Char.isDigit with
    | [] => (none, cs)
    | digits => (some (sign, digits), rest.dropWhile Char.isDigit)
  | _ => (none, cs)

def scan? (cs : List Char) : Option (Literal × List Char) :=
  let (sign, cs) := takeMinus cs
  match takeWhole cs with
  | ([], _) => none
  | (whole, cs) =>
    let (fraction, cs) := takeFraction cs
    let (exponent, cs) := takeExponent cs
    some (⟨sign, whole, fraction, exponent⟩, cs)

end ShapePuzzle.Json.Numeral
