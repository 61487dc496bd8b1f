import ShapePuzzle.Number.Literal
import ShapePuzzle.Value.Text

/-!
# Percent directives

A text with percent directives is filled in by one value, or by the fields of a collection where a directive names
them. What counts is only whether that can be done, since the text that comes out is never a number.
-/
namespace ShapePuzzle.Percent

/-- The value to fill in and whether it has been used; a directive with a name looks into the collection. -/
structure Supply where
  value : Value
  used : Bool
  collection : Option Value

namespace Supply

def ofValue (v : Value) : Supply :=
  match v with
  | .list _ | .object _ => ⟨v, false, some v⟩
  | _ => ⟨v, false, none⟩

def take (s : Supply) : Except Fault (Value × Supply) :=
  if s.used then .error .kindMismatch else .ok (s.value, { s with used := true })

def named (s : Supply) (name : String) : Except Fault Supply :=
  match s.collection with
  | some (.object fs) => match fs.lookup name with
    | some v => .ok { s with value := v, used := false }
    | none => .error .noSuchField
  | _ => .error .kindMismatch

/-- A value that no directive used is left over, unless it is a collection. -/
def finish (s : Supply) : Except Fault Unit :=
  if s.used || s.collection.isSome then .ok () else .error .kindMismatch

end Supply

/-- The name up to the bracket that closes it, and what comes after it. -/
def name? : Nat → List Char → Option (List Char × List Char)
  | _, [] => none
  | depth, c :: rest =>
    if c = ')' then
      match depth with
      | 0 => some ([], rest)
      | depth + 1 => (name? depth rest).map fun (name, rest) => (c :: name, rest)
    else (name? (if c = '(' then depth + 1 else depth) rest).map fun (name, rest) => (c :: name, rest)

/-- A name in brackets puts the field of that name in the place of the value. -/
def key (s : Supply) (cs : List Char) : Except Fault (Supply × List Char) :=
  match cs with
  | '(' :: rest =>
    if s.collection.isNone then .error .kindMismatch
    else match name? 0 rest with
      | some (name, rest) => do return (← s.named (String.ofList name), rest)
      | none => .error (.badPercent "incomplete format key")
  | _ => .ok (s, cs)

def flags : List Char := ['-', '+', ' ', '#', '0']

/-- Widths fill 64 bits and precisions 32, both with a sign. -/
def largestWidth : Nat := Nat.pow 2 63 - 1
def largestPrecision : Nat := Nat.pow 2 31 - 1

/-- What an integer may be written with; the sign and a mark of its base come on top. -/
def largestIntegerPrecision : Nat := largestPrecision - 3

/-- No text of so many characters has an address. -/
def addressable : Nat := Nat.pow 2 47

/-- A width or a precision, digits or a star that uses an integer, and what is left after it. -/
def measure (s : Supply) (largest : Nat) (what : String) (cs : List Char) :
    Except Fault (Int × Supply × List Char) :=
  match cs with
  | '*' :: rest => do
    let (v, s) ← s.take
    match v with
    | .number (.int n) =>
      if -largest - 1 ≤ n ∧ n ≤ largest then return (n, s, rest) else throw .numberTooLarge
    | .bool b => return (if b then 1 else 0, s, rest)
    | _ => throw .kindMismatch
  | _ =>
    let n := digitsValue (cs.takeWhile Char.isDigit)
    if n ≤ largest then .ok (n, s, cs.dropWhile Char.isDigit) else .error (.badPercent (what ++ " too big"))

def precision (s : Supply) (cs : List Char) : Except Fault (Int × Supply × List Char) :=
  match cs with
  | '.' :: rest => measure s largestPrecision "precision" rest
  | _ => .ok (0, s, cs)

def dropLength : List Char → List Char
  | 'h' :: rest | 'l' :: rest | 'L' :: rest => rest
  | cs => cs

def unsupported (c : Char) (place : Nat) : Fault :=
  let shown := if 31 ≤ c.toNat ∧ c.toNat ≤ 126 then c else '?'
  let code := String.ofList (Nat.toDigits 16 c.toNat)
  .badPercent s!"unsupported format character '{shown}' (0x{code}) at index {place}"

/-- Whether an integer can be written in some base; only the decimal one has a longest numeral. -/
def asDigits (precision : Nat) (writable : Bool) : Except Fault Unit :=
  if largestIntegerPrecision < precision then .error .numberTooLarge
  else if writable then .ok ()
  else .error .tooManyDigits

/-- Whether a value can be written as a whole number. -/
def asWhole (precision : Nat) : Value → Except Fault Unit
  | .number (.float .nan) => .error (.badPercent "cannot convert float NaN to integer")
  | .number (.float (.infinite _)) => .error .numberTooLarge
  | v => match v.number? with
    | some n => asDigits precision n.isShort
    | none => .error .kindMismatch

def asInteger (precision : Nat) : Value → Except Fault Unit
  | .number (.int _) | .bool _ => asDigits precision true
  | _ => .error .kindMismatch

def asDecimal (v : Value) : Except Fault Unit :=
  match v.number? with
  | none => .error .kindMismatch
  | some n => if n.float?.isSome then .ok () else .error .numberTooLarge

def asCharacter : Value → Except Fault Unit
  | .text s => if s.length = 1 then .ok () else .error .kindMismatch
  | .number (.int n) => if 0 ≤ n ∧ n < 0x110000 then .ok () else .error .numberTooLarge
  | .bool _ => .ok ()
  | _ => .error .kindMismatch

def convert (c : Char) (place precision : Nat) (v : Value) : Except Fault Unit :=
  if c ∈ ['s', 'r', 'a'] then discard v.bare
  else if c ∈ ['d', 'i', 'u'] then asWhole precision v
  else if c ∈ ['o', 'x', 'X'] then asInteger precision v
  else if c ∈ ['e', 'E', 'f', 'F', 'g', 'G'] then asDecimal v
  else if c = 'c' then asCharacter v
  else .error (unsupported c place)

/-- Takes a value and converts it; what comes out is then brought to the width. -/
def conversion (length width precision : Nat) (s : Supply) (cs : List Char) : Except Fault (Supply × List Char) :=
  match dropLength cs with
  | [] => .error (.badPercent "incomplete format")
  | c :: rest => do
    let (v, s) ← s.take
    convert c (length - rest.length - 1) precision v
    if addressable ≤ width then throw .outOfMemory else return (s, rest)

/-- What comes after the percent sign of a directive, in a text of `length` characters. A negative width is one to the
left, a negative precision none. -/
def directive (length : Nat) (s : Supply) (cs : List Char) : Except Fault (Supply × List Char) := do
  let (s, cs) ← key s cs
  let (width, s, cs) ← measure s largestWidth "width" (cs.dropWhile fun c => c ∈ flags)
  let (precision, s, cs) ← precision s cs
  conversion length width.natAbs precision.toNat s cs

/-- Goes through the text; every directive takes at least one character. -/
def run (length : Nat) : Nat → Supply → List Char → Except Fault Supply
  | 0, s, _ => .ok s
  | _ + 1, s, [] => .ok s
  | fuel + 1, s, '%' :: '%' :: rest => run length fuel s rest
  | fuel + 1, s, '%' :: rest => do
    let (s, rest) ← directive length s rest
    run length fuel s rest
  | fuel + 1, s, _ :: rest => run length fuel s rest

/-- Fills a value into a text, as far as it can fail. -/
def fill (text : String) (v : Value) : Except Fault Unit := do
  let s ← run text.length text.length (.ofValue v) text.toList
  s.finish

end ShapePuzzle.Percent
