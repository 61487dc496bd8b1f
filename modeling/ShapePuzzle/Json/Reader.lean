import ShapePuzzle.Json.Numeral
import ShapePuzzle.Value.Basic

/-!
# Reading JSON

A machine takes the text character by character. It holds the collections that are open, what may come
next and the word or text it is in. Besides the standard it knows `NaN`, `Infinity` and `-Infinity`; of two
fields with one name the first gives the place and the last the value.
-/
namespace ShapePuzzle.Json

inductive Flaw where
  | malformed
  | numeralTooLong (digits : Nat)
  | nestedTooDeep
  deriving DecidableEq

/-- A collection that is still open. The items of a list stand last first. -/
inductive Frame where
  | list (items : List Value)
  | object (fields : Fields Value) (key : String)

inductive Expected where
  | value | firstItem | separator | firstKey | key | colon
  deriving DecidableEq

inductive Scan where
  | between
  | word (chars : List Char)
  | inText (chars : List Char)
  | escape (chars : List Char)
  | code (chars : List Char) (places : Nat) (value : Nat)

/-- `high` is the first half of a pair of escapes that is waiting for the second. -/
structure Machine where
  frames : List Frame
  depth : Nat
  expected : Expected
  scan : Scan
  high : Option Nat
  done : Option Value

abbrev Move := Except Flaw Machine

namespace Machine

def start : Machine := ⟨[], 0, .value, .between, none, none⟩

def isBlank (c : Char) : Bool :=
  c = ' ' || c = '\t' || c = '\n' || c = '\r'

def isWordChar (c : Char) : Bool :=
  c.isAlphanum || c = '+' || c = '-' || c = '.'

def wantsValue (m : Machine) : Bool :=
  m.expected = .value || m.expected = .firstItem

/-- A finished value goes where the innermost open collection wants it. -/
def accept (m : Machine) (v : Value) : Move :=
  if !m.wantsValue then .error .malformed
  else match m.frames with
    | [] => .ok { m with done := some v, expected := .separator }
    | .list items :: rest => .ok { m with frames := .list (v :: items) :: rest, expected := .separator }
    | .object fields key :: rest =>
      .ok { m with frames := .object (fields.put key v) "" :: rest, expected := .separator }

def acceptText (m : Machine) (s : String) : Move :=
  match m.expected, m.frames with
  | .firstKey, .object fields _ :: rest | .key, .object fields _ :: rest =>
    .ok { m with frames := .object fields s :: rest, expected := .colon }
  | _, _ => m.accept (.text s)

/-- The numeral that starts the word is taken first, and nothing may be left of the word. -/
def number (chars : List Char) : Except Flaw Value :=
  match Numeral.scan? chars with
  | none => .error .malformed
  | some (x, rest) =>
    if x.isWhole ∧ longestNumeral < x.whole.length then .error (.numeralTooLong x.whole.length)
    else if rest ≠ [] then .error .malformed
    else if x.isWhole then .ok (.int x.toInt)
    else .ok (.float x.toFloat)

def word (chars : List Char) : Except Flaw Value :=
  match String.ofList chars with
  | "null" => .ok .null
  | "true" => .ok (.bool true)
  | "false" => .ok (.bool false)
  | "NaN" => .ok (.float .nan)
  | "Infinity" => .ok (.float (.infinite false))
  | "-Infinity" => .ok (.float (.infinite true))
  | _ => number chars

/-- A value that starts with the word may only start where a value may stand. -/
def acceptWord (m : Machine) (chars : List Char) : Move :=
  if !m.wantsValue then .error .malformed
  else match word chars.reverse with
    | .ok v => { m with scan := .between }.accept v
    | .error flaw => .error flaw

def openFrame (m : Machine) (frame : Frame) (expected : Expected) : Move :=
  if !m.wantsValue then .error .malformed
  else if deepestNesting ≤ m.depth then .error .nestedTooDeep
  else .ok { m with frames := frame :: m.frames, depth := m.depth + 1, expected }

def closeFrame (m : Machine) (rest : List Frame) (v : Value) : Move :=
  { m with frames := rest, depth := m.depth - 1, expected := .value }.accept v

def punctuation (m : Machine) (c : Char) : Move :=
  match c, m.expected, m.frames with
  | '[', _, _ => m.openFrame (.list []) .firstItem
  | '\x7b', _, _ => m.openFrame (.object [] "") .firstKey
  | ']', .firstItem, .list items :: rest | ']', .separator, .list items :: rest =>
    m.closeFrame rest (.list items.reverse)
  | '\x7d', .firstKey, .object fields _ :: rest | '\x7d', .separator, .object fields _ :: rest =>
    m.closeFrame rest (.object fields)
  | ',', .separator, .list _ :: _ => .ok { m with expected := .value }
  | ',', .separator, .object _ _ :: _ => .ok { m with expected := .key }
  | ':', .colon, _ => .ok { m with expected := .value }
  | '\x22', _, _ => .ok { m with scan := .inText [] }
  | _, _, _ => .error .malformed

/-- Half of a pair of escapes that the other half does not follow stands alone. -/
def settle (m : Machine) (chars : List Char) : List Char :=
  match m.high with
  | some high => halfChar high :: chars
  | none => chars

def escaped? : Char → Option Char
  | '\x22' => some '\x22'
  | '\\' => some '\\'
  | '/' => some '/'
  | 'b' => some '\x08'
  | 'f' => some '\x0c'
  | 'n' => some '\n'
  | 'r' => some '\r'
  | 't' => some '\t'
  | _ => none

/-- An escaped unit: the two halves of a pair make one character. -/
def acceptUnit (m : Machine) (chars : List Char) (unit : Nat) : Machine :=
  if isHighUnit unit then { m with scan := .inText (m.settle chars), high := some unit }
  else if isLowUnit unit then
    match m.high with
    | some high => { m with scan := .inText (joinUnits high unit :: chars), high := none }
    | none => { m with scan := .inText (halfChar unit :: chars) }
  else { m with scan := .inText (Char.ofNat unit :: m.settle chars), high := none }

def step (m : Machine) (c : Char) : Move :=
  match m.scan with
  | .between =>
    if isBlank c then .ok m
    else if isWordChar c then .ok { m with scan := .word [c] }
    else m.punctuation c
  | .word chars =>
    if isWordChar c then .ok { m with scan := .word (c :: chars) }
    else match m.acceptWord chars with
      | .error flaw => .error flaw
      | .ok m => if isBlank c then .ok m else m.punctuation c
  | .inText chars =>
    if c = '\x22' then
      { m with scan := .between, high := none }.acceptText (String.ofList (m.settle chars).reverse)
    else if c = '\\' then .ok { m with scan := .escape chars }
    else if c.toNat < 0x20 then .error .malformed
    else .ok { m with scan := .inText (c :: m.settle chars), high := none }
  | .escape chars =>
    if c = 'u' then .ok { m with scan := .code chars 4 0 }
    else match escaped? c with
      | some d => .ok { m with scan := .inText (d :: m.settle chars), high := none }
      | none => .error .malformed
  | .code chars places value =>
    match hexValue? c with
    | none => .error .malformed
    | some d =>
      let value := 16 * value + d
      if places ≤ 1 then .ok (m.acceptUnit chars value)
      else .ok { m with scan := .code chars (places - 1) value }

def run (m : Machine) : List Char → Move
  | [] => .ok m
  | c :: rest => match m.step c with
    | .ok m => m.run rest
    | .error flaw => .error flaw

def finish (m : Machine) : Except Flaw Value :=
  let closed : Move := match m.scan with
    | .between => .ok m
    | .word chars => m.acceptWord chars
    | _ => .error .malformed
  match closed with
  | .error flaw => .error flaw
  | .ok m => match m.frames, m.done with
    | [], some v => .ok v
    | _, _ => .error .malformed

end Machine

def read (s : String) : Except Flaw Value :=
  match Machine.start.run s.toList with
  | .ok m => m.finish
  | .error flaw => .error flaw

end ShapePuzzle.Json
