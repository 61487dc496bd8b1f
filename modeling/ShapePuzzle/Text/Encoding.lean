import ShapePuzzle.Text.Half

/-!
# Encodings of a document

A document starts with two characters of ASCII, so that the places of the noughts among its first bytes tell its
encoding. Halves of pairs may stand alone.
-/
namespace ShapePuzzle

inductive ByteOrder where
  | highFirst | lowFirst
  deriving DecidableEq

/-- The unit that some bytes make. -/
def ByteOrder.unit (order : ByteOrder) (bytes : List UInt8) : Nat :=
  let highFirst := match order with
    | .highFirst => bytes
    | .lowFirst => bytes.reverse
  highFirst.foldl (fun n b => 256 * n + b.toNat) 0

/-- In units of one, two or four bytes. -/
inductive Encoding where
  | bytes
  | pairs (order : ByteOrder)
  | quads (order : ByteOrder)
  deriving DecidableEq

namespace Encoding

def detect : List UInt8 → Encoding
  | [a, b] => if a = 0 then .pairs .highFirst else if b = 0 then .pairs .lowFirst else .bytes
  | a :: b :: c :: d :: _ =>
    if a = 0 then if b = 0 then .quads .highFirst else .pairs .highFirst
    else if b = 0 then if c = 0 ∧ d = 0 then .quads .lowFirst else .pairs .lowFirst
    else .bytes
  | _ => .bytes

/-- Units of two bytes; nothing if a byte is left over. -/
def pairUnits? (order : ByteOrder) : List UInt8 → Option (List Nat)
  | [] => some []
  | a :: b :: rest => (pairUnits? order rest).map (order.unit [a, b] :: ·)
  | _ => none

def quadUnits? (order : ByteOrder) : List UInt8 → Option (List Nat)
  | [] => some []
  | a :: b :: c :: d :: rest => (quadUnits? order rest).map (order.unit [a, b, c, d] :: ·)
  | _ => none

/-- Joins the halves of pairs that follow each other. -/
def joinPairs : List Nat → List Char
  | high :: low :: rest =>
    if isHighUnit high && isLowUnit low then joinUnits high low :: joinPairs rest
    else (charOfCode? high).toList ++ joinPairs (low :: rest)
  | [u] => (charOfCode? u).toList
  | [] => []

end Encoding

/-- The text that is sent as `sent`; nothing if its bytes are no text in their encoding. -/
def decode? (sent : String) : Option String :=
  let bytes := sent.toUTF8.toList
  match Encoding.detect bytes with
  | .bytes => some sent
  | .pairs order => (Encoding.pairUnits? order bytes).map fun units => String.ofList (Encoding.joinPairs units)
  | .quads order => do String.ofList <$> (← Encoding.quadUnits? order bytes).mapM charOfCode?

end ShapePuzzle
