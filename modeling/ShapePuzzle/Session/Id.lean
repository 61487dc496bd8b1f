import ShapePuzzle.Text.Hexadecimal

/-!
# Ids of sessions

An id is a number of 128 bits, written as 32 hexadecimal digits in five groups. The groups may also be run
together, stand between braces or follow `urn:uuid:`.
-/
namespace ShapePuzzle

structure SessionId where
  value : Nat
  deriving DecidableEq, Inhabited

namespace SessionId

def ofDigits? (cs : List Char) : Option SessionId :=
  if cs.length = 32 then
    (cs.foldl (fun n c => do return 16 * (← n) + (← hexValue? c)) (some 0)).map SessionId.mk
  else none

/-- Takes out the four hyphens between groups of 8, 4, 4, 4 and 12 digits. -/
def ofGroups? (cs : List Char) : Option SessionId :=
  let hyphens := [8, 13, 18, 23].all fun k => cs[k]? = some '-'
  if cs.length = 36 ∧ hyphens then
    ofDigits? (cs.take 8 ++ (cs.drop 9).take 4 ++ (cs.drop 14).take 4 ++ (cs.drop 19).take 4 ++ cs.drop 24)
  else none

def urn : List Char := "urn:uuid:".toList

def parse? (s : String) : Option SessionId :=
  let cs := s.toList
  if cs.length = 32 then ofDigits? cs
  else if cs.length = 38 ∧ cs.head? = some '\x7b' ∧ cs.getLast? = some '\x7d' then
    ofGroups? (cs.drop 1).dropLast
  else if cs.length = 45 ∧ urn.isPrefixOf cs then ofGroups? (cs.drop 9)
  else ofGroups? cs

def text (id : SessionId) : String :=
  let cs := hexPlaces 32 id.value
  String.ofList (cs.take 8 ++ ['-'] ++ (cs.drop 8).take 4 ++ ['-'] ++ (cs.drop 12).take 4 ++ ['-'] ++
    (cs.drop 16).take 4 ++ ['-'] ++ cs.drop 20)

end SessionId
end ShapePuzzle
