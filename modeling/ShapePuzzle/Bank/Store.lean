import ShapePuzzle.Bank.Shipped
import ShapePuzzle.Json.Reader
import ShapePuzzle.Schema.Place

/-!
# Where a bank is kept

A bank is read from its file when it is first asked for. Once it could be read it stays as it is, whatever
becomes of the file.
-/
namespace ShapePuzzle

inductive BankFile where
  | absent
  | directory
  | content (bytes : ByteArray)
  | shipped

def Fault.ofFlaw : Json.Flaw → Fault
  | .malformed => .bankNotDocument
  | .numeralTooLong digits => .numeralTooLong digits
  | .nestedTooDeep => .nestedTooDeep

def Bank.ofText (s : String) : Except Fault Bank :=
  match Json.read s with
  | .error flaw => .error (.ofFlaw flaw)
  | .ok v => match v.examine Bank.read with
    | .good b => .ok b
    | .bad issues => .error (.invalidBank issues)

def BankFile.load : BankFile → Except Fault Bank
  | absent | directory => .error .bankUnreadable
  | shipped => .ok .shipped
  | content bytes => match String.fromUTF8? bytes with
    | none => .error .undecodable
    | some s => Bank.ofText s

structure BankStore where
  file : BankFile
  loaded : Option Bank

namespace BankStore

def ofFile (file : BankFile) : BankStore := ⟨file, none⟩

/-- The bank and the store that keeps it. -/
def fetch (s : BankStore) : Except Fault (Bank × BankStore) :=
  match s.loaded with
  | some b => .ok (b, s)
  | none => do
    let b ← s.file.load
    return (b, { s with loaded := some b })

/-- Another file in the place of the old one. -/
def replace (s : BankStore) (file : BankFile) : BankStore :=
  { s with file }

/-- The bank, kept from now on. -/
def bank : Turn BankStore Bank := do
  let (b, s) ← Turn.ofExcept (← Turn.subject).fetch
  Turn.become s
  return b

end BankStore

namespace Bank

def defaultTier : String := "easy"

def tier (b : Bank) (name : String) : Except Fault (List Template) :=
  match b.lookup name with
  | some templates => .ok templates
  | none => .error (.unknownTier name)

/-- The templates of a tier, or of the default tier if there is no such tier. -/
def choose (b : Bank) (name : String) {σ : Type} : Turn σ (String × List Template) := do
  let (name, templates) ← match b.lookup name with
    | some templates => pure (name, templates)
    | none => do
      Turn.warn (.unknownTier name defaultTier)
      pure (defaultTier, ← Turn.ofExcept (b.tier defaultTier))
  if templates.isEmpty then throw (.emptyTier name)
  return (name, templates)

end Bank
end ShapePuzzle
