import ShapePuzzle.Proofs.DocumentLimits
import ShapePuzzle.Session.Service

/-!
# Loading a bank

A bank that cannot be loaded is told by an answer of its own, and a bank that breaks the schema by another one. A file
whose bytes are no text, and a text that goes beyond a limit of the reader, have neither.
-/
namespace ShapePuzzle

theorem fromUTF8?_eq_none_iff {bytes : ByteArray} : String.fromUTF8? bytes = none ↔ ¬ bytes.IsValidUTF8 := by
  unfold String.fromUTF8?
  split <;> simp [*]

theorem fromUTF8?_eq_some_iff {bytes : ByteArray} {s : String} :
    String.fromUTF8? bytes = some s ↔ bytes = s.toUTF8 := by
  unfold String.fromUTF8?
  constructor
  · intro h
    split at h
    · cases h
      rfl
    · cases h
  · rintro rfl
    have hvalid : s.toUTF8.IsValidUTF8 := s.isValidUTF8
    rw [dif_pos hvalid]
    rfl

namespace Bank
variable {s : String} {e : Fault}

/-- A text that is no document, or a document that is no bank, is told about. -/
theorem ofText_eq_error (h : ofText s = .error e) :
    e = .bankNotDocument ∨ (∃ issues, e = .invalidBank issues) ∨
      ∃ flaw, Json.Machine.Exceeds s.toList flaw ∧ e = .ofFlaw flaw := by
  unfold ofText at h
  split at h
  · rename_i flaw hread
    cases h
    by_cases hflaw : flaw = .malformed
    · rw [hflaw]
      exact .inl rfl
    · exact .inr (.inr ⟨flaw, (Json.read_eq_error_iff hflaw).1 hread, rfl⟩)
  · split at h
    · cases h
    · cases h
      exact .inr (.inl ⟨_, rfl⟩)

end Bank

namespace Json.Machine.Exceeds
variable {s : String} {flaw : Flaw}

theorem ne_malformed {cs : List Char} (h : Exceeds cs flaw) : flaw ≠ .malformed := by
  cases h <;> exact nofun

theorem ofText (h : Exceeds s.toList flaw) : Bank.ofText s = .error (.ofFlaw flaw) := by
  unfold Bank.ofText
  rw [h.read]

theorem family {cs : List Char} (h : Exceeds cs flaw) : (Fault.ofFlaw flaw).family = .unforeseen := by
  cases h <;> rfl

end Json.Machine.Exceeds

namespace BankFile

/-- A file that is there, but is no text or goes beyond a limit of the reader. -/
inductive Eludes : BankFile → Fault → Prop
  | undecodable {bytes : ByteArray} (h : ¬ bytes.IsValidUTF8) : Eludes (.content bytes) .undecodable
  | exceeding {s : String} {flaw : Json.Flaw} (h : Json.Machine.Exceeds s.toList flaw) :
      Eludes (.content s.toUTF8) (.ofFlaw flaw)

/-- Unless its file eludes, a bank is loaded, or that fails as a load or as a template does. -/
theorem load_stops_unforeseen_iff (file : BankFile) (e : Fault) :
    (file.load = .error e ∧ e.family ≠ .load ∧ e.family ≠ .template) ↔ file.Eludes e := by
  constructor
  · rintro ⟨h, hload, htemplate⟩
    cases file with
    | absent | directory =>
      cases h
      exact absurd rfl hload
    | shipped => cases h
    | content bytes =>
      simp only [load] at h
      split at h
      · rename_i hnone
        cases h
        exact .undecodable (fromUTF8?_eq_none_iff.1 hnone)
      · rename_i s hsome
        rw [fromUTF8?_eq_some_iff.1 hsome]
        rcases Bank.ofText_eq_error h with rfl | ⟨issues, rfl⟩ | ⟨flaw, hexceeds, rfl⟩
        · exact absurd rfl hload
        · exact absurd rfl htemplate
        · exact .exceeding hexceeds
  · rintro (hinvalid | hexceeds)
    · refine ⟨?_, nofun, nofun⟩
      simp only [load, fromUTF8?_eq_none_iff.2 hinvalid]
    · rw [hexceeds.family]
      refine ⟨?_, nofun, nofun⟩
      simp only [load, fromUTF8?_eq_some_iff.2 rfl, hexceeds.ofText]

theorem load_stops_unforeseen_loneByte :
    load (.content ⟨#[0xff]⟩) = .error .undecodable ∧ Fault.undecodable.family ≠ .load ∧
      Fault.undecodable.family ≠ .template :=
  ⟨rfl, nofun, nofun⟩

/-- A text with numerals of a sane length and few collections is loaded or told about, whatever else is in it. -/
theorem load_text_within_limits {s : String}
    (hdigits : ∀ ds, ds <:+: s.toList → (∀ d ∈ ds, d.isDigit) → ds.length ≤ longestNumeral)
    (hopens : s.toList.countP Json.Machine.opens ≤ deepestNesting) :
    (∃ b, load (.content s.toUTF8) = .ok b) ∨ load (.content s.toUTF8) = .error .bankNotDocument ∨
      ∃ issues, load (.content s.toUTF8) = .error (.invalidBank issues) := by
  have hload : load (.content s.toUTF8) = Bank.ofText s := by
    simp only [load, fromUTF8?_eq_some_iff.2 rfl]
  rw [hload]
  cases htext : Bank.ofText s with
  | ok b => exact .inl ⟨b, rfl⟩
  | error e =>
    rcases Bank.ofText_eq_error htext with rfl | ⟨issues, rfl⟩ | ⟨flaw, hexceeds, rfl⟩
    · exact .inr (.inl rfl)
    · exact .inr (.inr ⟨issues, rfl⟩)
    · cases flaw with
      | malformed => exact absurd rfl hexceeds.ne_malformed
      | numeralTooLong digits =>
        obtain ⟨ds, hrow, -, hlong, hds⟩ := hexceeds.exists_digits
        exact absurd (hdigits ds hrow hds) (Nat.not_le.2 hlong)
      | nestedTooDeep => exact absurd hopens (Nat.not_le.2 hexceeds.lt_countP)

end BankFile
end ShapePuzzle
