import ShapePuzzle.Session.Service
import ShapePuzzle.Value.Choice
import ShapePuzzle.Proofs.Draws
import ShapePuzzle.Proofs.ConditionReads
import ShapePuzzle.Proofs.ForcedConditions
import ShapePuzzle.Proofs.CellActionEffects
import ShapePuzzle.Proofs.NeighborPlaces
import ShapePuzzle.Proofs.NeighborActionEffects
import ShapePuzzle.Proofs.RequirementEnforcement
import ShapePuzzle.Proofs.StatementRuns
import ShapePuzzle.Proofs.RandomGrids
import ShapePuzzle.Proofs.DistractorSearch
import ShapePuzzle.Proofs.ImplicationEnforcement
import ShapePuzzle.Proofs.RoundTruth
import ShapePuzzle.Proofs.QuietTurns
import ShapePuzzle.Proofs.ForcingSucceeds
import ShapePuzzle.Proofs.TameActions
import ShapePuzzle.Proofs.TameEnforcement
import ShapePuzzle.Proofs.QuietViolation
import ShapePuzzle.Proofs.ReliableTemplates
import ShapePuzzle.Proofs.HingingConditions
import ShapePuzzle.Proofs.ReliableImplications
import ShapePuzzle.Proofs.ReliableRequirements
import ShapePuzzle.Proofs.QuietStatements
import ShapePuzzle.Proofs.ShippedTemplates
import ShapePuzzle.Proofs.TurnOutcomes
import ShapePuzzle.Proofs.KeptPlaces
import ShapePuzzle.Proofs.ViolationPhases
import ShapePuzzle.Proofs.RefutedCells
import ShapePuzzle.Proofs.ViolatedImplications
import ShapePuzzle.Proofs.ViolatedRequirements
import ShapePuzzle.Proofs.ViolatedRules
import ShapePuzzle.Proofs.PlainValues
import ShapePuzzle.Proofs.RuleSequences
import ShapePuzzle.Proofs.ReferenceFaults
import ShapePuzzle.Proofs.RuleFaults
import ShapePuzzle.Proofs.DeclaredReferences
import ShapePuzzle.Proofs.LobbyCommits
import ShapePuzzle.Proofs.SessionScores
import ShapePuzzle.Proofs.SeparableConditions
import ShapePuzzle.Proofs.CellDomains
import ShapePuzzle.Proofs.GridDomains
import ShapePuzzle.Proofs.StandardAnswers
import ShapePuzzle.Proofs.RefusedRequests
import ShapePuzzle.Proofs.CheckedReadings
import ShapePuzzle.Proofs.ConditionDumps
import ShapePuzzle.Proofs.TemplateDumps
import ShapePuzzle.Proofs.LocalViolations
import ShapePuzzle.Proofs.SkippedViolations
import ShapePuzzle.Proofs.BrokenAntecedents
import ShapePuzzle.Proofs.SettledImplications
import ShapePuzzle.Proofs.DrawnDetails
import ShapePuzzle.Proofs.TokenPasses
import ShapePuzzle.Proofs.BinaryRange
import ShapePuzzle.Proofs.UnforeseenFaults
import ShapePuzzle.Proofs.DocumentLimits
import ShapePuzzle.Proofs.BankLoading
import ShapePuzzle.Proofs.TrialDivision
import ShapePuzzle.Proofs.BoundaryNeighbors
import ShapePuzzle.Proofs.SnapshotOrder
import ShapePuzzle.Proofs.RoundFaults
