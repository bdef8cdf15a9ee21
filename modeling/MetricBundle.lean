import MetricBundle.Config
import MetricBundle.Declaration.Source
import MetricBundle.Derivation
import MetricBundle.Session
import MetricBundle.Proofs.WindowCoverage
import MetricBundle.Proofs.FailSoft
import MetricBundle.Proofs.FactoryRun
import MetricBundle.Proofs.KindAgreement
import MetricBundle.Proofs.DerivedBundle
import MetricBundle.Proofs.Construction
import MetricBundle.Proofs.Repopulation
import MetricBundle.Proofs.ExtraReports
import MetricBundle.Proofs.SummaryMap
import MetricBundle.Proofs.SummaryVector
import MetricBundle.Proofs.ErrorCollection
import MetricBundle.Proofs.SampleText
import MetricBundle.Proofs.SnapshotAgreement
import MetricBundle.Proofs.ReservedLabel
import MetricBundle.Proofs.VectorLabels
import MetricBundle.Proofs.TagLegality
import MetricBundle.Proofs.ClockRange
import MetricBundle.Proofs.HollowErrors
import MetricBundle.Proofs.WordBoundaries
import MetricBundle.Proofs.LetterCases
import MetricBundle.Proofs.WordSeparation
import MetricBundle.Proofs.KeptCharacters
import MetricBundle.Proofs.OwnNames
import MetricBundle.Proofs.SettledWords
import MetricBundle.Proofs.LastWins
import MetricBundle.Proofs.TagMap
import MetricBundle.Proofs.ListTags
import MetricBundle.Proofs.Objectives
import MetricBundle.Proofs.FieldOrder
import MetricBundle.Proofs.AttributeGrammar
import MetricBundle.Proofs.LabelNames
import MetricBundle.Proofs.QuantileRank
import MetricBundle.Proofs.FamilyText
import MetricBundle.Proofs.SnapshotComparison
import MetricBundle.Proofs.ObjectiveSearch
import MetricBundle.Proofs.WindowTurns
import MetricBundle.Proofs.SlotTable
import MetricBundle.Proofs.Providers
