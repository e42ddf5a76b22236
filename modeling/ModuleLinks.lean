import ModuleLinks.Analysis
import ModuleLinks.Json.Literal
import ModuleLinks.Json.Printer
import ModuleLinks.Json.Reader
import ModuleLinks.Link.Archive
import ModuleLinks.Number.Shortest
import ModuleLinks.Query
import ModuleLinks.Session
import ModuleLinks.Survey
import ModuleLinks.Text.Quoted
import ModuleLinks.Text.Utf8
import ModuleLinks.Proofs.ChildOrder
import ModuleLinks.Proofs.SourceOrder
import ModuleLinks.Proofs.TextReading
import ModuleLinks.Proofs.ValueReading
import ModuleLinks.Proofs.ArchiveRoundTrip
import ModuleLinks.Proofs.LogicalModule
import ModuleLinks.Proofs.ObjectEncoding
import ModuleLinks.Proofs.ObjectSurvey
import ModuleLinks.Proofs.TreeEncoding
import ModuleLinks.Proofs.TreeSurvey
import ModuleLinks.Proofs.ParserIndependence
import ModuleLinks.Proofs.CanonicalSource
import ModuleLinks.Proofs.SurveyFailure
import ModuleLinks.Proofs.NumberReading
import ModuleLinks.Proofs.ArchiveReading
import ModuleLinks.Proofs.LinkConsistency
import ModuleLinks.Proofs.SessionConsistency
import ModuleLinks.Proofs.Document
import ModuleLinks.Proofs.Agreement
import ModuleLinks.Proofs.CommonTree
import ModuleLinks.Proofs.ImportExpressions
import ModuleLinks.Proofs.ExpressedSurvey
import ModuleLinks.Proofs.WholeExport
import ModuleLinks.Proofs.EscapeForms
import ModuleLinks.Proofs.StringValue
import ModuleLinks.Proofs.FoundLinks
import ModuleLinks.Proofs.LinkRecord
import ModuleLinks.Proofs.ProjectPlace
import ModuleLinks.Proofs.AnalysisResult
import ModuleLinks.Proofs.EscapeRange
import ModuleLinks.Proofs.VisitFailure
import ModuleLinks.Proofs.TreeFailure
import ModuleLinks.Proofs.Likeness
import ModuleLinks.Proofs.FieldOrder
import ModuleLinks.Proofs.Metadata
import ModuleLinks.Proofs.Comments
import ModuleLinks.Proofs.LinkTargets
import ModuleLinks.Proofs.Candidates
import ModuleLinks.Proofs.NormalizationCases
import ModuleLinks.Proofs.NormalForms
import ModuleLinks.Proofs.Batches
import ModuleLinks.Proofs.RawLinks
import ModuleLinks.Proofs.SiblingOrder
import ModuleLinks.Proofs.SettingsOverlay
import ModuleLinks.Proofs.EscapeValue
import ModuleLinks.Proofs.RootForm
