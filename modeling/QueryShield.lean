import QueryShield.Document.Builder
import QueryShield.Document.Text
import QueryShield.Main
import QueryShield.Proofs.BuilderScripts
import QueryShield.Proofs.Composition
import QueryShield.Proofs.Concealment
import QueryShield.Proofs.Coverage
import QueryShield.Proofs.Disregard
import QueryShield.Proofs.DistinctDirectives
import QueryShield.Proofs.DocumentTexts
import QueryShield.Proofs.ErrorResponses
import QueryShield.Proofs.Exemption
import QueryShield.Proofs.Expansion
import QueryShield.Proofs.FoldRules
import QueryShield.Proofs.FragmentValues
import QueryShield.Proofs.Frames
import QueryShield.Proofs.Independence
import QueryShield.Proofs.Inlining
import QueryShield.Proofs.ListSizes
import QueryShield.Proofs.Matching
import QueryShield.Proofs.MeasuredFields
import QueryShield.Proofs.NodeMaps
import QueryShield.Proofs.MeasuredOccurrences
import QueryShield.Proofs.Overrides
import QueryShield.Proofs.OwnErrors
import QueryShield.Proofs.Padding
import QueryShield.Proofs.PolicyTexts
import QueryShield.Proofs.ReachedWeight
import QueryShield.Proofs.RecordReading
import QueryShield.Proofs.RelatedMeasures
import QueryShield.Proofs.Relaxation
import QueryShield.Proofs.Reordering
import QueryShield.Proofs.Requests
import QueryShield.Proofs.ResponseHooks
import QueryShield.Proofs.RoundTrip
import QueryShield.Proofs.Saturation
import QueryShield.Proofs.SharedCycles
import QueryShield.Proofs.Stack
import QueryShield.Proofs.SuggestionOffsets
import QueryShield.Proofs.Unmeasured
import QueryShield.Proofs.WrittenForms
import QueryShield.Proofs.WrittenSizes
