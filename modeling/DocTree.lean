import DocTree.Main
import DocTree.Proofs.Insertion
import DocTree.Proofs.Siblings
import DocTree.Proofs.Session
import DocTree.Proofs.PathLookup
import DocTree.Proofs.ScopeSplit
import DocTree.Proofs.ScopeResolution
import DocTree.Proofs.DefaultArguments
import DocTree.Proofs.Qualifiers
import DocTree.Proofs.FunctionText
import DocTree.Proofs.Redeclaration
import DocTree.Proofs.Faces
import DocTree.Proofs.Locality
import DocTree.Proofs.History
import DocTree.Proofs.Locations
import DocTree.Proofs.Recognition
import DocTree.Proofs.Mirror
import DocTree.Proofs.Replay
import DocTree.Proofs.Reextraction
import DocTree.Proofs.SurvivingParameters
import DocTree.Proofs.Overloads
import DocTree.Proofs.Lodging
import DocTree.Proofs.FileOrder
import DocTree.Proofs.Coherence
import DocTree.Proofs.Coverage
import DocTree.Proofs.ErasedDefaults
import DocTree.Proofs.MinimalForms
import DocTree.Proofs.PhysicalLines
import DocTree.Proofs.TemplateQualifiers
import DocTree.Proofs.TemplateMembers
import DocTree.Proofs.SpecializedScopes
import DocTree.Proofs.ShortNames
import DocTree.Proofs.TopLevelNames
import DocTree.Proofs.RootMarks
import DocTree.Proofs.DeclaredWords
import DocTree.Proofs.DeclaredNames
import DocTree.Proofs.TemplatePreambles
import DocTree.Proofs.DeclarationExtents
import DocTree.Proofs.StandingAlone
import DocTree.Proofs.WrittenComments
import DocTree.Proofs.Merging
import DocTree.Proofs.Sequencing
import DocTree.Proofs.Search
import DocTree.Proofs.ShownPaths
import DocTree.Proofs.OperatorTokens
import DocTree.Proofs.Segments
import DocTree.Proofs.WordGaps
