import Ambient.Main
import Ambient.Declaration.Decode
import Ambient.Report.Decode
import Ambient.Proofs.SignatureCheck
import Ambient.Proofs.UnionTypes
import Ambient.Proofs.WellFormedTypes
import Ambient.Proofs.RootMembers
import Ambient.Proofs.KnownClasses
import Ambient.Proofs.Rebuild
import Ambient.Proofs.ConstantRegistry
import Ambient.Proofs.CommentedMembers
import Ambient.Proofs.BuildFailure
import Ambient.Proofs.ToldFailures
import Ambient.Proofs.DeclaredMembers
import Ambient.Proofs.ReportedMembers
import Ambient.Proofs.EarlyMentions
import Ambient.Proofs.InterruptedBuilds
import Ambient.Proofs.TypedDeclarations
import Ambient.Proofs.DeclaredTypeNames
import Ambient.Proofs.BuildFrame
import Ambient.Proofs.SignatureErrors
import Ambient.Proofs.FunctionTypes
import Ambient.Proofs.SheetLayout
import Ambient.Proofs.ParamNames
import Ambient.Proofs.DescriptionComments
import Ambient.Proofs.LiteralTypes
import Ambient.Proofs.InferredTypes
import Ambient.Proofs.QuotedTexts
import Ambient.Proofs.Identifiers
import Ambient.Proofs.ConstantPhrases
import Ambient.Proofs.TopLevelParts
import Ambient.Proofs.NameWords
import Ambient.Proofs.MarkupPasses
