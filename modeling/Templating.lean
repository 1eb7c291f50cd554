import Templating.Text.Search
import Templating.Render.Rendering
import Templating.Site.Environment
import Templating.Main
import Templating.Proofs.LoopScope
import Templating.Proofs.CoreProgram
import Templating.Proofs.StreamOperations
import Templating.Proofs.Cursor
import Templating.Proofs.Aliases
import Templating.Proofs.Locality
import Templating.Proofs.Grouping
import Templating.Proofs.Precedence
import Templating.Proofs.BlockGrammar
import Templating.Proofs.TagReading
import Templating.Proofs.TemplateReading
import Templating.Proofs.Registration
import Templating.Proofs.AliasLookup
import Templating.Proofs.SourceSplitting
import Templating.Proofs.ExpressionWriting
import Templating.Proofs.ExpressionReadBack
import Templating.Proofs.TreeShape
import Templating.Proofs.ArenaLayout
import Templating.Proofs.Annotating
import Templating.Proofs.Compilation
import Templating.Proofs.Interpretation
import Templating.Proofs.CodeGeneration
import Templating.Proofs.CompiledTemplates
import Templating.Proofs.TokenPrinting
import Templating.Proofs.ExpressionTokens
import Templating.Proofs.OutlineReading
import Templating.Proofs.OutputWriting
import Templating.Proofs.BalancedReading
import Templating.Proofs.CodeLayout
import Templating.Proofs.LoopMarks
import Templating.Proofs.LoopForms
import Templating.Proofs.CodeLexemes
import Templating.Proofs.LocalScopes
import Templating.Proofs.LocalDeclarations
import Templating.Proofs.LocalNumbers
import Templating.Proofs.ModuleLocals
import Templating.Proofs.Bundles
import Templating.Proofs.PassEffects
import Templating.Proofs.PassMarks
import Templating.Proofs.InclusionRuns
import Templating.Proofs.Chains
import Templating.Proofs.RefusedOperators
import Templating.Proofs.TokenItems
import Templating.Proofs.AliasWriting
import Templating.Proofs.NearestDoubles
import Templating.Proofs.IntegerOperators
import Templating.Proofs.TokenPlaces
import Templating.Proofs.UnterminatedBlocks
import Templating.Proofs.MarkupEscaping
import Templating.Proofs.PrintReadings
import Templating.Proofs.BindableNames
import Templating.Proofs.NestedUnits
import Templating.Proofs.BundleRequests
import Templating.Proofs.ValueLiterals
import Templating.Proofs.IntegerRanges
import Templating.Proofs.TextPieces
import Templating.Proofs.Containers
import Templating.Proofs.NumberTests
import Templating.Proofs.MethodCalls
import Templating.Proofs.FileListing
import Templating.Proofs.TokenizerTurns
import Templating.Proofs.OpenerMemory
import Templating.Proofs.ReaderProgress
import Templating.Proofs.SymbolOrder
import Templating.Proofs.PassCalls
