import Routing.Main
import Routing.Proofs.BuiltPath
import Routing.Proofs.RequiredRoundTrip
import Routing.Proofs.BuiltDecomposition
import Routing.Proofs.RebuiltPath
import Routing.Proofs.PieceRoundTrip
import Routing.Proofs.Grammar
import Routing.Proofs.Scanning
import Routing.Proofs.Parsing
import Routing.Proofs.Validation
import Routing.Proofs.MatchShape
import Routing.Proofs.FirstMatch
import Routing.Proofs.TokenSpans
import Routing.Proofs.JoinedTemplates
import Routing.Proofs.ErrorPlaces
import Routing.Proofs.Continuations
import Routing.Proofs.NormalForm
import Routing.Proofs.Query
import Routing.Proofs.ConfigFiles
import Routing.Proofs.TokenFaults
import Routing.Proofs.LetterCase
import Routing.Proofs.NumericArguments
import Routing.Proofs.WrittenExpression
import Routing.Proofs.ConstraintRuns
import Routing.Proofs.UsedConstraints
import Routing.Proofs.WholeNumbers
import Routing.Proofs.GatheredValues
import Routing.Proofs.ValueRuns
