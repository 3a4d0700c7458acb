import PivotOracle.Main
import PivotOracle.Oracle.Action
import PivotOracle.Oracle.Loop
import PivotOracle.Stored.Dump
import PivotOracle.Proofs.Evaluation
import PivotOracle.Proofs.Numeral
import PivotOracle.Proofs.ReadingLimits
import PivotOracle.Proofs.Compositionality
import PivotOracle.Proofs.TraceAgreement
import PivotOracle.Proofs.Reporting
import PivotOracle.Proofs.DialectAgreement
import PivotOracle.Proofs.RoundTrip
import PivotOracle.Proofs.Formulas
import PivotOracle.Proofs.Collation
import PivotOracle.Proofs.UnaryPlus
import PivotOracle.Proofs.CheckEndings
import PivotOracle.Proofs.SafeTexts
import PivotOracle.Proofs.ResultTypes
import PivotOracle.Proofs.Existence
import PivotOracle.Proofs.LoopAccounts
import PivotOracle.Proofs.FirstNotNull
import PivotOracle.Proofs.DoubleArithmetic
import PivotOracle.Proofs.EngineRules
import PivotOracle.Proofs.StoredDocuments
import PivotOracle.Proofs.ComparisonLaws
import PivotOracle.Proofs.StorageOrder
import PivotOracle.Proofs.Ranges
import PivotOracle.Proofs.Magnitude
import PivotOracle.Proofs.Membership
import PivotOracle.Proofs.CommonType
import PivotOracle.Proofs.TruthTests
import PivotOracle.Proofs.IntegerTexts
import PivotOracle.Proofs.Casts
import PivotOracle.Proofs.IntegerTrees
import PivotOracle.Proofs.GreatestDouble
import PivotOracle.Proofs.NullTests
import PivotOracle.Proofs.QuotedTokens
import PivotOracle.Proofs.WritingObstacles
import PivotOracle.Proofs.DriverValues
import PivotOracle.Proofs.ForeignReadings
import PivotOracle.Proofs.OnesCount
import PivotOracle.Proofs.Explanation
import PivotOracle.Proofs.TemporarySettings
import PivotOracle.Proofs.SetupScripts
