import MetricAlgebra.Form.Family
import MetricAlgebra.Form.LabelEdit
import MetricAlgebra.Form.Settings
import MetricAlgebra.Json.Reader
import MetricAlgebra.Json.Writer
import MetricAlgebra.Lookback.Store
import MetricAlgebra.Pattern
import MetricAlgebra.Pattern.Cache
import MetricAlgebra.Rate
import MetricAlgebra.Proofs.History
import MetricAlgebra.Proofs.FiniteMap
import MetricAlgebra.Proofs.RateProtocol
import MetricAlgebra.Proofs.Binary64
import MetricAlgebra.Proofs.Duration.Designated
import MetricAlgebra.Proofs.Duration.Reading
import MetricAlgebra.Proofs.Duration.BareMillis
import MetricAlgebra.Proofs.Duration.Exact
import MetricAlgebra.Proofs.Operator
import MetricAlgebra.Proofs.Series
import MetricAlgebra.Proofs.Populated
import MetricAlgebra.Proofs.JsonCodec
import MetricAlgebra.Proofs.JsonText
import MetricAlgebra.Proofs.RoundTrip
import MetricAlgebra.Proofs.PatternEngine
import MetricAlgebra.Proofs.Pattern.Syntax
import MetricAlgebra.Proofs.Pattern.FullMatch
import MetricAlgebra.Proofs.FloatOrder
import MetricAlgebra.Proofs.Grouping
import MetricAlgebra.Proofs.GroupBy
import MetricAlgebra.Proofs.WholeNumber
import MetricAlgebra.Proofs.RollUp
import MetricAlgebra.Proofs.Deaccumulation
import MetricAlgebra.Proofs.Failure
import MetricAlgebra.Proofs.Selection
import MetricAlgebra.Proofs.Join
import MetricAlgebra.Proofs.Batching
import MetricAlgebra.Proofs.LabelEdit
import MetricAlgebra.Proofs.Nearest
import MetricAlgebra.Proofs.RoundedArithmetic
import MetricAlgebra.Proofs.Histogram.ArrivalOrder
import MetricAlgebra.Proofs.Histogram.Edge
import MetricAlgebra.Proofs.Histogram.RunningCounts
import MetricAlgebra.Proofs.Histogram.SeriesApart
import MetricAlgebra.Proofs.Histogram.WholeBounds
import MetricAlgebra.Proofs.Elapsed
import MetricAlgebra.Proofs.LaterHistory
import MetricAlgebra.Proofs.LruMap
import MetricAlgebra.Proofs.Pattern.Recency
import MetricAlgebra.Proofs.Pattern.Inclusion
import MetricAlgebra.Proofs.Commutativity
import MetricAlgebra.Proofs.Negation
import MetricAlgebra.Proofs.SampleOrder
import MetricAlgebra.Proofs.OwnPast
import MetricAlgebra.Proofs.Complement
import MetricAlgebra.Proofs.Environment
import MetricAlgebra.Proofs.Configuration
import MetricAlgebra.Proofs.PointText
