import SeriesQuery.Exact
import SeriesQuery.Expr.Display
import SeriesQuery.Fingerprint.Streaming
import SeriesQuery.Labels.Table
import SeriesQuery.Metric.Record
import SeriesQuery.Proofs.Absence
import SeriesQuery.Proofs.Aggregation
import SeriesQuery.Proofs.Agreement
import SeriesQuery.Proofs.Approximation
import SeriesQuery.Proofs.Binary64.Infinity
import SeriesQuery.Proofs.Binary64.Operations
import SeriesQuery.Proofs.Binary64.Rounding
import SeriesQuery.Proofs.CanonicalLabels
import SeriesQuery.Proofs.Columns.Calls
import SeriesQuery.Proofs.Columns.Evaluation
import SeriesQuery.Proofs.Columns.Operators
import SeriesQuery.Proofs.Consistency
import SeriesQuery.Proofs.CounterExtrapolation
import SeriesQuery.Proofs.DateFunctions
import SeriesQuery.Proofs.ExactFolds
import SeriesQuery.Proofs.Expr.Shifting
import SeriesQuery.Proofs.Expr.Typing
import SeriesQuery.Proofs.Extremes
import SeriesQuery.Proofs.Fetching
import SeriesQuery.Proofs.Fingerprint.Combination
import SeriesQuery.Proofs.Fingerprint.Filtered
import SeriesQuery.Proofs.Fingerprint.Streaming
import SeriesQuery.Proofs.Fingerprint.Unambiguous
import SeriesQuery.Proofs.FingerprintMap
import SeriesQuery.Proofs.FingerprintTable
import SeriesQuery.Proofs.Forgetting
import SeriesQuery.Proofs.FramesInWords
import SeriesQuery.Proofs.Groups
import SeriesQuery.Proofs.HashIndependence.Evaluation
import SeriesQuery.Proofs.HashIndependence.Operators
import SeriesQuery.Proofs.Histogram.Buckets
import SeriesQuery.Proofs.Histogram.Division
import SeriesQuery.Proofs.Histogram.Quantile
import SeriesQuery.Proofs.InstantSelection
import SeriesQuery.Proofs.LeastSquares
import SeriesQuery.Proofs.MetricRecords
import SeriesQuery.Proofs.NeededAnswers
import SeriesQuery.Proofs.NestedAggregations
import SeriesQuery.Proofs.NumericOrder
import SeriesQuery.Proofs.OffsetShift
import SeriesQuery.Proofs.Outcome
import SeriesQuery.Proofs.Pairing
import SeriesQuery.Proofs.Pattern.Anchoring
import SeriesQuery.Proofs.PerSeries
import SeriesQuery.Proofs.Positions.Evaluation
import SeriesQuery.Proofs.Quantile
import SeriesQuery.Proofs.RangeSelection
import SeriesQuery.Proofs.Ranking
import SeriesQuery.Proofs.Regrouping
import SeriesQuery.Proofs.Remembering
import SeriesQuery.Proofs.ResultMetrics
import SeriesQuery.Proofs.SameValues
import SeriesQuery.Proofs.Samples.Columns
import SeriesQuery.Proofs.Samples.Partition
import SeriesQuery.Proofs.Samples.Selection
import SeriesQuery.Proofs.Samples.Windows
import SeriesQuery.Proofs.ScalarsAsVectors
import SeriesQuery.Proofs.SelectorKey
import SeriesQuery.Proofs.Series.Rows
import SeriesQuery.Proofs.SeriesTable
import SeriesQuery.Proofs.SetOperators
import SeriesQuery.Proofs.Simulation
import SeriesQuery.Proofs.Smoothing
import SeriesQuery.Proofs.Soundness.Columnar
import SeriesQuery.Proofs.Soundness.Evaluation
import SeriesQuery.Proofs.Soundness.Results
import SeriesQuery.Proofs.Soundness.Settles
import SeriesQuery.Proofs.Soundness.Stepwise
import SeriesQuery.Proofs.Spans.Accounting
import SeriesQuery.Proofs.Spans.Evaluation
import SeriesQuery.Proofs.Spans.Following
import SeriesQuery.Proofs.Spans.Rendering
import SeriesQuery.Proofs.StoreHistory
import SeriesQuery.Proofs.Text.ByteOrder
import SeriesQuery.Proofs.TimeArithmetic
import SeriesQuery.Proofs.UniqueMatches
import SeriesQuery.Proofs.ValueCounts
import SeriesQuery.Proofs.Variance
import SeriesQuery.Proofs.VectorMatching
import SeriesQuery.SeriesTable
import SeriesQuery.Service
import SeriesQuery.Service.Load
import SeriesQuery.Store
import SeriesQuery.Time.Words
import SeriesQuery.Trace.Outline
import SeriesQuery.Trace.Recorder
import SeriesQuery.Trace.Schedule
