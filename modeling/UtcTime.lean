import UtcTime.Binary64.Basic
import UtcTime.Binary64.Shortest
import UtcTime.ClockTime
import UtcTime.Count
import UtcTime.Date.Basic
import UtcTime.Date.DayNumber
import UtcTime.Date.Era
import UtcTime.DateTime.Basic
import UtcTime.Datum
import UtcTime.Fault
import UtcTime.Instant.Basic
import UtcTime.Json.Form
import UtcTime.Json.Number
import UtcTime.Json.Reader
import UtcTime.Json.Value
import UtcTime.Json.Writer
import UtcTime.Operation
import UtcTime.Proofs.CalendarCount
import UtcTime.Proofs.CalendarWords
import UtcTime.Proofs.CivilOrder
import UtcTime.Proofs.CompiledTokens
import UtcTime.Proofs.DayNumbering
import UtcTime.Proofs.ElapsedTime
import UtcTime.Proofs.EpochTime
import UtcTime.Proofs.ExactArithmetic
import UtcTime.Proofs.FieldText
import UtcTime.Proofs.FieldValues
import UtcTime.Proofs.FixedWidthGrammar
import UtcTime.Proofs.FloatArithmetic
import UtcTime.Proofs.FloatSpans
import UtcTime.Proofs.FloatView
import UtcTime.Proofs.FormatAfterRead
import UtcTime.Proofs.InstantJson
import UtcTime.Proofs.InstantShift
import UtcTime.Proofs.JsonIntegers
import UtcTime.Proofs.LosslessSpans
import UtcTime.Proofs.PlaceholderMeaning
import UtcTime.Proofs.ReadAfterFormat
import UtcTime.Proofs.RegisterInvariant
import UtcTime.Proofs.SharedTemplates
import UtcTime.Proofs.SortableText
import UtcTime.Proofs.SpanDigits
import UtcTime.Proofs.SpanExpression
import UtcTime.Proofs.SpanJson
import UtcTime.Proofs.SpanOrder
import UtcTime.Proofs.SpanParts
import UtcTime.Proofs.SpanScaling
import UtcTime.Proofs.StoredInstant
import UtcTime.Proofs.TemplateGrammar
import UtcTime.Proofs.TemplateMeaning
import UtcTime.Proofs.TemplateText
import UtcTime.Proofs.TextBytes
import UtcTime.Series
import UtcTime.Session
import UtcTime.Span.Basic
import UtcTime.Span.Fraction
import UtcTime.Template.Basic
import UtcTime.Template.Text
import UtcTime.Text.Measure
import UtcTime.TimeUnit
