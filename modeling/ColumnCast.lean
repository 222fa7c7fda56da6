import ColumnCast.Json.TypeText
import ColumnCast.Main
import ColumnCast.Yaml.Datum
import ColumnCast.Proofs.Except
import ColumnCast.Proofs.Float.Pattern
import ColumnCast.Proofs.Float.Rounding
import ColumnCast.Proofs.Float.DigitCount
import ColumnCast.Proofs.Float.Widening
import ColumnCast.Proofs.Float.Finite
import ColumnCast.Proofs.Float.Nearest
import ColumnCast.Proofs.Float.Neighbour
import ColumnCast.Proofs.Unscaled.Nearest
import ColumnCast.Proofs.Unscaled.Division
import ColumnCast.Proofs.Unscaled.Rescale
import ColumnCast.Proofs.Bytes.Signed
import ColumnCast.Proofs.Unscaled.TwosComplement
import ColumnCast.Proofs.Unscaled.FixedPoint
import ColumnCast.Proofs.Decimal.Form
import ColumnCast.Proofs.ColumnType.Usable
import ColumnCast.Proofs.Decimal.Build
import ColumnCast.Proofs.Decimal.Cast
import ColumnCast.Proofs.Decimal.Path
import ColumnCast.Proofs.ColumnType.Capacity
import ColumnCast.Proofs.Decimal.ScaleSafety
import ColumnCast.Proofs.Decimal.Order
import ColumnCast.Proofs.ColumnType.Key
import ColumnCast.Proofs.Converter.Build
import ColumnCast.Proofs.Converter.Choice
import ColumnCast.Proofs.Converter.Preservation
import ColumnCast.Proofs.Bytes.ZeroTail
import ColumnCast.Proofs.Converter.Explained
import ColumnCast.Proofs.Text.Utf8
import ColumnCast.Proofs.Text.Blank
import ColumnCast.Proofs.Text.Numeral
import ColumnCast.Proofs.Text.Hex
import ColumnCast.Proofs.Text.Quoted
import ColumnCast.Proofs.Value.Literal
import ColumnCast.Proofs.Value.Display
import ColumnCast.Proofs.Numeric.Narrowing
import ColumnCast.Proofs.Numeric.Truncation
import ColumnCast.Proofs.Numeric.RangeTest
import ColumnCast.Proofs.Numeric.RoundTrip
import ColumnCast.Proofs.ColumnType.Token
import ColumnCast.Proofs.ColumnType.Grammar
import ColumnCast.Proofs.ColumnType.Rendering
import ColumnCast.Proofs.ColumnType.FirstFault
import ColumnCast.Proofs.Int96.Codec
import ColumnCast.Proofs.Int96.Scaling
import ColumnCast.Proofs.Converter.Classification
import ColumnCast.Proofs.Converter.Targets
import ColumnCast.Proofs.Plan.Build
import ColumnCast.Proofs.Plan.TargetSchema
import ColumnCast.Proofs.Plan.Rules
import ColumnCast.Proofs.Command.Convert
import ColumnCast.Proofs.Command.Check
