import MeterWatch.Batch.Body
import MeterWatch.Chart.Board
import MeterWatch.Dashboard
import MeterWatch.Http.Message
import MeterWatch.Line.Decode
import MeterWatch.Log.Console
import MeterWatch.Log.Filter
import MeterWatch.Main
import MeterWatch.Poll.Session
import MeterWatch.Program
import MeterWatch.Proofs.Batch.Accepted
import MeterWatch.Proofs.Chart.Rounds
import MeterWatch.Proofs.Http.Siblings
import MeterWatch.Proofs.Http.Target
import MeterWatch.Proofs.Line.Encodings
import MeterWatch.Proofs.Line.RecordBounds
import MeterWatch.Proofs.Line.Watts
import MeterWatch.Proofs.Poll.Batching
import MeterWatch.Proofs.Poll.CursorLaw
import MeterWatch.Proofs.Poll.Delays
import MeterWatch.Proofs.Poll.DisplaySettings
import MeterWatch.Proofs.Poll.Paused
import MeterWatch.Proofs.Poll.Reissued
import MeterWatch.Proofs.Poll.Run
import MeterWatch.Proofs.Poll.Tallies
import MeterWatch.Proofs.Poll.Verbatim
import MeterWatch.Proofs.Program.Ending
import MeterWatch.Proofs.Settings.Partial
import MeterWatch.Settings.Search
import MeterWatch.Proofs.Decimal.Numeral
import MeterWatch.Proofs.Line.Sensors
import MeterWatch.Proofs.Decimal.Products
import MeterWatch.Proofs.Line.ScaledWatts
import MeterWatch.Proofs.Line.Readings
import MeterWatch.Proofs.Line.DemandWatts
import MeterWatch.Proofs.Decimal.Tenths
import MeterWatch.Proofs.Line.SensorTenths
import MeterWatch.Proofs.Settings.Search
import MeterWatch.Proofs.Http.LogUrl
import MeterWatch.Proofs.Binary64.Sum
import MeterWatch.Proofs.Chart.Summary
import MeterWatch.Proofs.Decimal.Overflow
import MeterWatch.Proofs.Line.SensorRange
import MeterWatch.Proofs.Clock
