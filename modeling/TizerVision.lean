import TizerVision.Theory.Attempts
import TizerVision.Theory.Crc
import TizerVision.Theory.Extrema
import TizerVision.Theory.Polling
import TizerVision.Theory.Nearest
import TizerVision.Theory.Run
import TizerVision.Theory.Simulation
import TizerVision.Theory.Hoare
import TizerVision.Theory.Wrap
import TizerVision.Theory.Paint
import TizerVision.Theory.Mutex
import TizerVision.Theory.Lossy
import TizerVision.Theory.Stream
import TizerVision.Modbus.Serial
import TizerVision.Modbus.Crc16
import TizerVision.Modbus.Object
import TizerVision.Modbus.Transport
import TizerVision.Modbus.Operations
import TizerVision.Modbus.Footprint
import TizerVision.Modbus.Bounds
import TizerVision.Modbus.Reception
import TizerVision.Modbus.ReadBack
import TizerVision.Modbus.Coils
import TizerVision.Modbus.Link
import TizerVision.Modbus.Frame
import TizerVision.Modbus.Retry
import TizerVision.Modbus.Slave
import TizerVision.Modbus.Steps
import TizerVision.Modbus.Concurrent
import TizerVision.Modbus.Integrity
import TizerVision.Modbus.Ascii
import TizerVision.Modbus.AsciiLine
import TizerVision.Modbus.AsciiGrammar
import TizerVision.Modbus.SerialFailure
import TizerVision.Modbus.Drain
import TizerVision.Modbus.RawData
import TizerVision.Modbus.Untouched
import TizerVision.Modbus.Reals
import TizerVision.Modbus.History
import TizerVision.LibModbus.Message
import TizerVision.LibModbus.Client
import TizerVision.LibModbus.Session
import TizerVision.LibModbus.Relay
import TizerVision.Measure.Halcon
import TizerVision.Measure.Action
import TizerVision.Measure.Verdict
import TizerVision.Measure.Outcome
import TizerVision.Measure.Tolerance
import TizerVision.Measure.History
import TizerVision.Measure.Corner
import TizerVision.Loader.Pairing
import TizerVision.Loader.JobOrder
import TizerVision.Loader.Outputs
import TizerVision.Loader.Line
import TizerVision.Loader.Locks
import TizerVision.Loader.Atomic
import TizerVision.Loader.Progress
import TizerVision.Rolling.Machine
import TizerVision.Rolling.Stitch
import TizerVision.Rolling.Mailbox
import TizerVision.Rolling.Naming
import TizerVision.Rolling.Interval
import TizerVision.Rolling.Picture
import TizerVision.Rolling.Reports
import TizerVision.Service.DataCounter
import TizerVision.Service.Conservation
import TizerVision.Service.Hours
import TizerVision.Service.ZmqServer
import TizerVision.Calibration.Points
import TizerVision.Winding.Position
import TizerVision.Winding.Scale
import TizerVision.Winding.CalibrationData
import TizerVision.Winding.Indexing
import TizerVision.Burrs.Edge
import TizerVision.Burrs.Scan
import TizerVision.Burrs.Saving
import TizerVision.Burrs.Naming
import TizerVision.Camera.Virtual
import TizerVision.Camera.Hik
import TizerVision.Camera.Start
import TizerVision.Camera.Frames
