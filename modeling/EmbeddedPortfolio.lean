import EmbeddedPortfolio.Transition.System
import EmbeddedPortfolio.Transition.Fifo
import EmbeddedPortfolio.Transition.Locations
import EmbeddedPortfolio.Transition.Since
import EmbeddedPortfolio.Selection.Greedy
import EmbeddedPortfolio.Pipeline.FrameQueue
import EmbeddedPortfolio.Pipeline.FrameQueueHistory
import EmbeddedPortfolio.Pipeline.FrameQueueMonitor
import EmbeddedPortfolio.Pipeline.RtspServer
import EmbeddedPortfolio.Pipeline.Backpressure
import EmbeddedPortfolio.Program.Reading
import EmbeddedPortfolio.Detector.Detection
import EmbeddedPortfolio.Detector.Nms
import EmbeddedPortfolio.Detector.Decode
import EmbeddedPortfolio.Detector.Layouts
import EmbeddedPortfolio.Detector.TensorBinding
import EmbeddedPortfolio.Detector.ReadBounds
import EmbeddedPortfolio.Numeric.BitString
import EmbeddedPortfolio.Telemetry.Dbc
import EmbeddedPortfolio.Capture.Kernel
import EmbeddedPortfolio.Program.Exceptional
import EmbeddedPortfolio.Program.Handles
import EmbeddedPortfolio.Capture.V4L2Capture
import EmbeddedPortfolio.Capture.Ownership
import EmbeddedPortfolio.Capture.Resources
import EmbeddedPortfolio.Capture.FrameDrops
import EmbeddedPortfolio.Capture.Grabber
import EmbeddedPortfolio.Capture.Restart
import EmbeddedPortfolio.Capture.GrabberRuns
import EmbeddedPortfolio.Numeric.Rounding
import EmbeddedPortfolio.Numeric.Wrapping
import EmbeddedPortfolio.Telemetry.Transmitter
import EmbeddedPortfolio.Telemetry.Redline
import EmbeddedPortfolio.Detector.OutputContract
import EmbeddedPortfolio.Statistics.Quantile
import EmbeddedPortfolio.Statistics.Ring
import EmbeddedPortfolio.Instrumentation.Trackers
import EmbeddedPortfolio.Instrumentation.Percentiles
import EmbeddedPortfolio.Instrumentation.Means
import EmbeddedPortfolio.Pipeline.QueueShutdown
import EmbeddedPortfolio.Pipeline.QueueSide
import EmbeddedPortfolio.Pipeline.Stall
import EmbeddedPortfolio.Pipeline.References
import EmbeddedPortfolio.Transition.Slots
import EmbeddedPortfolio.Detector.FrameOwnership
import EmbeddedPortfolio.Pipeline.Teardown
import EmbeddedPortfolio.Pipeline.Appsink
import EmbeddedPortfolio.Pipeline.Stream
import EmbeddedPortfolio.Pipeline.TimestampRuns
import EmbeddedPortfolio.Pipeline.MediaStart
import EmbeddedPortfolio.Numeric.MachineInt
import EmbeddedPortfolio.Sensor.Bmp280
import EmbeddedPortfolio.Sensor.Temperature
import EmbeddedPortfolio.Sensor.Pressure
import EmbeddedPortfolio.Sensor.PressureWraps
import EmbeddedPortfolio.Telemetry.RoundTrip
import EmbeddedPortfolio.Detector.Letterbox
import EmbeddedPortfolio.Detector.Calibrator
import EmbeddedPortfolio.Detector.CanPublisher
import EmbeddedPortfolio.Detector.Clipping
import EmbeddedPortfolio.Telemetry.Odometer
import EmbeddedPortfolio.Telemetry.RpmRange
import EmbeddedPortfolio.Detector.NmsLaws
import EmbeddedPortfolio.Capture.FourCC
import EmbeddedPortfolio.Detector.CandidateSelection
import EmbeddedPortfolio.Telemetry.KernelFilter
import EmbeddedPortfolio.Telemetry.Schedule
import EmbeddedPortfolio.Telemetry.Bridge
import EmbeddedPortfolio.Telemetry.BridgeRuns
import EmbeddedPortfolio.Detector.Sampling
import EmbeddedPortfolio.Detector.CanReassembly
import EmbeddedPortfolio.Pipeline.Freshness
import EmbeddedPortfolio.Capture.FailedOpen
import EmbeddedPortfolio.Sensor.Attributes
import EmbeddedPortfolio.Transition.Mutex
import EmbeddedPortfolio.Transition.Descent
import EmbeddedPortfolio.Pipeline.MainUnderway
import EmbeddedPortfolio.Pipeline.MainShutdown
import EmbeddedPortfolio.Pipeline.MainThreads
import EmbeddedPortfolio.Sensor.Driver
import EmbeddedPortfolio.Sensor.DriverRuns
import EmbeddedPortfolio.Sensor.Division
import EmbeddedPortfolio.Detector.IouLaws
import EmbeddedPortfolio.Detector.Worker
import EmbeddedPortfolio.Detector.WorkerRuns
import EmbeddedPortfolio.Detector.Perception
import EmbeddedPortfolio.Instrumentation.SizeParameters
import EmbeddedPortfolio.Boot.DiagFaults
import EmbeddedPortfolio.Detector.Inference
import EmbeddedPortfolio.Transition.Chunks
import EmbeddedPortfolio.Detector.CalibrationRuns
import EmbeddedPortfolio.Detector.CalibrationFiller
import EmbeddedPortfolio.Boot.Diag
import EmbeddedPortfolio.Pipeline.Build
import EmbeddedPortfolio.Pipeline.BuildRuns
import EmbeddedPortfolio.Transition.Interleaving
import EmbeddedPortfolio.Pipeline.MainFrames
import EmbeddedPortfolio.Instrumentation.BenchmarkTrace
