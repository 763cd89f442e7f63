import SensorSamplor.Core.BitWords
import SensorSamplor.Core.Dict
import SensorSamplor.Core.Greatest
import SensorSamplor.Core.JavaDouble
import SensorSamplor.Core.JavaText
import SensorSamplor.Core.LTS
import SensorSamplor.Core.NearestFloat
import SensorSamplor.Core.Outcome
import SensorSamplor.Core.Signal
import SensorSamplor.Core.Splitting
import SensorSamplor.Core.Threads
import SensorSamplor.Core.TreeKeys
import SensorSamplor.L1Data.LogLine
import SensorSamplor.L1Data.Sample
import SensorSamplor.L1Data.Throwable
import SensorSamplor.L2Bus.DistributedMap
import SensorSamplor.L2Bus.NetworkConfig
import SensorSamplor.L3Receivers.FileSampleReceiver
import SensorSamplor.L3Receivers.GraphiteSampleReceiver
import SensorSamplor.L3Receivers.JsonExporterSampleReceiver
import SensorSamplor.L3Receivers.LastSamples
import SensorSamplor.L3Receivers.SampleCollection
import SensorSamplor.L3Receivers.SampleReceiverManager
import SensorSamplor.L3Receivers.StoreRuns
import SensorSamplor.L3Receivers.StoreSteps
import SensorSamplor.L3Receivers.Window
import SensorSamplor.L3Sensors.Am2302Runs
import SensorSamplor.L3Sensors.Am2302Sensor
import SensorSamplor.L3Sensors.DhtFrames
import SensorSamplor.L3Sensors.DhtMeasurements
import SensorSamplor.L3Sensors.HttpXmlItems
import SensorSamplor.L3Sensors.HttpXmlSensor
import SensorSamplor.L3Sensors.PiDhtRead
import SensorSamplor.L3Sensors.PiMmio
import SensorSamplor.L3Sensors.SensorInvoker
import SensorSamplor.L4App.Factories
import SensorSamplor.L4App.Plugins
import SensorSamplor.L4App.Reporting
import SensorSamplor.L4App.SampleViewer
import SensorSamplor.L4App.Settings
import SensorSamplor.L4App.Startup
import SensorSamplor.L4App.ViewerPage
import SensorSamplor.L5Concurrency.Agreement
import SensorSamplor.L5Concurrency.BufferOrder
import SensorSamplor.L5Concurrency.CarbonServer
import SensorSamplor.L5Concurrency.Cluster
import SensorSamplor.L5Concurrency.ClusterLogs
import SensorSamplor.L5Concurrency.ClusterMetrics
import SensorSamplor.L5Concurrency.ClusterPage
import SensorSamplor.L5Concurrency.ClusterReports
import SensorSamplor.L5Concurrency.ClusterRest
import SensorSamplor.L5Concurrency.Delivery
import SensorSamplor.L5Concurrency.ExportTimes
import SensorSamplor.L5Concurrency.Exporter
import SensorSamplor.L5Concurrency.LogFiles
import SensorSamplor.L5Concurrency.LostLines
import SensorSamplor.L5Concurrency.Monitors
import SensorSamplor.L5Concurrency.MonitorsRefine
import SensorSamplor.L5Concurrency.OneReceiver
