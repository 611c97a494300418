import KDoctor.Lib.Transition
import KDoctor.Lib.Register
import KDoctor.Lib.Go
import KDoctor.Lib.Except
import KDoctor.Crd.Types
import KDoctor.PluginManager.Utils
import KDoctor.PluginManager.ControllerTools
import KDoctor.PluginManager.AgentTools
import KDoctor.PluginManager.History
import KDoctor.PluginManager.Rounds
import KDoctor.PluginManager.Protocol
import KDoctor.PluginManager.Tools
import KDoctor.PluginManager.Lifecycle
import KDoctor.PluginManager.RoundOutcome
import KDoctor.PluginManager.RoundTask
import KDoctor.K8s.Validation
import KDoctor.Scheduler.Names
import KDoctor.Lib.GoMap
import KDoctor.Scheduler.Generate
import KDoctor.Scheduler.Tracker
import KDoctor.PluginManager.Webhook
import KDoctor.Scheduler.Runtime
import KDoctor.Utils.Stats
import KDoctor.LoadRequest.Report
import KDoctor.PluginManager.SuccessCondition
import KDoctor.FileManager.Manager
import KDoctor.Lib.GoTime
import KDoctor.ReportManager.Worker
import KDoctor.PluginManager.SummaryReport
import KDoctor.PluginManager.RoundTimes
import KDoctor.ApiServer.KdoctorReport
import KDoctor.LoadRequest.Accounting
import KDoctor.Lib.GoUrl
import KDoctor.PluginManager.HostCheck
import KDoctor.Lib.Fanout
import KDoctor.Lib.DnsName
import KDoctor.PluginManager.ExecuteTask
import KDoctor.PluginManager.NetReach
import KDoctor.PluginManager.NetDns
import KDoctor.PluginManager.AppHttpHealthy
import KDoctor.LoadRequest.Work
import KDoctor.Lib.GoHeap
import KDoctor.Connexus.Pool
import KDoctor.LoadRequest.UdpRun
