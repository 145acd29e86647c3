import OpenKCloud.Dict
import OpenKCloud.Except
import OpenKCloud.Format
import OpenKCloud.Float
import OpenKCloud.Weigher.Basic
import OpenKCloud.Weigher.Extract
import OpenKCloud.Weigher.Capacity
import OpenKCloud.Weigher.GroupFit
import OpenKCloud.Weigher.Weigh
import OpenKCloud.Weigher.Monotone
import OpenKCloud.DataObserver.Browse
import OpenKCloud.DataObserver.Listing
import OpenKCloud.Orchestrator.Model
import OpenKCloud.Orchestrator.Invariant
import OpenKCloud.Monitoring.AlertSystem
import OpenKCloud.Monitoring.Cooldown
import OpenKCloud.Monitoring.Lifecycle
import OpenKCloud.Monitoring.Collector
import OpenKCloud.Mlperf.Percentile
import OpenKCloud.Mlperf.Mmlu
import OpenKCloud.Mlperf.Logs
import OpenKCloud.Mlperf.Runner
import OpenKCloud.GpuSync.Flavors
import OpenKCloud.GpuSync.Pods
import OpenKCloud.VirtualGroup.Model
import OpenKCloud.VirtualGroup.Scale
import OpenKCloud.VirtualGroup.Manager
import OpenKCloud.VirtualGroup.Sync
import OpenKCloud.GpuSync.Routes
