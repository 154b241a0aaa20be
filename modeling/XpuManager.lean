import XpuManager.Amc.FruOffsets
import XpuManager.Amc.FruQueries
import XpuManager.Amc.FruChunks
import XpuManager.Amc.PdrHandles
import XpuManager.Amc.SensorReadings
import XpuManager.Amc.MultipartReceive
import XpuManager.Amc.PackageHandle
import XpuManager.Amc.ControlFrames
import XpuManager.Xpumd.Aggregated
import XpuManager.Xpumd.MemorySizes
import XpuManager.Xpumd.StatusGroups
import XpuManager.Xpumd.CrashlogRuns
import XpuManager.Xpumd.DeviceInfo
import XpuManager.Xpumd.PowerLimits
import XpuManager.Xpumd.Enumerations
import XpuManager.Hal.AsyncFlush
import XpuManager.Oal.FsLock
import XpuManager.Oal.PciSystem
import XpuManager.Oal.VfShares
import XpuManager.Amc.FwPackageBounds
import XpuManager.Amc.UpdateRequests
import XpuManager.Amc.UpdateProgress
import XpuManager.Amc.EndlessPackets
import XpuManager.Oal.ColdResetTimeout
import XpuManager.Oal.SlotSiblings
import XpuManager.Oal.SwitchPath
import XpuManager.Oal.DmiStrings
import XpuManager.Oal.PciIds
import XpuManager.Oal.SriovCapability
import XpuManager.Hal.Survivability
import XpuManager.Ial.ConfigRun
import XpuManager.E2eValidation.WatcherRuns
import XpuManager.Ial.ArgvFilter
import XpuManager.Ial.Bandwidth
import XpuManager.Amc.FileClosing
import XpuManager.Hal.PerfMetrics
import XpuManager.Hal.PerfBatches
import XpuManager.Hal.EuMetrics
import XpuManager.Utility.TableFrame
import XpuManager.Utility.TableJson
import XpuManager.Hal.MemoryTiles
import XpuManager.Hal.Ras
import XpuManager.Hal.EngineTiles
import XpuManager.Hal.Readings
import XpuManager.Oal.VfRemoval
import XpuManager.Hal.FanSpeed
import XpuManager.Hal.FindDevice
import XpuManager.Ial.Health
import XpuManager.Ial.DumpOutput
import XpuManager.Hal.VfStats
import XpuManager.Xpumd.SysmanDeadlock
import XpuManager.Ial.DumpSampling
import XpuManager.Amc.Session
import XpuManager.Ial.UpdateFwRuns
import XpuManager.E2eValidation.PolicyPresets
import XpuManager.Xpumd.EventBroadcast
import XpuManager.Xpumd.EccStates
import XpuManager.Hal.FlashProgress
import XpuManager.Hal.CardProgress
