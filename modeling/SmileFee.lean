import SmileFee.Lib.Word
import SmileFee.Lib.Mem
import SmileFee.Lib.Matching
import SmileFee.Lib.Feed
import SmileFee.Lib.Stamp
import SmileFee.Lib.Crc
import SmileFee.Rmap
import SmileFee.RmapCodec
import SmileFee.FeeRmap
import SmileFee.Cfg
import SmileFee.TransLog
import SmileFee.Net
import SmileFee.Sync
import SmileFee.Session
import SmileFee.Sram
import SmileFee.Ctrl
import SmileFee.SimRmap
import SmileFee.Upload
import SmileFee.FeeData
import SmileFee.SimTransfer
import SmileFee.FullFrame
import SmileFee.FrameTransfer
import SmileFee.Setters
import SmileFee.RmapReads
import SmileFee.LogRuns
import SmileFee.FailedSync
import SmileFee.SramImage
import SmileFee.SimModes
import SmileFee.FtSafety
import SmileFee.EventDetection
import SmileFee.SimExec
import SmileFee.PktFrameCntr
import SmileFee.FrameCounter
import SmileFee.RmapCrc
import SmileFee.Packaging
import SmileFee.SimReply
import SmileFee.GenCmd
import SmileFee.DecodedCrcs
import SmileFee.FtStreams
import SmileFee.FfSafety
import SmileFee.SramAccess
import SmileFee.SramWords
import SmileFee.Lib.Tiling
import SmileFee.SramSync
import SmileFee.SramChunks
import SmileFee.SramAreas
import SmileFee.Lib.Rank
import SmileFee.EventPixel
import SmileFee.Lib.Scan
import SmileFee.EventPackets
import SmileFee.EventBudget
import SmileFee.WanderingMask
import SmileFee.NodeEvents
import SmileFee.NodeThresholds
import SmileFee.Lib.Arr
import SmileFee.Rebin
import SmileFee.SimTarget
import SmileFee.BadPixels
import SmileFee.Packetise
import SmileFee.PacketSize
import SmileFee.GresbRx
import SmileFee.Bridge
import SmileFee.Housekeeping
import SmileFee.CcdNoise
import SmileFee.HdrWriter
import SmileFee.Lib.Frames
import SmileFee.Lib.Rounds
import SmileFee.SimServer
import SmileFee.DpuStreams
import SmileFee.SimLink
import SmileFee.Lib.Progress
import SmileFee.OpReads
import SmileFee.SimMain
import SmileFee.SimProcess
import SmileFee.FieldSync
import SmileFee.HkSync
import SmileFee.Lib.Shadow
import SmileFee.GresbTarget
import SmileFee.SramUpload
import SmileFee.RegShadow
import SmileFee.FeeSession
import SmileFee.FieldSession
import SmileFee.SramSession
