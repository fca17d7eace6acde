import SmartMeter.Udp.Acknowledgement
import SmartMeter.Udp.SocketBookkeeping
import SmartMeter.Udp.ReplyDelivery
import SmartMeter.Drivers.RtcLock
import SmartMeter.Uart.ChunkProbe
import SmartMeter.Meter.Accuracy
import SmartMeter.Meter.Freshness
import SmartMeter.Display.ClockDisplay
import SmartMeter.Params.PowerCut
import SmartMeter.Params.SaveFailure
import SmartMeter.Params.BootSafety
import SmartMeter.Fwup.RequestSplit
import SmartMeter.Fwup.WaitList
import SmartMeter.Platform.ChipBounds
import SmartMeter.Platform.UartStream
import SmartMeter.Oneshot.MulticastDecode
import SmartMeter.Oneshot.SingleSender
import SmartMeter.Oneshot.SessionIndependence
import SmartMeter.Oneshot.Reassembly
import SmartMeter.Oneshot.BufferSafety
import SmartMeter.Udp.ReplyFrames
import SmartMeter.Meter.RequestFrames
import SmartMeter.Dhcp.Leases
import SmartMeter.Dhcp.Replies
import SmartMeter.Tasks.TaskMessages
import SmartMeter.Fwup.UploadStream
import SmartMeter.Sockets.RecvCache
import SmartMeter.Atcmd.LineBounds
import SmartMeter.Atcmd.CommandStream
import SmartMeter.Meter.CalibrationRange
import SmartMeter.Udp.KeyPresses
import SmartMeter.Display.BlockRefresh
import SmartMeter.Drivers.SerialTransfer
import SmartMeter.Platform.DeltaTimers
import SmartMeter.Params.StandardCrc
import SmartMeter.Fwup.SerialBlocks
import SmartMeter.Fwup.UploadProgress
import SmartMeter.Atcmd.QuotedArguments
import SmartMeter.Atcmd.SettingPairs
import SmartMeter.Atcmd.SocketForward
import SmartMeter.Platform.UartTransmit
import SmartMeter.Platform.EscapeSequence
import SmartMeter.Dhcp.OptionBounds
import SmartMeter.Dns.Answers
import SmartMeter.Platform.AddressText
import SmartMeter.Params.UserDefault
import SmartMeter.Params.FactoryRecord
import SmartMeter.Oneshot.ChannelHop
import SmartMeter.Oneshot.NibblePackets
import SmartMeter.Sockets.NtpClient
import SmartMeter.Drivers.E2promBlocks
import SmartMeter.Oneshot.FragmentChecksum
import SmartMeter.Platform.MailboxWait
import SmartMeter.Platform.MemWrappers
import SmartMeter.Kernel.ListRefines
import SmartMeter.Kernel.QueueWakeups
import SmartMeter.Kernel.QueueTimeouts
import SmartMeter.Kernel.QueueHistory
import SmartMeter.Kernel.HeapGrants
