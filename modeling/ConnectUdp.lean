import ConnectUdp.Transition
import ConnectUdp.Channel
import ConnectUdp.ByteStream
import ConnectUdp.CharArray
import ConnectUdp.Plane
import ConnectUdp.Ownership
import ConnectUdp.Descriptor
import ConnectUdp.EarlyExit
import ConnectUdp.Slice
import ConnectUdp.DottedQuad
import ConnectUdp.NetworkOrder
import ConnectUdp.RtpHeader
import ConnectUdp.Chunks
import ConnectUdp.SequenceNumber
import ConnectUdp.Reassembly
import ConnectUdp.RingBuffer
import ConnectUdp.Records
import ConnectUdp.OrderedQueue
import ConnectUdp.InsertionTable
import ConnectUdp.Udp.Library
import ConnectUdp.Udp.Delivery
import ConnectUdp.Udp.Interference
import ConnectUdp.Udp.Api
import ConnectUdp.Media.Library
import ConnectUdp.Media.Effects
import ConnectUdp.Media.Lifecycle
import ConnectUdp.Media.Release
import ConnectUdp.Media.Frames
import ConnectUdp.Video.Layout
import ConnectUdp.Media.EncodeInput
import ConnectUdp.Nal.Walk
import ConnectUdp.Nal.EncodeVideo
import ConnectUdp.Nal.Prototypes
import ConnectUdp.Uvgrtp.Rtp
import ConnectUdp.Uvgrtp.H264Send
import ConnectUdp.Uvgrtp.H264Receive
import ConnectUdp.Uvgrtp.H264Session
import ConnectUdp.Uvgrtp.H264Pending
import ConnectUdp.Uvgrtp.H264Fragment
import ConnectUdp.Uvgrtp.H264Delivery
import ConnectUdp.Uvgrtp.H264Safety
import ConnectUdp.Uvgrtp.H264FirstCycle
import ConnectUdp.Uvgrtp.ReceptionFlow
import ConnectUdp.Uvgrtp.ReceptionOrder
import ConnectUdp.Uvgrtp.ReceptionWakeups
import ConnectUdp.Uvgrtp.EndToEnd
import ConnectUdp.Uvgrtp.Aggregation
import ConnectUdp.Uvgrtp.MediaSend
import ConnectUdp.Uvgrtp.MediaReceive
import ConnectUdp.Uvgrtp.MediaDelivery
import ConnectUdp.Uvgrtp.AudioStream
import ConnectUdp.Uvgrtp.VideoStream
import ConnectUdp.Jrtp.PacketBuilder
import ConnectUdp.Jrtp.SendVideo
import ConnectUdp.Jrtp.ParseRawPacket
import ConnectUdp.Jrtp.SourceStats
import ConnectUdp.Jrtp.SourceData
import ConnectUdp.Jrtp.Transmission
import ConnectUdp.Jrtp.Reception
import ConnectUdp.Jrtp.Sources
import ConnectUdp.Jrtp.SourceOrigin
import ConnectUdp.Jrtp.Confinement
import ConnectUdp.Audio.Capture
import ConnectUdp.Audio.CaptureOrder
import ConnectUdp.Audio.StopSignal
import ConnectUdp.Audio.Playback
import ConnectUdp.Audio.PlaybackOrder
import ConnectUdp.Tcp.Calls
import ConnectUdp.Tcp.Rendezvous
import ConnectUdp.Tcp.Agreement
import ConnectUdp.Tcp.Descriptors
import ConnectUdp.Tcp.DescriptorOwnership
import ConnectUdp.Tcp.DescriptorResults
import ConnectUdp.Tcp.Endpoint
