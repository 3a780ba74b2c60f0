import AugmentedNormalcy.Foundation.Lists
import AugmentedNormalcy.Foundation.Run
import AugmentedNormalcy.Foundation.OrdMap
import AugmentedNormalcy.Server.ConnectionManager
import AugmentedNormalcy.Server.Linked
import AugmentedNormalcy.Server.Transfers
import AugmentedNormalcy.Server.Registration
import AugmentedNormalcy.Server.Consistent
import AugmentedNormalcy.Server.Phase
import AugmentedNormalcy.Server.Sequential
import AugmentedNormalcy.Server.Overlap
import AugmentedNormalcy.Server.Attachment
import AugmentedNormalcy.Server.Reconnection
import AugmentedNormalcy.Server.Removal
import AugmentedNormalcy.Server.Rotation
import AugmentedNormalcy.Server.Gathering
import AugmentedNormalcy.Server.Strategies
import AugmentedNormalcy.Server.ServerStreamer
import AugmentedNormalcy.Server.Shutdown
import AugmentedNormalcy.Server.Regions
import AugmentedNormalcy.Foundation.Bytes
import AugmentedNormalcy.Tcp.PacketHeader
import AugmentedNormalcy.Tcp.Receiver
import AugmentedNormalcy.Tcp.Parser
import AugmentedNormalcy.Tcp.Simulation
import AugmentedNormalcy.Tcp.Fragmentation
import AugmentedNormalcy.Tcp.Bounds
import AugmentedNormalcy.Tcp.WriteChain
import AugmentedNormalcy.Tcp.HeadsetSession
import AugmentedNormalcy.Tcp.WriteBufferPool
import AugmentedNormalcy.Tcp.Backpressure
import AugmentedNormalcy.Tcp.SessionRefinement
import AugmentedNormalcy.Tcp.CameraClient
import AugmentedNormalcy.Tcp.HeadsetClient
import AugmentedNormalcy.Tcp.Lockstep
import AugmentedNormalcy.Tcp.Link
import AugmentedNormalcy.Tcp.RoundTrip
import AugmentedNormalcy.Tcp.ClientQueue
import AugmentedNormalcy.Tcp.CameraSession
import AugmentedNormalcy.Camera.CameraStreamer
import AugmentedNormalcy.Server.Streaming
import AugmentedNormalcy.Server.Frames
import AugmentedNormalcy.Server.Routing
import AugmentedNormalcy.Tcp.ReadBufferPool
import AugmentedNormalcy.Tcp.FanOut
import AugmentedNormalcy.Foundation.Pool
import AugmentedNormalcy.Foundation.Fifo
import AugmentedNormalcy.Foundation.SharedPtr
import AugmentedNormalcy.Foundation.Plane
import AugmentedNormalcy.Foundation.Scan
import AugmentedNormalcy.Foundation.LinkedList
import AugmentedNormalcy.Foundation.Double
import AugmentedNormalcy.Foundation.Json
import AugmentedNormalcy.Decoder.SwDecoder
import AugmentedNormalcy.Decoder.Buffers
import AugmentedNormalcy.Decoder.ScanLoop
import AugmentedNormalcy.Decoder.Rows
import AugmentedNormalcy.Encoder.SwEncoder
import AugmentedNormalcy.Encoder.Worker
import AugmentedNormalcy.Websocket.Fencing
import AugmentedNormalcy.Websocket.SendQueue
import AugmentedNormalcy.Websocket.ReadBuffer
import AugmentedNormalcy.Websocket.WebsocketServer
import AugmentedNormalcy.Websocket.SessionTable
import AugmentedNormalcy.Headset.HeadsetDomain
import AugmentedNormalcy.Headset.HeadsetStreamer
import AugmentedNormalcy.Headset.Lifecycle
import AugmentedNormalcy.Headset.Publication
import AugmentedNormalcy.Headset.HeadsetGraphics
import AugmentedNormalcy.Headset.Display
import AugmentedNormalcy.Gpio.Button
import AugmentedNormalcy.Gpio.Grammar
import AugmentedNormalcy.Gpio.Debounce
import AugmentedNormalcy.Camera.LibcameraCamera
import AugmentedNormalcy.Camera.Requests
import AugmentedNormalcy.Bms.SerialBms
import AugmentedNormalcy.Bms.Reports
import AugmentedNormalcy.Domain.Message
import AugmentedNormalcy.Server.Commands
import AugmentedNormalcy.Websocket.WebsocketSession
import AugmentedNormalcy.Server.Control
import AugmentedNormalcy.Prototype.BspPacket
import AugmentedNormalcy.Prototype.BufferPool
import AugmentedNormalcy.Prototype.BufferClients
import AugmentedNormalcy.Prototype.WorkerThread
import AugmentedNormalcy.Prototype.V4l2Encoder
import AugmentedNormalcy.Prototype.MemoryRepository
