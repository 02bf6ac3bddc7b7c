import IpTunnel.Address
import IpTunnel.Address.Reader
import IpTunnel.Address.Text
import IpTunnel.Bytes
import IpTunnel.Capture
import IpTunnel.Checksum
import IpTunnel.CommandLine.Options
import IpTunnel.CommandLine.Run
import IpTunnel.CommandLine.Usage
import IpTunnel.Directory
import IpTunnel.ExtendedError
import IpTunnel.Forwarder.Host
import IpTunnel.Forwarder.Loop
import IpTunnel.Forwarder.Phase
import IpTunnel.Forwarder.Plan
import IpTunnel.Icmp.Forge
import IpTunnel.Icmp.Message
import IpTunnel.Ip.Error
import IpTunnel.Ip.Header
import IpTunnel.Ip.Protocol
import IpTunnel.Ip.Version
import IpTunnel.Kernel.Descriptor
import IpTunnel.Kernel.ErrorQueue
import IpTunnel.Kernel.Host
import IpTunnel.Kernel.TunDevice
import IpTunnel.Kernel.UdpSocket
import IpTunnel.Main
import IpTunnel.Notice
import IpTunnel.Peers
import IpTunnel.Peers.Records
import IpTunnel.Routing
import IpTunnel.Script
import IpTunnel.Setup
import IpTunnel.SystemError
import IpTunnel.Text.Blank
import IpTunnel.Text.Capitals
import IpTunnel.Text.Decimal
import IpTunnel.Text.Duration
import IpTunnel.Text.Hex
import IpTunnel.Text.Lines
import IpTunnel.Text.Utf8
import IpTunnel.Tunnel
import IpTunnel.TunnelError
import IpTunnel.Proofs.Forging
import IpTunnel.Proofs.Deeds
import IpTunnel.Proofs.Unbuffered
import IpTunnel.Proofs.ErrorRecords
import IpTunnel.Proofs.ControlMessages
import IpTunnel.Proofs.Preserved
import IpTunnel.Proofs.Performed
import IpTunnel.Proofs.Chronicle
import IpTunnel.Proofs.Verdict
import IpTunnel.Proofs.Outbound
import IpTunnel.Proofs.Inbound
import IpTunnel.Proofs.OnesComplement
import IpTunnel.Proofs.ValidPackets
import IpTunnel.Proofs.Arrivals
import IpTunnel.Proofs.Sockets
import IpTunnel.Proofs.Endpoint
import IpTunnel.Proofs.Transparent
import IpTunnel.Proofs.Families
import IpTunnel.Proofs.FailStop
import IpTunnel.Proofs.Discipline
import IpTunnel.Proofs.Accounts
import IpTunnel.Proofs.Reception
import IpTunnel.Proofs.CaptureFile
import IpTunnel.Proofs.CaptureSession
import IpTunnel.Proofs.Waits
import IpTunnel.Proofs.Losses
import IpTunnel.Proofs.Standing
import IpTunnel.Proofs.Closing
import IpTunnel.Proofs.Idling
import IpTunnel.Proofs.Captured
import IpTunnel.Proofs.PiecewiseSums
import IpTunnel.Proofs.Corruption
import IpTunnel.Proofs.CheckedWrites
import IpTunnel.Proofs.CheckedPlans
import IpTunnel.Proofs.InBounds
import IpTunnel.Proofs.Steady
import IpTunnel.Proofs.SteadyKernel
import IpTunnel.Proofs.Draining
import IpTunnel.Proofs.Attribution
import IpTunnel.Proofs.Opening
import IpTunnel.Proofs.Delays
import IpTunnel.Proofs.AddressSets
import IpTunnel.Proofs.Retries
import IpTunnel.Proofs.Insertions
import IpTunnel.Proofs.Words
import IpTunnel.Proofs.PeerRecords
import IpTunnel.Proofs.PeerFiles
import IpTunnel.Proofs.HeaderFields
import IpTunnel.Proofs.WholeWrites
import IpTunnel.Proofs.OptionOrder
import IpTunnel.Proofs.Help
import IpTunnel.Proofs.Returning
import IpTunnel.Proofs.ReceiveCalls
import IpTunnel.Proofs.FoldedSums
import IpTunnel.Proofs.Dumps
