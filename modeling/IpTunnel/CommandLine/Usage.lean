import IpTunnel.Peers
import IpTunnel.Text.Decimal

namespace IpTunnel.CommandLine

def banner : String := "udptun version 0.1.0"

def usage : List String := [
  "Usage: udptun [OPTIONS] run",
  "",
  "Options:",
  "      --log-level=<LOG_LEVEL>          Log level [default: info]",
  "      --tun-name=<NAME>                Tunnel interface name [default: assigned by kernel]",
  "      --private-ip=<IP>                Private tunnel address, one IPv4 and one IPv6 can be provided",
  "      --listen-ip=<IP>                 Listen IP address, one IPv4 and one IPv6 can be provided [default: 0.0.0.0]",
  "      --port=<PORT>                    UDP port [default: 5000]",
  "      --peers=<FILENAME>               Path to peer table (private IP and public IP:port per line)",
  "      --idle-timeout=<SECONDS>         Stop after this many seconds without traffic, 0 to disable [default: 60]",
  "      --close-timeout=<SECONDS>        Grace period before stopping on shutdown [default: 2]",
  "      --initial-sleep=<SECONDS>        Wait before forwarding [default: 0]",
  "      --tun-framing                    Prepend packet information header on the tunnel device",
  "      --planetlab                      PlanetLab compatibility (implies --tun-framing)",
  "      --pcap=<FILENAME>                Capture tunnel traffic to a PCAP file",
  "      --help                           Print help"]

inductive ValueProblem where
  | logLevel
  | duration (fault : Text.Decimal.Fault)
  | address
  | port (fault : Text.Decimal.Fault)
  | peers (error : PeerError)
deriving DecidableEq

def ValueProblem.message : ValueProblem → String
  | .logLevel => "Unsupported log level"
  | .duration fault => s!"Failed to parse duration in seconds: {fault.message}"
  | .address => "Failed to parse IP address: invalid IP address syntax"
  | .port fault => s!"Failed to parse port: {fault.message}"
  | .peers error => s!"Failed to load peer table: {error}"

inductive Refusal where
  | help
  | noValue (argument : String)
  | badValue (name value : String) (problem : ValueProblem)
  | noAction
  | noPeers
deriving DecidableEq

namespace Refusal

def complaint? : Refusal → Option String
  | .help => none
  | .noValue argument => some s!"Option flag {argument} has no value"
  | .badValue name value problem => some s!"Argument {name} has an unsupported value {value}: {problem.message}"
  | .noAction => some "No action specified"
  | .noPeers => some "No peer table specified"

def status (refusal : Refusal) : Nat := if refusal.complaint?.isSome then 2 else 0

end Refusal

end IpTunnel.CommandLine
