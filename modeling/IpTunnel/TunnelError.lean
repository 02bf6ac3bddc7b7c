import IpTunnel.Address.Text
import IpTunnel.Ip.Error
import IpTunnel.SystemError

namespace IpTunnel

inductive SetupProblem where
  | repeatedPrivateAddress
  | repeatedListenAddress
  | noListenAddress
deriving DecidableEq

def SetupProblem.message : SetupProblem → String
  | .repeatedPrivateAddress => "Only one private address per IP version is supported"
  | .repeatedListenAddress => "Only one listen address per IP version is supported"
  | .noListenAddress => "No listen address specified"

inductive TunnelError where
  | setup (problem : SetupProblem)
  | ip (cause : IpError)
  | peerNotFound (address : IpAddress)
  | tunnelRead (cause : IoError)
  | tunnelWrite (cause : IoError)
  | socketRead (cause : IoError)
  | socketWrite (cause : IoError)
  | io (cause : IoError)
deriving DecidableEq

namespace TunnelError

def message : TunnelError → String
  | .setup problem => problem.message
  | .ip cause => s!"IP error: {cause}"
  | .peerNotFound address => s!"No peer found for private address {address}"
  | .tunnelRead cause => s!"Failed to read from tunnel device: {cause}"
  | .tunnelWrite cause => s!"Failed to write to tunnel device: {cause}"
  | .socketRead cause => s!"Failed to receive from UDP socket: {cause}"
  | .socketWrite cause => s!"Failed to send to UDP socket: {cause}"
  | .io cause => s!"IO error: {cause}"

instance : ToString TunnelError := ⟨message⟩

def cause? : TunnelError → Option String
  | .setup _ => none
  | .peerNotFound _ => none
  | .ip cause => some cause.message
  | .tunnelRead cause => some cause.message
  | .tunnelWrite cause => some cause.message
  | .socketRead cause => some cause.message
  | .socketWrite cause => some cause.message
  | .io cause => some cause.message

end TunnelError

end IpTunnel
