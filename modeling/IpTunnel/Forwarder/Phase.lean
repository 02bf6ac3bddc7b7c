namespace IpTunnel

inductive Phase where
  | ready
  | running
  | shuttingDown
  | stopped
deriving DecidableEq

def Phase.text : Phase → String
  | .ready => "Init"
  | .running => "Running"
  | .shuttingDown => "ShuttingDown"
  | .stopped => "Stopped"

instance : ToString Phase := ⟨Phase.text⟩

inductive StopReason where
  | idle
  | shutdown
deriving DecidableEq

def StopReason.text : StopReason → String
  | .idle => "idle timeout"
  | .shutdown => "shutdown requested"

instance : ToString StopReason := ⟨StopReason.text⟩

end IpTunnel
