import IpTunnel.CommandLine.Options
import IpTunnel.Tunnel

namespace IpTunnel.CommandLine

structure Printed where
  status : Nat
  output : List String
  complaints : List String
  tunnelCalls : List Call
  calls4 : List Call
  calls6 : List Call
  directory : Directory

def unsupported (argument : String) : String := s!"Unsupported argument {argument}"

def refuse (directory : Directory) (complaints : List String) (refusal : Refusal) : Printed where
  status := refusal.status
  output := banner :: usage
  complaints := complaints ++ refusal.complaint?.toList
  tunnelCalls := []
  calls4 := []
  calls6 := []
  directory := directory

def logLines (level : Option Level) (log : List Notice) : List String := (log.filter (Notice.isShown level)).map (·.line)

-- The last line of output: nothing is said of a run that stopped of its own accord.
def verdict : Ending → List String
  | .failed cause => [s!"Failed to run tunnel, error is {cause}"]
  | _ => []

def endStatus : Ending → Nat
  | .stopped _ => 0
  | .failed _ => 1
  | .overran | .stuck => 101

def forward (machine : Machine) (directory : Directory) (complaints : List String) (command : Command) : Printed :=
  match Setup.ofSettings command.settings with
  | .error problem =>
    { status := 1
      output := [banner, s!"Failed to create tunnel, error is {problem.message}"]
      complaints := complaints
      tunnelCalls := []
      calls4 := []
      calls6 := []
      directory := directory }
  | .ok setup =>
    let finished := Tunnel.run setup machine directory
    { status := endStatus finished.ending
      output := banner :: logLines command.level (setup.warnings ++ finished.log) ++ verdict finished.ending
      complaints := complaints
      tunnelCalls := finished.tunnelCalls
      calls4 := finished.calls4
      calls6 := finished.calls6
      directory := finished.directory }

def run (machine : Machine) (directory : Directory) (line : List String) : Printed :=
  let understood := understand directory line
  let complaints := understood.unsupported.map unsupported
  match understood.outcome with
  | .error refusal => refuse directory complaints refusal
  | .ok command => forward machine directory complaints command

end IpTunnel.CommandLine
