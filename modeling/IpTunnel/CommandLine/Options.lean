import IpTunnel.CommandLine.Usage
import IpTunnel.Directory
import IpTunnel.Notice
import IpTunnel.Peers.Records
import IpTunnel.Text.Capitals

namespace IpTunnel.CommandLine

inductive OptionName where
  | logLevel
  | tunName
  | privateIp
  | listenIp
  | port
  | peers
  | idleTimeout
  | closeTimeout
  | initialSleep
  | pcap
  | unknown
deriving DecidableEq

def OptionName.ofText (name : String) : OptionName :=
  if name = "--log-level" then .logLevel
  else if name = "--tun-name" then .tunName
  else if name = "--private-ip" then .privateIp
  else if name = "--listen-ip" then .listenIp
  else if name = "--port" then .port
  else if name = "--peers" then .peers
  else if name = "--idle-timeout" then .idleTimeout
  else if name = "--close-timeout" then .closeTimeout
  else if name = "--initial-sleep" then .initialSleep
  else if name = "--pcap" then .pcap
  else .unknown

inductive Argument where
  | help
  | framing
  | planetlab
  | option (name value : String)
  | bare

-- The value of an option is all that stands behind its first equals sign.
def Argument.ofText (text : String) : Argument :=
  if text = "--help" ∨ text = "help" then .help
  else if text = "--tun-framing" then .framing
  else if text = "--planetlab" then .planetlab
  else
    match Text.splitAtFirst? '=' text.toList with
    | some (name, value) => .option (String.ofList name) (String.ofList value)
    | none => .bare

-- Times are in milliseconds. Without a level nothing is logged.
structure Choices where
  level : Option Level
  tunName : String
  privateAddresses : List IpAddress
  listenAddresses : List IpAddress
  port : UInt16
  peers : Option PeerTable
  idleTimeout : Option Nat
  closeTimeout : Nat
  initialSleep : Nat
  framing : Bool
  planetlab : Bool
  capturePath : Option String

def Choices.default : Choices where
  level := some .info
  tunName := ""
  privateAddresses := []
  listenAddresses := []
  port := 5000
  peers := none
  idleTimeout := some 60000
  closeTimeout := 2000
  initialSleep := 0
  framing := false
  planetlab := false
  capturePath := none

def readLevel (name : String) : Except ValueProblem (Option Level) :=
  let capitals := String.ofList (Text.capitalize name.toList)
  match Level.all.find? (·.text = capitals) with
  | some level => .ok (some level)
  | none => if capitals = "OFF" then .ok none else .error .logLevel

def readSeconds (value : String) : Except ValueProblem Nat :=
  ((Text.Decimal.read 0xFFFFFFFFFFFFFFFF value.toList).map (· * 1000)).mapError .duration

def readPort (value : String) : Except ValueProblem UInt16 :=
  ((Text.Decimal.read 0xFFFF value.toList).map UInt16.ofNat).mapError .port

def readAddress (value : String) : Except ValueProblem IpAddress :=
  match IpAddress.read? value.toList with
  | some address => .ok address
  | none => .error .address

def readPeers (directory : Directory) (path : String) : Except ValueProblem PeerTable :=
  (PeerTable.load (directory.read path)).mapError .peers

namespace Choices

def setIdleTimeout (choices : Choices) (milliseconds : Nat) : Choices :=
  { choices with idleTimeout := if milliseconds = 0 then none else some milliseconds }

def choose (directory : Directory) (choices : Choices) (name : OptionName) (value : String) :
    Except ValueProblem Choices :=
  match name with
  | .logLevel => (readLevel value).map fun level => { choices with level := level }
  | .tunName => .ok { choices with tunName := value }
  | .privateIp =>
    (readAddress value).map fun address =>
      { choices with privateAddresses := choices.privateAddresses ++ [address] }
  | .listenIp =>
    (readAddress value).map fun address =>
      { choices with listenAddresses := choices.listenAddresses ++ [address] }
  | .port => (readPort value).map fun port => { choices with port := port }
  | .peers => (readPeers directory value).map fun peers => { choices with peers := some peers }
  | .idleTimeout => (readSeconds value).map choices.setIdleTimeout
  | .closeTimeout => (readSeconds value).map fun time => { choices with closeTimeout := time }
  | .initialSleep => (readSeconds value).map fun time => { choices with initialSleep := time }
  | .pcap => .ok { choices with capturePath := some value }
  | .unknown => .ok choices

end Choices

structure Parsed where
  unsupported : List String
  outcome : Except Refusal Choices

def takeUp (directory : Directory) (choices : Choices) (text : String) : Parsed :=
  match Argument.ofText text with
  | .help => ⟨[], .error .help⟩
  | .framing => ⟨[], .ok { choices with framing := true }⟩
  | .planetlab => ⟨[], .ok { choices with planetlab := true }⟩
  | .bare => ⟨[], .error (.noValue text)⟩
  | .option name value =>
    ⟨if OptionName.ofText name = .unknown then [text] else [],
      (choices.choose directory (OptionName.ofText name) value).mapError (.badValue name value)⟩

def takeUpAll (directory : Directory) (choices : Choices) : List String → Parsed
  | [] => ⟨[], .ok choices⟩
  | text :: rest =>
    match takeUp directory choices text with
    | ⟨unsupported, .error refusal⟩ => ⟨unsupported, .error refusal⟩
    | ⟨unsupported, .ok choices⟩ =>
      let parsed := takeUpAll directory choices rest
      { parsed with unsupported := unsupported ++ parsed.unsupported }

-- What the choices come to once running is wanted: without a listen address all are listened on.
def Choices.settings (choices : Choices) (peers : PeerTable) : Settings where
  tunName := choices.tunName
  privateAddresses := choices.privateAddresses
  listenAddresses := if choices.listenAddresses = [] then [.v4 .unspecified] else choices.listenAddresses
  port := choices.port
  peers := peers
  idleTimeout := choices.idleTimeout
  closeTimeout := choices.closeTimeout
  initialSleep := choices.initialSleep
  framing := choices.framing
  planetlab := choices.planetlab
  capturePath := choices.capturePath

structure Command where
  level : Option Level
  settings : Settings

-- The action is the last argument, if there is one, and only `run` is one.
def conclude (choices : Choices) (action : Option String) : Except Refusal Command :=
  if action = some "run" then
    match choices.peers with
    | some peers => .ok ⟨choices.level, choices.settings peers⟩
    | none => .error .noPeers
  else .error .noAction

structure Understood where
  unsupported : List String
  outcome : Except Refusal Command

-- Reads a command line with the program's name in front: what stands between that and the last
-- argument are options.
def understand (directory : Directory) (line : List String) : Understood :=
  let parsed := takeUpAll directory .default (line.dropLast.drop 1)
  ⟨parsed.unsupported, parsed.outcome.bind fun choices => conclude choices line.getLast?⟩

end IpTunnel.CommandLine
