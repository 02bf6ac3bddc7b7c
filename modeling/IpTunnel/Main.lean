import IpTunnel.CommandLine.Run

namespace IpTunnel.CommandLine

-- A device and sockets that can be opened and have nothing to say.
def silent : Machine where
  tunnel := ⟨none, none, none, [], []⟩
  socket4 := ⟨none, [], none, none, none, [], [], []⟩
  socket6 := ⟨none, [], none, none, none, [], [], []⟩
  signal := .never
  sleep _ := 0
  turns _ := ⟨[], ⟨0, 0⟩⟩

def peerPaths (line : List String) : List String :=
  line.filterMap fun argument =>
    match Argument.ofText argument with
    | .option name value => if OptionName.ofText name = .peers then some value else none
    | _ => none

def readFile? (path : String) : IO (Option (String × Bytes)) := do
  try
    let content ← IO.FS.readBinFile path
    return some (path, content.toList)
  catch _ => return none

def writeNew (before after : Directory) : IO Unit := do
  for (name, content) in after.files do
    if before.find? name ≠ some content then
      IO.FS.writeBinFile name ⟨content.toArray⟩

end IpTunnel.CommandLine

open IpTunnel IpTunnel.CommandLine in
def main (arguments : List String) : IO UInt32 := do
  let files ← (peerPaths arguments).filterMapM readFile?
  let directory : Directory := ⟨files⟩
  let printed := CommandLine.run silent directory ("udptun" :: arguments)
  for line in printed.complaints do
    IO.eprintln line
  for line in printed.output do
    IO.println line
  writeNew directory printed.directory
  return printed.status.toUInt32
