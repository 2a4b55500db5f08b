/-
ZonedSet.Main — the command `dmzadm`.

The command works on a picture of the system: the files that its arguments lead to, and the mount
table, are read before anything else, and `CommandLine.run` answers from what was read. A picture
holds plain files with their bytes and directories without their entries. Anything else in it is a
device that holds nothing and is no block device, because the size and the zones of a block device
are not to be had by reading files.
-/
import ZonedSet.CommandLine
import ZonedSet.Storage.Edit

namespace ZonedSet.Main

/-- A picture with what a path leads to. What cannot be read is left out. -/
def copyIn (s : Storage) (path : String) : IO Storage := do
  let .ok real ← (IO.FS.realPath path).toBaseIO | return s
  let .ok data ← real.metadata.toBaseIO | return s
  let place := real.toString
  match data.type with
  | .dir => return (s.makeDirectory place).leadTo path place
  | .file =>
    let .ok bytes ← (IO.FS.readBinFile real).toBaseIO | return s
    return (s.putFile place (.ofBytes bytes.data)).leadTo path place
  | _ => return (s.putNode place .sink).leadTo path place

/-- The picture that a command needs. -/
def picture (args : List String) : IO Storage := do
  let home ← IO.currentDir
  let s := Storage.bare.enter home.toString
  let .run command := CommandLine.read args | return s
  let s ← command.paths.foldlM copyIn s
  let some table := command.mountTable? s | return s
  copyIn s table

end ZonedSet.Main

/-- Runs the command and prints what it comes to. -/
def main (args : List String) : IO UInt32 := do
  let outcome := ZonedSet.CommandLine.run (← ZonedSet.Main.picture args) args
  for line in outcome.output do
    IO.println line
  if let some message := outcome.error then
    IO.eprintln ("Error: " ++ message)
  if let some breach := outcome.breach then
    IO.eprintln breach.message
  if outcome.code == 2 then
    for line in ZonedSet.CommandLine.helpLines do
      IO.eprintln line
  return outcome.code.toUInt32
