import TableReach.CommandLine.Run

/-!
# The program
-/

namespace TableReach
namespace CommandLine

/-- The text of some bytes. -/
def fileOfBytes (bytes : ByteArray) : File :=
  match String.fromUTF8? bytes with
  | some content => .text content
  | none => .unreadable "stream did not contain valid UTF-8"

/-- The file at a path. -/
def readFile (path : String) : IO File := do
  try
    return fileOfBytes (← IO.FS.readBinFile path)
  catch
    | .noFileOrDirectory .. => return .absent
    | mistake => return .unreadable (toString mistake)

/-- The host of a process. -/
def process : Host IO where
  file := readFile
  input := do return fileOfBytes (← (← IO.getStdin).readBinToEnd)
  lookup := fun name => IO.getEnv name
  isTerminal := do (← IO.getStdout).isTty

end CommandLine
end TableReach

/-- Run the program. -/
def main (arguments : List String) : IO UInt32 := do
  let outcome ← TableReach.CommandLine.run TableReach.CommandLine.process arguments
  for event in outcome.events do
    IO.eprint event.render
  if let some complaint := outcome.complaint then
    IO.eprintln complaint
  IO.print outcome.output
  return outcome.code.toUInt32
