import SharedRing.Command

/-!
# The program

Reads the file that a call names, and prints what the call prints.
-/

namespace SharedRing

def readContent (path : String) : IO Config.FileContent := do
  try
    let place ← IO.FS.realPath path
    if ← place.isDir then return .directory
    return .bytes (← IO.FS.readBinFile place)
  catch _ => return .missing

/-- Run a call and print its outcome. -/
def runCall (arguments : List String) : IO UInt32 := do
  let content ← match (Invocation.ofArguments arguments).bind Invocation.file? with
    | some path => readContent path
    | none => pure .missing
  let outcome := Invocation.outcomeOfArguments (fun _ => content) arguments
  outcome.output.forM IO.println
  outcome.errors.forM IO.eprintln
  return UInt32.ofNat outcome.status

end SharedRing

def main (arguments : List String) : IO UInt32 := SharedRing.runCall arguments
