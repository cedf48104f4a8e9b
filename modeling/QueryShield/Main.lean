import QueryShield.CommandLine

namespace QueryShield.CommandLine

/-- A file whose path does not lead anywhere is not there, whatever the reason. -/
def Platform.io : Platform IO where
  isThere path := do
    try
      discard (IO.FS.realPath path)
      return true
    catch _ => return false
  textOf? path := do
    try return some (← IO.FS.readFile path)
    catch _ => return none
  print := IO.print
  complain message := IO.eprintln ("Error: " ++ message)

end QueryShield.CommandLine

def main (arguments : List String) : IO UInt32 :=
  QueryShield.CommandLine.program .io .standard arguments
