import QueryShield.CommandLine.Program
import QueryShield.Json.Printer
import QueryShield.Json.Reader
import QueryShield.Policy.Yaml

namespace QueryShield.CommandLine

def Formats.standard : Formats where
  options := readOptions
  policy? := Yaml.policy?
  json? text := (Json.ofText text).toOption
  compact? json := some json.compact
  pretty? json := some json.indented

inductive File where
  | missing
  | unreadable
  | text (content : String)
  deriving DecidableEq, Repr

def File.text? : File → Option String
  | text content => some content
  | _ => none

structure Console where
  output : String := ""
  error : Option String := none
  deriving DecidableEq, Repr

/-- A platform with these files, and with a console to write on. -/
def Platform.ofFiles (files : String → File) : Platform (StateM Console) where
  isThere path := return files path != .missing
  textOf? path := return (files path).text?
  print text := modify fun console => { console with output := console.output ++ text }
  complain message := modify fun console => { console with error := some message }

structure Outcome extends Console where
  exitCode : UInt32
  deriving DecidableEq, Repr

def run (files : String → File) (arguments : List String) : Outcome :=
  let (exitCode, console) := Id.run ((program (.ofFiles files) .standard arguments).run {})
  { console with exitCode }

end QueryShield.CommandLine
