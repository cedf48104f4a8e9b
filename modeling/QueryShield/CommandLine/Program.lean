import QueryShield.CommandLine.Arguments
import QueryShield.Document.Decoding
import QueryShield.Protection

namespace QueryShield.CommandLine

/-- The languages of the arguments, of policies and of JSON, by what reads and writes them. -/
structure Formats where
  options : List String → Except Leaving Options
  policy? : String → Option Policy
  json? : String → Option Json
  compact? : Json → Option String
  pretty? : Json → Option String

/-- What the program finds around it. -/
structure Platform (m : Type → Type) where
  isThere : String → m Bool
  textOf? : String → m (Option String)
  print : String → m Unit
  complain : String → m Unit

inductive Failure where
  | readConfig
  | parseConfig
  | buildProtection
  | readQuery
  | parseQuery
  | encodeResponse
  deriving DecidableEq, Repr

def Failure.message : Failure → String
  | readConfig => "Failed to read config file"
  | parseConfig => "Failed to parse config file"
  | buildProtection => "Failed to build protection bundle"
  | readQuery => "Failed to read query document"
  | parseQuery => "Failed to parse query document"
  | encodeResponse => "Failed to encode response"

def documentsOfJson? (json : Json) : Option (List Document) :=
  match Document.ofJson .setAside json with
  | .ok document => some [document]
  | .error _ =>
    match Json.toList (Document.ofJson .setAside) json with
    | .ok documents => some documents
    | .error _ => none

/-- What a request of these documents violates: first that it is a batch, then the documents in
order. -/
def violations (protection : Protection) (documents : List Document) : List Violation :=
  (protection.checkBatch (UInt64.ofNat documents.length)).toList ++
    documents.flatMap protection.validate

section

variable {m : Type → Type} [Monad m] (platform : Platform m) (formats : Formats)

/-- A file that is not there stands for the default policy. -/
def loadPolicy (path : String) : ExceptT Failure m Policy := do
  if ← platform.isThere path then
    let some text ← platform.textOf? path | throw .readConfig
    match Policy.ofText formats.policy? text with
    | .ok policy => return policy
    | .error _ => throw .parseConfig
  else return {}

def loadDocuments (path : String) : ExceptT Failure m (List Document) := do
  let some text ← platform.textOf? path | throw .readQuery
  match (formats.json? text).bind documentsOfJson? with
  | some documents => return documents
  | none => throw .parseQuery

def check (options : Options) : ExceptT Failure m (List Violation) := do
  let policy ← loadPolicy platform formats options.configPath
  match policy.protection with
  | .error _ => throw .buildProtection
  | .ok protection =>
    let documents ← loadDocuments platform formats options.queryPath
    return violations protection documents

def respond : List Violation → ExceptT Failure m UInt32
  | [] => return 0
  | found =>
    match formats.pretty? (errorResponse found).canonical with
    | none => throw .encodeResponse
    | some text => do
      platform.print (text ++ "\n")
      return 1

def program (arguments : List String) : m UInt32 :=
  match formats.options arguments with
  | .error (.told text) => do
    platform.print text
    return 0
  | .error .misused => return 2
  | .ok options => do
    match ← (check platform formats options >>= respond platform formats).run with
    | .ok code => return code
    | .error failure =>
      platform.complain failure.message
      return 1

end

end QueryShield.CommandLine
