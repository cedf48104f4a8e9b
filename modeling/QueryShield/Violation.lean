import QueryShield.Json.Decoding

namespace QueryShield

inductive ViolationCode where
  | characterLimit
  | cost
  | aliases
  | directives
  | depth
  | batch
  deriving DecidableEq, Repr, Inhabited

structure Violation where
  code : ViolationCode
  message : String
  observed : UInt64
  limit : UInt64
  deriving DecidableEq, Repr, Inhabited

namespace ViolationCode

def text : ViolationCode → String
  | characterLimit => "CHARACTER_LIMIT_EXCEEDED"
  | cost => "MAX_COST_EXCEEDED"
  | aliases => "MAX_ALIASES_EXCEEDED"
  | directives => "MAX_DIRECTIVES_EXCEEDED"
  | depth => "MAX_DEPTH_EXCEEDED"
  | batch => "BATCHED_REQUESTS_DISABLED"

def all : List ViolationCode := [characterLimit, cost, aliases, directives, depth, batch]

def names : List (String × ViolationCode) := all.map fun code => (code.text, code)

end ViolationCode

namespace Violation

def characterLimit (observed limit : UInt64) : Violation where
  code := .characterLimit
  message := "Query is " ++ toString observed.toNat ++ " characters long, maximum allowed is " ++
    toString limit.toNat
  observed := observed
  limit := limit

def cost (observed limit : UInt64) : Violation where
  code := .cost
  message := "Query cost of " ++ toString observed.toNat ++ " exceeds maximum allowed cost of " ++
    toString limit.toNat
  observed := observed
  limit := limit

def aliases (observed : UInt64) (limit : UInt32) : Violation where
  code := .aliases
  message := "Query contains " ++ toString observed.toNat ++ " aliases, maximum allowed is " ++
    toString limit.toNat
  observed := observed
  limit := limit.toUInt64

def directives (observed : UInt64) (limit : UInt32) : Violation where
  code := .directives
  message := "Query contains " ++ toString observed.toNat ++ " directives, maximum allowed is " ++
    toString limit.toNat
  observed := observed
  limit := limit.toUInt64

def depth (observed : UInt64) (limit : UInt32) : Violation where
  code := .depth
  message := "Query depth of " ++ toString observed.toNat ++
    " exceeds maximum allowed depth of " ++ toString limit.toNat
  observed := observed
  limit := limit.toUInt64

def batch (operations : UInt64) : Violation where
  code := .batch
  message := "Batched requests are disabled, request carries " ++ toString operations.toNat ++
    " operations"
  observed := operations
  limit := 1

def line (violation : Violation) : String := violation.code.text ++ ": " ++ violation.message

open Json

def toJson (violation : Violation) : Json :=
  .object [("code", .string violation.code.text), ("message", .string violation.message),
    ("observed", .natural violation.observed), ("limit", .natural violation.limit)]

def record (origin : Origin) : Record Violation where
  title := "Violation"
  initial := ⟨.batch, "", 0, 0⟩
  slots := [
    .mandatory "code" (toChoice origin ViolationCode.names) fun code violation =>
      { violation with code },
    .mandatory "message" toText fun message violation => { violation with message },
    .mandatory "observed" toCount fun observed violation => { violation with observed },
    .mandatory "limit" toCount fun limit violation => { violation with limit }]

def ofJson (origin : Origin) : Json → Decoded Violation := (record origin).read origin

end Violation

end QueryShield
