import QueryShield.Violation

namespace QueryShield

structure Location where
  line : UInt64
  column : UInt64
  deriving DecidableEq, Repr, Inhabited

structure ResponseError where
  message : String
  locations : List Location := []
  /-- Where in the response the field is that failed. -/
  path : List Json := []
  extensions : List (String × Json) := []
  deriving Repr, Inhabited

open Json

namespace Location

def toJson (location : Location) : Json :=
  .object [("line", .natural location.line), ("column", .natural location.column)]

def record : Record Location where
  title := "Location"
  initial := ⟨0, 0⟩
  slots := [
    .mandatory "line" toSize fun line location => { location with line },
    .mandatory "column" toSize fun column location => { location with column }]

end Location

namespace ResponseError

def ofViolation (violation : Violation) : ResponseError where
  message := violation.message
  extensions := [("code", .string violation.code.text), ("observed", .natural violation.observed),
    ("limit", .natural violation.limit), ("zentinel", .boolean true)]

def toJson (error : ResponseError) : Json :=
  .object ([("message", .string error.message)] ++
    nonEmptyMember "locations" (error.locations.map Location.toJson) ++
    nonEmptyMember "path" error.path ++
    (if error.extensions.isEmpty then [] else [("extensions", .object error.extensions)]))

def record (origin : Origin) : Record ResponseError where
  title := "ResponseError"
  initial := ⟨"", [], [], []⟩
  slots := [
    .mandatory "message" toText fun message error => { error with message },
    .optional "locations" (Json.toList (Location.record.read origin)) fun locations error =>
      { error with locations },
    .optional "path" toItems fun path error => { error with path },
    .optional "extensions" toMembers fun extensions error => { error with extensions }]

def ofJson (origin : Origin) : Json → Decoded ResponseError := (record origin).read origin

end ResponseError

def errorResponse (violations : List Violation) : Json :=
  .object [("errors",
    .array (violations.map fun violation => (ResponseError.ofViolation violation).toJson))]

end QueryShield
