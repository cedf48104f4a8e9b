import Mathlib.Data.List.Nodup
import QueryShield.Proofs.ErrorResponses
import QueryShield.Proofs.JsonPrinting

namespace QueryShield

open Json

def Violation.shown (violation : Violation) : Json :=
  .object [("extensions", .object [("code", .string violation.code.text),
      ("limit", .natural violation.limit), ("observed", .natural violation.observed),
      ("zentinel", .boolean true)]),
    ("message", .string violation.message)]

end QueryShield
