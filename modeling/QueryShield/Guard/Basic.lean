import QueryShield.Document.Basic
import QueryShield.ResponseError

namespace QueryShield

inductive GuardKind where
  | fieldSuggestion
  | characterLimit
  | cost
  | aliases
  | directives
  | depth
  | custom (name : String)
  deriving DecidableEq, Repr

def GuardKind.text : GuardKind → String
  | fieldSuggestion => "field_suggestion"
  | characterLimit => "character_limit"
  | cost => "cost"
  | aliases => "aliases"
  | directives => "directives"
  | depth => "depth"
  | custom name => name

structure Guard where
  kind : GuardKind
  isEnabled : Bool
  evaluate : Document → Option Violation := fun _ => none
  maskError : ResponseError → ResponseError := id
  validates : Bool := true
  masksErrors : Bool := false
  /-- Whether a rejection makes later checks pointless. -/
  shortCircuits : Bool := false

end QueryShield
