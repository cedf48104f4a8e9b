import QueryShield.Guard.Builtin
import QueryShield.Policy.Resolution

namespace QueryShield

structure Protection where
  validators : List Guard
  hooks : List Guard

namespace Protection

def ofGuards (guards : List Guard) : Protection where
  validators := guards.filter fun guard => guard.isEnabled && guard.validates
  hooks := guards.filter fun guard => guard.isEnabled && guard.masksErrors

def allowsBatches (_ : Protection) : Bool := false

def showsDebugDetails (_ : Protection) : Bool := false

/-- The rejections in order, up to the first one that makes the later checks pointless. -/
def rejections (document : Document) : List Guard → List Violation
  | [] => []
  | guard :: rest =>
    match guard.evaluate document with
    | none => rejections document rest
    | some violation =>
      if guard.shortCircuits then [violation] else violation :: rejections document rest

def validate (protection : Protection) (document : Document) : List Violation :=
  rejections document protection.validators

def checkBatch (protection : Protection) (operations : UInt64) : Option Violation :=
  if 1 < operations ∧ !protection.allowsBatches then some (.batch operations) else none

def debugExtensions : List String := ["stacktrace", "exception"]

def dropDebugDetails (error : ResponseError) : ResponseError :=
  { error with
    extensions := error.extensions.filter fun entry => !debugExtensions.contains entry.1 }

def maskError (protection : Protection) (error : ResponseError) : ResponseError :=
  let masked := protection.hooks.foldl (fun error hook => hook.maskError error) error
  if protection.showsDebugDetails then masked else dropDebugDetails masked

def maskErrors (protection : Protection) (errors : List ResponseError) : List ResponseError :=
  errors.map protection.maskError

end Protection

def Policy.checkedGuards (policy : Policy) : Except PolicyError (List Guard) :=
  policy.checked.map Policy.guards

def Policy.protection (policy : Policy) : Except PolicyError Protection :=
  policy.checkedGuards.map .ofGuards

/-- Guards of a host come behind the built-in ones. -/
def Policy.protectionWith (policy : Policy) (hosts : List Guard) : Except PolicyError Protection :=
  policy.checkedGuards.map fun guards => .ofGuards (guards ++ hosts)

end QueryShield
