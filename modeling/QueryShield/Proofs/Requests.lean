import Mathlib
import QueryShield.Main
import QueryShield.Proofs.EncodedNumbers
import QueryShield.Proofs.ResponseTexts
import QueryShield.Proofs.RoundTrip
import QueryShield.Proofs.Verdict

namespace QueryShield

open Json

theorem Policy.checked_of_ofText {read : String → Option Policy} {text : String} {policy : Policy}
    (accepted : Policy.ofText read text = .ok policy) : policy.checked = .ok policy := by
  unfold ofText at accepted
  split at accepted
  · cases accepted
  · exact eq_of_checked accepted ▸ accepted

theorem Policy.checked_default : Policy.checked {} = .ok {} := rfl

namespace CommandLine

/-- A text stands for a value that it is the encoding of, and for what is read from it. -/
inductive Formats.Holds (formats : Formats) (kept : Double → Prop) (text : String) (json : Json) :
    Prop where
  | encoding (sound : json.Sound kept) (written : formats.compact? json = some text)
  | read (parsed : formats.json? text = some json)

section

variable {m : Type → Type} [Monad m]

/-- What a path configures: the default policy when no file is there, and else the policy that the
text of the file is accepted as. -/
inductive Configures (platform : Platform m) (formats : Formats) (path : String) :
    Policy → Prop where
  | default (missing : platform.isThere path = pure false) : Configures platform formats path {}
  | yaml {text : String} {policy : Policy} (there : platform.isThere path = pure true)
      (readable : platform.textOf? path = pure (some text))
      (accepted : Policy.ofText formats.policy? text = .ok policy) :
      Configures platform formats path policy

variable {platform : Platform m} {formats : Formats} {kept : Double → Prop}
  {path content : String} {options : Options} {policy : Policy} {json : Json}
  {documents : List Document}

theorem Configures.checked (configured : Configures platform formats path policy) :
    policy.checked = .ok policy := by
  cases configured with
  | default => exact Policy.checked_default
  | yaml _ _ accepted => exact Policy.checked_of_ofText accepted

variable [LawfulMonad m]

end

end CommandLine

end QueryShield
