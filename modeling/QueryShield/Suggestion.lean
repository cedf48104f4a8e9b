namespace QueryShield.Suggestion

def phrase : List Char := "Did you mean".toList

def occursIn : List Char → Bool
  | [] => false
  | c :: rest => phrase.isPrefixOf (c :: rest) || occursIn rest

/-- Writes the mask where a suggestion begins and skips to the question mark that ends it; the
phrase has none itself. -/
def replaceFrom (mask : List Char) (inside : Bool) : List Char → List Char
  | [] => []
  | c :: rest =>
    if inside then replaceFrom mask (c != '?') rest
    else if phrase.isPrefixOf (c :: rest) then mask ++ replaceFrom mask true rest
    else c :: replaceFrom mask false rest

def replace (mask text : List Char) : List Char := replaceFrom mask false text

/-- The message with the mask in it, or nothing when it has no suggestions and stays as it is. -/
def masked? (mask message : String) : Option String :=
  if occursIn message.toList then some (String.ofList (replace mask.toList message.toList))
  else none

def mask (mask message : String) : String := (masked? mask message).getD message

end QueryShield.Suggestion
