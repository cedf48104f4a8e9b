import QueryShield.Text.Hexadecimal
import QueryShield.Text.Invisible

namespace QueryShield.Text

def shown (c : Char) : String :=
  match c with
  | '\"' => "\\\""
  | '\\' => "\\\\"
  | '\n' => "\\n"
  | '\r' => "\\r"
  | '\t' => "\\t"
  | '\x00' => "\\0"
  | c =>
    if isInvisible c then "\\u\x7b" ++ hexadecimal c.toNat ++ "\x7d" else String.singleton c

def quoted (s : String) : String := s.foldl (fun text c => text ++ shown c) "\"" ++ "\""

end QueryShield.Text
