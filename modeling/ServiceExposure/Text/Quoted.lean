import ServiceExposure.Text.Visible

/-! # Quoted text

Text in messages stands in double quotes, with escapes for what a reader could not see. -/

namespace ServiceExposure.Text

/-- Lower-case hexadecimal digits, no leading zeros. -/
def hex (n : Nat) : String := .ofList (Nat.toDigits 16 n)

def escape (c : Char) : String :=
  if c = '"' then "\\\""
  else if c = '\\' then "\\\\"
  else if c = '\t' then "\\t"
  else if c = '\n' then "\\n"
  else if c = '\r' then "\\r"
  else if c = '\x00' then "\\0"
  else if isVisible c then c.toString
  else "\\u\x7b" ++ hex c.toNat ++ "\x7d"

def quote (s : String) : String :=
  "\"" ++ String.join (s.toList.map escape) ++ "\""

end ServiceExposure.Text
