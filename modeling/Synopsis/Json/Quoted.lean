import Synopsis.Text.Utf8

namespace Synopsis.Json

/-- Only the quote, the backslash and the control characters are escaped. -/
def escapeChar (c : Rune) : List Rune :=
  match c with
  | '"' => ['\\', '"']
  | '\\' => ['\\', '\\']
  | '\n' => ['\\', 'n']
  | '\r' => ['\\', 'r']
  | '\t' => ['\\', 't']
  | '\x0C' => ['\\', 'f']
  | '\x08' => ['\\', 'b']
  | c =>
    if c.toNat < 0x20 then ("\\u" : Text).toList ++ (Utf8.hexDigits 4 c.toNat).toList else [c]

def quotedText (s : Text) : Text :=
  .ofList (.char '"' :: s.toList.flatMap escapeChar ++ [.char '"'])

end Synopsis.Json
