import ShopQuery.Text.Visible

/-!
# Quoted text

A text in quotes in which every character can be told apart: quotes, backslashes and four controls
are written with a backslash, and hidden characters by their hexadecimal number in braces.
-/

namespace ShopQuery.Quoted

def escape (c : Char) : List Char :=
  match c with
  | '"' => ['\\', '"']
  | '\\' => ['\\', '\\']
  | '\n' => ['\\', 'n']
  | '\r' => ['\\', 'r']
  | '\t' => ['\\', 't']
  | '\x00' => ['\\', '0']
  | c =>
    if isVisible c then [c]
    else '\\' :: 'u' :: '\x7b' :: (Nat.toDigits 16 c.toNat ++ ['\x7d'])

def quote (text : String) : String :=
  String.ofList ('"' :: (text.toList.flatMap escape ++ ['"']))

end ShopQuery.Quoted
