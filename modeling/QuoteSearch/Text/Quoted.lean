import QuoteSearch.Text.Unseen

/-!
# Texts quoted in messages

A text that a message cites stands between double quotes. Quotes and backslashes in it carry a
backslash, and characters that would not be seen by themselves are named by their code points.
-/

namespace QuoteSearch.Text

def citedChar (c : Char) : List Char :=
  if c = '"' then ['\\', '"']
  else if c = '\\' then ['\\', '\\']
  else if c = '\n' then ['\\', 'n']
  else if c = '\r' then ['\\', 'r']
  else if c = '\t' then ['\\', 't']
  else if c.toNat = 0 then ['\\', '0']
  else if isUnseen c then
    '\\' :: 'u' :: '\x7b' :: Nat.toDigits 16 c.toNat ++ ['\x7d']
  else [c]

def cited (text : String) : String :=
  String.ofList ('"' :: text.toList.flatMap citedChar ++ ['"'])

end QuoteSearch.Text
