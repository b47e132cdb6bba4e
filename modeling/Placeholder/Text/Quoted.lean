import Placeholder.Text.Basic
import Placeholder.Text.Hidden

namespace Placeholder.Text

def hex (n : Nat) : Text := Nat.toDigits 16 n

def escaped (c : Char) : Text :=
  if c = '\x00' then ['\\', '0']
  else if c = '\t' then ['\\', 't']
  else if c = '\n' then ['\\', 'n']
  else if c = '\r' then ['\\', 'r']
  else if c = '"' then ['\\', '"']
  else if c = '\\' then ['\\', '\\']
  else if Hidden.holds c.toNat then '\\' :: 'u' :: '{' :: (hex c.toNat ++ ['}'])
  else [c]

def quoted (s : Text) : Text := '"' :: (s.flatMap escaped ++ ['"'])

end Placeholder.Text
