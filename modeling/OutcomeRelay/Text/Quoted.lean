import OutcomeRelay.Text.CharacterClass

set_option autoImplicit false

namespace OutcomeRelay.Text

def codePoint (c : Char) : List Char :=
  ['\\', 'u', '\x7b'] ++ Nat.toDigits 16 c.toNat ++ ['\x7d']

def shown (c : Char) : List Char :=
  if c.toNat = 0 then ['\\', '0']
  else if c = '\t' then ['\\', 't']
  else if c = '\r' then ['\\', 'r']
  else if c = '\n' then ['\\', 'n']
  else if c = '"' then ['\\', '"']
  else if c = '\\' then ['\\', '\\']
  else if isJoining c then codePoint c
  else if isPrintable c then [c]
  else codePoint c

/-- What would be invisible or would join a neighbour is shown by its code point. -/
def quoted (s : String) : String := String.ofList ('"' :: (s.toList.flatMap shown ++ ['"']))

end OutcomeRelay.Text
