import KernelSymbols.Text.GraphemeExtend
import KernelSymbols.Text.Hexadecimal
import KernelSymbols.Text.Printable

set_option autoImplicit false

namespace KernelSymbols.Text

def escapeChar (c : Char) : Text :=
  if c = '"' || c = '\\' then ['\\', c]
  else if c = '\t' then ['\\', 't']
  else if c = '\r' then ['\\', 'r']
  else if c = '\n' then ['\\', 'n']
  else if c = '\x00' then ['\\', '0']
  else if isCombining c || !isPrintable c then
    '\\' :: 'u' :: '\x7b' :: hexadecimal c.toNat ++ ['\x7d']
  else [c]

def quote (text : Text) : Text := '"' :: text.flatMap escapeChar ++ ['"']

end KernelSymbols.Text
