import Checkup.Text.Hexadecimal
import Checkup.Text.Unprintable

/-!
# Quoted text and summaries

`quoted` shows a text between quotes with everything unprintable escaped, by a letter where there is one
and by its hexadecimal number otherwise. A summary shows a record by its name and some of its fields,
with two points for those that are left out, such as secrets.
-/
namespace Checkup.Text

/-- One character between quotes. -/
def quotedChar (c : Char) : List Char :=
  if c = '"' then ['\\', '"']
  else if c = '\\' then ['\\', '\\']
  else if c = '\n' then ['\\', 'n']
  else if c = '\r' then ['\\', 'r']
  else if c = '\t' then ['\\', 't']
  else if c.toNat = 0 then ['\\', '0']
  else if isUnprintable c then '\\' :: 'u' :: '{' :: (hexadecimal c.toNat ++ ['}'])
  else [c]

def quoted (s : String) : String := String.ofList ('"' :: (s.toList.flatMap quotedChar ++ ['"']))

/-- A record with some of its fields; `complete` says that they are all. -/
def summary (name : String) (fields : List (String × String)) (complete : Bool) : String :=
  let shown := fields.map fun f => f.1 ++ ": " ++ f.2
  let parts := if complete then shown else shown ++ [".."]
  name ++ " \x7b " ++ ", ".intercalate parts ++ " \x7d"

end Checkup.Text
