/-!
# Method names

A client writes the name of a method in camel case, with slashes between its parts.  The server
knows its handlers by names in lower case: a slash is written as two underscores, a dollar sign is
dropped, and an underscore stands before each word that begins with a capital.

Main definition: `Rpc.Method.plain`.
-/

namespace LangServer.Rpc.Method

/-- Slashes as two underscores and no dollar signs. -/
def separate (s : List Char) : List Char :=
  s.flatMap fun c => if c = '/' then ['_', '_'] else if c = '$' then [] else [c]

/-- How many small letters follow a capital at the start. -/
def capitalWord : List Char → Nat
  | [] => 0
  | c :: rest => if c.isUpper then (rest.takeWhile Char.isLower).length else 0

/-- Sets an underscore before each word of a capital and small letters that has a character of its
own line before it.  A word already set apart has `skip` characters left. -/
def breakWords : Nat → List Char → List Char
  | _, [] => []
  | skip + 1, c :: rest => c :: breakWords skip rest
  | 0, c :: rest =>
    if c != '\n' && 0 < capitalWord rest then
      c :: '_' :: breakWords (capitalWord rest + 1) rest
    else c :: breakWords 0 rest

/-- Sets an underscore between a small letter or digit and a capital. -/
def breakCapitals : List Char → List Char
  | [] => []
  | [c] => [c]
  | c :: d :: rest =>
    if (c.isLower || c.isDigit) && d.isUpper then c :: '_' :: breakCapitals (d :: rest)
    else c :: breakCapitals (d :: rest)

/-- The small letter of a capital, as far as it is a basic one: that is `k` for the Kelvin sign. -/
def small (c : Char) : Char :=
  if c = '\u212a' then 'k' else c.toLower

/-- The plain form of a method's name. -/
def plain (s : List Char) : List Char :=
  (breakCapitals (breakWords 0 (separate s))).map small

end LangServer.Rpc.Method
