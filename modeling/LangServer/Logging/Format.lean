import LangServer.Json.Basic
import LangServer.Text.Numeral
import LangServer.Text.Pattern
import LangServer.Text.Word

/-!
# Formats of log lines

A format is a text with fields, which are written in one of three styles: `%(name)s`, `\x7bname\x7d`
or `$name`.  A format is sound in a style if it has a field in that style and nothing that looks
like a field but is none.

Main definitions: `Style`, `Style.isSound`, `formatIsSound`.
-/

namespace LangServer.Logging

open Text

/-- How fields are marked. -/
inductive Style where
  | percent
  | brace
  | dollar
deriving DecidableEq, Repr

namespace Style

/-- The style with a mark. -/
def ofMark? : Json → Option Style
  | .str "%" => some percent
  | .str "\x7b" => some brace
  | .str "$" => some dollar
  | _ => none

/-! ### Fields behind a percent sign -/

/-- A width or a precision: a star or digits. -/
def width : Pattern := Pattern.orElse (Pattern.char '*') (Pattern.oneOrMore isDigit)

/-- The letters that end a field, of either case. -/
def conversions : String := "diouxefgcrsa%DIOUXEFGCRSAİıſ"

/-- A field behind a percent sign. -/
def percentField : Pattern :=
  Pattern.inOrder [
    Pattern.char '%', Pattern.char '(', Pattern.oneOrMore isWordChar, Pattern.char ')',
    Pattern.anyNumber (Pattern.oneOf "#0+ -"), Pattern.optional width,
    Pattern.optional (Pattern.andThen (Pattern.char '.') width), Pattern.oneOf conversions]

/-! ### Fields in braces -/

/-- A field in braces: its name, its conversion and its specification. -/
structure Field where
  name : List Char
  conversion : Option Char := none
  specification : List Char := []

/-- The specification of a field up to the brace that closes the field, `depth` braces deep. -/
def specification (depth : Nat) : List Char → Option (List Char × List Char)
  | [] => none
  | '\x7b' :: rest => (specification (depth + 1) rest).map fun (s, r) => ('\x7b' :: s, r)
  | '\x7d' :: rest =>
    match depth with
    | 0 => some ([], rest)
    | depth + 1 => (specification depth rest).map fun (s, r) => ('\x7d' :: s, r)
  | c :: rest => (specification depth rest).map fun (s, r) => (c :: s, r)

/-- What ends the name of a field. -/
inductive NameEnd where
  | close
  | conversion
  | specification

/-- The name of a field and what ends it.  What stands in brackets belongs to the name, whatever it
is; `bracket` says whether a bracket is open. -/
def fieldName (bracket : Bool) : List Char → Option (List Char × NameEnd × List Char)
  | [] => none
  | c :: rest =>
    if bracket then
      (fieldName (c != ']') rest).map fun (s, e) => (c :: s, e)
    else if c = '\x7b' then none
    else if c = '\x7d' then some ([], .close, rest)
    else if c = '!' then some ([], .conversion, rest)
    else if c = ':' then some ([], .specification, rest)
    else (fieldName (c == '[') rest).map fun (s, e) => (c :: s, e)

/-- Reads a field behind its opening brace. -/
def field (cs : List Char) : Option (Field × List Char) := do
  let (name, stop, rest) ← fieldName false cs
  match stop with
  | .close => return ({ name }, rest)
  | .specification =>
    let (specification, rest) ← specification 0 rest
    return ({ name, specification }, rest)
  | .conversion =>
    match rest with
    | [] => none
    | c :: '\x7d' :: rest => return ({ name, conversion := some c }, rest)
    | c :: ':' :: rest =>
      let (specification, rest) ← specification 0 rest
      return ({ name, conversion := some c, specification }, rest)
    | _ => none

/-- The fields in braces of a text of at most `limit` characters; a brace that is doubled stands
for itself. -/
def fields (limit : Nat) (cs : List Char) : Option (List Field) :=
  match limit with
  | 0 => some []
  | limit + 1 =>
    match cs with
    | [] => some []
    | '\x7b' :: '\x7b' :: rest => fields limit rest
    | '\x7d' :: '\x7d' :: rest => fields limit rest
    | '\x7d' :: _ => none
    | '\x7b' :: rest => do
      let (f, rest) ← field rest
      return f :: (← fields limit rest)
    | _ :: rest => fields limit rest

/-- A name with attributes and items behind it. -/
def namePattern : Pattern :=
  Pattern.andThen (Pattern.oneOrMore isWordChar)
    (Pattern.anyNumber (Pattern.orElse
      (Pattern.andThen (Pattern.char '.') (Pattern.oneOrMore isWordChar))
      (Pattern.inOrder [Pattern.char '[', Pattern.oneOrMore (· != ']'), Pattern.char ']'])))

/-- A size: digits, or a name in braces. -/
def size : Pattern :=
  Pattern.orElse (Pattern.oneOrMore isDigit)
    (Pattern.inOrder [Pattern.char '\x7b', Pattern.oneOrMore isWordChar, Pattern.char '\x7d'])

/-- The specification of a field: fill and alignment, sign, form, size, grouping, precision and
type. -/
def specificationPattern : Pattern :=
  Pattern.inOrder [
    Pattern.optional (Pattern.andThen (Pattern.optional (Pattern.one (· != '\n')))
      (Pattern.oneOf "<>=^")),
    Pattern.optional (Pattern.oneOf "+ -"), Pattern.optional (Pattern.char '#'),
    Pattern.optional (Pattern.char '0'), Pattern.optional size,
    Pattern.optional (Pattern.oneOf ",_"),
    Pattern.optional (Pattern.andThen (Pattern.char '.') size),
    Pattern.optional (Pattern.oneOf "bcdefgnosx%BCDEFGNOSXſ")]

namespace Field

def isSound (f : Field) : Bool :=
  (f.name.isEmpty || namePattern.fits f.name) &&
    (f.conversion.all fun c => c == '\x00' || "rsa".toList.contains c) &&
    (f.specification.isEmpty || specificationPattern.fits f.specification)

end Field

/-! ### Fields behind a dollar sign -/

def isNameStart (c : Char) : Bool := c.isAlpha || c == '_'

def isNamePart (c : Char) : Bool := isNameStart c || c.isDigit

/-- Whether each dollar sign introduces a field or stands for itself, and whether there is a field;
`found` says whether there has been one. -/
def dollarsSound (found : Bool) : List Char → Bool
  | [] => found
  | '$' :: '$' :: rest => dollarsSound found rest
  | '$' :: '\x7b' :: rest =>
    let name := rest.takeWhile isNamePart
    (name.head?.any isNameStart && (rest.drop name.length).head? == some '\x7d') &&
      dollarsSound true rest
  | '$' :: c :: rest => isNameStart c && dollarsSound true (c :: rest)
  | ['$'] => false
  | _ :: rest => dollarsSound found rest

/-! ### Soundness -/

/-- Whether a format is sound in a style. -/
def isSound : Style → List Char → Bool
  | percent, cs => percentField.findIn cs
  | brace, cs =>
    match fields cs.length cs with
    | none => false
    | some fs => fs.all Field.isSound && fs.any fun f => !f.name.isEmpty
  | dollar, cs => dollarsSound false cs

end Style

/-- Whether a value is a sound format; one that is falsy stands for the default. -/
def formatIsSound (style : Style) (format : Json) : Bool :=
  match format with
  | .str s => s.isEmpty || style.isSound s.toList
  | v => !v.truthy

end LangServer.Logging
