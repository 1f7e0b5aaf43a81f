import LangServer.Text.Replace
import LangServer.Text.Numeral
import LangServer.Text.Utf8

/-!
# Frames

On the channel a message is a block of header lines, a blank line and a body.  Only the first line
is looked at for the length of the body; without a length the body is all that follows.  Everything
here is in octets.

A length that is no number makes the frame unreadable; then only its first line is taken.

Main definitions: `Frame.read`, `Frame.contentLength`, `Frame.write`.
-/

namespace LangServer.Rpc

/-- What a channel holds next, and what follows it. -/
inductive Frame where
  /-- Nothing: the channel ends, be it within the headers. -/
  | finished
  | message (body rest : List Nat)
  /-- The length is no number. -/
  | unreadable (rest : List Nat)
  /-- The length is more than a machine can count. -/
  | tooLarge
deriving DecidableEq, Repr

namespace Frame

def newline : Nat := 10

def isBlank (octet : Nat) : Bool :=
  [9, 10, 11, 12, 13, 32].contains octet

/-! ### The length -/

/-- What a first line that tells the length begins with. -/
def lengthHeader : List Char := "Content-Length: ".toList

/-- Whether an octet may stand in a number. -/
def inNumber (c : Char) : Bool :=
  c.isDigit || c = '+' || c = '-' || c = '_'

/-- The number that octets write, with blanks around it. -/
def number? (octets : List Nat) : Option Int :=
  let cs := ((octets.dropWhile isBlank).reverse.dropWhile isBlank).reverse.map Char.ofNat
  if cs.all inNumber then Text.readInt? cs else none

/-- The length that a first line tells: none if it tells no length, and a fault if that is no
number. -/
def contentLength (line : List Nat) : Except Unit (Option Int) :=
  let cs := line.map Char.ofNat
  if lengthHeader.isPrefixOf cs then
    let value := line.drop lengthHeader.length
    if Text.occursIn lengthHeader (value.map Char.ofNat) then .error ()
    else match number? value with
      | some n => .ok (some n)
      | none => .error ()
  else .ok none

/-! ### Lines -/

/-- What has been seen of a header line. -/
inductive Line where
  | start
  | blank
  | filled
deriving DecidableEq, Repr

/-- What follows the first blank line, if there is one. -/
def afterBlank : Line → List Nat → Option (List Nat)
  | .blank, [] => some []
  | _, [] => none
  | seen, octet :: rest =>
    if octet = newline then
      if seen = .filled then afterBlank .start rest else some rest
    else if seen = .filled || !isBlank octet then afterBlank .filled rest
    else afterBlank .blank rest

def firstLine (input : List Nat) : List Nat :=
  input.takeWhile fun octet => octet != newline

def afterFirstLine (input : List Nat) : List Nat :=
  (input.dropWhile fun octet => octet != newline).drop 1

/-! ### Reading and writing -/

/-- One more than the largest number of octets that a machine can count. -/
def countLimit : Int := 0x8000000000000000

/-- A body of a given length; without a length, or with a negative one, it is all there is. -/
def ofBody (length : Option Int) (rest : List Nat) : Frame :=
  match length with
  | none => .message rest []
  | some n =>
    if n < -countLimit || countLimit ≤ n then .tooLarge
    else if n < 0 then .message rest []
    else .message (rest.take n.toNat) (rest.drop n.toNat)

/-- The next frame of a channel. -/
def read (input : List Nat) : Frame :=
  if input.isEmpty then .finished
  else match contentLength (firstLine input) with
    | .error () => .unreadable (afterFirstLine input)
    | .ok length =>
      match afterBlank .start input with
      | none => .finished
      | some rest => ofBody length rest

/-- A body with its headers. -/
def write (body : List Char) : List Nat :=
  let octets := Text.Utf8.encode body
  Text.Utf8.encode (lengthHeader ++ (toString octets.length).toList ++
    "\r\nContent-Type: application/vscode-jsonrpc; charset=utf8\r\n\r\n".toList) ++ octets

end Frame

end LangServer.Rpc
