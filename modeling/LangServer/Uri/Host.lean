import LangServer.Text.Quoted
import LangServer.Fault

/-!
# Hosts in brackets

The authority of a URI may name its host as an address between square brackets.  The address is an
IPv6 address, with an optional zone after a percent sign, or one of a future version, which begins
with the letter v.

Main definition: `Host.check`.
-/

namespace LangServer.Uri.Host

/-- The pieces of a text between the occurrences of a character. -/
def splitOn (sep : Char) : List Char → List (List Char)
  | [] => [[]]
  | c :: rest =>
    if c = sep then [] :: splitOn sep rest
    else match splitOn sep rest with
      | [] => [[c]]
      | piece :: pieces => (c :: piece) :: pieces

def isHexDigit (c : Char) : Bool :=
  c.isDigit || ('a' ≤ c && c ≤ 'f') || ('A' ≤ c && c ≤ 'F')

/-! ### IPv4 -/

/-- A decimal octet without superfluous zeros. -/
def isOctet (cs : List Char) : Bool :=
  cs.all Char.isDigit && 0 < cs.length && cs.length ≤ 3 && (cs == ['0'] || cs.head? != some '0') &&
    cs.foldl (fun n c => 10 * n + (c.toNat - 0x30)) 0 ≤ 255

def isIPv4 (cs : List Char) : Bool :=
  let octets := splitOn '.' cs
  octets.length == 4 && octets.all isOctet

/-! ### IPv6 -/

def isGroup (cs : List Char) : Bool :=
  cs.all isHexDigit && 0 < cs.length && cs.length ≤ 4

/-- The groups of an address, an IPv4 address at the end counting as two. -/
def groups? (cs : List Char) : Option (List (List Char)) :=
  let pieces := splitOn ':' cs
  if pieces.length < 3 then none
  else
    let last := pieces.getLast?.getD []
    if last.contains '.' then
      if isIPv4 last then some (pieces.dropLast ++ [['0'], ['0']]) else none
    else some pieces

/-- The positions of the empty groups strictly between the ends. -/
def gaps (groups : List (List Char)) : List Nat :=
  (List.range groups.length).filter fun i =>
    0 < i && i + 1 < groups.length && (groups[i]?.getD []).isEmpty

/-- Groups with one gap: the ends may be empty only beside it, and it stands for at least one
group. -/
def isGapped (groups : List (List Char)) (gap : Nat) : Bool :=
  let high := groups.take gap
  let low := groups.drop (gap + 1)
  let high := if high.head? == some [] then high.drop 1 else high
  let low := if low.getLast? == some [] then low.dropLast else low
  let highFits := (groups.head? != some []) || high.isEmpty
  let lowFits := (groups.getLast? != some []) || low.isEmpty
  highFits && lowFits && high.length + low.length < 8 && high.all isGroup && low.all isGroup

def isGroups (groups : List (List Char)) : Bool :=
  groups.length ≤ 9 &&
    match gaps groups with
    | [] => groups.length == 8 && groups.all isGroup
    | [gap] => isGapped groups gap
    | _ => false

/-- An address, and a zone if there is a percent sign. -/
def isIPv6 (cs : List Char) : Bool :=
  let address := cs.takeWhile (· != '%')
  let zoneFits := match cs.dropWhile (· != '%') with
    | [] => true
    | _ :: zone => !zone.isEmpty && !zone.contains '%'
  zoneFits && (groups? address).any isGroups

/-! ### Addresses of a future version -/

/-- The letter v, hexadecimal digits, a point and at least one character. -/
def isFuture (cs : List Char) : Bool :=
  match cs with
  | 'v' :: rest =>
    !(rest.takeWhile isHexDigit).isEmpty &&
      match rest.dropWhile isHexDigit with
      | '.' :: tail => !tail.isEmpty
      | _ => false
  | _ => false

/-- Refuses a bracketed host that is no address. -/
def check (cs : List Char) : Outcome Unit :=
  if cs.head? = some 'v' then
    if isFuture cs then .ok () else .error (.badValue "IPvFuture address is invalid")
  else if isIPv4 cs then .error (.badValue "An IPv4 address cannot be in brackets")
  else if isIPv6 cs then .ok ()
  else .error (.badValue
    (Text.quoted (String.ofList cs) ++ " does not appear to be an IPv4 or IPv6 address"))

end LangServer.Uri.Host
