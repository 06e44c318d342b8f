import PredictionJobs.Service.Exchange
import PredictionJobs.Service.Host

/-! # Addresses of requests

An address is a scheme, an authority with a host, and a target on that host; a fragment counts for
nothing. What is no address cannot be sent a request. Authorities are ASCII, while targets may hold
other characters too.
-/

namespace PredictionJobs.Service

inductive AddressFault where
  | tooLong
  | empty
  | character
  | authority
  | format
  deriving DecidableEq, Repr

def AddressFault.message : AddressFault → String
  | .tooLong => "uri too long"
  | .empty => "empty string"
  | .character => "invalid uri character"
  | .authority => "invalid authority"
  | .format => "invalid format"

namespace Address

/-- The greatest number of bytes of an address. -/
def maxBytes : Nat := 65534

/-- The greatest number of colons in a user, or in what stands behind it. -/
def maxColons : Nat := 8

/-! ### Authorities -/

/-- Characters of an authority, besides the percent sign. -/
private def isAuthorityCharacter (c : Char) : Bool :=
  c.isAlphanum || "!$&'()*+,-.:;=@[]_~".toList.contains c

/-- What has been seen of an authority. A user before an at sign may hold colons and percent signs,
and a host between brackets colons. -/
private structure Seen where
  colons : Nat
  isOpened : Bool
  isClosed : Bool
  hasPercent : Bool
  endsInAt : Bool

private def Seen.add (seen : Seen) (c : Char) : Except AddressFault Seen :=
  let seen := { seen with endsInAt := c = '@' }
  match c with
  | ':' =>
    if maxColons ≤ seen.colons then .error .authority
    else .ok { seen with colons := seen.colons + 1 }
  | '[' =>
    if seen.hasPercent || seen.isOpened then .error .authority
    else .ok { seen with isOpened := true }
  | ']' =>
    if !seen.isOpened || seen.isClosed then .error .authority
    else .ok { seen with isClosed := true, colons := 0, hasPercent := false }
  | '@' => .ok { seen with colons := 0, hasPercent := false }
  | '%' => .ok { seen with hasPercent := true }
  | c => if isAuthorityCharacter c then .ok seen else .error .character

private def authorityFault? (cs : List Char) : Option AddressFault :=
  match cs.foldlM Seen.add ⟨0, false, false, false, false⟩ with
  | .error fault => some fault
  | .ok seen =>
    if seen.isOpened != seen.isClosed || 1 < seen.colons || seen.endsInAt || seen.hasPercent then
      some .authority
    else none

private def endsAuthority (c : Char) : Bool := c = '/' || c = '?' || c = '#'

/-! ### Targets -/

/-- Characters of a path: no blanks, angle brackets, controls or backquotes. -/
private def isPathCharacter (c : Char) : Bool :=
  0x20 < c.toNat && c != '<' && c != '>' && c != '\x60'

/-- Characters of a query: backquotes too, but no double quotes. -/
private def isQueryCharacter (c : Char) : Bool :=
  0x20 < c.toNat && c != '"' && c != '<' && c != '>'

private def targetFault? (cs : List Char) : Option AddressFault :=
  let path := cs.takeWhile fun c => c ≠ '?' && c ≠ '#'
  let query := match cs.dropWhile fun c => c ≠ '?' && c ≠ '#' with
    | '?' :: rest => rest.takeWhile (· ≠ '#')
    | _ => []
  if path.all isPathCharacter && query.all isQueryCharacter then none else some .character

/-! ### Addresses -/

private def behindScheme? (cs : List Char) : Option (List Char) :=
  let lower := cs.map Char.toLower
  if "http://".toList.isPrefixOf lower then some (cs.drop 7)
  else if "https://".toList.isPrefixOf lower then some (cs.drop 8)
  else none

def fault? (url : String) : Option AddressFault :=
  let cs := url.toList
  if maxBytes < url.utf8ByteSize then some .tooLong
  else if cs.isEmpty then some .empty
  else
    let behind := (behindScheme? cs).getD cs
    let authority := behind.takeWhile (!endsAuthority ·)
    let target := behind.dropWhile (!endsAuthority ·)
    (authorityFault? authority).or <|
      if (behindScheme? cs).isNone || authority.isEmpty then some .format
      else targetFault? target

private def hostOf (authority : List Char) : List Char :=
  let cs := (authority.reverse.takeWhile (· ≠ '@')).reverse
  if cs.head? = some '[' then cs.takeWhile (· ≠ ']') ++ [']'] else cs.takeWhile (· ≠ ':')

def host (url : String) : List Char :=
  hostOf (((behindScheme? url.toList).getD []).takeWhile (!endsAuthority ·))

end Address

/-- The reply on a machine that no network connects to others. -/
def isolatedReply (request : Request) : Reply :=
  .failed <| match Address.fault? request.url with
    | some fault => s!"http: {fault.message}"
    | none => "io: " ++ (Host.obstacle (Address.host request.url)).message

end PredictionJobs.Service
