import GuardedRecords.Web.Message

namespace GuardedRecords

/-- Whether a text is a number up to 255 in decimal digits, without a zero in front. -/
def isOctet (cs : List Char) : Bool :=
  cs.all isAsciiDigit && (cs == ['0'] || !cs.isEmpty && cs.head? != some '0') &&
    decimalNumber cs ≤ 255

/-- Whether a text is a network address of four numbers with points between them. -/
def isShortAddress (cs : List Char) : Bool :=
  let octets := pieces '.' cs
  octets.length == 4 && octets.all isOctet

/-- Whether a text is a group of up to four hexadecimal digits. -/
def isGroup (cs : List Char) : Bool :=
  !cs.isEmpty && cs.length ≤ 4 && cs.all fun c => (hexValue? c).isSome

/-- The groups of a network address with colons between them; a short address at the end stands for
two of them. -/
def addressGroups (cs : List Char) : List (List Char) :=
  let groups := pieces ':' cs
  match groups.getLast? with
  | some last => if isShortAddress last then groups.dropLast ++ [['0'], ['0']] else groups
  | none => groups

/-- How many groups stand on one side of a gap, which may be none. -/
def sideSize? (side : List (List Char)) : Option Nat :=
  if side = [[]] then some 0 else if side.all isGroup then some side.length else none

/-- Whether groups make up an address: eight of them, or fewer around a single gap. -/
def isFullAddress (groups : List (List Char)) : Bool :=
  let inner := groups.tail.dropLast
  match inner.countP List.isEmpty with
  | 0 => groups.length == 8 && groups.all isGroup
  | 1 =>
    let gap := 1 + (inner.takeWhile fun group => !group.isEmpty).length
    match sideSize? (groups.take gap), sideSize? (groups.drop (gap + 1)) with
    | some before, some after => before + after ≤ 7
    | _, _ => false
  | _ => false

/-- Whether a text is a network address of hexadecimal groups, perhaps with a zone behind a percent
sign. -/
def isLongAddress (cs : List Char) : Bool :=
  let (address, zone) := cut '%' cs
  (!cs.contains '%' || !zone.isEmpty && !zone.contains '%') && isFullAddress (addressGroups address)

/-- Whether a text is an address of a later version: `v`, the version in hexadecimal digits, and
something behind a point. -/
def isFutureAddress : List Char → Bool
  | 'v' :: rest =>
    let (version, address) := rest.span fun c => (hexValue? c).isSome
    !version.isEmpty && address.head? == some '.' && 1 < address.length
  | _ => false

/-- What is wrong with the host that a request names. -/
inductive HostFault
  | unmatchedBracket
  | badFutureAddress
  | shortAddress
  | noAddress (host : String)
  deriving DecidableEq

def HostFault.message : HostFault → String
  | .unmatchedBracket => "Invalid IPv6 URL"
  | .badFutureAddress => "IPvFuture address is invalid"
  | .shortAddress => "An IPv4 address cannot be in brackets"
  | .noAddress host => quoted host ++ " does not appear to be an IPv4 or IPv6 address"

/-- The fault of what stands in brackets, where only long addresses belong. -/
def bracketFault? (cs : List Char) : Option HostFault :=
  if cs.head? = some 'v' then if isFutureAddress cs then none else some .badFutureAddress
  else if isShortAddress cs then some .shortAddress
  else if isLongAddress cs then none
  else some (.noAddress (String.ofList cs))

/-- The fault of a host, if it has one. Characters of Latin-1 need no check beyond that of the
brackets: none of them stands for a sign that ends a host. -/
def hostFault? (host : List Char) : Option HostFault :=
  match host.contains '[', host.contains ']' with
  | false, false => none
  | true, true => bracketFault? (cut ']' (cut '[' host).2).1
  | _, _ => some .unmatchedBracket

/-- The part of the address of a request that names the host. -/
def WebRequest.hostPart (request : WebRequest) : List Char :=
  let named := ((request.header? "host").getD "" ++ request.path).toList
  (named.filter fun c => c ∉ ['\t', '\r', '\n']).takeWhile fun c => c ∉ ['/', '?', '#']

/-- Why the address of a request cannot be told. -/
inductive AddressFault
  | query (fault : Utf8Fault)
  | host (fault : HostFault)

/-- The query of a request as it stands in its address, if that address can be told: the query has
to be UTF-8, and the host has to be well formed. -/
def WebRequest.addressedQuery (request : WebRequest) : Except AddressFault (List Char) := do
  let query ← (decodeUtf8 request.query).mapError .query
  match hostFault? request.hostPart with
  | some fault => .error (.host fault)
  | none => .ok query

end GuardedRecords
