import DecisionPoint.Text.Hex

/-!
# Socket addresses

An Internet address of either version and a port.  A version 6 address stands in brackets, perhaps
with a scope; its text leaves out the first of the longest runs of at least two zero groups.
-/

set_option autoImplicit false

namespace DecisionPoint

structure Octets where
  a : UInt8
  b : UInt8
  c : UInt8
  d : UInt8
deriving DecidableEq, Repr, Inhabited

inductive SocketAddress where
  | v4 (host : Octets) (port : UInt16)
  | v6 (host : Vector UInt16 8) (scope : UInt32) (port : UInt16)
deriving DecidableEq, Repr

namespace SocketAddress

/-! ## Reading -/

def digitIn (base : Nat) (c : Char) : Option Nat :=
  (Text.hexValue c).filter (· < base)

/-- A number below a bound, of at most `places` digits if that is given.  `zeros` tells whether
several digits may start with a zero. -/
def spanNumber (base bound : Nat) (places : Option Nat) (zeros : Bool) (cs : List Char) :
    Option (Nat × List Char) :=
  let digits := cs.takeWhile fun c => (digitIn base c).isSome
  let rest := cs.drop digits.length
  let value := digits.foldl (fun n c => base * n + (digitIn base c).getD 0) 0
  if digits.isEmpty then none
  else if places.any (· < digits.length) then none
  else if zeros = false ∧ digits.head? = some '0' ∧ digits.length ≠ 1 then none
  else if value < bound then some (value, rest)
  else none

def spanMark (mark : Char) : List Char → Option (List Char)
  | c :: rest => if c = mark then some rest else none
  | [] => none

def spanOctet (cs : List Char) : Option (UInt8 × List Char) :=
  (spanNumber 10 256 (some 3) false cs).map fun (value, rest) => (.ofNat value, rest)

def spanOctets (cs : List Char) : Option (Octets × List Char) := do
  let (a, rest) ← spanOctet cs
  let rest ← spanMark '.' rest
  let (b, rest) ← spanOctet rest
  let rest ← spanMark '.' rest
  let (c, rest) ← spanOctet rest
  let rest ← spanMark '.' rest
  let (d, rest) ← spanOctet rest
  some (⟨a, b, c, d⟩, rest)

def groupOf (high low : UInt8) : UInt16 :=
  .ofNat (256 * high.toNat + low.toNat)

/-- Up to `limit` groups of a version 6 address, the last two perhaps as a version 4 address;
whether they are.  All but the first group follow a colon. -/
def spanGroups (first : Bool) : Nat → List Char → List UInt16 × Bool × List Char
  | 0, cs => ([], false, cs)
  | limit + 1, cs =>
    match if first then some cs else spanMark ':' cs with
    | none => ([], false, cs)
    | some start =>
      match if limit = 0 then none else spanOctets start with
      | some (host, rest) => ([groupOf host.a host.b, groupOf host.c host.d], true, rest)
      | none =>
        match spanNumber 16 65536 (some 4) true start with
        | none => ([], false, cs)
        | some (value, rest) =>
          let (groups, embedded, rest) := spanGroups false limit rest
          (.ofNat value :: groups, embedded, rest)

def eight (groups : List UInt16) : Option (Vector UInt16 8) :=
  if h : groups.toArray.size = 8 then some ⟨groups.toArray, h⟩ else none

/-- A version 6 address; two colons stand for at least one zero group. -/
def spanHost6 (cs : List Char) : Option (Vector UInt16 8 × List Char) := do
  let (head, embedded, rest) := spanGroups true 8 cs
  if head.length = 8 then (eight head).map (·, rest)
  else if embedded then none
  else
    let rest ← spanMark ':' rest
    let rest ← spanMark ':' rest
    let (tail, _, rest) := spanGroups true (7 - head.length) rest
    let zeros := List.replicate (8 - head.length - tail.length) (0 : UInt16)
    (eight (head ++ zeros ++ tail)).map (·, rest)

def spanPort (cs : List Char) : Option (UInt16 × List Char) := do
  let rest ← spanMark ':' cs
  let (value, rest) ← spanNumber 10 65536 none true rest
  some (.ofNat value, rest)

def spanScope (cs : List Char) : UInt32 × List Char :=
  match (spanMark '%' cs).bind (spanNumber 10 (Nat.pow 2 32) none true) with
  | some (value, rest) => (.ofNat value, rest)
  | none => (0, cs)

def spanV4 (cs : List Char) : Option (SocketAddress × List Char) := do
  let (host, rest) ← spanOctets cs
  let (port, rest) ← spanPort rest
  some (.v4 host port, rest)

def spanV6 (cs : List Char) : Option (SocketAddress × List Char) := do
  let rest ← spanMark '[' cs
  let (host, rest) ← spanHost6 rest
  let (scope, rest) := spanScope rest
  let rest ← spanMark ']' rest
  let (port, rest) ← spanPort rest
  some (.v6 host scope port, rest)

def parse (text : String) : Option SocketAddress :=
  match (spanV4 text.toList).or (spanV6 text.toList) with
  | some (address, []) => some address
  | _ => none

def complaint : String := "invalid socket address syntax"

def port : SocketAddress → UInt16
  | v4 _ port => port
  | v6 _ _ port => port

/-! ## Writing -/

def octetsText (host : Octets) : String :=
  ".".intercalate ([host.a, host.b, host.c, host.d].map fun octet => toString octet.toNat)

def groupsText (groups : List UInt16) : String :=
  ":".intercalate (groups.map fun group => String.ofList (Nat.toDigits 16 group.toNat))

def zeroRun (groups : List UInt16) : Nat :=
  (groups.takeWhile (· = 0)).length

/-- The start and the length of the first of the longest runs of zero groups. -/
def longestRun (groups : List UInt16) : Nat × Nat :=
  (List.range groups.length).foldl (fun best start =>
    let length := zeroRun (groups.drop start)
    if best.2 < length then (start, length) else best) (0, 0)

def mapped : List UInt16 → Option Octets
  | [0, 0, 0, 0, 0, 0xFFFF, high, low] =>
    some ⟨.ofNat (high.toNat / 256), .ofNat (high.toNat % 256), .ofNat (low.toNat / 256),
      .ofNat (low.toNat % 256)⟩
  | _ => none

def host6Text (host : Vector UInt16 8) : String :=
  let groups := host.toList
  match mapped groups with
  | some octets => "::ffff:" ++ octetsText octets
  | none =>
    let (start, length) := longestRun groups
    if 1 < length then
      groupsText (groups.take start) ++ "::" ++ groupsText (groups.drop (start + length))
    else groupsText groups

def text : SocketAddress → String
  | v4 host port => octetsText host ++ ":" ++ toString port.toNat
  | v6 host scope port =>
    let suffix := if scope = 0 then "" else "%" ++ toString scope.toNat
    "[" ++ host6Text host ++ suffix ++ "]:" ++ toString port.toNat

end SocketAddress

end DecisionPoint
