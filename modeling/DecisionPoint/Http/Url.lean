import DecisionPoint.Text.Hex

/-!
# Addresses of web resources

An address is read leniently.  Blanks around it and line ends in it do not count, a backslash
divides like a slash, and segments of one or two points are resolved.  What may not stand in an
address is written by its bytes in hexadecimal.  Only the schemes of the web are known, and hosts
are names or numbers that need no encoding; who is asking is left out.
-/

set_option autoImplicit false

namespace DecisionPoint

/-- An address of a web resource. -/
structure Url where
  isSecure : Bool
  host : List Char
  port : Option Nat
  segments : List (List Char)
  query : Option (List Char)
  fragment : Option (List Char)
deriving DecidableEq, Repr

namespace Url

/-! ## Encoding -/

def encodeByte (byte : UInt8) : List Char :=
  ['%', (Text.hexDigit (byte.toNat / 16)).toUpper, (Text.hexDigit (byte.toNat % 16)).toUpper]

def isPlain (c : Char) : Bool :=
  0x20 < c.toNat && c.toNat < 0x7F

/-- A text in which the characters that do not show, those beyond ASCII and some more are
encoded. -/
def encode (others : List Char) (cs : List Char) : List Char :=
  cs.flatMap fun c =>
    if isPlain c && !others.contains c then [c] else (String.utf8EncodeChar c).flatMap encodeByte

def pathMarks : List Char := ['"', '#', '<', '>', '?', '\x60', '\x7b', '\x7d']

def queryMarks : List Char := ['"', '#', '<', '>', '\'']

def fragmentMarks : List Char := ['"', '<', '>', '\x60']

/-! ## Paths -/

def isDivider (c : Char) : Bool :=
  c = '/' || c = '\\'

def divide (cs : List Char) : List (List Char) :=
  cs.foldr
    (fun c parts =>
      if isDivider c then [] :: parts
      else
        match parts with
        | [] => [[c]]
        | part :: rest => (c :: part) :: rest)
    [[]]

def points? : List Char → Option Nat
  | [] => some 0
  | '.' :: rest => (points? rest).map (· + 1)
  | '%' :: '2' :: 'e' :: rest | '%' :: '2' :: 'E' :: rest => (points? rest).map (· + 1)
  | _ => none

def isDrive : List Char → Bool
  | [letter, mark] => letter.isAlpha && (mark = ':' || mark = '|')
  | _ => false

def leave : List (List Char) → List (List Char)
  | [] => []
  | last :: rest => if isDrive last then last :: rest else rest

/-- Resolves the points among segments that follow some others, the last of those first. -/
def resolve (before : List (List Char)) : List (List Char) → List (List Char)
  | [] => before.reverse
  | segment :: rest =>
    let after :=
      if points? segment = some 1 then before
      else if points? segment = some 2 then leave before
      else segment :: before
    -- A path that ends in points ends in a slash.
    if rest.isEmpty && (points? segment = some 1 || points? segment = some 2) then
      ([] :: after).reverse
    else resolve after rest

/-! ## Reading -/

/-- Drops blanks around an address and line ends in it. -/
def tidy (cs : List Char) : List Char :=
  let isBlank (c : Char) : Bool := c.toNat ≤ 0x20
  ((cs.dropWhile isBlank).reverse.dropWhile isBlank).reverse.filter fun c =>
    c ≠ '\t' && c ≠ '\n' && c ≠ '\r'

def isHostChar (c : Char) : Bool :=
  c.isAlphanum || c = '.' || c = '-' || c = '_'

def spanHost (cs : List Char) : Option (List Char × List Char) :=
  match cs with
  | '[' :: rest =>
    let inner := rest.takeWhile (· ≠ ']')
    match rest.drop inner.length with
    | ']' :: tail => some ('[' :: (inner.map Char.toLower ++ [']']), tail)
    | _ => none
  | cs =>
    let host := cs.takeWhile isHostChar
    if host.isEmpty then none else some (host.map Char.toLower, cs.drop host.length)

/-- Reads what follows the host: a port that differs from that of the scheme, or nothing. -/
def port? (usual : Nat) (cs : List Char) : Option (Option Nat) :=
  match cs with
  | [] => some none
  | ':' :: digits =>
    let value := digits.foldl (fun n c => 10 * n + (c.toNat - 48)) 0
    if !digits.all Char.isDigit || UInt16.size ≤ value then none
    else some (if digits.isEmpty || value = usual then none else some value)
  | _ => none

def parseRest (isSecure : Bool) (cs : List Char) : Option Url := do
  let ends (c : Char) : Bool := c = '?' || c = '#'
  let cs := cs.dropWhile isDivider
  let authority := cs.takeWhile fun c => !isDivider c && !ends c
  let cs := cs.drop authority.length
  let (host, tail) ← spanHost (authority.reverse.takeWhile (· ≠ '@')).reverse
  let port ← port? (if isSecure then 443 else 80) tail
  let path := cs.takeWhile fun c => !ends c
  let cs := cs.drop path.length
  let segments := resolve [] (divide (path.drop 1))
  let query := cs.takeWhile (· ≠ '#')
  let fragment := cs.drop query.length
  some
    { isSecure, host, port
      segments := segments.map (encode pathMarks)
      query := if query.isEmpty then none else some (encode queryMarks (query.drop 1))
      fragment := if fragment.isEmpty then none else some (encode fragmentMarks (fragment.drop 1)) }

def parse (text : String) : Option Url :=
  let cs := tidy text.toList
  let scheme := cs.takeWhile (· ≠ ':')
  let rest := cs.drop (scheme.length + 1)
  match String.ofList (scheme.map Char.toLower) with
  | "http" => parseRest false rest
  | "https" => parseRest true rest
  | _ => none

/-! ## Writing -/

def marked (mark : Char) : Option (List Char) → List Char
  | none => []
  | some part => mark :: part

def text (url : Url) : String :=
  let scheme := if url.isSecure then "https://" else "http://"
  let port := marked ':' (url.port.map (Nat.toDigits 10))
  let path := url.segments.flatMap ('/' :: ·)
  String.ofList
    (scheme.toList ++ url.host ++ port ++ path ++ marked '?' url.query ++ marked '#' url.fragment)

example : (parse "http://h/a/../b c").map text = some "http://h/b%20c" := by decide +kernel
example : (parse "HTTP://H:80?q").map text = some "http://h/?q" := by decide +kernel
example : parse "http://h:x/" = none := by decide +kernel

end Url

end DecisionPoint
