import DecisionPoint.Telemetry.Pattern

/-!
# Log filters

A filter is a list of directives between commas.  A directive names a target, a span, fields and the
least severity that is let through, such as `service::audit=info` or `[span{field}]=debug`; all but
one of these may be missing.  An event is judged by the most specific directive that is about it.
-/

set_option autoImplicit false

namespace DecisionPoint

/-- How much is let through. -/
inductive Severity where
  | off
  | error
  | warn
  | info
  | debug
  | trace
deriving DecidableEq, Repr, Inhabited

namespace Severity

def all : List Severity :=
  [off, error, warn, info, debug, trace]

def name : Severity → String
  | off => "off"
  | error => "error"
  | warn => "warn"
  | info => "info"
  | debug => "debug"
  | trace => "trace"

def rank : Severity → Nat
  | off => 0
  | error => 1
  | warn => 2
  | info => 3
  | debug => 4
  | trace => 5

def number? (cs : List Char) : Option Nat :=
  let digits := match cs with
    | '+' :: rest => rest
    | cs => cs
  if digits ≠ [] && digits.all Char.isDigit then
    some (digits.foldl (fun value digit => value * 10 + (digit.toNat - 48)) 0)
  else none

/-- Reads a severity: its place, its name in any case, or nothing at all for errors only. -/
def parse (text : String) : Option Severity :=
  let cs := text.toList
  match (number? cs).bind (all[·]?) with
  | some severity => some severity
  | none =>
    if cs = [] then some error
    else all.find? fun severity => severity.name.toList = cs.map Char.toLower

example : parse "INFO" = some info := by decide +kernel
example : parse "+05" = some trace := by decide +kernel
example : parse "loud" = none := by decide +kernel

end Severity

/-- A field that a span must have, perhaps with a value.  Events have no such values, so of a value
only its presence counts. -/
structure FieldMatch where
  name : String
  hasValue : Bool
deriving DecidableEq, Repr, Inhabited

structure Directive where
  target : Option String
  span : Option String
  fields : List FieldMatch
  severity : Severity
deriving DecidableEq, Repr, Inhabited

namespace Directive

def blank : Directive := ⟨none, none, [], .trace⟩

/-! ## Reading -/

/-- Which part of a directive is being read, and where it began. -/
inductive Place where
  | start
  | head (first : Nat)
  | span (first : Nat)
  | field (first : Nat)
  | fieldsDone
  | targetDone
  | severity (first : Nat)
deriving DecidableEq, Repr, Inhabited

/-- The text between two positions in bytes. -/
def piece (bytes : ByteArray) (first last : Nat) : Option String :=
  String.fromUTF8? (bytes.extract first last)

def nonempty (text : String) : Option String :=
  if text.isEmpty then none else some text

/-- Whether a text is a number in digits, with a point and an exponent where needed. -/
def isDecimal (cs : List Char) : Bool :=
  let whole := cs.takeWhile Char.isDigit
  let rest := cs.drop whole.length
  let (fraction, rest) := match rest with
    | '.' :: rest => (rest.takeWhile Char.isDigit, rest.dropWhile Char.isDigit)
    | rest => ([], rest)
  let hasExponent (cs : List Char) : Bool := cs ≠ [] && cs.all Char.isDigit
  (whole ++ fraction) ≠ [] &&
    match rest with
    | [] => true
    | mark :: sign :: digits =>
      (mark = 'e' || mark = 'E') &&
        if sign = '+' || sign = '-' then hasExponent digits else hasExponent (sign :: digits)
    | _ => false

/-- Whether a text is a number, perhaps with a sign; infinity and the value that is none have
names. -/
def isNumber (cs : List Char) : Bool :=
  let unsigned := match cs with
    | '+' :: rest | '-' :: rest => rest
    | cs => cs
  isDecimal unsigned ||
    ["inf", "infinity", "nan"].contains (String.ofList (unsigned.map Char.toLower))

/-- Reads a field: a name and perhaps the value that follows an equals sign, up to the next one.  A
value is a truth value, a number or a pattern. -/
def fieldOf (text : String) : Option FieldMatch :=
  let cs := text.toList
  let name := cs.takeWhile (· ≠ '=')
  let field := FieldMatch.mk (String.ofList name)
  match cs.drop name.length with
  | [] => some (field false)
  | _ :: rest =>
    let value := rest.takeWhile (· ≠ '=')
    if isNumber value || Pattern.isUsable value then some (field true) else none

/-- Reads a character at a position; `bytes` is the whole text of the directive. -/
def step (bytes : ByteArray) (directive : Directive) (place : Place) (position : Nat) (c : Char) :
    Option (Directive × Place) := do
  let next := position + 1
  match place with
  | .start =>
    if c = '[' then some (directive, .span next)
    else if c = '-' || c = ':' || c = '_' || Text.isLetterOrNumber c then
      some (directive, .head position)
    else none
  | .head first =>
    if c = '=' then
      let target ← piece bytes first position
      some ({ directive with target := some target }, .severity next)
    else if c = '[' then
      let target ← piece bytes first position
      some ({ directive with target := some target }, .span next)
    else some (directive, place)
  | .span first =>
    if c = ']' then
      let span ← piece bytes first position
      some ({ directive with span := some span }, .targetDone)
    else if c = '\x7b' then
      let span ← piece bytes first position
      some ({ directive with span := nonempty span }, .field next)
    else some (directive, place)
  | .field first =>
    if c = '\x7d' then
      let field ← fieldOf (← nonempty (← piece bytes first position))
      some ({ directive with fields := directive.fields ++ [field] }, .fieldsDone)
    else some (directive, place)
  | .fieldsDone => if c = ']' then some (directive, .targetDone) else none
  | .targetDone => if c = '=' then some (directive, .severity next) else none
  | .severity _ => some (directive, place)

def scan (bytes : ByteArray) (directive : Directive) (place : Place) (position : Nat) :
    List Char → Option (Directive × Place)
  | [] => some (directive, place)
  | c :: rest => do
    let (directive, place) ← step bytes directive place position c
    scan bytes directive place (position + c.utf8Size) rest

def close (bytes : ByteArray) (directive : Directive) : Place → Option Directive
  | .head first => do
    let text ← piece bytes first bytes.size
    match Severity.parse text with
    | some severity => some { directive with severity := severity }
    | none => some { directive with target := some text }
  | .severity first => do
    let text ← piece bytes first bytes.size
    if text.isEmpty then some directive
    else (Severity.parse text).map fun severity => { directive with severity := severity }
  | .targetDone => some directive
  | _ => none

/-- Reads a directive.  The marks are those of the text without the blanks around it; their
positions are counted from its first character, the pieces between them from the first blank. -/
def parse (text : String) : Option Directive := do
  let bytes := text.toUTF8
  let (directive, place) ← scan bytes .blank .start 0 (Text.trim text.toList)
  close bytes directive place

/-! ## Judging events -/

/-- Whether a directive is about events whatever spans they are in. -/
def isStatic (directive : Directive) : Bool :=
  directive.span.isNone && directive.fields.all fun field => !field.hasValue

/-- Whether a directive is about an event of a target with some fields. -/
def concerns (directive : Directive) (target : String) (fields : List String) : Bool :=
  directive.isStatic && (directive.target.all fun start => start.toList.isPrefixOf target.toList) &&
    directive.fields.all fun field => fields.contains field.name

/-- How specific a directive is: the length of its target, and then the number of its fields. -/
def specificity (directive : Directive) : Nat × Nat :=
  ((directive.target.map fun target => target.utf8ByteSize + 1).getD 0, directive.fields.length)

def isAsSpecificAs (directive other : Directive) : Bool :=
  let (length, count) := directive.specificity
  let (otherLength, otherCount) := other.specificity
  otherLength < length || (otherLength = length && otherCount ≤ count)

end Directive

structure LogFilter where
  directives : List Directive
deriving DecidableEq, Repr, Inhabited

namespace LogFilter

/-- Reads a filter; parts without any character are left out. -/
def parse (text : String) : Option LogFilter :=
  let parts := (text.splitOn ",").filter fun part => !part.isEmpty
  (parts.mapM Directive.parse).map .mk

/-- The directive by which an event is judged; the later of two that are equally specific. -/
def judge? (filter : LogFilter) (target : String) (fields : List String) : Option Directive :=
  (filter.directives.filter fun directive => directive.concerns target fields).foldl
    (fun best directive =>
      match best with
      | some other => some (if directive.isAsSpecificAs other then directive else other)
      | none => some directive)
    none

/-- Whether an event is let through; one that no directive is about is not. -/
def admits (filter : LogFilter) (target : String) (fields : List String) (severity : Severity) :
    Bool :=
  (filter.judge? target fields).any fun directive => severity.rank ≤ directive.severity.rank

end LogFilter

end DecisionPoint
