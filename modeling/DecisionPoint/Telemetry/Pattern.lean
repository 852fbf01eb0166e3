import DecisionPoint.Text.Blank
import DecisionPoint.Text.Hex
import DecisionPoint.Text.Letters

/-!
# Patterns for the values of fields

A pattern is a regular expression without look-around and references to groups.  The text of a
pattern stands in a directive, where a closing brace ends the field; so counts and codes in braces
are never complete and are not read.

A pattern that reads well is only usable when it needs no tables of properties of characters.  Then
digits, blanks and words, and case, are those of ASCII: they have to be asked for with `(?-u)`.  But
there a pattern must not match a part of a character.
-/

set_option autoImplicit false

namespace DecisionPoint

/-- Changes of the flags that matter: of case, of tables of properties, and of blanks and comments
that count for nothing. -/
structure FlagChanges where
  caseless : Option Bool
  tables : Option Bool
  spaced : Option Bool
deriving DecidableEq, Repr, Inhabited

inductive CharSet where
  | literal (c : Char)
  | range (first last : Char)
  | shorthand (negated : Bool)
  | named (negated : Bool)
  | bracketed (negated : Bool) (content : CharSet)
  | union (items : List CharSet)
  | compared (left right : CharSet)
deriving Repr, Inhabited

inductive Pattern where
  | literal (c : Char) (isByte : Bool)
  | anyChar
  | edge
  | boundary
  | shorthand (negated : Bool)
  | set (content : CharSet)
  | flags (changes : FlagChanges)
  | repeated (inner : Pattern)
  | group (name : Option String) (changes : FlagChanges) (inner : Pattern)
  | sequence (parts : List Pattern)
  | choice (options : List Pattern)
deriving Repr, Inhabited

namespace CharSet

def unionOf : List CharSet → CharSet
  | [item] => item
  | items => union items

mutual

/-- How deep brackets, unions and comparisons are nested. -/
def depth : CharSet → Nat
  | literal _ | range _ _ | shorthand _ | named _ | union [] => 0
  | bracketed _ content => content.depth + 1
  | union items => depthOfAll items + 1
  | compared left right => max left.depth right.depth + 1

def depthOfAll : List CharSet → Nat
  | [] => 0
  | item :: rest => max item.depth (depthOfAll rest)

end

end CharSet

namespace Pattern

/-! ## Nesting and names -/

mutual

/-- How deep groups, repetitions, sequences, choices and sets are nested. -/
def depth : Pattern → Nat
  | literal _ _ | anyChar | edge | boundary | shorthand _ | flags _ | sequence [] => 0
  | set content => content.depth
  | repeated inner => inner.depth + 1
  | group _ _ inner => inner.depth + 1
  | sequence parts => depthOfAll parts + 1
  | choice options => depthOfAll options + 1

def depthOfAll : List Pattern → Nat
  | [] => 0
  | part :: rest => max part.depth (depthOfAll rest)

end

def maxDepth : Nat := 250

mutual

def names : Pattern → List String
  | repeated inner => inner.names
  | group name _ inner => name.toList ++ inner.names
  | sequence parts => namesOfAll parts
  | choice options => namesOfAll options
  | _ => []

def namesOfAll : List Pattern → List String
  | [] => []
  | part :: rest => part.names ++ namesOfAll rest

end

/-! ## Reading characters -/

/-- The part of a text behind the end of its first line. -/
def afterLine : List Char → List Char
  | [] => []
  | c :: rest => if c = '\n' then rest else afterLine rest

/-- Drops blanks and comments if they count for nothing; `fuel` bounds their number. -/
def skipFrom : Nat → List Char → List Char
  | 0, cs => cs
  | fuel + 1, cs =>
    match Text.trimStart cs with
    | '#' :: rest => skipFrom fuel (afterLine rest)
    | rest => rest

def skip (spaced : Bool) (cs : List Char) : List Char :=
  if spaced then skipFrom (cs.length + 1) cs else cs

/-- What a backslash and the characters after it stand for. -/
inductive Escape where
  | literal (c : Char) (isByte : Bool)
  | shorthand (negated : Bool)
  | edge
  | boundary
deriving DecidableEq, Repr

def charOf? (n : Nat) : Option Char :=
  if n.isValidChar then some (Char.ofNat n) else none

/-- Reads hexadecimal digits, between which blanks may count for nothing. -/
def spanCode (spaced : Bool) : Nat → Nat → List Char → Option (Nat × List Char)
  | 0, n, cs => some (n, cs)
  | count + 1, n, cs =>
    match skip spaced cs with
    | [] => none
    | c :: rest => do spanCode spaced count (16 * n + (← Text.hexValue c)) rest

def controls : List (Char × Nat) :=
  [('a', 7), ('f', 12), ('t', 9), ('n', 10), ('r', 13), ('v', 11)]

def spanEscape (spaced : Bool) : List Char → Option (Escape × List Char)
  | [] => none
  | c :: rest =>
    match c with
    | 'x' => do
      let (code, rest) ← spanCode spaced 2 0 rest
      some (.literal (← charOf? code) true, rest)
    | 'u' => do
      let (code, rest) ← spanCode spaced 4 0 rest
      some (.literal (← charOf? code) false, rest)
    | 'U' => do
      let (code, rest) ← spanCode spaced 8 0 rest
      some (.literal (← charOf? code) false, rest)
    | 'd' | 's' | 'w' => some (.shorthand false, rest)
    | 'D' | 'S' | 'W' => some (.shorthand true, rest)
    | 'A' | 'z' => some (.edge, rest)
    | 'b' | 'B' | '<' | '>' => some (.boundary, rest)
    | c =>
      match controls.lookup c with
      | some code => some (.literal (Char.ofNat code) false, rest)
      | none =>
        if c.toNat < 128 && !c.isAlphanum then some (.literal c false, rest) else none

/-! ## Reading sets -/

def classNames : List String :=
  ["alnum", "alpha", "ascii", "blank", "cntrl", "digit", "graph", "lower", "print", "punct",
    "space", "upper", "word", "xdigit"]

/-- Reads a class with a name, after its first bracket; tells whether it is negated. -/
def spanNamed (cs : List Char) : Option (Bool × List Char) :=
  match cs with
  | ':' :: rest =>
    let (negated, rest) := match rest with
      | '^' :: rest => (true, rest)
      | rest => (false, rest)
    let name := rest.takeWhile (· ≠ ':')
    match rest.drop name.length with
    | ':' :: ']' :: tail =>
      if classNames.contains (String.ofList name) then some (negated, tail) else none
    | _ => none
  | _ => none

def spanSetItem (spaced : Bool) : List Char → Option (CharSet × List Char)
  | [] => none
  | '\\' :: rest =>
    match spanEscape spaced rest with
    | some (.literal c _, rest) => some (.literal c, rest)
    | some (.shorthand negated, rest) => some (.shorthand negated, rest)
    | _ => none
  | c :: rest => some (.literal c, rest)

/-- Whether a hyphen before some characters is one itself: before the end of the set and before
another hyphen. -/
def isPlainHyphen (spaced : Bool) (after : List Char) : Bool :=
  let after :=
    if spaced then
      match Text.trimStart after with
      | '#' :: rest => Text.trimStart rest
      | rest => rest
    else after
  after.head? = some ']' || after.head? = some '-'

def spanRange (spaced : Bool) (cs : List Char) : Option (CharSet × List Char) := do
  let (first, rest) ← spanSetItem spaced cs
  match skip spaced rest with
  | [] => none
  | '-' :: after =>
    if isPlainHyphen spaced after then some (first, '-' :: after)
    else
      let (last, rest) ← spanSetItem spaced (skip spaced after)
      match first, last with
      | .literal a, .literal b => if a.toNat ≤ b.toNat then some (.range a b, rest) else none
      | _, _ => none
  | rest => some (first, rest)

/-- Splits off the hyphens at the start of a set, or a closing bracket there, which stand for
themselves. -/
def spanSetStart (spaced : Bool) : Nat → List CharSet → List Char → List CharSet × List Char
  | 0, items, cs => (items, cs)
  | fuel + 1, items, cs =>
    match cs with
    | '-' :: rest => spanSetStart spaced fuel (items ++ [.literal '-']) (skip spaced rest)
    | ']' :: rest => if items.isEmpty then ([.literal ']'], skip spaced rest) else (items, cs)
    | cs => (items, cs)

/-- A set whose earlier part may be compared with its last items. -/
def joinSet (left : Option CharSet) (items : List CharSet) : CharSet :=
  match left with
  | none => .unionOf items
  | some left => .compared left (.unionOf items)

mutual

def spanSet (spaced : Bool) : Nat → List Char → Option (CharSet × List Char)
  | 0, _ => none
  | fuel + 1, cs =>
    let (negated, cs) := match skip spaced cs with
      | '^' :: rest => (true, skip spaced rest)
      | cs => (false, cs)
    let (items, cs) := spanSetStart spaced (cs.length + 1) [] cs
    match spanSetRest spaced fuel none items cs with
    | some (content, rest) => some (.bracketed negated content, rest)
    | none => none

/-- Reads the items of a set that follow some others, and its closing bracket. -/
def spanSetRest (spaced : Bool) :
    Nat → Option CharSet → List CharSet → List Char → Option (CharSet × List Char)
  | 0, _, _, _ => none
  | fuel + 1, left, items, cs =>
    match skip spaced cs with
    | [] => none
    | ']' :: rest => some (joinSet left items, rest)
    | '&' :: '&' :: rest | '-' :: '-' :: rest | '~' :: '~' :: rest =>
      spanSetRest spaced fuel (some (joinSet left items)) [] rest
    | '[' :: rest =>
      match spanNamed rest with
      | some (negated, rest) => spanSetRest spaced fuel left (items ++ [.named negated]) rest
      | none =>
        match spanSet spaced fuel rest with
        | some (inner, rest) => spanSetRest spaced fuel left (items ++ [inner]) rest
        | none => none
    | cs =>
      match spanRange spaced cs with
      | some (item, rest) => spanSetRest spaced fuel left (items ++ [item]) rest
      | none => none

end

/-! ## Reading groups -/

def isNameChar (isFirst : Bool) (c : Char) : Bool :=
  c = '_' ||
    if isFirst then Text.isLetter c
    else c = '.' || c = '[' || c = ']' || Text.isLetterOrNumber c

def spanName (cs : List Char) : Option (String × List Char) :=
  let name := cs.takeWhile (· ≠ '>')
  match name, cs.drop name.length with
  | first :: others, '>' :: rest =>
    if isNameChar true first && others.all (isNameChar false) then
      some (String.ofList name, rest)
    else none
  | _, _ => none

def noChange : FlagChanges := ⟨none, none, none⟩

def flagLetters : List Char := ['i', 'm', 's', 'U', 'u', 'R', 'x']

/-- The flags before a closing parenthesis or a colon.  No flag stands there twice, and a hyphen
comes before those that are switched off. -/
def changesOf (cs : List Char) : Option FlagChanges :=
  let switchedOn := cs.takeWhile (· ≠ '-')
  let switchedOff := cs.drop (switchedOn.length + 1)
  let letters := switchedOn ++ switchedOff
  let state (letter : Char) : Option Bool :=
    if switchedOn.contains letter then some true
    else if switchedOff.contains letter then some false
    else none
  if letters.all flagLetters.contains && letters.Nodup && cs.getLast? ≠ some '-' then
    some ⟨state 'i', state 'u', state 'x'⟩
  else none

inductive Opening where
  | group (name : Option String) (changes : FlagChanges)
  | flags (changes : FlagChanges)
deriving DecidableEq, Repr

def spanOpening (cs : List Char) : Option (Opening × List Char) :=
  match cs with
  | '?' :: 'P' :: '<' :: rest | '?' :: '<' :: rest =>
    (spanName rest).map fun (name, rest) => (.group (some name) noChange, rest)
  | '?' :: rest =>
    let letters := rest.takeWhile fun c => c ≠ ':' && c ≠ ')'
    match rest.drop letters.length with
    | ':' :: tail => (changesOf letters).map fun changes => (.group none changes, tail)
    | ')' :: tail =>
      if letters.isEmpty then none
      else (changesOf letters).map fun changes => (.flags changes, tail)
    | _ => none
  | cs => some (.group none noChange, cs)

/-! ## Reading patterns -/

def sequenceOf : List Pattern → Pattern
  | [part] => part
  | parts => sequence parts

def choiceOf : List Pattern → Pattern
  | [option] => option
  | options => choice options

/-- A pattern that is being read: the options before, and the parts of the last one. -/
structure Draft where
  options : List Pattern
  parts : List Pattern
deriving Inhabited

namespace Draft

def blank : Draft := ⟨[], []⟩

def add (draft : Draft) (part : Pattern) : Draft :=
  { draft with parts := draft.parts ++ [part] }

def divide (draft : Draft) : Draft :=
  ⟨draft.options ++ [sequenceOf draft.parts], []⟩

def repeatLast (draft : Draft) : Option Draft :=
  match draft.parts.getLast? with
  | none | some (.flags _) => none
  | some part => some { draft with parts := draft.parts.dropLast ++ [.repeated part] }

def close (draft : Draft) : Pattern :=
  choiceOf (draft.options ++ [sequenceOf draft.parts])

end Draft

def dropLazyMark : List Char → List Char
  | '?' :: rest => rest
  | cs => cs

def ofEscape : Escape → Pattern
  | .literal c isByte => .literal c isByte
  | .shorthand negated => .shorthand negated
  | .edge => .edge
  | .boundary => .boundary

/-- Reads to the end of a text or to a closing parenthesis, after what is in a draft. -/
def spanItems : Nat → Bool → Draft → List Char → Option (Pattern × List Char)
  | 0, _, _, _ => none
  | fuel + 1, spaced, draft, cs =>
    match skip spaced cs with
    | [] => some (draft.close, [])
    | ')' :: rest => some (draft.close, ')' :: rest)
    | '|' :: rest => spanItems fuel spaced draft.divide rest
    | '?' :: rest | '*' :: rest | '+' :: rest =>
      match draft.repeatLast with
      | none => none
      | some draft => spanItems fuel spaced draft (dropLazyMark rest)
    | '{' :: _ => none
    | '(' :: rest =>
      match spanOpening (skip spaced rest) with
      | none => none
      | some (.flags changes, rest) =>
        spanItems fuel (changes.spaced.getD spaced) (draft.add (.flags changes)) rest
      | some (.group name changes, rest) =>
        match spanItems fuel (changes.spaced.getD spaced) .blank rest with
        | some (inner, ')' :: rest) =>
          spanItems fuel spaced (draft.add (.group name changes inner)) rest
        | _ => none
    | '[' :: rest =>
      match spanSet spaced (rest.length + 1) rest with
      | none => none
      | some (content, rest) => spanItems fuel spaced (draft.add (.set content)) rest
    | '\\' :: rest =>
      match spanEscape spaced rest with
      | none => none
      | some (escape, rest) => spanItems fuel spaced (draft.add (ofEscape escape)) rest
    | '.' :: rest => spanItems fuel spaced (draft.add .anyChar) rest
    | '^' :: rest | '$' :: rest => spanItems fuel spaced (draft.add .edge) rest
    | c :: rest => spanItems fuel spaced (draft.add (.literal c false)) rest

def parse (cs : List Char) : Option Pattern :=
  match spanItems (cs.length + 1) false .blank cs with
  | some (pattern, []) =>
    if pattern.depth ≤ maxDepth && pattern.names.Nodup then some pattern else none
  | _ => none

/-! ## Patterns that can be used -/

/-- How characters are compared: regardless of case, and with tables of properties. -/
structure Mode where
  caseless : Bool
  tables : Bool
deriving DecidableEq, Repr

def Mode.apply (mode : Mode) (changes : FlagChanges) : Mode :=
  ⟨changes.caseless.getD mode.caseless, changes.tables.getD mode.tables⟩

mutual

/-- Whether a set can be used.  Without tables it holds whole characters only when all of them are
ASCII ones, with tables it must need none of them. -/
def usableSet (mode : Mode) : CharSet → Bool
  | .literal c => if mode.tables then !mode.caseless else c.toNat < 128
  | .range _ last => if mode.tables then !mode.caseless else last.toNat < 128
  | .shorthand negated => !mode.tables && !negated
  | .named negated => if mode.tables then !mode.caseless else !negated
  | .bracketed negated content => (mode.tables || !negated) && usableSet mode content
  | .union items => usableSets mode items
  | .compared left right => usableSet mode left && usableSet mode right

def usableSets (mode : Mode) : List CharSet → Bool
  | [] => true
  | item :: rest => usableSet mode item && usableSets mode rest

end

mutual

def modeAfter (mode : Mode) : Pattern → Option Mode
  | literal c isByte =>
    if mode.tables then if mode.caseless then none else some mode
    else if isByte && 128 ≤ c.toNat then none
    else some mode
  | anyChar => if mode.tables then some mode else none
  | edge => some mode
  | boundary => if mode.tables then none else some mode
  | shorthand negated => if mode.tables || negated then none else some mode
  | set content => if usableSet mode content then some mode else none
  | flags changes => some (mode.apply changes)
  | repeated inner => modeAfter mode inner
  | group _ changes inner => (modeAfter (mode.apply changes) inner).map fun _ => mode
  | sequence parts => modeAfterAll mode parts
  | choice options => modeAfterAll mode options

def modeAfterAll (mode : Mode) : List Pattern → Option Mode
  | [] => some mode
  | part :: rest =>
    match modeAfter mode part with
    | some mode => modeAfterAll mode rest
    | none => none

end

def isUsable (cs : List Char) : Bool :=
  (parse cs).any fun pattern => (modeAfter ⟨false, true⟩ pattern).isSome

example : isUsable ['a', '*', '*'] = true := by decide +kernel
example : isUsable ['(', '?', '-', 'u', ')', '\\', 'd'] = true := by decide +kernel
example : isUsable ['\\', 'd'] = false := by decide +kernel

end Pattern

end DecisionPoint
