import DecisionPoint.Configuration.Environment
import DecisionPoint.Text.Blank
import DecisionPoint.Text.Letters

/-!
# Files of variables

A file of variables has a definition on each line; quotes may carry one over several lines.  Values
may hold references to variables.  A variable that is already there is left alone, and what follows
a line that is no definition is not read.
-/

set_option autoImplicit false

namespace DecisionPoint.Dotenv

/-! ## Lines -/

inductive LineState where
  | plain
  | blank
  | escaped
  | quoted (mark : Char)
  | quotedEscaped (mark : Char)
deriving DecidableEq, Repr, Inhabited

def LineState.after (state : LineState) (c : Char) : Option LineState :=
  match state with
  | escaped => some plain
  | quotedEscaped mark => some (quoted mark)
  | quoted mark =>
    some (if c = '\\' then quotedEscaped mark else if c = mark then plain else quoted mark)
  | blank =>
    if c = '#' then none
    else if c = '\\' then some escaped
    else if c = '"' || c = '\'' then some (quoted c)
    else some plain
  | plain =>
    if Text.isBlank c && c ≠ '\n' && c ≠ '\r' then some blank
    else if c = '\\' then some escaped
    else if c = '"' || c = '\'' then some (quoted c)
    else some plain

/-- Reads a physical line: what of it counts, and the state at its end or none after a comment. -/
def scanLine (state : LineState) : List Char → List Char × Option LineState
  | [] => ([], some state)
  | c :: rest =>
    match state.after c with
    | none => ([], none)
    | some state =>
      let (line, final) := scanLine state rest
      (c :: line, final)

def spanLine : List Char → List Char × List Char
  | [] => ([], [])
  | c :: rest =>
    if c = '\n' then (['\n'], rest)
    else
      let (line, after) := spanLine rest
      (c :: line, after)

def dropLineEnd (line : List Char) : List Char :=
  match line.reverse with
  | '\n' :: '\r' :: rest => rest.reverse
  | '\n' :: rest => rest.reverse
  | _ => line

def isComment (line : List Char) : Bool :=
  (Text.trimStart line).head? = some '#'

/-- The logical lines of a text and whether the text ends between two of them.  `begun` is what was
read of an open line. -/
def logicalLines : Nat → List Char → LineState → List Char → List (List Char)
  | 0, _, _, _ => []
  | _ + 1, _, _, [] => []
  | fuel + 1, begun, state, cs =>
    let (line, rest) := spanLine cs
    if isComment (begun ++ line) then [] :: logicalLines fuel [] .plain rest
    else
      match scanLine state line with
      | (kept, none) => (begun ++ kept) :: logicalLines fuel [] .plain rest
      | (_, some .plain) => dropLineEnd (begun ++ line) :: logicalLines fuel [] .plain rest
      | (_, some state) => logicalLines fuel (begun ++ line) state rest

/-! ## Values -/

inductive ValueMode where
  | plain
  | weak
  | strong
  | escaped (weak : Bool)
  | reference (weak : Bool) (name : List Char)
  | braced (weak : Bool) (name : List Char)
  | ending
deriving DecidableEq, Repr, Inhabited

def ValueMode.open (weak : Bool) : ValueMode :=
  if weak then .weak else .plain

def unescape (c : Char) : Option Char :=
  if c = '\\' || c = '\'' || c = '"' || c = '$' || c = ' ' then some c
  else if c = 'n' then some '\n'
  else none

/-- Reads a character of a value where nothing special is under way; `weak` tells whether weak
quotes are open. -/
def readPlain (weak : Bool) (c : Char) : Option Char × ValueMode :=
  if c = '$' then (none, .reference weak [])
  else if c = '\\' then (none, .escaped weak)
  else if c = '"' then (none, .open !weak)
  else if weak then (some c, .weak)
  else if c = '\'' then (none, .strong)
  else if c = ' ' || c = '\t' then (none, .ending)
  else (some c, .plain)

def readValue (lookup : List Char → List Char) : ValueMode → List Char → Option (List Char)
  | .plain, [] => some []
  | .ending, [] => some []
  | .escaped false, [] => some []
  | .reference false name, [] => some (lookup name)
  | _, [] => none
  | mode, c :: rest =>
    match mode with
    | .ending =>
      if c = ' ' || c = '\t' then readValue lookup .ending rest
      else if c = '#' then some []
      else none
    | .escaped weak =>
      match unescape c with
      | none => none
      | some c => (readValue lookup (.open weak) rest).map (c :: ·)
    | .strong =>
      if c = '\'' then readValue lookup .plain rest
      else (readValue lookup .strong rest).map (c :: ·)
    | .reference weak name =>
      if Text.isLetterOrNumber c then readValue lookup (.reference weak (name ++ [c])) rest
      else if c = '\x7b' && name.isEmpty then readValue lookup (.braced weak []) rest
      else if c = '$' then (readValue lookup (.reference weak []) rest).map (lookup name ++ ·)
      else (readValue lookup (.open weak) rest).map (lookup name ++ c :: ·)
    | .braced weak name =>
      if c = '\x7d' then (readValue lookup (.open weak) rest).map (lookup name ++ ·)
      else readValue lookup (.braced weak (name ++ [c])) rest
    | .weak | .plain =>
      let (kept, mode) := readPlain (mode = .weak) c
      (readValue lookup mode rest).map (kept.toList ++ ·)

/-! ## Definitions -/

def spanName (cs : List Char) : Option (List Char × List Char) :=
  let isPart (c : Char) : Bool := c.isAlphanum || c = '_' || c = '.'
  match cs with
  | c :: _ =>
    if c.isAlpha || c = '_' then some (cs.takeWhile isPart, cs.dropWhile isPart) else none
  | [] => none

/-- Splits off the name of a variable and the sign after it.  The word `export` may come before. -/
def spanTarget (cs : List Char) : Option (List Char × List Char) :=
  match spanName cs with
  | none => none
  | some (name, rest) =>
    match Text.trimStart rest with
    | '=' :: rest => some (name, rest)
    | rest =>
      if name = "export".toList then
        match spanName rest with
        | none => none
        | some (name, rest) =>
          match Text.trimStart rest with
          | '=' :: rest => some (name, rest)
          | _ => none
      else none

inductive Line where
  | nothing
  | definition (item : Variable)
  | invalid
deriving DecidableEq, Repr, Inhabited

/-- Reads a line; references are to variables of the environment and then to those that earlier
lines define. -/
def readLine (environment : Environment) (defined : List Variable) (line : List Char) : Line :=
  let lookup (name : List Char) : List Char :=
    let name := String.ofList name
    let earlier := (defined.find? fun item => item.name = name).map Variable.value
    (((environment.valueOf? name).or earlier).getD "").toList
  match Text.trim line with
  | [] => .nothing
  | '#' :: _ => .nothing
  | cs =>
    match spanTarget cs with
    | none => .invalid
    | some (name, rest) =>
      let value :=
        match Text.trimStart rest with
        | [] => some []
        | '#' :: _ => some []
        | value => readValue lookup .plain value
      match value with
      | none => .invalid
      | some value => .definition ⟨String.ofList name, String.ofList value⟩

def defineAll (environment : Environment) (defined : List Variable) :
    List (List Char) → Environment
  | [] => environment
  | line :: rest =>
    match readLine environment defined line with
    | .nothing => defineAll environment defined rest
    | .invalid => environment
    | .definition item => defineAll (environment.defineMissing item) (item :: defined) rest

def load (environment : Environment) (content : String) : Environment :=
  let cs := content.toList
  let cs := if cs.head? = some (Char.ofNat 0xFEFF) then cs.drop 1 else cs
  defineAll environment [] (logicalLines (cs.length + 1) [] .plain cs)

end DecisionPoint.Dotenv
