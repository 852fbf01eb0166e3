import DecisionPoint.Json.Basic

/-!
# Tables in the making

A document is put together from its lines.  What may still be added to a table depends on how it
came to be: a table under a header of its own takes nothing from a dotted key elsewhere, a table
that was only named on the way to another header may still get its own, and one that a dotted key
made takes further dotted keys but no header.
-/

set_option autoImplicit false

namespace DecisionPoint.Toml

inductive TableForm where
  | explicit
  | implied
  | dotted
deriving DecidableEq, Repr, Inhabited

/-- What a key of an unfinished document holds. -/
inductive Item where
  | value (content : Json)
  | table (form : TableForm) (members : List (String × Item))
  | tables (elements : List (List (String × Item)))
deriving Inhabited

/-- The keys of a table with what they hold, in order. -/
abbrev Members : Type := List (String × Item)

def replace (key : String) (item : Item) (members : Members) : Members :=
  members.map fun member => if member.1 = key then (key, item) else member

/-- Changes the table at a path, making the tables on the way that are not there.  The way leads
into the last of several tables under one name, and not into values; a dotted way does not lead
into tables with headers of their own. -/
def within {β : Type} (dotted : Bool) (change : TableForm → Members → Option (Members × β)) :
    List String → TableForm → Members → Option (Members × β)
  | [], form, members => change form members
  | key :: path, _, members =>
    match members.lookup key with
    | none =>
      let form := if dotted then TableForm.dotted else .implied
      (within dotted change path form []).map fun (inner, result) =>
        (members ++ [(key, .table form inner)], result)
    | some (.value _) => none
    | some (.table form inner) =>
      if dotted && form = .explicit then none
      else
        (within dotted change path form inner).map fun (inner, result) =>
          (replace key (.table form inner) members, result)
    | some (.tables elements) =>
      match elements.getLast? with
      | none => none
      | some last =>
        (within dotted change path .explicit last).map fun (last, result) =>
          (replace key (.tables (elements.dropLast ++ [last])) members, result)

/-- Gives a key a value.  The path before the key is dotted unless it is empty, and so has to be the
table; no key has two values. -/
def assign (path : List String) (key : String) (content : Json) (members : Members) :
    Option Members :=
  let change (form : TableForm) (members : Members) : Option (Members × Unit) :=
    if decide (form = .dotted) = path.isEmpty then none
    else if (members.lookup key).isSome then none
    else some (members ++ [(key, .value content)], ())
  (within true change path .explicit members).map Prod.fst

mutual

def Item.toJson : Item → Json
  | .value content => content
  | .table _ members => .object (membersToJson members)
  | .tables elements => .rows (elementsToJson elements)

def membersToJson : List (String × Item) → List (String × Json)
  | [] => []
  | (key, item) :: rest => (key, item.toJson) :: membersToJson rest

def elementsToJson : List (List (String × Item)) → List Json
  | [] => []
  | members :: rest => .object (membersToJson members) :: elementsToJson rest

end

structure Header where
  parents : List String
  key : String
  isElement : Bool
deriving DecidableEq, Repr, Inhabited

/-- A document of which some lines were read. -/
structure Draft where
  root : Members
  /-- The header of the table that the next lines belong to; none before the first header. -/
  header : Option Header
  members : Members
deriving Inhabited

namespace Draft

def blank : Draft := ⟨[], none, []⟩

/-- Puts the table of the last header into its place. -/
def close (draft : Draft) : Option Members :=
  match draft.header with
  | none => some draft.members
  | some header =>
    let change (_ : TableForm) (members : Members) : Option (Members × Unit) :=
      if header.isElement then
        match members.lookup header.key with
        | some (.tables elements) =>
          some (replace header.key (.tables (elements ++ [draft.members])) members, ())
        | _ => none
      else some (members ++ [(header.key, .table .explicit draft.members)], ())
    (within false change header.parents .explicit draft.root).map Prod.fst

/-- Begins the table of a header.  One that was only named on the way to others goes on with what it
holds; any other must be new, except among tables in double brackets. -/
def begin (draft : Draft) (header : Header) : Option Draft := do
  let root ← draft.close
  let change (_ : TableForm) (members : Members) : Option (Members × Members) :=
    match header.isElement, members.lookup header.key with
    | true, none => some (members ++ [(header.key, .tables [])], [])
    | true, some (.tables _) => some (members, [])
    | false, none => some (members, [])
    | false, some (.table .implied inner) =>
      some (members.filter fun member => member.1 ≠ header.key, inner)
    | _, _ => none
  let (root, inner) ← within false change header.parents .explicit root
  some ⟨root, some header, inner⟩

def add (draft : Draft) (path : List String) (key : String) (content : Json) : Option Draft :=
  (assign path key content draft.members).map fun members => { draft with members := members }

def finish (draft : Draft) : Option Json :=
  draft.close.map fun root => .object (membersToJson root)

end Draft

end DecisionPoint.Toml
