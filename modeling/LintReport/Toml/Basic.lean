import LintReport.Toml.Invalid

namespace LintReport

inductive Toml.Origin
  -- By a header of its own, or as the document.
  | header
  -- As a step on the way to a header.
  | implied
  -- As a step of a dotted key.
  | dotted
  -- By braces, which nothing can be added to.
  | inline
deriving DecidableEq, Repr

inductive Toml
  | string (s : String)
  | integer (i : Int)
  | float (x : Float)
  | boolean (b : Bool)
  | moment
  | array (items : List Toml)
  | table (origin : Toml.Origin) (entries : List (String × Toml))
  -- The tables that were opened one after the other under the same header.
  | tables (elements : List (List (String × Toml)))

namespace Toml

def kind : Toml → Kind
  | string _        => .string
  | integer _       => .integer
  | float _         => .float
  | boolean _       => .boolean
  | moment          => .moment
  | array _         => .array
  | table .inline _ => .braces
  | table _ _       => .table
  | tables _        => .tables

abbrev Entries := List (String × Toml)

namespace Entries

def find? (key : String) (es : Entries) : Option Toml :=
  (List.find? (·.1 = key) es).map (·.2)

def erase (key : String) (es : Entries) : Entries :=
  es.filter (·.1 ≠ key)

def alter {ε : Type} (key : String) (f : Option Toml → Except ε Toml) : Entries → Except ε Entries
  | []           => (f none).map fun v => [(key, v)]
  | (k, v) :: es =>
    if k = key then
      (f (some v)).map fun v => (k, v) :: es
    else
      (alter key f es).map ((k, v) :: ·)

end Entries

def onLast {α ε : Type} (f : α → Except ε α) : List α → Except ε (List α)
  | []      => .ok []
  | [x]     => (f x).map ([·])
  | x :: xs => (onLast f xs).map (x :: ·)

inductive Route
  | header
  | key
  | braces
deriving DecidableEq, Repr

namespace Route

def origin : Route → Origin
  | header       => .implied
  | key | braces => .dotted

def enter (route : Route) (path : List String) (key : String) : Origin → Except Invalid Unit
  | .implied
  | .dotted  => .ok ()
  | .header  => if route = header then .ok () else .error (.duplicate key none)
  | .inline  => .error <| if route = braces then .duplicate key none else .closed path .braces

end Route

def under (route : Route) (f : Origin → Entries → Except Invalid Entries) :
    (walked path : List String) → Origin → Entries → Except Invalid Entries
  | _,      [],          o, es => f o es
  | walked, key :: path, _, es => es.alter key fun
    | none                =>
      (under route f (walked ++ [key]) path route.origin []).map (table route.origin)
    | some (table o sub)  => do
      route.enter (walked ++ [key]) key o
      (under route f (walked ++ [key]) path o sub).map (table o)
    | some (tables elems) => (onLast (under route f (walked ++ [key]) path .header) elems).map tables
    | some v              => .error <| .closed (walked ++ [key]) v.kind

-- Defines the last part of a key. If there are others, its table has to be one that dotted keys made.
def define (v : Toml) (holder : Option (List String)) (path : List String) (o : Origin) (es : Entries) :
    Except Invalid Entries :=
  let key := path.getLastD ""
  if path.length = 1 ∨ o = .dotted then
    es.alter key fun
      | none   => .ok v
      | some _ => .error <| .duplicate key holder
  else
    .error <| .duplicate key none

def put (v : Toml) (holder : Option (List String)) (path : List String) (es : Entries) :
    Except Invalid Entries :=
  let route := if holder.isSome then .key else .braces
  under route (define v holder path) [] path.dropLast .header es

-- A header may take over a table that was only implied so far, which then counts as defined here.
def openTable (path : List String) (es : Entries) : Except Invalid Entries :=
  let key := path.getLastD ""
  match es.find? key with
  | none                      => .ok (es ++ [(key, table .header [])])
  | some (table .implied sub) => .ok (es.erase key ++ [(key, table .header sub)])
  | some _                    => .error (.reopened path)

def openElement (path : List String) (es : Entries) : Except Invalid Entries :=
  es.alter (path.getLastD "") fun
    | none                => .ok (tables [[]])
    | some (tables elems) => .ok (tables (elems ++ [[]]))
    | some _              => .error (.reopened path)

end Toml

end LintReport
