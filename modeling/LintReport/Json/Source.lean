import LintReport.Json.Basic
import LintReport.Json.Numeral

namespace LintReport.Json

inductive Break
  -- Nothing: no value starts here.
  | absent (f : Fault)
  | word (f : Fault)
  | numeral (c : Numeral.Cut)
  -- A string, with the faults of reading it and of passing over it.
  | string (read skipped : Fault)
deriving DecidableEq, Repr

def Break.read : Break → Fault
  | absent f | word f | string f _ => f
  | numeral c                      => c.read

def Break.skipped : Break → Fault
  | absent f | word f | string _ f => f
  | numeral c                      => c.skipped

inductive Ending
  | closed
  -- The text ends where a comma or the closing bracket should stand.
  | cut
  -- The closing bracket stands behind a comma.
  | comma
  -- The text ends behind a comma.
  | commaCut
  -- Something else than a comma or the closing bracket follows.
  | stray
  -- Something else than a string stands where a key of an object should.
  | noKey
deriving DecidableEq, Repr

namespace Ending

def readList : Ending → Except Fault Unit
  | closed   => .ok ()
  | cut      => .error .endOfList
  | comma    => .error .trailingComma
  | commaCut => .error .endOfValue
  | stray    => .error .noListEnd
  | noKey    => .error .noValue

def skipList : Ending → Except Fault Unit
  | comma => .error .noValue
  | e     => e.readList

def readObject : Ending → Except Fault Unit
  | closed   => .ok ()
  | cut      => .error .endOfObject
  | comma    => .error .trailingComma
  | commaCut => .error .endOfValue
  | stray    => .error .noObjectEnd
  | noKey    => .error .noKey

def skipObject : Ending → Except Fault Unit
  | comma    => .error .noKey
  | commaCut => .error .endOfObject
  | e        => e.readObject

end Ending

-- The characters of a string. A string with a lone surrogate can be passed over, but not read.
abbrev Chars := Except Fault (List Char)

inductive Source
  | null
  | bool (b : Bool)
  | numeral (n : Numeral)
  | string (s : Chars)
  | list (items : List Source) (ending : Ending)
  | object (members : List (Chars × Source)) (ending : Ending)
  | broken (b : Break)

def isSpace (c : Char) : Bool :=
  c == ' ' || c == '\n' || c == '\t' || c == '\r'

def dropSpace (s : List Char) : List Char :=
  s.dropWhile isSpace

namespace Source

def scanWord (word : List Char) (v : Source) (s : List Char) : Source × List Char :=
  match word, s with
  | [],      s      => (v, s)
  | _ :: _,  []     => (broken (.word .endOfValue), [])
  | w :: ws, c :: r => if w = c then scanWord ws v r else (broken (.word .noIdent), [])

def scanNumeral (negative : Bool) (s : List Char) : Source × List Char :=
  match Numeral.scan negative s with
  | .ok (n, r) => (numeral n, r)
  | .error c   => (broken (.numeral c), [])

def scanChars (s : List Char) : Except (Fault × Fault) (Chars × List Char) :=
  match Literal.skip s, Literal.read s with
  | .ok r,    .ok (cs, _) => .ok (.ok cs, r)
  | .ok r,    .error f    => .ok (.error f, r)
  | .error f, .error f'   => .error (f', f)
  | .error f, .ok _       => .error (f, f)

def scanString (s : List Char) : Source × List Char :=
  match scanChars s with
  | .ok (cs, r)          => (string cs, r)
  | .error (read, skipped) => (broken (.string read skipped), [])

mutual

-- Every character begins at most two scans that are not finished before it, so that twice the length
-- of the text is fuel enough.
def scan : (fuel : Nat) → List Char → Source × List Char
  | 0,        _ => (broken (.absent .tooDeep), [])
  | fuel + 1, s =>
    match dropSpace s with
    | []           => (broken (.absent .endOfValue), [])
    | 'n' :: r     => scanWord ['u', 'l', 'l'] null r
    | 't' :: r     => scanWord ['r', 'u', 'e'] (bool true) r
    | 'f' :: r     => scanWord ['a', 'l', 's', 'e'] (bool false) r
    | '-' :: r     => scanNumeral true r
    | '"' :: r     => scanString r
    | '[' :: r     =>
      match dropSpace r with
      | []       => (list [] .cut, [])
      | ']' :: r => (list [] .closed, r)
      | r        =>
        let (items, ending, r) := scanItems fuel r
        (list items ending, r)
    | '\x7b' :: r  =>
      match dropSpace r with
      | []          => (object [] .cut, [])
      | '\x7d' :: r => (object [] .closed, r)
      | '"' :: r    =>
        let (members, ending, r) := scanMembers fuel r
        (object members ending, r)
      | _           => (object [] .noKey, [])
    | c :: r       =>
      if c.isDigit then scanNumeral false (c :: r) else (broken (.absent .noValue), [])

def scanItems : (fuel : Nat) → List Char → List Source × Ending × List Char
  | 0,        _ => ([broken (.absent .tooDeep)], .cut, [])
  | fuel + 1, s =>
    let (v, r) := scan fuel s
    match dropSpace r with
    | []       => ([v], .cut, [])
    | ']' :: r => ([v], .closed, r)
    | ',' :: r =>
      match dropSpace r with
      | []       => ([v], .commaCut, [])
      | ']' :: _ => ([v], .comma, [])
      | r        =>
        let (vs, ending, r) := scanItems fuel r
        (v :: vs, ending, r)
    | _        => ([v], .stray, [])

-- One member from behind the quote of its key on, and the others behind it. A missing colon is what is
-- wrong with the value of the member.
def scanMembers : (fuel : Nat) → List Char → List (Chars × Source) × Ending × List Char
  | 0,        _ => ([(.error .tooDeep, broken (.absent .tooDeep))], .cut, [])
  | fuel + 1, s =>
    match scanChars s with
    | .error (read, skipped) => ([(.error read, broken (.string read skipped))], .cut, [])
    | .ok (key, r) =>
      match dropSpace r with
      | []       => ([(key, broken (.absent .endOfObject))], .cut, [])
      | ':' :: r =>
        let (v, r) := scan fuel r
        match dropSpace r with
        | []          => ([(key, v)], .cut, [])
        | '\x7d' :: r => ([(key, v)], .closed, r)
        | ',' :: r    =>
          match dropSpace r with
          | []          => ([(key, v)], .commaCut, [])
          | '\x7d' :: _ => ([(key, v)], .comma, [])
          | '"' :: r    =>
            let (vs, ending, r) := scanMembers fuel r
            ((key, v) :: vs, ending, r)
          | _           => ([(key, v)], .noKey, [])
        | _           => ([(key, v)], .stray, [])
      | _        => ([(key, broken (.absent .noColon))], .cut, [])

end

def ofText (s : List Char) : Source × List Char :=
  scan (2 * s.length + 2) s

mutual

-- Passes over a value that is not wanted: numbers may be too large for their type, surrogates may be
-- alone, and nesting has no limit.
def skip : Source → Except Fault Unit
  | list items ending     => do skipItems items; ending.skipList
  | object members ending => do skipMembers members; ending.skipObject
  | broken b              => .error b.skipped
  | _                     => .ok ()

def skipItems : List Source → Except Fault Unit
  | []      => .ok ()
  | v :: vs => do skip v; skipItems vs

def skipMembers : List (Chars × Source) → Except Fault Unit
  | []           => .ok ()
  | (_, v) :: ms => do skip v; skipMembers ms

end

def maxDepth : Nat := 127

def enter (depth : Nat) : Except Fault Nat :=
  if depth < maxDepth then .ok (depth + 1) else .error .tooDeep

mutual

-- Checks that a value can be read in full before what it is read for is known.
def settle (depth : Nat) : Source → Except Fault Unit
  | null | bool _         => .ok ()
  | numeral n             => n.value.map fun _ => ()
  | string s              => s.map fun _ => ()
  | list items ending     => do
    let depth ← enter depth
    settleItems depth items
    ending.readList
  | object members ending => do
    let depth ← enter depth
    settleMembers depth members
    ending.readObject
  | broken b              => .error b.read

def settleItems (depth : Nat) : List Source → Except Fault Unit
  | []      => .ok ()
  | v :: vs => do settle depth v; settleItems depth vs

def settleMembers (depth : Nat) : List (Chars × Source) → Except Fault Unit
  | []           => .ok ()
  | (k, v) :: ms => do
    let _ ← k
    settle depth v
    settleMembers depth ms

end

end Source

mutual

def toSource : Json → Source
  | null           => .null
  | bool b         => .bool b
  | int i          =>
    .numeral ⟨decide (i < 0), (Nat.toDigits 10 i.natAbs).map Numeral.digit, [], none⟩
  | string s       => .string (.ok s.toList)
  | array items    => .list (itemsToSource items) .closed
  | object members => .object (membersToSource members) .closed

def itemsToSource : List Json → List Source
  | []      => []
  | j :: js => j.toSource :: itemsToSource js

def membersToSource : List (String × Json) → List (Chars × Source)
  | []           => []
  | (k, j) :: ms => (.ok k.toList, j.toSource) :: membersToSource ms

end

end LintReport.Json
