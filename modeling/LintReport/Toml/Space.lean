namespace LintReport.Toml

def isBlank (c : Char) : Bool :=
  c == ' ' || c == '\t'

def dropBlanks (s : List Char) : List Char :=
  s.dropWhile isBlank

-- The characters of comments and strings: all but control characters, where those beyond ASCII do not
-- count as such.
def isText (c : Char) : Bool :=
  c == '\t' || (decide (' ' ≤ c) && c != '\x7f')

def isBare (c : Char) : Bool :=
  c.isAlphanum || c == '-' || c == '_'

def newline? : List Char → Option (List Char)
  | '\n' :: r         => some r
  | '\r' :: '\n' :: r => some r
  | _                 => none

theorem length_of_newline? {s r : List Char} (h : newline? s = some r) : r.length < s.length := by
  unfold newline? at h
  split at h <;> simp_all +arith

def dropComment : List Char → List Char
  | '#' :: r => r.dropWhile isText
  | s        => s

theorem length_dropWhile_le (p : Char → Bool) (s : List Char) :
    (s.dropWhile p).length ≤ s.length :=
  (List.dropWhile_sublist p).length_le

theorem length_dropBlanks_le (s : List Char) : (dropBlanks s).length ≤ s.length :=
  length_dropWhile_le isBlank s

theorem length_dropComment_le (s : List Char) : (dropComment s).length ≤ s.length := by
  unfold dropComment
  split
  · exact Nat.le_succ_of_le <| length_dropWhile_le isText _
  · exact Nat.le_refl _

def endLine? (s : List Char) : Option (List Char) :=
  match dropComment (dropBlanks s) with
  | [] => some []
  | r  => newline? r

theorem length_of_newline?_comment {s r : List Char}
    (h : newline? (dropComment (dropBlanks s)) = some r) : r.length < s.length :=
  Nat.lt_of_lt_of_le (length_of_newline? h) <|
    Nat.le_trans (length_dropComment_le _) (length_dropBlanks_le s)

-- Passes over blanks, and over the rest of a line as often as nothing but a comment stands there.
def dropLines (s : List Char) : List Char :=
  match h : newline? (dropComment (dropBlanks s)) with
  | some r =>
    have := length_of_newline?_comment h
    dropLines r
  | none   => dropComment (dropBlanks s)
termination_by s.length

end LintReport.Toml
