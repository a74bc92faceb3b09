import LintReport.Text.Hex
import LintReport.Toml.Space

namespace LintReport.Toml.Literal

def character? (digits : List Char) : Option Char := do
  let n ← Text.ofHex? digits
  if n.isValidChar then return Char.ofNat n else none

def escape : List Char → Option (Char × List Char)
  | []     => none
  | c :: r =>
    if c = 'b' then some ('\x08', r)
    else if c = 't' then some ('\t', r)
    else if c = 'n' then some ('\n', r)
    else if c = 'f' then some ('\x0c', r)
    else if c = 'r' then some ('\r', r)
    else if c = '"' ∨ c = '\\' then some (c, r)
    else if c = 'u' then numbered 4 r
    else if c = 'U' then numbered 8 r
    else none
where
  numbered (width : Nat) (s : List Char) : Option (Char × List Char) :=
    if width ≤ s.length then (character? (s.take width)).map (·, s.drop width) else none

theorem length_of_escape {s r : List Char} {c : Char} (h : escape s = some (c, r)) :
    r.length < s.length := by
  unfold escape at h
  split at h
  · cases h
  · repeat' split at h
    all_goals first
      | (simp only [Option.some.injEq, Prod.mk.injEq] at h; rw [← h.2]; exact Nat.lt_succ_self _)
      | cases h
      | (simp only [escape.numbered] at h
         split at h
         · simp only [Option.map_eq_some_iff, Prod.mk.injEq] at h
           obtain ⟨_, _, _, h⟩ := h
           rw [← h, List.length_cons, List.length_drop]; omega
         · cases h)

def basic : List Char → Option (List Char × List Char)
  | []     => none
  | c :: r =>
    if c = '"' then
      some ([], r)
    else if c = '\\' then
      match h : escape r with
      | none        => none
      | some (e, t) =>
        have := length_of_escape h
        (basic t).map fun (cs, t) => (e :: cs, t)
    else if isText c then
      (basic r).map fun (cs, t) => (c :: cs, t)
    else
      none
termination_by s => s.length

def plain (s : List Char) : Option (List Char × List Char) :=
  match s.dropWhile fun c => isText c && c != '\'' with
  | '\'' :: r => some (s.takeWhile fun c => isText c && c != '\'', r)
  | _         => none

-- Three quotes close a string of several lines. Of a longer run, up to two quotes belong to it.
def closing? (quote : Char) (s : List Char) : Option (List Char × List Char) :=
  let run := (s.takeWhile (· = quote)).length
  if run < 3 then none else some (List.replicate (min (run - 3) 2) quote, s.drop (min run 5))

def dropFold : List Char → List Char
  | '\r' :: '\n' :: r => dropFold r
  | c :: r            => if isBlank c || c == '\n' then dropFold r else c :: r
  | []                => []

theorem length_dropFold_le (s : List Char) : (dropFold s).length ≤ s.length := by
  fun_induction dropFold s <;> simp_all +arith <;> omega

-- A backslash at the end of a line takes the line end and all blanks and line ends behind it away.
def fold? (s : List Char) : Option (List Char) :=
  (newline? (dropBlanks s)).map dropFold

theorem length_of_fold? {s r : List Char} (h : fold? s = some r) : r.length < s.length := by
  simp only [fold?, Option.map_eq_some_iff] at h
  obtain ⟨t, ht, rfl⟩ := h
  have := length_of_newline? ht
  have := length_dropBlanks_le s
  have := length_dropFold_le t
  omega

def basicLines : List Char → Option (List Char × List Char)
  | []     => none
  | c :: r =>
    if c = '"' then
      match closing? '"' (c :: r) with
      | some found => some found
      | none       => (basicLines r).map fun (cs, t) => (c :: cs, t)
    else if c = '\\' then
      match hf : fold? r, he : escape r with
      | some t, _           =>
        have := length_of_fold? hf
        basicLines t
      | none,   some (e, t) =>
        have := length_of_escape he
        (basicLines t).map fun (cs, t) => (e :: cs, t)
      | none,   none        => none
    else if isText c then
      (basicLines r).map fun (cs, t) => (c :: cs, t)
    else
      match h : newline? (c :: r) with
      | some t =>
        have : t.length < r.length + 1 := length_of_newline? h
        (basicLines t).map fun (cs, t) => ('\n' :: cs, t)
      | none   => none
termination_by s => s.length

def plainLines : List Char → Option (List Char × List Char)
  | []     => none
  | c :: r =>
    if c = '\'' then
      match closing? '\'' (c :: r) with
      | some found => some found
      | none       => (plainLines r).map fun (cs, t) => (c :: cs, t)
    else if isText c then
      (plainLines r).map fun (cs, t) => (c :: cs, t)
    else
      match h : newline? (c :: r) with
      | some t =>
        have : t.length < r.length + 1 := length_of_newline? h
        (plainLines t).map fun (cs, t) => ('\n' :: cs, t)
      | none   => none
termination_by s => s.length

def dropFirst (s : List Char) : List Char :=
  (newline? s).getD s

def scan : List Char → Option (String × List Char)
  | '"' :: '"' :: '"' :: r    => written (basicLines (dropFirst r))
  | '\'' :: '\'' :: '\'' :: r => written (plainLines (dropFirst r))
  | '"' :: r                  => written (basic r)
  | '\'' :: r                 => written (plain r)
  | _                         => none
where
  written : Option (List Char × List Char) → Option (String × List Char) :=
    Option.map fun (cs, r) => (String.ofList cs, r)

end LintReport.Toml.Literal
