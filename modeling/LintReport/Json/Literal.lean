import LintReport.Json.Fault
import LintReport.Text.Hex

namespace LintReport.Json.Literal

def escape (c : Char) : List Char :=
  if c = '"' then ['\\', '"']
  else if c = '\\' then ['\\', '\\']
  else if c = '\x08' then ['\\', 'b']
  else if c = '\t' then ['\\', 't']
  else if c = '\n' then ['\\', 'n']
  else if c = '\x0c' then ['\\', 'f']
  else if c = '\r' then ['\\', 'r']
  else if c.toNat < 0x20 then '\\' :: 'u' :: Text.hex 4 c.toNat
  else [c]

def encode (s : List Char) : List Char :=
  '"' :: s.flatMap escape ++ ['"']

def unescape? (c : Char) : Option Char :=
  if c = '"' ∨ c = '\\' ∨ c = '/' then some c
  else if c = 'b' then some '\x08'
  else if c = 'f' then some '\x0c'
  else if c = 'n' then some '\n'
  else if c = 'r' then some '\r'
  else if c = 't' then some '\t'
  else none

-- The unit of UTF-16 that four hexadecimal digits stand for, with the rest of the text. The text has
-- ended when fewer than four bytes are left.
def unit : List Char → Except Fault (Nat × List Char)
  | a :: b :: c :: d :: r =>
    match Text.ofHex? [a, b, c, d] with
    | some n => .ok (n, r)
    | none   => .error .badEscape
  | short =>
    if (String.ofList short).utf8ByteSize < 4 then .error .endOfString else .error .badEscape

theorem length_of_unit {s r : List Char} {n : Nat} (h : unit s = .ok (n, r)) :
    r.length < s.length := by
  unfold unit at h
  split at h
  · split at h <;> cases h
    simp +arith
  · split at h <;> cases h

def isHighSurrogate (n : Nat) : Bool := decide (0xD800 ≤ n) && decide (n ≤ 0xDBFF)

def isLowSurrogate (n : Nat) : Bool := decide (0xDC00 ≤ n) && decide (n ≤ 0xDFFF)

def second : List Char → Except Fault (Nat × List Char)
  | [] | ['\\']         => .error .endOfString
  | '\\' :: 'u' :: r    => unit r
  | _                   => .error .cutSurrogate

theorem length_of_second {s r : List Char} {n : Nat} (h : second s = .ok (n, r)) :
    r.length < s.length := by
  unfold second at h
  split at h
  case h_3 t => exact Nat.lt_succ_of_lt <| Nat.lt_succ_of_lt <| length_of_unit h
  all_goals cases h

def ofSurrogates (high low : Nat) : Char :=
  Char.ofNat (0x10000 + (high - 0xD800) * 0x400 + (low - 0xDC00))

def unicode (s : List Char) : Except Fault (Char × List Char) :=
  match unit s with
  | .error f   => .error f
  | .ok (n, r) =>
    if isLowSurrogate n then
      .error .loneSurrogate
    else if isHighSurrogate n then
      match second r with
      | .error f   => .error f
      | .ok (m, r) => if isLowSurrogate m then .ok (ofSurrogates n m, r) else .error .loneSurrogate
    else
      .ok (Char.ofNat n, r)

theorem length_of_unicode {s r : List Char} {c : Char} (h : unicode s = .ok (c, r)) :
    r.length < s.length := by
  unfold unicode at h
  split at h
  case h_1 => cases h
  case h_2 n t hu =>
    have ht := length_of_unit hu
    split at h
    case isTrue => cases h
    case isFalse =>
      split at h
      case isFalse => simp only [Except.ok.injEq, Prod.mk.injEq] at h; exact h.2 ▸ ht
      case isTrue =>
        split at h
        case h_1 => cases h
        case h_2 m t' hs =>
          have ht' := length_of_second hs
          split at h
          case isFalse => cases h
          case isTrue => simp only [Except.ok.injEq, Prod.mk.injEq] at h; rw [← h.2]; omega

def read : List Char → Except Fault (List Char × List Char)
  | [] => .error .endOfString
  | c :: r =>
    if c = '"' then
      .ok ([], r)
    else if c = '\\' then
      match r with
      | [] => .error .endOfString
      | e :: r =>
        if e = 'u' then
          match h : unicode r with
          | .error f   => .error f
          | .ok (c, t) =>
            have := length_of_unicode h
            (read t).map fun (cs, t) => (c :: cs, t)
        else
          match unescape? e with
          | some c => (read r).map fun (cs, t) => (c :: cs, t)
          | none   => .error .badEscape
    else if c.toNat < 0x20 then
      .error .controlChar
    else
      (read r).map fun (cs, t) => (c :: cs, t)
termination_by s => s.length

-- Passes over a literal whose value is not wanted. Surrogates need not come in pairs here.
def skip : List Char → Except Fault (List Char)
  | [] => .error .endOfString
  | c :: r =>
    if c = '"' then
      .ok r
    else if c = '\\' then
      match r with
      | [] => .error .endOfString
      | e :: r =>
        if e = 'u' then
          match h : unit r with
          | .error f   => .error f
          | .ok (_, t) =>
            have := length_of_unit h
            skip t
        else if (unescape? e).isSome then
          skip r
        else
          .error .badEscape
    else if c.toNat < 0x20 then
      .error .controlChar
    else
      skip r
termination_by s => s.length

end LintReport.Json.Literal
