namespace LintReport

variable {α : Type}

def holdsAt (p : α → Bool) (xs : List α) (i : Nat) : Bool :=
  xs[i]?.any p

-- Halves the `size` elements from `base` on, until one is left. The kept half may be longer than the
-- other one, so that the number of steps depends on the size alone.
def narrow (p : α → Bool) (xs : List α) (size base : Nat) : Nat :=
  if 1 < size then
    let mid := base + size / 2
    narrow p xs (size - size / 2) (if holdsAt p xs mid then mid else base)
  else
    base
termination_by size

def boundary (p : α → Bool) (xs : List α) : Nat :=
  let base := narrow p xs xs.length 0
  if holdsAt p xs base then base + 1 else base

end LintReport
