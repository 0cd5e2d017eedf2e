/-!
# Ordered tables

A table lists keys with their values.  A key that is met again has its value
changed in place, and a new key comes last.
-/

namespace TableReach

variable [DecidableEq κ]

/-- Change the value of a key.  A new key comes last and starts from a given value. -/
def upsert
    (start : ν)
    (change : ν → ν)
    (key : κ) : List (κ × ν) → List (κ × ν)
  | [] => [(key, change start)]
  | entry :: others =>
      if entry.1 = key then (entry.1, change entry.2) :: others
      else entry :: upsert start change key others

end TableReach
