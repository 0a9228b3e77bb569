/-!
# Ranges of code points

Properties of characters are kept as tables of ranges in increasing order.
-/

namespace ResultBoards.Text

/-- Whether a code point lies in one of the ranges of a table sorted by its bounds,
searched by halving the part between `low` and `high`. -/
def inRanges (table : Array (Nat × Nat)) (code : Nat) : (fuel low high : Nat) → Bool
  | 0, _, _ => false
  | fuel + 1, low, high =>
      if low < high then
        let middle := (low + high) / 2
        match table[middle]? with
        | none => false
        | some (first, last) =>
            if code < first then inRanges table code fuel low middle
            else if last < code then inRanges table code fuel (middle + 1) high
            else true
      else false

/-- Whether a character lies in one of the ranges of a table. -/
def isIn (table : Array (Nat × Nat)) (c : Char) : Bool :=
  inRanges table c.toNat 32 0 table.size

end ResultBoards.Text
