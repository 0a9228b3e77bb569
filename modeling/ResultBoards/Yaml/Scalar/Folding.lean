import ResultBoards.Yaml.Cursor

/-!
# Folded lines

Where a scalar goes on in the next line, the line break counts as a blank, and every empty
line in between as a line break.
-/

namespace ResultBoards.Yaml

/-- What stands between two pieces of a scalar: the blanks before the first line break, in
reverse, whether there is one, and the number of further ones. -/
structure Gap where
  blanks : List Char
  hasBreak : Bool
  breaks : Nat
deriving DecidableEq, Repr

namespace Gap

/-- No gap. -/
def empty : Gap := ⟨[], false, 0⟩

/-- The gap with one more line break, which is the first one or not. -/
def addBreak (gap : Gap) (isFurther : Bool) : Gap :=
  if isFurther then { gap with breaks := gap.breaks + 1 }
  else { gap with blanks := [], hasBreak := true }

/-- What a gap stands for, depending on whether a line starts after it. -/
def text (gap : Gap) (isBroken : Bool) : List Char :=
  if isBroken then
    if gap.hasBreak ∧ gap.breaks = 0 then [' '] else List.replicate gap.breaks '\n'
  else gap.blanks.reverse

end Gap

end ResultBoards.Yaml
