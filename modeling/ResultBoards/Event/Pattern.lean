import ResultBoards.Text.Alphanumeric
import ResultBoards.Text.Blank
import ResultBoards.Text.Digits

/-!
# Patterns of values

A directive may ask that the value of a field matches a regular expression.  Events of this
program have no such field, so what counts is only whether the expression is well-formed.
Tables of Unicode properties are not at hand: what needs them is refused, and so is what
could match text that is not UTF-8.
-/

namespace ResultBoards.Pattern

/-- How a part of an expression is read: whether blanks in it do not count, whether it is
about code points rather than bytes, and whether the case of letters does not count. -/
structure Mode where
  spaced : Bool
  unicode : Bool
  caseless : Bool
deriving DecidableEq, Repr

/-- How an expression is read at its start. -/
def Mode.initial : Mode := ⟨false, true, false⟩

/-- The text without the blanks and comments it starts with. -/
def dropSpace : List Char → (inComment : Bool) → List Char
  | [], _ => []
  | c :: rest, true => dropSpace rest (c != '\n')
  | c :: rest, false =>
      if Text.isBlank c then dropSpace rest false
      else if c = '#' then dropSpace rest true
      else c :: rest

/-- The text without the blanks and comments it starts with, where they do not count. -/
def skip (mode : Mode) (text : List Char) : List Char :=
  if mode.spaced then dropSpace text false else text

/-! ## Escapes -/

/-- A piece of an expression that is neither a group nor a class. -/
inductive Piece
  | literal (c : Char) (isByte : Bool)
  | digits (negated : Bool)
  | wordEdge
  | textEdge
deriving DecidableEq, Repr

/-- The number of digits of a numeric escape. -/
def escapeWidth? (c : Char) : Option Nat :=
  [('x', 2), ('u', 4), ('U', 8)].lookup c

/-- Reads so many hexadecimal digits, between which blanks may stand where they do not
count. -/
def readDigits (mode : Mode) : (count : Nat) → List Char → Option (List Char × List Char)
  | 0, text => some ([], text)
  | count + 1, text =>
      match skip mode text with
      | c :: rest =>
          if (Text.hexValue? c).isSome then
            (readDigits mode count rest).map fun (digits, rest) => (c :: digits, rest)
          else none
      | [] => none

/-- The characters that a backslash and a letter stand for. -/
def shortEscapes : List (Char × Char) :=
  [('a', '\x07'), ('f', '\x0c'), ('t', '\t'), ('n', '\n'), ('r', '\r'), ('v', '\x0b')]

/-- A character that a backslash takes its meaning from. -/
def isEscapable (c : Char) : Bool :=
  c.toNat < 0x80 && !c.isAlphanum && c != '<' && c != '>'

/-- Reads an escape after its backslash.  Properties of characters have no escapes, since
there are no tables. -/
def readEscape (mode : Mode) : List Char → Option (Piece × List Char)
  | [] => none
  | c :: rest =>
      match escapeWidth? c with
      | some width => do
          let (digits, rest) ← readDigits mode width rest
          let meant ← Text.charOfCode? (Text.numberOf 16 digits)
          return (.literal meant (c == 'x'), skip mode rest)
      | none =>
          if "dsw".toList.contains c then some (.digits false, rest)
          else if "DSW".toList.contains c then some (.digits true, rest)
          else if c = 'A' ∨ c = 'z' then some (.textEdge, rest)
          else if "bB<>".toList.contains c then some (.wordEdge, rest)
          else if isEscapable c then some (.literal c false, rest)
          else (shortEscapes.lookup c).map (.literal · false, rest)

/-- Whether a piece may stand outside of classes. -/
def Piece.isAllowed (mode : Mode) : Piece → Bool
  | .literal c isByte => if mode.unicode then !mode.caseless else !isByte || c.toNat < 0x80
  | .digits negated => !mode.unicode && !negated
  | .wordEdge => !mode.unicode
  | .textEdge => true

/-! ## Classes -/

/-- Whether a piece may stand in a class. -/
def Piece.isMember (mode : Mode) : Piece → Bool
  | .literal c _ => mode.unicode || c.toNat < 0x80
  | .digits negated => !mode.unicode && !negated
  | _ => false

/-- The names of classes of ASCII characters. -/
def asciiClasses : List String := [
  "alnum", "alpha", "ascii", "blank", "cntrl", "digit", "graph", "lower", "print", "punct",
  "space", "upper", "word", "xdigit"]

/-- Reads the name of a class of ASCII characters, if the text starts with one, and whether
the class is negated. -/
def readAsciiClass : List Char → Option (Bool × List Char)
  | '[' :: ':' :: text =>
      let (negated, text) := match text with
        | '^' :: rest => (true, rest)
        | rest => (false, rest)
      let name := text.takeWhile (· ≠ ':')
      match text.drop name.length with
      | ':' :: ']' :: rest =>
          if asciiClasses.contains (String.ofList name) then some (negated, rest) else none
      | _ => none
  | _ => none

/-- The text after the minus signs it starts with, and whether there are any. -/
def dropMinus (mode : Mode) : (fuel : Nat) → (found : Bool) → List Char → Bool × List Char
  | fuel + 1, found, text =>
      match skip mode text with
      | '-' :: rest => dropMinus mode fuel true rest
      | rest => (found, rest)
  | 0, found, text => (found, text)

/-- Opens a class after its bracket.  Minus signs or else a closing bracket at its start stand
for themselves. -/
def openClass (mode : Mode) (text : List Char) : Option (List Char) :=
  let (negated, start) := match skip mode text with
    | '^' :: rest => (true, rest)
    | rest => (false, rest)
  let (found, rest) := dropMinus mode (start.length + 1) false start
  if negated ∧ !mode.unicode then none
  else
    match found, rest with
    | false, ']' :: rest => some rest
    | _, rest => some rest

/-- Reads a member of a class. -/
def readMember (mode : Mode) : List Char → Option (Piece × List Char)
  | '\\' :: rest => readEscape mode rest
  | c :: rest => some (.literal c false, rest)
  | [] => none

/-- Reads a member of a class or a range between two of them. -/
def readRange (mode : Mode) (text : List Char) : Option (List Char) := do
  let (first, rest) ← readMember mode text
  let rest := skip mode rest
  let last := match rest with
    | '-' :: rest => some (skip mode rest)
    | _ => none
  if !first.isMember mode then none
  else
    match last with
    | none => some rest
    | some [] => none
    | some (']' :: _) => some rest
    | some ('-' :: _) => some rest
    | some start => do
        let (last, rest) ← readMember mode start
        match first, last with
        | .literal low _, .literal high _ =>
            if last.isMember mode ∧ low ≤ high then some rest else none
        | _, _ => none

/-- Reads a class after its opening, with other classes nested in it. -/
def readClass (mode : Mode) : (fuel nested : Nat) → List Char → Option (List Char)
  | 0, _, _ => none
  | fuel + 1, nested, text =>
      match skip mode text with
      | [] => none
      | ']' :: rest =>
          match nested with
          | 0 => some rest
          | nested + 1 => readClass mode fuel nested rest
      | '&' :: '&' :: rest => readClass mode fuel nested rest
      | '-' :: '-' :: rest => readClass mode fuel nested rest
      | '~' :: '~' :: rest => readClass mode fuel nested rest
      | '[' :: rest =>
          match readAsciiClass ('[' :: rest) with
          | some (negated, rest) =>
              if negated ∧ !mode.unicode then none else readClass mode fuel nested rest
          | none => (openClass mode rest).bind (readClass mode fuel (nested + 1))
      | start => (readRange mode start).bind (readClass mode fuel nested)

/-! ## Groups -/

/-- A character of the name of a group. -/
def isNameChar (isFirst : Bool) (c : Char) : Bool :=
  if isFirst then c == '_' || Text.isAlphabetic c
  else c == '_' || c == '.' || c == '[' || c == ']' || Text.isAlphanumeric c

/-- Reads the name of a group before its closing bracket. -/
def readGroupName (text : List Char) : Option (String × List Char) :=
  let name := text.takeWhile (· ≠ '>')
  match text.drop name.length with
  | '>' :: rest =>
      let fits := match name with
        | c :: more => isNameChar true c && more.all (isNameChar false)
        | [] => false
      if fits then some (String.ofList name, rest) else none
  | _ => none

/-- Reads the flags of a group: letters, and a minus sign in front of those that are
withdrawn. -/
def readFlags : (read : List Char) → List Char → Option (List Char × List Char)
  | read, c :: rest =>
      if c = ':' ∨ c = ')' then
        if read.head? = some '-' then none else some (read.reverse, c :: rest)
      else if "imsUuRx-".toList.contains c ∧ !read.contains c then readFlags (c :: read) rest
      else none
  | _, [] => none

/-- What flags say of one of them, if they name it. -/
def flagState? (flag : Char) : (negated : Bool) → List Char → Option Bool
  | _, [] => none
  | negated, c :: rest =>
      if c = flag then some !negated else flagState? flag (negated || c == '-') rest

/-- The mode after some flags. -/
def Mode.withFlags (mode : Mode) (flags : List Char) : Mode :=
  ⟨(flagState? 'x' false flags).getD mode.spaced, (flagState? 'u' false flags).getD mode.unicode,
    (flagState? 'i' false flags).getD mode.caseless⟩

/-- What has been read of an expression: the mode, the modes around the open groups, the
names of groups, and whether a sign for repetition may follow. -/
structure Draft where
  mode : Mode
  around : List Mode
  names : List String
  isRepeatable : Bool

/-- Opens a group after its bracket. -/
def openGroup (draft : Draft) (text : List Char) : Option (Draft × List Char) :=
  let opened : Draft := ⟨draft.mode, draft.mode :: draft.around, draft.names, false⟩
  let named (rest : List Char) : Option (Draft × List Char) := do
    let (name, rest) ← readGroupName rest
    if draft.names.contains name then none
    else some ({ opened with names := name :: draft.names }, rest)
  match skip draft.mode text with
  | '?' :: 'P' :: '<' :: rest => named rest
  | '?' :: '<' :: c :: rest => if c = '=' ∨ c = '!' then none else named (c :: rest)
  | '?' :: rest => do
      let (flags, rest) ← readFlags [] rest
      let mode := draft.mode.withFlags flags
      match rest with
      | ':' :: rest => return ({ opened with mode := mode }, rest)
      | ')' :: rest =>
          if flags.isEmpty then none
          else return ({ draft with mode := mode, isRepeatable := false }, rest)
      | _ => none
  | rest => some (opened, rest)

/-! ## Expressions -/

/-- Takes a piece of an expression. -/
def step (draft : Draft) : List Char → Option (Draft × List Char)
  | [] => none
  | c :: rest =>
      let taken : Draft := { draft with isRepeatable := true }
      match c with
      | '(' => openGroup draft rest
      | ')' =>
          match draft.around with
          | mode :: around => some (⟨mode, around, draft.names, true⟩, rest)
          | [] => none
      | '|' => some ({ draft with isRepeatable := false }, rest)
      | '[' =>
          if draft.mode.unicode ∧ draft.mode.caseless then none
          else
            ((openClass draft.mode rest).bind
              (readClass draft.mode (rest.length + 1) 0)).map (taken, ·)
      | '\x7b' => none
      | '\\' => do
          let (piece, rest) ← readEscape draft.mode rest
          if piece.isAllowed draft.mode then some (taken, rest) else none
      | '.' => if draft.mode.unicode then some (taken, rest) else none
      | '^' => some (taken, rest)
      | '$' => some (taken, rest)
      | c =>
          if c = '?' ∨ c = '*' ∨ c = '+' then
            if draft.isRepeatable then
              some (draft, if rest.head? = some '?' then rest.drop 1 else rest)
            else none
          else if (Piece.literal c false).isAllowed draft.mode then some (taken, rest)
          else none

/-- Reads what is left of an expression. -/
def readFrom : (fuel : Nat) → Draft → List Char → Bool
  | 0, _, _ => false
  | fuel + 1, draft, text =>
      match skip draft.mode text with
      | [] => draft.around.isEmpty
      | start =>
          match step draft start with
          | some (draft, rest) => readFrom fuel draft rest
          | none => false

/-- Whether a text is a well-formed expression. -/
def isWellFormed (text : List Char) : Bool :=
  readFrom (text.length + 1) ⟨.initial, [], [], false⟩ text

example : (["", "a|b", "(?P<n>x)*?", "[]a&&[^-z]]", "(?-u:\\d+)", "(?x) [ a - z ] # c"].all
    fun text => isWellFormed text.toList) := by
  decide +kernel

example : (["+", ")", "(?=x)", "(", "[", "[z-a]", "\\d", "(?i)a", "(?)", "a|*"].all
    fun text => !isWellFormed text.toList) := by
  decide +kernel

end ResultBoards.Pattern
