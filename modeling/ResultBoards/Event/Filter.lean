import ResultBoards.Event.Line
import ResultBoards.Event.Pattern
import ResultBoards.Number.Numeral
import ResultBoards.Text.Alphanumeric
import ResultBoards.Text.Blank
import ResultBoards.Text.Digits

/-!
# Which events are shown

A filter is a list of directives such as `info`, `hyper=off` or `workflow_dashboards=debug`.
The most specific directive that concerns an event decides whether it is shown.
-/

namespace ResultBoards

/-- How much is shown: events up to a level, or none. -/
abbrev Threshold := Option Level

/-- Whether an event of a level is shown. -/
def Threshold.admits (threshold : Threshold) (level : Level) : Bool :=
  threshold.any (level.rank ≤ ·.rank)

/-- The names of the thresholds. -/
def Threshold.names : List (String × Threshold) := [
  ("off", none), ("error", some .error), ("warn", some .warn), ("info", some .info),
  ("debug", some .debug), ("trace", some .trace)]

/-- The threshold of a name in any case, or of its place in the order of thresholds. -/
def Threshold.ofText? (text : List Char) : Option Threshold :=
  let digits := match text with
    | '+' :: rest => rest
    | rest => rest
  if digits.isEmpty ∨ !digits.all Char.isDigit then
    names.lookup (String.ofList (text.map Char.toLower))
  else
    names[Text.numberOf 10 digits]?.map Prod.snd

/-- What a directive says of a field: its name, and whether it has to have some value. -/
structure FieldDemand where
  name : String
  hasValue : Bool
deriving DecidableEq, Repr

/-- A directive: the events it concerns, by what their target starts with, by the work that
they are part of and by their fields, and how many of them are shown. -/
structure Directive where
  target : Option String
  span : Option String
  fields : List FieldDemand
  threshold : Threshold
deriving DecidableEq, Repr

/-! ## Reading -/

/-- The place in a directive that has been reached, with the position where the current
piece starts. -/
inductive DirectivePlace
  | start
  | word
  | span (first : Nat)
  | field (first : Nat)
  | fieldsDone
  | spanDone
  | level (first : Nat)
deriving DecidableEq, Repr

namespace Directive

/-- The directive that shows everything. -/
def everything : Directive := ⟨none, none, [], some .trace⟩

/-- The piece of a text between two positions. -/
def piece (text : List Char) (first last : Nat) : String :=
  String.ofList ((text.take last).drop first)

/-- The words for what is no finite number. -/
def numberWords : List String := ["inf", "infinity", "nan"]

/-- Whether a text writes a number. -/
def isNumber (text : List Char) : Bool :=
  (Numeral.ofText? text).isSome ||
    numberWords.contains (String.ofList ((Text.splitSign text).2.map Char.toLower))

/-- Whether a text can be asked of the value of a field: a number, or else a pattern. -/
def isDemandable (text : List Char) : Bool :=
  isNumber text || Pattern.isWellFormed text

/-- What a piece between braces asks of a field.  Its value ends at a second equals sign. -/
def demandOf? (text : String) : Option FieldDemand :=
  match text.splitOn "=" with
  | name :: value :: _ => if isDemandable value.toList then some ⟨name, true⟩ else none
  | _ => if text.isEmpty then none else some ⟨text, false⟩

/-- Takes a character of a directive at a position. -/
def step (text : List Char) (draft : Directive) (place : DirectivePlace) (position : Nat)
    (c : Char) : Option (Directive × DirectivePlace) :=
  match place with
  | .start =>
      if c = '[' then some (draft, .span (position + 1))
      else if ['-', ':', '_'].contains c ∨ Text.isAlphanumeric c then some (draft, .word)
      else none
  | .word =>
      if c = '=' then
        some ({ draft with target := some (piece text 0 position) }, .level (position + 1))
      else if c = '[' then
        some ({ draft with target := some (piece text 0 position) }, .span (position + 1))
      else some (draft, place)
  | .span first =>
      if c = ']' then some ({ draft with span := some (piece text first position) }, .spanDone)
      else if c = '\x7b' then
        let name := piece text first position
        let span := if name.isEmpty then none else some name
        some ({ draft with span := span }, .field (position + 1))
      else some (draft, place)
  | .field first =>
      if c = '\x7d' then
        (demandOf? (piece text first position)).map fun demand =>
          ({ draft with fields := draft.fields ++ [demand] }, .fieldsDone)
      else some (draft, place)
  | .fieldsDone => if c = ']' then some (draft, .spanDone) else none
  | .spanDone => if c = '=' then some (draft, .level (position + 1)) else none
  | .level _ => some (draft, place)

/-- Takes the characters of a directive from a position on. -/
def readFrom (text : List Char) (draft : Directive) (place : DirectivePlace) :
    (position : Nat) → List Char → Option (Directive × DirectivePlace)
  | _, [] => some (draft, place)
  | position, c :: rest =>
      match step text draft place position c with
      | none => none
      | some (draft, place) => readFrom text draft place (position + 1) rest

/-- Ends a directive. -/
def finish? (text : List Char) (draft : Directive) : DirectivePlace → Option Directive
  | .word =>
      match Threshold.ofText? text with
      | some threshold => some { draft with threshold := threshold }
      | none => some { draft with target := some (String.ofList text) }
  | .level first =>
      if (text.drop first).isEmpty then some draft
      else
        (Threshold.ofText? (text.drop first)).map fun threshold =>
          { draft with threshold := threshold }
  | .spanDone => some draft
  | _ => none

/-- The directive that a text says.  Blanks around it are not read, but positions are
counted as if the text started with what is read. -/
def ofText? (text : List Char) : Option Directive :=
  let read := ((Text.dropBlank text).reverse.dropWhile Text.isBlank).reverse
  match readFrom text everything .start 0 read with
  | none => none
  | some (draft, place) => finish? text draft place

/-- Whether a directive concerns events outside of any work. -/
def isStatic (directive : Directive) : Bool :=
  directive.span.isNone && !directive.fields.any FieldDemand.hasValue

/-- Whether a directive concerns the events of this program, which have a message and no
other field. -/
def concernsEvents (directive : Directive) : Bool :=
  directive.isStatic && directive.target.all (·.toList.isPrefixOf Event.target.toList) &&
    directive.fields.all (·.name = "message")

/-- How specific a directive is: by the length of its target first, then by its fields. -/
def isAtLeastAsSpecific (directive other : Directive) : Bool :=
  let length (directive : Directive) : Nat := match directive.target with
    | none => 0
    | some target => target.length + 1
  length other < length directive ||
    (length other = length directive && other.fields.length ≤ directive.fields.length)

end Directive

/-- Directives, of which a later one takes the place of one that is as specific. -/
structure EventFilter where
  directives : List Directive
deriving DecidableEq, Repr

namespace EventFilter

/-- The filter that shows events up to a level. -/
def upTo (level : Level) : EventFilter := ⟨[⟨none, none, [], some level⟩]⟩

/-- The filter that a text says: directives with commas between them.  Without any, only
errors are shown. -/
def ofText? (text : String) : Option EventFilter :=
  let pieces := (text.splitOn ",").filter (!·.isEmpty)
  if pieces.isEmpty then some (upTo .error)
  else (pieces.mapM fun piece => Directive.ofText? piece.toList).map EventFilter.mk

/-- The filter that is used: informative events are shown unless something else has been
said properly. -/
def ofSetting (text : Option String) : EventFilter :=
  ((text.bind ofText?)).getD (upTo .info)

/-- The directive that decides about the events of this program. -/
def deciding? (filter : EventFilter) : Option Directive :=
  (filter.directives.filter Directive.concernsEvents).foldl
    (fun best directive => match best with
      | none => some directive
      | some other => if directive.isAtLeastAsSpecific other then some directive else some other)
    none

/-- Whether an event is shown. -/
def shows (filter : EventFilter) (event : Event) : Bool :=
  match filter.deciding? with
  | some directive => directive.threshold.admits event.level
  | none => false

end EventFilter

end ResultBoards
