import ResultBoards.Text.Digits

/-!
# Socket addresses

An address of a host together with a port, such as `127.0.0.1:8080` or `[::1]:8080`.
-/

namespace ResultBoards

/-- The address of a host: four bytes, or eight groups of 16 bits, which may be followed by
the number of the network that they are meant in. -/
inductive HostAddress
  | short (bytes : List Nat)
  | long (groups : List Nat) (scope : Nat)
deriving DecidableEq, Repr

/-- A host and a port on it. -/
structure SocketAddress where
  host : HostAddress
  port : Nat
deriving DecidableEq, Repr

namespace SocketAddress

/-! ## Reading -/

/-- Reads a character. -/
def readChar (c : Char) : List Char → Option (List Char)
  | d :: rest => if d = c then some rest else none
  | [] => none

/-- Reads a decimal number up to a bound. -/
def readNumber (bound : Nat) (text : List Char) : Option (Nat × List Char) :=
  let digits := text.takeWhile Char.isDigit
  let value := Text.numberOf 10 digits
  if digits.isEmpty ∨ bound < value then none else some (value, text.drop digits.length)

/-- Reads a byte: up to three digits, of which the first of several is not zero. -/
def readByte (text : List Char) : Option (Nat × List Char) :=
  let digits := text.takeWhile Char.isDigit
  if 3 < digits.length ∨ (1 < digits.length ∧ digits.head? = some '0') then none
  else readNumber 255 text

/-- Reads some bytes with points between them. -/
def readBytes : (count : Nat) → List Char → Option (List Nat × List Char)
  | 0, text => some ([], text)
  | 1, text => (readByte text).map fun (byte, rest) => ([byte], rest)
  | count + 1, text => do
      let (byte, rest) ← readByte text
      let rest ← readChar '.' rest
      let (bytes, rest) ← readBytes count rest
      return (byte :: bytes, rest)

/-- Reads a group: up to four hexadecimal digits. -/
def readGroup (text : List Char) : Option (Nat × List Char) :=
  let digits := text.takeWhile fun c => (Text.hexValue? c).isSome
  if digits.isEmpty ∨ 4 < digits.length then none
  else some (Text.numberOf 16 digits, text.drop digits.length)

/-- The groups that bytes make in pairs. -/
def groupsOfBytes : List Nat → List Nat
  | high :: low :: rest => (high * 256 + low) :: groupsOfBytes rest
  | _ => []

/-- Reads as many groups as there are up to a limit, with colons between them.  Four bytes
at the end stand for two groups; it is said whether there were any. -/
def readGroups : (limit : Nat) → (isFirst : Bool) → List Char → List Nat × Bool × List Char
  | 0, _, text => ([], false, text)
  | limit + 1, isFirst, text =>
      match if isFirst then some text else readChar ':' text with
      | none => ([], false, text)
      | some start =>
          match if limit = 0 then none else readBytes 4 start with
          | some (bytes, rest) => (groupsOfBytes bytes, true, rest)
          | none =>
              match readGroup start with
              | none => ([], false, text)
              | some (group, rest) =>
                  let (groups, withBytes, rest) := readGroups limit false rest
                  (group :: groups, withBytes, rest)

/-- Reads eight groups.  Two colons stand for groups of zero that have been left out. -/
def readLong (text : List Char) : Option (List Nat × List Char) :=
  let (head, withBytes, rest) := readGroups 8 true text
  if head.length = 8 then some (head, rest)
  else if withBytes then none
  else do
    let rest ← readChar ':' rest
    let rest ← readChar ':' rest
    let (tail, _, rest) := readGroups (7 - head.length) true rest
    return (head ++ List.replicate (8 - head.length - tail.length) 0 ++ tail, rest)

/-- Reads the number of a network, which is zero if there is none. -/
def readScope (text : List Char) : Nat × List Char :=
  match (readChar '%' text).bind (readNumber 0xffffffff) with
  | some read => read
  | none => (0, text)

/-- Reads a host, whose groups stand in brackets. -/
def readHost (text : List Char) : Option (HostAddress × List Char) :=
  match readBytes 4 text with
  | some (bytes, rest) => some (.short bytes, rest)
  | none => do
      let rest ← readChar '[' text
      let (groups, rest) ← readLong rest
      let (scope, rest) := readScope rest
      let rest ← readChar ']' rest
      return (.long groups scope, rest)

/-- Reads an address, which is the whole text. -/
def ofText? (text : String) : Option SocketAddress := do
  let (host, rest) ← readHost text.toList
  let rest ← readChar ':' rest
  let (port, rest) ← readNumber 65535 rest
  if rest.isEmpty then some ⟨host, port⟩ else none

/-! ## Writing -/

/-- Groups with colons between them. -/
def writeGroups (groups : List Nat) : String :=
  ":".intercalate (groups.map fun group => String.ofList (Text.hexNumeral group))

/-- How many groups of zero there are at the start. -/
def zerosAtStart (groups : List Nat) : Nat :=
  (groups.takeWhile (· = 0)).length

/-- Where the longest run of zeros starts and how long it is; the first of several. -/
def longestZeros : (position : Nat) → List Nat → Nat × Nat
  | position, [] => (position, 0)
  | position, group :: rest =>
      let here := zerosAtStart (group :: rest)
      let later := longestZeros (position + 1) rest
      if later.2 ≤ here then (position, here) else later

/-- Bytes with points between them. -/
def writeBytes (bytes : List Nat) : String :=
  ".".intercalate (bytes.map toString)

/-- Eight groups, with two colons for the longest run of zeros.  Four bytes in the last two
groups are written as such after `::ffff:`. -/
def writeLong (groups : List Nat) : String :=
  match groups with
  | [0, 0, 0, 0, 0, 0xffff, high, low] =>
      "::ffff:" ++ writeBytes [high / 256, high % 256, low / 256, low % 256]
  | _ =>
      let (start, count) := longestZeros 0 groups
      if 1 < count then
        writeGroups (groups.take start) ++ "::" ++ writeGroups (groups.drop (start + count))
      else writeGroups groups

/-- A host. -/
def writeHost : HostAddress → String
  | .short bytes => writeBytes bytes
  | .long groups 0 => s!"[{writeLong groups}]"
  | .long groups scope => s!"[{writeLong groups}%{scope}]"

/-- An address in words. -/
def toText (address : SocketAddress) : String :=
  s!"{writeHost address.host}:{address.port}"

end SocketAddress

end ResultBoards
