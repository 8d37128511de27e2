import Highlighter.Pattern.Regex

namespace Highlighter.Pattern

/-- Consecutive bytes, one after the other: each range holds the bytes that may stand in its place. -/
abbrev ByteRanges := List (Nat × Nat)

/-- The bytes of the numbers from `lo` to `hi`, written to base 64 with so many digits after the first one, which
`lead` is added to. -/
def digitRanges (lead : Nat) : Nat → Nat → Nat → List ByteRanges
  | 0, lo, hi => [[(lead + lo, lead + hi)]]
  | digits + 1, lo, hi =>
    let size := 64 ^ (digits + 1)
    let first := lo / size
    let last := hi / size
    let within (digit lo hi : Nat) : List ByteRanges :=
      (digitRanges 0x80 digits lo hi).map ((lead + digit, lead + digit) :: ·)
    if first = last then within first (lo % size) (hi % size)
    else
      let cutBelow : Bool := lo % size ≠ 0
      let cutAbove : Bool := hi % size ≠ size - 1
      let start := if cutBelow then first + 1 else first
      let stop := if cutAbove then last - 1 else last
      (if cutBelow then within first (lo % size) (size - 1) else [])
        ++ (if start ≤ stop then [(lead + start, lead + stop) :: List.replicate (digits + 1) (0x80, 0xBF)] else [])
        ++ (if cutAbove then within last 0 (hi % size) else [])

/-- The code points of each length in UTF-8, with the mark of their first byte and the number of the others. -/
def lengthRanges : List (Nat × Nat × Nat × Nat) :=
  [(0, 0x7F, 0, 0), (0x80, 0x7FF, 0xC0, 1), (0x800, 0xD7FF, 0xE0, 2), (0xE000, 0xFFFF, 0xE0, 2),
   (0x10000, 0x10FFFF, 0xF0, 3)]

def byteRanges (set : CharSet) : List ByteRanges :=
  set.ranges.flatMap fun (lo, hi) => lengthRanges.flatMap fun (least, greatest, lead, digits) =>
    if max lo least ≤ min hi greatest then digitRanges lead digits (max lo least) (min hi greatest) else []

/-- Alternatives with the same first part, next to each other. -/
def sharedFirst {α : Type} [BEq α] (alternatives : List (List α)) : List (List (List α)) :=
  alternatives.splitBy fun a b => a.head? == b.head?

/-- What can follow at each place that is reached on the way through alternatives of at most `depth` parts. -/
def places {α : Type} [BEq α] : Nat → List (List α) → List (List (List α))
  | 0, _ => []
  | depth + 1, alternatives =>
    alternatives :: (sharedFirst alternatives).flatMap fun branch =>
      let rest := branch.map (·.drop 1)
      if rest.all List.isEmpty then [] else places depth rest

/-- The number of steps in all, where alternatives go the same way as long as they agree. -/
def steps {α : Type} [BEq α] (depth : Nat) (alternatives : List (List α)) : Nat :=
  total ((places depth alternatives).map fun place => (sharedFirst place).length)

def stateSize : Nat := 32

/-- The size of a state that chooses among `n` others. -/
def unionSize (n : Nat) : Nat := stateSize + 4 * n

/-- The size of a state that goes on with `n` ranges of bytes. -/
def rangesSize (n : Nat) : Nat := stateSize + 8 * n

/-- The size for one character of a set. Read forwards, places with the same continuations are shared. -/
def setSize (backwards : Bool) (set : CharSet) : Nat :=
  if set.isAscii then stateSize + rangesSize set.ranges.length
  else
    let alternatives := byteRanges set
    if backwards then stateSize + unionSize alternatives.length + stateSize * steps 4 alternatives
    else stateSize + total ((places 4 alternatives).eraseDups.map fun place => rangesSize (sharedFirst place).length)

/-- A size that is never less than the other, and sooner found. -/
def setBound (set : CharSet) : Nat := 3 * stateSize + 4 * rangesSize 1 * (byteRanges set).length

def utf8Size (chars : List Char) : Nat := total (chars.map Char.utf8Size)

/-- The size for a choice among literals, which share what they begin with. -/
def literalsSize (backwards : Bool) (literals : List (List Char)) : Nat :=
  let bytes := literals.map fun chars => (String.ofList chars).toUTF8.toList
  let bytes := (if backwards then bytes.map List.reverse else bytes).mergeSort
  stateSize + total ((places (utf8Size literals.flatten) bytes).map fun place =>
    let ways := (sharedFirst (place.filter (!·.isEmpty))).length
    (if ways = 1 then stateSize else rangesSize ways) + if place.any List.isEmpty then unionSize 2 else 0)

namespace Regex

def literal? : Regex → Option (List Char)
  | .literal chars => some chars
  | _ => none

/-- The size of `n` copies in a row. -/
def copies (n size : Nat) : Nat := if n = 0 then stateSize else n * size

/-- The size of the automaton for an expression, where `setSize` gives that for one character of a set, and its size
as a branch of a choice, which has a way to each of its branches. Groups mark both their ends, except backwards. -/
def sizes (setSize : CharSet → Nat) (backwards : Bool) : Regex → Nat × Nat
  | .empty | .look _ => alone stateSize
  | .literal chars => alone (copies (utf8Size chars) stateSize)
  | .oneOf set => alone (setSize set)
  | .group _ r => alone ((r.sizes setSize backwards).1 + if backwards then 0 else 2 * stateSize)
  | .rep least none _ r =>
    let inner := (r.sizes setSize backwards).1
    alone <|
      if 0 < least then least * inner + unionSize 2
      else if r.needsText then inner + unionSize 2
      else inner + 2 * unionSize 2 + stateSize
  | .rep least (some extra) _ r =>
    let inner := (r.sizes setSize backwards).1
    alone <|
      if least = 0 && extra = 1 then inner + unionSize 2 + stateSize
      else if extra = 0 then copies least inner
      else copies least inner + stateSize + extra * (unionSize 2 + inner)
  | .seq r s => alone ((r.sizes setSize backwards).1 + (s.sizes setSize backwards).1)
  | .alt r s =>
    let branches := (r.sizes setSize backwards).2 + (s.sizes setSize backwards).2
    match (Regex.alt r s).branches.mapM literal? with
    | some literals => (literalsSize backwards literals, branches)
    | none => (branches + unionSize 0 + stateSize, branches)
where
  alone (size : Nat) : Nat × Nat := (size, size + 4)

/-- The size of the whole automaton, which looks for a match anywhere. -/
def wholeSize (setSize : CharSet → Nat) (backwards : Bool) (r : Regex) : Nat :=
  unionSize 2 + stateSize + rangesSize 1 + ((Regex.group 0 r).sizes setSize backwards).1 + stateSize

/-- The greatest size that is accepted. -/
def sizeLimit : Nat := 10485760

/-- Whether both automata are within the limit. A bound on the sizes of sets settles it for most expressions. -/
def fits (r : Regex) : Bool :=
  [false, true].all fun backwards =>
    r.wholeSize setBound backwards ≤ sizeLimit || r.wholeSize (setSize backwards) backwards ≤ sizeLimit

end Regex

end Highlighter.Pattern
