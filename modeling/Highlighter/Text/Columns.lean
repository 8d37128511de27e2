namespace Highlighter

/-- What can go wrong with an offset into a line. -/
inductive Fault where
  /-- A character column beyond the end of a line of `length` characters. -/
  | pastEnd (column length : Nat)
  /-- A byte offset inside a character or beyond the end of the line. -/
  | notBoundary (byte : Nat)
deriving DecidableEq, Repr

def Fault.message : Fault → String
  | .pastEnd column length => s!"character offset {column} out of range for line with {length} characters"
  | .notBoundary byte => s!"byte index {byte} is not a char boundary"

namespace Text

/-- The size of a text in UTF-8. -/
def byteLength : List Char → Nat
  | [] => 0
  | c :: cs => c.utf8Size + byteLength cs

/-- The bytes before a character column. The column after the last character is a column too. -/
def charToByte (text : String) (column : Nat) : Except Fault Nat :=
  let chars := text.toList
  if column ≤ chars.length then .ok (byteLength (chars.take column))
  else .error (.pastEnd column chars.length)

/-- How many leading characters fit into the given bytes. -/
def charsWithin : List Char → Nat → Nat
  | [], _ => 0
  | c :: cs, bytes => if c.utf8Size ≤ bytes then charsWithin cs (bytes - c.utf8Size) + 1 else 0

/-- The character column of a byte offset: an offset inside a character counts as that character's start, one
past the end as the end. -/
def byteToChar (text : String) (byte : Nat) : Nat := charsWithin text.toList byte

/-- Divides a text after the given bytes, if a character ends there. -/
def splitAtByte : List Char → Nat → Option (List Char × List Char)
  | cs, 0 => some ([], cs)
  | [], _ + 1 => none
  | c :: cs, bytes =>
    if c.utf8Size ≤ bytes then (splitAtByte cs (bytes - c.utf8Size)).map fun (a, b) => (c :: a, b) else none

/-- Goes on by some bytes in a text that follows the character `before`: the character passed last and what is left,
if a character ends there. -/
def seek (before : Option Char) : List Char → Nat → Option (Option Char × List Char)
  | cs, 0 => some (before, cs)
  | [], _ + 1 => none
  | c :: cs, bytes => if c.utf8Size ≤ bytes then seek (some c) cs (bytes - c.utf8Size) else none

theorem byteLength_of_seek {before after : Option Char} {cs rest : List Char} {bytes : Nat}
    (h : seek before cs bytes = some (after, rest)) : bytes + byteLength rest = byteLength cs := by
  fun_induction seek before cs bytes with
  | case1 => simp only [Option.some.injEq, Prod.mk.injEq] at h; simp [h.2]
  | case2 => exact absurd h (by simp)
  | case3 _ c cs bytes _ fits ih => have := ih h; simp only [byteLength]; omega
  | case4 => exact absurd h (by simp)

/-- The characters between two byte offsets. -/
def slice (text : List Char) (start stop : Nat) : Except Fault (List Char) :=
  match splitAtByte text start with
  | none => .error (.notBoundary start)
  | some (_, rest) =>
    match splitAtByte rest (stop - start) with
    | some (inner, _) => if start ≤ stop then .ok inner else .error (.notBoundary stop)
    | none => .error (.notBoundary stop)

/-- The byte offset that follows the character at `byte`; the end of the text, if no character is there. -/
def nextBoundary (text : List Char) (byte : Nat) : Except Fault Nat :=
  match seek none text byte with
  | none => .error (.notBoundary byte)
  | some (_, c :: _) => .ok (byte + c.utf8Size)
  | some (_, []) => .ok byte

theorem le_of_nextBoundary {text : List Char} {byte next : Nat} (h : nextBoundary text byte = .ok next) :
    byte ≤ next := by
  unfold nextBoundary at h
  split at h <;> simp only [Except.ok.injEq, reduceCtorEq] at h <;> omega

theorem lt_of_nextBoundary {text : List Char} {byte next : Nat} (h : nextBoundary text byte = .ok next)
    (inside : byte < byteLength text) : byte < next := by
  unfold nextBoundary at h
  split at h
  · exact absurd h (by simp)
  · rename_i c _ _
    have := c.utf8Size_pos
    simp only [Except.ok.injEq] at h
    omega
  · rename_i found
    have := byteLength_of_seek found
    simp only [byteLength] at this
    omega

end Text

/-- Converts character columns of one line to byte columns. It goes on from the column asked for last and
starts again only for an earlier one. -/
structure ByteCursor where
  text : List Char
  column : Nat := 0
  byte : Nat := 0

def ByteCursor.ofText (text : String) : ByteCursor where
  text := text.toList

/-- The byte column of a character column, with the cursor moved there. A column past the end moves nothing
but a cursor that had to start again. -/
def ByteCursor.seek (cursor : ByteCursor) (column : Nat) : Except Fault Nat × ByteCursor :=
  let start := if column < cursor.column then { cursor with column := 0, byte := 0 } else cursor
  let skip := column - start.column
  let rest := start.text.drop start.column
  if skip ≤ rest.length then
    let byte := start.byte + Text.byteLength (rest.take skip)
    (.ok byte, { start with column, byte })
  else (.error (.pastEnd column cursor.text.length), start)

/-- Converts byte offsets of one line to character columns, counting only what lies between two calls. -/
structure CharCursor where
  text : List Char
  byte : Nat := 0
  column : Nat := 0

def CharCursor.ofText (text : String) : CharCursor where
  text := text.toList

/-- The character column of a byte offset. The cursor follows, unless the offset lies before it. -/
def CharCursor.seek (cursor : CharCursor) (byte : Nat) : Except Fault (Nat × CharCursor) :=
  if byte < cursor.byte then .ok (Text.charsWithin cursor.text byte, cursor)
  else do
    let between ← Text.slice cursor.text cursor.byte byte
    let column := cursor.column + between.length
    return (column, { cursor with byte, column })

end Highlighter
