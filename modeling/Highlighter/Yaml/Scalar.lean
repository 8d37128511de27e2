import Highlighter.Yaml.Glyph

namespace Highlighter.Yaml

/-- The line breaks among some white space. -/
def breaksOf (white : List Glyph) : List Char := (white.filter Glyph.isBreak).map Glyph.char

/-- What white space inside a scalar stands for: without a line break itself, else the breaks alone. A single line
feed becomes a space and the first of several is left out. -/
def foldWhite (white : List Glyph) : List Char :=
  match breaksOf white with
  | [] => white.map Glyph.char
  | ['\n'] => [' ']
  | '\n' :: breaks => breaks
  | breaks => breaks

/-- The text up to white space, or to a character that ends a plain scalar. -/
def plainWord (inFlow : Bool) : List Glyph → Except Problem (List Char × List Glyph)
  | [] => .ok ([], [])
  | g :: rest =>
    if g.isWhite then .ok ([], g :: rest)
    else if inFlow && g.char = ':' && nextIsIn [',', '?', '[', ']', '\x7b', '\x7d'] rest then .error .colonInFlow
    else if (g.char = ':' && endsWord rest) || (inFlow && [',', '[', ']', '\x7b', '\x7d'].contains g.char) then
      .ok ([], g :: rest)
    else (plainWord inFlow rest).map fun (text, after) => (g.char :: text, after)

/-- Whether white space holds a line break and, on a later line, a tab before the given column. -/
def tabBefore (column : Nat) (white : List Glyph) : Bool :=
  (white.dropWhile fun g => !g.isBreak).any fun g => g.char = '\t' && g.column < column

/-- The rest of a plain scalar that follows some white space, whether a line break stands before what comes next,
and what comes next. Lines of the scalar start at `indent` or later, except inside brackets. -/
def plainScalar (inFlow : Bool) (indent : Nat) : Nat → List Glyph → List Glyph →
    Except Problem (List Char × Bool × List Glyph)
  | 0, white, glyphs => .ok ([], white.any Glyph.isBreak, glyphs)
  | fuel + 1, white, glyphs => do
    let stop := .ok ([], white.any Glyph.isBreak, glyphs)
    if startsWithDocumentMark glyphs || nextIsIn ['#'] glyphs then stop
    else
      let (word, after) ← plainWord inFlow glyphs
      if word.isEmpty then stop
      else
        let text := foldWhite white ++ word
        let white := after.takeWhile Glyph.isWhite
        let next := after.dropWhile Glyph.isWhite
        if white.isEmpty then return (text, false, after)
        else if tabBefore indent white then throw .tabInIndentation
        else if !inFlow && (next.head?.any fun g => g.column < indent) then
          return (text, white.any Glyph.isBreak, next)
        else
          let (more, broken, rest) ← plainScalar inFlow indent fuel white next
          return (text ++ more, broken, rest)

/-- The characters that a letter after a backslash stands for. -/
def escapes : List (Char × Char) :=
  [('0', '\x00'), ('a', '\x07'), ('b', '\x08'), ('t', '\t'), ('\t', '\t'), ('n', '\n'), ('v', '\x0b'),
   ('f', '\x0c'), ('r', '\r'), ('e', '\x1b'), (' ', ' '), ('\"', '\"'), ('/', '/'), ('\\', '\\'),
   ('N', '\u0085'), ('_', '\u00a0'), ('L', '\u2028'), ('P', '\u2029')]

/-- The value of a digit to base 16. -/
def hexDigit? (c : Char) : Option Nat :=
  if c.isDigit then some (c.toNat - '0'.toNat)
  else if 'a' ≤ c && c ≤ 'f' then some (c.toNat - 'a'.toNat + 10)
  else if 'A' ≤ c && c ≤ 'F' then some (c.toNat - 'A'.toNat + 10)
  else none

/-- Reads so many digits to base 16, going on from a value. -/
def hexNumber (value : Nat) : Nat → List Glyph → Option (Nat × List Glyph)
  | 0, glyphs => some (value, glyphs)
  | _ + 1, [] => none
  | digits + 1, g :: rest => (hexDigit? g.char).bind fun digit => hexNumber (16 * value + digit) digits rest

/-- How many digits follow a letter that introduces a character's number. -/
def hexLength? : Char → Option Nat
  | 'x' => some 2
  | 'u' => some 4
  | 'U' => some 8
  | _ => none

/-- The character that an escape stands for. -/
def escape (letter : Char) (rest : List Glyph) : Except Problem (Char × List Glyph) :=
  match escapes.lookup letter, (hexLength? letter).bind fun digits => hexNumber 0 digits rest with
  | some c, _ => .ok (c, rest)
  | none, some (value, rest) => if value.isValidChar then .ok (Char.ofNat value, rest) else .error .escape
  | none, none => .error .escape

/-- The rest of a scalar between quotes, from after the opening one. A single quote is written twice; only double
quotes know escapes. -/
def quotedScalar (double : Bool) : Nat → List Glyph → Except Problem (List Char × List Glyph)
  | 0, _ | _ + 1, [] => .error .quoteUnclosed
  | fuel + 1, g :: rest => do
    if startsWithDocumentMark (g :: rest) then throw .documentMarkInQuotes
    else if g.isWhite then
      let white := (g :: rest).takeWhile Glyph.isWhite
      let (text, after) ← quotedScalar double fuel (rest.dropWhile Glyph.isWhite)
      return (foldWhite white ++ text, after)
    else if g.char = (if double then '\"' else '\'') then
      if !double && nextIsIn ['\''] rest then
        let (text, after) ← quotedScalar double fuel (rest.drop 1)
        return ('\'' :: text, after)
      else return ([], rest)
    else if double && g.char = '\\' then
      match rest with
      | [] => throw .quoteUnclosed
      | letter :: rest =>
        if letter.isBreak then
          let (text, after) ← quotedScalar double fuel (rest.dropWhile Glyph.isWhite)
          return (breaksOf (rest.takeWhile Glyph.isWhite) ++ text, after)
        else
          let (c, rest) ← escape letter.char rest
          let (text, after) ← quotedScalar double fuel rest
          return (c :: text, after)
    else
      let (text, after) ← quotedScalar double fuel rest
      return (g.char :: text, after)

/-- What becomes of the line breaks at the end of a block scalar. -/
inductive Chomping where
  | strip
  | clip
  | keep
deriving DecidableEq, Repr

/-- What stands between the indicator of a block scalar and its first line. -/
structure BlockHeader where
  chomping : Chomping := .clip
  /-- The indentation of the scalar relative to what it belongs to. -/
  increment : Option Nat := none

def chompingMark? : List Glyph → Option (Chomping × List Glyph)
  | g :: rest => if g.char = '+' then some (.keep, rest) else if g.char = '-' then some (.strip, rest) else none
  | [] => none

/-- A digit other than 0. -/
def incrementMark? : List Glyph → Except Problem (Option (Nat × List Glyph))
  | g :: rest =>
    if g.char = '0' then .error .blockHeader
    else if g.char.isDigit then .ok (some (g.char.toNat - '0'.toNat, rest))
    else .ok none
  | [] => .ok none

/-- The two marks of a block scalar stand in either order. -/
def BlockHeader.read (glyphs : List Glyph) : Except Problem (BlockHeader × List Glyph) := do
  let (header, rest) ← match chompingMark? glyphs with
    | some (chomping, rest) =>
      match ← incrementMark? rest with
      | some (increment, rest) => pure (⟨chomping, some increment⟩, rest)
      | none => pure (⟨chomping, none⟩, rest)
    | none =>
      match ← incrementMark? glyphs with
      | some (increment, rest) =>
        match chompingMark? rest with
        | some (chomping, rest) => pure (⟨chomping, some increment⟩, rest)
        | none => pure (⟨.clip, some increment⟩, rest)
      | none => pure ({}, glyphs)
  match skipLineEnd rest with
  | some rest => return (header, rest)
  | none => throw .blockHeader

/-- Skips empty lines and the indentation of the line after them: their breaks, the widest indentation met, and what
follows. No more than `indent` columns are indentation, if it is known. -/
def blockBreaks (indent : Option Nat) (widest : Nat) : List Glyph → Except Problem (List Char × Nat × List Glyph)
  | [] => .ok ([], widest, [])
  | g :: rest =>
    let inside := indent.all (g.column < ·)
    if inside && g.char = ' ' then blockBreaks indent (max widest (g.column + 1)) rest
    else if inside && g.char = '\t' then .error .tabInIndentation
    else if g.isBreak then
      (blockBreaks indent widest rest).map fun (breaks, widest, after) => (g.char :: breaks, widest, after)
    else .ok ([], widest, g :: rest)

/-- The end of a block scalar's text: the break of the last line and those of the empty lines after it. -/
structure BlockTail where
  lineBreak : Option Char
  breaks : List Char

def BlockTail.text (tail : BlockTail) : Chomping → List Char
  | .strip => []
  | .clip => tail.lineBreak.toList
  | .keep => tail.lineBreak.toList ++ tail.breaks

/-- The lines of a block scalar, from the first character of one on. Folding turns the break between two lines into
a space, or drops it before empty lines, unless one of the two lines starts with a blank. -/
def blockLines (folded : Bool) (indent : Nat) : Nat → (afterBlank : Bool) → BlockTail → List Glyph →
    Except Problem (List Char × BlockTail × List Glyph)
  | 0, _, tail, glyphs => .ok ([], tail, glyphs)
  | _ + 1, _, tail, [] => .ok ([], tail, [])
  | fuel + 1, afterBlank, tail, g :: glyphs => do
    if g.column = indent then
      let joint :=
        if folded && tail.lineBreak = some '\n' && !afterBlank && !g.isBlank then
          if tail.breaks.isEmpty then [' '] else tail.breaks
        else tail.lineBreak.toList ++ tail.breaks
      let line := ((g :: glyphs).takeWhile fun g => !g.isBreak).map Glyph.char
      let rest := (g :: glyphs).dropWhile fun g => !g.isBreak
      let (breaks, _, rest') ← blockBreaks (some indent) 0 (rest.drop 1)
      let (more, tail, after) ← blockLines folded indent fuel g.isBlank ⟨rest.head?.map Glyph.char, breaks⟩ rest'
      return (joint ++ line ++ more, tail, after)
    else return ([], tail, g :: glyphs)

/-- A block scalar from after its indicator. Its lines start at column `least` or later. -/
def blockScalar (folded : Bool) (least : Nat) (glyphs : List Glyph) : Except Problem (List Char × List Glyph) := do
  let (header, rest) ← BlockHeader.read glyphs
  let given := header.increment.map (least - 1 + ·)
  let (breaks, widest, rest) ← blockBreaks given 0 rest
  let indent := given.getD (max (max widest least) 1)
  let (text, tail, rest) ← blockLines folded indent rest.length false ⟨none, breaks⟩ rest
  return (text ++ tail.text header.chomping, rest)

end Highlighter.Yaml
