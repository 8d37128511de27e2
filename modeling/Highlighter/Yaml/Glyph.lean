namespace Highlighter.Yaml

/-- Why a text is not YAML, or not the YAML that is asked for. -/
inductive Problem where
  | controlCharacter
  | unexpectedCharacter
  | entryNotAllowed
  | keyNotAllowed
  | valueNotAllowed
  | keyWithoutValue
  | directive
  | anchorName
  | tag
  | blockHeader
  | tabInIndentation
  | documentMarkInQuotes
  | quoteUnclosed
  | escape
  | colonInFlow
  | documentStartExpected
  | contentExpected
  | entryExpected
  | keyExpected
  | flowEndExpected
  | tagHandle
  | unknownAlias
  | severalDocuments
  | notText
  | notNull
  | notSequence
  | notMapping
  | fieldMissing (name : String)
  | fieldRepeated (name : String)
deriving DecidableEq, Repr

def Problem.message : Problem → String
  | .controlCharacter => "control characters are not allowed"
  | .unexpectedCharacter => "found character that cannot start any token"
  | .entryNotAllowed => "block sequence entries are not allowed in this context"
  | .keyNotAllowed => "mapping keys are not allowed in this context"
  | .valueNotAllowed => "mapping values are not allowed in this context"
  | .keyWithoutValue => "could not find expected ':'"
  | .directive => "found malformed directive"
  | .anchorName => "did not find expected alphabetic or numeric character"
  | .tag => "found malformed tag"
  | .blockHeader => "found malformed block scalar header"
  | .tabInIndentation => "found a tab character that violates indentation"
  | .documentMarkInQuotes => "found unexpected document indicator"
  | .quoteUnclosed => "found unexpected end of stream"
  | .escape => "found unknown escape character"
  | .colonInFlow => "found unexpected ':'"
  | .documentStartExpected => "did not find expected <document start>"
  | .contentExpected => "did not find expected node content"
  | .entryExpected => "did not find expected '-' indicator"
  | .keyExpected => "did not find expected key"
  | .flowEndExpected => "did not find expected ',' or closing bracket"
  | .tagHandle => "found undefined tag handle"
  | .unknownAlias => "unknown anchor"
  | .severalDocuments => "more than one document"
  | .notText => "invalid type: expected a string"
  | .notNull => "invalid value: expected null"
  | .notSequence => "invalid type: expected a sequence"
  | .notMapping => "invalid type: expected a map"
  | .fieldMissing name => s!"missing field {name}"
  | .fieldRepeated name => s!"duplicate field {name}"

/-- Whether a text may hold the character at all. -/
def isAllowed (c : Char) : Bool :=
  c = '\t' || c = '\n' || c = '\r' || c = '\u0085' || (' ' ≤ c && c ≤ '~') || ('\u00a0' ≤ c && c ≤ '\ufffd') || '\uffff' < c

def isLineBreak (c : Char) : Bool := c = '\n' || c = '\u2028' || c = '\u2029'

/-- A character at its place. Lines and columns count from 0; so does the index in the whole text. -/
structure Glyph where
  char : Char
  line : Nat
  column : Nat
  index : Nat
deriving DecidableEq, Repr

namespace Glyph

/-- The characters of a text that goes on at the given place. -/
def place (line column index : Nat) : List Char → List Glyph
  | [] => []
  | c :: cs =>
    let rest := if isLineBreak c then place (line + 1) 0 (index + 1) cs else place line (column + 1) (index + 1) cs
    ⟨c, line, column, index⟩ :: rest

/-- Writes every line break as a line feed, except the line and the paragraph separator. -/
def unifyBreaks : List Char → List Char
  | [] => []
  | '\r' :: '\n' :: cs => '\n' :: unifyBreaks cs
  | c :: cs => (if c = '\r' || c = '\u0085' then '\n' else c) :: unifyBreaks cs

def ofText (text : String) : Except Problem (List Glyph) :=
  if text.toList.all isAllowed then .ok (place 0 0 0 (unifyBreaks text.toList)) else .error .controlCharacter

def isBlank (g : Glyph) : Bool := g.char = ' ' || g.char = '\t'

def isBreak (g : Glyph) : Bool := isLineBreak g.char

def isWhite (g : Glyph) : Bool := g.isBlank || g.isBreak

/-- Whether the character can stand in the name of an anchor, a directive or a tag handle. -/
def isName (g : Glyph) : Bool := g.char.isAlphanum || g.char = '_' || g.char = '-'

end Glyph

/-- Whether white space comes next, or nothing. -/
def endsWord : List Glyph → Bool
  | [] => true
  | g :: _ => g.isWhite

/-- Whether a line ends here. -/
def endsLine : List Glyph → Bool
  | [] => true
  | g :: _ => g.isBreak

/-- Whether the next character is one of those given. -/
def nextIsIn (chars : List Char) : List Glyph → Bool
  | [] => false
  | g :: _ => chars.contains g.char

/-- Whether a line begins here with three equal marks that stand alone. -/
def startsWithThree (mark : Char) : List Glyph → Bool
  | a :: b :: c :: rest => a.column = 0 && a.char = mark && b.char = mark && c.char = mark && endsWord rest
  | _ => false

def startsWithDocumentMark (glyphs : List Glyph) : Bool := startsWithThree '-' glyphs || startsWithThree '.' glyphs

def skipBlanks (glyphs : List Glyph) : List Glyph := glyphs.dropWhile Glyph.isBlank

/-- Skips blanks and a comment up to the end of the line, if nothing else is there, and the line break too. -/
def skipLineEnd (glyphs : List Glyph) : Option (List Glyph) :=
  let rest := skipBlanks glyphs
  let rest := if nextIsIn ['#'] rest then rest.dropWhile fun g => !g.isBreak else rest
  if endsLine rest then some (rest.drop 1) else none

end Highlighter.Yaml
