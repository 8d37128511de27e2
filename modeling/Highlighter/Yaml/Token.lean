import Highlighter.Yaml.Scalar

namespace Highlighter.Yaml

inductive Token where
  | version (major minor : Nat)
  | tagHandle (handle expansion : String)
  | documentStart
  | documentEnd
  | blockSequence
  | blockMapping
  | blockEnd
  | flowSequence
  | flowSequenceEnd
  | flowMapping
  | flowMappingEnd
  | blockEntry
  | flowEntry
  | key
  | value
  | alias (name : String)
  | anchor (name : String)
  | tag (handle suffix : String)
  | scalar (plain : Bool) (text : String)
deriving DecidableEq, Repr

/-- The name at the front of a text, with what follows. -/
def takeName (glyphs : List Glyph) : String × List Glyph :=
  (String.ofList ((glyphs.takeWhile Glyph.isName).map Glyph.char), glyphs.dropWhile Glyph.isName)

/-- The name of an anchor or an alias, from after its indicator. -/
def anchorName (glyphs : List Glyph) : Except Problem (String × List Glyph) :=
  let (name, rest) := takeName glyphs
  if !name.isEmpty && (endsWord rest || nextIsIn ['?', ':', ',', ']', '\x7d', '%', '@', '\x60'] rest) then
    .ok (name, rest)
  else .error .anchorName

/-- The bytes of a character that are written with a percent sign and two digits each. -/
def percentBytes : Nat → List Glyph → Option (List Nat × List Glyph)
  | 0, glyphs => some ([], glyphs)
  | _ + 1, [] => none
  | bytes + 1, g :: rest =>
    if g.char = '%' then do
      let (byte, rest) ← hexNumber 0 2 rest
      let (more, rest) ← percentBytes bytes rest
      return (byte :: more, rest)
    else none

/-- The length of a character in UTF-8, told by its first byte. -/
def utf8Length? (byte : Nat) : Option Nat :=
  if byte < 0x80 then some 1
  else if 0xc0 ≤ byte && byte < 0xe0 then some 2
  else if 0xe0 ≤ byte && byte < 0xf0 then some 3
  else if 0xf0 ≤ byte && byte < 0xf8 then some 4
  else none

/-- One character written in percent signs. Bytes that no character has become a replacement character. -/
def percentChar (glyphs : List Glyph) : Option (Char × List Glyph) := do
  let (first, _) ← percentBytes 1 glyphs
  let (bytes, rest) ← percentBytes (← utf8Length? (first.headD 0)) glyphs
  if (bytes.drop 1).all fun byte => 0x80 ≤ byte && byte < 0xc0 then
    let decoded := String.fromUTF8? (bytes.map Nat.toUInt8).toByteArray
    return ((decoded.bind (·.toList.head?)).getD '\ufffd', rest)
  else none

def isTagChar (verbatim : Bool) (g : Glyph) : Bool :=
  g.isName || ";/?:@&=+$.!~*'()".toList.contains g.char || (verbatim && [',', '[', ']'].contains g.char)

/-- The characters of a tag. -/
def tagText (verbatim : Bool) : Nat → List Glyph → Except Problem (List Char × List Glyph)
  | 0, glyphs => .ok ([], glyphs)
  | _ + 1, [] => .ok ([], [])
  | fuel + 1, g :: rest => do
    if g.char = '%' then
      match percentChar (g :: rest) with
      | some (c, rest) =>
        let (text, rest) ← tagText verbatim fuel rest
        return (c :: text, rest)
      | none => throw .tag
    else if isTagChar verbatim g then
      let (text, rest) ← tagText verbatim fuel rest
      return (g.char :: text, rest)
    else return ([], g :: rest)

/-- A tag's handle from its exclamation mark on; it need not have a second one. -/
def tagHandle : List Glyph → Option (String × List Glyph)
  | g :: rest =>
    if g.char = '!' then
      let (name, rest) := takeName rest
      if nextIsIn ['!'] rest then some ("!" ++ name ++ "!", rest.drop 1) else some ("!" ++ name, rest)
    else none
  | [] => none

/-- A tag from its exclamation mark on: `!<text>`, `!handle!suffix`, `!suffix` or `!` alone. -/
def readTag (inFlow : Bool) (glyphs : List Glyph) : Except Problem (Token × List Glyph) := do
  let (token, rest) ←
    if nextIsIn ['<'] (glyphs.drop 1) then
      let (text, rest) ← tagText true glyphs.length (glyphs.drop 2)
      if !text.isEmpty && nextIsIn ['>'] rest then pure (Token.tag "" (String.ofList text), rest.drop 1)
      else throw .tag
    else
      match tagHandle glyphs with
      | none => throw .tag
      | some (handle, rest) =>
        let (text, rest) ← tagText false glyphs.length rest
        if 1 < handle.length && handle.endsWith "!" then
          if text.isEmpty then throw .tag else pure (Token.tag handle (String.ofList text), rest)
        else
          let suffix := (handle.drop 1).toString ++ String.ofList text
          pure (if suffix.isEmpty then Token.tag "" "!" else Token.tag "!" suffix, rest)
  if (inFlow && nextIsIn [','] rest) || endsWord rest then return (token, rest) else throw .tag

/-- A number of at most nine digits. -/
def versionNumber (glyphs : List Glyph) : Option (Nat × List Glyph) :=
  let digits := glyphs.takeWhile (·.char.isDigit)
  if digits.isEmpty || 9 < digits.length then none
  else some (digits.foldl (fun n g => 10 * n + (g.char.toNat - '0'.toNat)) 0, glyphs.dropWhile (·.char.isDigit))

/-- The value of a version directive. -/
def versionDirective (glyphs : List Glyph) : Option (Token × List Glyph) := do
  let (major, rest) ← versionNumber glyphs
  guard (nextIsIn ['.'] rest)
  let (minor, rest) ← versionNumber (rest.drop 1)
  return (.version major minor, rest)

/-- The value of a tag directive: a handle and what it stands for. -/
def tagDirective (glyphs : List Glyph) : Option (Token × List Glyph) := do
  let (handle, rest) ← tagHandle glyphs
  guard ((handle.length = 1 || handle.endsWith "!") && rest.head?.any Glyph.isBlank)
  let (text, rest) ← (tagText true rest.length (skipBlanks rest)).toOption
  guard (!text.isEmpty && endsWord rest)
  return (.tagHandle handle (String.ofList text), rest)

/-- A directive from after its percent sign to the end of its line. -/
def readDirective (glyphs : List Glyph) : Option (Token × List Glyph) := do
  let (name, rest) := takeName glyphs
  guard (endsWord rest)
  let (token, rest) ←
    if name = "YAML" then versionDirective (skipBlanks rest)
    else if name = "TAG" then tagDirective (skipBlanks rest)
    else none
  return (token, ← skipLineEnd rest)

/-- A place where a key may have started, after so many tokens. A key has to end on its line and within 1024
characters. At the indentation of a block nothing but a key can stand. -/
structure KeyStart where
  line : Nat
  column : Nat
  index : Nat
  tokens : Nat
  required : Bool

structure Lexer where
  rest : List Glyph
  /-- The tokens so far, the last one first. -/
  tokens : List Token := []
  /-- The columns of the open blocks, the innermost first. -/
  indents : List Nat := []
  keyAllowed : Bool := true
  /-- The key that may have started in the innermost brackets. -/
  keyStart : Option KeyStart := none
  /-- The same for the brackets around them, and for the block around all. -/
  outer : List (Option KeyStart) := []

namespace Lexer

def inFlow (l : Lexer) : Bool := !l.outer.isEmpty

def add (l : Lexer) (token : Token) : Lexer := { l with tokens := token :: l.tokens }

/-- Puts a token behind so many of those before. -/
def addAfter (l : Lexer) (count : Nat) (token : Token) : Lexer :=
  { l with tokens := l.tokens.insertIdx (l.tokens.length - count) token }

/-- The least column at which the innermost block goes on inside a scalar. -/
def least (l : Lexer) : Nat := l.indents.head?.elim 0 (· + 1)

/-- Opens a block at a column to the right of the innermost one, in front of the tokens after the first `count`. -/
def openBlock (l : Lexer) (column count : Nat) (token : Token) : Lexer :=
  if !l.inFlow && l.least ≤ column then { l.addAfter count token with indents := column :: l.indents } else l

/-- Closes the blocks to the right of a column, or all. -/
def closeBlocks (l : Lexer) (column : Option Nat) : Lexer :=
  if l.inFlow then l
  else
    let closes (indent : Nat) : Bool := column.all (· < indent)
    { l with
      tokens := List.replicate (l.indents.takeWhile closes).length .blockEnd ++ l.tokens
      indents := l.indents.dropWhile closes }

/-- Gives up the key that may have started. -/
def dropKey (l : Lexer) : Except Problem Lexer :=
  if l.keyStart.any (·.required) then .error .keyWithoutValue else .ok { l with keyStart := none }

/-- Remembers that a key may start here. -/
def markKey (l : Lexer) (g : Glyph) : Except Problem Lexer :=
  if l.keyAllowed then do
    let l ← l.dropKey
    let required := !l.inFlow && l.indents.head? = some g.column
    return { l with keyStart := some ⟨g.line, g.column, g.index, l.tokens.length, required⟩ }
  else .ok l

/-- Forgets a key that can not have started there, seen from a later place. -/
def forgetStale (here : Glyph) : Option KeyStart → Except Problem (Option KeyStart)
  | none => .ok none
  | some start =>
    if start.line < here.line || start.index + 1024 < here.index then
      if start.required then .error .keyWithoutValue else .ok none
    else .ok (some start)

/-- Skips white space, comments and a byte order mark at the start of the text. Outside brackets a key may start on
a new line, and no tab stands where one may. -/
def skipWhite (inFlow keyAllowed inComment : Bool) : List Glyph → Bool × List Glyph
  | [] => (keyAllowed, [])
  | g :: rest =>
    if g.isBreak then skipWhite inFlow (keyAllowed || !inFlow) false rest
    else if inComment then skipWhite inFlow keyAllowed true rest
    else if g.char = '#' then skipWhite inFlow keyAllowed true rest
    else if g.char = ' ' || (g.char = '\t' && (inFlow || !keyAllowed)) || (g.char = '\ufeff' && g.index = 0) then
      skipWhite inFlow keyAllowed false rest
    else (keyAllowed, g :: rest)

/-- Goes on after a mark that ends a document or starts one. -/
def document (l : Lexer) (token : Token) (rest : List Glyph) : Except Problem Lexer := do
  let l ← (l.closeBlocks none).dropKey
  return { l.add token with keyAllowed := false, rest }

def openFlow (l : Lexer) (g : Glyph) (token : Token) (rest : List Glyph) : Except Problem Lexer := do
  let l ← l.markKey g
  return { l.add token with keyAllowed := true, keyStart := none, outer := l.keyStart :: l.outer, rest }

def closeFlow (l : Lexer) (token : Token) (rest : List Glyph) : Except Problem Lexer := do
  let l ← l.dropKey
  return { l.add token with keyAllowed := false, keyStart := l.outer.headD none, outer := l.outer.drop 1, rest }

/-- An indicator that opens a block if it is the first at its column. -/
def indicator (l : Lexer) (g : Glyph) (opening token : Token) (problem : Problem) (rest : List Glyph) :
    Except Problem Lexer := do
  if !l.inFlow && !l.keyAllowed then throw problem
  let l ← (l.openBlock g.column l.tokens.length opening).dropKey
  return { l.add token with rest }

/-- The colon behind a key. -/
def value (l : Lexer) (g : Glyph) (rest : List Glyph) : Except Problem Lexer :=
  match l.keyStart with
  | some start =>
    let l := (l.addAfter start.tokens .key).openBlock start.column start.tokens .blockMapping
    .ok { l.add .value with keyStart := none, keyAllowed := false, rest }
  | none => (l.indicator g .blockMapping .value .valueNotAllowed rest).map fun l => { l with keyAllowed := !l.inFlow }

/-- A token that can be a key or begin one. -/
def content (l : Lexer) (g : Glyph) (read : Except Problem (Token × List Glyph)) : Except Problem Lexer := do
  let l ← l.markKey g
  let (token, rest) ← read
  return { l.add token with keyAllowed := false, rest }

def plain (l : Lexer) (g : Glyph) : Except Problem Lexer := do
  let l ← l.markKey g
  let (text, broken, rest) ← plainScalar l.inFlow l.least l.rest.length [] l.rest
  return { l.add (.scalar true (String.ofList text)) with keyAllowed := broken, rest }

def block (l : Lexer) (folded : Bool) (rest : List Glyph) : Except Problem Lexer := do
  let l ← l.dropKey
  let (text, rest) ← blockScalar folded l.least rest
  return { l.add (.scalar false (String.ofList text)) with keyAllowed := true, rest }

def quoted (l : Lexer) (g : Glyph) (double : Bool) (rest : List Glyph) : Except Problem Lexer :=
  l.content g <| (quotedScalar double (rest.length + 1) rest).map fun (text, rest) =>
    (.scalar false (String.ofList text), rest)

/-- Whether a plain scalar can begin here. -/
def startsPlain (inFlow : Bool) (g : Glyph) (rest : List Glyph) : Bool :=
  !(g.isWhite || "-?:,[]\x7b\x7d#&*!|>'\"%@\x60".toList.contains g.char)
    || (g.char = '-' && !rest.head?.any Glyph.isBlank)
    || (!inFlow && (g.char = '?' || g.char = ':') && !endsWord rest)

/-- Reads the token that begins at `g`. -/
def token (l : Lexer) (g : Glyph) (rest : List Glyph) : Except Problem Lexer :=
  if g.column = 0 && g.char = '%' then
    match readDirective rest with
    | some (token, rest) => l.document token rest
    | none => .error .directive
  else if startsWithThree '-' (g :: rest) then l.document .documentStart (rest.drop 2)
  else if startsWithThree '.' (g :: rest) then l.document .documentEnd (rest.drop 2)
  else if g.char = '[' then l.openFlow g .flowSequence rest
  else if g.char = '\x7b' then l.openFlow g .flowMapping rest
  else if g.char = ']' then l.closeFlow .flowSequenceEnd rest
  else if g.char = '\x7d' then l.closeFlow .flowMappingEnd rest
  else if g.char = ',' then do
    let l ← l.dropKey
    return { l.add .flowEntry with keyAllowed := true, rest }
  else if g.char = '-' && endsWord rest then
    (l.indicator g .blockSequence .blockEntry .entryNotAllowed rest).map fun l => { l with keyAllowed := true }
  else if g.char = '?' && (l.inFlow || endsWord rest) then
    (l.indicator g .blockMapping .key .keyNotAllowed rest).map fun l => { l with keyAllowed := !l.inFlow }
  else if g.char = ':' && (l.inFlow || endsWord rest) then l.value g rest
  else if g.char = '*' then l.content g ((anchorName rest).map fun (name, rest) => (.alias name, rest))
  else if g.char = '&' then l.content g ((anchorName rest).map fun (name, rest) => (.anchor name, rest))
  else if g.char = '!' then l.content g (readTag l.inFlow (g :: rest))
  else if g.char = '|' && !l.inFlow then l.block false rest
  else if g.char = '>' && !l.inFlow then l.block true rest
  else if g.char = '\'' then l.quoted g false rest
  else if g.char = '\"' then l.quoted g true rest
  else if startsPlain l.inFlow g rest then l.plain g
  else .error .unexpectedCharacter

/-- Reads the tokens to the end of the text. Each takes one character at least. -/
def run : Nat → Lexer → Except Problem Lexer
  | 0, l => .ok l
  | fuel + 1, l => do
    match skipWhite l.inFlow l.keyAllowed false l.rest with
    | (_, []) => (l.closeBlocks none).dropKey
    | (keyAllowed, g :: rest) =>
      let keyStart ← forgetStale g l.keyStart
      let outer ← l.outer.mapM (forgetStale g)
      let l := { l with keyAllowed, keyStart, outer, rest := g :: rest }
      run fuel (← (l.closeBlocks (some g.column)).token g rest)

end Lexer

/-- The tokens of a text. -/
def Token.read (text : String) : Except Problem (List Token) := do
  let glyphs ← Glyph.ofText text
  let l ← Lexer.run (glyphs.length + 1) { rest := glyphs }
  return l.tokens.reverse

end Highlighter.Yaml
