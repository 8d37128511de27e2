import Highlighter.Yaml.Untagged

namespace Highlighter.Yaml

inductive Style where
  | plain
  | singleQuoted
  | doubleQuoted
  | literal
deriving DecidableEq, Repr

/-- Whether the character may stand outside of double quotes. -/
def isPrintable (c : Char) : Bool :=
  c = '\n' || (' ' ≤ c && c ≤ '~') || ('\u00a0' ≤ c && c ≤ '\ufffd' && c ≠ '\ufeff') || '\uffff' < c

/-- Whether the character ends a line, in any of the ways to end one. -/
def endsALine (c : Char) : Bool := isLineBreak c || c = '\r' || c = '\u0085'

def isWhiteChar (c : Char) : Bool := c = ' ' || c = '\t' || endsALine c

/-- Whether two characters of some kinds stand next to each other. -/
def hasAdjacent (p q : Char → Bool) : List Char → Bool
  | a :: b :: rest => (p a && q b) || hasAdjacent p q (b :: rest)
  | _ => false

def isSpace (c : Char) : Bool := c = ' '

/-- Whether a plain scalar would be broken off: by a colon in front of white space or by a number sign behind it. -/
def isBrokenOff : List Char → Bool
  | [] => false
  | [c] => c = ':'
  | a :: b :: rest => (a = ':' && isWhiteChar b) || (isWhiteChar a && b = '#') || isBrokenOff (b :: rest)

/-- Whether a text starts with something other than a plain scalar. -/
def startsAsIndicator : List Char → Bool
  | [] => false
  | c :: rest =>
    "#,[]\x7b\x7d&*!|>'\"%@\x60".toList.contains c || (['?', ':', '-'].contains c && rest.head?.all isWhiteChar)
      || ['-', '-', '-'].isPrefixOf (c :: rest) || ['.', '.', '.'].isPrefixOf (c :: rest)

def isSpaceOrBreak (c : Char) : Bool := isSpace c || endsALine c

/-- Whether quotes that know no escapes can hold the text. -/
def fitsSingleQuotes (text : List Char) : Bool :=
  text.all isPrintable && !hasAdjacent endsALine isSpace text && !hasAdjacent isSpace endsALine text

def fitsPlain (text : List Char) : Bool :=
  fitsSingleQuotes text && !text.any endsALine && !text.head?.any isSpaceOrBreak && !text.getLast?.any isSpaceOrBreak
    && !startsAsIndicator text && !isBrokenOff text

/-- Whether a block can hold the text. -/
def fitsBlock (text : List Char) : Bool :=
  !text.isEmpty && text.all isPrintable && !text.getLast?.any isSpace && !hasAdjacent isSpace endsALine text

def Style.ofText (text : List Char) : Style :=
  if text.contains '\n' then if fitsBlock text then .literal else .doubleQuoted
  else if !isUntagged (String.ofList text) && fitsPlain text then .plain
  else if fitsSingleQuotes text then .singleQuoted
  else .doubleQuoted

def spaces (n : Nat) : List Char := List.replicate n ' '

/-- A text in single quotes, from a place after a line break on or not. A line after a break is indented. -/
def singleQuotedRest (indent : Nat) (afterBreak : Bool) : List Char → List Char
  | [] => if afterBreak then spaces indent ++ ['\''] else ['\'']
  | c :: rest =>
    if endsALine c then c :: singleQuotedRest indent true rest
    else
      (if afterBreak then spaces indent else []) ++ (if c = '\'' then ['\'', '\''] else [c])
        ++ singleQuotedRest indent false rest

/-- So many digits of a number to base 16, with capital letters. -/
def hexDigits : Nat → Nat → List Char
  | 0, _ => []
  | count + 1, n => hexDigits count (n / 16) ++ [(Nat.digitChar (n % 16)).toUpper]

/-- The escape for a character: a letter of its own, or the number in the fewest of two, four or eight digits. -/
def escapeOf (c : Char) : List Char :=
  match escapes.find? fun (letter, meant) => meant = c && letter ≠ '\t' with
  | some (letter, _) => ['\\', letter]
  | none =>
    if c.toNat ≤ 0xff then '\\' :: 'x' :: hexDigits 2 c.toNat
    else if c.toNat ≤ 0xffff then '\\' :: 'u' :: hexDigits 4 c.toNat
    else '\\' :: 'U' :: hexDigits 8 c.toNat

def doubleQuotedChar (c : Char) : List Char :=
  if !isPrintable c || endsALine c || c = '\"' || c = '\\' then escapeOf c else [c]

/-- What tells the reader of a block about its indentation and its last line breaks. -/
def blockHints (text : List Char) : List Char :=
  (if text.head?.any isSpaceOrBreak then ['2'] else []) ++
    match text.reverse with
    | last :: before =>
      if !endsALine last then ['-'] else if before.head?.all endsALine then ['+'] else []
    | [] => ['-']

/-- The lines of a block, each indented unless it is empty. -/
def blockText (indent : Nat) (afterBreak : Bool) : List Char → List Char
  | [] => []
  | c :: rest =>
    if endsALine c then c :: blockText indent true rest
    else (if afterBreak then spaces indent else []) ++ c :: blockText indent false rest

/-- A scalar up to the end of its last line, with lines after the first one indented. -/
def writeScalar (indent : Nat) (text : String) : List Char :=
  let chars := text.toList
  match Style.ofText chars with
  | .plain => chars ++ ['\n']
  | .singleQuoted => '\'' :: singleQuotedRest indent false chars ++ ['\n']
  | .doubleQuoted => '\"' :: chars.flatMap doubleQuotedChar ++ ['\"', '\n']
  | .literal =>
    '|' :: blockHints chars ++ '\n' :: blockText indent true chars
      ++ if chars.getLast?.any endsALine then [] else ['\n']

/-- Whether a key can stand in front of its colon on one line. -/
def isSimpleKey (text : String) : Bool := text.utf8ByteSize ≤ 128 && !text.toList.any endsALine

/-- An entry of a mapping at a column, on lines of its own. -/
def writeEntry (column : Nat) (key value : String) : List Char :=
  let indent := column + 2
  if isSimpleKey key then
    spaces column ++ (writeScalar indent key).dropLast ++ [':', ' '] ++ writeScalar indent value
  else
    spaces column ++ ['?', ' '] ++ writeScalar indent key ++ spaces column ++ [':', ' '] ++ writeScalar indent value

/-- A field that holds a mapping from text to text. -/
def writeMapping (name : String) (entries : List (String × String)) : List Char :=
  if entries.isEmpty then name.toList ++ ": \x7b\x7d\n".toList
  else name.toList ++ [':', '\n'] ++ entries.flatMap fun (key, value) => writeEntry 2 key value

/-- A field that holds a list of texts. -/
def writeList (name : String) (items : List String) : List Char :=
  if items.isEmpty then name.toList ++ ": []\n".toList
  else name.toList ++ [':', '\n'] ++ items.flatMap fun item => '-' :: ' ' :: writeScalar 2 item

end Highlighter.Yaml
