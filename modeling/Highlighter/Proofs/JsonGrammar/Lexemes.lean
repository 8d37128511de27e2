import Mathlib.Data.List.Chain
import Highlighter.Token

namespace Highlighter

namespace JsonText

structure Digits where
  first : Fin 10
  more : List (Fin 10)

def Digits.chars (digits : Digits) : List Char := (digits.first :: digits.more).map fun d : Fin 10 => Nat.digitChar d

inductive Sign where
  | plus
  | minus

def Sign.char : Sign → Char
  | .plus => '+'
  | .minus => '-'

structure Exponent where
  capital : Bool
  sign : Option Sign
  digits : Digits

def Exponent.chars (exponent : Exponent) : List Char :=
  (if exponent.capital then 'E' else 'e') :: ((exponent.sign.map Sign.char).toList ++ exponent.digits.chars)

structure Number where
  negative : Bool
  whole : Digits
  /-- Zero is the only whole number that begins with it. -/
  noLeadingZero : whole.first = 0 → whole.more = []
  fraction : Option Digits
  exponent : Option Exponent

namespace Number

def signChars (negative : Bool) : List Char := if negative then ['-'] else []

def fractionChars : Option Digits → List Char
  | none => []
  | some digits => '.' :: digits.chars

def exponentChars : Option Exponent → List Char
  | none => []
  | some exponent => exponent.chars

def chars (number : Number) : List Char :=
  signChars number.negative ++
    (number.whole.chars ++ (fractionChars number.fraction ++ exponentChars number.exponent))

end Number

/-- What may follow a backslash, apart from the code of a character. -/
def escapeLetters : List Char := ['\"', '\\', '/', 'b', 'f', 'n', 'r', 't']

def hexDigits : List Char :=
  ['0', '1', '2', '3', '4', '5', '6', '7', '8', '9', 'a', 'b', 'c', 'd', 'e', 'f', 'A', 'B', 'C', 'D', 'E', 'F']

/-- A character of a text as it is written: as itself, as a letter or as a code of four digits. -/
inductive Symbol where
  | plain (c : Char) (visible : 0x20 ≤ c.toNat) (noQuote : c ≠ '\"') (noBackslash : c ≠ '\\')
  | escape (letter : Char) (known : letter ∈ escapeLetters)
  | code (digits : List Char) (four : digits.length = 4) (hex : ∀ c ∈ digits, c ∈ hexDigits)

def Symbol.chars : Symbol → List Char
  | .plain c _ _ _ => [c]
  | .escape letter _ => ['\\', letter]
  | .code digits _ _ => '\\' :: 'u' :: digits

inductive Punctuation where
  | openBracket
  | closeBracket
  | openBrace
  | closeBrace
  | comma
  | colon

def Punctuation.char : Punctuation → Char
  | .openBracket => '['
  | .closeBracket => ']'
  | .openBrace => '\x7b'
  | .closeBrace => '\x7d'
  | .comma => ','
  | .colon => ':'

inductive Lexeme where
  | punctuation (mark : Punctuation)
  | null
  | bool (value : Bool)
  | number (number : Number)
  | text (symbols : List Symbol)

namespace Lexeme

def chars : Lexeme → List Char
  | .punctuation mark => [mark.char]
  | .null => ['n', 'u', 'l', 'l']
  | .bool true => ['t', 'r', 'u', 'e']
  | .bool false => ['f', 'a', 'l', 's', 'e']
  | .number n => n.chars
  | .text symbols => '\"' :: (symbols.flatMap Symbol.chars ++ ['\"'])

def isScalar : Lexeme → Bool
  | .punctuation _ => false
  | _ => true

end Lexeme

inductive Value where
  | null
  | bool (value : Bool)
  | number (number : Number)
  | text (symbols : List Symbol)
  | list (items : List Value)
  | object (fields : List (List Symbol × Value))

mutual

/-- The lexemes of a value. -/
def Value.lexemes : Value → List Lexeme
  | .null => [.null]
  | .bool value => [.bool value]
  | .number number => [.number number]
  | .text symbols => [.text symbols]
  | .list items => .punctuation .openBracket :: (lexemesOfItems items ++ [.punctuation .closeBracket])
  | .object fields => .punctuation .openBrace :: (lexemesOfFields fields ++ [.punctuation .closeBrace])

/-- Items, with commas between them. -/
def lexemesOfItems : List Value → List Lexeme
  | [] => []
  | [item] => item.lexemes
  | item :: items => item.lexemes ++ .punctuation .comma :: lexemesOfItems items

/-- Fields, each of them a text in quotes, a colon and a value, with commas between them. -/
def lexemesOfFields : List (List Symbol × Value) → List Lexeme
  | [] => []
  | [(name, value)] => .text name :: .punctuation .colon :: value.lexemes
  | (name, value) :: fields =>
    .text name :: .punctuation .colon :: (value.lexemes ++ .punctuation .comma :: lexemesOfFields fields)

end

/-- Scalars do not stand side by side. -/
def Apart (lexemes : List Lexeme) : Prop := lexemes.IsChain fun a b => ¬(a.isScalar ∧ b.isScalar)

namespace Apart

variable {mark : Punctuation} {first second : List Lexeme}

theorem cons (apart : Apart second) : Apart (.punctuation mark :: second) :=
  List.isChain_cons.mpr ⟨fun _ _ both => absurd both.1 Bool.false_ne_true, apart⟩

theorem append (left : Apart first) (right : Apart second) : Apart (first ++ .punctuation mark :: second) :=
  List.IsChain.append left right.cons fun _ _ other known both => by
    cases known
    exact absurd both.2 Bool.false_ne_true

theorem scalar (lexeme : Lexeme) (right : Apart second) : Apart (lexeme :: .punctuation mark :: second) :=
  List.isChain_cons.mpr ⟨fun _ known both => by
    cases known
    exact absurd both.2 Bool.false_ne_true, right.cons⟩

end Apart

mutual

theorem Value.apart : (value : Value) → Apart value.lexemes
  | .null => .singleton _
  | .bool _ => .singleton _
  | .number _ => .singleton _
  | .text _ => .singleton _
  | .list items => ((apart_items items).append .nil).cons
  | .object fields => ((apart_fields fields).append .nil).cons

theorem apart_items : (items : List Value) → Apart (lexemesOfItems items)
  | [] => .nil
  | [item] => item.apart
  | item :: next :: items => item.apart.append (apart_items (next :: items))

theorem apart_fields : (fields : List (List Symbol × Value)) → Apart (lexemesOfFields fields)
  | [] => .nil
  | [(name, value)] => .scalar (.text name) value.apart
  | (name, value) :: next :: fields => .scalar (.text name) (value.apart.append (apart_fields (next :: fields)))

end

inductive Blank where
  | space
  | tab
  | lineFeed
  | carriageReturn
deriving DecidableEq

def Blank.char : Blank → Char
  | .space => ' '
  | .tab => '\t'
  | .lineFeed => '\n'
  | .carriageReturn => '\x0d'

/-- A part of a text: a blank, or a lexeme. -/
inductive Part where
  | blank (blank : Blank)
  | lexeme (lexeme : Lexeme)

namespace Part

def chars : Part → List Char
  | .blank b => [b.char]
  | .lexeme l => l.chars

def lexeme? : Part → Option Lexeme
  | .blank _ => none
  | .lexeme l => some l

def isLineFeed : Part → Bool
  | .blank b => b = .lineFeed
  | .lexeme _ => false

end Part

end JsonText

/-- A JSON text: a value whose lexemes have blanks between them. -/
structure JsonText where
  value : JsonText.Value
  parts : List JsonText.Part
  lexemes : parts.filterMap JsonText.Part.lexeme? = value.lexemes

namespace JsonText

def chars (parts : List Part) : List Char := parts.flatMap Part.chars

/-- The lines of a text, which its line feeds divide. -/
def lines (text : JsonText) : List String := ((chars text.parts).splitOn '\n').map String.ofList

def Lexeme.scope : Lexeme → String
  | .punctuation .comma | .punctuation .colon => "punctuation.separator.json"
  | .punctuation _ => "punctuation.section.json"
  | .null => "constant.language.null.json"
  | .bool _ => "constant.language.boolean.json"
  | .number _ => "constant.numeric.json"
  | .text _ => "string.quoted.double.json"

/-- How many parts of a line there are up to a colon that only blanks stand before. -/
def colonWithin? : List Part → Option Nat
  | .blank _ :: parts => (colonWithin? parts).map (· + 1)
  | .lexeme (.punctuation .colon) :: _ => some 1
  | _ => none

/-- The spans of the lexemes on a line, from a column on. A text in quotes with a colon behind it is a name, and goes on
to the colon. -/
def spans (column : Nat) : List Part → List Span
  | [] => []
  | .blank _ :: parts => spans (column + 1) parts
  | .lexeme lexeme :: parts =>
    let stop := column + lexeme.chars.length
    match lexeme, colonWithin? parts with
    | .text _, some width =>
      ⟨column, stop + width, ["source.json", "support.type.property-name.json"]⟩ ::
        spans (stop + width) (parts.drop width)
    | lexeme, _ => ⟨column, stop, ["source.json", lexeme.scope]⟩ :: spans stop parts
termination_by parts => parts.length

end JsonText

end Highlighter
