import Highlighter.Pattern.Tree
import Highlighter.Unicode.WordChars

namespace Highlighter.Pattern

open Unicode (isSpace isAlphabetic isAlphanumeric)

/-- Drops blanks and comments, which run from `#` to the end of their line. -/
def dropBlanks (inComment : Bool) : List Char → List Char
  | [] => []
  | c :: cs =>
    if inComment then dropBlanks (c ≠ '\n') cs
    else if isSpace c then dropBlanks false cs
    else if c = '#' then dropBlanks true cs
    else c :: cs

def skip (verbose : Bool) (cs : List Char) : List Char := if verbose then dropBlanks false cs else cs

/-- What stands before a closing brace, and what follows it. In verbose mode blanks and comments are left out. -/
def upToBrace (verbose inComment : Bool) : List Char → Option (List Char × List Char)
  | [] => none
  | c :: cs =>
    if inComment then upToBrace verbose (c ≠ '\n') cs
    else if verbose && isSpace c then upToBrace verbose false cs
    else if verbose && c = '#' then upToBrace verbose true cs
    else if c = '\x7d' then some ([], cs)
    else (upToBrace verbose false cs).map fun (inner, rest) => (c :: inner, rest)

def hexDigit? (c : Char) : Option Nat :=
  if c.isDigit then some (c.toNat - 48)
  else if 'a' ≤ c && c ≤ 'f' then some (c.toNat - 87)
  else if 'A' ≤ c && c ≤ 'F' then some (c.toNat - 55)
  else none

def hexNumber? : List Char → Nat → Option Nat
  | [], n => some n
  | c :: cs, n => do hexNumber? cs (n * 16 + (← hexDigit? c))

def charOf (n : Nat) : Except Problem Char :=
  if n.isValidChar then .ok (Char.ofNat n) else .error .hexNumber

/-- Reads a number of exactly `count` hexadecimal digits. -/
def readHexDigits (verbose : Bool) : Nat → Nat → List Char → Except Problem (Nat × List Char)
  | 0, n, cs => .ok (n, cs)
  | count + 1, n, cs =>
    match cs with
    | [] => .error .hexNumber
    | c :: cs =>
      match hexDigit? c with
      | some d => readHexDigits verbose count (n * 16 + d) (skip verbose cs)
      | none => .error .hexNumber

/-- Reads the number of `\x`, `\u` or `\U`, which has `count` digits unless it stands in braces. -/
def readHex (verbose : Bool) (count : Nat) (cs : List Char) : Except Problem (Literal × List Char) :=
  match skip verbose cs with
  | '\x7b' :: cs =>
    match upToBrace verbose false cs with
    | none => .error .hexNumber
    | some (digits, rest) =>
      match hexNumber? digits 0 with
      | some n => if digits.isEmpty then .error .hexNumber else do return (⟨← charOf n, false⟩, skip verbose rest)
      | none => .error .hexNumber
  | cs => do
    let (n, rest) ← readHexDigits verbose count 0 cs
    return (⟨← charOf n, count = 2⟩, rest)

/-- Divides a text at the first place where another text stands. -/
def splitAtFirst? (mark : List Char) : List Char → Option (List Char × List Char)
  | [] => none
  | c :: cs =>
    if mark.isPrefixOf (c :: cs) then some ([], (c :: cs).drop mark.length)
    else (splitAtFirst? mark cs).map fun (before, after) => (c :: before, after)

def propertyQuery (text : List Char) : PropertyQuery :=
  let split := (splitAtFirst? ['!', '='] text).or ((splitAtFirst? [':'] text).or (splitAtFirst? ['='] text))
  match split with
  | some (property, value) => .value (String.ofList property) (String.ofList value)
  | none => .name (String.ofList text)

/-- Reads the property that follows `\p` or `\P`. -/
def readProperty (verbose : Bool) (cs : List Char) : Except Problem (PropertyQuery × List Char) :=
  match skip verbose cs with
  | [] => .error .escape
  | '\x7b' :: cs =>
    match upToBrace verbose false cs with
    | none => .error .escape
    | some (text, rest) => .ok (propertyQuery text, rest)
  | '\\' :: _ => .error .escape
  | c :: cs => .ok (.name (String.singleton c), skip verbose cs)

/-- What a backslash sequence stands for. -/
inductive Escaped where
  | char (c : Literal)
  | letter (kind : LetterClass) (negated : Bool)
  | property (query : PropertyQuery) (negated : Bool)
  | assertion (kind : Assertion)

/-- Reads the rest of `\b`: a name in braces makes it a boundary of its own kind. Braces that cannot hold a name
are left alone. -/
def readWordBoundary (verbose : Bool) (cs : List Char) : Except Problem (Assertion × List Char) :=
  let isNameChar (c : Char) : Bool := c.isAlpha || c = '-'
  match cs with
  | '\x7b' :: inner =>
    match skip verbose inner with
    | [] => .error .wordBoundary
    | c :: _ =>
      if !isNameChar c then .ok (.wordBoundary, cs)
      else match upToBrace verbose false inner with
        | none => .error .wordBoundary
        | some (name, rest) =>
          if name = "start".toList then .ok (.wordStart, rest)
          else if name = "end".toList then .ok (.wordEnd, rest)
          else if name = "start-half".toList then .ok (.wordStartHalf, rest)
          else if name = "end-half".toList then .ok (.wordEndHalf, rest)
          else .error .wordBoundary
  | _ => .ok (.wordBoundary, cs)

/-- Punctuation, blanks and controls of ASCII stand for themselves after a backslash; the angle brackets do not. -/
def isEscapable (c : Char) : Bool :=
  c.toNat < 128 && !c.isAlphanum && c ≠ '<' && c ≠ '>'

/-- Reads what follows a backslash. -/
def readEscape (verbose : Bool) : List Char → Except Problem (Escaped × List Char)
  | [] => .error .escape
  | c :: cs =>
    let char (c : Char) : Except Problem (Escaped × List Char) := .ok (.char ⟨c, false⟩, cs)
    let assertion (kind : Assertion) : Except Problem (Escaped × List Char) := .ok (.assertion kind, cs)
    let letter (kind : LetterClass) (negated : Bool) : Except Problem (Escaped × List Char) :=
      .ok (.letter kind negated, cs)
    let hex (count : Nat) : Except Problem (Escaped × List Char) := do
      let (c, rest) ← readHex verbose count cs
      return (.char c, rest)
    let property (negated : Bool) : Except Problem (Escaped × List Char) := do
      let (query, rest) ← readProperty verbose cs
      return (.property query negated, rest)
    match c with
    | 'x' => hex 2
    | 'u' => hex 4
    | 'U' => hex 8
    | 'p' => property false
    | 'P' => property true
    | 'd' => letter .digit false
    | 'D' => letter .digit true
    | 's' => letter .space false
    | 'S' => letter .space true
    | 'w' => letter .word false
    | 'W' => letter .word true
    | 'a' => char '\x07'
    | 'f' => char '\x0c'
    | 't' => char '\t'
    | 'n' => char '\n'
    | 'r' => char '\r'
    | 'v' => char '\x0b'
    | 'A' => assertion .textStart
    | 'z' => assertion .textEnd
    | 'B' => assertion .notWordBoundary
    | '<' => assertion .wordStart
    | '>' => assertion .wordEnd
    | 'b' => do
      let (kind, rest) ← readWordBoundary verbose cs
      return (.assertion kind, rest)
    | c => if c.isDigit then .error .backReference else if isEscapable c then char c else .error .escape

/-- Reads one character or backslash sequence. -/
def readPrimitive (verbose : Bool) : List Char → Except Problem (Escaped × List Char)
  | [] => .error .escape
  | '\\' :: cs => readEscape verbose cs
  | c :: cs => .ok (.char ⟨c, false⟩, cs)

/-- The ASCII classes that are written as a name between colons. -/
def posixClass? (name : List Char) : Option (List (Nat × Nat)) :=
  ([("alnum", [(0x30, 0x39), (0x41, 0x5A), (0x61, 0x7A)]),
    ("alpha", [(0x41, 0x5A), (0x61, 0x7A)]),
    ("ascii", [(0x00, 0x7F)]),
    ("blank", [(0x09, 0x09), (0x20, 0x20)]),
    ("cntrl", [(0x00, 0x1F), (0x7F, 0x7F)]),
    ("digit", [(0x30, 0x39)]),
    ("graph", [(0x21, 0x7E)]),
    ("lower", [(0x61, 0x7A)]),
    ("print", [(0x20, 0x7E)]),
    ("punct", [(0x21, 0x2F), (0x3A, 0x40), (0x5B, 0x60), (0x7B, 0x7E)]),
    ("space", [(0x09, 0x0D), (0x20, 0x20)]),
    ("upper", [(0x41, 0x5A)]),
    ("word", [(0x30, 0x39), (0x41, 0x5A), (0x5F, 0x5F), (0x61, 0x7A)]),
    ("xdigit", [(0x30, 0x39), (0x41, 0x46), (0x61, 0x66)])] : List (String × List (Nat × Nat))).lookup
    (String.ofList name)

/-- Reads `:name:]`, the rest of a named class after its bracket; anything else is no named class. -/
def readPosix? (cs : List Char) : Option (ClassTree × List Char) :=
  match cs with
  | ':' :: cs =>
    let negated := cs.head? = some '^'
    let cs := if negated then cs.tail else cs
    let name := cs.takeWhile (· ≠ ':')
    match cs.dropWhile (· ≠ ':') with
    | ':' :: ']' :: rest => (posixClass? name).map fun ranges => (.posix ranges negated, rest)
    | _ => none
  | _ => none

def Escaped.toClass : Escaped → Except Problem ClassTree
  | .char c => .ok (.char c)
  | .letter kind negated => .ok (.letter kind negated)
  | .property query negated => .ok (.property query negated)
  | .assertion _ => .error .classEscape

/-- The character after blanks, a `#` among them taken once. -/
def pastBlanks? (seenMark : Bool) : List Char → Option Char
  | [] => none
  | c :: cs =>
    if isSpace c then pastBlanks? seenMark cs
    else if !seenMark && c = '#' then pastBlanks? true cs
    else some c

/-- The character that decides what a hyphen in a class means. -/
def peek? (verbose : Bool) (cs : List Char) : Option Char :=
  if verbose then (pastBlanks? false cs).or cs.head? else cs.head?

/-- Reads one item of a class or one range of characters. -/
def readClassItem (verbose : Bool) (cs : List Char) : Except Problem (ClassTree × List Char) := do
  let (first, rest) ← readPrimitive verbose cs
  match skip verbose rest with
  | [] => throw .classUnclosed
  | '-' :: after =>
    let next := peek? verbose after
    if next = some ']' || next = some '-' then return (← first.toClass, '-' :: after)
    else
      let after := skip verbose after
      if after.isEmpty then throw .classUnclosed
      let (second, rest) ← readPrimitive verbose after
      match first, second with
      | .char lo, .char hi => if lo.char ≤ hi.char then return (.range lo hi, rest) else throw .classRange
      | _, _ => throw .classRange
  | rest => return (← first.toClass, rest)

inductive ClassFrame where
  /-- An open bracket, with the items before it, last first. -/
  | bracket (before : List ClassTree) (negated : Bool)
  | operand (op : ClassOp) (lhs : ClassTree)

/-- A class half read: what is open, the items since, last first, and whether hyphens still stand for themselves. -/
structure ClassState where
  open_ : List ClassFrame
  items : List ClassTree := []
  fresh : Bool := false

/-- The items read so far as the right side of the operator before them, if there is one. -/
def ClassState.operand (s : ClassState) : ClassTree × List ClassFrame :=
  let item := ClassTree.ofItems s.items.reverse
  match s.open_ with
  | .operand op lhs :: rest => (.op op lhs item, rest)
  | rest => (item, rest)

def ClassState.push (s : ClassState) (item : ClassTree) : ClassState :=
  { s with items := item :: s.items, fresh := false }

def ClassState.pushOp (s : ClassState) (op : ClassOp) : ClassState :=
  let (lhs, rest) := s.operand
  { open_ := .operand op lhs :: rest }

/-- Reads what may follow an opening bracket before the items: a `^`. -/
def readBracket (verbose : Bool) (cs : List Char) : Except Problem (Bool × List Char) :=
  match skip verbose cs with
  | [] => .error .classUnclosed
  | '^' :: cs => if (skip verbose cs).isEmpty then .error .classUnclosed else .ok (true, cs)
  | cs => .ok (false, cs)

def readClassFrom (verbose : Bool) : Nat → ClassState → List Char → Except Problem (ClassTree × List Char)
  | 0, _, _ => .error .classUnclosed
  | fuel + 1, s, cs =>
    match skip verbose cs with
    | [] => .error .classUnclosed
    | c :: rest =>
      if s.fresh && c = '-' then
        readClassFrom verbose fuel { s with items := .char ⟨c, false⟩ :: s.items } rest
      else if s.fresh && s.items.isEmpty && c = ']' then
        readClassFrom verbose fuel (s.push (.char ⟨c, false⟩)) rest
      else if c = '[' then
        match readPosix? rest with
        | some (item, rest) => readClassFrom verbose fuel (s.push item) rest
        | none => do
          let (negated, rest) ← readBracket verbose rest
          readClassFrom verbose fuel { open_ := .bracket s.items negated :: s.open_, fresh := true } rest
      else if c = ']' then
        match s.operand with
        | (inner, .bracket _ negated :: []) => .ok (.bracketed negated inner, rest)
        | (inner, .bracket before negated :: outer) =>
          readClassFrom verbose fuel { open_ := outer, items := .bracketed negated inner :: before } rest
        | _ => .error .classUnclosed
      else if c = '&' && rest.head? = some '&' then readClassFrom verbose fuel (s.pushOp .inter) rest.tail
      else if c = '-' && rest.head? = some '-' then readClassFrom verbose fuel (s.pushOp .diff) rest.tail
      else if c = '~' && rest.head? = some '~' then readClassFrom verbose fuel (s.pushOp .symmDiff) rest.tail
      else do
        let (item, rest) ← readClassItem verbose (c :: rest)
        readClassFrom verbose fuel (s.push item) rest

/-- Reads a class after its opening bracket. -/
def readClass (verbose : Bool) (cs : List Char) : Except Problem (ClassTree × List Char) := do
  let (negated, rest) ← readBracket verbose cs
  readClassFrom verbose (rest.length + 1) { open_ := [.bracket [] negated], fresh := true } rest

def flag? : Char → Option Flag
  | 'i' => some .ignoreCase
  | 'm' => some .multiLine
  | 's' => some .dotMatchesNewline
  | 'U' => some .swapGreed
  | 'u' => some .unicode
  | 'R' => some .crlf
  | 'x' => some .verbose
  | _ => none

/-- Reads flags up to `:` or `)`. A hyphen switches off what follows; it stands once and not at the end, and no
flag stands twice. -/
def readFlags (on : Bool) (dangling : Bool) (seen : FlagSettings) :
    List Char → Except Problem (FlagSettings × List Char)
  | [] => .error .flags
  | c :: cs =>
    if c = ':' || c = ')' then if dangling then .error .flags else .ok (seen, c :: cs)
    else if c = '-' then if on then readFlags false true seen cs else .error .flags
    else match flag? c with
      | some flag =>
        if seen.any (·.1 = flag) then .error .flags else readFlags on false (seen ++ [(flag, on)]) cs
      | none => .error .flags

/-- Reads a group's name up to `>`. -/
def readGroupName : List Char → Except Problem (List Char × List Char)
  | [] => .error .groupName
  | '>' :: cs => .ok ([], cs)
  | c :: cs =>
    if isAlphanumeric c || c = '_' || c = '.' || c = '[' || c = ']' then do
      let (name, rest) ← readGroupName cs
      return (c :: name, rest)
    else .error .groupName

def isGroupName : List Char → Bool
  | [] => false
  | c :: _ => c = '_' || isAlphabetic c

/-- What an opening parenthesis begins. -/
inductive Opening where
  | settings (settings : FlagSettings)
  | plain (settings : FlagSettings)
  | capture (name : Option (List Char))

/-- Reads what follows an opening parenthesis up to the group's body. -/
def readOpening (verbose : Bool) (cs : List Char) : Except Problem (Opening × List Char) :=
  let named (cs : List Char) : Except Problem (Opening × List Char) := do
    let (name, rest) ← readGroupName cs
    if isGroupName name then return (.capture (some name), rest) else throw .groupName
  match skip verbose cs with
  | '?' :: '=' :: _ => .error .lookAround
  | '?' :: '!' :: _ => .error .lookAround
  | '?' :: '<' :: '=' :: _ => .error .lookAround
  | '?' :: '<' :: '!' :: _ => .error .lookAround
  | '?' :: 'P' :: '<' :: cs => named cs
  | '?' :: '<' :: cs => named cs
  | '?' :: cs => do
    match ← readFlags true false [] cs with
    | (settings, ':' :: rest) => return (.plain settings, rest)
    | ([], _) => throw .repetitionOfNothing
    | (settings, rest) => return (.settings settings, rest.tail)
  | cs => .ok (.capture none, cs)

/-- A decimal number with blanks around it. -/
def decimal? (cs : List Char) : Option Nat :=
  let cs := cs.dropWhile isSpace
  let digits := cs.takeWhile Char.isDigit
  if digits.isEmpty || !((cs.dropWhile Char.isDigit).all isSpace) then none
  else
    let n := digits.foldl (fun n c => n * 10 + (c.toNat - 48)) 0
    if n < 0x100000000 then some n else none

/-- The least count and the number of further ones that a counted repetition allows. -/
def counts? (text : List Char) : Option (Nat × Option Nat) :=
  match splitAtFirst? [','] text with
  | none => (decimal? text).map (·, some 0)
  | some (lo, []) => (decimal? lo).map (·, none)
  | some (lo, hi) => do
    let lo ← decimal? lo
    let hi ← decimal? hi
    if lo ≤ hi then some (lo, some (hi - lo)) else none

/-- A group that is open: what stands before it in the enclosing group, and the verbose flag to go back to. -/
structure GroupFrame where
  branches : List Tree
  items : List Tree
  kind : GroupKind
  verbose : Bool

/-- A pattern half read. Items and finished branches are those of the innermost open group, last first. -/
structure ReadState where
  open_ : List GroupFrame := []
  branches : List Tree := []
  items : List Tree := []
  verbose : Bool := false
  captures : Nat := 0
  names : List (List Char) := []

def ReadState.push (s : ReadState) (item : Tree) : ReadState := { s with items := item :: s.items }

/-- The body of the innermost open group. -/
def ReadState.body (s : ReadState) : Tree :=
  let last := Tree.ofItems s.items.reverse
  match s.branches with
  | [] => last
  | branches => .alternation (last :: branches).reverse

def verboseAfter (settings : FlagSettings) (verbose : Bool) : Bool :=
  (settings.lookup .verbose).getD verbose

def ReadState.openGroup (s : ReadState) (kind : GroupKind) (verbose : Bool) : ReadState :=
  { s with
    open_ := ⟨s.branches, s.items, kind, s.verbose⟩ :: s.open_
    branches := []
    items := []
    verbose }

def ReadState.begin (s : ReadState) : Opening → Except Problem ReadState
  | .settings settings => .ok { s.push (.flags settings) with verbose := verboseAfter settings s.verbose }
  | .plain settings => .ok (s.openGroup (.plain settings) (verboseAfter settings s.verbose))
  | .capture name =>
    let index := s.captures + 1
    let names := name.toList ++ s.names
    if name.any s.names.contains then .error .groupNameRepeated
    else .ok { s.openGroup (.capture index) s.verbose with captures := index, names }

def ReadState.close (s : ReadState) : Except Problem ReadState :=
  match s.open_ with
  | [] => .error .groupUnopened
  | frame :: rest =>
    .ok { s with
      open_ := rest
      branches := frame.branches
      items := .group frame.kind s.body :: frame.items
      verbose := frame.verbose }

/-- Replaces the last item by its repetition. -/
def ReadState.repeatLast (s : ReadState) (least : Nat) (extra : Option Nat) (greedy : Bool) :
    Except Problem ReadState :=
  match s.items with
  | [] => .error .repetitionOfNothing
  | .flags _ :: _ => .error .repetitionOfNothing
  | item :: rest => .ok { s with items := .repetition least extra greedy item :: rest }

/-- Whether a `?` follows and makes the repetition lazy, with the text after it. -/
def readGreed (cs : List Char) : Bool × List Char :=
  match cs with
  | '?' :: cs => (false, cs)
  | cs => (true, cs)

def Escaped.toTree : Escaped → Tree
  | .char c => .char c
  | .letter kind negated => .letter kind negated
  | .property query negated => .property query negated
  | .assertion kind => .assertion kind

def readFrom : Nat → ReadState → List Char → Except Problem Tree
  | 0, _, _ => .error .groupUnclosed
  | fuel + 1, s, cs =>
    let repeated (least : Nat) (extra : Option Nat) (cs : List Char) : Except Problem Tree := do
      let (greedy, rest) := readGreed cs
      readFrom fuel (← s.repeatLast least extra greedy) rest
    match skip s.verbose cs with
    | [] => if s.open_.isEmpty then .ok s.body else .error .groupUnclosed
    | '(' :: rest => do
      let (opening, rest) ← readOpening s.verbose rest
      readFrom fuel (← s.begin opening) rest
    | ')' :: rest => do readFrom fuel (← s.close) rest
    | '|' :: rest =>
      readFrom fuel { s with branches := Tree.ofItems s.items.reverse :: s.branches, items := [] } rest
    | '[' :: rest => do
      match ← readClass s.verbose rest with
      | (.bracketed negated inner, rest) => readFrom fuel (s.push (.bracketed negated inner)) rest
      | _ => throw .classUnclosed
    | '?' :: rest => repeated 0 (some 1) rest
    | '*' :: rest => repeated 0 none rest
    | '+' :: rest => repeated 1 none rest
    | '\x7b' :: rest =>
      match upToBrace s.verbose false rest with
      | none => .error .repetitionCount
      | some (text, rest) =>
        match counts? text with
        | none => .error .repetitionCount
        | some (least, extra) => repeated least extra (skip s.verbose rest)
    | '.' :: rest => readFrom fuel (s.push .dot) rest
    | '^' :: rest => readFrom fuel (s.push (.assertion .lineStart)) rest
    | '$' :: rest => readFrom fuel (s.push (.assertion .lineEnd)) rest
    | rest => do
      let (item, rest) ← readPrimitive s.verbose rest
      readFrom fuel (s.push item.toTree) rest

def Tree.read (pattern : String) : Except Problem Tree := do
  let cs := pattern.toList
  let tree ← readFrom (cs.length + 1) {} cs
  if tree.depth ≤ maxDepth then return tree else throw .nestedTooDeep

end Highlighter.Pattern
