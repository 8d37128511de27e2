import Highlighter.Grammar
import Highlighter.Table

namespace Highlighter

/-- What is known of one buffer. There are as many states as lines. -/
structure BufferCache (α : Type) where
  scope : String
  lines : List String := []
  states : List (LineState α) := []
  /-- In the order of the lines. -/
  tokens : List Token := []

/-- The number of lines that two texts begin with alike. -/
def commonLines : List String → List String → Nat
  | a :: as, b :: bs => if a = b then commonLines as bs + 1 else 0
  | _, _ => 0

/-- The first row in which two texts differ, if they do. -/
def firstChange (old new : List String) : Option Nat := if old = new then none else some (commonLines old new)

namespace BufferCache

variable {α : Type}

/-- The state that the row above leaves for a row. The first row has none above it. -/
def stateBefore (cache : BufferCache α) (row : Nat) : Option (LineState α) :=
  if row = 0 then none else cache.states[row - 1]?

/-- Keeps what is known of the first rows. -/
def cut (cache : BufferCache α) (rows : Nat) : BufferCache α where
  scope := cache.scope
  lines := cache.lines.take rows
  states := cache.states.take rows
  tokens := cache.tokens.takeWhile fun token => token.line ≤ rows

def extend (cache : BufferCache α) (lines : List String) (tokenized : List (List Token × LineState α)) :
    BufferCache α where
  scope := cache.scope
  lines := cache.lines ++ lines
  states := cache.states ++ tokenized.map Prod.snd
  tokens := cache.tokens ++ tokenized.flatMap Prod.fst

end BufferCache

/-- The tokens of some spans on one row, in the order of the spans. -/
def ByteCursor.tokens (cursor : ByteCursor) (row : Nat) : List Span → Except Fault (List Token)
  | [] => .ok []
  | span :: spans =>
    match cursor.token row span with
    | (.error fault, _) => .error fault
    | (.ok token, cursor) => (cursor.tokens row spans).map (token :: ·)

/-- A call that a tokenizer makes: for the grammar of a scope, or for the spans of the line in a row. -/
inductive Call (α : Type) where
  | load (scope : String)
  | tokenize (row : Nat) (line : String) (prior : Option (LineState α))
deriving DecidableEq, Repr

/-- Computations that may go wrong and that note the calls they make, the latest first. -/
abbrev Noted (α : Type) := StateT (List (Call α)) (Except Fault)

/-- Something that grammars are had from, by their scope. Asking may change it. -/
structure Loader (σ α : Type) where
  load : σ → String → Except GrammarError (Grammar α) × σ

def Loader.call {σ α : Type} (loader : Loader σ α) (source : σ) (scope : String) :
    Noted α (Except GrammarError (Grammar α) × σ) := do
  modify (.load scope :: ·)
  return loader.load source scope

namespace Grammar

variable {α : Type}

def call (g : Grammar α) (row : Nat) (prior : Option (LineState α)) (line : String) : Noted α (LineTokens α) := do
  modify (.tokenize row line prior :: ·)
  g.tokenizeLine line prior

/-- The tokens of one line and the state after it. -/
def tokenizeRow (g : Grammar α) (row : Nat) (prior : Option (LineState α)) (line : String) :
    Noted α (List Token × LineState α) := do
  let result ← g.call row prior line
  return (← (ByteCursor.ofText line).tokens row result.spans, result.state)

/-- Tokenizes lines from a row on, each once and with the state that the one before it left. -/
def tokenizeRows (g : Grammar α) (row : Nat) (prior : Option (LineState α)) :
    List String → Noted α (List (List Token × LineState α))
  | [] => return []
  | line :: lines => do
    let result ← g.tokenizeRow row prior line
    return result :: (← g.tokenizeRows (row + 1) (some result.2) lines)

end Grammar

/-- What a request to tokenize a buffer is answered with. -/
structure Answer where
  tokens : List Token
  /-- The first row that was tokenized again; none if nothing has changed. -/
  changedFrom : Option Nat
deriving DecidableEq, Repr

/-- The tokens on a line, counted from 1. -/
def Answer.onLine (answer : Answer) (line : Nat) : List Token :=
  (answer.tokens.dropWhile fun token => token.line < line).takeWhile fun token => token.line ≤ line

structure Tokenizer (σ α : Type) where
  source : σ
  buffers : Table Nat (BufferCache α) := .empty

/-- The outcome of a request: how it is answered, the calls made for it in their order, and what is known then. -/
structure Parse (σ α : Type) where
  answer : Except GrammarError Answer
  calls : List (Call α)
  tokenizer : Tokenizer σ α

/-- Whether a grammar was asked for. -/
def Parse.asked {σ α : Type} (parse : Parse σ α) : Bool :=
  parse.calls.any fun
    | .load _ => true
    | .tokenize .. => false

/-- How many lines were tokenized. -/
def Parse.rowsTokenized {σ α : Type} (parse : Parse σ α) : Nat :=
  parse.calls.countP fun
    | .load _ => false
    | .tokenize .. => true

/-- The answer to those who can do without: where there is no grammar, there are no tokens. -/
def Parse.answerOrNone {σ α : Type} (parse : Parse σ α) : Answer :=
  match parse.answer with
  | .ok answer => answer
  | .error _ => ⟨[], some 0⟩

namespace Tokenizer

variable {σ α : Type}

/-- What is known of a buffer that is of use for a scope. -/
def cacheFor (t : Tokenizer σ α) (buffer : Nat) (scope : String) : BufferCache α :=
  match t.buffers.get? buffer with
  | some cache => if cache.scope = scope then cache else { scope }
  | none => { scope }

def store (t : Tokenizer σ α) (buffer : Nat) (cache : BufferCache α) : Tokenizer σ α :=
  { t with buffers := t.buffers.insert buffer cache }

/-- Tokenizes the lines of a buffer with the grammar of a scope. If there is no grammar, what is known of the lines
before the first change is kept. -/
def answer (loader : Loader σ α) (t : Tokenizer σ α) (buffer : Nat) (scope : String) (lines : List String) :
    Noted α (Except GrammarError Answer × Tokenizer σ α) :=
  let cache := t.cacheFor buffer scope
  match firstChange cache.lines lines with
  | none => return (.ok ⟨cache.tokens, none⟩, t.store buffer cache)
  | some row => do
    let kept := cache.cut row
    match ← loader.call t.source scope with
    | (.error problem, source) => return (.error problem, { t.store buffer kept with source })
    | (.ok grammar, source) =>
      let added := lines.drop row
      let tokenized ← grammar.tokenizeRows row (kept.stateBefore row) added
      let cache := kept.extend added tokenized
      return (.ok ⟨cache.tokens, some row⟩, { t.store buffer cache with source })

def parse (loader : Loader σ α) (t : Tokenizer σ α) (buffer : Nat) (scope : String) (lines : List String) :
    Except Fault (Parse σ α) := do
  let ((answer, tokenizer), calls) ← (t.answer loader buffer scope lines).run []
  return ⟨answer, calls.reverse, tokenizer⟩

/-- Forgets a buffer, and tells whether anything was known of it. -/
def evict (t : Tokenizer σ α) (buffer : Nat) : Bool × Tokenizer σ α :=
  (t.buffers.contains buffer, { t with buffers := t.buffers.erase buffer })

end Tokenizer

end Highlighter
