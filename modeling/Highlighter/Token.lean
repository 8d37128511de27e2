import Highlighter.Text.Columns

namespace Highlighter

/-- A scoped stretch of one line. -/
structure Token where
  line : Nat
  column : Nat
  length : Nat
  /-- From the most general scope to the innermost. -/
  scopes : List String
deriving DecidableEq, Repr

/-- The first byte of the token in its line and the byte after its last, from 0. -/
def Token.byteRange (token : Token) : Nat × Nat :=
  (token.column - 1, token.column - 1 + token.length)

def Token.innermost? (token : Token) : Option String := token.scopes.getLast?

/-- A scoped stretch of a line in characters, from `start` up to `stop`. -/
structure Span where
  start : Nat
  stop : Nat
  scopes : List String
deriving DecidableEq, Repr

/-- The token of a span on the line with the given row, from 0. A span that ends before its start has no bytes. -/
def ByteCursor.token (cursor : ByteCursor) (row : Nat) (span : Span) : Except Fault Token × ByteCursor :=
  match cursor.seek span.start with
  | (.error fault, cursor) => (.error fault, cursor)
  | (.ok start, cursor) =>
    match cursor.seek span.stop with
    | (.error fault, cursor) => (.error fault, cursor)
    | (.ok stop, cursor) => (.ok ⟨row + 1, start + 1, stop - start, span.scopes⟩, cursor)

def Token.ofSpan (text : String) (row : Nat) (span : Span) : Except Fault Token :=
  ((ByteCursor.ofText text).token row span).1

end Highlighter
