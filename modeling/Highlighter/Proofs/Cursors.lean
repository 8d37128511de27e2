import Highlighter.Proofs.Boundary
import Highlighter.Proofs.Except

namespace Highlighter

open Text

namespace ByteCursor

/-- What a cursor may be asked for: the byte of a column, or the token of a span. -/
inductive Question where
  | byteAt (column : Nat)
  | tokenOf (row : Nat) (span : Span)

inductive Reply where
  | byte (found : Except Fault Nat)
  | token (made : Except Fault Token)
deriving DecidableEq

/-- The reply to a question that stands alone, without any cursor or with a new one. -/
def Question.alone (text : String) : Question → Reply
  | .byteAt column => .byte (charToByte text column)
  | .tokenOf row span => .token (Token.ofSpan text row span)

def reply (cursor : ByteCursor) : Question → Reply × ByteCursor
  | .byteAt column => (.byte (cursor.seek column).1, (cursor.seek column).2)
  | .tokenOf row span => (.token (cursor.token row span).1, (cursor.token row span).2)

/-- The replies to questions that are put one after another, and the cursor after them. A question without an answer
does not end the run: the next one is put to the cursor as it was left. -/
def replyAll (cursor : ByteCursor) : List Question → List Reply × ByteCursor
  | [] => ([], cursor)
  | question :: questions =>
    let (reply, cursor) := cursor.reply question
    let (replies, cursor) := cursor.replyAll questions
    (reply :: replies, cursor)

namespace Exact

variable {cursor : ByteCursor} {text : String}

theorem reply (exact_ : cursor.Exact text) (question : Question) :
    (cursor.reply question).1 = question.alone text ∧ (cursor.reply question).2.Exact text := by
  cases question with
  | byteAt column =>
    obtain ⟨found, after⟩ := exact_.seek column
    exact ⟨congrArg Reply.byte found, after⟩
  | tokenOf row span =>
    obtain ⟨after, made⟩ := exact_.token row span
    rw [← Token.ofSpan_eq] at made
    exact ⟨congrArg Reply.token made, after⟩

theorem replyAll (exact_ : cursor.Exact text) (questions : List Question) :
    (cursor.replyAll questions).1 = questions.map (Question.alone text) ∧
      (cursor.replyAll questions).2.Exact text := by
  induction questions generalizing cursor with
  | nil => exact ⟨rfl, exact_⟩
  | cons question questions ih =>
    obtain ⟨first, after⟩ := exact_.reply question
    obtain ⟨rest, last⟩ := ih after
    refine ⟨?_, last⟩
    rw [List.map_cons, ← first, ← rest]
    rfl

/-- The text that an exact cursor has passed ends at its byte, so that the text can be divided there. -/
theorem splitAtByte (exact_ : cursor.Exact text) : splitAtByte text.toList cursor.byte =
    some (text.toList.take cursor.column, text.toList.drop cursor.column) := by
  rw [exact_.2.2]
  exact splitAtByte_take text.toList cursor.column

end Exact

/-- Whatever a cursor was asked before, each reply is the one that its question has alone, with the same fault if there
is one. Where the questions leave the cursor, its byte and its column divide the text alike. -/
theorem replyAll_eq_alone (text : String) (questions : List Question) : ∃ cursor,
    (ofText text).replyAll questions = (questions.map (Question.alone text), cursor) ∧ cursor.text = text.toList ∧
      splitAtByte text.toList cursor.byte =
        some (text.toList.take cursor.column, text.toList.drop cursor.column) := by
  obtain ⟨replies, exact_⟩ := (exact_ofText text).replyAll questions
  exact ⟨_, Prod.ext replies rfl, exact_.1, exact_.splitAtByte⟩

/-- Forwards, past the end, backwards, and over a span that ends before its start. -/
example : ((ofText "a€b€").replyAll [.byteAt 3, .byteAt 9, .tokenOf 0 ⟨4, 2, []⟩, .byteAt 1]).1 =
    [.byte (.ok 5), .byte (.error (.pastEnd 9 4)), .token (.ok ⟨1, 9, 0, []⟩), .byte (.ok 1)] := by
  decide

end ByteCursor

namespace CharCursor

/-- The columns of bytes that one cursor is asked for, one after another. -/
def columns (cursor : CharCursor) : List Nat → Except Fault (List Nat)
  | [] => return []
  | byte :: bytes => do
    let (column, cursor) ← cursor.seek byte
    return column :: (← cursor.columns bytes)

theorem Exact.columns {cursor : CharCursor} (exact_ : cursor.Exact) {bytes : List Nat}
    (boundaries : ∀ byte ∈ bytes, Boundary cursor.text byte) :
    cursor.columns bytes = .ok (bytes.map (charsWithin cursor.text)) := by
  induction bytes generalizing cursor with
  | nil => rfl
  | cons byte bytes ih =>
    obtain ⟨here, later⟩ := List.forall_mem_cons.mp boundaries
    obtain ⟨next, found, exactNext, same⟩ := exact_.seek here
    have rest := ih exactNext (same ▸ later)
    rw [same] at rest
    simp only [CharCursor.columns, found, ok_bind, rest, List.map_cons]
    rfl

/-- At boundaries in any order, every question has an answer, and it is the column that a count from the beginning of
the line gives. -/
theorem columns_eq_byteToChar (line : String) {bytes : List Nat}
    (boundaries : ∀ byte ∈ bytes, Boundary line.toList byte) :
    (ofText line).columns bytes = .ok (bytes.map (byteToChar line)) :=
  (exact_ofText line).columns boundaries

/-- From the end back to the middle, to the same byte twice, to the start, and to the end again. -/
theorem columns_eq_byteToChar_backAndForth :
    (∀ byte ∈ [5, 1, 4, 4, 0, 5], Boundary "a€b".toList byte) ∧
      (ofText "a€b").columns [5, 1, 4, 4, 0, 5] = .ok [3, 1, 2, 2, 0, 3] := by
  have boundaries : ∀ byte ∈ [5, 1, 4, 4, 0, 5], Boundary "a€b".toList byte := by decide
  refine ⟨boundaries, (columns_eq_byteToChar "a€b" boundaries).trans ?_⟩
  decide

end CharCursor

end Highlighter
