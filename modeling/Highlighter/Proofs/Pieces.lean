import Highlighter.Grammar.Lexer
import Highlighter.Proofs.Rows

namespace Highlighter

open Text

namespace Pattern

/-- A run ends at a boundary of the text it is given, or where an earlier one did. -/
theorem run_splits {states : Array State} {before : Option Char} {current : List Nat} {best : Option Nat}
    {offset stop : Nat} {text : List Char} (found : run states before current best offset text = some stop) :
    best = some stop ∨ ∃ inner rest, text = inner ++ rest ∧ stop = offset + byteLength inner := by
  induction text generalizing before current best offset with
  | nil =>
    simp only [run] at found
    split at found
    · cases found
      exact .inr ⟨[], [], rfl, rfl⟩
    · exact .inl found
  | cons c text ih =>
    have here (ended : Bool) (found : (if ended then some offset else best) = some stop) :
        best = some stop ∨ ∃ inner rest, c :: text = inner ++ rest ∧ stop = offset + byteLength inner := by
      cases ended with
      | false => exact .inl found
      | true =>
        cases found
        exact .inr ⟨[], c :: text, rfl, rfl⟩
    simp only [run] at found
    split at found
    · exact here _ found
    · rcases ih found with earlier | ⟨inner, rest, rfl, end_⟩
      · exact here _ earlier
      · exact .inr ⟨c :: inner, rest, rfl, by simp only [byteLength]; omega⟩

theorem run_first {states : Array State} {before : Option Char} {offset stop : Nat} {text : List Char}
    (found : run states before [0] none offset text = some stop) :
    ∃ inner rest, text = inner ++ rest ∧ stop = offset + byteLength inner := by
  rcases run_splits found with earlier | split
  · cases earlier
  · exact split

theorem search_splits {states : Array State} {before : Option Char} {offset : Nat} {text : List Char} {m : Match}
    (found : search states before offset text = some m) : ∃ skipped inner rest, text = skipped ++ (inner ++ rest) ∧
      m.start = offset + byteLength skipped ∧ m.stop = m.start + byteLength inner := by
  induction text generalizing before offset with
  | nil =>
    simp only [search] at found
    split at found
    · rename_i stop ended
      cases found
      obtain ⟨inner, rest, whole, end_⟩ := run_first ended
      exact ⟨[], inner, rest, whole, rfl, end_⟩
    · cases found
  | cons c text ih =>
    simp only [search] at found
    split at found
    · rename_i stop ended
      cases found
      obtain ⟨inner, rest, whole, end_⟩ := run_first ended
      exact ⟨[], inner, rest, whole, rfl, end_⟩
    · obtain ⟨skipped, inner, rest, rfl, start, stop⟩ := ih found
      exact ⟨c :: skipped, inner, rest, rfl, by simp only [byteLength]; omega, stop⟩

/-- Matches begin and end where characters do. -/
theorem findAt_boundary {p : Pattern} {line : List Char} {offset : Nat} {m : Match}
    (found : p.findAt line offset = some m) : Boundary line m.start ∧ Boundary line m.stop := by
  unfold findAt at found
  split at found
  · cases found
  · rename_i before text sought
    obtain ⟨left, rfl, rfl⟩ := split_of_seek sought
    obtain ⟨skipped, inner, rest, rfl, start, stop⟩ := search_splits found
    rw [start] at stop
    refine ⟨⟨left ++ skipped, inner ++ rest, by simp, ?_⟩, ⟨left ++ skipped ++ inner, rest, by simp, ?_⟩⟩
    · rw [start, byteLength_append]
    · rw [stop, byteLength_append, byteLength_append]

end Pattern

theorem earliest_boundary {line : List Char} {offset first index : Nat} {rules : List Rule} {rule : Rule}
    {m : Pattern.Match} (found : earliest line offset first rules = some (index, rule, m)) :
    Boundary line m.start ∧ Boundary line m.stop := by
  induction rules generalizing first with
  | nil => cases found
  | cons head rules ih =>
    unfold earliest at found
    split at found
    · exact ih found
    · rename_i only _
      cases found
      exact Pattern.findAt_boundary only
    · rename_i here later
      split at found
      · cases found
        exact Pattern.findAt_boundary here
      · exact ih (later.trans found)

/-- Stretches of a text from one byte to another. None is empty, each begins where the one before it ends, and all end
at boundaries. -/
inductive Tiles (text : List Char) : Nat → List (Nat × Nat) → Nat → Prop
  | nil {byte} : Tiles text byte [] byte
  | cons {start stop last ranges} : start < stop → Boundary text start → Boundary text stop →
      Tiles text stop ranges last → Tiles text start ((start, stop) :: ranges) last

namespace Tiles

variable {text : List Char} {start last : Nat} {ranges : List (Nat × Nat)}

theorem le (tiles : Tiles text start ranges last) : start ≤ last := by
  induction tiles with
  | nil => exact Nat.le_refl _
  | cons nonempty _ _ _ ih => omega

theorem range_mem (tiles : Tiles text start ranges last) {range : Nat × Nat} (member : range ∈ ranges) :
    range.1 < range.2 ∧ Boundary text range.1 ∧ Boundary text range.2 := by
  induction tiles with
  | nil => exact absurd member List.not_mem_nil
  | cons nonempty begins ends _ ih =>
    rcases List.mem_cons.mp member with rfl | later
    · exact ⟨nonempty, begins, ends⟩
    · exact ih later

/-- The stretches of a tiling have, in their order, all characters between its ends. -/
theorem slices (tiles : Tiles text start ranges last) {left middle right : List Char}
    (whole : text = left ++ (middle ++ right)) (begins : byteLength left = start)
    (ends : byteLength left + byteLength middle = last) :
    ∃ texts, ranges.mapM (fun range => slice text range.1 range.2) = .ok texts ∧ texts.flatten = middle := by
  induction tiles generalizing left middle with
  | nil =>
    have empty := eq_nil_of_byteLength (by omega : byteLength middle = 0)
    exact ⟨[], rfl, empty.symm⟩
  | @cons start stop last ranges nonempty _ boundary rest ih =>
    obtain ⟨longer, after, again, there⟩ := boundary
    obtain ⟨between, rfl, split⟩ := beginning_extends (whole.symm.trans again) (by omega)
    rw [byteLength_append] at there
    have inside := rest.le
    obtain ⟨remaining, rfl, rfl⟩ := beginning_extends split.symm (by omega)
    rw [byteLength_append] at ends
    obtain ⟨texts, found, joined⟩ := ih again (by rw [byteLength_append]; exact there)
      (by rw [byteLength_append]; omega)
    have first : slice text start stop = .ok between := by
      rw [whole, ← begins, ← there, List.append_assoc]
      exact slice_append left between (remaining ++ right)
    refine ⟨between :: texts, ?_, by rw [List.flatten_cons, joined]⟩
    rw [List.mapM_cons, first, found]
    rfl

theorem slices_line {line : String} (tiles : Tiles line.toList 0 ranges line.utf8ByteSize) :
    ∃ texts, ranges.mapM (fun range => slice line.toList range.1 range.2) = .ok texts ∧
      texts.flatten = line.toList := by
  have all : line.toList = [] ++ (line.toList ++ []) := by rw [List.nil_append, List.append_nil]
  exact tiles.slices all rfl (by rw [byteLength_toList]; exact Nat.zero_add _)

end Tiles

def Piece.range (piece : Piece) : Nat × Nat := (piece.start, piece.stop)

/-- A piece before a tiling, unless it is empty. -/
theorem Tiles.between {text : List Char} {start stop last : Nat} {pieces : List Piece}
    (rest : Tiles text stop (pieces.map Piece.range) last) (scope : Option String) (ordered : start ≤ stop)
    (begins : Boundary text start) (ends : Boundary text stop) :
    Tiles text start ((Piece.between start stop scope ++ pieces).map Piece.range) last := by
  unfold Piece.between
  split
  · rename_i nonempty
    exact .cons nonempty begins ends rest
  · have same : start = stop := by omega
    exact same ▸ rest

theorem Tiles.last {text : List Char} {start : Nat} (scope : Option String) (begins : Boundary text start)
    (inside : start < byteLength text) :
    Tiles text start ((Piece.between start (byteLength text) scope).map Piece.range) (byteLength text) := by
  have nothing : Tiles text (byteLength text) (([] : List Piece).map Piece.range) (byteLength text) := .nil
  have single := nothing.between scope (Nat.le_of_lt inside) begins (boundary_end text)
  rwa [List.append_nil] at single

/-- From any boundary on, and whatever block is open there, a line is divided without a gap up to its end. -/
theorem RuleGrammar.lexFrom_tiles (g : RuleGrammar) (line : List Char) (offset : Nat) (openBlock : Option Nat)
    (begins : Boundary line offset) : ∃ pieces after, g.lexFrom line offset openBlock = .ok (pieces, after) ∧
      Tiles line offset (pieces.map Piece.range) (byteLength line) := by
  fun_induction g.lexFrom line offset openBlock with
  | case1 offset _ index _ closing scope _ m found ih =>
    have bounds := Pattern.findAt_bounds found
    have ends := (Pattern.findAt_boundary found).2
    obtain ⟨pieces, after, run, rest⟩ := ih ends
    exact ⟨_, after, by rw [run]; rfl, rest.between scope (by omega) begins ends⟩
  | case2 offset inside index _ _ scope => exact ⟨_, _, rfl, .last scope begins inside⟩
  | case3 offset _ index _ ih => exact ih begins
  | case4 offset inside => exact ⟨_, _, rfl, .last none begins inside⟩
  | case5 offset _ index rule m found nonempty ih =>
    have bounds := earliest_bounds found
    obtain ⟨starts, ends⟩ := earliest_boundary found
    obtain ⟨pieces, after, run, rest⟩ := ih ends
    simp only [dite_eq_ite] at run
    refine ⟨_, after, by rw [run]; rfl, ?_⟩
    rw [List.append_assoc]
    exact (rest.between rule.scope (by omega) starts ends).between none bounds.1 begins starts
  | case6 offset _ index rule m found _ fault stuck =>
    obtain ⟨next, passed, _⟩ := (earliest_boundary found).1.next
    cases stuck.symm.trans passed
  | case7 offset _ index rule m found _ next passed ih =>
    have bounds := earliest_bounds found
    have ordered := Text.le_of_nextBoundary passed
    obtain ⟨other, again, ends⟩ := (earliest_boundary found).1.next
    cases passed.symm.trans again
    obtain ⟨pieces, after, run, rest⟩ := ih ends
    exact ⟨_, after, by rw [run]; rfl, rest.between none (by omega) begins ends⟩
  | case8 offset openBlock outside =>
    have inside := begins.le
    have same : offset = byteLength line := by omega
    exact ⟨[], openBlock, rfl, same ▸ .nil⟩

/-- The span of a piece of a text. -/
def Piece.span (root : String) (text : List Char) (piece : Piece) : Span :=
  ⟨charsWithin text piece.start, charsWithin text piece.stop, root :: piece.scope.toList⟩

/-- The token of a piece in a row. -/
def Piece.token (root : String) (row : Nat) (piece : Piece) : Token :=
  ⟨row + 1, piece.start + 1, piece.stop - piece.start, root :: piece.scope.toList⟩

theorem CharCursor.Exact.spans {cursor : CharCursor} (exact_ : cursor.Exact) (root : String) {pieces : List Piece}
    (ends : ∀ piece ∈ pieces, Boundary cursor.text piece.start ∧ Boundary cursor.text piece.stop) :
    cursor.spans root pieces = .ok (pieces.map (Piece.span root cursor.text)) := by
  induction pieces generalizing cursor with
  | nil => rfl
  | cons piece pieces ih =>
    obtain ⟨atStart, atStop⟩ := ends piece List.mem_cons_self
    obtain ⟨next, first, exactNext, sameNext⟩ := exact_.seek atStart
    obtain ⟨after, second, exactAfter, sameAfter⟩ := exactNext.seek (sameNext ▸ atStop)
    rw [sameNext] at sameAfter second
    have rest := ih exactAfter fun piece member => sameAfter ▸ ends piece (List.mem_cons_of_mem _ member)
    simp only [CharCursor.spans, first, bind, Except.bind, second, rest, sameAfter]
    rfl

namespace Piece

variable {piece : Piece} {text : String} (root : String)

theorem ofSpan_span (row : Nat) (begins : Boundary text.toList piece.start) (ends : Boundary text.toList piece.stop) :
    Token.ofSpan text row (piece.span root text.toList) = .ok (piece.token root row) := by
  simp only [Token.ofSpan_eq, span, charToByte_charsWithin begins, charToByte_charsWithin ends]
  rfl

theorem span_inside (piece : Piece) (text : String) :
    (piece.span root text.toList).start ≤ text.length ∧ (piece.span root text.toList).stop ≤ text.length := by
  rw [← String.length_toList]
  exact ⟨charsWithin_le_length _ _, charsWithin_le_length _ _⟩

theorem byteRange_token (row : Nat) (nonempty : piece.start < piece.stop) :
    (piece.token root row).byteRange = piece.range := by
  simp only [token, Token.byteRange, range, Prod.mk.injEq]
  omega

end Piece

namespace RuleGrammar

variable {α : Type} (g : RuleGrammar)

/-- The spans of a line are those of its pieces, which tile it. -/
theorem tokenizeLine_of_lexFrom {line : String} {prior : Option (LineState α)} {pieces : List Piece}
    {openBlock : Option Nat}
    (run : g.lexFrom line.toList 0 (prior.bind LineState.openBlock?) = .ok (pieces, openBlock)) :
    g.tokenizeLine line prior = .ok ⟨pieces.map (Piece.span g.scope line.toList), .rules openBlock⟩ ∧
      Tiles line.toList 0 (pieces.map Piece.range) (byteLength line.toList) := by
  obtain ⟨others, after, again, tiles⟩ :=
    g.lexFrom_tiles line.toList 0 (prior.bind LineState.openBlock?) (boundary_zero _)
  cases run.symm.trans again
  have ends : ∀ piece ∈ pieces, Boundary line.toList piece.start ∧ Boundary line.toList piece.stop :=
    fun piece member => (tiles.range_mem (List.mem_map_of_mem member)).2
  have spans := (CharCursor.exact_ofText line).spans g.scope ends
  refine ⟨?_, tiles⟩
  simp only [tokenizeLine, run, bind, Except.bind, spans]
  rfl

/-- A rule grammar has an answer for every line and every state before it: the spans of pieces that tile the line. -/
theorem tokenizeLine_tiles (line : String) (prior : Option (LineState α)) :
    ∃ (pieces : List Piece) (openBlock : Option Nat), g.tokenizeLine line prior =
        .ok ⟨pieces.map (Piece.span g.scope line.toList), .rules openBlock⟩ ∧
      Tiles line.toList 0 (pieces.map Piece.range) (byteLength line.toList) := by
  obtain ⟨pieces, openBlock, run, _⟩ :=
    g.lexFrom_tiles line.toList 0 (prior.bind LineState.openBlock?) (boundary_zero _)
  exact ⟨pieces, openBlock, g.tokenizeLine_of_lexFrom run⟩

theorem inLine_toGrammar : (g.toGrammar : Grammar α).InLine := by
  intro line prior
  obtain ⟨pieces, openBlock, run, _⟩ := g.tokenizeLine_tiles line prior
  refine ⟨_, run, fun span member => ?_⟩
  obtain ⟨piece, _, rfl⟩ := List.mem_map.mp member
  exact Piece.span_inside g.scope piece line

end RuleGrammar

end Highlighter
