import Highlighter.Proofs.Rounds

namespace Highlighter

open Text

/-- Spans from one column to another: none is empty, and each begins where the one before it ends. -/
inductive Adjoin : Nat → List Span → Nat → Prop
  | nil {column} : Adjoin column [] column
  | cons {start stop last scopes spans} : start < stop → Adjoin stop spans last →
      Adjoin start (⟨start, stop, scopes⟩ :: spans) last

namespace Adjoin

variable {start last : Nat} {spans : List Span}

theorem le (adjoin : Adjoin start spans last) : start ≤ last := by
  induction adjoin with
  | nil => exact Nat.le_refl _
  | cons nonempty _ ih => omega

theorem eq_nil_iff (adjoin : Adjoin start spans last) : spans = [] ↔ start = last := by
  cases adjoin with
  | nil => exact ⟨fun _ => rfl, fun _ => rfl⟩
  | cons nonempty rest =>
    have ordered := rest.le
    exact ⟨nofun, fun same => by omega⟩

end Adjoin

/-- The spans of pieces that tile a text adjoin as they do. -/
theorem Tiles.adjoin {text : List Char} {pieces : List Piece} {start last : Nat}
    (tiles : Tiles text start (pieces.map Piece.range) last) (root : String) :
    Adjoin (charsWithin text start) (pieces.map (Piece.span root text)) (charsWithin text last) := by
  induction pieces generalizing start with
  | nil =>
    cases tiles
    exact .nil
  | cons piece pieces ih =>
    cases tiles with
    | cons nonempty begins ends rest => exact .cons (begins.charsWithin_lt ends nonempty) (ih rest)

namespace RuleGrammar

variable {α : Type}

/-- Whatever the grammar, the line and the state before it, the rounds come to an end after at most two for each byte,
at places where characters begin. What they add up to are spans that divide the characters of the line without a gap. -/
theorem tokenizeLine_adjoin (g : RuleGrammar) (line : String) (prior : Option (LineState α)) :
    ∃ rounds pieces after spans, g.Run line.toList rounds ⟨0, prior.bind LineState.openBlock?⟩ pieces after ∧
      rounds ≤ 2 * line.utf8ByteSize ∧
      (∀ place, g.Reach line.toList ⟨0, prior.bind LineState.openBlock?⟩ place → Boundary line.toList place.offset) ∧
      g.tokenizeLine line prior = .ok ⟨spans, .rules after⟩ ∧
      spans = pieces.map (Piece.span g.scope line.toList) ∧ Adjoin 0 spans line.length ∧ (spans = [] ↔ line = "") ∧
      ∀ span ∈ spans, span.scopes = [g.scope] ∨ ∃ rule ∈ g.rules, span.scopes = [g.scope, rule.scope] := by
  obtain ⟨rounds, pieces, after, run, bound, _⟩ := @exists_run g line.toList ⟨0, prior.bind LineState.openBlock?⟩
  obtain ⟨made, tiles⟩ := g.tokenizeLine_of_lexFrom run.lexFrom_eq
  have adjoin := tiles.adjoin g.scope
  have first : charsWithin line.toList 0 = 0 := charsWithin_append [] line.toList
  have last : charsWithin line.toList (byteLength line.toList) = line.length := by
    have whole := charsWithin_append line.toList []
    rwa [List.append_nil, String.length_toList] at whole
  rw [first, last] at adjoin
  refine ⟨rounds, pieces, after, _, run, ?_, fun place reach => reach.boundary (boundary_zero _), made, rfl, adjoin, ?_,
    fun span member => ?_⟩
  · rwa [byteLength_toList] at bound
  · rw [adjoin.eq_nil_iff, eq_comm, String.length_eq_zero_iff]
  · obtain ⟨piece, known, rfl⟩ := List.mem_map.mp member
    rcases run.scopes piece known with none_ | ⟨rule, listed, some_⟩
    · exact .inl (by rw [Piece.span, none_]; rfl)
    · exact .inr ⟨rule, listed, by rw [Piece.span, some_]; rfl⟩

end RuleGrammar

end Highlighter
