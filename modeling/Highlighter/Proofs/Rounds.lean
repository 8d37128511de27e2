import Highlighter.Proofs.Pieces

namespace Highlighter

open Text

theorem Piece.scope_of_between {start stop : Nat} {scope : Option String} {piece : Piece}
    (member : piece ∈ Piece.between start stop scope) : piece.scope = scope := by
  unfold Piece.between at member
  split at member
  · rw [List.mem_singleton.mp member]
  · exact absurd member List.not_mem_nil

/-- The earliest match is one of the opener of its rule. -/
theorem earliest_found {line : List Char} {offset first index : Nat} {rules : List Rule} {rule : Rule}
    {m : Pattern.Match} (found : earliest line offset first rules = some (index, rule, m)) :
    (∃ place, rules[place]? = some rule ∧ index = first + place) ∧ rule.opener.findAt line offset = some m := by
  induction rules generalizing first with
  | nil => cases found
  | cons head rules ih =>
    have later (found : earliest line offset (first + 1) rules = some (index, rule, m)) :
        (∃ place, (head :: rules)[place]? = some rule ∧ index = first + place) ∧
          rule.opener.findAt line offset = some m := by
      obtain ⟨⟨place, known, here⟩, match_⟩ := ih found
      exact ⟨⟨place + 1, known, by omega⟩, match_⟩
    unfold earliest at found
    split at found
    · exact later found
    · rename_i only _
      cases found
      exact ⟨⟨0, rfl, rfl⟩, only⟩
    · rename_i here best
      split at found
      · cases found
        exact ⟨⟨0, rfl, rfl⟩, here⟩
      · exact later (best.trans found)

theorem earliest_rule {line : List Char} {offset index : Nat} {rules : List Rule} {rule : Rule} {m : Pattern.Match}
    (found : earliest line offset 0 rules = some (index, rule, m)) :
    rules[index]? = some rule ∧ rule.opener.findAt line offset = some m := by
  obtain ⟨⟨place, known, rfl⟩, match_⟩ := earliest_found found
  exact ⟨by rwa [Nat.zero_add], match_⟩

namespace RuleGrammar

/-- How far a line has been divided, and the block that is open there. -/
structure Place where
  offset : Nat
  openBlock : Option Nat
deriving DecidableEq, Repr

/-- Whether an index is that of a block. -/
def HasBlock (g : RuleGrammar) (index : Nat) : Prop :=
  ∃ opening closing scope, g.rules[index]? = some (.block opening closing scope)

variable (g : RuleGrammar) (line : List Char)

/-- One round before the end of the line: the pieces that it adds, and the place where it leaves off. -/
inductive Round : Place → List Piece → Place → Prop
  | closed {offset index opening closing m} {scope : String} : offset < byteLength line →
      g.rules[index]? = some (.block opening closing scope) → closing.findAt line offset = some m →
      Round ⟨offset, some index⟩ (Piece.between offset m.stop scope) ⟨m.stop, none⟩
  | carried {offset index opening closing} {scope : String} : offset < byteLength line →
      g.rules[index]? = some (.block opening closing scope) → closing.findAt line offset = none →
      Round ⟨offset, some index⟩ (Piece.between offset (byteLength line) scope) ⟨byteLength line, some index⟩
  | dropped {offset index} : offset < byteLength line → ¬g.HasBlock index →
      Round ⟨offset, some index⟩ [] ⟨offset, none⟩
  | plain {offset} : offset < byteLength line → earliest line offset 0 g.rules = none →
      Round ⟨offset, none⟩ (Piece.between offset (byteLength line) none) ⟨byteLength line, none⟩
  | matched {offset index rule m} : offset < byteLength line →
      earliest line offset 0 g.rules = some (index, rule, m) → m.start < m.stop →
      Round ⟨offset, none⟩ (Piece.between offset m.start none ++ Piece.between m.start m.stop rule.scope)
        ⟨m.stop, if rule.isBlock then some index else none⟩
  | skipped {offset index rule m next} : offset < byteLength line →
      earliest line offset 0 g.rules = some (index, rule, m) → ¬m.start < m.stop →
      nextBoundary line m.start = .ok next → Round ⟨offset, none⟩ (Piece.between offset next none) ⟨next, none⟩

/-- So many rounds from a place to the end of the line: the pieces that they add, and the block that is open then. -/
inductive Run : Nat → Place → List Piece → Option Nat → Prop
  | ended {offset openBlock} : byteLength line ≤ offset → Run 0 ⟨offset, openBlock⟩ [] openBlock
  | next {rounds place pieces later more after} : Round g line place pieces later → Run rounds later more after →
      Run (rounds + 1) place (pieces ++ more) after

/-- The places that are come to from one of them. -/
inductive Reach (start : Place) : Place → Prop
  | start : Reach start start
  | next {place pieces later} : Reach start place → Round g line place pieces later → Reach start later

variable {g line}

theorem lexFrom_outside {offset : Nat} (outside : byteLength line ≤ offset) (openBlock : Option Nat) :
    g.lexFrom line offset openBlock = .ok ([], openBlock) := by
  rw [lexFrom.eq_def, dif_neg (Nat.not_lt.mpr outside)]

namespace Round

variable {place later : Place} {pieces : List Piece}

theorem inside (round : Round g line place pieces later) : place.offset < byteLength line := by
  cases round <;> assumption

/-- A round gets on in the line, unless all that it does is to give up a block. -/
theorem progress (round : Round g line place pieces later) :
    place.offset < later.offset ∨
      place.offset = later.offset ∧ place.openBlock.isSome ∧ later.openBlock = none := by
  cases round with
  | @closed offset _ _ _ m _ inside _ found =>
    have bounds := Pattern.findAt_bounds found
    by_cases same : m.stop = offset
    · exact .inr ⟨same.symm, rfl, rfl⟩
    · exact .inl (by simp only; omega)
  | carried inside _ _ => exact .inl inside
  | dropped _ _ => exact .inr ⟨rfl, rfl, rfl⟩
  | plain inside _ => exact .inl inside
  | matched _ found nonempty =>
    have bounds := earliest_bounds found
    exact .inl (by simp only; omega)
  | @skipped offset _ _ m next inside found _ passed =>
    have bounds := earliest_bounds found
    have ordered := le_of_nextBoundary passed
    have further := lt_of_nextBoundary passed
    exact .inl (by simp only; omega)

/-- A round is what the division of the rest of the line begins with. -/
theorem lexFrom_eq (round : Round g line place pieces later) : g.lexFrom line place.offset place.openBlock =
    (g.lexFrom line later.offset later.openBlock).map fun (more, after) => (pieces ++ more, after) := by
  cases round with
  | closed inside rule found =>
    rw [lexFrom, dif_pos inside]
    simp only [rule]
    split
    · rename_i again
      cases found.symm.trans again
      rfl
    · rename_i nothing
      cases found.symm.trans nothing
  | carried inside rule found =>
    rw [lexFrom, dif_pos inside]
    simp only [rule]
    split
    · rename_i again
      cases found.symm.trans again
    · rw [lexFrom, dif_neg (Nat.lt_irrefl _), Except.map, List.append_nil]
  | dropped inside noBlock =>
    rw [lexFrom, dif_pos inside]
    simp only
    split
    · rename_i rule
      exact absurd ⟨_, _, _, rule⟩ noBlock
    · rcases g.lexFrom line _ none with fault | ⟨more, after⟩ <;> rfl
  | plain inside nothing =>
    rw [lexFrom, dif_pos inside]
    simp only
    split
    · rw [lexFrom, dif_neg (Nat.lt_irrefl _), Except.map, List.append_nil]
    · rename_i again
      cases nothing.symm.trans again
  | matched inside found nonempty =>
    rw [lexFrom, dif_pos inside]
    simp only
    split
    · rename_i nothing
      cases found.symm.trans nothing
    · rename_i again
      cases found.symm.trans again
      rw [dif_pos nonempty]
      rfl
  | skipped inside found empty passed =>
    rw [lexFrom, dif_pos inside]
    simp only
    split
    · rename_i nothing
      cases found.symm.trans nothing
    · rename_i again
      cases found.symm.trans again
      rw [dif_neg empty]
      split
      · rename_i stuck
        cases passed.symm.trans stuck
      · rename_i again
        cases passed.symm.trans again
        rfl

/-- Rounds leave off where characters begin. -/
theorem boundary (round : Round g line place pieces later) (begins : Boundary line place.offset) :
    Boundary line later.offset := by
  cases round with
  | closed _ _ found => exact (Pattern.findAt_boundary found).2
  | carried _ _ _ => exact boundary_end line
  | dropped _ _ => exact begins
  | plain _ _ => exact boundary_end line
  | matched _ found _ => exact (earliest_boundary found).2
  | skipped _ found _ passed =>
    obtain ⟨next, again, ends⟩ := (earliest_boundary found).1.next
    cases passed.symm.trans again
    exact ends

theorem scopes (round : Round g line place pieces later) {piece : Piece} (member : piece ∈ pieces) :
    piece.scope = none ∨ ∃ rule ∈ g.rules, piece.scope = some rule.scope := by
  cases round with
  | closed _ rule _ => exact .inr ⟨_, List.mem_of_getElem? rule, Piece.scope_of_between member⟩
  | carried _ rule _ => exact .inr ⟨_, List.mem_of_getElem? rule, Piece.scope_of_between member⟩
  | dropped _ _ => exact absurd member List.not_mem_nil
  | plain _ _ => exact .inl (Piece.scope_of_between member)
  | matched _ found _ =>
    rcases List.mem_append.mp member with before | here
    · exact .inl (Piece.scope_of_between before)
    · exact .inr ⟨_, List.mem_of_getElem? (earliest_rule found).1, Piece.scope_of_between here⟩
  | skipped _ _ _ _ => exact .inl (Piece.scope_of_between member)

end Round

/-- Before the end of the line there is always a round to be made. -/
theorem exists_round {place : Place} (inside : place.offset < byteLength line) :
    ∃ pieces later, Round g line place pieces later := by
  obtain ⟨offset, _ | index⟩ := place
  · rcases found : earliest line offset 0 g.rules with _ | ⟨index, rule, m⟩
    · exact ⟨_, _, .plain inside found⟩
    · by_cases nonempty : m.start < m.stop
      · exact ⟨_, _, .matched inside found nonempty⟩
      · obtain ⟨next, passed, _⟩ := (earliest_boundary found).1.next
        exact ⟨_, _, .skipped inside found nonempty passed⟩
  · by_cases block : g.HasBlock index
    · obtain ⟨opening, closing, scope, rule⟩ := block
      rcases found : closing.findAt line offset with _ | m
      · exact ⟨_, _, .carried inside rule found⟩
      · exact ⟨_, _, .closed inside rule found⟩
    · exact ⟨_, _, .dropped inside block⟩

/-- The rounds come to an end. For each byte that is left there are two of them at most: one that passes it and one that
gives up a block in front of it. -/
theorem exists_run (place : Place) : ∃ rounds pieces after, Run g line rounds place pieces after ∧
    rounds ≤ 2 * (byteLength line - place.offset) ∧
    (place.offset < byteLength line → place.openBlock = none → rounds < 2 * (byteLength line - place.offset)) := by
  induction size : 2 * (byteLength line - place.offset) + place.openBlock.isSome.toNat using Nat.strongRecOn
    generalizing place with
  | ind n ih =>
    by_cases inside : place.offset < byteLength line
    · obtain ⟨pieces, later, round⟩ := exists_round inside
      rcases round.progress with further | ⟨same, block, none_⟩
      · have fewer : later.openBlock.isSome.toNat ≤ 1 := Bool.toNat_le _
        obtain ⟨rounds, more, after, run, bound, _⟩ := ih _ (by omega) later rfl
        exact ⟨_, _, after, .next round run, by omega, by omega⟩
      · obtain ⟨rounds, more, after, run, _, strict⟩ := ih _ (by simp [none_, block] at size ⊢; omega) later rfl
        have bound := strict (by omega) none_
        exact ⟨_, _, after, .next round run, by omega, fun _ none_ => by simp [none_] at block⟩
    · exact ⟨0, [], _, .ended (by omega), by omega, fun further => absurd further inside⟩

namespace Run

variable {rounds : Nat} {place : Place} {pieces : List Piece} {after : Option Nat}

theorem lexFrom_eq (run : Run g line rounds place pieces after) :
    g.lexFrom line place.offset place.openBlock = .ok (pieces, after) := by
  induction run with
  | ended outside => exact lexFrom_outside outside _
  | next round _ ih =>
    rw [round.lexFrom_eq, ih]
    rfl

theorem scopes (run : Run g line rounds place pieces after) : ∀ piece ∈ pieces,
    piece.scope = none ∨ ∃ rule ∈ g.rules, piece.scope = some rule.scope := by
  induction run with
  | ended _ => exact fun _ member => absurd member List.not_mem_nil
  | next round _ ih =>
    intro piece member
    rcases List.mem_append.mp member with here | later
    · exact round.scopes here
    · exact ih piece later

end Run

/-- What is come to from a place ends as it does. -/
theorem Reach.lexFrom {start place : Place} (reach : Reach g line start place) {pieces : List Piece}
    {after : Option Nat} (run : g.lexFrom line start.offset start.openBlock = .ok (pieces, after)) :
    ∃ more, g.lexFrom line place.offset place.openBlock = .ok (more, after) := by
  induction reach with
  | start => exact ⟨pieces, run⟩
  | @next place _ later _ round ih =>
    obtain ⟨more, rest⟩ := ih
    rw [round.lexFrom_eq] at rest
    rcases ended : g.lexFrom line later.offset later.openBlock with fault | ⟨others, last⟩
    · rw [ended] at rest
      cases rest
    · rw [ended] at rest
      cases rest
      exact ⟨others, rfl⟩

theorem Reach.boundary {start place : Place} (reach : Reach g line start place)
    (begins : Boundary line start.offset) : Boundary line place.offset := by
  induction reach with
  | start => exact begins
  | next _ round ih => exact round.boundary ih

end RuleGrammar

end Highlighter
