import Highlighter.Proofs.Rounds

namespace Highlighter

open Text

variable {α : Type}

/-- The spans of each line and the state after it. That state is all that the line below gets. -/
def Grammar.tokenizeLines (g : Grammar α) (prior : Option (LineState α)) :
    List String → Except Fault (List (LineTokens α))
  | [] => return []
  | line :: lines => do
    let result ← g.tokenizeLine line prior
    return result :: (← g.tokenizeLines (some result.state) lines)

theorem Grammar.tokenizeLines_cons {g : Grammar α} {prior : Option (LineState α)} {line : String} {lines : List String}
    {result : LineTokens α} {results : List (LineTokens α)} (head : g.tokenizeLine line prior = .ok result)
    (tail : g.tokenizeLines (some result.state) lines = .ok results) :
    g.tokenizeLines prior (line :: lines) = .ok (result :: results) := by
  simp only [Grammar.tokenizeLines, head, tail, ok_bind]
  rfl

/-- Each line has its result. -/
theorem Grammar.length_of_tokenizeLines {g : Grammar α} {prior : Option (LineState α)} {lines : List String}
    {results : List (LineTokens α)} (run : g.tokenizeLines prior lines = .ok results) :
    results.length = lines.length := by
  induction lines generalizing prior results with
  | nil =>
    cases run
    rfl
  | cons line lines ih =>
    obtain ⟨result, _, run⟩ := bind_eq_ok run
    obtain ⟨rest, tail, run⟩ := bind_eq_ok run
    cases run
    exact congrArg Nat.succ (ih tail)

namespace RuleGrammar

variable {g : RuleGrammar} {prior : Option (LineState α)}

/-- No block of the grammar is open: there is no state, or one of another kind, or one whose index is of no block. -/
def NothingOpen (g : RuleGrammar) (prior : Option (LineState α)) : Prop :=
  ∀ index, prior.bind LineState.openBlock? = some index → ¬g.HasBlock index

/-- If an index is open, it is that of a block. -/
def BlockOpen (g : RuleGrammar) (prior : Option (LineState α)) : Prop :=
  ∀ index, prior.bind LineState.openBlock? = some index → g.HasBlock index

theorem lexFrom_eq_none {line : List Char} {openBlock : Option Nat} (inside : 0 < byteLength line)
    (nothing : ∀ index, openBlock = some index → ¬g.HasBlock index) :
    g.lexFrom line 0 openBlock = g.lexFrom line 0 none := by
  rcases openBlock with _ | index
  · rfl
  · rw [(Round.dropped inside (nothing index rfl)).lexFrom_eq]
    rcases g.lexFrom line 0 none with fault | ⟨pieces, after⟩ <;> rfl

theorem tokenizeLine_eq_none (nothing : g.NothingOpen prior) {line : String} (text : line ≠ "") :
    g.tokenizeLine line prior = g.tokenizeLine line (none : Option (LineState α)) := by
  have inside : 0 < byteLength line.toList := by
    rw [byteLength_toList]
    exact Nat.pos_of_ne_zero fun empty => text (String.utf8ByteSize_eq_zero_iff.mp empty)
  simp only [tokenizeLine, lexFrom_eq_none inside nothing]
  rfl

/-- An empty line hands on what it gets, even an index that means nothing. -/
theorem tokenizeLine_empty (prior : Option (LineState α)) :
    g.tokenizeLine "" prior = .ok ⟨[], .rules (prior.bind LineState.openBlock?)⟩ := by
  have outside : byteLength "".toList ≤ 0 := Nat.le_refl 0
  simp only [tokenizeLine, lexFrom_outside outside]
  rfl

/-- States from which the grammar goes on alike: they are the same, or no block of it is open in either. -/
def Alike (g : RuleGrammar) (first second : Option (LineState α)) : Prop :=
  first = second ∨ g.NothingOpen first ∧ g.NothingOpen second

namespace Alike

variable {first second : Option (LineState α)}

/-- From states that are alike a line has the same spans, and the states after it are alike. They become the same on the
first line that has text; before that, each run keeps what it has. -/
theorem tokenizeLine (alike : g.Alike first second) (line : String) :
    ∃ result other : LineTokens α, g.tokenizeLine line first = .ok result ∧ g.tokenizeLine line second = .ok other ∧
      result.spans = other.spans ∧ g.Alike (some result.state) (some other.state) := by
  rcases alike with rfl | ⟨nothing, also⟩
  · obtain ⟨pieces, openBlock, run, _⟩ := g.tokenizeLine_tiles line first
    exact ⟨_, _, run, run, rfl, .inl rfl⟩
  · by_cases text : line = ""
    · subst text
      exact ⟨_, _, tokenizeLine_empty first, tokenizeLine_empty second, rfl, .inr ⟨nothing, also⟩⟩
    · obtain ⟨pieces, openBlock, run, _⟩ := g.tokenizeLine_tiles line (none : Option (LineState α))
      exact ⟨_, _, (tokenizeLine_eq_none nothing text).trans run, (tokenizeLine_eq_none also text).trans run, rfl,
        .inl rfl⟩

theorem tokenizeLines (alike : g.Alike first second) (lines : List String) :
    ∃ results others : List (LineTokens α), g.toGrammar.tokenizeLines first lines = .ok results ∧
      g.toGrammar.tokenizeLines second lines = .ok others ∧
      results.map LineTokens.spans = others.map LineTokens.spans := by
  induction lines generalizing first second with
  | nil => exact ⟨[], [], rfl, rfl, rfl⟩
  | cons line lines ih =>
    obtain ⟨result, other, head, otherHead, spans, after⟩ := alike.tokenizeLine line
    obtain ⟨results, others, tail, otherTail, rest⟩ := ih after
    exact ⟨_, _, Grammar.tokenizeLines_cons head tail, Grammar.tokenizeLines_cons otherHead otherTail, by
      rw [List.map_cons, List.map_cons, spans, rest]⟩

end Alike

theorem Round.blockOpen {line : List Char} {place later : Place} {pieces : List Piece}
    (round : g.Round line place pieces later) (known : ∀ index, place.openBlock = some index → g.HasBlock index) :
    ∀ index, later.openBlock = some index → g.HasBlock index := by
  cases round with
  | closed _ _ _ => exact nofun
  | carried _ _ _ => exact known
  | dropped _ _ => exact nofun
  | plain _ _ => exact nofun
  | @matched _ found rule _ _ match_ _ =>
    intro index open_
    by_cases block : rule.isBlock
    · rw [if_pos block] at open_
      cases open_
      have listed := (earliest_rule match_).1
      cases rule with
      | single pattern scope => cases block
      | block opening closing scope => exact ⟨opening, closing, scope, listed⟩
    · rw [if_neg block] at open_
      cases open_
  | skipped _ _ _ _ => exact nofun

theorem Run.blockOpen {line : List Char} {rounds : Nat} {place : Place} {pieces : List Piece} {after : Option Nat}
    (run : g.Run line rounds place pieces after) (known : ∀ index, place.openBlock = some index → g.HasBlock index) :
    ∀ index, after = some index → g.HasBlock index := by
  induction run with
  | ended _ => exact known
  | next round _ ih => exact ih (round.blockOpen known)

theorem BlockOpen.tokenizeLine (known : g.BlockOpen prior) (line : String) :
    ∃ (result : LineTokens α) (openBlock : Option Nat), g.tokenizeLine line prior = .ok result ∧
      result.state = .rules openBlock ∧ g.BlockOpen (some result.state) := by
  obtain ⟨rounds, pieces, after, run, _⟩ := @exists_run g line.toList ⟨0, prior.bind LineState.openBlock?⟩
  obtain ⟨made, _⟩ := g.tokenizeLine_of_lexFrom run.lexFrom_eq
  exact ⟨_, after, made, rfl, run.blockOpen known⟩

theorem BlockOpen.tokenizeLines (known : g.BlockOpen prior) {lines : List String} {results : List (LineTokens α)}
    (run : g.toGrammar.tokenizeLines prior lines = .ok results) :
    ∀ result ∈ results, ∃ openBlock, result.state = .rules openBlock ∧ g.BlockOpen (some result.state) := by
  induction lines generalizing prior results with
  | nil =>
    cases run
    exact fun _ member => absurd member List.not_mem_nil
  | cons line lines ih =>
    obtain ⟨first, openBlock, made, state, after⟩ := known.tokenizeLine line
    obtain ⟨result, head, run⟩ := bind_eq_ok run
    obtain ⟨rest, tail, run⟩ := bind_eq_ok run
    cases run
    cases made.symm.trans head
    exact List.forall_mem_cons.mpr ⟨⟨openBlock, state, after⟩, ih after tail⟩

/-- A grammar that starts a document with a state of another kind, or with an index that is of no block, finds the spans
that it would find with no state, on every line. What it leaves when it starts with none is an open block of its own or
nothing. -/
theorem tokenizeLines_of_nothing_open {state : LineState α} (nothing : g.NothingOpen (some state))
    (lines : List String) : ∃ results fresh : List (LineTokens α),
      g.toGrammar.tokenizeLines (some state) lines = .ok results ∧ g.toGrammar.tokenizeLines none lines = .ok fresh ∧
      results.length = lines.length ∧ results.map LineTokens.spans = fresh.map LineTokens.spans ∧
      ∀ result ∈ fresh, ∃ openBlock, result.state = .rules openBlock ∧
        ∀ index, openBlock = some index → g.HasBlock index := by
  have alike : g.Alike (some state) none := .inr ⟨nothing, nofun⟩
  obtain ⟨results, fresh, run, freshRun, spans⟩ := alike.tokenizeLines lines
  refine ⟨results, fresh, run, freshRun, Grammar.length_of_tokenizeLines run, spans, fun result member => ?_⟩
  have own : g.BlockOpen (none : Option (LineState α)) := nofun
  obtain ⟨openBlock, left, known⟩ := own.tokenizeLines freshRun result member
  refine ⟨openBlock, left, fun index open_ => known index ?_⟩
  rw [left, open_]
  rfl

/-- A grammar of marks, and of blocks in angle brackets. -/
def marksAndBlocks : RuleGrammar :=
  ⟨"notes", "text", [.single ⟨"#", (Pattern.Regex.literal ['#']).automaton⟩ "mark",
    .block ⟨"<", (Pattern.Regex.literal ['<']).automaton⟩ ⟨">", (Pattern.Regex.literal ['>']).automaton⟩ "block"]⟩

/-- An index that is of no block goes past an empty line and is dropped on the next, where a block opens that the last
line closes. -/
theorem tokenizeLines_of_nothing_open_mark : marksAndBlocks.NothingOpen (some (.rules (some 0) : LineState Nat)) ∧
    ∃ results fresh : List (LineTokens Nat),
      marksAndBlocks.toGrammar.tokenizeLines (some (.rules (some 0))) ["", "é#<é", "#>é"] = .ok results ∧
      marksAndBlocks.toGrammar.tokenizeLines none ["", "é#<é", "#>é"] = .ok fresh ∧
      results.length = 3 ∧ results.map LineTokens.spans = fresh.map LineTokens.spans ∧
      ∀ result ∈ fresh, ∃ openBlock, result.state = .rules openBlock ∧
        ∀ index, openBlock = some index → marksAndBlocks.HasBlock index := by
  have nothing : marksAndBlocks.NothingOpen (some (.rules (some 0) : LineState Nat)) := by
    rintro index open_ ⟨opening, closing, scope, rule⟩
    cases open_
    cases rule
  exact ⟨nothing, tokenizeLines_of_nothing_open nothing ["", "é#<é", "#>é"]⟩

end RuleGrammar

end Highlighter
