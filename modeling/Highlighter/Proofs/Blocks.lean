import Highlighter.Proofs.Pattern.Leads
import Highlighter.Proofs.Spans

namespace Highlighter.RuleGrammar

open Text

/-- The text of a block begins at an offset of a line: at the start, if the block was open before, and otherwise where
the match of its opening pattern ends. -/
inductive Opens (g : RuleGrammar) (line : List Char) (before : Option Nat) (index : Nat) : Nat → Prop
  | before : before = some index → Opens g line before index 0
  | here {offset rule m} : g.Reach line ⟨0, before⟩ ⟨offset, none⟩ → offset < byteLength line →
      earliest line offset 0 g.rules = some (index, rule, m) → m.start < m.stop → rule.isBlock →
      Opens g line before index m.stop

variable {g : RuleGrammar} {line : List Char} {before : Option Nat} {index begins : Nat}

namespace Opens

/-- The lexer comes to the place where a block's text begins. -/
theorem reach (opens : g.Opens line before index begins) : g.Reach line ⟨0, before⟩ ⟨begins, some index⟩ := by
  cases opens with
  | before open_ =>
    rw [open_]
    exact .start
  | here reach inside found nonempty block =>
    have round := Round.matched inside found nonempty
    rw [if_pos block] at round
    exact .next reach round

variable {pieces : List Piece} {after : Option Nat}

/-- A block stays open to the end of the line if its closing pattern does not match, and also if there is no text left
to look for it in. -/
theorem open_after (opens : g.Opens line before index begins) (run : g.lexFrom line 0 before = .ok (pieces, after))
    {opening closing : Pattern} {scope : String} (rule : g.rules[index]? = some (.block opening closing scope))
    (unclosed : closing.findAt line begins = none ∨ begins = byteLength line) : after = some index := by
  obtain ⟨more, rest⟩ := opens.reach.lexFrom run
  by_cases inside : begins < byteLength line
  · have nothing : closing.findAt line begins = none := unclosed.resolve_right (Nat.ne_of_lt inside)
    rw [(Round.carried inside rule nothing).lexFrom_eq, lexFrom_outside (Nat.le_refl _)] at rest
    cases rest
    rfl
  · rw [lexFrom_outside (Nat.not_lt.mp inside)] at rest
    cases rest
    rfl

end Opens

/-- A block that is open at the end of the line has been opened at a place from which on it is not closed. -/
theorem Run.opens {rounds : Nat} {place : Place} {pieces : List Piece} {after : Option Nat}
    (run : g.Run line rounds place pieces after) (reach : g.Reach line ⟨0, before⟩ place)
    (open_ : ∀ index, place.openBlock = some index → g.Opens line before index place.offset)
    (ends : after = some index) : ∃ begins, g.Opens line before index begins ∧
      ∀ opening closing scope, g.rules[index]? = some (.block opening closing scope) →
        closing.findAt line begins = none ∨ begins = byteLength line := by
  induction run with
  | @ended offset openBlock outside =>
    have inside := (reach.boundary (boundary_zero line)).le
    exact ⟨offset, open_ index ends, fun _ _ _ _ => .inr (Nat.le_antisymm inside outside)⟩
  | next round rest ih =>
    have later := reach.next round
    cases round with
    | closed _ _ _ => exact ih later nofun ends
    | @carried offset index _ _ _ inside rule nothing =>
      -- nothing of the line is left, so this block is the one that is open at its end
      have same := rest.lexFrom_eq
      rw [lexFrom_outside (Nat.le_refl _)] at same
      cases same
      cases ends
      refine ⟨offset, open_ index rfl, fun _ _ _ again => .inl ?_⟩
      cases rule.symm.trans again
      exact nothing
    | dropped _ _ => exact ih later nofun ends
    | plain _ _ => exact ih later nofun ends
    | @matched offset other rule m inside found nonempty =>
      refine ih later (fun index known => ?_) ends
      by_cases isBlock : rule.isBlock
      · rw [if_pos isBlock] at known
        cases known
        exact .here reach inside found nonempty isBlock
      · rw [if_neg isBlock] at known
        cases known
    | skipped _ _ _ _ => exact ih later nofun ends

/-- A block of the grammar is open after a line exactly if its text begins at some offset of it from which on its closing
pattern has no match, or at the very end, where the pattern is not looked for. -/
theorem open_after_line_iff {α : Type} (g : RuleGrammar) (line : String) (prior : Option (LineState α)) :
    ∃ spans after, g.tokenizeLine line prior = .ok ⟨spans, .rules after⟩ ∧
      ∀ index opening closing scope, g.rules[index]? = some (.block opening closing scope) →
        (after = some index ↔ ∃ begins, g.Opens line.toList (prior.bind LineState.openBlock?) index begins ∧
          (closing.findAt line.toList begins = none ∨ begins = line.utf8ByteSize)) := by
  obtain ⟨rounds, pieces, after, run, _⟩ := @exists_run g line.toList ⟨0, prior.bind LineState.openBlock?⟩
  obtain ⟨made, _⟩ := g.tokenizeLine_of_lexFrom run.lexFrom_eq
  refine ⟨_, after, made, fun index opening closing scope rule => ⟨fun ends => ?_, fun ⟨begins, opens, unclosed⟩ => ?_⟩⟩
  · have carried (index : Nat) (known : prior.bind LineState.openBlock? = some index) :
        g.Opens line.toList (prior.bind LineState.openBlock?) index 0 := .before known
    obtain ⟨begins, opens, unclosed⟩ := run.opens .start carried ends
    rw [byteLength_toList] at unclosed
    exact ⟨begins, opens, unclosed opening closing scope rule⟩
  · rw [← byteLength_toList] at unclosed
    exact opens.open_after run.lexFrom_eq rule unclosed

/-- Comments that begin with one pattern and end with another. -/
def comments (opening closing : String) : GrammarDefinition :=
  ⟨"comments", "source", [], [⟨none, some opening, some closing, "comment"⟩]⟩

/-- A comment that begins where a line does is opened behind its mark. -/
theorem opens_comment {source other : String} {opening closing : Pattern} {line : List Char} {stop : Nat}
    (first : Pattern.compile source = .ok opening) (second : Pattern.compile other = .ok closing)
    (found : opening.findAt line 0 = some ⟨0, stop⟩) (nonempty : 0 < stop) :
    ∃ g : RuleGrammar, (comments source other).compile = .ok g ∧
      g.rules[0]? = some (.block opening closing "comment") ∧ g.Opens line none 0 stop := by
  have bounds := Pattern.findAt_bounds found
  have inside : 0 < byteLength line := Nat.lt_of_lt_of_le nonempty bounds.2.2
  refine ⟨⟨"comments", "source", [.block opening closing "comment"]⟩, ?_, rfl, ?_⟩
  · simp only [comments, GrammarDefinition.compile, List.mapM_cons, List.mapM_nil, RuleDefinition.compile,
      compilePattern, first, second]
    rfl
  · have match_ : earliest line 0 0 [.block opening closing "comment"] =
        some (0, .block opening closing "comment", ⟨0, stop⟩) := by
      simp only [earliest, Rule.opener, found]
    have block : (Rule.block opening closing "comment").isBlock := rfl
    exact .here (m := ⟨0, stop⟩) .start inside match_ nonempty block

/-- The pattern of a mark that is compiled from its characters, with the first of its matches in a line that begins
with them. -/
theorem findAt_mark (source : String) (chars : List Char)
    (read : (do (← Pattern.Tree.read source).regex).toOption = some (.literal chars))
    (fits : (Pattern.Regex.literal chars).fits) (rest : List Char) :
    ∃ p, Pattern.compile source = .ok p ∧ p.findAt (chars ++ rest) 0 = some ⟨0, byteLength chars⟩ :=
  ⟨_, Pattern.compile_of_regex (eq_ok_of_toOption read) fits, Pattern.findAt_leads rfl (.literal [] rest chars)⟩

/-- A comment that its line does not close. -/
theorem open_after_line_iff_comment : ∃ g opening closing spans,
    (comments "/\\*" "\\*/").compile = .ok g ∧ g.rules[0]? = some (.block opening closing "comment") ∧
      g.tokenizeLine "/* é" (some (.other 7)) = .ok ⟨spans, .rules (some 0)⟩ ∧
      closing.findAt "/* é".toList 2 = none := by
  obtain ⟨opening, first, found⟩ : ∃ p, Pattern.compile "/\\*" = .ok p ∧ p.findAt "/* é".toList 0 = some ⟨0, 2⟩ :=
    findAt_mark "/\\*" ['/', '*'] (by decide +kernel) rfl [' ', 'é']
  let closing : Pattern := ⟨"\\*/", (Pattern.Regex.literal ['*', '/']).automaton⟩
  have second : Pattern.compile "\\*/" = .ok closing :=
    Pattern.compile_of_regex (eq_ok_of_toOption (by decide +kernel)) rfl
  have starts : ∀ c ∈ [' ', 'é'], (Pattern.Regex.literal ['*', '/']).starts c = false := by
    simp [Pattern.Regex.starts]
  have nothing : closing.findAt "/* é".toList 2 = none := Pattern.findAt_nothing rfl rfl starts ['/', '*']
  obtain ⟨g, compiled, rule, opens⟩ := opens_comment first second found (by decide)
  obtain ⟨spans, after, made, iff_⟩ := open_after_line_iff g "/* é" (some (.other 7))
  have stays := (iff_ 0 opening closing "comment" rule).mpr ⟨2, opens, .inl nothing⟩
  exact ⟨g, opening, closing, spans, compiled, rule, stays ▸ made, nothing⟩

/-- A comment that the end of its line closes, on a line that has nothing behind the mark: the closing pattern matches
where the text of the comment begins, and the comment stays open all the same. -/
theorem comment_left_open : ∃ g opening closing spans,
    (comments "//" "$").compile = .ok g ∧ g.rules[0]? = some (.block opening closing "comment") ∧
      g.tokenizeLine "//" (none : Option (LineState Nat)) = .ok ⟨spans, .rules (some 0)⟩ ∧
      g.Opens "//".toList none 0 2 ∧ closing.findAt "//".toList 2 = some ⟨2, 2⟩ := by
  obtain ⟨opening, first, found⟩ : ∃ p, Pattern.compile "//" = .ok p ∧ p.findAt "//".toList 0 = some ⟨0, 2⟩ :=
    findAt_mark "//" ['/', '/'] (by decide +kernel) rfl []
  let closing : Pattern := ⟨"$", (Pattern.Regex.look .textEnd).automaton⟩
  have second : Pattern.compile "$" = .ok closing :=
    Pattern.compile_of_regex (eq_ok_of_toOption (by decide +kernel)) rfl
  have leads : (Pattern.Regex.look .textEnd).Leads (.behind ['/', '/'] ([] ++ [])) (.behind (['/', '/'] ++ []) []) :=
    .look rfl
  have ended : closing.findAt "//".toList 2 = some ⟨2, 2⟩ := Pattern.findAt_leads rfl leads
  obtain ⟨g, compiled, rule, opens⟩ := opens_comment first second found (by decide)
  obtain ⟨pieces, after, run, _⟩ := g.lexFrom_tiles "//".toList 0 none (boundary_zero _)
  have stays := opens.open_after run rule (.inr rfl)
  obtain ⟨made, _⟩ := @tokenizeLine_of_lexFrom Nat g "//" none pieces after run
  exact ⟨g, opening, closing, _, compiled, rule, stays ▸ made, opens, ended⟩

end Highlighter.RuleGrammar
