import Highlighter.Proofs.Yaml.Block

namespace Highlighter.Yaml

/-- Whether a token can begin with the character, which is no white space and begins no comment. -/
def startsToken (c : Char) : Bool := !isWhiteSpace c && c ≠ '#' && c ≠ '\ufeff'

theorem not_isWhiteSpace_of_startsToken {c : Char} (starts : startsToken c = true) : isWhiteSpace c = false := by
  simp only [startsToken, Bool.and_eq_true, Bool.not_eq_true'] at starts
  exact starts.1.1

namespace Lexer

/-- How many characters are no white space. Every token takes one of them at least. -/
def marks (glyphs : List Glyph) : Nat := glyphs.countP fun g => !g.isWhite

theorem marks_le_length (glyphs : List Glyph) : marks glyphs ≤ glyphs.length := List.countP_le_length

@[simp] theorem marks_glyphs (s : Spot) (text : List Char) :
    marks (s.glyphs text) = text.countP fun c => !isWhiteSpace c := by
  have same : marks (s.glyphs text) = ((s.glyphs text).map Glyph.char).countP fun c => !isWhiteSpace c := by
    rw [List.countP_map]
    rfl
  rw [same, s.map_char_glyphs]

/-- Reading goes on to the end of the text, and these are the tokens then, the last one first. -/
def Ends (l : Lexer) (tokens : List Token) : Prop :=
  ∀ fuel, marks l.rest < fuel → ∃ last, run fuel l = .ok last ∧ last.tokens = tokens

/-- Spaces and line breaks. -/
def IsGap (white : List Char) : Prop := ∀ c ∈ white, c = ' ' ∨ isLineBreak c = true

theorem isGap_nil : IsGap [] := nofun

theorem isGap_space : IsGap [' '] := List.forall_mem_singleton.mpr (.inl rfl)

theorem isGap_line (n : Nat) : IsGap ('\n' :: spaces n) :=
  List.forall_mem_cons.mpr ⟨.inr rfl, fun _ member => .inl (List.eq_of_mem_replicate member)⟩

theorem IsGap.isWhiteSpace {white : List Char} (gap : IsGap white) : ∀ c ∈ white, isWhiteSpace c = true :=
  fun c member => by rcases gap c member with space | break_ <;> simp [Yaml.isWhiteSpace, *]

theorem IsGap.countP {white : List Char} (gap : IsGap white) : white.countP (fun c => !Yaml.isWhiteSpace c) = 0 :=
  List.countP_eq_zero.mpr fun c member => by simp [gap.isWhiteSpace c member]

theorem skipWhite_gap (s : Spot) (allowed : Bool) {white : List Char} (gap : IsGap white) (rest : List Char) :
    skipWhite false allowed false (s.glyphs (white ++ rest)) =
      skipWhite false (allowed || white.any isLineBreak) false ((s.past white).glyphs rest) := by
  induction white generalizing s allowed with
  | nil => simp
  | cons c white ih =>
    obtain ⟨here, later⟩ := List.forall_mem_cons.mp gap
    rw [List.cons_append, Spot.glyphs_cons, skipWhite, Spot.past_cons]
    by_cases broken : isLineBreak c = true
    · rw [Spot.isBreak_glyph, if_pos broken, ih _ _ later, List.any_cons, broken]
      simp
    · obtain rfl : c = ' ' := here.resolve_right broken
      have space : ((s.glyph ' ').char = ' ') = True := eq_true rfl
      have noNumber : ((s.glyph ' ').char = '#') = False := eq_false (show ' ' ≠ '#' by decide)
      simp only [Spot.isBreak_glyph, Bool.eq_false_iff.mpr broken, noNumber, space, decide_true, Bool.true_or, if_true,
        Bool.false_eq_true, if_false, ih _ _ later, List.any_cons, Bool.false_or]

theorem skipWhite_begins (s : Spot) (allowed : Bool) {rest : List Char} (begins : rest.head?.all startsToken = true) :
    skipWhite false allowed false (s.glyphs rest) = (allowed, s.glyphs rest) := by
  cases rest with
  | nil => rfl
  | cons c rest =>
    rw [List.head?_cons, Option.all_some] at begins
    simp only [startsToken, Yaml.isWhiteSpace, Bool.and_eq_true, Bool.not_eq_true', Bool.or_eq_false_iff,
      decide_eq_false_iff_not, decide_eq_true_eq] at begins
    obtain ⟨⟨⟨⟨noSpace, noTab⟩, unbroken⟩, noNumber⟩, noMark⟩ := begins
    simp [Spot.glyphs_cons, skipWhite, unbroken, noSpace, noTab, noNumber, noMark]

theorem skipWhite_eq (s : Spot) (allowed : Bool) {white rest : List Char} (gap : IsGap white)
    (begins : rest.head?.all startsToken = true) :
    skipWhite false allowed false (s.glyphs (white ++ rest)) =
      (allowed || white.any isLineBreak, (s.past white).glyphs rest) := by
  rw [skipWhite_gap s allowed gap, skipWhite_begins _ _ begins]

/-- In front of a text, outside of brackets, where no key has begun. -/
def before (s : Spot) (text : List Char) (indents : List Nat) (allowed : Bool) (tokens : List Token) : Lexer :=
  { rest := s.glyphs text, tokens, indents, keyAllowed := allowed }

theorem closeBlocks_stays (l : Lexer) {column : Nat} (stays : ∀ indent ∈ l.indents.head?, indent ≤ column) :
    l.closeBlocks (some column) = l := by
  unfold closeBlocks
  split
  · rfl
  · rcases l with ⟨rest, tokens, _ | ⟨indent, indents⟩, allowed, start, outer⟩
    · rfl
    · have left : decide (column < indent) = false := decide_eq_false (Nat.not_lt.mpr (stays indent rfl))
      simp [left]

variable {tokens : List Token} {l l' : Lexer}

theorem Ends.step {allowed : Bool} {g : Glyph} {rest : List Glyph} {start : Option KeyStart}
    {outer : List (Option KeyStart)} (skipped : skipWhite l.inFlow l.keyAllowed false l.rest = (allowed, g :: rest))
    (fresh : forgetStale g l.keyStart = .ok start) (fresher : l.outer.mapM (forgetStale g) = .ok outer)
    (read : ({ l with keyAllowed := allowed, keyStart := start, outer, rest := g :: rest }.closeBlocks
      (some g.column)).token g rest = .ok l')
    (shorter : marks l'.rest < marks l.rest) (ends : l'.Ends tokens) : l.Ends tokens := by
  intro fuel enough
  obtain ⟨fuel, rfl⟩ : ∃ n, fuel = n + 1 := ⟨fuel - 1, by omega⟩
  obtain ⟨last, later, same⟩ := ends fuel (by omega)
  refine ⟨last, ?_, same⟩
  rw [run, skipped]
  simp only [fresh, fresher, ok_bind, read]
  exact later

theorem skipWhite_front {s : Spot} {white rest : List Char} (outside : l.outer = [])
    (front : l.rest = s.glyphs (white ++ rest)) (gap : IsGap white) (begins : rest.head?.all startsToken = true) :
    skipWhite l.inFlow l.keyAllowed false l.rest =
      (l.keyAllowed || white.any isLineBreak, (s.past white).glyphs rest) := by
  have flow : l.inFlow = false := by
    rw [inFlow, outside]
    rfl
  rw [front, flow, skipWhite_eq s l.keyAllowed gap begins]

/-- A token outside of brackets, behind some white space and to the right of the open blocks. -/
theorem Ends.token {s : Spot} {white rest : List Char} {c : Char} {start : Option KeyStart} (outside : l.outer = [])
    (front : l.rest = s.glyphs (white ++ c :: rest)) (gap : IsGap white) (starts : startsToken c = true)
    (fresh : forgetStale ((s.past white).glyph c) l.keyStart = .ok start)
    (stays : ∀ indent ∈ l.indents.head?, indent ≤ (s.past white).column)
    (read : Lexer.token { l with
        keyAllowed := l.keyAllowed || white.any isLineBreak
        keyStart := start
        rest := (s.past white).glyphs (c :: rest) }
      ((s.past white).glyph c) (((s.past white).next c).glyphs rest) = .ok l')
    (shorter : marks l'.rest ≤ rest.countP fun c => !isWhiteSpace c) (ends : l'.Ends tokens) : l.Ends tokens := by
  have skipped := @skipWhite_front l s white (c :: rest) outside front gap starts
  have none : l.outer.mapM (forgetStale ((s.past white).glyph c)) = .ok [] := by
    rw [outside]
    rfl
  rw [Spot.glyphs_cons] at skipped read
  refine Ends.step skipped fresh none ?_ ?_ ends
  · rw [Spot.column_glyph, closeBlocks_stays]
    · simpa only [outside] using read
    · exact stays
  · have dark := not_isWhiteSpace_of_startsToken starts
    have marksFront : marks l.rest = rest.countP (fun c => !Yaml.isWhiteSpace c) + 1 := by
      rw [front, marks_glyphs, List.countP_append, gap.countP, List.countP_cons_of_pos (by simp [dark]), Nat.zero_add]
    omega

section Before

variable {s : Spot} {c : Char} {rest : List Char} {indents : List Nat} {allowed : Bool} {earlier : List Token}
  (starts : startsToken c = true)

include starts

theorem Ends.here (stays : ∀ indent ∈ indents.head?, indent ≤ s.column)
    (read : (before s (c :: rest) indents allowed earlier).token (s.glyph c) ((s.next c).glyphs rest) = .ok l')
    (shorter : marks l'.rest ≤ rest.countP fun c => !isWhiteSpace c) (ends : l'.Ends tokens) :
    (before s (c :: rest) indents allowed earlier).Ends tokens := by
  refine @Ends.token tokens _ l' s [] rest c none rfl rfl isGap_nil starts rfl stays ?_ shorter ends
  rwa [List.any_nil, Bool.or_false]

theorem Ends.behindSpace (stays : ∀ indent ∈ indents.head?, indent ≤ s.column + 1)
    (read : (before (s.next ' ') (c :: rest) indents allowed earlier).token ((s.next ' ').glyph c)
      (((s.next ' ').next c).glyphs rest) = .ok l')
    (shorter : marks l'.rest ≤ rest.countP fun c => !isWhiteSpace c) (ends : l'.Ends tokens) :
    (before s (' ' :: c :: rest) indents allowed earlier).Ends tokens := by
  refine @Ends.token tokens _ l' s [' '] rest c none rfl rfl isGap_space starts rfl stays ?_ shorter ends
  rwa [show [' '].any isLineBreak = false from rfl, Bool.or_false]

end Before

theorem finish (l : Lexer) (outside : l.outer = []) (free : ∀ start ∈ l.keyStart, start.required = false) :
    ∃ last, (l.closeBlocks none).dropKey = .ok last ∧
      last.tokens = List.replicate l.indents.length .blockEnd ++ l.tokens := by
  have flow : l.inFlow = false := by
    rw [inFlow, outside]
    rfl
  have all : l.indents.takeWhile (fun _ => true) = l.indents :=
    List.takeWhile_eq_self_iff.mpr fun _ _ => rfl
  have dropped : l.keyStart.any (·.required) = false := by
    rcases begun : l.keyStart with _ | start
    · rfl
    · exact free start begun
  simp [closeBlocks, dropKey, flow, all, dropped]

/-- Where no key can have started, only what comes next matters. -/
theorem Ends.resume {s : Spot} {white rest : List Char} (outside : l.outer = [])
    (front : l.rest = s.glyphs (white ++ rest)) (gap : IsGap white) (begins : rest.head?.all startsToken = true)
    (allowed : (l.keyAllowed || white.any isLineBreak) = true)
    (stale : ∀ start ∈ l.keyStart, start.required = false ∧ start.line < (s.past white).line)
    (ends : (before (s.past white) rest l.indents true l.tokens).Ends tokens) : l.Ends tokens := by
  have skipped := skipWhite_front outside front gap begins
  have again := skipWhite_begins (s.past white) true begins
  intro fuel enough
  obtain ⟨fuel, rfl⟩ : ∃ n, fuel = n + 1 := ⟨fuel - 1, by omega⟩
  have marksFront : marks l.rest = marks ((s.past white).glyphs rest) := by
    rw [front, marks_glyphs, List.countP_append, gap.countP, Nat.zero_add, marks_glyphs]
  obtain ⟨last, reads, same⟩ := ends (fuel + 1) (marksFront ▸ enough)
  rw [run, skipped, allowed]
  rw [run, show (before (s.past white) rest l.indents true l.tokens).inFlow = false from rfl, before] at reads
  simp only [again] at reads
  cases rest with
  | nil =>
    obtain ⟨here, closed, tokensHere⟩ := finish l outside fun start begun => (stale start begun).1
    obtain ⟨there, closedThere, tokensThere⟩ := finish (before (s.past white) [] l.indents true l.tokens) rfl nofun
    cases closedThere.symm.trans reads
    exact ⟨here, closed, tokensHere.trans (tokensThere.symm.trans same)⟩
  | cons c rest =>
    rw [Spot.glyphs_cons] at reads ⊢
    have forgotten : forgetStale ((s.past white).glyph c) l.keyStart = .ok none := by
      rcases begun : l.keyStart with _ | start
      · rfl
      · obtain ⟨free, past⟩ := stale start begun
        simp [forgetStale, free, past]
    refine ⟨last, ?_, same⟩
    simp only [forgotten, outside, ok_bind]
    exact reads

theorem run_before (fuel : Nat) (s : Spot) {c : Char} (starts : startsToken c = true) (rest : List Char)
    (indents : List Nat) (earlier : List Token) :
    run (fuel + 1) (before s (c :: rest) indents true earlier) =
      ((before s (c :: rest) indents true earlier).closeBlocks (some s.column)).token (s.glyph c)
        ((s.next c).glyphs rest) >>= run fuel := by
  have skipped : skipWhite (before s (c :: rest) indents true earlier).inFlow true false (s.glyphs (c :: rest)) =
      (true, s.glyph c :: (s.next c).glyphs rest) := by
    rw [← s.glyphs_cons]
    exact @skipWhite_begins s true (c :: rest) starts
  have keyAllowed : (before s (c :: rest) indents true earlier).keyAllowed = true := rfl
  have front : (before s (c :: rest) indents true earlier).rest = s.glyphs (c :: rest) := rfl
  rw [run, keyAllowed, front, skipped, before, Spot.glyphs_cons]
  rfl

/-- The blocks that stand further to the right are closed in front of a token. -/
theorem Ends.close {s : Spot} {c : Char} {rest : List Char} {indents closed : List Nat} (starts : startsToken c = true)
    (deeper : ∀ indent ∈ closed, s.column < indent) (stays : ∀ indent ∈ indents.head?, indent ≤ s.column)
    {earlier : List Token}
    (ends : (before s (c :: rest) indents true (List.replicate closed.length .blockEnd ++ earlier)).Ends tokens) :
    (before s (c :: rest) (closed ++ indents) true earlier).Ends tokens := by
  have kept : (before s (c :: rest) indents true (List.replicate closed.length .blockEnd ++ earlier)).closeBlocks
      (some s.column) = _ := closeBlocks_stays _ stays
  have shut : (before s (c :: rest) (closed ++ indents) true earlier).closeBlocks (some s.column) =
      before s (c :: rest) indents true (List.replicate closed.length .blockEnd ++ earlier) := by
    have stops : indents.head?.any (fun indent => decide (s.column < indent)) = false := by
      rcases first : indents.head? with _ | indent
      · rfl
      · exact decide_eq_false (Nat.not_lt.mpr (stays indent first))
    obtain ⟨taken, left⟩ := divide_run (p := fun indent => decide (s.column < indent)) (by simpa using deeper) stops
    simp [closeBlocks, before, inFlow, taken, left]
  intro fuel enough
  obtain ⟨fuel, rfl⟩ : ∃ n, fuel = n + 1 := ⟨fuel - 1, by omega⟩
  obtain ⟨last, reads, same⟩ := ends (fuel + 1) enough
  refine ⟨last, ?_, same⟩
  rw [run_before fuel s starts, kept] at reads
  rw [run_before fuel s starts, shut, reads]

/-- All blocks are closed at the end of the text. -/
theorem ends_here (s : Spot) (indents : List Nat) (earlier : List Token) :
    (before s [] indents true earlier).Ends (List.replicate indents.length .blockEnd ++ earlier) := by
  intro fuel enough
  obtain ⟨fuel, rfl⟩ : ∃ n, fuel = n + 1 := ⟨fuel - 1, by omega⟩
  exact finish (before s [] indents true earlier) rfl nofun

end Lexer

end Highlighter.Yaml
