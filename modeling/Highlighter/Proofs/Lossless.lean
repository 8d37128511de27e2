import Highlighter.Proofs.Pieces
import Highlighter.Proofs.Registrations
import Highlighter.Proofs.Requests

namespace Highlighter

open Text

variable {α : Type}

/-- The condition that the tokens of a row tile its line. -/
def Tiled : RowCondition α := fun _ _ line tokens _ =>
  Tiles line.toList 0 (tokens.map Token.byteRange) line.utf8ByteSize

theorem Piece.ofSpan_spans {text : String} {pieces : List Piece} (root : String) (row : Nat)
    (ends : ∀ piece ∈ pieces, Boundary text.toList piece.start ∧ Boundary text.toList piece.stop) :
    (pieces.map (Piece.span root text.toList)).mapM (Token.ofSpan text row) =
      .ok (pieces.map (Piece.token root row)) := by
  induction pieces with
  | nil => rfl
  | cons piece pieces ih =>
    obtain ⟨atStart, atStop⟩ := ends piece List.mem_cons_self
    have rest := ih fun piece member => ends piece (List.mem_cons_of_mem _ member)
    rw [List.map_cons, List.mapM_cons, Piece.ofSpan_span root row atStart atStop, rest]
    rfl

theorem RuleGrammar.makes_tiled {g : RuleGrammar} {row : Nat} {prior : Option (LineState α)} {line : String}
    {tokens : List Token} {state : LineState α} (makes : g.toGrammar.Makes row prior line tokens state) :
    Tiled row prior line tokens state := by
  obtain ⟨pieces, openBlock, run, tiles⟩ := g.tokenizeLine_tiles line prior
  have made := Piece.ofSpan_spans g.scope row fun piece member => (tiles.range_mem (List.mem_map_of_mem member)).2
  simp only [Grammar.Makes, Grammar.scratchRow, toGrammar, run, bind, Except.bind, made] at makes
  cases makes
  have ranges : (pieces.map (Piece.token g.scope row)).map Token.byteRange = pieces.map Piece.range := by
    rw [List.map_map]
    refine List.map_congr_left fun piece member => ?_
    exact Piece.byteRange_token g.scope row (tiles.range_mem (List.mem_map_of_mem member)).1
  rw [byteLength_toList] at tiles
  rwa [Tiled, ranges]

/-- An operation that registers definitions, if anything. -/
def Operation.IsWritten : Operation α → Prop
  | .registerGrammar _ => False
  | _ => True

theorem Operation.written_of_registered {operation : Operation α} (written : operation.IsWritten)
    {registration : Registration α} (member : registration ∈ operation.registered) :
    ∃ definition, registration = .written definition := by
  have mapped {definitions : List GrammarDefinition} (member : registration ∈ definitions.map .written) :
      ∃ definition, registration = .written definition := by
    obtain ⟨definition, _, rfl⟩ := List.mem_map.mp member
    exact ⟨definition, rfl⟩
  cases operation with
  | register definition => exact ⟨definition, List.mem_singleton.mp member⟩
  | registerYaml text => exact mapped member
  | registerFile files path => exact mapped member
  | registerGrammar grammar => exact written.elim
  | registerDirectory files directory => exact mapped member
  | load scope => exact absurd member List.not_mem_nil

namespace Catalogue

/-- The catalogues that hold only definitions and what has come of them. -/
inductive Written : Catalogue α → Prop
  | empty : Written {}
  | builtin : Written builtin
  | perform {c operation} : Written c → operation.IsWritten → Written (c.perform operation)

theorem Written.coherent {c : Catalogue α} (written : c.Written) : ∃ history, c.Coherent history ∧
    ∀ registration ∈ history, ∃ definition, registration = .written definition := by
  induction written with
  | empty => exact ⟨_, Begins.empty.coherent, fun _ member => absurd member List.not_mem_nil⟩
  | builtin =>
    refine ⟨_, Begins.builtin.coherent, fun registration member => ?_⟩
    obtain ⟨definition, _, rfl⟩ := List.mem_map.mp member
    exact ⟨definition, rfl⟩
  | @perform c operation _ allowed ih =>
    obtain ⟨history, coherent, before⟩ := ih
    refine ⟨_, coherent.perform operation, fun registration member => ?_⟩
    rcases List.mem_append.mp member with earlier | now
    · exact before registration earlier
    · exact Operation.written_of_registered allowed now

/-- Where only definitions are registered, every grammar is a rule grammar. -/
theorem Written.rules_of_load {c : Catalogue α} (written : c.Written) {scope : String} {grammar : Grammar α}
    (load : (c.load scope).1 = .ok grammar) : ∃ rules : RuleGrammar, grammar = rules.toGrammar := by
  obtain ⟨history, coherent, all⟩ := written.coherent
  rw [coherent.load_eq] at load
  rcases last : lastOf history scope with _ | registration
  · rw [last] at load
    cases load
  · obtain ⟨definition, rfl⟩ := all registration (mem_of_lastOf last)
    simp only [last, Registration.load] at load
    rcases compiled : definition.compile with problem | rules
    · rw [compiled] at load
      cases load
    · rw [compiled] at load
      cases load
      exact ⟨rules, rfl⟩

end Catalogue

/-- A catalogue that may be out of reach for a time, when every load fails. -/
structure Supply (α : Type) where
  catalogue : Catalogue α
  outage : Option GrammarError := none

namespace Supply

def loader : Loader (Supply α) α where
  load supply scope :=
    match supply.outage with
    | some problem => (.error problem, supply)
    | none => ((supply.catalogue.load scope).1, { supply with catalogue := (supply.catalogue.load scope).2 })

def Written (supply : Supply α) : Prop := supply.catalogue.Written

theorem loader_gives : (loader : Loader (Supply α) α).Gives Written
    fun _ grammar => ∃ rules : RuleGrammar, grammar = rules.toGrammar where
  grammar := by
    intro supply scope grammar after written load
    simp only [loader] at load
    split at load
    · cases load
    · exact Catalogue.Written.rules_of_load written (congrArg Prod.fst load)
  source := by
    intro supply scope written
    have performed : (supply.catalogue.perform (.load scope)).Written := .perform written trivial
    simp only [loader]
    split
    · exact written
    · exact performed

theorem keeps_perform {operation : Operation α} (allowed : operation.IsWritten) :
    (Request.change fun supply => { supply with catalogue := supply.catalogue.perform operation }).Keeps
      (Written : Supply α → Prop) :=
  fun _ written => Catalogue.Written.perform written allowed

theorem keeps_outage (outage : Option GrammarError) :
    (Request.change fun supply => { supply with outage }).Keeps (Written : Supply α → Prop) :=
  fun _ written => written

end Supply

/-- A cache that has lost nothing: the tokens that name a line divide it from its first byte to its last, and their
texts are, one after another, the line. -/
def BufferCache.Lossless (cache : BufferCache α) : Prop := ∀ row line, cache.lines[row]? = some line →
  ∃ tokens, (cache.tokens.filter fun token => token.line = row + 1) = tokens ∧
    Tiles line.toList 0 (tokens.map Token.byteRange) line.utf8ByteSize ∧
    ∃ texts, tokens.mapM (fun token => slice line.toList token.byteRange.1 token.byteRange.2) = .ok texts ∧
      texts.flatten = line.toList

theorem BufferCache.Holds.lossless {cache : BufferCache α} (holds : cache.Holds Tiled) : cache.Lossless := by
  intro row line here
  obtain ⟨results, rows, whole⟩ := holds
  obtain ⟨above, tokens, state, tiled, same⟩ := rows.row_at here
  rw [Nat.zero_add] at same
  obtain ⟨texts, slices, joined⟩ := Tiles.slices_line tiled
  rw [List.mapM_map] at slices
  exact ⟨tokens, by rw [whole]; exact same, tiled, texts, slices, joined⟩

/-- Whatever a tokenizer over a catalogue of definitions is asked for, whichever of these are replaced meanwhile and
whichever loads fail, nothing goes wrong and nothing of a line is lost, neither in what it knows of its buffers nor in
any answer it gives next. -/
theorem Tokenizer.tokens_tile_lines {start : Supply α} (written : start.Written) {requests : List (Request (Supply α))}
    (keep : ∀ request ∈ requests, request.Keeps Supply.Written) :
    ∃ replies t, ({ source := start } : Tokenizer (Supply α) α).serveAll Supply.loader requests = .ok (replies, t) ∧
      (∀ {buffer cache}, t.buffers.get? buffer = some cache → cache.Lossless) ∧
      ∀ buffer scope lines, ∃ parse, t.parse Supply.loader buffer scope lines = .ok parse ∧
        (∀ {grammar source}, Supply.loader.load t.source scope = (.ok grammar, source) →
          ∃ answer, parse.answer = .ok answer) ∧
        ∀ answer, parse.answer = .ok answer → ∃ cache, parse.tokenizer.buffers.get? buffer = some cache ∧
          cache.lines = lines ∧ cache.tokens = answer.tokens ∧ cache.Lossless := by
  have impose : Impose (fun _ grammar => ∃ rules : RuleGrammar, grammar = rules.toGrammar)
      fun _ => (Tiled : RowCondition α) := by
    rintro scope _ ⟨rules, rfl⟩ row prior line tokens state makes
    exact RuleGrammar.makes_tiled makes
  have inLine {grammar : Grammar α} : (∃ rules : RuleGrammar, grammar = rules.toGrammar) → grammar.InLine := by
    rintro ⟨rules, rfl⟩
    exact rules.inLine_toGrammar
  obtain ⟨replies, t, served, sound⟩ := (sound_new written).serveAll_total Supply.loader_gives impose inLine keep
  refine ⟨replies, t, served, fun found => (sound.caches found).lossless, fun buffer scope lines => ?_⟩
  obtain ⟨parse, parsed⟩ : ∃ parse, t.parse Supply.loader buffer scope lines = .ok parse :=
    parse_total fun _ _ load => inLine (Supply.loader_gives.grammar sound.source load)
  refine ⟨parse, parsed, fun load => answered_of_load load parsed, fun answer success => ?_⟩
  obtain ⟨after, rest⟩ := sound.parse Supply.loader_gives impose parsed
  obtain ⟨results, _, tokens, known⟩ := rest answer success
  exact ⟨_, known, rfl, tokens.symm, (after.caches known).lossless⟩

/-- A definition is replaced while the catalogue is out of reach, between two requests for one buffer. -/
def replacedInOutage : List (Request (Supply Nat)) :=
  [.parse 0 "source.json" ["[", "é"],
    .change fun supply => { supply with outage := some (.unreadable "json.yaml" "gone") },
    .tryParse 0 "source.json" ["[", "\"é\"", "]"],
    .change fun supply => { supply with
      catalogue := supply.catalogue.perform (.register ⟨"json", "source.json", [], [⟨some "é+", none, none, "e"⟩]⟩) },
    .change fun supply => { supply with outage := none },
    .parse 0 "source.json" ["[", "\"é\"", "]"]]

theorem Tokenizer.tokens_tile_lines_replacedInOutage : ∃ replies t parse,
    ({ source := { catalogue := .builtin } } : Tokenizer (Supply Nat) Nat).serveAll Supply.loader replacedInOutage =
        .ok (replies, t) ∧
      t.parse Supply.loader 0 "source.json" ["[", "日本"] = .ok parse ∧
      (∀ {cache}, t.buffers.get? 0 = some cache → cache.Lossless) ∧
      ∀ answer, parse.answer = .ok answer →
        Tiles "日本".toList 0 ((answer.tokens.filter fun token => token.line = 2).map Token.byteRange) 6 := by
  have keep : ∀ request ∈ replacedInOutage, request.Keeps Supply.Written := by
    simp only [replacedInOutage, List.forall_mem_cons]
    exact ⟨trivial, Supply.keeps_outage _, trivial, Supply.keeps_perform trivial, Supply.keeps_outage _, trivial,
      fun _ member => absurd member List.not_mem_nil⟩
  have written : ({ catalogue := .builtin } : Supply Nat).Written := by
    simpa only [Supply.Written] using Catalogue.Written.builtin
  obtain ⟨replies, t, served, known, next⟩ := tokens_tile_lines written keep
  obtain ⟨parse, parsed, _, lossless⟩ := next 0 "source.json" ["[", "日本"]
  refine ⟨replies, t, parse, served, parsed, known, fun answer success => ?_⟩
  obtain ⟨cache, _, lines, same, whole⟩ := lossless answer success
  obtain ⟨tokens, here, tiles, _⟩ := whole 1 "日本" (by rw [lines]; rfl)
  rw [← same, here]
  exact tiles

end Highlighter
