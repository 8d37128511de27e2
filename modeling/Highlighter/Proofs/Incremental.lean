import Highlighter.Proofs.Requests

namespace Highlighter

variable {σ α : Type}

/-- A grammar that counts lines, and has each line as one span. -/
def lineCounter : Grammar Nat where
  scope := "count"
  tokenizeLine line prior :=
    let above := match prior with
      | some (.other above) => above
      | _ => 0
    .ok ⟨[⟨0, line.length, ["line"]⟩], .other (above + 1)⟩

/-- Every other load fails. -/
def everyOther : Loader Bool Nat where
  load working scope := (if working then .ok lineCounter else .error (.unknownScope scope), !working)

theorem lineCounter_inLine : lineCounter.InLine := by
  intro line prior
  refine ⟨_, rfl, fun span member => ?_⟩
  cases List.mem_singleton.mp member
  exact ⟨Nat.zero_le _, Nat.le_refl _⟩

theorem everyOther_gives : everyOther.Gives (fun _ => True)
    fun _ grammar => grammar = lineCounter ∧ grammar.InLine where
  grammar := by
    intro working scope grammar after _ load
    cases working with
    | false => cases load
    | true =>
      cases load
      exact ⟨rfl, lineCounter_inLine⟩
  source _ _ := trivial

/-- The second of these requests is cut short by a load that fails. -/
def cutShort : List (Request Bool) :=
  [.parse 0 "count" ["é", "b"], .tryParse 0 "count" ["é", "c"], .evict 1]

/-- After any requests, with loads that fail now and then, a parse goes through, and it is answered with tokens if the
grammar is to be had. These are the tokens of the lines from scratch, and the buffer is left with the lines and the
state after each of them. -/
theorem Tokenizer.parse_eq_scratch {loader : Loader σ α} {sources : σ → Prop} {grammarOf : String → Grammar α}
    (gives : loader.Gives sources fun scope grammar => grammar = grammarOf scope ∧ grammar.InLine) (start : σ)
    (initial : sources start) {requests : List (Request σ)} (keep : ∀ request ∈ requests, request.Keeps sources)
    (buffer : Nat) (scope : String) (lines : List String) :
    ∃ replies t parse, ({ source := start } : Tokenizer σ α).serveAll loader requests = .ok (replies, t) ∧
      t.parse loader buffer scope lines = .ok parse ∧
      (∀ {grammar source}, loader.load t.source scope = (.ok grammar, source) → ∃ answer, parse.answer = .ok answer) ∧
      ∀ answer, parse.answer = .ok answer →
        ∃ results, (grammarOf scope).scratch 0 none lines = .ok results ∧
          answer.tokens = results.flatMap Prod.fst ∧ parse.answerOrNone = answer ∧
          ∃ cache, parse.tokenizer.buffers.get? buffer = some cache ∧ cache.scope = scope ∧ cache.lines = lines ∧
            cache.states = results.map Prod.snd := by
  have impose : Impose (fun scope grammar => grammar = grammarOf scope ∧ grammar.InLine)
      fun scope => (grammarOf scope).Makes := by
    rintro scope grammar ⟨rfl, _⟩ row prior line tokens state made
    exact made
  obtain ⟨replies, t, served, sound⟩ := (sound_new initial).serveAll_total gives impose And.right keep
  obtain ⟨parse, parsed⟩ : ∃ parse, t.parse loader buffer scope lines = .ok parse :=
    parse_total fun _ _ load => (gives.grammar sound.source load).2
  refine ⟨replies, t, parse, served, parsed, fun load => answered_of_load load parsed, fun answer success => ?_⟩
  obtain ⟨results, rows, tokens, known⟩ := (sound.parse gives impose parsed).2 answer success
  have given : parse.answerOrNone = answer := by
    unfold Parse.answerOrNone
    rw [success]
  exact ⟨results, rows.scratch, tokens, given, _, known, rfl, rfl, rfl⟩

theorem Tokenizer.parse_eq_scratch_cutShort :
    ∃ replies t parse results,
      ({ source := true } : Tokenizer Bool Nat).serveAll everyOther cutShort = .ok (replies, t) ∧
      t.parse everyOther 0 "count" ["é", "d"] = .ok parse ∧ lineCounter.scratch 0 none ["é", "d"] = .ok results ∧
      parse.answer = .ok ⟨results.flatMap Prod.fst, some 1⟩ := by
  have keep : ∀ request ∈ cutShort, request.Keeps fun _ => True := by
    simp [cutShort, Request.Keeps]
  obtain ⟨replies, t, parse, served, parsed, _, same⟩ :=
    parse_eq_scratch everyOther_gives true trivial keep 0 "count" ["é", "d"]
  have outcome : (do
      let (_, t) ← ({ source := true } : Tokenizer Bool Nat).serveAll everyOther cutShort
      let parse ← t.parse everyOther 0 "count" ["é", "d"]
      return parse.answer) = .ok (.ok ⟨[⟨1, 1, 2, ["line"]⟩, ⟨2, 1, 1, ["line"]⟩], some 1⟩) := rfl
  simp only [served, ok_bind, parsed] at outcome
  have success := Except.ok.inj outcome
  obtain ⟨results, scratch, tokens, _⟩ := same _ success
  exact ⟨replies, t, parse, results, served, parsed, scratch, tokens ▸ success⟩

end Highlighter
