import Highlighter.Proofs.Pattern.Compiled
import Highlighter.Proofs.Rounds

namespace Highlighter

open Text

variable {line : List Char} {offset first index : Nat} {rules : List Rule}

theorem earliest_eq_none (nothing : earliest line offset first rules = none) :
    ∀ rule ∈ rules, rule.opener.findAt line offset = none := by
  induction rules generalizing first with
  | nil => exact fun _ member => absurd member List.not_mem_nil
  | cons head rules ih =>
    unfold earliest at nothing
    split at nothing
    · rename_i none_
      exact List.forall_mem_cons.mpr ⟨none_, ih nothing⟩
    · cases nothing
    · split at nothing <;> cases nothing

/-- No other match begins before the earliest one, and none of a rule listed before begins where it does. -/
theorem earliest_least {rule : Rule} {m : Pattern.Match}
    (found : earliest line offset first rules = some (index, rule, m)) {place : Nat} {other : Rule}
    (listed : rules[place]? = some other) {n : Pattern.Match} (match_ : other.opener.findAt line offset = some n) :
    m.start < n.start ∨ m.start = n.start ∧ index ≤ first + place := by
  induction rules generalizing first place index rule m with
  | nil => cases found
  | cons head rules ih =>
    have later {index place : Nat} {rule : Rule} {m : Pattern.Match}
        (found : earliest line offset (first + 1) rules = some (index, rule, m)) (listed : rules[place]? = some other) :
        m.start < n.start ∨ m.start = n.start ∧ index ≤ first + (place + 1) := by
      have least := ih found listed
      omega
    unfold earliest at found
    rcases here : head.opener.findAt line offset with _ | own <;>
      rcases rest : earliest line offset (first + 1) rules with _ | ⟨best, bestRule, bestMatch⟩ <;>
      simp only [here, rest] at found
    · cases found
    · cases found
      cases place with
      | zero =>
        cases listed
        cases here.symm.trans match_
      | succ place => exact later rest listed
    · cases found
      cases place with
      | zero =>
        cases listed
        cases here.symm.trans match_
        exact .inr ⟨rfl, Nat.le_refl _⟩
      | succ place => cases (earliest_eq_none rest other (List.mem_of_getElem? listed)).symm.trans match_
    · split at found
      · rename_i before
        cases found
        cases place with
        | zero =>
          cases listed
          cases here.symm.trans match_
          exact .inr ⟨rfl, Nat.le_refl _⟩
        | succ place =>
          have least := later rest listed
          omega
      · rename_i before
        cases found
        cases place with
        | zero =>
          cases listed
          cases here.symm.trans match_
          exact .inl (Nat.lt_of_not_le before)
        | succ place => exact later rest listed

/-- What a piece of a line is: text without a rule, the match of a rule's opener, or text of a block. -/
inductive Origin where
  | plain
  | opener (index : Nat)
  | content (index : Nat)
deriving DecidableEq, Repr

/-- A stretch of a line, in bytes, with what it is. -/
structure Mark where
  start : Nat
  stop : Nat
  origin : Origin
deriving DecidableEq, Repr

namespace Mark

def range (mark : Mark) : Nat × Nat := (mark.start, mark.stop)

/-- The mark between two offsets, unless it is empty. -/
def between (start stop : Nat) (origin : Origin) : List Mark := if start < stop then [⟨start, stop, origin⟩] else []

/-- Where openers are searched from after some marks: behind the last that is not text without a rule. -/
def resume (marks : List Mark) : Nat := ((marks.reverse.find? (·.origin ≠ .plain)).map stop).getD 0

theorem resume_concat {mark : Mark} (ruled : mark.origin ≠ .plain) (marks : List Mark) :
    resume (marks ++ [mark]) = mark.stop := by
  simp [resume, ruled]

theorem resume_concat_plain {mark : Mark} (plain : mark.origin = .plain) (marks : List Mark) :
    resume (marks ++ [mark]) = resume marks := by
  simp [resume, plain]

end Mark

namespace RuleGrammar

variable (g : RuleGrammar) (line : List Char) (before : Option Nat)

def scopeOf? : Origin → Option String
  | .plain => none
  | .opener index => g.rules[index]?.map Rule.scope
  | .content index => g.rules[index]?.map Rule.scope

def pieceOf (mark : Mark) : Piece := ⟨mark.start, mark.stop, g.scopeOf? mark.origin⟩

/-- Text of the block is marked from an offset on, unless there is none: the line ends there or the block does. -/
def Continues (index offset : Nat) (later : List Mark) : Prop :=
  ∀ opening closing scope, g.rules[index]? = some (.block opening closing scope) →
    (∃ mark ∈ later.head?, mark.origin = .content index) ∨ byteLength line ≤ offset ∨
      ∃ m, closing.findAt line offset = some m ∧ m.stop = offset

/-- What accounts for a mark, given the marks before and after it on the line. -/
inductive Accounts (done : List Mark) (mark : Mark) (later : List Mark) : Prop
  /-- No opener searched from the start of text without a rule has a match that begins in it. -/
  | plain : mark.origin = .plain →
      (∀ rule ∈ g.rules, ∀ m, rule.opener.findAt line mark.start = some m → mark.stop ≤ m.start) →
      (∀ other ∈ done.getLast?, other.origin ≠ .plain) → (∀ other ∈ later.head?, other.origin ≠ .plain) →
      Accounts done mark later
  /-- An opener is the match of its rule, and comes before the matches of all other rules. -/
  | opener {index rule} : mark.origin = .opener index → g.rules[index]? = some rule →
      rule.opener.findAt line (Mark.resume done) = some ⟨mark.start, mark.stop⟩ →
      (∀ place other m, place ≠ index → g.rules[place]? = some other →
        other.opener.findAt line (Mark.resume done) = some m →
        mark.start < m.start ∨ mark.start = m.start ∧ index < place) →
      g.Continues line index mark.stop later → Accounts done mark later
  /-- Text of a block follows the opener of the block or, if the block was open before, begins the line. It ends with
  the first closing match, or with the line. -/
  | content {index opening closing scope} : mark.origin = .content index →
      g.rules[index]? = some (.block opening closing scope) →
      mark.stop = ((closing.findAt line mark.start).map Pattern.Match.stop).getD (byteLength line) →
      (done = [] ∧ before = some index ∨ ∃ other ∈ done.getLast?, other.origin = .opener index) →
      Accounts done mark later

/-- Every one of some marks is accounted for, after those that are done. -/
def AccountsAll (done marks : List Mark) : Prop :=
  ∀ earlier mark later, marks = earlier ++ mark :: later → g.Accounts line before (done ++ earlier) mark later

/-- The place that a lexer has come to, told by the marks that are done. -/
structure Left (done : List Mark) (place : Place) : Prop where
  resume : Mark.resume done = place.offset
  ruled : ∀ mark ∈ done.getLast?, mark.origin ≠ .plain
  open_ : ∀ index, place.openBlock = some index → g.HasBlock index →
    done = [] ∧ before = some index ∨ ∃ mark ∈ done.getLast?, mark.origin = .opener index

variable {g line before}

theorem accountsAll_nil (done : List Mark) : g.AccountsAll line before done [] := by
  intro earlier mark later split
  simp at split

theorem AccountsAll.cons {done marks : List Mark} {mark : Mark} (here : g.Accounts line before done mark marks)
    (rest : g.AccountsAll line before (done ++ [mark]) marks) : g.AccountsAll line before done (mark :: marks) := by
  intro earlier other later split
  cases earlier with
  | nil =>
    cases split
    rwa [List.append_nil]
  | cons next earlier =>
    cases split
    rw [← List.singleton_append, ← List.append_assoc]
    exact rest earlier other later rfl

theorem map_between (start stop : Nat) (origin : Origin) :
    (Mark.between start stop origin).map g.pieceOf = Piece.between start stop (g.scopeOf? origin) := by
  unfold Mark.between Piece.between
  split <;> rfl

theorem Left.concat {done : List Mark} {mark : Mark} {openBlock : Option Nat} (ruled : mark.origin ≠ .plain)
    (open_ : ∀ index, openBlock = some index → g.HasBlock index → mark.origin = .opener index) :
    g.Left before (done ++ [mark]) ⟨mark.stop, openBlock⟩ where
  resume := Mark.resume_concat ruled done
  ruled := by simpa using ruled
  open_ := by simpa using open_

/-- Marks that a round leaves between two places, in front of those of later rounds. Text of a block that is open goes on
in them. If the first place is told by the marks that are done, so is the later one, and the marks of the round are
accounted for if those that follow are. -/
structure Joins (g : RuleGrammar) (line : List Char) (before : Option Nat) (place later : Place)
    (marks more : List Mark) : Prop where
  continues : ∀ index, place.openBlock = some index → g.Continues line index place.offset (marks ++ more)
  left : ∀ {done}, g.Left before done place → later.offset < byteLength line → g.Left before (done ++ marks) later
  accounts : ∀ {done}, g.Left before done place → g.AccountsAll line before (done ++ marks) more →
    g.AccountsAll line before done (marks ++ more)

theorem joins_nothing {openBlock : Option Nat} {more : List Mark}
    (continues : ∀ index, openBlock = some index → g.Continues line index offset more) :
    g.Joins line before ⟨offset, openBlock⟩ ⟨offset, none⟩ [] more where
  continues := continues
  left left _ := by
    rw [List.append_nil]
    exact ⟨left.resume, left.ruled, nofun⟩
  accounts _ rest := by rwa [List.append_nil] at rest

/-- Text of a block, up to the end of the block or to that of the line. -/
theorem joins_content {opening closing : Pattern} {scope : String} {stop : Nat} {openBlock : Option Nat}
    (rule : g.rules[index]? = some (.block opening closing scope))
    (ends : stop = ((closing.findAt line offset).map Pattern.Match.stop).getD (byteLength line))
    (closed : stop < byteLength line → openBlock = none) (more : List Mark) :
    g.Joins line before ⟨offset, some index⟩ ⟨stop, openBlock⟩ [⟨offset, stop, .content index⟩] more where
  continues other same := by
    cases same
    exact fun _ _ _ _ => .inl ⟨_, rfl, rfl⟩
  left _ further := by
    rw [closed further]
    exact .concat nofun nofun
  accounts left rest := .cons (.content rfl rule ends (left.open_ index rfl ⟨_, _, _, rule⟩)) rest

/-- Text without a rule, up to the end of the line. -/
theorem joins_plain (nothing : earliest line offset 0 g.rules = none) :
    g.Joins line before ⟨offset, none⟩ ⟨byteLength line, none⟩ [⟨offset, byteLength line, .plain⟩] [] where
  continues := nofun
  left _ further := absurd further (Nat.lt_irrefl _)
  accounts left rest := by
    refine .cons (.plain rfl (fun rule listed m found => ?_) left.ruled nofun) rest
    cases (earliest_eq_none nothing rule listed).symm.trans found

variable {rule : Rule} {m : Pattern.Match} {done more : List Mark}

theorem accounts_opener (found : earliest line (Mark.resume done) 0 g.rules = some (index, rule, m))
    (continues : rule.isBlock → g.Continues line index m.stop more) :
    g.Accounts line before done ⟨m.start, m.stop, .opener index⟩ more := by
  obtain ⟨listed, match_⟩ := earliest_rule found
  refine .opener rfl listed match_ (fun place other n different known also => ?_) fun opening closing scope known => ?_
  · have least := earliest_least found known also
    simp only
    omega
  · cases listed.symm.trans known
    exact continues rfl opening closing scope known

/-- No opener has a match in the text in front of the earliest one. -/
theorem accounts_in_front (found : earliest line offset 0 g.rules = some (index, rule, m))
    (ruled : ∀ other ∈ done.getLast?, other.origin ≠ .plain) :
    g.Accounts line before done ⟨offset, m.start, .plain⟩ (⟨m.start, m.stop, .opener index⟩ :: more) := by
  refine .plain rfl (fun other known n also => ?_) ruled (by simp)
  obtain ⟨place, atPlace⟩ := List.getElem?_of_mem known
  have least := earliest_least found atPlace also
  simp only
  omega

/-- The earliest match, with text without a rule in front of it. -/
theorem joins_opener (found : earliest line offset 0 g.rules = some (index, rule, m))
    (continues : rule.isBlock → g.Continues line index m.stop more) :
    g.Joins line before ⟨offset, none⟩ ⟨m.stop, if rule.isBlock then some index else none⟩
      (Mark.between offset m.start .plain ++ [⟨m.start, m.stop, .opener index⟩]) more where
  continues := nofun
  left _ _ := by
    rw [← List.append_assoc]
    refine .concat nofun fun other open_ _ => ?_
    split at open_
    · cases open_
      rfl
    · cases open_
  accounts {done} left rest := by
    by_cases text : offset < m.start
    · rw [Mark.between, if_pos text] at rest ⊢
      have resumed : Mark.resume (done ++ [⟨offset, m.start, .plain⟩]) = offset :=
        (Mark.resume_concat_plain rfl done).trans left.resume
      refine .cons (accounts_in_front found left.ruled) (.cons (accounts_opener ?_ continues) (by simpa using rest))
      rwa [resumed]
    · rw [Mark.between, if_neg text] at rest ⊢
      refine .cons (accounts_opener ?_ continues) rest
      rwa [left.resume]

/-- The marks of a round, in front of marks that may follow it. A round that comes to the end of the line is the
last. -/
theorem Round.marks (before : Option Nat)
    (nonempty : ∀ rule ∈ g.rules, ∀ offset m, rule.opener.findAt line offset = some m → m.start < m.stop)
    {place later : Place} {pieces : List Piece} (round : g.Round line place pieces later) :
    ∃ marks : List Mark, pieces = marks.map g.pieceOf ∧
      ∀ more, (byteLength line ≤ later.offset → more = []) →
        (∀ index, later.openBlock = some index → g.Continues line index later.offset more) →
        g.Joins line before place later marks more := by
  cases round with
  | @closed offset index opening closing m scope inside rule found =>
    have bounds := Pattern.findAt_bounds found
    refine ⟨Mark.between offset m.stop (.content index), ?_, fun more _ _ => ?_⟩
    · rw [map_between, scopeOf?, rule]
      rfl
    · by_cases text : offset < m.stop
      · rw [Mark.between, if_pos text]
        exact joins_content rule (by rw [found]; rfl) (fun _ => rfl) more
      · -- the block ends where it began, and the search for openers goes on there
        have same : m.stop = offset := by omega
        rw [Mark.between, if_neg text, same]
        refine joins_nothing fun _ again => ?_
        cases again
        intro _ _ _ also
        cases rule.symm.trans also
        exact .inr (.inr ⟨m, found, same⟩)
  | @carried offset index opening closing scope inside rule found =>
    refine ⟨[⟨offset, byteLength line, .content index⟩], ?_, fun more _ _ => ?_⟩
    · rw [Piece.between, if_pos inside]
      simp only [List.map_cons, List.map_nil, pieceOf, scopeOf?, rule]
      rfl
    · exact joins_content rule (by rw [found]; rfl) (fun further => absurd further (Nat.lt_irrefl _)) more
  | @dropped offset index inside noBlock =>
    refine ⟨[], rfl, fun more _ _ => joins_nothing fun _ same => ?_⟩
    cases same
    exact fun _ _ _ rule => absurd ⟨_, _, _, rule⟩ noBlock
  | @plain offset inside nothing =>
    refine ⟨[⟨offset, byteLength line, .plain⟩], ?_, fun more last _ => ?_⟩
    · rw [Piece.between, if_pos inside]
      rfl
    · rw [last (Nat.le_refl _)]
      exact joins_plain nothing
  | @matched offset index rule m inside found text =>
    refine ⟨Mark.between offset m.start .plain ++ [⟨m.start, m.stop, .opener index⟩], ?_, fun more _ continues =>
      joins_opener found fun block => continues index (if_pos block)⟩
    have whole : Piece.between m.start m.stop rule.scope = [⟨m.start, m.stop, rule.scope⟩] := if_pos text
    rw [List.map_append, map_between, whole]
    simp only [List.map_cons, List.map_nil, pieceOf, scopeOf?, (earliest_rule found).1]
    rfl
  | skipped inside found empty _ =>
    obtain ⟨listed, match_⟩ := earliest_rule found
    exact absurd (nonempty _ (List.mem_of_getElem? listed) _ _ match_) empty

/-- A run leaves marks that are accounted for, whatever has been done before it. -/
theorem Run.marks (nonempty : ∀ rule ∈ g.rules, ∀ offset m, rule.opener.findAt line offset = some m → m.start < m.stop)
    {rounds : Nat} {place : Place} {pieces : List Piece} {after : Option Nat}
    (run : g.Run line rounds place pieces after) : ∃ marks : List Mark, pieces = marks.map g.pieceOf ∧
      (byteLength line ≤ place.offset → marks = []) ∧
      (∀ index, place.openBlock = some index → g.Continues line index place.offset marks) ∧
      ∀ done, (place.offset < byteLength line → g.Left before done place) → g.AccountsAll line before done marks := by
  induction run with
  | ended outside =>
    exact ⟨[], rfl, fun _ => rfl, fun _ _ _ _ _ _ => .inr (.inl outside), fun done _ => accountsAll_nil done⟩
  | @next rounds place pieces later more after round _ ih =>
    obtain ⟨moreMarks, same, last, continues, accounts⟩ := ih
    obtain ⟨marks, here, combine⟩ := round.marks before nonempty
    have joins := combine moreMarks last continues
    refine ⟨marks ++ moreMarks, by rw [here, same, List.map_append], fun outside => ?_, joins.continues,
      fun done left => ?_⟩
    · exact absurd round.inside (Nat.not_lt.mpr outside)
    · have told := left round.inside
      exact joins.accounts told (accounts _ (joins.left told))

/-- Where no opener matches the empty text on a line, the line is divided into marks that are all accounted for. A block
that was open before goes on at the start of the line. -/
theorem tokenizeLine_accounts {α : Type} (g : RuleGrammar) (line : String) (prior : Option (LineState α))
    (nonempty : ∀ rule ∈ g.rules, ∀ offset m, rule.opener.findAt line.toList offset = some m → m.start < m.stop) :
    ∃ marks after, g.tokenizeLine line prior =
        .ok ⟨marks.map fun mark => (g.pieceOf mark).span g.scope line.toList, .rules after⟩ ∧
      Tiles line.toList 0 (marks.map Mark.range) line.utf8ByteSize ∧
      (∀ index, prior.bind LineState.openBlock? = some index → g.Continues line.toList index 0 marks) ∧
      ∀ earlier mark later, marks = earlier ++ mark :: later →
        g.Accounts line.toList (prior.bind LineState.openBlock?) earlier mark later := by
  obtain ⟨rounds, pieces, after, run, _⟩ := @exists_run g line.toList ⟨0, prior.bind LineState.openBlock?⟩
  obtain ⟨made, tiles⟩ := g.tokenizeLine_of_lexFrom run.lexFrom_eq
  obtain ⟨marks, rfl, _, continues, accounts⟩ := @Run.marks g line.toList (prior.bind LineState.openBlock?) nonempty _ _
    _ _ run
  have ranges : (marks.map g.pieceOf).map Piece.range = marks.map Mark.range := List.map_map
  have spans : (marks.map g.pieceOf).map (Piece.span g.scope line.toList) =
      marks.map fun mark => (g.pieceOf mark).span g.scope line.toList := List.map_map
  rw [spans] at made
  rw [ranges, byteLength_toList] at tiles
  have start : g.Left (prior.bind LineState.openBlock?) [] ⟨0, prior.bind LineState.openBlock?⟩ :=
    ⟨rfl, nofun, fun index open_ _ => .inl ⟨rfl, open_⟩⟩
  exact ⟨marks, after, made, tiles, continues, accounts [] fun _ => start⟩

/-- A grammar of two marks that begin alike, and of blocks in angle brackets. -/
def marksThatBeginAlike : RuleGrammar :=
  ⟨"notes", "text", [.single ⟨"##", (Pattern.Regex.literal ['#', '#']).automaton⟩ "section",
    .single ⟨"#", (Pattern.Regex.literal ['#']).automaton⟩ "mark",
    .block ⟨"<", (Pattern.Regex.literal ['<']).automaton⟩ ⟨">", (Pattern.Regex.literal ['>']).automaton⟩ "block"]⟩

/-- On a line that begins in a block and closes it, behind which marks, plain text and another block follow. -/
theorem tokenizeLine_accounts_marks :
    (∀ rule ∈ marksThatBeginAlike.rules, ∀ offset m,
      rule.opener.findAt "é>##a#<é".toList offset = some m → m.start < m.stop) ∧
    ∃ marks after, marksThatBeginAlike.tokenizeLine "é>##a#<é" (some (.rules (some 2) : LineState Nat)) =
        .ok ⟨marks.map fun mark => (marksThatBeginAlike.pieceOf mark).span "text" "é>##a#<é".toList, .rules after⟩ ∧
      Tiles "é>##a#<é".toList 0 (marks.map Mark.range) 10 ∧
      (∀ index, some 2 = some index → marksThatBeginAlike.Continues "é>##a#<é".toList index 0 marks) ∧
      ∀ earlier mark later, marks = earlier ++ mark :: later →
        marksThatBeginAlike.Accounts "é>##a#<é".toList (some 2) earlier mark later := by
  have nonempty : ∀ rule ∈ marksThatBeginAlike.rules, ∀ offset m,
      rule.opener.findAt "é>##a#<é".toList offset = some m → m.start < m.stop := by
    intro rule listed offset m found
    simp only [marksThatBeginAlike, List.mem_cons, List.not_mem_nil, or_false] at listed
    rcases listed with rfl | rfl | rfl
    · exact Pattern.nonempty_of_findAt (r := .literal ['#', '#']) rfl rfl found
    · exact Pattern.nonempty_of_findAt (r := .literal ['#']) rfl rfl found
    · exact Pattern.nonempty_of_findAt (r := .literal ['<']) rfl rfl found
  exact ⟨nonempty, tokenizeLine_accounts marksThatBeginAlike "é>##a#<é" (some (.rules (some 2))) nonempty⟩

end RuleGrammar

end Highlighter
