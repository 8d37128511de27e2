import Highlighter.Proofs.Groups
import Highlighter.Proofs.Logs
import Highlighter.Proofs.Pattern.Leads
import Highlighter.Proofs.Report
import Highlighter.Proofs.Rounds
import Highlighter.Proofs.Runs

namespace Highlighter.CommandLine

variable {arguments : Arguments} {files : FileView} {supplied definitions : List GrammarDefinition}

/-- A record of a token has the group that some rules and the default ones give to its scopes. -/
structure Highlights (rules : Table String String) (token : Token) (record : Record) : Prop where
  same : record.token = token
  group : ∀ group, record.group = some group ↔ Theme.Gives (Theme.groupsWithDefaults rules) token.scopes group

/-- An outcome as it should be. A run that fails prints nothing, and any other prints records: those of all tokens or
those with a group, and they are had back from what is printed. -/
structure Outcome.Meets (outcome : Outcome) (arguments : Arguments) (files : FileView) (rules : Table String String)
    (supplied definitions : List GrammarDefinition) : Prop where
  fails : outcome.exitCode = 1 ∧ outcome.output = "" ↔ Fails arguments files supplied definitions
  prints : ¬Fails arguments files supplied definitions → outcome.exitCode = 0 ∧
    ∃ tokens all records, Finds arguments files supplied definitions tokens ∧
      List.Forall₂ (Highlights rules) tokens all ∧
      (arguments.all = true → records = all) ∧
      (arguments.all = false → records = all.filter (·.group.isSome)) ∧
      (arguments.json = true → (Json.ofText? outcome.output).bind Json.records? = some records) ∧
      (arguments.json = false → (∀ record ∈ records, record.OneLine) →
        outcome.output.toList.splitOn '\n' = records.map (·.columns.toList) ++ [[]])

variable {outcome : Outcome} {rules : Table String String}

theorem meets_of_fails (fails : Fails arguments files supplied definitions) (exitCode : outcome.exitCode = 1)
    (output : outcome.output = "") : outcome.Meets arguments files rules supplied definitions where
  fails := ⟨fun _ => fails, fun _ => ⟨exitCode, output⟩⟩
  prints succeeds := absurd fails succeeds

theorem meets_of_finds {tokens : List Token} {all records : List Record}
    (finds : Finds arguments files supplied definitions tokens) (highlights : List.Forall₂ (Highlights rules) tokens all)
    (kept : records = all.filter fun record => arguments.all || record.group.isSome)
    (exitCode : outcome.exitCode = 0) (output : outcome.output = report arguments.json records) :
    outcome.Meets arguments files rules supplied definitions where
  fails := ⟨fun failed => absurd (exitCode.symm.trans failed.1) (by decide), fun fails => absurd fails finds.not_fails⟩
  prints _ := by
    refine ⟨exitCode, tokens, all, records, finds, highlights, fun whole => ?_, fun groups => ?_, fun json => ?_,
      fun rows oneLine => ?_⟩
    · simpa [whole] using kept
    · simpa [groups] using kept
    · rw [output, json]
      exact Json.records?_report records
    · rw [output, rows]
      exact splitOn_report oneLine

theorem highlights_iff {token : Token} {record : Record} :
    Highlights rules token record ↔ ⟨token, (Theme.ofRules rules).group? token.scopes⟩ = record := by
  have gives := Theme.group?_gives rules (List.Perm.refl _) token.scopes
  constructor
  · rintro ⟨rfl, group⟩
    have same : (Theme.ofRules rules).group? record.token.scopes = record.group :=
      Option.ext fun other => (gives other).trans (group other).symm
    rw [same]
  · rintro rfl
    exact ⟨rfl, gives⟩

theorem highlights_all {tokens : List Token} {all : List Record} : List.Forall₂ (Highlights rules) tokens all ↔
    (tokens.map fun token => ⟨token, (Theme.ofRules rules).group? token.scopes⟩) = all := by
  have same : Highlights rules = fun token record => ⟨token, (Theme.ofRules rules).group? token.scopes⟩ = record := by
    funext token record
    exact propext highlights_iff
  rw [same, ← List.forall₂_eq_eq_eq, List.forall₂_map_left_iff]

/-- The file with the settings of a run: the one that the arguments name, or else the user's own. -/
def settingsFile (arguments : Arguments) (own : Option String) : Option String :=
  arguments.settings.or (own.map fun own => Path.join own "config.yaml")

/-- The settings of a run. A file that is missing, no text or no settings is as good as none. -/
inductive Configured (arguments : Arguments) (own : Option String) (files : FileView) : Settings → Prop
  | found {path text settings} : settingsFile arguments own = some path → IsText files path text →
      Settings.ofYaml text = .ok settings → Configured arguments own files settings
  | default : (∀ path text settings, settingsFile arguments own = some path → IsText files path text →
      Settings.ofYaml text ≠ .ok settings) → Configured arguments own files {}

theorem Configured.unique {own : Option String} {settings others : Settings}
    (first : Configured arguments own files settings) (second : Configured arguments own files others) :
    settings = others := by
  cases first with
  | found named isText parsed =>
    cases second with
    | found again other reparsed =>
      cases named.symm.trans again
      obtain rfl := isText.unique other
      cases parsed.symm.trans reparsed
      rfl
    | default never => exact absurd parsed (never _ _ _ named isText)
  | default never =>
    cases second with
    | found named isText parsed => exact absurd parsed (never _ _ _ named isText)
    | default _ => rfl

theorem configured_loadFrom {own : Option String} {path : String} (named : settingsFile arguments own = some path) :
    Configured arguments own files (Settings.loadFrom files path) := by
  rcases reading : files.readText path with problem | text
  · rw [Settings.loadFrom, reading]
    refine .default fun other text settings again isText => ?_
    cases named.symm.trans again
    cases reading.symm.trans (isText_iff.mp isText)
  · rw [Settings.loadFrom, reading]
    dsimp only
    rcases parsing : Settings.ofYaml text with problem | settings
    · refine .default fun other found settings again isText => ?_
      cases named.symm.trans again
      cases reading.symm.trans (isText_iff.mp isText)
      rw [parsing]
      exact nofun
    · exact .found named (isText_iff.mpr reading) parsing

theorem configured_loadSettings {env : Environment} {own : Option String} (isOwn : OwnDirectory env own)
    (arguments : Arguments) (files : FileView) :
    Configured arguments own files (arguments.loadSettings env files) := by
  have file : settingsFile arguments own = arguments.settings.or env.settingsFile? := by
    rw [settingsFile, Environment.settingsFile?, ownDirectory_iff.mp isOwn]
  unfold Arguments.loadSettings
  rcases given : arguments.settings with _ | path
  · rw [given, Option.none_or] at file
    rw [Settings.load]
    rcases known : env.settingsFile? with _ | path
    · refine .default fun path _ _ named => ?_
      cases named.symm.trans (file.trans known)
    · exact configured_loadFrom (file.trans known)
  · rw [given, Option.some_or] at file
    exact configured_loadFrom file

theorem run_eq (arguments : Arguments) (env : Environment) (files : FileView) (listing : Listing) :
    arguments.run env files listing =
      (arguments.tokens ((arguments.loadSettings env files).catalogue env files) files listing).map fun tokens =>
        report arguments.json ((tokens.map fun token =>
          ⟨token, (arguments.loadSettings env files).theme.group? token.scopes⟩).filter
            fun record => arguments.all || record.group.isSome) := by
  simp only [Arguments.run]
  rcases arguments.tokens ((arguments.loadSettings env files).catalogue env files) files listing with
    problem | tokens <;> rfl

/-- A run that has opened its log comes to what it comes to with the files that there are then. -/
theorem outcomeIn_eq {command : List String} {env : Environment} {now : Circumstances} {tree after : FileTree}
    (opens : LogOpens env now tree after) (read : Arguments.read command = .ok arguments) :
    (∀ output, arguments.run env after.view now.listing = .ok output →
      (outcomeIn command env tree now).exitCode = 0 ∧ (outcomeIn command env tree now).output = output) ∧
    ∀ problem, arguments.run env after.view now.listing = .error problem →
      (outcomeIn command env tree now).exitCode = 1 ∧ (outcomeIn command env tree now).output = "" := by
  obtain ⟨_, opened⟩ := opens.openLog
  refine ⟨fun output made => ?_, fun problem failed => ?_⟩
  · simp only [outcomeIn, opened, CommandLine.outcome, read, made, and_self]
  · simp only [outcomeIn, opened, CommandLine.outcome, read, failed, and_self]

/-- Definitions that share nothing come to the same tokens in whatever order they are listed. -/
theorem tokens_listing {c : Catalogue Empty} {listing : Listing}
    (unshared : Languages.Unshared (listing.arrange c.definitions.values)) (other : Listing) :
    arguments.tokens c files other = arguments.tokens c files listing := by
  have order := (other.perm c.definitions.values).trans (listing.perm c.definitions.values).symm
  have scope : arguments.chooseScope c other = arguments.chooseScope c listing := by
    unfold Arguments.chooseScope
    rw [Languages.ofCatalogue, unshared.scopeOfPath_perm order, Languages.ofCatalogue]
  rw [Arguments.tokens, scope, Arguments.tokens]

theorem meets_of_opens {command : List String} {env : Environment} {now : Circumstances} {tree after : FileTree}
    (opens : LogOpens env now tree after) (read : Arguments.read command = .ok arguments)
    (coherent : ((arguments.loadSettings env after.view).catalogue env after.view : Catalogue Empty).Coherent
      (supplied.map .written))
    (chosen : (arguments.chooseScope (α := Empty) ((arguments.loadSettings env after.view).catalogue env after.view)
      now.listing).toOption = arguments.scopeAmong definitions) :
    (outcomeIn command env tree now).Meets arguments after.view (arguments.loadSettings env after.view).rules supplied
      definitions := by
  obtain ⟨succeeds, fails⟩ := outcomeIn_eq opens read
  -- the two cases exclude each other, so that an outcome of either kind tells which one it is
  rcases tokens_cases after.view coherent chosen with ⟨tokens, found, finds⟩ | ⟨problem, failed, isFailure, _⟩
  · obtain ⟨exitCode, output⟩ := succeeds _ (by rw [run_eq, found]; rfl)
    exact meets_of_finds finds (highlights_all.mpr rfl) rfl exitCode output
  · obtain ⟨exitCode, output⟩ := fails problem (by rw [run_eq, failed]; rfl)
    exact meets_of_fails isFailure exitCode output

/-- For any files and any arguments that name one, a run that can open its log comes to what it should come to with the
files as they are then, none of which but the log has been changed. It goes by the last definition of each scope that
the user has, and nothing goes wrong with any of them. In which order these are listed makes no difference if they share
no names and no file types. -/
theorem outcomeIn_meets {command : List String} {arguments : Arguments} (read : Arguments.read command = .ok arguments)
    (env : Environment) (tree : FileTree) (now : Circumstances) :
    LogRefused env now tree ∨ ∃ after own settings paths definitions, LogOpens env now tree after ∧
      OwnDirectory env own ∧
      (∀ {path bytes}, tree.read path = .ok bytes → after.read path = .ok bytes ∨
        ∃ place ∈ own, after.target path = after.target (logIn place now.day)) ∧
      Configured arguments own after.view settings ∧
      List.Forall₂ (ReadingOrder after.view)
        ((own.map fun own => Path.join own "grammars").toList ++ settings.grammarDirectories) paths ∧
      Current (suppliedBy after.view paths.flatten) definitions ∧
      (outcomeIn command env tree now).Meets arguments after.view settings.rules (suppliedBy after.view paths.flatten)
        definitions ∧
      (∀ fault, arguments.run env after.view now.listing ≠ .error (.fault fault)) ∧
      (Languages.Unshared definitions →
        (∀ {others}, Current (suppliedBy after.view paths.flatten) others →
          (outcomeIn command env tree now).Meets arguments after.view settings.rules
            (suppliedBy after.view paths.flatten) others) ∧
        ∀ listing, outcomeIn command env tree { now with listing } = outcomeIn command env tree now) := by
  rcases opens_or_refused env now tree with ⟨after, opens⟩ | refused
  swap
  · exact .inl refused
  have isOwn : OwnDirectory env env.directory? := ownDirectory_iff.mpr rfl
  have configured := configured_loadSettings isOwn arguments after.view
  have coherent := (arguments.loadSettings env after.view).catalogue_coherent (α := Empty) env after.view
  have orders := ReadingOrder.of_directories after.view ((arguments.loadSettings env after.view).directories env)
  rw [List.flatMap_def] at coherent
  rw [Settings.directories_of_own _ env isOwn] at orders coherent
  have chosen := toOption_chooseScope (α := Empty) arguments
    ((arguments.loadSettings env after.view).catalogue env after.view) now.listing
  have current := coherent.current.perm (now.listing.perm _)
  refine .inr ⟨after, _, _, _, _, opens, isOwn, fun found => ?_, configured, orders, current,
    meets_of_opens opens read coherent chosen, fun fault faulted => ?_,
    fun unshared => ⟨fun {others} other => ?_, fun listing => ?_⟩⟩
  · refine (opens.read found).imp_right fun ⟨place, isPlace, log⟩ => ⟨place, ?_, log⟩
    exact isOwn.unique isPlace
  · rw [run_eq] at faulted
    rcases tokens_cases after.view coherent chosen with ⟨tokens, found, _⟩ | ⟨problem, failed, _, noFault⟩
    · rw [found] at faulted
      cases faulted
    · rw [failed] at faulted
      cases faulted
      exact noFault fault rfl
  · have order := other.perm_of_current current
    exact meets_of_opens opens read coherent (chosen.trans (scopeAmong_perm unshared order arguments).symm)
  · obtain ⟨_, opened⟩ := opens.openLog
    have same : arguments.run env after.view listing = arguments.run env after.view now.listing := by
      rw [run_eq, tokens_listing unshared, run_eq]
    simp only [outcomeIn, opened, CommandLine.outcome, read, same]

def workshopSettings : String := "rules: \x7bm: M\x7d\ngrammar_dirs: [g]\n"

def workshopGrammarText : String := "name: a\nscope: s\nfile_types: [z]\npatterns:\n- match: a\n  scope: m.x\n"

/-- A user's settings with a rule and a directory of grammars, a grammar in it, and a file that it is for. -/
def workshop : FileTree :=
  ⟨.ofList [(["g"], .directory), (["g", "a.yml"], .file workshopGrammarText.toUTF8),
    (["n.z"], .file "ba\x0d\n\nab".toUTF8), (["x"], .directory), (["x", "scopeline"], .directory),
    (["x", "scopeline", "config.yaml"], .file workshopSettings.toUTF8)], []⟩

def workshopEnvironment : Environment := { configHome := some "x" }

def workshopOwn : String := Path.join "x" "scopeline"

theorem own_workshop : OwnDirectory workshopEnvironment (some workshopOwn) := .set rfl (by decide)

def logsLocation : Location := ["x", "scopeline", "logs"]

def logLocation : Location := ["x", "scopeline", "logs", "scopeline.log.1970-01-01"]

/-- A tree in which the log has been begun in the user's directory. -/
def withLog (tree : FileTree) : FileTree := (tree.put logsLocation .directory).put logLocation (.file .empty)

theorem opens_workshop : LogOpens workshopEnvironment {} workshop (withLog workshop) := by
  refine .of_free own_workshop ?_ rfl ?_ rfl
  · simp only [workshopOwn, Path.join_eq, FileTree.target_eq]
    rfl
  · simp only [logIn, workshopOwn, Path.join_eq, FileTree.target_eq]
    rfl

theorem read_workshop :
    (withLog workshop).read (Path.join workshopOwn "config.yaml") = .ok workshopSettings.toUTF8 ∧
      (withLog workshop).read "g/a.yml" = .ok workshopGrammarText.toUTF8 ∧
      (withLog workshop).read "n.z" = .ok "ba\x0d\n\nab".toUTF8 := by
  simp only [workshopOwn, Path.join_eq, FileTree.read, FileTree.find, FileTree.target_eq]
  exact ⟨rfl, rfl, rfl⟩

theorem orders_workshop : ReadingOrder (withLog workshop).view (Path.join workshopOwn "grammars") [] ∧
    ReadingOrder (withLog workshop).view "g" ["g/a.yml"] := by
  have missing : (withLog workshop).list (Path.join workshopOwn "grammars") = .error .notFound := by
    simp only [workshopOwn, Path.join_eq, FileTree.list, FileTree.target_eq]
    rfl
  have listed : (withLog workshop).list "g" = .ok ["a.yml"] := by
    rw [FileTree.list, FileTree.target_eq]
    rfl
  have counted : ((["a.yml"].map (Path.join "g")).filter fun path =>
      Path.extension? path = some "yaml" ∨ Path.extension? path = some "yml") = ["g/a.yml"] := by
    simp only [List.map_cons, List.map_nil, Path.join_eq]
    decide
  exact ⟨.missing missing, .listed listed (by rw [counted]) (List.pairwise_singleton _ _)⟩

def workshopGrammar : GrammarDefinition := ⟨"a", "s", ["z"], [⟨some "a", none, none, "m.x"⟩]⟩

theorem parses_workshop :
    (Settings.ofYaml workshopSettings).toOption =
        some { rules := .ofList [("m", "M")], grammarDirectories := ["g"] } ∧
      (GrammarDefinition.ofYaml workshopGrammarText).toOption = some workshopGrammar := by
  decide +kernel

theorem configured_workshop {arguments : Arguments} (own : arguments.settings = none) :
    Configured arguments (some workshopOwn) (withLog workshop).view
      { rules := .ofList [("m", "M")], grammarDirectories := ["g"] } := by
  have file : settingsFile arguments (some workshopOwn) = some (Path.join workshopOwn "config.yaml") := by
    rw [settingsFile, own, Option.none_or, Option.map_some]
  exact .found file (isText_of_read read_workshop.1) (eq_ok_of_toOption parses_workshop.1)

open RuleGrammar in
theorem scratch_workshop : ∃ rules, workshopGrammar.compile = .ok rules ∧
    (rules.toGrammar : Grammar Empty).scratch 0 none ["ba", "", "ab"] =
      .ok [([⟨1, 1, 1, ["s"]⟩, ⟨1, 2, 1, ["s", "m.x"]⟩], .rules none), ([], .rules none),
        ([⟨3, 1, 1, ["s", "m.x"]⟩, ⟨3, 2, 1, ["s"]⟩], .rules none)] := by
  let p : Pattern := ⟨"a", (Pattern.Regex.literal ['a']).automaton⟩
  have compiled : Pattern.compile "a" = .ok p := Pattern.compile_of_regex (eq_ok_of_toOption (by decide +kernel)) rfl
  have other : ∀ c ∈ ['b'], (Pattern.Regex.literal ['a']).starts c = false := by simp [Pattern.Regex.starts]
  have late : p.findAt ['b', 'a'] 0 = some ⟨1, 2⟩ := by
    have skipped := Pattern.search_skip rfl rfl other [] ['a']
    exact (p.findAt_behind [] _).trans (skipped.trans (Pattern.search_leads rfl (.literal ['b'] [] ['a'])))
  have early : p.findAt ['a', 'b'] 0 = some ⟨0, 1⟩ := Pattern.findAt_leads rfl (.literal [] ['b'] ['a'])
  have nothing : p.findAt ['a', 'b'] 1 = none := Pattern.findAt_nothing rfl rfl other ['a']
  let g : RuleGrammar := ⟨"a", "s", [.single p "m.x"]⟩
  have first : g.lexFrom ['b', 'a'] 0 none = .ok ([⟨0, 1, none⟩, ⟨1, 2, some "m.x"⟩], none) := by
    have match_ : earliest ['b', 'a'] 0 0 g.rules = some (0, .single p "m.x", ⟨1, 2⟩) := by
      simp only [g, earliest, Rule.opener, late]
    exact (Run.next (.matched (by decide) match_ (by decide)) (.ended (by decide))).lexFrom_eq
  have last : g.lexFrom ['a', 'b'] 0 none = .ok ([⟨0, 1, some "m.x"⟩, ⟨1, 2, none⟩], none) := by
    have match_ : earliest ['a', 'b'] 0 0 g.rules = some (0, .single p "m.x", ⟨0, 1⟩) := by
      simp only [g, earliest, Rule.opener, early]
    have rest : earliest ['a', 'b'] 1 0 g.rules = none := by
      simp only [g, earliest, Rule.opener, nothing]
    exact (Run.next (.matched (by decide) match_ (by decide))
      (.next (.plain (by decide) rest) (.ended (by decide)))).lexFrom_eq
  refine ⟨g, ?_, ?_⟩
  · simp only [workshopGrammar, GrammarDefinition.compile, List.mapM_cons, List.mapM_nil, RuleDefinition.compile,
      compilePattern, compiled]
    rfl
  · have top : (g.toGrammar : Grammar Empty).scratchRow 0 none "ba" =
        .ok ([⟨1, 1, 1, ["s"]⟩, ⟨1, 2, 1, ["s", "m.x"]⟩], .rules none) := by
      have line : "ba".toList = ['b', 'a'] := rfl
      simp only [Grammar.scratchRow, toGrammar, tokenizeLine, line, Option.bind_none, first, ok_bind]
      rfl
    have middle : (g.toGrammar : Grammar Empty).scratchRow 1 (some (.rules none)) "" = .ok ([], .rules none) := by
      have outside : Text.byteLength "".toList ≤ 0 := le_refl 0
      simp only [Grammar.scratchRow, toGrammar, tokenizeLine, lexFrom_outside outside, ok_bind]
      rfl
    have bottom : (g.toGrammar : Grammar Empty).scratchRow 2 (some (.rules none)) "ab" =
        .ok ([⟨3, 1, 1, ["s", "m.x"]⟩, ⟨3, 2, 1, ["s"]⟩], .rules none) := by
      have line : "ab".toList = ['a', 'b'] := rfl
      simp only [Grammar.scratchRow, toGrammar, tokenizeLine, line, Option.bind_some, LineState.openBlock?, last,
        ok_bind]
      rfl
    rw [Grammar.scratch, top, ok_bind, Grammar.scratch, middle, ok_bind, Grammar.scratch, bottom]
    rfl

theorem group?_workshop : (Theme.ofRules (.ofList [("m", "M")])).group? ["s", "m.x"] = some "M" := by
  have short : ∀ text ∈ "m.x".toList.inits,
      (Theme.groupsWithDefaults (.ofList [("m", "M")]) (String.ofList text)).isSome →
        (String.ofList text).utf8ByteSize ≤ "m".utf8ByteSize := by decide +kernel
  refine (Theme.group?_gives _ (List.Perm.refl _) _ _).mpr
    ⟨1, "m.x", "m", le_refl 1, rfl, by decide +kernel, ⟨by decide, ?_⟩, ?_⟩
  · intro other group known begins
    have here := short other.toList ((List.mem_inits _ _).mpr begins)
    rw [String.ofList_toList, known] at here
    exact here rfl
  · intro j inner after there
    obtain ⟨j, rfl⟩ : ∃ k, j = k + 2 := ⟨j - 2, by omega⟩
    cases there

def workshopTokens : List Token :=
  [⟨1, 1, 1, ["s"]⟩, ⟨1, 2, 1, ["s", "m.x"]⟩, ⟨3, 1, 1, ["s", "m.x"]⟩, ⟨3, 2, 1, ["s"]⟩]

def workshopRecords : List Record :=
  [⟨⟨1, 1, 1, ["s"]⟩, none⟩, ⟨⟨1, 2, 1, ["s", "m.x"]⟩, some "M"⟩, ⟨⟨3, 1, 1, ["s", "m.x"]⟩, some "M"⟩,
    ⟨⟨3, 2, 1, ["s"]⟩, none⟩]

theorem oneLine_workshop : ∀ record ∈ workshopRecords, record.OneLine := by
  have group : ∀ record ∈ workshopRecords, ∀ group ∈ record.group, '\n' ∉ group.toList := by decide
  have scopes : ∀ record ∈ workshopRecords, ∀ scope ∈ record.token.scopes, '\n' ∉ scope.toList := by decide
  exact fun record member => ⟨group record member, scopes record member⟩

theorem records_workshop : (workshopTokens.map fun token =>
    ⟨token, (Theme.ofRules (.ofList [("m", "M")])).group? token.scopes⟩) = workshopRecords := by
  simp only [workshopTokens, List.map_cons, List.map_nil, group?_workshop]
  rfl

theorem finds_workshop (path : arguments.path = "n.z") (scope : arguments.scope = some "s")
    (definitions : List GrammarDefinition) :
    Finds arguments (withLog workshop).view (suppliedBy (withLog workshop).view [[], ["g/a.yml"]].flatten) definitions
      workshopTokens := by
  have last : lastWith "s" (suppliedBy (withLog workshop).view [[], ["g/a.yml"]].flatten) = some workshopGrammar := by
    have definition : definitionIn (withLog workshop).view "g/a.yml" = some workshopGrammar :=
      (definitionIn_of_read read_workshop.2.1).trans parses_workshop.2
    simp [suppliedBy, definition, lastWith, workshopGrammar]
  have chosen : arguments.scopeAmong definitions = some "s" := by
    rw [Arguments.scopeAmong, scope, Option.some_or]
  have isText : IsText (withLog workshop).view arguments.path "ba\x0d\n\nab" :=
    path ▸ isText_of_read read_workshop.2.2
  have lines : linesOf "ba\x0d\n\nab" = ["ba", "", "ab"] := by decide
  obtain ⟨rules, compiled, made⟩ := scratch_workshop
  exact .tokens chosen isText (lines_iff.mpr lines) last compiled made

/-- A plain run prints the tokens that the user's rule is for, and one that is asked for all tokens as JSON prints the
others too. -/
theorem outcomeIn_meets_workshop :
    ((outcomeIn ["n.z", "--scope=s"] workshopEnvironment workshop).exitCode = 0 ∧
      (outcomeIn ["n.z", "--scope=s"] workshopEnvironment workshop).output.toList.splitOn '\n' =
        ["1:2+1\tM\ts m.x".toList, "3:1+1\tM\ts m.x".toList, []]) ∧
    (outcomeIn ["n.z", "-as", "s", "--json"] workshopEnvironment workshop).exitCode = 0 ∧
      (Json.ofText? (outcomeIn ["n.z", "-as", "s", "--json"] workshopEnvironment workshop).output).bind Json.records? =
        some workshopRecords := by
  have prints {command : List String} {arguments : Arguments} (read : Arguments.read command = .ok arguments)
      (path : arguments.path = "n.z") (scope : arguments.scope = some "s") (own : arguments.settings = none) :
      (outcomeIn command workshopEnvironment workshop).exitCode = 0 ∧
        ∃ records, (arguments.all = true → records = workshopRecords) ∧
          (arguments.all = false → records = workshopRecords.filter (·.group.isSome)) ∧
          (arguments.json = true →
            (Json.ofText? (outcomeIn command workshopEnvironment workshop).output).bind Json.records? = some records) ∧
          (arguments.json = false → (∀ record ∈ records, record.OneLine) →
            (outcomeIn command workshopEnvironment workshop).output.toList.splitOn '\n' =
              records.map (·.columns.toList) ++ [[]]) := by
    rcases outcomeIn_meets read workshopEnvironment workshop {} with
      refused | ⟨after, place, settings, paths, definitions, opens, isOwn, _, configured, orders, _, meets, _⟩
    · exact absurd refused opens_workshop.not_refused
    obtain rfl := opens.unique opens_workshop
    obtain rfl := isOwn.unique own_workshop
    obtain rfl := configured.unique (configured_workshop own)
    dsimp only [Option.map_some, Option.toList_some] at orders meets
    rcases orders with _ | ⟨first, _ | ⟨second, _ | _⟩⟩
    obtain rfl := first.unique orders_workshop.1
    obtain rfl := second.unique orders_workshop.2
    have finds := finds_workshop path scope definitions
    obtain ⟨exitCode, tokens, all, records, found, highlights, whole, kept, asJson, rows⟩ :=
      meets.prints finds.not_fails
    obtain rfl := finds.unique found
    have groups : all = workshopRecords := (highlights_all.mp highlights).symm.trans records_workshop
    exact ⟨exitCode, records, groups ▸ whole, groups ▸ kept, asJson, rows⟩
  have plain : Arguments.read ["n.z", "--scope=s"] = .ok { path := "n.z", scope := some "s" } := by rfl
  have json : Arguments.read ["n.z", "-as", "s", "--json"] =
      .ok { path := "n.z", scope := some "s", json := true, all := true } := by rfl
  obtain ⟨printed, rows, _, kept, _, columns⟩ := prints plain rfl rfl rfl
  obtain ⟨exitCode, records, whole, _, asJson, _⟩ := prints json rfl rfl rfl
  have oneLine : ∀ record ∈ rows, record.OneLine := fun record member =>
    oneLine_workshop record (List.mem_of_mem_filter (kept rfl ▸ member))
  refine ⟨⟨printed, ?_⟩, exitCode, whole rfl ▸ asJson rfl⟩
  rw [columns rfl oneLine, kept rfl]
  decide +kernel

theorem exitCode_of_empty {command : List String} {env : Environment} {now : Circumstances} {tree after : FileTree}
    {scope : String} (opens : LogOpens env now tree after) (read : Arguments.read command = .ok arguments)
    (given : arguments.scope = some scope) (isText : IsText after.view arguments.path "") :
    (outcomeIn command env tree now).exitCode = 0 := by
  have coherent := (arguments.loadSettings env after.view).catalogue_coherent (α := Empty) env after.view
  have chosen := toOption_chooseScope (α := Empty) arguments
    ((arguments.loadSettings env after.view).catalogue env after.view) now.listing
  have scopeAmong : arguments.scopeAmong (now.listing.arrange
      ((arguments.loadSettings env after.view).catalogue env after.view : Catalogue Empty).definitions.values) =
        some scope := by
    rw [Arguments.scopeAmong, given, Option.some_or]
  exact ((meets_of_opens opens read coherent chosen).prints (Finds.nothing scopeAmong isText .none).not_fails).1

/-- A file, and a directory for what is kept of the user, in which there is none for logs yet. -/
def errand : FileTree :=
  ⟨.ofList [(["n"], .file .empty), (["x"], .directory), (["x", "scopeline"], .directory)], []⟩

/-- A file, and a directory where the log would be. -/
def occupied : FileTree :=
  ⟨.ofList [(["n"], .file .empty), (["x"], .directory), (["x", "scopeline"], .directory), (logsLocation, .directory),
    (logLocation, .directory)], []⟩

theorem opens_errand : LogOpens workshopEnvironment {} errand (withLog errand) := by
  refine .of_free own_workshop ?_ rfl ?_ rfl
  · simp only [workshopOwn, Path.join_eq, FileTree.target_eq]
    rfl
  · simp only [logIn, workshopOwn, Path.join_eq, FileTree.target_eq]
    rfl

theorem refused_occupied : LogRefused workshopEnvironment {} occupied := by
  have directory : occupied.target (Path.join workshopOwn "logs") = .ok ⟨logsLocation, false⟩ := by
    simp only [workshopOwn, Path.join_eq, FileTree.target_eq]
    rfl
  have log : occupied.target (logIn workshopOwn "1970-01-01") = .ok ⟨logLocation, false⟩ := by
    simp only [logIn, workshopOwn, Path.join_eq, FileTree.target_eq]
    rfl
  have some_ : Path.join workshopOwn "logs" ≠ "" := by
    simp only [workshopOwn, Path.join_eq]
    decide
  have making : occupied.makeDirectory (Path.join workshopOwn "logs") = (none, occupied) :=
    FileTree.makeDirectory_of_directory some_ directory rfl
  have refused : occupied.append (logIn workshopOwn "1970-01-01") .empty = .error .isDirectory := by
    rw [FileTree.append, FileTree.write, log]
    rfl
  exact .intro own_workshop making refused

def errandPath : String := "x/scopeline/logs/../../../n"

/-- A path that leads through the directory for logs is followed once the run has made that directory, and a run that
can not open its log stops, though its file can be read. -/
theorem outcomeIn_not_meets :
    (errand.read errandPath = .error .notFound ∧
      (outcomeIn [errandPath, "--scope=s"] workshopEnvironment errand).exitCode = 0 ∧
      ¬(outcomeIn [errandPath, "--scope=s"] workshopEnvironment errand).Meets { path := errandPath, scope := some "s" }
        errand.view .empty Builtin.definitions Builtin.definitions) ∧
    occupied.read "n" = .ok .empty ∧
      (outcomeIn ["n", "--scope=s"] workshopEnvironment occupied).exitCode = 101 ∧
      ¬(outcomeIn ["n", "--scope=s"] workshopEnvironment occupied).Meets { path := "n", scope := some "s" }
        occupied.view .empty Builtin.definitions Builtin.definitions := by
  have missing : errand.read errandPath = .error .notFound := by
    rw [FileTree.read, FileTree.find, FileTree.target_eq]
    rfl
  have noText : Fails { path := errandPath, scope := some "s" } errand.view Builtin.definitions Builtin.definitions := by
    refine .noText fun text isText => ?_
    obtain ⟨bytes, read, _⟩ := isText
    cases missing.symm.trans read
  have printed : (outcomeIn [errandPath, "--scope=s"] workshopEnvironment errand).exitCode = 0 := by
    have read : Arguments.read [errandPath, "--scope=s"] = .ok { path := errandPath, scope := some "s" } := by rfl
    have found : (withLog errand).read errandPath = .ok "".toUTF8 := by
      rw [FileTree.read, FileTree.find, FileTree.target_eq]
      rfl
    exact exitCode_of_empty opens_errand read rfl (isText_of_read found)
  have held : occupied.read "n" = .ok "".toUTF8 := by
    rw [FileTree.read, FileTree.find, FileTree.target_eq]
    rfl
  have finds : Finds { path := "n", scope := some "s" } occupied.view Builtin.definitions Builtin.definitions [] :=
    .nothing rfl (isText_of_read held) .none
  have stopped : (outcomeIn ["n", "--scope=s"] workshopEnvironment occupied).exitCode = 101 := by
    obtain ⟨problem, refused⟩ := refused_occupied.openLog
    simp only [outcomeIn, refused]
    rfl
  refine ⟨⟨missing, printed, fun meets => ?_⟩, held, stopped, fun meets => ?_⟩
  · cases printed.symm.trans (meets.fails.mpr noText).1
  · cases stopped.symm.trans (meets.prints finds.not_fails).1

end Highlighter.CommandLine
