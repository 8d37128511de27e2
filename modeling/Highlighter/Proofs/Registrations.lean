import Mathlib.Data.List.Sort
import Highlighter.Grammar.Catalogue
import Highlighter.Proofs.Except

namespace Highlighter

variable {α : Type}

theorem GrammarDefinition.scope_of_compile {definition : GrammarDefinition} {rules : RuleGrammar}
    (compiled : definition.compile = .ok rules) : rules.scope = definition.scope := by
  obtain ⟨found, _, made⟩ := bind_eq_ok compiled
  cases made
  rfl

/-- What a scope is registered with. -/
inductive Registration (α : Type) where
  | written (definition : GrammarDefinition)
  | ready (grammar : Grammar α)

namespace Registration

def scope : Registration α → String
  | .written definition => definition.scope
  | .ready grammar => grammar.scope

/-- What the grammar of a registration comes to. Definitions are compiled, whenever they are asked for. -/
def load : Registration α → Except GrammarError (Grammar α)
  | .written definition => definition.compile.map RuleGrammar.toGrammar
  | .ready grammar => .ok grammar

theorem scope_of_load {registration : Registration α} {grammar : Grammar α}
    (load : registration.load = .ok grammar) : grammar.scope = registration.scope := by
  cases registration with
  | ready given =>
    cases load
    rfl
  | written definition =>
    rcases compiled : definition.compile with problem | rules
    · simp only [Registration.load, compiled] at load
      cases load
    · simp only [Registration.load, compiled] at load
      cases load
      exact GrammarDefinition.scope_of_compile compiled

end Registration

/-- The last registration of a scope. -/
def lastOf (history : List (Registration α)) (scope : String) : Option (Registration α) :=
  history.reverse.find? fun registration => registration.scope = scope

theorem lastOf_append (history : List (Registration α)) (registration : Registration α) (scope : String) :
    lastOf (history ++ [registration]) scope =
      if registration.scope = scope then some registration else lastOf history scope := by
  simp only [lastOf, List.reverse_append, List.reverse_singleton, List.singleton_append, List.find?_cons]
  split <;> simp_all

theorem scope_of_lastOf {history : List (Registration α)} {scope : String} {registration : Registration α}
    (last : lastOf history scope = some registration) : registration.scope = scope := by
  simpa using List.find?_some last

theorem mem_of_lastOf {history : List (Registration α)} {scope : String} {registration : Registration α}
    (last : lastOf history scope = some registration) : registration ∈ history :=
  List.mem_reverse.mp (List.mem_of_find?_eq_some last)

theorem lastOf_isSome {history : List (Registration α)} {scope : String} :
    (lastOf history scope).isSome ↔ ∃ registration ∈ history, registration.scope = scope := by
  simp [lastOf]

/-- What may be done with a catalogue. -/
inductive Operation (α : Type) where
  | register (definition : GrammarDefinition)
  | registerYaml (text : String)
  | registerFile (files : FileView) (path : String)
  | registerGrammar (grammar : Grammar α)
  | registerDirectory (files : FileView) (directory : String)
  | load (scope : String)

/-- The definition in a file, if it is to be had. -/
def definitionIn (files : FileView) (path : String) : Option GrammarDefinition :=
  match files.readText path with
  | .ok text => (GrammarDefinition.ofYaml text).toOption
  | .error _ => none

/-- What an operation registers, in its order. -/
def Operation.registered : Operation α → List (Registration α)
  | .register definition => [.written definition]
  | .registerYaml text => (GrammarDefinition.ofYaml text).toOption.toList.map .written
  | .registerFile files path => (definitionIn files path).toList.map .written
  | .registerGrammar grammar => [.ready grammar]
  | .registerDirectory files directory =>
    ((Catalogue.grammarFiles files directory).filterMap (definitionIn files)).map .written
  | .load _ => []

namespace Catalogue

/-- The catalogue after an operation, which stays the same if the operation fails. -/
def perform (c : Catalogue α) : Operation α → Catalogue α
  | .register definition => c.register definition
  | .registerYaml text =>
    match c.registerYaml text with
    | .ok (_, c) => c
    | .error _ => c
  | .registerFile files path =>
    match c.registerFile files path with
    | .ok (_, c) => c
    | .error _ => c
  | .registerGrammar grammar => c.registerGrammar grammar
  | .registerDirectory files directory => (c.registerDirectory files directory).2
  | .load scope => (c.load scope).2

def performAll (c : Catalogue α) (operations : List (Operation α)) : Catalogue α := operations.foldl perform c

/-- What the three tables may hold for a scope: the last registration, and of a definition what has come of it. -/
inductive Entry :
    Option (Registration α) → Option GrammarDefinition → Option (Grammar α) → Option GrammarError → Prop
  | nothing : Entry none none none none
  | ready {grammar} : Entry (some (.ready grammar)) none (some grammar) none
  | pending {definition} : Entry (some (.written definition)) (some definition) none none
  | compiled {definition rules} : definition.compile = .ok rules →
      Entry (some (.written definition)) (some definition) (some rules.toGrammar) none
  | failed {definition problem} : definition.compile = .error problem →
      Entry (some (.written definition)) (some definition) none (some problem)

/-- The tables of a catalogue agree with what has been registered. -/
def Coherent (c : Catalogue α) (history : List (Registration α)) : Prop := ∀ scope,
  Entry (lastOf history scope) (c.definitions.get? scope) (c.grammars.get? scope) (c.failures.get? scope)

variable {c : Catalogue α} {history : List (Registration α)}

theorem coherent_new : ({} : Catalogue α).Coherent [] := fun _ => .nothing

namespace Coherent

theorem register (coherent : c.Coherent history) (definition : GrammarDefinition) :
    (c.register definition).Coherent (history ++ [.written definition]) := by
  intro scope
  simp only [Catalogue.register, Table.get?_insert, Table.get?_erase, lastOf_append, Registration.scope]
  by_cases same : definition.scope = scope
  · simp only [same, if_true]
    exact .pending
  · simp only [same, Ne.symm same, if_false]
    exact coherent scope

theorem registerGrammar (coherent : c.Coherent history) (grammar : Grammar α) :
    (c.registerGrammar grammar).Coherent (history ++ [.ready grammar]) := by
  intro scope
  simp only [Catalogue.registerGrammar, Table.get?_insert, Table.get?_erase, lastOf_append, Registration.scope]
  by_cases same : grammar.scope = scope
  · simp only [same, if_true]
    exact .ready
  · simp only [same, Ne.symm same, if_false]
    exact coherent scope

theorem registerAll (coherent : c.Coherent history) (definitions : List GrammarDefinition) :
    (definitions.foldl Catalogue.register c).Coherent (history ++ definitions.map .written) := by
  induction definitions generalizing c history with
  | nil => simpa using coherent
  | cons definition definitions ih => simpa using ih (coherent.register definition)

/-- What is kept of a load is what the definition comes to. -/
theorem load (coherent : c.Coherent history) (scope : String) : (c.load scope).2.Coherent history := by
  have entry := coherent scope
  unfold Catalogue.load
  split
  · exact coherent
  · exact coherent
  · exact coherent
  · rename_i definition noGrammar noFailure defined
    rw [noGrammar, noFailure, defined] at entry
    split
    · rename_i rules compiled
      intro other
      simp only [Table.get?_insert]
      split
      · rename_i same
        subst same
        rw [noFailure, defined]
        generalize lastOf history other = last at entry ⊢
        cases entry with
        | pending => exact .compiled compiled
      · exact coherent other
    · rename_i problem failed
      intro other
      simp only [Table.get?_insert]
      split
      · rename_i same
        subst same
        rw [noGrammar, defined]
        generalize lastOf history other = last at entry ⊢
        cases entry with
        | pending => exact .failed failed
      · exact coherent other

theorem registerYaml (coherent : c.Coherent history) (text : String) :
    (c.perform (.registerYaml text)).Coherent (history ++ (Operation.registerYaml text).registered) := by
  simp only [perform, Catalogue.registerYaml, Operation.registered]
  rcases GrammarDefinition.ofYaml text with problem | definition
  · exact (List.append_nil history).symm ▸ coherent
  · exact coherent.register definition

theorem registerFile (coherent : c.Coherent history) (files : FileView) (path : String) :
    (c.perform (.registerFile files path)).Coherent (history ++ (Operation.registerFile files path).registered) := by
  simp only [perform, Catalogue.registerFile, Operation.registered, definitionIn]
  rcases files.readText path with problem | text
  · exact (List.append_nil history).symm ▸ coherent
  · exact coherent.registerYaml text

end Coherent

/-- A directory is registered like its grammar files, one after another. -/
theorem registerDirectory_eq (c : Catalogue α) (files : FileView) (directory : String) :
    (c.registerDirectory files directory).2 =
      (grammarFiles files directory).foldl (fun c path => c.perform (.registerFile files path)) c := by
  suffices each : ∀ (paths : List String) (count : Nat) (c : Catalogue α),
      (paths.foldl (registerCounted files) (count, c)).2 =
        paths.foldl (fun c path => c.perform (.registerFile files path)) c by
    rw [registerDirectory, each]
  intro paths
  induction paths with
  | nil => exact fun _ _ => rfl
  | cons path paths ih =>
    intro count c
    rw [List.foldl_cons, List.foldl_cons, registerCounted]
    simp only [perform]
    rcases c.registerFile files path with problem | ⟨scope, registered⟩
    · exact ih count c
    · exact ih (count + 1) registered

theorem Coherent.registerFiles (coherent : c.Coherent history) (files : FileView) (paths : List String) :
    (paths.foldl (fun c path => c.perform (.registerFile files path)) c).Coherent
      (history ++ (paths.filterMap (definitionIn files)).map .written) := by
  induction paths generalizing c history with
  | nil => simpa using coherent
  | cons path paths ih =>
    have rest := ih (coherent.registerFile files path)
    simp only [Operation.registered, List.append_assoc] at rest
    rw [List.foldl_cons, List.filterMap_cons]
    cases found : definitionIn files path <;> simpa [found] using rest

theorem Coherent.perform (coherent : c.Coherent history) (operation : Operation α) :
    (c.perform operation).Coherent (history ++ operation.registered) := by
  cases operation with
  | register definition => exact coherent.register definition
  | registerYaml text => exact coherent.registerYaml text
  | registerFile files path => exact coherent.registerFile files path
  | registerGrammar grammar => exact coherent.registerGrammar grammar
  | registerDirectory files directory =>
    simp only [Catalogue.perform, registerDirectory_eq]
    exact coherent.registerFiles files (grammarFiles files directory)
  | load scope => exact (List.append_nil history).symm ▸ coherent.load scope

theorem Coherent.performAll (coherent : c.Coherent history) (operations : List (Operation α)) :
    (c.performAll operations).Coherent (history ++ operations.flatMap Operation.registered) := by
  induction operations generalizing c history with
  | nil => simpa [Catalogue.performAll] using coherent
  | cons operation operations ih => simpa [Catalogue.performAll] using ih (coherent.perform operation)

/-- A catalogue shows of what has been registered just the last registration of each scope. -/
structure Shows (c : Catalogue α) (history : List (Registration α)) : Prop where
  load : ∀ scope, (c.load scope).1 =
    match lastOf history scope with
    | some registration => registration.load
    | none => .error (.unknownScope scope)
  named : ∀ {scope grammar}, (c.load scope).1 = .ok grammar → grammar.scope = scope
  contains : ∀ scope, c.contains scope ↔ ∃ registration ∈ history, registration.scope = scope
  scopes : ∀ scope, scope ∈ c.scopes ↔ ∃ registration ∈ history, registration.scope = scope
  ordered : c.scopes.Pairwise (· < ·)
  definitions : ∀ definition, definition ∈ c.definitions.values ↔
    lastOf history definition.scope = some (.written definition)
  distinct : c.definitions.values.Nodup

theorem pairwise_lt_eraseDups {xs : List String} (sorted : xs.Pairwise (· ≤ ·)) :
    xs.eraseDups.Pairwise (· < ·) := by
  induction length : xs.length using Nat.strongRecOn generalizing xs with
  | ind n ih =>
    cases sorted with
    | nil => exact .nil
    | @cons x xs first rest =>
      rw [List.eraseDups_cons]
      refine .cons (fun y member => ?_) (ih _ ?_ (rest.filter _) rfl)
      · obtain ⟨later, different⟩ := List.mem_filter.mp (List.mem_eraseDups.mp member)
        exact Std.lt_of_le_of_ne (first y later) fun same => by simp [same] at different
      · have fewer := List.length_filter_le (fun y => !y == x) xs
        rw [List.length_cons] at length
        omega

theorem mem_scopes {scope : String} : scope ∈ c.scopes ↔ c.contains scope := by
  simp only [scopes, contains, List.mem_eraseDups, List.mem_mergeSort, List.mem_append, Table.mem_keys, Bool.or_eq_true,
    Table.contains]

theorem ordered_scopes (c : Catalogue α) : c.scopes.Pairwise (· < ·) :=
  pairwise_lt_eraseDups (List.pairwise_mergeSort' (· ≤ ·) _)

namespace Coherent

theorem load_eq (coherent : c.Coherent history) (scope : String) : (c.load scope).1 =
    match lastOf history scope with
    | some registration => registration.load
    | none => .error (.unknownScope scope) := by
  have entry := coherent scope
  unfold Catalogue.load
  generalize lastOf history scope = last, c.definitions.get? scope = definition, c.grammars.get? scope = grammar,
    c.failures.get? scope = failure at entry
  cases entry with
  | nothing => rfl
  | ready => rfl
  | @pending definition =>
    simp only [Registration.load]
    cases definition.compile <;> rfl
  | compiled compiled => simp only [Registration.load, compiled, Except.map]
  | failed failed => simp only [Registration.load, failed, Except.map]

theorem named (coherent : c.Coherent history) {scope : String} {grammar : Grammar α}
    (load : (c.load scope).1 = .ok grammar) : grammar.scope = scope := by
  rw [coherent.load_eq] at load
  rcases last : lastOf history scope with _ | registration
  · rw [last] at load
    cases load
  · rw [last] at load
    exact (Registration.scope_of_load load).trans (scope_of_lastOf last)

theorem contains (coherent : c.Coherent history) (scope : String) :
    c.contains scope ↔ ∃ registration ∈ history, registration.scope = scope := by
  rw [← lastOf_isSome]
  have entry := coherent scope
  simp only [Catalogue.contains, Table.contains]
  generalize lastOf history scope = last, c.definitions.get? scope = definition, c.grammars.get? scope = grammar,
    c.failures.get? scope = failure at entry ⊢
  cases entry <;> simp

theorem definition_eq_some (coherent : c.Coherent history) {scope : String} {definition : GrammarDefinition} :
    c.definitions.get? scope = some definition ↔ lastOf history scope = some (.written definition) := by
  have entry := coherent scope
  generalize lastOf history scope = last, c.definitions.get? scope = known, c.grammars.get? scope = grammar,
    c.failures.get? scope = failure at entry ⊢
  cases entry <;> simp

/-- Every definition stands at its own scope. -/
theorem scope_of_entry (coherent : c.Coherent history) {entry : String × GrammarDefinition}
    (member : entry ∈ c.definitions.entries) : entry.2.scope = entry.1 :=
  scope_of_lastOf (coherent.definition_eq_some.mp (Table.mem_entries.mp member))

theorem mem_definitions (coherent : c.Coherent history) (definition : GrammarDefinition) :
    definition ∈ c.definitions.values ↔ lastOf history definition.scope = some (.written definition) := by
  rw [← coherent.definition_eq_some, ← Table.mem_entries]
  constructor
  · intro member
    obtain ⟨entry, known, rfl⟩ := List.mem_map.mp member
    rwa [coherent.scope_of_entry known]
  · exact fun known => List.mem_map_of_mem known

theorem nodup_definitions (coherent : c.Coherent history) : c.definitions.values.Nodup := by
  have keys : c.definitions.values.map GrammarDefinition.scope = c.definitions.keys := by
    rw [Table.values, List.map_map, Table.keys]
    exact List.map_congr_left fun entry member => coherent.scope_of_entry member
  refine List.Nodup.of_map GrammarDefinition.scope ?_
  rw [keys]
  exact c.definitions.sorted.map Prod.fst fun _ _ before same => Std.lt_irrefl (same ▸ before)

theorem shows (coherent : c.Coherent history) : c.Shows history where
  load := coherent.load_eq
  named := coherent.named
  contains := coherent.contains
  scopes scope := mem_scopes.trans (coherent.contains scope)
  ordered := c.ordered_scopes
  definitions := coherent.mem_definitions
  distinct := coherent.nodup_definitions

end Coherent

/-- Two catalogues that show the same. -/
structure Alike (c d : Catalogue α) : Prop where
  load : ∀ scope, (c.load scope).1 = (d.load scope).1
  contains : ∀ scope, c.contains scope = d.contains scope
  scopes : c.scopes = d.scopes
  definitions : c.definitions.values = d.definitions.values

theorem alike_self (c : Catalogue α) : c.Alike c := ⟨fun _ => rfl, fun _ => rfl, rfl, rfl⟩

theorem definitions_of_load (c : Catalogue α) (scope : String) : (c.load scope).2.definitions = c.definitions := by
  unfold load
  split
  · rfl
  · rfl
  · rfl
  · split <;> rfl

theorem Coherent.alike_load (coherent : c.Coherent history) (scope : String) : (c.load scope).2.Alike c where
  load other := by rw [(coherent.load scope).load_eq, coherent.load_eq]
  contains other := Bool.eq_iff_iff.mpr (((coherent.load scope).contains other).trans (coherent.contains other).symm)
  scopes := (c.load scope).2.ordered_scopes.eq_of_mem_iff c.ordered_scopes fun other =>
    ((coherent.load scope).shows.scopes other).trans (coherent.shows.scopes other).symm
  definitions := by rw [definitions_of_load]

/-- The catalogues that a host can begin with, and what is registered in them. -/
inductive Begins : Catalogue α → List (Registration α) → Prop
  | empty : Begins {} []
  | builtin : Begins builtin (Builtin.definitions.map .written)

theorem Begins.coherent {start : Catalogue α} {before : List (Registration α)} (begins : Begins start before) :
    start.Coherent before := by
  cases begins with
  | empty => exact coherent_new
  | builtin =>
    have fresh : ({} : Catalogue α).Coherent [] := coherent_new
    have all := fresh.registerAll Builtin.definitions
    rwa [List.nil_append] at all

/-- After any operations a catalogue shows just the last registration of each scope. Loads and registrations that fail
change nothing of what it shows. -/
theorem performAll_shows {start : Catalogue α} {before : List (Registration α)} (begins : Begins start before)
    (operations : List (Operation α)) :
    (start.performAll operations).Shows (before ++ operations.flatMap Operation.registered) ∧
      (∀ scope, ((start.performAll operations).perform (.load scope)).Alike (start.performAll operations)) ∧
      (∀ text problem, (start.performAll operations).registerYaml text = .error problem →
        ((start.performAll operations).perform (.registerYaml text)).Alike (start.performAll operations)) ∧
      ∀ files path problem, (start.performAll operations).registerFile files path = .error problem →
        ((start.performAll operations).perform (.registerFile files path)).Alike (start.performAll operations) := by
  have coherent := begins.coherent.performAll operations
  refine ⟨coherent.shows, coherent.alike_load, ?_, ?_⟩
  · intro text problem failed
    simp only [perform, failed]
    exact alike_self _
  · intro files path problem failed
    simp only [perform, failed]
    exact alike_self _

/-- A grammar without tokens that claims a builtin scope. -/
def blankGrammar : Grammar Nat := ⟨"source.json", fun _ _ => .ok ⟨[], .other 0⟩⟩

theorem performAll_shows_replaced : ((builtin.performAll
    [.load "source.json", .registerGrammar blankGrammar, .load "source.json"]).load "source.json").1 =
      .ok blankGrammar := by
  have shown := (performAll_shows .builtin
    [.load "source.json", .registerGrammar blankGrammar, .load "source.json"]).1.load "source.json"
  rw [shown]
  simp only [List.flatMap_cons, List.flatMap_nil, Operation.registered, List.nil_append, List.append_nil, lastOf_append]
  rfl

end Catalogue

end Highlighter
