import Highlighter.Proofs.Except
import Highlighter.Proofs.Yaml.Records

namespace Highlighter.Yaml

namespace Tree

/-- A text in a tree. -/
def ofText (text : String) : Tree := .scalar {} (Style.ofText text.toList = .plain) text

def ofEntries (entries : List (String × String)) : Tree :=
  .mapping {} (entries.map fun entry => (ofText entry.1, ofText entry.2))

def ofItems (items : List String) : Tree := .sequence {} (items.map ofText)

variable {handles : List (String × String)} {rest : List Token}

theorem node_text (fuel : Nat) (inBlock indentless : Bool) (text : String) (rest : List Token) :
    node handles (fuel + 1) inBlock indentless (scalarToken text :: rest) = .ok (ofText text, rest) := by
  cases indentless <;> rfl

theorem nodeUnless_text {fuel : Nat} (enough : 2 ≤ fuel) {stop : List Token} (inBlock indentless : Bool) {text : String}
    (goesOn : nextIs stop (scalarToken text :: rest) = false) :
    nodeUnless handles fuel stop inBlock indentless (scalarToken text :: rest) = .ok (ofText text, rest) := by
  obtain ⟨fuel, rfl⟩ := Nat.exists_eq_add_of_le' enough
  rw [nodeUnless, goesOn]
  exact node_text fuel inBlock indentless text rest

/-- One entry, whose key is a text. -/
theorem blockEntries_entry {fuel : Nat} (enough : 1 ≤ fuel) (name : String) {value : Tree} {tokens behind left : List Token}
    {entries : List (Tree × Tree)}
    (read : nodeUnless handles fuel [.key, .value, .blockEnd] true true tokens = .ok (value, behind))
    (later : blockEntries handles (fuel + 1) behind = .ok (entries, left)) :
    blockEntries handles (fuel + 2) (.key :: scalarToken name :: .value :: tokens) =
      .ok ((ofText name, value) :: entries, left) := by
  have key : nodeUnless handles (fuel + 1) [.key, .value, .blockEnd] true true (scalarToken name :: .value :: tokens) =
      .ok (ofText name, .value :: tokens) := nodeUnless_text (Nat.succ_le_succ enough) true true rfl
  rw [blockEntries, key, ok_bind]
  simp only [entryValue, read, ok_bind, later]
  rfl

/-- The entries of a mapping between texts. -/
theorem blockEntries_texts (entries : List (String × String)) {fuel : Nat} (enough : entries.length + 3 ≤ fuel) :
    blockEntries handles fuel (entries.flatMap entryTokens ++ .blockEnd :: rest) =
      .ok (entries.map fun entry => (ofText entry.1, ofText entry.2), rest) := by
  induction entries generalizing fuel with
  | nil =>
    obtain ⟨fuel, rfl⟩ := Nat.exists_eq_add_of_le' enough
    rfl
  | cons entry entries ih =>
    rw [List.length_cons] at enough
    obtain ⟨fuel, rfl⟩ : ∃ n, fuel = n + 2 := ⟨fuel - 2, by omega⟩
    exact blockEntries_entry (by omega) entry.1 (nodeUnless_text (by omega) true true rfl) (ih (by omega))

/-- The items of a list of texts. -/
theorem indentlessItems_texts (items : List String) {fuel : Nat} (enough : items.length + 3 ≤ fuel)
    (ends : nextIs [.blockEntry] rest = false) :
    indentlessItems handles fuel (items.flatMap itemTokens ++ rest) = .ok (items.map ofText, rest) := by
  induction items generalizing fuel with
  | nil =>
    obtain ⟨fuel, rfl⟩ := Nat.exists_eq_add_of_le' enough
    rw [List.flatMap_nil, List.nil_append]
    rcases rest with _ | ⟨token, rest⟩
    · rfl
    · cases token with
      | blockEntry => cases ends
      | _ => rfl
  | cons item items ih =>
    rw [List.length_cons] at enough
    obtain ⟨fuel, rfl⟩ : ∃ n, fuel = n + 1 := ⟨fuel - 1, by omega⟩
    have tokens : (item :: items).flatMap itemTokens ++ rest =
        .blockEntry :: scalarToken item :: (items.flatMap itemTokens ++ rest) := rfl
    have read : nodeUnless handles fuel [.blockEntry, .key, .value, .blockEnd] true false
        (scalarToken item :: (items.flatMap itemTokens ++ rest)) = .ok (ofText item, items.flatMap itemTokens ++ rest) :=
      nodeUnless_text (by omega) true false rfl
    have later : indentlessItems handles fuel (items.flatMap itemTokens ++ rest) = .ok (items.map ofText, rest) :=
      ih (by omega)
    rw [tokens, indentlessItems, read, ok_bind]
    simp only [later]
    rfl

theorem node_blockMapping {fuel : Nat} {tokens left : List Token} {entries : List (Tree × Tree)} (indentless : Bool)
    (read : blockEntries handles fuel tokens = .ok (entries, left)) :
    node handles (fuel + 1) true indentless (.blockMapping :: tokens) = .ok (.mapping {} entries, left) := by
  have noEntry : nextIs [.blockEntry] (.blockMapping :: tokens) = false := rfl
  simp only [node, properties, ok_bind, noEntry, read, Bool.and_false, Bool.false_eq_true, if_false, if_true]
  rfl

theorem node_indentless {fuel : Nat} {tokens left : List Token} {items : List Tree}
    (read : indentlessItems handles fuel (.blockEntry :: tokens) = .ok (items, left)) :
    node handles (fuel + 1) true true (.blockEntry :: tokens) = .ok (.sequence {} items, left) := by
  have entry : nextIs [.blockEntry] (.blockEntry :: tokens) = true := rfl
  simp only [node, properties, ok_bind, entry, read, Bool.and_self, if_true]
  rfl

/-- A mapping between texts, as the value of a field. -/
theorem nodeUnless_entries (entries : List (String × String)) {fuel : Nat} (enough : entries.length + 5 ≤ fuel) :
    nodeUnless handles fuel [.key, .value, .blockEnd] true true (entriesTokens entries ++ rest) =
      .ok (ofEntries entries, rest) := by
  obtain ⟨fuel, rfl⟩ : ∃ n, fuel = n + 3 := ⟨fuel - 3, by omega⟩
  cases entries with
  | nil => rfl
  | cons entry entries =>
    have tokens : entriesTokens (entry :: entries) ++ rest =
        .blockMapping :: ((entry :: entries).flatMap entryTokens ++ .blockEnd :: rest) := by
      simp [entriesTokens]
    have read : blockEntries handles (fuel + 1) ((entry :: entries).flatMap entryTokens ++ .blockEnd :: rest) = _ :=
      blockEntries_texts (entry :: entries) (by omega)
    rw [tokens]
    exact node_blockMapping true read

/-- A list of texts, as the value of a field. -/
theorem nodeUnless_items (items : List String) {fuel : Nat} (enough : items.length + 5 ≤ fuel)
    (ends : nextIs [.blockEntry] rest = false) :
    nodeUnless handles fuel [.key, .value, .blockEnd] true true (itemsTokens items ++ rest) =
      .ok (ofItems items, rest) := by
  obtain ⟨fuel, rfl⟩ : ∃ n, fuel = n + 3 := ⟨fuel - 3, by omega⟩
  cases items with
  | nil => rfl
  | cons item items =>
    have read : indentlessItems handles (fuel + 1) ((item :: items).flatMap itemTokens ++ rest) = _ :=
      indentlessItems_texts (item :: items) (by omega) ends
    exact node_indentless read

/-- A record with a mapping and a list. -/
def ofRecord (mapping list : String) (entries : List (String × String)) (items : List String) : Tree :=
  .mapping {} [(ofText mapping, ofEntries entries), (ofText list, ofItems items)]

theorem length_le_entriesTokens (entries : List (String × String)) : entries.length ≤ (entriesTokens entries).length := by
  have each : (entries.flatMap entryTokens).length = 4 * entries.length := by
    simp [List.length_flatMap, entryTokens, Nat.mul_comm]
  unfold entriesTokens
  split
  · simp_all
  · rw [List.length_cons, List.length_append, each]
    omega

theorem length_le_itemsTokens (items : List String) : items.length ≤ (itemsTokens items).length := by
  have each : (items.flatMap itemTokens).length = 2 * items.length := by
    simp [List.length_flatMap, itemTokens, Nat.mul_comm]
  unfold itemsTokens
  split
  · simp_all
  · omega

theorem ofTokens_record (mapping list : String) (entries : List (String × String)) (items : List String) :
    ofTokens (.blockMapping :: (fieldTokens mapping (entriesTokens entries) ++
      (fieldTokens list (itemsTokens items) ++ [.blockEnd]))) = .ok (some (ofRecord mapping list entries items)) := by
  have entriesLength := length_le_entriesTokens entries
  have itemsLength := length_le_itemsTokens items
  generalize tokens : fieldTokens mapping (entriesTokens entries) ++
    (fieldTokens list (itemsTokens items) ++ [.blockEnd]) = more
  have length : more.length = (entriesTokens entries).length + (itemsTokens items).length + 7 := by
    simp [← tokens, fieldTokens]
    omega
  obtain ⟨fuel, enough⟩ : ∃ n, 4 * (more.length + 1) = n := ⟨_, rfl⟩
  have last : blockEntries knownHandles (fuel + 2) (fieldTokens list (itemsTokens items) ++ [.blockEnd]) =
      .ok ([(ofText list, ofItems items)], []) :=
    blockEntries_entry (by omega) list (nodeUnless_items items (by omega) rfl) rfl
  have first : blockEntries knownHandles (fuel + 3) more =
      .ok ([(ofText mapping, ofEntries entries), (ofText list, ofItems items)], []) :=
    tokens ▸ blockEntries_entry (by omega) mapping (nodeUnless_entries entries (by omega)) last
  have rooted : root (.blockMapping :: more) = (node knownHandles (4 * (more.length + 1) + 4) true false
      (.blockMapping :: more) >>= fun parts => .ok (some parts.1, parts.2)) := rfl
  rw [ofTokens, rooted, enough, node_blockMapping false first]
  rfl

end Tree

namespace Node

def ofText (text : String) : Node := .scalar none (Style.ofText text.toList = .plain) text

def ofEntries (entries : List (String × String)) : Node :=
  .mapping (entries.map fun entry => (ofText entry.1, ofText entry.2))

def ofItems (items : List String) : Node := .sequence (items.map ofText)

def ofRecord (mapping list : String) (entries : List (String × String)) (items : List String) : Node :=
  .mapping [(ofText mapping, ofEntries entries), (ofText list, ofItems items)]

end Node

namespace Tree

theorem bind_text (anchors : Anchors) (text : String) : bind anchors (ofText text) = .ok ⟨.ofText text, [], anchors⟩ := rfl

theorem bindEntries_texts (anchors : Anchors) (entries : List (String × String)) :
    bindEntries anchors (entries.map fun entry => (ofText entry.1, ofText entry.2)) =
      .ok ⟨entries.map fun entry => (Node.ofText entry.1, Node.ofText entry.2), [], anchors⟩ := by
  induction entries with
  | nil => rfl
  | cons entry entries ih =>
    rw [List.map_cons, bindEntries, bind_text, ok_bind, bind_text, ok_bind, ih]
    rfl

theorem bindItems_texts (anchors : Anchors) (items : List String) :
    bindItems anchors (items.map ofText) = .ok ⟨items.map Node.ofText, [], anchors⟩ := by
  induction items with
  | nil => rfl
  | cons item items ih =>
    rw [List.map_cons, bindItems, bind_text, ok_bind, ih]
    rfl

/-- Texts have no anchors, and there are no aliases. -/
theorem bind_record (mapping list : String) (entries : List (String × String)) (items : List String) :
    bind [] (ofRecord mapping list entries items) = .ok ⟨.ofRecord mapping list entries items, [], []⟩ := by
  have none : Properties.declare {} [] = [] := rfl
  have boundEntries : bind [] (ofEntries entries) = .ok ⟨.ofEntries entries, [], []⟩ := by
    rw [ofEntries, bind, none, bindEntries_texts, ok_bind]
    rfl
  have boundItems : bind [] (ofItems items) = .ok ⟨.ofItems items, [], []⟩ := by
    rw [ofItems, bind, none, bindItems_texts, ok_bind]
    rfl
  simp only [ofRecord, bind, bindEntries, none, bind_text, boundEntries, boundItems, ok_bind]
  rfl

end Tree

namespace Document

variable (document : Document)

theorem text_ofText (text : String) : document.text (.ofText text) = .ok text := rfl

theorem textEntries_ofEntries (entries : List (String × String)) :
    document.textEntries (.ofEntries entries) = .ok entries :=
  @mapM_map_of_inverse (String × String) (Node × Node) (Except Problem) _ _
    (fun entry => (.ofText entry.1, .ofText entry.2)) _ (fun _ => rfl) entries

theorem list_ofItems (items : List String) : document.list document.text (.ofItems items) = .ok items :=
  mapM_map_of_inverse document.text_ofText items

theorem fields_ofRecord {mapping list : String} (distinct : mapping ≠ list) (entries : List (String × String))
    (items : List String) : document.fields [mapping, list] (.ofRecord mapping list entries items) =
      .ok [(mapping, .ofEntries entries), (list, .ofItems items)] := by
  have read : document.entries (.ofRecord mapping list entries items) =
      .ok [(.ofText mapping, .ofEntries entries), (.ofText list, .ofItems items)] := rfl
  rw [fields, read, ok_bind]
  simp [text_ofText, ok_bind, distinct, distinct.symm]
  rfl

end Document

/-- A record is read back from its text. -/
theorem Document.read_record {mapping list : String} (mappingName : IsFieldName mapping) (listName : IsFieldName list)
    (entries : List (String × String)) (items : List String) :
    Document.read (String.ofList (writeMapping mapping entries ++ writeList list items)) =
      .ok ⟨some (.ofRecord mapping list entries items), []⟩ := by
  rw [Document.read, Token.read_record mappingName listName, ok_bind, Tree.ofTokens_record, ok_bind]
  simp only [Tree.bind_record, ok_bind]
  rfl

end Highlighter.Yaml
