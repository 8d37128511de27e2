import Highlighter.Proofs.Json
import Highlighter.Table

namespace Highlighter

namespace Json

def text? : Json → Option String
  | .text value => some value
  | _ => none

def number? : Json → Option Nat
  | .number value => some value
  | _ => none

def list? : Json → Option (List Json)
  | .list items => some items
  | _ => none

def field? (key : String) : Json → Option Json
  | .object fields => fields.lookup key
  | _ => none

/-- The group of a record, or null. -/
def group? : Json → Option (Option String)
  | .null => some none
  | .text value => some (some value)
  | _ => none

/-- The record that an object has the fields of. -/
def record? (json : Json) : Option CommandLine.Record := do
  let line ← (← json.field? "line").number?
  let column ← (← json.field? "column").number?
  let length ← (← json.field? "length").number?
  let scopes ← (← (← json.field? "scopes").list?).mapM text?
  let group ← (← json.field? "group").group?
  return ⟨⟨line, column, length, scopes⟩, group⟩

def records? (json : Json) : Option (List CommandLine.Record) := do
  (← json.list?).mapM record?

/-- What is printed for a record. -/
def ofRecord (record : CommandLine.Record) : Json :=
  .object
    [("line", .number record.token.line),
     ("column", .number record.token.column),
     ("length", .number record.token.length),
     ("scopes", .list (record.token.scopes.map .text)),
     ("group", record.group.elim .null .text)]

theorem record?_ofRecord (record : CommandLine.Record) : record? (ofRecord record) = some record := by
  have scopes (names : List String) : (names.map Json.text).mapM text? = some names :=
    mapM_map_of_inverse (g := text?) (fun _ => rfl) names
  obtain ⟨⟨line, column, length, names⟩, group⟩ := record
  cases group <;> simp [record?, ofRecord, field?, Table.lookup_cons, number?, list?, group?, scopes]

theorem denotes_record (depth : Nat) (record : CommandLine.Record) :
    Denotes (record.json depth).toList (ofRecord record) := by
  have names : List.Forall₂ (fun item value => Denotes item.toList value)
      (record.token.scopes.map CommandLine.jsonText) (record.token.scopes.map Json.text) := by
    simpa using fun scope _ => denotes_jsonText scope
  have group : Denotes ((record.group.map CommandLine.jsonText).getD "null").toList
      (record.group.elim .null .text) := by
    cases record.group with
    | none => exact denotes_null
    | some group => exact denotes_jsonText group
  refine denotes_object depth (.cons ?_ (.cons ?_ (.cons ?_ (.cons ?_ (.cons ?_ .nil)))))
  · exact denotes_field rfl (denotes_number record.token.line)
  · exact denotes_field rfl (denotes_number record.token.column)
  · exact denotes_field rfl (denotes_number record.token.length)
  · exact denotes_field rfl (denotes_list (depth + 1) names)
  · exact denotes_field rfl group

/-- The records are had back from the JSON that is printed for them. -/
theorem records?_report (records : List CommandLine.Record) :
    (ofText? (CommandLine.report true records)).bind records? = some records := by
  have items : List.Forall₂ (fun item value => Denotes item.toList value)
      (records.map (CommandLine.Record.json 1)) (records.map ofRecord) := by
    simpa using fun record _ => denotes_record 1 record
  have read : ofText? (CommandLine.report true records) = some (.list (records.map ofRecord)) :=
    ofText?_of_denotes (denotes_list 0 items)
  rw [read, Option.bind_some]
  exact mapM_map_of_inverse record?_ofRecord records

example :
    (ofText? "[\x7b\"group\" : null, \"scopes\":[\"\\u00e9\\/\"], \"length\":3,\n\"column\":10,\"line\":1\x7d]").bind
        records? =
      some [⟨⟨1, 10, 3, ["é/"]⟩, none⟩] := by
  decide

end Json

namespace CommandLine

/-- A row without the line feed at its end. -/
def Record.columns (record : Record) : String :=
  toString record.token.line ++ ":" ++ toString record.token.column ++ "+" ++ toString record.token.length ++ "\t" ++
    record.group.getD "-" ++ "\t" ++ " ".intercalate record.token.scopes

/-- A record whose names stay on one line. -/
structure Record.OneLine (record : Record) : Prop where
  group : ∀ group, record.group = some group → '\n' ∉ group.toList
  scopes : ∀ scope ∈ record.token.scopes, '\n' ∉ scope.toList

theorem not_mem_intercalate {c : Char} {separator : List Char} {parts : List (List Char)} (apart : c ∉ separator)
    (none_ : ∀ part ∈ parts, c ∉ part) : c ∉ separator.intercalate parts := by
  induction parts with
  | nil => exact List.not_mem_nil
  | cons part parts ih =>
    obtain ⟨first, others⟩ := List.forall_mem_cons.mp none_
    cases parts with
    | nil => simpa [List.intercalate] using first
    | cons next parts =>
      rw [List.intercalate_cons_cons]
      simp [first, apart, ih others]

theorem Record.row_eq (record : Record) : record.row.toList = record.columns.toList ++ ['\n'] := by
  simp only [row, columns, String.toList_append]
  rfl

theorem Record.OneLine.columns {record : Record} (oneLine : record.OneLine) : '\n' ∉ record.columns.toList := by
  have numbers (n : Nat) : '\n' ∉ (toString n).toList := by
    intro member
    rw [Nat.toString_eq_repr, Nat.repr_eq_ofList_toDigits, String.toList_ofList] at member
    cases Nat.isDigit_of_mem_toDigits (by decide) (by decide) member
  have group : '\n' ∉ (record.group.getD "-").toList := by
    rcases given : record.group with _ | group
    · decide
    · exact oneLine.group group given
  have scopes : '\n' ∉ (" ".intercalate record.token.scopes).toList := by
    rw [String.toList_intercalate]
    exact not_mem_intercalate (by decide) (by simpa using oneLine.scopes)
  simp only [Record.columns, String.toList_append, List.mem_append, numbers, group, scopes, or_false, false_or]
  decide

/-- Every record has a row of its own. -/
theorem splitOn_report {records : List Record} (oneLine : ∀ record ∈ records, record.OneLine) :
    (report false records).toList.splitOn '\n' = records.map (·.columns.toList) ++ [[]] := by
  have rows (records : List Record) :
      (report false records).toList = records.flatMap fun record => record.columns.toList ++ ['\n'] := by
    simp [report, String.toList_join, List.flatMap_map, Record.row_eq]
  induction records with
  | nil => exact List.splitOn_nil _
  | cons record records ih =>
    obtain ⟨first, others⟩ := List.forall_mem_cons.mp oneLine
    rw [rows, List.flatMap_cons, List.append_assoc, List.singleton_append,
      List.splitOn_append_cons_self_of_not_mem first.columns, ← rows, ih others]
    rfl

end CommandLine

end Highlighter
