import Highlighter.Token

namespace Highlighter.CommandLine

/-- A token with the group that it is highlighted as. -/
structure Record where
  token : Token
  group : Option String
deriving DecidableEq, Repr

/-- The place of the token, its group or a hyphen, and its scopes, with tabs between. -/
def Record.row (record : Record) : String :=
  s!"{record.token.line}:{record.token.column}+{record.token.length}\t" ++ record.group.getD "-" ++ "\t"
    ++ " ".intercalate record.token.scopes ++ "\n"

def jsonChar (c : Char) : String :=
  match c with
  | '\"' => "\\\""
  | '\\' => "\\\\"
  | '\n' => "\\n"
  | '\r' => "\\r"
  | '\t' => "\\t"
  | '\x08' => "\\b"
  | '\x0c' => "\\f"
  | c =>
    if c.toNat < 0x20 then "\\u00" ++ String.ofList [Nat.digitChar (c.toNat / 16), Nat.digitChar (c.toNat % 16)]
    else c.toString

def jsonText (text : String) : String := "\"" ++ String.join (text.toList.map jsonChar) ++ "\""

/-- Items between brackets, a line each at the given depth. -/
def jsonBlock (opening closing : String) (depth : Nat) (items : List String) : String :=
  let line (depth : Nat) : String := "\n" ++ String.ofList (List.replicate (2 * depth) ' ')
  if items.isEmpty then opening ++ closing
  else opening ++ ",".intercalate (items.map (line (depth + 1) ++ ·)) ++ line depth ++ closing

def Record.json (depth : Nat) (record : Record) : String :=
  jsonBlock "\x7b" "\x7d" depth
    [s!"\"line\": {record.token.line}",
     s!"\"column\": {record.token.column}",
     s!"\"length\": {record.token.length}",
     "\"scopes\": " ++ jsonBlock "[" "]" (depth + 1) (record.token.scopes.map jsonText),
     "\"group\": " ++ (record.group.map jsonText).getD "null"]

def report (asJson : Bool) (records : List Record) : String :=
  if asJson then jsonBlock "[" "]" 0 (records.map (Record.json 1)) ++ "\n" else String.join (records.map Record.row)

end Highlighter.CommandLine
