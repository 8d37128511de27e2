import Highlighter.Grammar.Rules
import Highlighter.Yaml.Fields

namespace Highlighter

open Yaml

def RuleDefinition.read (document : Document) (node : Node) : Except Problem RuleDefinition := do
  let fields ← document.fields ["match", "begin", "end", "scope"] node
  return {
    pattern := ← optional fields "match" none document.optionalText
    opening := ← optional fields "begin" none document.optionalText
    closing := ← optional fields "end" none document.optionalText
    scope := ← required fields "scope" document.text }

def GrammarDefinition.read (text : String) : Except Problem GrammarDefinition :=
  readRecord text ["name", "scope", "file_types", "patterns"] fun document fields => do
    return {
      name := ← required fields "name" document.text
      scope := ← required fields "scope" document.text
      fileTypes := ← optional fields "file_types" [] (document.list document.text)
      patterns := ← optional fields "patterns" [] (document.list (RuleDefinition.read document)) }

def GrammarDefinition.ofYaml (text : String) : Except GrammarError GrammarDefinition :=
  (GrammarDefinition.read text).mapError fun problem => .malformed problem.message

def RuleGrammar.ofYaml (text : String) : Except GrammarError RuleGrammar := do
  (← GrammarDefinition.ofYaml text).compile

end Highlighter
