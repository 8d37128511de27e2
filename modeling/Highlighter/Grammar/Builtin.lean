import Highlighter.Grammar.Reading

namespace Highlighter.Builtin

def jsonGrammar : String :=
"name: json
scope: source.json
file_types: [json, jsonc]
patterns:
  - match: '//.*$'
    scope: comment.line.double-slash.json
  - begin: '/\\*'
    end: '\\*/'
    scope: comment.block.json
  - match: '\"(?:[^\"\\\\]|\\\\.)*\"\\s*:'
    scope: support.type.property-name.json
  - match: '\"(?:[^\"\\\\]|\\\\.)*\"'
    scope: string.quoted.double.json
  - match: '-?\\b\\d+(?:\\.\\d+)?(?:[eE][+-]?\\d+)?\\b'
    scope: constant.numeric.json
  - match: '\\b(?:true|false)\\b'
    scope: constant.language.boolean.json
  - match: '\\bnull\\b'
    scope: constant.language.null.json
  - match: '[\x7b\x7d\\[\\]]'
    scope: punctuation.section.json
  - match: '[,:]'
    scope: punctuation.separator.json
"

def tomlGrammar : String :=
"name: toml
scope: source.toml
file_types: [toml]
patterns:
  - match: '#.*$'
    scope: comment.line.number-sign.toml
  - match: '^\\s*\\[\\[?[^\\]]+\\]\\]?'
    scope: entity.name.section.toml
  - begin: '\"\"\"'
    end: '\"\"\"'
    scope: string.quoted.triple.basic.block.toml
  - begin: \"'''\"
    end: \"'''\"
    scope: string.quoted.triple.literal.block.toml
  - match: '\"(?:[^\"\\\\]|\\\\.)*\"'
    scope: string.quoted.double.basic.toml
  - match: \"'[^']*'\"
    scope: string.quoted.single.literal.toml
  - match: '[A-Za-z0-9_.-]+\\s*='
    scope: variable.other.key.toml
  - match: '\\b\\d\x7b4\x7d-\\d\x7b2\x7d-\\d\x7b2\x7d(?:[T ]\\d\x7b2\x7d:\\d\x7b2\x7d:\\d\x7b2\x7d(?:\\.\\d+)?(?:Z|[+-]\\d\x7b2\x7d:\\d\x7b2\x7d)?)?\\b'
    scope: constant.other.datetime.toml
  - match: '[+-]?\\b\\d[\\d_]*(?:\\.\\d+)?(?:[eE][+-]?\\d+)?\\b'
    scope: constant.numeric.toml
  - match: '\\b(?:true|false)\\b'
    scope: constant.language.boolean.toml
  - match: '='
    scope: punctuation.definition.keyValue.toml
"

def sources : List String := [jsonGrammar, tomlGrammar]

def definitions : List GrammarDefinition := sources.filterMap fun text => (GrammarDefinition.ofYaml text).toOption

end Highlighter.Builtin
