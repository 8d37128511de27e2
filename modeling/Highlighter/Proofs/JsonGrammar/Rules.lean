import Highlighter.Grammar.Builtin
import Highlighter.Proofs.Except
import Highlighter.Proofs.Pattern.Compiled

namespace Highlighter.JsonGrammar

open Pattern

/-- All characters but a line feed. -/
def inLine : CharSet := ⟨[(0, 0x9), (0xB, 0x10FFFF)]⟩

/-- What stands for itself in a text: all characters but quotes and backslashes. -/
def plain : CharSet := ⟨[(0, 0x21), (0x23, 0x5B), (0x5D, 0x10FFFF)]⟩

def digits : Regex := .rep 1 none true (.oneOf Unicode.digitChars)

def optional (r : Regex) : Regex := .rep 0 (some 1) true r

def symbol : Regex := .alt (.oneOf plain) (.seq (.literal ['\\']) (.oneOf inLine))

def textBody : Regex := .rep 0 none true symbol

def lineComment : Regex := .seq (.literal ['/', '/']) (.seq (.rep 0 none true (.oneOf inLine)) (.look .textEnd))

def commentOpening : Regex := .literal ['/', '*']

def commentClosing : Regex := .literal ['*', '/']

def key : Regex :=
  .seq (.literal ['\"']) (.seq textBody (.seq (.literal ['\"'])
    (.seq (.rep 0 none true (.oneOf Unicode.spaceChars)) (.literal [':']))))

def text : Regex := .seq (.literal ['\"']) (.seq textBody (.literal ['\"']))

def number : Regex :=
  .seq (optional (.literal ['-'])) (.seq (.look (.word false)) (.seq digits
    (.seq (optional (.seq (.literal ['.']) digits))
      (.seq (optional (.seq (.oneOf ⟨[(0x45, 0x45), (0x65, 0x65)]⟩)
        (.seq (optional (.oneOf ⟨[(0x2B, 0x2B), (0x2D, 0x2D)]⟩)) digits))) (.look (.word false))))))

def word (r : Regex) : Regex := .seq (.look (.word false)) (.seq r (.look (.word false)))

def boolean : Regex := word (.alt (.literal ['t', 'r', 'u', 'e']) (.literal ['f', 'a', 'l', 's', 'e']))

def null : Regex := word (.literal ['n', 'u', 'l', 'l'])

def section_ : Regex := .oneOf ⟨[(0x5B, 0x5B), (0x5D, 0x5D), (0x7B, 0x7B), (0x7D, 0x7D)]⟩

def separator : Regex := .oneOf ⟨[(0x2C, 0x2C), (0x3A, 0x3A)]⟩

def pattern (source : String) (r : Regex) : Pattern := ⟨source, r.automaton⟩

def definition : GrammarDefinition :=
  ⟨"json", "source.json", ["json", "jsonc"], [
    ⟨some "//.*$", none, none, "comment.line.double-slash.json"⟩,
    ⟨none, some "/\\*", some "\\*/", "comment.block.json"⟩,
    ⟨some "\"(?:[^\"\\\\]|\\\\.)*\"\\s*:", none, none, "support.type.property-name.json"⟩,
    ⟨some "\"(?:[^\"\\\\]|\\\\.)*\"", none, none, "string.quoted.double.json"⟩,
    ⟨some "-?\\b\\d+(?:\\.\\d+)?(?:[eE][+-]?\\d+)?\\b", none, none, "constant.numeric.json"⟩,
    ⟨some "\\b(?:true|false)\\b", none, none, "constant.language.boolean.json"⟩,
    ⟨some "\\bnull\\b", none, none, "constant.language.null.json"⟩,
    ⟨some "[\x7b\x7d\\[\\]]", none, none, "punctuation.section.json"⟩,
    ⟨some "[,:]", none, none, "punctuation.separator.json"⟩]⟩

def rules : List Rule := [
  .single (pattern "//.*$" lineComment) "comment.line.double-slash.json",
  .block (pattern "/\\*" commentOpening) (pattern "\\*/" commentClosing) "comment.block.json",
  .single (pattern "\"(?:[^\"\\\\]|\\\\.)*\"\\s*:" key) "support.type.property-name.json",
  .single (pattern "\"(?:[^\"\\\\]|\\\\.)*\"" text) "string.quoted.double.json",
  .single (pattern "-?\\b\\d+(?:\\.\\d+)?(?:[eE][+-]?\\d+)?\\b" number) "constant.numeric.json",
  .single (pattern "\\b(?:true|false)\\b" boolean) "constant.language.boolean.json",
  .single (pattern "\\bnull\\b" null) "constant.language.null.json",
  .single (pattern "[\x7b\x7d\\[\\]]" section_) "punctuation.section.json",
  .single (pattern "[,:]" separator) "punctuation.separator.json"]

def grammar : RuleGrammar := ⟨"json", "source.json", rules⟩

-- The kernel reads the characters of the document. It takes them from the text as a list at once, where it would go
-- through its bytes for each of them otherwise.
set_option maxRecDepth 20000 in
theorem ofYaml_definition : GrammarDefinition.ofYaml Builtin.jsonGrammar = .ok definition := by
  obtain ⟨chars, same, read⟩ : ∃ chars, Builtin.jsonGrammar = String.ofList chars ∧
      (GrammarDefinition.ofYaml (String.ofList chars)).toOption = some definition := by
    refine ⟨_, rfl, ?_⟩
    simp only [GrammarDefinition.ofYaml, GrammarDefinition.read, Yaml.readRecord, Yaml.Document.read,
      Yaml.Token.read, Yaml.Glyph.ofText, String.toList_ofList]
    decide +kernel
  rw [same]
  exact eq_ok_of_toOption read

theorem compilePattern_eq {source : String} {r : Regex}
    (read : (do (← Pattern.Tree.read source).regex).toOption = some r) (fits : r.fits) :
    compilePattern source = .ok (pattern source r) := by
  rw [compilePattern, compile_of_regex (eq_ok_of_toOption read) fits]
  rfl

theorem compile_single {source scope root : String} {r : Regex}
    (read : (do (← Pattern.Tree.read source).regex).toOption = some r) (fits : r.fits) :
    (RuleDefinition.mk (some source) none none scope).compile root = .ok (.single (pattern source r) scope) := by
  simp only [RuleDefinition.compile, compilePattern_eq read fits]
  rfl

theorem compile_block {source other scope root : String} {r s : Regex}
    (opening : (do (← Pattern.Tree.read source).regex).toOption = some r) (fits : r.fits)
    (closing : (do (← Pattern.Tree.read other).regex).toOption = some s) (also : s.fits) :
    (RuleDefinition.mk none (some source) (some other) scope).compile root =
      .ok (.block (pattern source r) (pattern other s) scope) := by
  simp only [RuleDefinition.compile, compilePattern_eq opening fits, compilePattern_eq closing also]
  rfl

theorem mergeSort_pair {α : Type} (le : α → α → Bool) (a b : α) :
    [a, b].mergeSort le = if le a b then [a, b] else [b, a] := by
  simp [List.mergeSort, List.MergeSort.Internal.splitInTwo, List.merge]

def booleans : List (List Char) := [['t', 'r', 'u', 'e'], ['f', 'a', 'l', 's', 'e']]

-- A choice of words is measured by sorting them, which the kernel does not unfold.
theorem literalsSize_booleans (backwards : Bool) : literalsSize backwards booleans ≤ 400 := by
  have asBytes : booleans.map (fun chars => (String.ofList chars).toUTF8.toList) =
      [[116, 114, 117, 101], [102, 97, 108, 115, 101]] := by decide +kernel
  cases backwards with
  | false =>
    simp only [literalsSize, asBytes, mergeSort_pair, if_neg Bool.false_ne_true]
    decide +kernel
  | true =>
    simp only [literalsSize, asBytes, List.map_cons, List.map_nil, mergeSort_pair, if_true]
    decide +kernel

theorem wholeSize_boolean (setSize : CharSet → Nat) (backwards : Bool) :
    boolean.wholeSize setSize backwards ≤ Regex.sizeLimit := by
  have words := literalsSize_booleans backwards
  have literals : (Regex.alt (.literal ['t', 'r', 'u', 'e']) (.literal ['f', 'a', 'l', 's', 'e'])).branches.mapM
      Regex.literal? = some booleans := rfl
  simp only [boolean, word, Regex.wholeSize, Regex.sizes, Regex.sizes.alone, literals, unionSize, stateSize, rangesSize,
    Regex.sizeLimit]
  split <;> omega

theorem fits_boolean : boolean.fits := by
  simp [Regex.fits, wholeSize_boolean]

theorem compile_definition : definition.compile = .ok grammar := by
  have each : List.Forall₂ (fun rule compiled => RuleDefinition.compile rule "source.json" = .ok compiled)
      definition.patterns rules :=
    .cons (compile_single (by decide +kernel) rfl) <|
    .cons (compile_block (by decide +kernel) rfl (by decide +kernel) rfl) <|
    .cons (compile_single (by decide +kernel) rfl) <|
    .cons (compile_single (by decide +kernel) rfl) <|
    .cons (compile_single (by decide +kernel) rfl) <|
    .cons (compile_single (by decide +kernel) fits_boolean) <|
    .cons (compile_single (by decide +kernel) rfl) <|
    .cons (compile_single (by decide +kernel) rfl) <|
    .cons (compile_single (by decide +kernel) rfl) .nil
  have compiled : (definition.patterns.mapM fun rule => rule.compile definition.scope) = .ok rules :=
    mapM_of_forall₂ each
  rw [GrammarDefinition.compile, compiled, ok_bind]
  rfl

/-- The JSON grammar that the library brings along is compiled to these rules. -/
theorem ofYaml_jsonGrammar : RuleGrammar.ofYaml Builtin.jsonGrammar = .ok grammar := by
  rw [RuleGrammar.ofYaml, ofYaml_definition, ok_bind, compile_definition]

end Highlighter.JsonGrammar
