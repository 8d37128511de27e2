import Mathlib.Data.List.Basic
import Mathlib.Tactic.IntervalCases
import Highlighter.CommandLine.Report
import Highlighter.Proofs.Except

namespace Highlighter

/-- A JSON value, where all numbers are natural. -/
inductive Json where
  | null
  | bool (value : Bool)
  | number (value : Nat)
  | text (value : String)
  | list (items : List Json)
  | object (fields : List (String × Json))

namespace Json

/-- A list or an object that goes on after the value that is read. What it has so far is listed backwards. -/
inductive Open where
  | list (items : List Json)
  | object (fields : List (String × Json)) (key : String)

/-- What is expected next. -/
inductive Phase where
  | value
  | key (fields : List (String × Json))
  | colon (fields : List (String × Json)) (key : String)
  | after (value : Json)
  | number (value : Nat)
  | word (rest : List Char) (value : Json)
  /-- Inside quotes, with what has been read backwards. A key has the fields before it. -/
  | text (fields : Option (List (String × Json))) (read : List Char)
  | escape (fields : Option (List (String × Json))) (read : List Char)
  | code (fields : Option (List (String × Json))) (read : List Char) (digits value : Nat)

abbrev State := Phase × List Open

def isBlank (c : Char) : Bool := c = ' ' || c = '\n' || c = '\t' || c = '\x0d'

def digit? (c : Char) : Option Nat := if c.isDigit then some (c.toNat - 48) else none

def hexDigit? (c : Char) : Option Nat :=
  if c.isDigit then some (c.toNat - 48)
  else if 'a' ≤ c ∧ c ≤ 'f' then some (c.toNat - 87)
  else if 'A' ≤ c ∧ c ≤ 'F' then some (c.toNat - 55)
  else none

/-- What a letter after a backslash stands for. -/
def unescape? : Char → Option Char
  | '\"' => some '\"'
  | '\\' => some '\\'
  | '/' => some '/'
  | 'b' => some '\x08'
  | 'f' => some '\x0c'
  | 'n' => some '\n'
  | 'r' => some '\x0d'
  | 't' => some '\t'
  | _ => none

/-- An end of a list that no item has been read of. -/
def endEmpty : List Open → Option State
  | .list [] :: stack => some (.after (.list []), stack)
  | _ => none

/-- The first character of a value. -/
def begin (stack : List Open) (c : Char) : Option State :=
  match c with
  | '\"' => some (.text none [], stack)
  | '[' => some (.value, .list [] :: stack)
  | ']' => endEmpty stack
  | '\x7b' => some (.key [], stack)
  | 'n' => some (.word ['u', 'l', 'l'] .null, stack)
  | 't' => some (.word ['r', 'u', 'e'] (.bool true), stack)
  | 'f' => some (.word ['a', 'l', 's', 'e'] (.bool false), stack)
  | c => (digit? c).map fun n => (.number n, stack)

/-- A character between values, keys and brackets. -/
def between : Phase → List Open → Char → Option State
  | .value, stack, c => begin stack c
  | .key [], stack, '\x7d' => some (.after (.object []), stack)
  | .key fields, stack, '\"' => some (.text (some fields) [], stack)
  | .colon fields key, stack, ':' => some (.value, .object fields key :: stack)
  | .after value, .list items :: stack, ',' => some (.value, .list (value :: items) :: stack)
  | .after value, .list items :: stack, ']' => some (.after (.list (value :: items).reverse), stack)
  | .after value, .object fields key :: stack, ',' => some (.key ((key, value) :: fields), stack)
  | .after value, .object fields key :: stack, '\x7d' =>
    some (.after (.object ((key, value) :: fields).reverse), stack)
  | _, _, _ => none

/-- What a text in quotes was: a value, or the key after some fields. -/
def unquoted (text : String) : Option (List (String × Json)) → Phase
  | none => .after (.text text)
  | some fields => .colon fields text

def step : State → Char → Option State
  | (.text fields read, stack), c =>
    if c = '\"' then some (unquoted (String.ofList read.reverse) fields, stack)
    else if c = '\\' then some (.escape fields read, stack)
    else if c.toNat < 0x20 then none
    else some (.text fields (c :: read), stack)
  | (.escape fields read, stack), c =>
    if c = 'u' then some (.code fields read 0 0, stack)
    else (unescape? c).map fun c => (.text fields (c :: read), stack)
  | (.code fields read digits value, stack), c => do
    let value := 16 * value + (← hexDigit? c)
    if digits < 3 then some (.code fields read (digits + 1) value, stack)
    else if value.isValidChar then some (.text fields (Char.ofNat value :: read), stack)
    else none
  | (.word [] _, _), _ => none
  | (.word [last] value, stack), c => if c = last then some (.after value, stack) else none
  | (.word (letter :: rest) value, stack), c => if c = letter then some (.word rest value, stack) else none
  | (.number value, stack), c =>
    match digit? c with
    | some n => if value = 0 then none else some (.number (10 * value + n), stack)
    | none => if isBlank c then some (.after (.number value), stack) else between (.after (.number value)) stack c
  | (phase, stack), c => if isBlank c then some (phase, stack) else between phase stack c

/-- Reads characters one after another. -/
def run (state : State) (chars : List Char) : Option State := chars.foldlM step state

/-- The value that a text is. -/
def ofText? (text : String) : Option Json :=
  match run (.value, []) text.toList with
  | some (.after value, []) => some value
  | some (.number value, []) => some (.number value)
  | _ => none

variable {stack : List Open}

theorem run_cons (state : State) (c : Char) (chars : List Char) :
    run state (c :: chars) = (step state c).bind (run · chars) := rfl

theorem run_append (state : State) (first second : List Char) :
    run state (first ++ second) = (run state first).bind (run · second) :=
  List.foldlM_append

/-- A text stands for a value if it reads as that value wherever a value is expected, whatever follows that is not
a digit. -/
def Denotes (text : List Char) (value : Json) : Prop :=
  ∀ (stack : List Open) (c : Char) (rest : List Char), digit? c = none →
    run (.value, stack) (text ++ c :: rest) = run (.after value, stack) (c :: rest)

theorem hexDigit?_digitChar : ∀ d < 16, hexDigit? d.digitChar = some d := by
  decide

theorem digit?_digitChar : ∀ d < 10, digit? d.digitChar = some d := by
  decide

/-- A control character is read back from the two digits of its code. -/
theorem run_code (stack : List Open) (fields : Option (List (String × Json))) (read : List Char) {n : Nat}
    (control : n < 0x20) :
    run (.text fields read, stack) ['\\', 'u', '0', '0', (n / 16).digitChar, (n % 16).digitChar] =
      some (.text fields (Char.ofNat n :: read), stack) := by
  have valid : n.isValidChar := .inl (by omega)
  have high := hexDigit?_digitChar (n / 16) (by omega)
  have low := hexDigit?_digitChar (n % 16) (by omega)
  have zero : hexDigit? '0' = some 0 := rfl
  simp [run, step, zero, high, low, valid, Nat.div_add_mod]

/-- Each character is read back from how it is printed inside quotes. -/
theorem run_jsonChar (stack : List Open) (fields : Option (List (String × Json))) (read : List Char) (c : Char) :
    run (.text fields read, stack) (CommandLine.jsonChar c).toList = some (.text fields (c :: read), stack) := by
  unfold CommandLine.jsonChar
  split
  · rfl
  · rfl
  · rfl
  · rfl
  · rfl
  · rfl
  · rfl
  · rename_i quote backslash _ _ _ _ _
    split
    · rename_i control
      have read_back := run_code stack fields read control
      simpa using read_back
    · rename_i plain
      simp [run, step, plain, show c ≠ '\"' from quote, show c ≠ '\\' from backslash]

theorem run_chars (stack : List Open) (fields : Option (List (String × Json))) (read chars rest : List Char) :
    run (.text fields read, stack) ((chars.flatMap fun c => (CommandLine.jsonChar c).toList) ++ '\"' :: rest) =
      run (unquoted (String.ofList (read.reverse ++ chars)) fields, stack) rest := by
  induction chars generalizing read with
  | nil => simp [run_cons, step]
  | cons c chars ih =>
    rw [List.flatMap_cons, List.append_assoc, run_append, run_jsonChar, Option.bind_some, ih]
    simp

theorem toList_jsonText (text : String) :
    (CommandLine.jsonText text).toList =
      '\"' :: (text.toList.flatMap fun c => (CommandLine.jsonChar c).toList) ++ ['\"'] := by
  simp [CommandLine.jsonText, String.toList_join, List.flatMap_map]

theorem denotes_jsonText (text : String) : Denotes (CommandLine.jsonText text).toList (.text text) := by
  intro stack c rest _
  have quoted := run_chars stack none [] text.toList (c :: rest)
  simpa [toList_jsonText, run_cons, step, between, begin, isBlank, unquoted] using quoted

theorem denotes_null : Denotes "null".toList .null := by
  intro stack c rest _
  simp [run_cons, step, between, begin, isBlank]

theorem begin_digitChar (d : Nat) (small : d < 10) : step (.value, stack) d.digitChar = some (.number d, stack) := by
  interval_cases d <;> rfl

/-- A number is read back from its digits. -/
theorem run_digits (n : Nat) : run (.value, stack) (Nat.toDigits 10 n) = some (.number n, stack) := by
  induction n using Nat.strongRecOn with
  | ind n ih =>
    by_cases small : n < 10
    · rw [Nat.toDigits_of_lt_base small]
      simp [run, begin_digitChar n small]
    · have split := Nat.toDigits_append_toDigits (b := 10) (n := n / 10) (d := n % 10) (by omega) (by omega) (by omega)
      have last := digit?_digitChar (n % 10) (by omega)
      have positive : n / 10 ≠ 0 := by omega
      rw [Nat.div_add_mod] at split
      rw [← split, run_append, ih _ (by omega), Nat.toDigits_of_lt_base (Nat.mod_lt n (by omega))]
      simp [run, step, last, positive, Nat.div_add_mod]

theorem denotes_number (n : Nat) : Denotes (toString n).toList (.number n) := by
  intro stack c rest ended
  have digits : (toString n).toList = Nat.toDigits 10 n := by
    rw [Nat.toString_eq_repr, Nat.repr_eq_ofList_toDigits, String.toList_ofList]
  rw [digits, run_append, run_digits, Option.bind_some]
  simp only [run_cons, step, ended]

/-- The start of a line at the given depth. -/
def margin (depth : Nat) : List Char := '\n' :: List.replicate (2 * depth) ' '

/-- What follows the first item of a block. -/
def tail (depth : Nat) (closing : String) : List String → List Char
  | [] => margin depth ++ closing.toList
  | item :: items => ',' :: (margin (depth + 1) ++ (item.toList ++ tail depth closing items))

theorem toList_jsonBlock_cons (opening closing : String) (depth : Nat) (item : String) (items : List String) :
    (CommandLine.jsonBlock opening closing depth (item :: items)).toList =
      opening.toList ++ (margin (depth + 1) ++ (item.toList ++ tail depth closing items)) := by
  have lines (item : String) (items : List String) :
      [','].intercalate ((item :: items).map fun item => margin (depth + 1) ++ item.toList) ++
          (margin depth ++ closing.toList) =
        margin (depth + 1) ++ (item.toList ++ tail depth closing items) := by
    induction items generalizing item with
    | nil => simp [tail, List.intercalate]
    | cons next items ih => simp_all [tail, List.intercalate_cons_cons]
  rw [← lines]
  simp only [CommandLine.jsonBlock, String.toList_append, String.toList_intercalate, List.map_map, Function.comp_def,
    List.isEmpty_cons, Bool.false_eq_true, if_false, margin, String.toList_ofList, List.append_assoc]
  rfl

/-- Blanks are passed over where no text, number or word is being read. -/
theorem run_margin {state : State} (passed : ∀ c, isBlank c → step state c = some state) (depth : Nat)
    (rest : List Char) : run state (margin depth ++ rest) = run state rest := by
  have spaces (n : Nat) : run state (List.replicate n ' ' ++ rest) = run state rest := by
    induction n with
    | zero => rfl
    | succ n ih => rw [List.replicate_succ, List.cons_append, run_cons, passed ' ' rfl, Option.bind_some, ih]
  rw [margin, List.cons_append, run_cons, passed '\n' rfl, Option.bind_some, spaces]

/-- What follows an item does not start with a digit. -/
theorem tail_starts (depth : Nat) (closing : String) (items : List String) (rest : List Char) :
    ∃ c after, digit? c = none ∧ tail depth closing items ++ rest = c :: after := by
  cases items <;> exact ⟨_, _, rfl, rfl⟩

/-- How a list or an object is read. An item is expected after a comma, and what has been read before it is listed
backwards. -/
structure Block (β : Type) (stack : List Open) where
  opening : Char
  closing : Char
  expecting : List β → State
  after : List β → β → State
  close : List β → Json
  expecting_blank : ∀ known c, isBlank c → step (expecting known) c = some (expecting known)
  after_blank : ∀ known last c, isBlank c → step (after known last) c = some (after known last)
  opens : step (.value, stack) opening = some (expecting [])
  empty : step (expecting []) closing = some (.after (close []), stack)
  comma : ∀ known last, step (after known last) ',' = some (expecting (last :: known))
  closes : ∀ known last, step (after known last) closing = some (.after (close (last :: known).reverse), stack)

namespace Block

/-- A list opens and closes with a bracket, and its items are values. -/
def list (stack : List Open) : Block Json stack where
  opening := '['
  closing := ']'
  expecting known := (.value, .list known :: stack)
  after known last := (.after last, .list known :: stack)
  close := .list
  expecting_blank known c blank := by simp [step, blank]
  after_blank known last c blank := by simp [step, blank]
  opens := rfl
  empty := rfl
  comma _ _ := rfl
  closes _ _ := rfl

/-- An object opens and closes with a brace, and its items are keys with values. -/
def object (stack : List Open) : Block (String × Json) stack where
  opening := '\x7b'
  closing := '\x7d'
  expecting known := (.key known, stack)
  after known last := (.after last.2, .object known last.1 :: stack)
  close := .object
  expecting_blank known c blank := by simp [step, blank]
  after_blank known last c blank := by simp [step, blank]
  opens := rfl
  empty := rfl
  comma _ _ := rfl
  closes _ _ := rfl

variable {β : Type} (b : Block β stack)

/-- A text stands for an item if it reads as that item wherever one is expected. -/
def Denotes (text : List Char) (item : β) : Prop :=
  ∀ (known : List β) (c : Char) (rest : List Char), digit? c = none →
    run (b.expecting known) (text ++ c :: rest) = run (b.after known item) (c :: rest)

variable {items : List String} {values : List β}
  (denoted : List.Forall₂ (fun item value => b.Denotes item.toList value) items values) {opening closing : String}
  (closed : closing.toList = [b.closing])

include denoted closed

/-- The items after the first are added to what is open, until it is closed. -/
theorem run_tail (depth : Nat) (known : List β) (last : β) (rest : List Char) :
    run (b.after known last) (tail depth closing items ++ rest) =
      run (.after (b.close (known.reverse ++ last :: values)), stack) rest := by
  induction denoted generalizing known last with
  | nil =>
    rw [tail, List.append_assoc, run_margin (b.after_blank known last), closed, List.singleton_append, run_cons,
      b.closes, Option.bind_some, List.reverse_cons]
  | @cons item value items values first others ih =>
    obtain ⟨c, after, ended, starts⟩ := tail_starts depth closing items rest
    simp only [tail, List.cons_append, List.append_assoc, run_cons, b.comma, Option.bind_some]
    rw [run_margin (b.expecting_blank _), starts, first _ c after ended, ← starts, ih]
    simp

theorem run_block (opened : opening.toList = [b.opening]) (depth : Nat) (rest : List Char) :
    run (.value, stack) ((CommandLine.jsonBlock opening closing depth items).toList ++ rest) =
      run (.after (b.close values), stack) rest := by
  cases denoted with
  | nil => simp [CommandLine.jsonBlock, opened, closed, run_cons, b.opens, b.empty]
  | @cons item value items values first others =>
    obtain ⟨next, after, ended, starts⟩ := tail_starts depth closing items rest
    simp only [toList_jsonBlock_cons, opened, List.cons_append, List.nil_append, List.append_assoc, run_cons, b.opens,
      Option.bind_some]
    rw [run_margin (b.expecting_blank []), starts, first _ next after ended, ← starts, b.run_tail others closed]
    rfl

end Block

theorem denotes_list (depth : Nat) {items : List String} {values : List Json}
    (denoted : List.Forall₂ (fun item value => Denotes item.toList value) items values) :
    Denotes (CommandLine.jsonBlock "[" "]" depth items).toList (.list values) := by
  intro stack c rest _
  have each : List.Forall₂ (fun item value => (Block.list stack).Denotes item.toList value) items values :=
    denoted.imp fun _ _ denotes known => denotes (.list known :: stack)
  exact (Block.list stack).run_block each rfl rfl depth (c :: rest)

theorem denotes_object (depth : Nat) {items : List String} {values : List (String × Json)}
    (denoted : List.Forall₂ (fun item value => ∀ stack, (Block.object stack).Denotes item.toList value) items values) :
    Denotes (CommandLine.jsonBlock "\x7b" "\x7d" depth items).toList (.object values) := by
  intro stack c rest _
  have each : List.Forall₂ (fun item value => (Block.object stack).Denotes item.toList value) items values :=
    denoted.imp fun _ _ denotes => denotes stack
  exact (Block.object stack).run_block each rfl rfl depth (c :: rest)

/-- A field is printed as its key in quotes, a colon and its value. -/
theorem denotes_field {key label text : String} {value : Json} (labelled : label = CommandLine.jsonText key ++ ": ")
    (denotes : Denotes text.toList value) (stack : List Open) :
    (Block.object stack).Denotes (label ++ text).toList (key, value) := by
  intro known c rest ended
  have quoted := run_chars stack (some known) [] key.toList (':' :: ' ' :: text.toList ++ c :: rest)
  have colon : run (.colon known key, stack) (':' :: ' ' :: text.toList ++ c :: rest) =
      run (.value, .object known key :: stack) (text.toList ++ c :: rest) := by
    simp [run_cons, step, between, isBlank]
  have read : run (.key known, stack) ((label ++ text).toList ++ c :: rest) =
      run (.value, .object known key :: stack) (text.toList ++ c :: rest) := by
    rw [← colon, labelled]
    simpa [toList_jsonText, run_cons, step, between, isBlank, unquoted] using quoted
  exact read.trans (denotes (.object known key :: stack) c rest ended)

/-- A text that denotes a value, with a line feed after it, is read as that value. -/
theorem ofText?_of_denotes {text : String} {value : Json} (denotes : Denotes text.toList value) :
    ofText? (text ++ "\n") = some value := by
  have line : run (.after value, []) ['\n'] = some (.after value, []) := rfl
  have read : run (.value, []) (text ++ "\n").toList = some (.after value, []) := by
    rw [String.toList_append, ← line]
    exact denotes [] '\n' [] rfl
  rw [ofText?, read]

end Json

end Highlighter
