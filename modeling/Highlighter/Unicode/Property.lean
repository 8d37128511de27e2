import Highlighter.Unicode.Age
import Highlighter.Unicode.BinaryProperty
import Highlighter.Unicode.GeneralCategory
import Highlighter.Unicode.Script
import Highlighter.Unicode.Segmentation
import Highlighter.Unicode.WordChars

namespace Highlighter.Unicode

/-- The loose spelling of a name. Letters outside ASCII are dropped; a lone `isc` stays, since `c` is another name. -/
def looseName (name : String) : String :=
  let keep (cs : List Char) : List Char :=
    (cs.filter fun c => c.toNat < 128 && c ≠ ' ' && c ≠ '_' && c ≠ '-').map Char.toLower
  match name.toList with
  | a :: b :: rest =>
    if a.toLower = 'i' && b.toLower = 's' then
      if keep rest = ['c'] then "isc" else String.ofList (keep rest)
    else String.ofList (keep (a :: b :: rest))
  | cs => String.ofList (keep cs)

def category? (name : String) : Option CharSet :=
  if name = "any" then some .all
  else if name = "ascii" then some (.ofRanges [(0, 0x7F)])
  else if name = "assigned" then (NamedSet.find? categoryTable "cn").map (·.compl.diff (.ofRanges [(0xD800, 0xDFFF)]))
  else match categoryGroups.find? fun group => group.1.contains name with
    | some group => some ((group.2.filterMap (NamedSet.find? categoryTable)).foldl CharSet.union .empty)
    | none => NamedSet.find? categoryTable name

def script? (name : String) : Option CharSet := NamedSet.find? scriptTable name

/-- The characters that list a script among theirs. -/
def scriptExtension? (name : String) : Option CharSet := do
  let entry ← scriptTable.find? (·.names.contains name)
  let short := entry.names.headD ""
  let own := CharSet.ofHex entry.ranges
  let more := (NamedSet.find? scriptMore short).getD .empty
  let less := (NamedSet.find? scriptLess short).getD .empty
  return (own.union more).diff less

/-- The characters that stand in the named edition or an older one. -/
def age? (name : String) : Option CharSet :=
  match ageTable.findIdx? fun entry => entry.names.contains name with
  | some i => some ((ageTable.take (i + 1)).foldl (fun acc entry => acc.union (.ofHex entry.ranges)) .empty)
  | none => none

def grapheme? (name : String) : Option CharSet :=
  if name = "lv" then some (hangulSyllables false)
  else if name = "lvt" then some (hangulSyllables true)
  else NamedSet.find? graphemeTable name

/-- The set that a single name selects: a binary property, else a category, else a script. -/
def named? (name : String) : Option CharSet :=
  let name := looseName name
  if name = "sc" || name = "lc" || name = "cf" then category? name
  else (NamedSet.find? propertyTable name).or ((category? name).or (script? name))

/-- The set of a property with a value. -/
def valued? (property value : String) : Option CharSet :=
  let value := looseName value
  match looseName property with
  | "gc" | "generalcategory" | "category" => category? value
  | "sc" | "script" => script? value
  | "scx" | "scriptextensions" => scriptExtension? value
  | "age" => age? value
  | "gcb" | "graphemeclusterbreak" => grapheme? value
  | "wb" | "wordbreak" => NamedSet.find? wordTable value
  | "sb" | "sentencebreak" => NamedSet.find? sentenceTable value
  | _ => none

end Highlighter.Unicode
