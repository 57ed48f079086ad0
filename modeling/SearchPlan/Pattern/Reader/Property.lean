import SearchPlan.Pattern.CharSet
import SearchPlan.Text.Alphabetic
import SearchPlan.Text.Script

/-! Sets of characters by the name of a property: a category, a script, or one of a few others. -/

namespace SearchPlan.Pattern.Reader

open Text (Category)

def letters : List Category :=
  [.uppercaseLetter, .lowercaseLetter, .titlecaseLetter, .modifierLetter, .otherLetter]

def marks : List Category := [.nonspacingMark, .spacingMark, .enclosingMark]

def numbers : List Category := [.decimalNumber, .letterNumber, .otherNumber]

def punctuation : List Category :=
  [.connectorPunctuation, .dashPunctuation, .openPunctuation, .closePunctuation,
    .initialPunctuation, .finalPunctuation, .otherPunctuation]

def symbols : List Category := [.mathSymbol, .currencySymbol, .modifierSymbol, .otherSymbol]

def separators : List Category := [.spaceSeparator, .lineSeparator, .paragraphSeparator]

def ofCategories (cs : List Category) : CharSet := .ofRanges (cs.flatMap Category.ranges)

/-- What has a category. -/
def assigned : CharSet :=
  ofCategories (letters ++ marks ++ numbers ++ punctuation ++ symbols ++ separators
    ++ [.control, .format, .privateUse])

/-- The code points that only stand for halves of a pair, and are no characters. -/
def halves : CharSet := ⟨[(0xd800, 0xdfff)]⟩

def unassigned : CharSet := (assigned.union halves).compl

/-- A name as it is compared: in small letters, without blanks, hyphens, low lines and a leading `is`,
except that `isc` does not become `c`. -/
def plainName (cs : List Char) : String :=
  let cs' := match cs with
    | i :: s :: rest => if i.toLower = 'i' ∧ s.toLower = 's' then rest else cs
    | _ => cs
  let kept := ((cs'.filter fun c => c ∉ [' ', '-', '_'] && c.toNat < 128).map Char.toLower)
  if cs' ≠ cs ∧ kept = ['c'] then "isc" else String.ofList kept

def categorySet? : String → Option CharSet
  | "any" => some .any
  | "ascii" => some ⟨[(0, 127)]⟩
  | "assigned" => some unassigned.compl
  | "c" | "other" => some (unassigned.union (ofCategories [.control, .format, .privateUse]))
  | "cc" | "control" | "cntrl" => some (ofCategories [.control])
  | "cf" | "format" => some (ofCategories [.format])
  | "cn" | "unassigned" => some unassigned
  | "co" | "privateuse" => some (ofCategories [.privateUse])
  | "l" | "letter" => some (ofCategories letters)
  | "lc" | "casedletter" =>
    some (ofCategories [.uppercaseLetter, .lowercaseLetter, .titlecaseLetter])
  | "ll" | "lowercaseletter" => some (ofCategories [.lowercaseLetter])
  | "lm" | "modifierletter" => some (ofCategories [.modifierLetter])
  | "lo" | "otherletter" => some (ofCategories [.otherLetter])
  | "lt" | "titlecaseletter" => some (ofCategories [.titlecaseLetter])
  | "lu" | "uppercaseletter" => some (ofCategories [.uppercaseLetter])
  | "m" | "mark" | "combiningmark" => some (ofCategories marks)
  | "mc" | "spacingmark" => some (ofCategories [.spacingMark])
  | "me" | "enclosingmark" => some (ofCategories [.enclosingMark])
  | "mn" | "nonspacingmark" => some (ofCategories [.nonspacingMark])
  | "n" | "number" => some (ofCategories numbers)
  | "nd" | "decimalnumber" | "digit" => some (ofCategories [.decimalNumber])
  | "nl" | "letternumber" => some (ofCategories [.letterNumber])
  | "no" | "othernumber" => some (ofCategories [.otherNumber])
  | "p" | "punctuation" | "punct" => some (ofCategories punctuation)
  | "pc" | "connectorpunctuation" => some (ofCategories [.connectorPunctuation])
  | "pd" | "dashpunctuation" => some (ofCategories [.dashPunctuation])
  | "pe" | "closepunctuation" => some (ofCategories [.closePunctuation])
  | "pf" | "finalpunctuation" => some (ofCategories [.finalPunctuation])
  | "pi" | "initialpunctuation" => some (ofCategories [.initialPunctuation])
  | "po" | "otherpunctuation" => some (ofCategories [.otherPunctuation])
  | "ps" | "openpunctuation" => some (ofCategories [.openPunctuation])
  | "s" | "symbol" => some (ofCategories symbols)
  | "sc" | "currencysymbol" => some (ofCategories [.currencySymbol])
  | "sk" | "modifiersymbol" => some (ofCategories [.modifierSymbol])
  | "sm" | "mathsymbol" => some (ofCategories [.mathSymbol])
  | "so" | "othersymbol" => some (ofCategories [.otherSymbol])
  | "z" | "separator" => some (ofCategories separators)
  | "zl" | "lineseparator" => some (ofCategories [.lineSeparator])
  | "zp" | "paragraphseparator" => some (ofCategories [.paragraphSeparator])
  | "zs" | "spaceseparator" => some (ofCategories [.spaceSeparator])
  | _ => none

/-- Properties that a character has or has not. -/
def propertySet? : String → Option CharSet
  | "alphabetic" | "alpha" => some (CharSet.inter ⟨Text.alphabeticRanges⟩ assigned)
  | "lowercase" | "lower" =>
    some (.union (ofCategories [.lowercaseLetter]) ⟨Text.otherLowercase⟩)
  | "uppercase" | "upper" =>
    some (.union (ofCategories [.uppercaseLetter]) ⟨Text.otherUppercase⟩)
  | "whitespace" | "wspace" | "space" => some .blank
  | "emoji" => some ⟨Text.emojiRanges⟩
  | _ => none

/-- Two scripts have a second short name. -/
def scriptSet? (name : String) : Option CharSet :=
  let name := match name with
    | "qaac" => "copt"
    | "qaai" => "zinh"
    | name => name
  (Text.scripts.find? fun s => s.code = name || s.name = name).map fun s => ⟨s.ranges⟩

/-- The set that a name stands for by itself. -/
def namedSet? (cs : List Char) : Option CharSet :=
  let name := plainName cs
  propertySet? name <|> categorySet? name <|> scriptSet? name

/-- The set that a value stands for, of the property that a name stands for. -/
def valueSet? (property value : List Char) : Option CharSet :=
  match plainName property with
  | "gc" | "generalcategory" => categorySet? (plainName value)
  | "sc" | "script" => scriptSet? (plainName value)
  | _ => none

/-- The set for what stands in the braces, and whether it is negated. -/
def bracedSet? (cs : List Char) : Option (CharSet × Bool) :=
  match cs.span fun c => c ≠ ':' && c ≠ '=' with
  | (name, '=' :: value) =>
    if name.getLast? = some '!' then (valueSet? name.dropLast value).map (·, true)
    else (valueSet? name value).map (·, false)
  | (name, _ :: value) => (valueSet? name value).map (·, false)
  | (name, []) => (namedSet? name).map (·, false)

end SearchPlan.Pattern.Reader
