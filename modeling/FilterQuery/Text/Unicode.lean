import FilterQuery.Text.Unicode.Letter
import FilterQuery.Text.Unicode.Mark
import FilterQuery.Text.Unicode.Number
import FilterQuery.Text.Unicode.Punctuation
import FilterQuery.Text.Unicode.Symbol
import FilterQuery.Text.Unicode.Separator
import FilterQuery.Text.Unicode.Other
import FilterQuery.Text.Unicode.Script
import FilterQuery.Text.Unicode.CaseFold

/-!
# Character properties

General categories and scripts by name, and the characters that are shown as they are.
-/

namespace FilterQuery.Unicode

/-- The general categories with two letters. -/
def categories : List (String × Array Range) := [
  ("Lu", upperLetter), ("Ll", lowerLetter), ("Lt", titleLetter), ("Lm", modifierLetter),
  ("Lo", otherLetter), ("Mn", nonspacingMark), ("Mc", spacingMark), ("Me", enclosingMark),
  ("Nd", decimalDigit), ("Nl", letterNumber), ("No", otherNumber), ("Pc", connector),
  ("Pd", dash), ("Ps", openPunctuation), ("Pe", closePunctuation), ("Pi", initialQuote),
  ("Pf", finalQuote), ("Po", otherPunctuation), ("Sm", mathSymbol), ("Sc", currencySymbol),
  ("Sk", modifierSymbol), ("So", otherSymbol), ("Zs", spaceSeparator), ("Zl", lineSeparator),
  ("Zp", paragraphSeparator), ("Cc", control), ("Cf", format), ("Cs", surrogate),
  ("Co", privateUse)]

/-- The tables of the categories that share a first letter. -/
def categoryClass (major : Char) : List (Array Range) :=
  (categories.filter fun c => c.1.toList.head? == some major).map (·.2)

def categoryNames : List (String × String) := [
  ("Letter", "L"), ("Cased_Letter", "LC"), ("Uppercase_Letter", "Lu"), ("Lowercase_Letter", "Ll"),
  ("Titlecase_Letter", "Lt"), ("Modifier_Letter", "Lm"), ("Other_Letter", "Lo"), ("Mark", "M"),
  ("Combining_Mark", "M"), ("Nonspacing_Mark", "Mn"), ("Spacing_Mark", "Mc"),
  ("Enclosing_Mark", "Me"), ("Number", "N"), ("Decimal_Number", "Nd"), ("digit", "Nd"),
  ("Letter_Number", "Nl"), ("Other_Number", "No"), ("Punctuation", "P"), ("punct", "P"),
  ("Connector_Punctuation", "Pc"), ("Dash_Punctuation", "Pd"), ("Open_Punctuation", "Ps"),
  ("Close_Punctuation", "Pe"), ("Initial_Punctuation", "Pi"), ("Final_Punctuation", "Pf"),
  ("Other_Punctuation", "Po"), ("Symbol", "S"), ("Math_Symbol", "Sm"), ("Currency_Symbol", "Sc"),
  ("Modifier_Symbol", "Sk"), ("Other_Symbol", "So"), ("Separator", "Z"), ("Space_Separator", "Zs"),
  ("Line_Separator", "Zl"), ("Paragraph_Separator", "Zp"), ("Other", "C"), ("Control", "Cc"),
  ("cntrl", "Cc"), ("Format", "Cf"), ("Surrogate", "Cs"), ("Private_Use", "Co"),
  ("Unassigned", "Cn")]

/-- A set of code points: those in one of the tables or, if `others` is set, those in none. -/
structure Property where
  tables : List (Array Range)
  others : Bool := false

def Property.holds (p : Property) (c : Nat) : Bool := p.tables.any (inRanges · c) != p.others

/-- What a name is compared by: its letters, in lower case. Underscores, hyphens and blanks do not
count. -/
def nameKey (name : String) : List Char :=
  (name.toList.filter fun c => !(c == '_' || c == '-' || c == ' ')).map Char.toLower

def findNamed? {α : Type} (name : String) (entries : List (String × α)) : Option α :=
  (entries.find? fun e => nameKey e.1 == nameKey name).map (·.2)

/-- The properties that are unions of categories. A code point without a category belongs to the
class `C`. -/
def unions : List (String × Property) := [
  ("L", ⟨categoryClass 'L', false⟩), ("M", ⟨categoryClass 'M', false⟩),
  ("N", ⟨categoryClass 'N', false⟩), ("P", ⟨categoryClass 'P', false⟩),
  ("S", ⟨categoryClass 'S', false⟩), ("Z", ⟨categoryClass 'Z', false⟩),
  ("C", ⟨['L', 'M', 'N', 'P', 'S', 'Z'].flatMap categoryClass, true⟩),
  ("LC", ⟨[upperLetter, lowerLetter, titleLetter], false⟩),
  ("Cn", ⟨categories.map (·.2), true⟩)]

/-- The code points of a general category, by its short name. -/
def category? (name : String) : Option Property :=
  findNamed? name unions <|> (findNamed? name categories).map fun t => { tables := [t] }

/-- The code points of a property: every one, the assigned ones, those of ASCII, a general category
or a script. -/
def property? (name : String) : Option Property :=
  findNamed? name [
      ("Any", ({ tables := [], others := true } : Property)),
      ("Assigned", { tables := categories.map (·.2) }),
      ("ASCII", { tables := [#[⟨0, 0x7F, 1⟩]] })] <|>
    category? name <|>
    (findNamed? name scripts).map (fun t => { tables := [t] }) <|>
    (findNamed? name categoryNames).bind category?

/-- Whether a character has a shape of its own: letters, marks, numbers, punctuation, symbols and
the blank of ASCII. -/
def isPrintable (c : Char) : Bool :=
  let n := c.toNat
  if n < 0x7F then 0x20 ≤ n
  else (['L', 'M', 'N', 'P', 'S'].flatMap categoryClass).any (inRanges · n)

/-- Whether a character is blank: the six blanks of ASCII, the next line control and the blanks
of category `Z`. -/
def isSpace (c : Char) : Bool :=
  let n := c.toNat
  (0x09 ≤ n && n ≤ 0x0D) || n == 0x20 || n == 0x85 || n == 0xA0 ||
    [spaceSeparator, lineSeparator, paragraphSeparator].any (inRanges · n)

def trimSpace (cs : List Char) : List Char :=
  ((cs.dropWhile isSpace).reverse.dropWhile isSpace).reverse

end FilterQuery.Unicode
