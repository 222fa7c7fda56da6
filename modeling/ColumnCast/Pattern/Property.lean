import ColumnCast.Pattern.Error
import ColumnCast.Pattern.Tree
import ColumnCast.Text.Basic
import ColumnCast.Text.Category

/-!
# Properties by name

`PropertyQuery.resolve` finds the characters that a question about properties is about. It knows
the general categories, by their short and their long names, and three sets besides: all
characters, the ASCII ones and the assigned ones.
-/

namespace ColumnCast

namespace Pattern

/-- A set of characters. -/
abbrev CharSet := Char → Bool

namespace PropertyQuery

/-- A name without what does not count in it: case, spaces, hyphens, underscores, characters
beyond ASCII, and the word `is` in front. -/
def normalize (name : String) : String :=
  let cs := name.toList
  let hasIs := Text.lower (cs.take 2) = ['i', 's']
  let body := if hasIs then cs.drop 2 else cs
  let kept := body.filter fun c => c ≠ ' ' && c ≠ '_' && c ≠ '-' && c.toNat < 0x80
  let plain := String.ofList (Text.lower kept)
  if hasIs && plain = "c" then "isc" else plain

/-- The names of categories and groups of categories. -/
def categoryNames : List (List String × List Category) :=
  [(["l", "letter"], Category.letters),
    (["lu", "uppercaseletter"], [.upperLetter]), (["ll", "lowercaseletter"], [.lowerLetter]),
    (["lt", "titlecaseletter"], [.titleLetter]),
    (["lc", "casedletter"], [.upperLetter, .lowerLetter, .titleLetter]),
    (["lm", "modifierletter"], [.modifierLetter]), (["lo", "otherletter"], [.otherLetter]),
    (["m", "mark", "combiningmark"], Category.marks),
    (["mn", "nonspacingmark"], [.nonspacingMark]), (["mc", "spacingmark"], [.spacingMark]),
    (["me", "enclosingmark"], [.enclosingMark]),
    (["n", "number"], Category.numbers),
    (["nd", "decimalnumber", "digit"], [.decimalDigit]),
    (["nl", "letternumber"], [.letterNumber]), (["no", "othernumber"], [.otherNumber]),
    (["p", "punctuation", "punct"], Category.punctuation),
    (["pc", "connectorpunctuation"], [.connector]), (["pd", "dashpunctuation"], [.dash]),
    (["ps", "openpunctuation"], [.opening]), (["pe", "closepunctuation"], [.closing]),
    (["pi", "initialpunctuation"], [.initialQuote]),
    (["pf", "finalpunctuation"], [.finalQuote]),
    (["po", "otherpunctuation"], [.otherPunctuation]),
    (["s", "symbol"], Category.symbols),
    (["sm", "mathsymbol"], [.mathSymbol]), (["sc", "currencysymbol"], [.currencySymbol]),
    (["sk", "modifiersymbol"], [.modifierSymbol]), (["so", "othersymbol"], [.otherSymbol]),
    (["z", "separator"], Category.separators),
    (["zs", "spaceseparator"], [.space]), (["zl", "lineseparator"], [.lineSeparator]),
    (["zp", "paragraphseparator"], [.paragraphSeparator]),
    (["c", "other"], Category.others),
    (["cc", "control", "cntrl"], [.control]), (["cf", "format"], [.format]),
    (["co", "privateuse"], [.privateUse]), (["cn", "unassigned"], [.unassigned])]

/-- The characters of a category, or of one of the three other sets, by its name. -/
def category? (name : String) : Option CharSet :=
  match name with
  | "any" => some fun _ => true
  | "ascii" => some fun c => c.toNat < 0x80
  | "assigned" => some fun c => !Category.unassigned.contains c
  | _ =>
    (categoryNames.find? fun entry => entry.1.contains name).map fun entry c =>
      entry.2.any fun k => k.contains c

/-- The names of the category of surrogates, to which no character belongs. -/
def surrogateNames : List String :=
  ["cs", "surrogate"]

/-- The characters that a question is about. -/
def resolve : PropertyQuery → Except Fault CharSet
  | named name =>
    let name := normalize name
    match category? name with
    | some set => .ok set
    | none =>
      .error (if surrogateNames.contains name then .propertyValueUnknown else .propertyUnknown)
  | valued name value =>
    if ["gc", "generalcategory"].contains (normalize name) then
      match category? (normalize value) with
      | some set => .ok set
      | none => .error .propertyValueUnknown
    else .error .propertyUnknown

end PropertyQuery

end Pattern

end ColumnCast
