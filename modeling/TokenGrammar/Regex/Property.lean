import TokenGrammar.Text.Age
import TokenGrammar.Text.Boundary

/-!
# Named character properties

A property of characters is named by a property of two values, a general category or a script, or
by the name of a property together with one of its values. Names are compared loosely: case,
blanks, hyphens, underscores and "is" in front do not count.

* `Property.ofName?`: the set of the characters with a property.
-/

namespace TokenGrammar.Property

open Text (Category CharSet categorySet)

/-- A name without what does not count. -/
def loose (name : String) : String :=
  let cs := name.toList
  let (is, body) := match cs with
    | a :: b :: rest => if a.toLower = 'i' ∧ b.toLower = 's' then (true, rest) else (false, cs)
    | _ => (false, cs)
  let kept :=
    (body.filter fun c => c.toNat < 0x80 && c ≠ ' ' && c ≠ '_' && c ≠ '-').map Char.toLower
  if is ∧ kept = ['c'] then "isc" else .ofList kept

/-- The categories with their names, in short and at length. -/
def categoryNames : List (List String × List Category) :=
  [(["lu", "uppercaseletter"], [.uppercaseLetter]),
    (["ll", "lowercaseletter"], [.lowercaseLetter]),
    (["lt", "titlecaseletter"], [.titlecaseLetter]),
    (["lc", "casedletter"], [.uppercaseLetter, .lowercaseLetter, .titlecaseLetter]),
    (["lm", "modifierletter"], [.modifierLetter]),
    (["lo", "otherletter"], [.otherLetter]),
    (["l", "letter"],
      [.uppercaseLetter, .lowercaseLetter, .titlecaseLetter, .modifierLetter, .otherLetter]),
    (["mn", "nonspacingmark"], [.nonspacingMark]),
    (["mc", "spacingmark"], [.spacingMark]),
    (["me", "enclosingmark"], [.enclosingMark]),
    (["m", "mark", "combiningmark"], [.nonspacingMark, .spacingMark, .enclosingMark]),
    (["nd", "decimalnumber", "digit"], [.decimalNumber]),
    (["nl", "letternumber"], [.letterNumber]),
    (["no", "othernumber"], [.otherNumber]),
    (["n", "number"], [.decimalNumber, .letterNumber, .otherNumber]),
    (["pc", "connectorpunctuation"], [.connectorPunctuation]),
    (["pd", "dashpunctuation"], [.dashPunctuation]),
    (["ps", "openpunctuation"], [.openPunctuation]),
    (["pe", "closepunctuation"], [.closePunctuation]),
    (["pi", "initialpunctuation"], [.initialPunctuation]),
    (["pf", "finalpunctuation"], [.finalPunctuation]),
    (["po", "otherpunctuation"], [.otherPunctuation]),
    (["p", "punctuation", "punct"],
      [.connectorPunctuation, .dashPunctuation, .openPunctuation, .closePunctuation,
        .initialPunctuation, .finalPunctuation, .otherPunctuation]),
    (["sm", "mathsymbol"], [.mathSymbol]),
    (["sc", "currencysymbol"], [.currencySymbol]),
    (["sk", "modifiersymbol"], [.modifierSymbol]),
    (["so", "othersymbol"], [.otherSymbol]),
    (["s", "symbol"], [.mathSymbol, .currencySymbol, .modifierSymbol, .otherSymbol]),
    (["zs", "spaceseparator"], [.spaceSeparator]),
    (["zl", "lineseparator"], [.lineSeparator]),
    (["zp", "paragraphseparator"], [.paragraphSeparator]),
    (["z", "separator"], [.spaceSeparator, .lineSeparator, .paragraphSeparator]),
    (["cc", "control", "cntrl"], [.control]),
    (["cf", "format"], [.format]),
    (["co", "privateuse"], [.privateUse]),
    (["cn", "unassigned"], [.unassigned]),
    (["c", "other"], [.control, .format, .surrogate, .privateUse, .unassigned])]

/-- The set that is stored under one of several names. -/
def lookup? (name : String) (table : List (List String × Thunk CharSet)) : Option CharSet :=
  (table.find? (·.1.contains name)).map (·.2.get)

/-- The characters of a general category. -/
def ofCategory? (name : String) : Option CharSet :=
  if name = "any" then some .all
  else if name = "assigned" then some (categorySet (· = .unassigned)).complement
  else if name = "ascii" then some (.ofRanges "0-7F")
  else
    (categoryNames.find? (·.1.contains name)).map fun (_, categories) =>
      categorySet categories.contains

/-- The code of a script. -/
def scriptCode? (name : String) : Option String :=
  (Text.scriptNames.find? (·.any (loose · = name))).bind List.head?

/-- The characters that were assigned in a version of the repertoire or before it, "6.0" or
"V6_0". -/
def ofAge? (name : String) : Option CharSet :=
  ((Text.ages.map (·.1)).find? fun version =>
      name = version || name = "v" ++ String.ofList (version.toList.filter (· ≠ '.'))).bind
    Text.ageSet?

/-- The characters with a property that is named alone. -/
def ofSingleName? (name : String) : Option CharSet :=
  lookup? name Text.binaryProperties <|> ofCategory? name <|>
    (scriptCode? name).map Text.scriptSet

/-- The characters with a property that is named with its value. -/
def ofNameAndValue? (name value : String) : Option CharSet :=
  if name ∈ ["gc", "generalcategory"] then ofCategory? value
  else if name ∈ ["sc", "script"] then (scriptCode? value).map Text.scriptSet
  else if name ∈ ["scx", "scriptextensions"] then
    (scriptCode? value).map Text.scriptExtensionSet
  else if name = "age" then ofAge? value
  else if name ∈ ["gcb", "graphemeclusterbreak"] then lookup? value Text.graphemeBreaks
  else if name ∈ ["wb", "wordbreak"] then lookup? value Text.wordBreaks
  else if name ∈ ["sb", "sentencebreak"] then lookup? value Text.sentenceBreaks
  else none

/-- Splits at the first place where `sign` stands. -/
def splitAt? (sign : List Char) : List Char → Option (List Char × List Char)
  | [] => none
  | c :: cs =>
    if sign.isPrefixOf (c :: cs) then some ([], (c :: cs).drop sign.length)
    else (splitAt? sign cs).map fun (front, rest) => (c :: front, rest)

/-- A property by its text: `Lu`, `Greek`, `Alphabetic`, `sc=Greek`, `sc:Greek` or `sc!=Greek`.
Gives the set, and whether it holds what does not have the property. -/
def ofName? (cs : List Char) : Option (CharSet × Bool) :=
  let withValue := fun (name, value) =>
    ofNameAndValue? (loose (.ofList name)) (loose (.ofList value))
  match splitAt? ['!', '='] cs, splitAt? [':'] cs, splitAt? ['='] cs with
  | some parts, _, _ => (withValue parts).map (·, true)
  | none, some parts, _ | none, none, some parts => (withValue parts).map (·, false)
  | none, none, none => (ofSingleName? (loose (.ofList cs))).map (·, false)

end TokenGrammar.Property
