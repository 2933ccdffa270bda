import TokenGrammar.Text.Category

/-!
# Cased characters

The properties that conversion between capital and small letters looks at.
-/

namespace TokenGrammar.Text

/-- The characters besides the small letters that are lower case. -/
def otherLowercase : CharSet := .ofRanges
  "AA BA 2B0-2B8 2C0-2C1 2E0-2E4 345 37A 10FC 1D2C-1D6A 1D78 1D9B-1DBF 2071 207F 2090-209C
   2170-217F 24D0-24E9 2C7C-2C7D A69C-A69D A770 A7F2-A7F4 A7F8-A7F9 AB5C-AB5F AB69 10780
   10783-10785 10787-107B0 107B2-107BA 1E030-1E06D"

/-- The characters besides the capital letters that are upper case. -/
def otherUppercase : CharSet := .ofRanges "2160-216F 24B6-24CF 1F130-1F149 1F150-1F169 1F170-1F189"

/-- The characters with the Lowercase property. -/
def lowercase : CharSet := (categorySet (· = .lowercaseLetter)).union otherLowercase

/-- The characters with the Uppercase property. -/
def uppercase : CharSet := (categorySet (· = .uppercaseLetter)).union otherUppercase

/-- The characters with the Cased property. -/
def cased : CharSet := .unions [lowercase, uppercase, categorySet (· = .titlecaseLetter)]

/-- The characters that case conversion looks through. -/
def caseIgnorable : CharSet :=
  (categorySet fun k =>
    k = .nonspacingMark || k = .enclosingMark || k = .format || k = .modifierLetter ||
      k = .modifierSymbol).union
  (.ofRanges
    "27 2E 3A B7 387 55F 5F4 2018-2019 2024 2027 FE13 FE52 FE55 FF07 FF0E FF1A")

end TokenGrammar.Text
