import TokenGrammar.Text.Category

/-!
# Printable characters

What an escaped text shows as itself.
-/

namespace TokenGrammar.Text

/-- The spacing marks that attach to the character before them. -/
def otherGraphemeExtend : CharSet := .ofRanges
  "9BE 9D7 B3E B57 BBE BD7 CC0 CC2 CC7-CC8 CCA-CCB CD5-CD6 D3E D57 DCF DDF 1715 1734 1B35 1B3B 1B3D
   1B43-1B44 1BAA 1BF2-1BF3 200C 302E-302F A953 A9C0 FF9E-FF9F 111C0 11235 1133E 1134D 11357 113B8
   113C2 113C5 113C7-113C9 113CF 114B0 114BD 115AF 116B6 11930 1193D 11F41 16FF0-16FF1 1D165-1D166
   1D16D-1D172 E0020-E007F"

/-- The characters that attach to the one before them. -/
def graphemeExtend : CharSet :=
  (categorySet fun k => k = .nonspacingMark || k = .enclosingMark).union otherGraphemeExtend

/-- Whether a character is visible as itself: a blank, or neither control, format, separator,
private nor unassigned. -/
def isPrintable (c : Char) : Bool :=
  c = ' ' ||
  match category c with
  | .control | .format | .surrogate | .privateUse | .unassigned
  | .spaceSeparator | .lineSeparator | .paragraphSeparator => false
  | _ => true

end TokenGrammar.Text
