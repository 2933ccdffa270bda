import TokenGrammar.Rule

/-!
# Letter case

Texts are compared in any case in two ways: words in full lower case, and prefixes letter by letter
with the case of ASCII letters ignored. Lower case may have more characters than the text. But it
has the same number for two texts that are alike letter by letter, and one at least for each letter.
So where two texts have the same lower case, one of them can only be stripped off in the place of
the other if they are alike as a whole.

* `Text.RangeTable.ofText_eq`: tables that the kernel can look things up in;
* `Text.lowerWidth`: how many characters the lower case of a text has, whatever stands around it;
* `Rule.AsciiAlike`: texts that differ in the case of ASCII letters only;
* `Rule.stripPrefix?_eq_some`: what can be stripped off;
* `Rule.stripPrefix?_of_lowerCase`: the two ways to compare, put together.
-/

namespace TokenGrammar

namespace Text

/-! ## Reading tables -/

/-- A table from the characters of its text. -/
def RangeTable.ofChars {α : Type} (entry : List Char → α) (cs : List Char) : RangeTable α :=
  ⟨((wordsOf cs).map fun word =>
    let (range, rest) := splitFirst (· = ':') word
    let (first, last) := readRange range
    (first, last, entry rest)).toArray⟩

/-- To look something up in a table, its text need not be decoded. -/
theorem RangeTable.ofText_eq {α : Type} {entry : List Char → α} {text : String} {cs : List Char}
    (h : text = .ofList cs) : ofText entry text = ofChars entry cs := by
  rw [h, ofText, String.toList_ofList]
  rfl

/-! ## Width of lower case -/

/-- The number of characters of the lower case of a text. -/
def lowerWidth (cs : List Char) : Nat := (cs.flatMap lowerChar).length

theorem lowerWidth_cons (c : Char) (cs : List Char) :
    lowerWidth (c :: cs) = (lowerChar c).length + lowerWidth cs := by
  rw [lowerWidth, List.flatMap_cons, List.length_append, lowerWidth]

theorem lowerWidth_append (cs ds : List Char) :
    lowerWidth (cs ++ ds) = lowerWidth cs + lowerWidth ds := by
  rw [lowerWidth, List.flatMap_append, List.length_append, lowerWidth, lowerWidth]

theorem length_lowerChar_pos (c : Char) : 0 < (lowerChar c).length := by
  rw [lowerChar]
  split
  · exact Nat.one_pos
  · split <;> exact Nat.succ_pos _

/-- There is nothing that could be added without width. -/
theorem eq_nil_of_lowerWidth_append {cs ds : List Char}
    (h : lowerWidth (cs ++ ds) = lowerWidth cs) : ds = [] := by
  cases ds with
  | nil => rfl
  | cons d ds =>
    have hpos := length_lowerChar_pos d
    rw [lowerWidth_append, lowerWidth_cons] at h
    omega

/-- What stands in front matters for a capital sigma only, which has one small letter anyway. -/
theorem length_lowerChars (before cs : List Char) :
    (lowerChars before cs).length = lowerWidth cs := by
  induction cs generalizing before with
  | nil => rfl
  | cons c cs ih =>
    rw [lowerChars, List.length_append, ih, lowerWidth_cons]
    split
    · rename_i hsigma
      have hone : (lowerChar c).length = 1 := by
        rw [hsigma, lowerChar, if_neg (by decide), if_neg (by decide), List.length_singleton]
      rw [hone, List.length_singleton]
    · rfl

theorem lowerWidth_eq_of_toLowerCase {s t : String} (h : toLowerCase s = toLowerCase t) :
    lowerWidth s.toList = lowerWidth t.toList := by
  rw [← length_lowerChars [], ← length_lowerChars [], String.ofList_injective h]

/-- More text has more lower case. -/
theorem toLowerCase_append_ne {s value : String} (hvalue : value ≠ "") :
    toLowerCase (s ++ value) ≠ toLowerCase s := by
  intro h
  have hwidth := lowerWidth_eq_of_toLowerCase h
  rw [String.toList_append] at hwidth
  exact hvalue (String.toList_eq_nil_iff.mp (eq_nil_of_lowerWidth_append hwidth))

theorem length_lowerChar_of_ascii {c : Char} (h : c.toNat < 0x80) : (lowerChar c).length = 1 := by
  rw [lowerChar, if_pos h, List.length_singleton]

/-- The case of an ASCII letter does not matter for the width. -/
theorem length_lowerChar_toLower (c : Char) :
    (lowerChar c.toLower).length = (lowerChar c).length := by
  by_cases hupper : c.val ≥ 'A'.val ∧ c.val ≤ 'Z'.val
  · have hle : c.val.toNat ≤ 90 := UInt32.le_iff_toNat_le.mp hupper.2
    have hlower : (c.val + ('a'.val - 'A'.val)).toNat < 0x80 := by
      rw [UInt32.toNat_add, Nat.mod_eq_of_lt] <;>
        simp only [show ('a'.val - 'A'.val).toNat = 32 from rfl] <;> omega
    have hval : c.toLower.val = c.val + ('a'.val - 'A'.val) := congrArg Char.val (dif_pos hupper)
    have hascii : c.toNat < 0x80 := Nat.lt_of_le_of_lt hle (by decide)
    rw [← hval] at hlower
    rw [length_lowerChar_of_ascii hascii]
    exact length_lowerChar_of_ascii hlower
  · have hsame : c.toLower = c := dif_neg hupper
    rw [hsame]

theorem lowerWidth_map_toLower (cs : List Char) :
    lowerWidth (cs.map Char.toLower) = lowerWidth cs := by
  induction cs with
  | nil => rfl
  | cons c cs ih =>
    rw [List.map_cons, lowerWidth_cons, lowerWidth_cons, ih, length_lowerChar_toLower]

end Text

namespace Rule

open Text (lowerWidth)

/-! ## Prefixes -/

/-- Texts that differ in the case of ASCII letters only. -/
def AsciiAlike (s t : String) : Prop := s.toList.map Char.toLower = t.toList.map Char.toLower

instance (s t : String) : Decidable (AsciiAlike s t) :=
  inferInstanceAs (Decidable (s.toList.map Char.toLower = t.toList.map Char.toLower))

/-- Characters that differ in the case of ASCII letters from those of the prefix are stripped
off. -/
theorem stripPrefix?_eq_some {front text rest : List Char} :
    stripPrefix? eqIgnoringCase front text = some rest ↔
      ∃ taken, text = taken ++ rest ∧ taken.map Char.toLower = front.map Char.toLower := by
  induction front generalizing text with
  | nil => simp [stripPrefix?, eq_comm]
  | cons p front ih =>
    cases text with
    | nil => simp [stripPrefix?]
    | cons c text =>
      rw [stripPrefix?, eqIgnoringCase]
      constructor
      · intro h
        split at h
        · rename_i heq
          obtain ⟨taken, rfl, htaken⟩ := ih.mp h
          exact ⟨c :: taken, rfl, by rw [List.map_cons, List.map_cons, htaken, of_decide_eq_true heq]⟩
        · exact nomatch h
      · rintro ⟨taken, htext, htaken⟩
        cases taken with
        | nil => exact nomatch htaken
        | cons d taken =>
          obtain ⟨rfl, rfl⟩ := List.cons.inj htext
          obtain ⟨hhead, htail⟩ := List.cons.inj htaken
          rw [if_pos (decide_eq_true hhead.symm)]
          exact ih.mpr ⟨taken, rfl, htail⟩

/-- A prefix with as wide a lower case as the text in front is stripped off it if the two are alike,
and otherwise not at all. -/
theorem stripPrefix?_of_lowerWidth {front spelling : List Char}
    (h : lowerWidth spelling = lowerWidth front) (tail rest : List Char) :
    stripPrefix? eqIgnoringCase (front ++ tail) (spelling ++ tail ++ rest) =
      if spelling.map Char.toLower = front.map Char.toLower then some rest else none := by
  split
  · rename_i halike
    refine stripPrefix?_eq_some.mpr ⟨spelling ++ tail, rfl, ?_⟩
    rw [List.map_append, List.map_append, halike]
  · rename_i halike
    refine Option.eq_none_iff_forall_ne_some.mpr fun left hstrip => halike ?_
    obtain ⟨taken, htext, htaken⟩ := stripPrefix?_eq_some.mp hstrip
    rw [List.map_append] at htaken
    obtain ⟨first, second, rfl, hfirst, -⟩ := List.map_eq_append_iff.mp htaken
    have hwidth : lowerWidth spelling = lowerWidth first := by
      rw [h, ← Text.lowerWidth_map_toLower front, ← hfirst, Text.lowerWidth_map_toLower]
    rw [List.append_assoc, List.append_assoc] at htext
    -- neither of the two reaches behind the other one: what is left over would have no width
    obtain ⟨more, rfl, -⟩ | ⟨more, rfl, -⟩ := List.append_eq_append_iff.mp htext
    · obtain rfl := Text.eq_nil_of_lowerWidth_append hwidth.symm
      rwa [List.append_nil] at hfirst
    · obtain rfl := Text.eq_nil_of_lowerWidth_append hwidth
      rwa [List.append_nil]

/-- Where a flag is spelled in another way with the same lower case, its prefix is stripped off the
fused form of the spelling if the two differ in the case of ASCII letters only, and otherwise does
not match. -/
theorem stripPrefix?_of_lowerCase {flag spelling : String}
    (h : Text.toLowerCase spelling = Text.toLowerCase flag) (tail value : String) :
    stripPrefix? eqIgnoringCase (flag ++ tail).toList (spelling ++ tail ++ value).toList =
      if AsciiAlike spelling flag then some value.toList else none := by
  simp only [String.toList_append]
  exact stripPrefix?_of_lowerWidth (Text.lowerWidth_eq_of_toLowerCase h) tail.toList value.toList

end Rule

end TokenGrammar
