import TokenGrammar.Proofs.ExactValues
import Mathlib.Data.List.TakeWhile

/-!
# JSON texts are read back

What is written without blanks is read back as what it was, if there is no floating point number in
it and no more is open at a time than the reader allows; what is nested deeper is refused. There are
three steps, as in the reader: a string to its characters, a text to its tokens, and tokens to what
they are of.

* `Json.unescape_escaped`, `Json.splitString_escaped`: strings of any characters, and where they
  end;
* `Json.Lexes`: a text is cut into tokens wherever it stands. `Json.lexes_compact`: into which ones;
* `Json.Reads`: the tokens of a text are read at any depth that leaves room for it;
* `Json.ofText?_compact`: the round trip.
-/

namespace TokenGrammar

/-- Digits begin with no zero, but for the number zero. -/
theorem Decimal.head?_digitChars {n : Nat} (h : 0 < n) : (digitChars n).head? ≠ some '0' := by
  induction n using Nat.strong_induction_on with
  | _ n ih =>
    rw [digitChars, Nat.toDigits_eq_if (by omega)]
    split
    · rename_i hlt
      have hdigit : ∀ m < 10, 0 < m → [Nat.digitChar m].head? ≠ some '0' := by decide
      exact hdigit n hlt h
    · rw [List.head?_append, Option.or_of_isSome (by simp)]
      exact ih (n / 10) (by omega) (by omega)

/-- The number is an integer, and has a sign only if it is negative. -/
def JsonNumber.Exact : JsonNumber → Prop
  | .natural _ => True
  | .negative n => n < 0
  | .float _ => False

namespace Json

/-! ## Strings -/

/-- Whether the character means nothing to a reader that looks for the end of a string. -/
def isPlain (c : Char) : Bool := c ≠ '\x22' && c ≠ '\\'

/-- A character is written as a letter that stands for it, as a number in four digits if it is a
control character, or as itself. -/
theorem escape_cases (c : Char) :
    (∃ letter, escape c = ['\\', letter] ∧ letter ≠ 'u' ∧ simpleEscape? letter = some c) ∨
      (escape c = '\\' :: 'u' :: '0' :: '0' :: hexPair c.toNat ∧ c.toNat < 0x20) ∨
      (escape c = [c] ∧ isPlain c = true ∧ ¬ c.toNat < 0x20) := by
  obtain rfl | hquote := eq_or_ne c '\x22'
  · exact .inl ⟨'\x22', rfl, by decide, rfl⟩
  obtain rfl | hbackslash := eq_or_ne c '\\'
  · exact .inl ⟨'\\', rfl, by decide, rfl⟩
  obtain rfl | hback := eq_or_ne c '\x08'
  · exact .inl ⟨'b', rfl, by decide, rfl⟩
  obtain rfl | hfeed := eq_or_ne c '\x0c'
  · exact .inl ⟨'f', rfl, by decide, rfl⟩
  obtain rfl | hline := eq_or_ne c '\n'
  · exact .inl ⟨'n', rfl, by decide, rfl⟩
  obtain rfl | hreturn := eq_or_ne c '\r'
  · exact .inl ⟨'r', rfl, by decide, rfl⟩
  obtain rfl | htab := eq_or_ne c '\t'
  · exact .inl ⟨'t', rfl, by decide, rfl⟩
  have hplain : isPlain c = true := by simp [isPlain, hquote, hbackslash]
  rw [escape, if_neg hquote, if_neg hbackslash, if_neg hback, if_neg hfeed, if_neg hline,
    if_neg hreturn, if_neg htab]
  by_cases hcontrol : c.toNat < 0x20
  · exact .inr (.inl ⟨if_pos hcontrol, hcontrol⟩)
  · exact .inr (.inr ⟨if_neg hcontrol, hplain, hcontrol⟩)

theorem splitString_plain {front : List Char} (h : ∀ c ∈ front, isPlain c = true)
    (tail : List Char) :
    splitString (front ++ tail) =
      (splitString tail).map fun (raw, rest) => (front ++ raw, rest) := by
  induction front with
  | nil => exact Option.map_id_apply.symm
  | cons c front ih =>
    obtain ⟨hc, hfront⟩ := List.forall_mem_cons.mp h
    simp only [isPlain, Bool.and_eq_true, decide_eq_true_eq] at hc
    rw [List.cons_append, splitString, ih hfront, Option.map_map]
    · rfl
    · exact fun heq => absurd heq hc.1
    · exact fun _ _ heq => absurd heq hc.2

/-- Behind the backslash, control characters are written with letters and digits only. -/
theorem isPlain_hexPair {n : Nat} (h : n < 0x20) :
    ∀ c ∈ '0' :: '0' :: hexPair n, isPlain c = true := by
  have hall : ∀ n < 0x20, ('0' :: '0' :: hexPair n).all isPlain = true := by decide
  exact List.all_eq_true.mp (hall n h)

/-- A character is passed over as a whole, escaped or not. -/
theorem splitString_escape (c : Char) (tail : List Char) :
    splitString (escape c ++ tail) =
      (splitString tail).map fun (raw, rest) => (escape c ++ raw, rest) := by
  have behind (letter : Char) (tail : List Char) : splitString ('\\' :: letter :: tail) =
      (splitString tail).map fun (raw, rest) => ('\\' :: letter :: raw, rest) := by
    rw [splitString]
  obtain ⟨letter, hescape, -⟩ | ⟨hescape, hcontrol⟩ | ⟨hescape, hplain, -⟩ := escape_cases c <;>
    rw [hescape]
  · exact behind letter tail
  · rw [List.cons_append, List.cons_append, behind, splitString_plain (isPlain_hexPair hcontrol),
      Option.map_map]
    rfl
  · exact splitString_plain (List.forall_mem_singleton.mpr hplain) tail

/-- A string ends at the quote behind it, and at none of its own. -/
theorem splitString_escaped (cs rest : List Char) :
    splitString (cs.flatMap escape ++ '\x22' :: rest) = some (cs.flatMap escape, rest) := by
  induction cs with
  | nil => rw [List.flatMap_nil, List.nil_append, splitString]
  | cons c cs ih =>
    rw [List.flatMap_cons, List.append_assoc, splitString_escape, ih, Option.map_some]

theorem hexQuad?_hexPair {n : Nat} (h : n < 0x20) :
    hexQuad? '0' '0' (Nat.digitChar (n / 16)) (Nat.digitChar (n % 16)) = some n := by
  revert n
  decide

theorem unescape_control {n : Nat} (h : n < 0x20) (tail : List Char) :
    unescape ('\\' :: 'u' :: '0' :: '0' :: hexPair n ++ tail) =
      (unescape tail).map (.ofNat n :: ·) := by
  have hquad := hexQuad?_hexPair h
  have hhigh : isHighHalf n = false := by
    simp only [isHighHalf, Bool.and_eq_false_iff, decide_eq_false_iff_not]
    omega
  have hlow : isLowHalf n = false := by
    simp only [isLowHalf, Bool.and_eq_false_iff, decide_eq_false_iff_not]
    omega
  rw [hexPair]
  simp only [List.cons_append, List.nil_append]
  -- What follows may be another such escape. As the number is no first half, that is not the second
  -- one.
  rw [unescape.eq_def]
  split <;> rename_i heq <;> cases heq
  · rw [hquad]
    simp [hhigh, hlow]
  · rw [hquad]
    simp [hhigh, hlow]
  · rename_i hsingle
    exact absurd rfl (hsingle _ _ _ _ _ rfl)
  · rename_i hother
    exact absurd rfl (hother _ _ rfl)

/-- A character is read as itself, escaped or not. -/
theorem unescape_escape (c : Char) (tail : List Char) :
    unescape (escape c ++ tail) = (unescape tail).map (c :: ·) := by
  obtain ⟨letter, hescape, hu, hletter⟩ | ⟨hescape, hcontrol⟩ | ⟨hescape, hplain, hcontrol⟩ :=
    escape_cases c <;> rw [hescape]
  · rw [List.cons_append, List.singleton_append, unescape]
    · rw [hletter]
    · exact fun _ _ _ _ _ _ _ _ _ heq => absurd heq hu
    · exact fun _ _ _ _ _ heq => absurd heq hu
  · rw [unescape_control hcontrol, Char.ofNat_toNat]
  · simp only [isPlain, Bool.and_eq_true, decide_eq_true_eq] at hplain
    rw [List.singleton_append, unescape]
    · rw [if_neg (not_or.mpr ⟨hplain.2, hcontrol⟩)]
    · exact fun _ _ _ _ _ _ _ _ _ heq _ => hplain.2 heq
    · exact fun _ _ _ _ _ heq _ => hplain.2 heq
    · exact fun _ _ heq _ => hplain.2 heq

theorem unescape_escaped (cs : List Char) : unescape (cs.flatMap escape) = some cs := by
  induction cs with
  | nil => rw [List.flatMap_nil, unescape]
  | cons c cs ih => rw [List.flatMap_cons, unescape_escape, ih, Option.map_some]

/-! ## Numbers -/

theorem isWhole_digitChars (n : Nat) : isWhole (Decimal.digitChars n) = true := by
  obtain rfl | hpos := Nat.eq_zero_or_pos n
  · rfl
  · have hhead := Decimal.head?_digitChars hpos
    have hall (c : Char) (hc : c ∈ Decimal.digitChars n) := Decimal.isDigit_of_mem_digitChars hc
    cases hdigits : Decimal.digitChars n with
    | nil => exact absurd hdigits (Decimal.digitChars_ne_nil n)
    | cons c cs =>
      rw [hdigits] at hhead hall
      have hzero : c ≠ '0' := fun h => hhead (congrArg some h)
      rw [isWhole, Bool.and_eq_true]
      · exact ⟨decide_eq_true hzero, List.all_eq_true.mpr hall⟩
      · exact fun heq => absurd heq hzero

section

variable (n : Nat)

theorem takeWhile_digitChars :
    (Decimal.digitChars n).takeWhile Decimal.isDigit = Decimal.digitChars n :=
  List.takeWhile_eq_self_iff.mpr fun _ hc => Decimal.isDigit_of_mem_digitChars hc

theorem dropWhile_digitChars : (Decimal.digitChars n).dropWhile Decimal.isDigit = [] :=
  List.dropWhile_eq_nil_iff.mpr fun _ hc => Decimal.isDigit_of_mem_digitChars hc

theorem readNumber?_digitChars :
    readNumber? (Decimal.digitChars n) = (some (readInteger false n)).filter isFiniteNumber := by
  rw [readNumber?]
  · simp only [takeWhile_digitChars, dropWhile_digitChars, List.isEmpty_nil, if_true,
      isWhole_digitChars, Decimal.digitsValue_digitChars]
  · intro rest heq
    have hminus : '-' ∈ Decimal.digitChars n := heq ▸ List.mem_cons_self
    exact absurd (Decimal.isDigit_of_mem_digitChars hminus) (by decide)

theorem readNumber?_minus :
    readNumber? ('-' :: Decimal.digitChars n) =
      (some (readInteger true n)).filter isFiniteNumber := by
  rw [readNumber?]
  simp only [takeWhile_digitChars, dropWhile_digitChars, List.isEmpty_nil, if_true,
    isWhole_digitChars, Decimal.digitsValue_digitChars]

end

section

variable {n : JsonNumber} (h : n.Exact)

include h

theorem writeNumber_ne_nil : writeNumber n ≠ [] := by
  cases n with
  | natural n => exact Decimal.digitChars_ne_nil n.toNat
  | negative n => exact Decimal.integerChars_ne_nil n.toInt
  | float x => exact h.elim

theorem isIntegerChar_of_mem_writeNumber (c : Char) (hc : c ∈ writeNumber n) :
    Decimal.isIntegerChar c = true := by
  cases n with
  | natural n => exact Decimal.isIntegerChar_of_mem_digitChars hc
  | negative n => exact Decimal.isIntegerChar_of_mem_integerChars hc
  | float x => exact h.elim

/-- An integer is read back from its digits. Without a sign it may have 64 bits. -/
theorem readNumber?_writeNumber : readNumber? (writeNumber n) = some n := by
  cases n with
  | natural n =>
    have hinteger : readInteger false n.toNat = .natural n := by
      simp [readInteger, Decimal.toUInt64?, n.toNat_lt]
    rw [writeNumber, readNumber?_digitChars, hinteger]
    rfl
  | negative n =>
    have hneg : n.toInt < 0 := Int64.lt_iff_toInt_lt.mp h
    have habs : -(n.toInt.natAbs : Int) = n.toInt := by omega
    have hne : n.toInt.natAbs ≠ 0 := by omega
    have hinteger : readInteger true n.toInt.natAbs = .negative n := by
      simp only [readInteger, if_true, habs, Decimal.toInt64?_toInt, if_neg hne]
    rw [writeNumber, Decimal.integerChars, if_pos hneg, readNumber?_minus, hinteger]
    rfl
  | float x => exact h.elim

/-- An integer is none of the three names. -/
theorem readWord?_writeNumber : readWord? (writeNumber n) = some (.number n) := by
  have hall := isIntegerChar_of_mem_writeNumber h
  have hnull : writeNumber n ≠ "null".toList :=
    Decimal.ne_of_mem hall (d := 'l') (by decide) rfl
  have htrue : writeNumber n ≠ "true".toList :=
    Decimal.ne_of_mem hall (d := 'e') (by decide) rfl
  have hfalse : writeNumber n ≠ "false".toList :=
    Decimal.ne_of_mem hall (d := 'e') (by decide) rfl
  rw [readWord?, if_neg hnull, if_neg htrue, if_neg hfalse, readNumber?_writeNumber h,
    Option.map_some]

end

/-- An integer goes on to its last digit. -/
theorem endsWord_of_isIntegerChar {c : Char} (h : Decimal.isIntegerChar c = true) :
    endsWord c = false := by
  have hne {d : Char} (hd : Decimal.isIntegerChar d = false) : c ≠ d :=
    Decimal.ne_of_isIntegerChar h hd
  have hblank : isBlank c = false := by
    simp [isBlank, hne (d := ' ') rfl, hne (d := '\n') rfl, hne (d := '\t') rfl,
      hne (d := '\r') rfl]
  have hpunctuation : punctuation? c = none := by
    simp [punctuation?, hne (d := '[') rfl, hne (d := ']') rfl, hne (d := '\x7b') rfl,
      hne (d := '\x7d') rfl, hne (d := ',') rfl, hne (d := ':') rfl]
  simp [endsWord, hblank, hpunctuation, hne (d := '\x22') rfl]

/-! ## Tokens -/

mutual

/-- The tokens of a JSON text. -/
def tokens : Json → List Token
  | .array items => .openArray :: [Token.comma].intercalate (itemTokens items) ++ [.closeArray]
  | .object members =>
    .openObject :: [Token.comma].intercalate (memberTokens members) ++ [.closeObject]
  | json => [.atom json]

/-- The tokens of each item of an array. -/
def itemTokens : List Json → List (List Token)
  | [] => []
  | json :: rest => tokens json :: itemTokens rest

/-- The tokens of each member of an object. -/
def memberTokens : List (String × Json) → List (List Token)
  | [] => []
  | (name, json) :: rest => (.atom (.string name) :: .colon :: tokens json) :: memberTokens rest

end

theorem itemTokens_eq_map (items : List Json) : itemTokens items = items.map tokens := by
  induction items with
  | nil => rfl
  | cons json items ih => rw [itemTokens, ih, List.map_cons]

theorem memberTokens_eq_map (members : List (String × Json)) :
    memberTokens members =
      members.map fun m => .atom (.string m.1) :: .colon :: tokens m.2 := by
  induction members with
  | nil => rfl
  | cons m members ih => rw [memberTokens, ih, List.map_cons]

theorem compactItems_eq_map (items : List Json) : compactItems items = items.map compact := by
  induction items with
  | nil => rfl
  | cons json items ih => rw [compactItems, ih, List.map_cons]

theorem compactMembers_eq_map (members : List (String × Json)) :
    compactMembers members = members.map fun m => writeString m.1 ++ ':' :: compact m.2 := by
  induction members with
  | nil => rfl
  | cons m members ih => rw [compactMembers, ih, List.map_cons]

/-- The text goes on with a character that ends a word, or not at all. -/
def Delimited (rest : List Char) : Prop := ∀ c ∈ rest.head?, endsWord c = true

theorem delimited_cons {c : Char} (h : endsWord c = true) (rest : List Char) :
    Delimited (c :: rest) := fun _ hc => Option.some.inj hc ▸ h

/-- The text is cut into these tokens, whatever comes behind it. -/
def Lexes (text : List Char) (ts : List Token) : Prop :=
  ∀ rest, Delimited rest → tokens? (text ++ rest) = (tokens? rest).map (ts ++ ·)

theorem tokens?_punctuation {c : Char} {token : Token} (h : punctuation? c = some token)
    (rest : List Char) : tokens? (c :: rest) = (tokens? rest).map (token :: ·) := by
  have hblank : isBlank c = false := by
    by_contra hblank
    simp only [isBlank, Bool.not_eq_false, Bool.or_eq_true, decide_eq_true_eq] at hblank
    obtain ((rfl | rfl) | rfl) | rfl := hblank <;> cases h
  have hquote : c ≠ '\x22' := by rintro rfl; cases h
  rw [tokens?, if_neg (by simp [hblank]), if_neg hquote, h]

/-- A string is one token. -/
theorem tokens?_string (s : String) (rest : List Char) :
    tokens? (writeString s ++ rest) = (tokens? rest).map (.atom (.string s) :: ·) := by
  have hsplit : splitString (s.toList.flatMap escape ++ ['\x22'] ++ rest) =
      some (s.toList.flatMap escape, rest) := by
    rw [List.append_assoc]
    exact splitString_escaped s.toList rest
  rw [writeString, List.cons_append, List.cons_append, tokens?, if_neg (by decide), if_pos rfl]
  split <;> rename_i heq <;> rw [hsplit] at heq <;> cases heq
  rw [unescape_escaped]
  dsimp only
  rw [String.ofList_toList]

/-- So is a word: it ends where what comes behind it begins. -/
theorem lexes_word {word : List Char} {json : Json} (hne : word ≠ [])
    (hword : ∀ c ∈ word, (!endsWord c) = true) (hread : readWord? word = some json) :
    Lexes word [.atom json] := by
  intro rest hrest
  obtain ⟨c, word, rfl⟩ := List.exists_cons_of_ne_nil hne
  obtain ⟨hc, hword⟩ := List.forall_mem_cons.mp hword
  simp only [endsWord, Bool.not_eq_true', Bool.or_eq_false_iff, decide_eq_false_iff_not,
    Option.isSome_eq_false_iff, Option.isNone_iff_eq_none] at hc
  obtain ⟨⟨hblank, hpunctuation⟩, hquote⟩ := hc
  have htake : (word ++ rest).takeWhile (!endsWord ·) = word := by
    rw [List.takeWhile_append_of_pos hword]
    cases rest with
    | nil => simp
    | cons d rest => simp [hrest d rfl]
  have hdrop : (word ++ rest).dropWhile (!endsWord ·) = rest := by
    rw [List.dropWhile_append_of_pos hword]
    cases rest with
    | nil => simp
    | cons d rest => simp [hrest d rfl]
  rw [List.cons_append, tokens?, if_neg (by simp [hblank]), if_neg hquote, hpunctuation, htake,
    hdrop]
  dsimp only
  rw [hread]
  rfl

/-- Parts with commas between them are cut part by part. -/
theorem lexes_intercalate {α : Type} {text : α → List Char} {ts : α → List Token} {parts : List α}
    (h : ∀ part ∈ parts, Lexes (text part) (ts part)) :
    Lexes ([','].intercalate (parts.map text)) ([Token.comma].intercalate (parts.map ts)) := by
  intro rest hrest
  induction parts with
  | nil => exact Option.map_id_apply.symm
  | cons part parts ih =>
    obtain ⟨hpart, hparts⟩ := List.forall_mem_cons.mp h
    cases parts with
    | nil =>
      rw [List.map_singleton, List.map_singleton, List.intercalate_singleton,
        List.intercalate_singleton]
      exact hpart rest hrest
    | cons next parts =>
      have htail := ih hparts
      rw [List.map_cons, List.map_cons] at htail
      rw [List.map_cons, List.map_cons, List.map_cons, List.map_cons, List.intercalate_cons_cons,
        List.intercalate_cons_cons, List.append_assoc, List.append_assoc, List.singleton_append,
        hpart _ (delimited_cons rfl _), tokens?_punctuation rfl, htail, Option.map_map,
        Option.map_map]
      simp only [Function.comp_def, List.append_assoc, List.cons_append, List.nil_append]

/-- What stands between brackets is cut with them around. -/
theorem lexes_bracketed {left right : Char} {first last : Token} {text : List Char}
    {ts : List Token} (hleft : punctuation? left = some first)
    (hright : punctuation? right = some last) (h : Lexes text ts) :
    Lexes (left :: text ++ [right]) (first :: ts ++ [last]) := by
  intro rest _
  have hends : endsWord right = true := by simp [endsWord, hright]
  rw [List.append_assoc, List.cons_append, tokens?_punctuation hleft, List.singleton_append,
    h _ (delimited_cons hends rest), tokens?_punctuation hright, Option.map_map, Option.map_map]
  simp only [Function.comp_def, List.cons_append, List.append_assoc, List.nil_append]

/-! ## Texts without floating point numbers -/

/-- The text has no floating point number in it. -/
inductive Exact : Json → Prop where
  | null : Exact .null
  | bool (b : Bool) : Exact (.bool b)
  | number {n : JsonNumber} (h : n.Exact) : Exact (.number n)
  | string (s : String) : Exact (.string s)
  | array {items : List Json} (h : ∀ json ∈ items, Exact json) : Exact (.array items)
  | object {members : List (String × Json)} (h : ∀ m ∈ members, Exact m.2) :
      Exact (.object members)

/-- A text without blanks is cut into its tokens. -/
theorem lexes_compact {json : Json} (h : json.Exact) : Lexes json.compact json.tokens := by
  induction h with
  | null => exact lexes_word (List.cons_ne_nil _ _) (List.all_eq_true.mp (by decide)) rfl
  | bool b =>
    cases b with
    | true => exact lexes_word (List.cons_ne_nil _ _) (List.all_eq_true.mp (by decide)) rfl
    | false => exact lexes_word (List.cons_ne_nil _ _) (List.all_eq_true.mp (by decide)) rfl
  | number hn =>
    refine lexes_word (writeNumber_ne_nil hn) (fun c hc => ?_) (readWord?_writeNumber hn)
    rw [endsWord_of_isIntegerChar (isIntegerChar_of_mem_writeNumber hn c hc)]
    rfl
  | string s => exact fun rest _ => tokens?_string s rest
  | array _ ih =>
    rw [compact, tokens, compactItems_eq_map, itemTokens_eq_map]
    exact lexes_bracketed rfl rfl (lexes_intercalate ih)
  | object _ ih =>
    rw [compact, tokens, compactMembers_eq_map, memberTokens_eq_map]
    refine lexes_bracketed rfl rfl (lexes_intercalate fun m hm rest hrest => ?_)
    rw [List.append_assoc, tokens?_string, List.cons_append, tokens?_punctuation rfl,
      ih m hm rest hrest, Option.map_map, Option.map_map]
    rfl

/-! ## Nesting -/

mutual

/-- How many arrays and objects are open at most at a time. -/
def nesting : Json → Nat
  | .array items => itemNesting items + 1
  | .object members => memberNesting members + 1
  | _ => 0

/-- The deepest nesting of an item. -/
def itemNesting : List Json → Nat
  | [] => 0
  | json :: rest => max (nesting json) (itemNesting rest)

/-- The deepest nesting of a member. -/
def memberNesting : List (String × Json) → Nat
  | [] => 0
  | (_, json) :: rest => max (nesting json) (memberNesting rest)

end

/-- Where a value may come, the tokens of the text are read as the text, if what is open leaves room
for it, and refused otherwise. -/
def Reads (json : Json) : Prop :=
  ∀ stack expected rest, stack.length ≤ maxDepth → expected = .value ∨ expected = .firstItem →
    ofTokensFrom? stack expected (json.tokens ++ rest) =
      if stack.length + json.nesting ≤ maxDepth then ofTokensFrom? stack (.more json) rest else none

theorem ofTokensFrom?_cons (stack : List Frame) (expected : Expected) (token : Token)
    (ts : List Token) :
    ofTokensFrom? stack expected (token :: ts) =
      (step stack expected token).bind fun r => ofTokensFrom? r.1 r.2 ts := by
  rw [ofTokensFrom?]
  cases step stack expected token <;> rfl

/-- What arrays and objects have in common where they are read: a row of parts between two brackets,
each of which has a value. What is read is kept with the last part first. -/
structure Brackets (α : Type) where
  left : Token
  right : Token
  /-- What may come behind the left bracket. -/
  first : Expected
  /-- What may come behind a comma. -/
  next : Expected
  value : α → Json
  tokens : α → List Token
  /-- What is open in front of a part, behind those that are read. -/
  before : List α → Frame
  /-- What is open at the value of a part. -/
  inside : List α → α → Frame
  /-- What the parts make up. -/
  whole : List α → Json
  step_left : ∀ stack expected, expected = .value ∨ expected = .firstItem →
    step stack expected left =
      if stack.length < maxDepth then some (before [] :: stack, first) else none
  step_empty : ∀ stack, step (before [] :: stack) first right = some (stack, .more (whole []))
  step_comma : ∀ stack done part,
    step (inside done part :: stack) (.more (value part)) .comma =
      some (before (part :: done) :: stack, next)
  step_right : ∀ stack done part,
    step (inside done part :: stack) (.more (value part)) right =
      some (stack, .more (whole (part :: done).reverse))
  /-- A part is read as its value is. -/
  reads_part : ∀ part, Reads (value part) → ∀ stack done expected rest, stack.length < maxDepth →
    expected = first ∨ expected = next →
      ofTokensFrom? (before done :: stack) expected (tokens part ++ rest) =
        if stack.length + 1 + (value part).nesting ≤ maxDepth then
          ofTokensFrom? (inside done part :: stack) (.more (value part)) rest
        else none

namespace Brackets

variable {α : Type} (b : Brackets α) (stack : List Frame) {expected : Expected}

/-- Parts are read one by one, up to the right bracket. -/
theorem reads_parts {part : α} {parts : List α} (h : ∀ p ∈ part :: parts, Reads (b.value p))
    (hroom : stack.length < maxDepth) (done : List α)
    (hexpected : expected = b.first ∨ expected = b.next) (rest : List Token) :
    ofTokensFrom? (b.before done :: stack) expected
        ([Token.comma].intercalate ((part :: parts).map b.tokens) ++ b.right :: rest) =
      if stack.length + 1 + itemNesting ((part :: parts).map b.value) ≤ maxDepth then
        ofTokensFrom? stack (.more (b.whole (done.reverse ++ part :: parts))) rest
      else none := by
  induction parts generalizing part done expected with
  | nil =>
    rw [List.map_singleton, List.map_singleton, List.intercalate_singleton,
      b.reads_part part (h part List.mem_cons_self) stack done expected _ hroom hexpected,
      ofTokensFrom?_cons, b.step_right, Option.bind_some, List.reverse_cons, itemNesting,
      itemNesting, Nat.max_zero]
  | cons next parts ih =>
    obtain ⟨hpart, hparts⟩ := List.forall_mem_cons.mp h
    have htail := ih hparts (part :: done) (.inr rfl)
    have hnesting : itemNesting ((part :: next :: parts).map b.value) =
        max (b.value part).nesting (itemNesting ((next :: parts).map b.value)) := rfl
    rw [List.map_cons] at htail
    rw [hnesting, List.map_cons, List.map_cons, List.intercalate_cons_cons, List.append_assoc,
      List.append_assoc, b.reads_part part hpart stack done expected _ hroom hexpected,
      List.singleton_append, ofTokensFrom?_cons, b.step_comma, Option.bind_some, htail,
      List.reverse_cons, List.append_assoc, List.singleton_append, ← ite_and]
    exact if_congr (by omega) rfl rfl

/-- Where the values of the parts are read, so is what they make up. -/
theorem reads {parts : List α} (h : ∀ p ∈ parts, Reads (b.value p))
    (hexpected : expected = .value ∨ expected = .firstItem) (rest : List Token) :
    ofTokensFrom? stack expected
        (b.left :: [Token.comma].intercalate (parts.map b.tokens) ++ [b.right] ++ rest) =
      if stack.length + (itemNesting (parts.map b.value) + 1) ≤ maxDepth then
        ofTokensFrom? stack (.more (b.whole parts)) rest
      else none := by
  rw [List.append_assoc, List.cons_append, List.singleton_append, ofTokensFrom?_cons,
    b.step_left stack expected hexpected]
  by_cases hroom : stack.length < maxDepth
  · rw [if_pos hroom, Option.bind_some]
    cases parts with
    | nil =>
      have hfits : stack.length + (itemNesting ([].map b.value) + 1) ≤ maxDepth := hroom
      rw [if_pos hfits, List.map_nil, List.intercalate_nil, List.nil_append, ofTokensFrom?_cons,
        b.step_empty, Option.bind_some]
    | cons part parts =>
      rw [b.reads_parts stack h hroom [] (.inl rfl)]
      exact if_congr (by omega) rfl rfl
  · rw [if_neg hroom, if_neg (by omega), Option.bind_none]

end Brackets

/-- Arrays: a part is a value. -/
def arrays : Brackets Json where
  left := .openArray
  right := .closeArray
  first := .firstItem
  next := .value
  value := id
  tokens := tokens
  before := .array
  inside done _ := .array done
  whole := .array
  step_left stack expected hexpected := by
    obtain rfl | rfl := hexpected <;> rw [step]
  step_empty stack := rfl
  step_comma stack done part := rfl
  step_right stack done part := rfl
  reads_part part h stack done expected rest hroom hexpected :=
    h (.array done :: stack) expected rest hroom hexpected.symm

/-- Objects: a part is a member, and its value stands behind the name and a colon. -/
def objects : Brackets (String × Json) where
  left := .openObject
  right := .closeObject
  first := .firstName
  next := .name
  value := Prod.snd
  tokens m := .atom (.string m.1) :: .colon :: tokens m.2
  before done := .object done ""
  inside done m := .object done m.1
  whole := .object
  step_left stack expected hexpected := by
    obtain rfl | rfl := hexpected <;> rw [step]
  step_empty stack := rfl
  step_comma stack done part := rfl
  step_right stack done part := rfl
  reads_part m h stack done expected rest hroom hexpected := by
    have hname : step (.object done "" :: stack) expected (.atom (.string m.1)) =
        some (.object done "" :: stack, .colon m.1) := by
      obtain rfl | rfl := hexpected <;> rfl
    have hcolon : step (.object done "" :: stack) (.colon m.1) .colon =
        some (.object done m.1 :: stack, .value) := rfl
    rw [List.cons_append, List.cons_append, ofTokensFrom?_cons, hname, Option.bind_some,
      ofTokensFrom?_cons, hcolon, Option.bind_some]
    exact h (.object done m.1 :: stack) .value rest hroom (.inl rfl)

theorem memberNesting_eq (members : List (String × Json)) :
    memberNesting members = itemNesting (members.map Prod.snd) := by
  induction members with
  | nil => rfl
  | cons m members ih => rw [memberNesting, ih]; rfl

/-- The tokens of a text without floating point numbers are read as the text. -/
theorem reads_tokens {json : Json} (h : json.Exact) : Reads json := by
  induction h with
  | null | bool | number | string =>
    intro stack expected rest hroom hexpected
    rw [tokens, List.singleton_append, ofTokensFrom?_cons, nesting, Nat.add_zero, if_pos hroom]
    · obtain rfl | rfl := hexpected <;>
      · rw [step]
        rfl
    all_goals exact fun _ heq => nomatch heq
  | @array items _ ih =>
    intro stack expected rest hroom hexpected
    have hreads := arrays.reads stack ih hexpected rest
    have hvalues : items.map arrays.value = items := List.map_id items
    rw [hvalues] at hreads
    rw [tokens, itemTokens_eq_map, nesting]
    exact hreads
  | @object members _ ih =>
    intro stack expected rest hroom hexpected
    rw [tokens, memberTokens_eq_map, nesting, memberNesting_eq]
    exact objects.reads stack ih hexpected rest

/-! ## The round trip -/

/-- A text without floating point numbers is read back from what is written without blanks, if it is
not nested deeper than the reader allows, and is refused otherwise. -/
theorem ofText?_compact {json : Json} (h : json.Exact) :
    ofText? (.ofList json.compact) = if json.nesting ≤ maxDepth then some json else none := by
  have htokens : tokens? json.compact = some json.tokens := by
    have hlexes := lexes_compact h [] fun _ hc => nomatch hc
    rw [List.append_nil, tokens?, Option.map_some, List.append_nil] at hlexes
    exact hlexes
  have hreads := reads_tokens h [] .value [] (Nat.zero_le _) (.inl rfl)
  rw [List.append_nil, List.length_nil, Nat.zero_add] at hreads
  rw [ofText?, String.toList_ofList, htokens, Option.bind_some, ofTokens?, hreads, ofTokensFrom?]

end Json

end TokenGrammar
