import TokenGrammar.Proofs.ExactValues

/-!
# Reading values in messages

The lists in messages say what they are lists of. `Literal.readList?` reads them: it takes the text
one character at a time, with a stack of the lists that are open and nothing else. A text between
quotes may hold brackets, commas and the other quote, so where an item ends depends on all that is
in front of it; the reader finds the end without looking ahead.

* `Literal.step`: one character. The words are `True`, `False` and the integers in decimal digits;
* `Literal.read_literal`: the reader passes over one value and leaves what was open as it was;
* `Literal.readList?_texts`: lists of tokens, and lists of values without floating point numbers,
  are read back, and so are equal if their texts are.
-/

namespace TokenGrammar

open Decimal (integerChars)

namespace Literal

/-! ## A reader -/

/-- Where the reader is in what is open. -/
inductive Stand where
  /-- In front of an item, or of the end of a list. -/
  | start
  /-- In a word, with its letters so far, the last one first. -/
  | word (letters : List Char)
  /-- Between quotes, with the characters so far, the last one first. -/
  | quoted (quote : Char) (text : List Char)
  /-- Between quotes, behind a backslash. -/
  | escaped (quote : Char) (text : List Char)
  /-- Behind an item. -/
  | ended (v : Value)
deriving Repr

/-- The open lists, the innermost one first, each with its items so far, the last one first; and
where the reader is. -/
structure Reader where
  stack : List (List Value)
  stand : Stand
deriving Repr

/-- Reads a word: one of the two names, or an integer. -/
def readWord? (word : List Char) : Option Value :=
  if word = "True".toList then some (.bool true)
  else if word = "False".toList then some (.bool false)
  else (Decimal.readInt64? word).map .int

/-- The character that a backslash and a character stand for. -/
def unescape? (c : Char) : Option Char :=
  if c = 'n' then some '\n'
  else if c = 'r' then some '\r'
  else if c = 't' then some '\t'
  else if c = '\\' ∨ c = '\x27' ∨ c = '\x22' then some c
  else none

/-- The item that ends where the reader is, if one does. -/
def Stand.value? : Stand → Option Value
  | .word letters => readWord? letters.reverse
  | .ended v => some v
  | .start | .quoted .. | .escaped .. => none

/-- A comma or a closing bracket behind an item, or a blank. -/
def Reader.follow (stack : List (List Value)) (v : Value) (c : Char) : Option Reader :=
  if c = ' ' then some ⟨stack, .ended v⟩
  else
    match stack with
    | [] => none
    | items :: stack =>
      if c = ',' then some ⟨(v :: items) :: stack, .start⟩
      else if c = ']' then some ⟨stack, .ended (.list (v :: items).reverse)⟩
      else none

/-- Whether the character ends a word. -/
def endsWord (c : Char) : Bool := c = ' ' || c = ',' || c = ']'

/-- Reads one character. -/
def step (r : Reader) (c : Char) : Option Reader :=
  match r.stand with
  | .start =>
    if c = ' ' then some r
    else if c = '[' then some ⟨[] :: r.stack, .start⟩
    else if c = ']' then
      match r.stack with
      | [] => none
      | items :: stack => some ⟨stack, .ended (.list items.reverse)⟩
    else if c = '\x27' ∨ c = '\x22' then some ⟨r.stack, .quoted c []⟩
    else if c = ',' then none
    else some ⟨r.stack, .word [c]⟩
  | .word letters =>
    if endsWord c then (readWord? letters.reverse).bind (Reader.follow r.stack · c)
    else some ⟨r.stack, .word (c :: letters)⟩
  | .quoted quote text =>
    if c = '\\' then some ⟨r.stack, .escaped quote text⟩
    else if c = quote then some ⟨r.stack, .ended (.str (.ofList text.reverse))⟩
    else some ⟨r.stack, .quoted quote (c :: text)⟩
  | .escaped quote text => (unescape? c).map fun c => ⟨r.stack, .quoted quote (c :: text)⟩
  | .ended v => Reader.follow r.stack v c

/-- Reads characters. -/
def read (r : Reader) (text : List Char) : Option Reader := text.foldlM step r

/-- Reads a value, where nothing may be open at the end. -/
def readValue? (text : List Char) : Option Value :=
  match read ⟨[], .start⟩ text with
  | some ⟨[], stand⟩ => stand.value?
  | _ => none

/-- Reads a list of values. -/
def readList? (text : List Char) : Option (List Value) := (readValue? text).bind Value.asList?

/-! ## Reading in parts -/

theorem read_cons (r : Reader) (c : Char) (text : List Char) :
    read r (c :: text) = (step r c).bind (read · text) := List.foldlM_cons

theorem read_append (r : Reader) (front back : List Char) :
    read r (front ++ back) = (read r front).bind (read · back) := List.foldlM_append

/-- Wherever an item ends, what may follow is read alike. -/
theorem step_of_value {stack : List (List Value)} {stand : Stand} {v : Value}
    (h : stand.value? = some v) {c : Char} (hc : endsWord c = true) :
    step ⟨stack, stand⟩ c = Reader.follow stack v c := by
  cases stand with
  | word letters =>
    rw [step]
    dsimp only
    rw [if_pos hc]
    exact congrArg (Option.bind · _) h
  | ended w => rw [step, Option.some.inj h]
  | start | quoted _ _ | escaped _ _ => cases h

/-! ## Words -/

/-- Whether the character may stand anywhere in a word. -/
def isWordChar (c : Char) : Bool := !endsWord c && c ≠ '[' && c ≠ '\x27' && c ≠ '\x22'

theorem read_letters (stack : List (List Value)) (letters : List Char) {word : List Char}
    (h : ∀ c ∈ word, isWordChar c = true) :
    read ⟨stack, .word letters⟩ word = some ⟨stack, .word (word.reverse ++ letters)⟩ := by
  induction word generalizing letters with
  | nil => rfl
  | cons c word ih =>
    obtain ⟨hc, hword⟩ := List.forall_mem_cons.mp h
    have hend : endsWord c = false := by
      simp only [isWordChar, Bool.and_eq_true, Bool.not_eq_true'] at hc
      exact hc.1.1.1
    rw [read_cons, step]
    dsimp only
    rw [hend, if_neg Bool.false_ne_true, Option.bind_some, ih _ hword, List.reverse_cons,
      List.append_assoc]
    rfl

/-- The reader takes a word as it is. -/
theorem read_word (stack : List (List Value)) {word : List Char} (hne : word ≠ [])
    (h : ∀ c ∈ word, isWordChar c = true) :
    read ⟨stack, .start⟩ word = some ⟨stack, .word word.reverse⟩ := by
  obtain ⟨c, word, rfl⟩ := List.exists_cons_of_ne_nil hne
  obtain ⟨hc, hword⟩ := List.forall_mem_cons.mp h
  have hstep : step ⟨stack, .start⟩ c = some ⟨stack, .word [c]⟩ := by
    simp only [isWordChar, endsWord, Bool.and_eq_true, Bool.not_eq_true', Bool.or_eq_false_iff,
      decide_eq_false_iff_not, decide_eq_true_eq] at hc
    obtain ⟨⟨⟨⟨⟨hblank, hcomma⟩, hclose⟩, hopen⟩, hsingle⟩, hdouble⟩ := hc
    simp [step, hblank, hcomma, hclose, hopen, hsingle, hdouble]
  rw [read_cons, hstep, Option.bind_some, read_letters stack [c] hword, List.reverse_cons]

theorem isWordChar_of_isIntegerChar {c : Char} (h : Decimal.isIntegerChar c = true) :
    isWordChar c = true := by
  have hne {d : Char} (hd : Decimal.isIntegerChar d = false) : c ≠ d :=
    Decimal.ne_of_isIntegerChar h hd
  have hblank : c ≠ ' ' := hne rfl
  have hcomma : c ≠ ',' := hne rfl
  have hclose : c ≠ ']' := hne rfl
  have hopen : c ≠ '[' := hne rfl
  have hsingle : c ≠ '\x27' := hne rfl
  have hdouble : c ≠ '\x22' := hne rfl
  simp [isWordChar, endsWord, hblank, hcomma, hclose, hopen, hsingle, hdouble]

/-- An integer is not one of the two names. -/
theorem readWord?_integerChars (n : Int64) : readWord? (integerChars n.toInt) = some (.int n) := by
  have hall (c : Char) (hc : c ∈ integerChars n.toInt) : Decimal.isIntegerChar c = true :=
    Decimal.isIntegerChar_of_mem_integerChars hc
  have htrue : integerChars n.toInt ≠ "True".toList :=
    Decimal.ne_of_mem hall (d := 'e') (by decide) rfl
  have hfalse : integerChars n.toInt ≠ "False".toList :=
    Decimal.ne_of_mem hall (d := 'e') (by decide) rfl
  rw [readWord?, if_neg htrue, if_neg hfalse, Decimal.readInt64?_integerChars, Option.map_some]

/-! ## Texts between quotes -/

/-- A character that is escaped where it has to be is read as itself. -/
theorem read_escape (stack : List (List Value)) {quote : Char} (text : List Char)
    (hquote : quote = '\x27' ∨ quote = '\x22') (c : Char) :
    read ⟨stack, .quoted quote text⟩ (Text.Quoted.escape quote c) =
      some ⟨stack, .quoted quote (c :: text)⟩ := by
  have behind (letter : Char) (hletter : unescape? letter = some c) :
      read ⟨stack, .quoted quote text⟩ ['\\', letter] =
        some ⟨stack, .quoted quote (c :: text)⟩ := by
    simp only [read_cons, step, if_true, Option.bind_some, hletter, Option.map_some]
    rfl
  rw [Text.Quoted.escape]
  split_ifs with hbackslash hline hreturn htab hc
  · subst hbackslash
    exact behind '\\' rfl
  · exact behind 'n' (hline ▸ rfl)
  · exact behind 'r' (hreturn ▸ rfl)
  · exact behind 't' (htab ▸ rfl)
  · refine behind c ?_
    obtain rfl | rfl := hquote <;> subst hc <;> rfl
  · simp only [read_cons, step, if_neg hbackslash, if_neg hc, Option.bind_some]
    rfl

theorem read_escaped (stack : List (List Value)) {quote : Char} (text : List Char)
    (hquote : quote = '\x27' ∨ quote = '\x22') (cs : List Char) :
    read ⟨stack, .quoted quote text⟩ (cs.flatMap (Text.Quoted.escape quote)) =
      some ⟨stack, .quoted quote (cs.reverse ++ text)⟩ := by
  induction cs generalizing text with
  | nil => rfl
  | cons c cs ih =>
    rw [List.flatMap_cons, read_append, read_escape stack text hquote, Option.bind_some, ih,
      List.reverse_cons, List.append_assoc]
    rfl

theorem quoteOf_eq (cs : List Char) :
    Text.Quoted.quoteOf cs = '\x27' ∨ Text.Quoted.quoteOf cs = '\x22' := by
  rw [Text.Quoted.quoteOf]
  split
  · exact .inr rfl
  · exact .inl rfl

/-- Whatever stands between the quotes, the reader finds the one that ends the text. -/
theorem read_quoted (stack : List (List Value)) (s : String) :
    read ⟨stack, .start⟩ (Text.Quoted.encode s.toList) = some ⟨stack, .ended (.str s)⟩ := by
  have hquote := quoteOf_eq s.toList
  rw [Text.Quoted.encode]
  generalize Text.Quoted.quoteOf s.toList = quote at hquote
  have hopen : step ⟨stack, .start⟩ quote = some ⟨stack, .quoted quote []⟩ := by
    obtain rfl | rfl := hquote <;> rfl
  have hclose (text : List Char) : step ⟨stack, .quoted quote text⟩ quote =
      some ⟨stack, .ended (.str (.ofList text.reverse))⟩ := by
    obtain rfl | rfl := hquote <;> rfl
  rw [List.cons_append, read_cons, hopen, Option.bind_some, read_append,
    read_escaped stack [] hquote, Option.bind_some, read_cons, hclose, Option.bind_some,
    List.append_nil, List.reverse_reverse, String.ofList_toList]
  rfl

/-! ## Values -/

theorem literals_eq_map (vs : List Value) : Value.literals vs = vs.map Value.literal := by
  induction vs with
  | nil => rfl
  | cons v vs ih => rw [Value.literals, ih, List.map_cons]

/-- The reader passes over the text: it ends where an item with this value ends, and what was open
is as it was. -/
def Passes (text : List Char) (v : Value) : Prop :=
  ∀ stack, ∃ stand, read ⟨stack, .start⟩ text = some ⟨stack, stand⟩ ∧ stand.value? = some v

/-- Where the reader passes over each item, it takes them one by one up to the closing bracket. -/
theorem read_items {vs : List Value} (h : ∀ v ∈ vs, Passes v.literal v) (items : List Value)
    (stack : List (List Value)) :
    read ⟨items :: stack, .start⟩ ([',', ' '].intercalate (vs.map Value.literal) ++ [']']) =
      some ⟨stack, .ended (.list (items.reverse ++ vs))⟩ := by
  induction vs generalizing items with
  | nil =>
    rw [List.append_nil]
    rfl
  | cons v vs ih =>
    obtain ⟨hv, hvs⟩ := List.forall_mem_cons.mp h
    obtain ⟨stand, hread, hvalue⟩ := hv (items :: stack)
    cases vs with
    | nil =>
      have hclose : step ⟨items :: stack, stand⟩ ']' =
          some ⟨stack, .ended (.list (v :: items).reverse)⟩ := step_of_value hvalue rfl
      rw [List.map_singleton, List.intercalate_singleton, read_append, hread, Option.bind_some,
        read_cons, hclose, List.reverse_cons]
      rfl
    | cons w ws =>
      have hcomma : step ⟨items :: stack, stand⟩ ',' = some ⟨(v :: items) :: stack, .start⟩ :=
        step_of_value hvalue rfl
      have hblank : step ⟨(v :: items) :: stack, .start⟩ ' ' =
          some ⟨(v :: items) :: stack, .start⟩ := rfl
      rw [List.map_cons, List.map_cons, List.intercalate_cons_cons, List.append_assoc,
        List.append_assoc, read_append, hread, Option.bind_some, List.cons_append, read_cons,
        hcomma, Option.bind_some, List.cons_append, read_cons, hblank, Option.bind_some,
        List.nil_append]
      have hrest := ih hvs (v :: items)
      rw [List.map_cons, List.reverse_cons, List.append_assoc] at hrest
      exact hrest

/-- The reader passes over values without floating point numbers. -/
theorem read_literal {v : Value} (h : v.Exact) : Passes v.literal v := by
  induction h with
  | bool b =>
    intro stack
    cases b with
    | true =>
      exact ⟨_, read_word stack (List.cons_ne_nil _ _) (List.all_eq_true.mp (by decide)), rfl⟩
    | false =>
      exact ⟨_, read_word stack (List.cons_ne_nil _ _) (List.all_eq_true.mp (by decide)), rfl⟩
  | int n =>
    intro stack
    refine ⟨_, read_word stack (Decimal.integerChars_ne_nil n.toInt)
      fun _ hc => isWordChar_of_isIntegerChar (Decimal.isIntegerChar_of_mem_integerChars hc), ?_⟩
    rw [Stand.value?, List.reverse_reverse]
    exact readWord?_integerChars n
  | str s => exact fun stack => ⟨_, read_quoted stack s, rfl⟩
  | @list items _ ih =>
    intro stack
    refine ⟨.ended (.list items), ?_, rfl⟩
    have hopen : step ⟨stack, .start⟩ '[' = some ⟨[] :: stack, .start⟩ := rfl
    rw [Value.literal, bracketed, literals_eq_map, List.cons_append, read_cons, hopen,
      Option.bind_some, read_items ih, List.reverse_nil, List.nil_append]

/-! ## Lists in messages -/

theorem readList?_valueList {values : List Value} (h : ∀ v ∈ values, v.Exact) :
    readList? (valueList values) = some values := by
  obtain ⟨stand, hread, hvalue⟩ := read_literal (.list h) []
  have htext : valueList values = (Value.list values).literal := rfl
  rw [readList?, readValue?, htext, hread]
  exact congrArg (Option.bind · Value.asList?) hvalue

/-- A list of tokens stands in messages as a list of texts. -/
theorem tokenList_eq (tokens : List String) : tokenList tokens = valueList (tokens.map .str) := by
  rw [tokenList, valueList, literals_eq_map, List.map_map]
  rfl

theorem readList?_tokenList (tokens : List String) :
    readList? (tokenList tokens) = some (tokens.map .str) := by
  rw [tokenList_eq]
  exact readList?_valueList fun v hv => Value.exact_of_mem_map_str hv

/-- One reader recovers every list of tokens from its text, and every list of values without
floating point numbers, with each value as what it was. So the texts are equal only if the lists
are. -/
theorem readList?_texts :
    (∀ tokens, readList? (tokenList tokens) = some (tokens.map .str)) ∧
      (∀ values, (∀ v ∈ values, v.Exact) → readList? (valueList values) = some values) ∧
      (∀ tokens more, tokenList tokens = tokenList more → tokens = more) ∧
      ∀ values more, (∀ v ∈ values, v.Exact) → (∀ v ∈ more, v.Exact) →
        valueList values = valueList more → values = more := by
  refine ⟨readList?_tokenList, fun _ => readList?_valueList, fun tokens more h => ?_,
    fun values more hvalues hmore h => ?_⟩
  · have hread := congrArg readList? h
    rw [readList?_tokenList, readList?_tokenList] at hread
    exact (List.map_inj_right fun _ _ heq => Value.str.inj heq).mp (Option.some.inj hread)
  · have hread := congrArg readList? h
    rw [readList?_valueList hvalues, readList?_valueList hmore] at hread
    exact Option.some.inj hread

/-- Both quotes in one text, a text that looks like the end of a list and another item, and a list
within a list. -/
def nestedValues : List Value :=
  [.list [.str "a', \"b", .list []], .str "], [1", .int Int64.minValue]

/-- The list is read back from its text, and no other list has that text. -/
theorem readList?_texts_nested :
    (∀ v ∈ nestedValues, v.Exact) ∧
      valueList nestedValues = "[['a\\', \"b', []], '], [1', -9223372036854775808]".toList ∧
      readList? (valueList nestedValues) = some nestedValues ∧
      ∀ other, (∀ v ∈ other, v.Exact) → valueList other = valueList nestedValues →
        other = nestedValues := by
  have hinner : ∀ v ∈ [Value.str "a', \"b", .list []], v.Exact :=
    List.forall_mem_cons.mpr ⟨.str _, List.forall_mem_singleton.mpr (.list fun v hv => nomatch hv)⟩
  have hvalues : ∀ v ∈ nestedValues, v.Exact :=
    List.forall_mem_cons.mpr ⟨.list hinner,
      List.forall_mem_cons.mpr ⟨.str _, List.forall_mem_singleton.mpr (.int _)⟩⟩
  obtain ⟨-, hread, -, hinj⟩ := readList?_texts
  exact ⟨hvalues, by decide +kernel, hread _ hvalues,
    fun other hother htext => hinj other _ hother hvalues htext⟩

end Literal

end TokenGrammar
