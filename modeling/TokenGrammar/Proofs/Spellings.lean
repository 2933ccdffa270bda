import Mathlib.Data.List.Nodup
import TokenGrammar.Proofs.FusedValues

/-!
# Spellings of names

Where there are several prefix characters, an optional argument has each of its names with every one
of them, once. To respell such a flag leads to no further flag. A name is among its own spellings,
unless it starts with two prefix characters that are not the same: these are taken for one character
twice, and the name itself is lost.

* `Flags.respelled`: a flag with another prefix character;
* `Flags.respellings`: the flags that are made of the names;
* `Flags.Spellings`: what holds of all the spellings of names. `Flags.spellings_respellings`: it holds
  of these flags;
* `Declaration.spellings_ofArgument`: the flags of a declared argument.
-/

namespace TokenGrammar

namespace Flags

variable {prefixChars flag : String} {names flags : List String} {c c' : Char}

/-- How many characters in front of a flag are respelled: two if it is long and the second one is a
prefix character too. -/
def prefixWidth (prefixChars flag : String) : Nat :=
  if isLong flag && isDouble prefixChars flag then 2 else 1

/-- The flag with a prefix character in the place of its own. -/
def respelled (prefixChars : String) (c : Char) (flag : String) : String :=
  .ofList (List.replicate (prefixWidth prefixChars flag) c ++
    (behind (prefixWidth prefixChars flag) flag).toList)

/-- Whether a long flag starts with two prefix characters that are not the same. -/
def isMixed (prefixChars flag : String) : Bool :=
  isLong flag && isDouble prefixChars flag && flag.toList.head? != (flag.toList.drop 1).head?

/-- The flags that are made of the names: the long ones, and then the short ones. -/
def respellings (prefixChars : String) (names : List String) : List String :=
  respellLong prefixChars (names.filter isLong) ++
    respellShort prefixChars (names.filter (!isLong ·))

/-! ## One flag -/

theorem prefixWidth_cases (prefixChars flag : String) :
    (prefixWidth prefixChars flag = 2 ∧ isLong flag = true ∧ isDouble prefixChars flag = true) ∨
      (prefixWidth prefixChars flag = 1 ∧
        (isLong flag = true → isDouble prefixChars flag = false)) := by
  rw [prefixWidth]
  cases isLong flag <;> cases isDouble prefixChars flag <;> simp

theorem prefixWidth_pos (prefixChars flag : String) : 0 < prefixWidth prefixChars flag := by
  obtain ⟨h, -⟩ | ⟨h, -⟩ := prefixWidth_cases prefixChars flag <;> rw [h] <;> decide

theorem toList_respelled (prefixChars : String) (c : Char) (flag : String) :
    (respelled prefixChars c flag).toList =
      List.replicate (prefixWidth prefixChars flag) c ++
        flag.toList.drop (prefixWidth prefixChars flag) := by
  rw [respelled, behind, String.toList_ofList, String.toList_ofList]

/-- A flag starts with the character that it is respelled with. -/
theorem head?_respelled (prefixChars : String) (c : Char) (flag : String) :
    (respelled prefixChars c flag).toList.head? = some c := by
  obtain ⟨n, hn⟩ := Nat.exists_eq_succ_of_ne_zero (prefixWidth_pos prefixChars flag).ne'
  rw [toList_respelled, hn, List.replicate_succ]
  rfl

theorem length_spelling (width : Nat) (c : Char) (flag : String) :
    (String.ofList (List.replicate width c ++ (behind width flag).toList)).length =
      width + (flag.length - width) := by
  simp [behind, String.length_toList]

/-- A flag stays as long as it is. -/
theorem isLong_respelled (prefixChars : String) (c : Char) (flag : String) :
    isLong (respelled prefixChars c flag) = isLong flag := by
  have hlength := length_spelling (prefixWidth prefixChars flag) c flag
  rw [isLong, isLong, respelled, hlength, decide_eq_decide]
  obtain ⟨hwidth, hlong, -⟩ | ⟨hwidth, -⟩ := prefixWidth_cases prefixChars flag
  · have : 2 < flag.length := of_decide_eq_true hlong
    omega
  · omega

/-- Two prefix characters become two, and one becomes one. -/
theorem isDouble_respelled (hc : c ∈ prefixChars.toList) :
    isDouble prefixChars (respelled prefixChars c flag) = isDouble prefixChars flag := by
  obtain ⟨hwidth, -, hdouble⟩ | ⟨hwidth, -⟩ := prefixWidth_cases prefixChars flag
  · rw [hdouble, isDouble, toList_respelled, hwidth]
    simpa using hc
  · rw [isDouble, toList_respelled, hwidth]
    rfl

theorem prefixWidth_respelled (hc : c ∈ prefixChars.toList) :
    prefixWidth prefixChars (respelled prefixChars c flag) = prefixWidth prefixChars flag := by
  rw [prefixWidth, prefixWidth, isLong_respelled, isDouble_respelled hc]

/-- Of two spellings of a flag only the second one counts. -/
theorem respelled_respelled (hc : c ∈ prefixChars.toList) :
    respelled prefixChars c' (respelled prefixChars c flag) = respelled prefixChars c' flag := by
  rw [← String.toList_inj, toList_respelled, toList_respelled, prefixWidth_respelled hc,
    toList_respelled, List.drop_append, List.length_replicate, Nat.sub_self, List.drop_zero,
    List.drop_eq_nil_of_le (Nat.le_of_eq List.length_replicate), List.nil_append]

/-- A respelled flag starts with one prefix character, or with the same one twice. -/
theorem isMixed_respelled (hc : c ∈ prefixChars.toList) :
    isMixed prefixChars (respelled prefixChars c flag) = false := by
  rw [isMixed, isLong_respelled, head?_respelled]
  cases hlong : isLong flag with
  | false => rfl
  | true =>
    rw [isDouble_respelled hc]
    obtain ⟨hwidth, -, hdouble⟩ | ⟨-, hsingle⟩ := prefixWidth_cases prefixChars flag
    · rw [toList_respelled, hwidth]
      simp
    · rw [hsingle hlong]
      rfl

/-- A flag is one of its own spellings, unless it starts with two prefix characters that are not the
same. -/
theorem exists_respelled_eq (hstart : startsWithAny prefixChars flag = true)
    (hmixed : isMixed prefixChars flag = false) :
    ∃ c ∈ prefixChars.toList, respelled prefixChars c flag = flag := by
  obtain ⟨c, hhead, hc⟩ : ∃ c, flag.toList.head? = some c ∧ c ∈ prefixChars.toList := by
    simpa [startsWithAny, Option.any_eq_true] using hstart
  obtain ⟨cs, hflag⟩ := List.head?_eq_some_iff.mp hhead
  refine ⟨c, hc, ?_⟩
  rw [← String.toList_inj, toList_respelled]
  obtain ⟨hwidth, hlong, hdouble⟩ | ⟨hwidth, -⟩ := prefixWidth_cases prefixChars flag
  · have hsecond : (flag.toList.drop 1).head? = some c := by
      rw [isMixed, hlong, hdouble, hhead, Bool.true_and, Bool.true_and, bne_eq_false_iff_eq] at hmixed
      exact hmixed.symm
    rw [hflag, List.drop_one, List.tail_cons] at hsecond
    obtain ⟨ds, hcs⟩ := List.head?_eq_some_iff.mp hsecond
    rw [hwidth, hflag, hcs]
    rfl
  · rw [hwidth, hflag]
    rfl

/-! ## All flags -/

theorem mem_spellings {width : Nat} :
    flag ∈ spellings width c ((flags.map (behind width)).eraseDups) ↔
      ∃ name ∈ flags, flag = .ofList (List.replicate width c ++ (behind width name).toList) := by
  simp only [spellings, List.mem_map, List.mem_eraseDups, exists_exists_and_eq_and]
  exact exists_congr fun name => and_congr_right fun _ => eq_comm

/-- The long flags are the spellings of long names. -/
theorem mem_respellLong (hlong : ∀ name ∈ flags, isLong name = true) :
    flag ∈ respellLong prefixChars flags ↔
      ∃ c ∈ prefixChars.toList, ∃ name ∈ flags, flag = respelled prefixChars c name := by
  rw [respellLong, List.mem_flatMap]
  refine exists_congr fun c => and_congr_right fun _ => ?_
  rw [List.mem_append, mem_spellings, mem_spellings]
  constructor
  · rintro (⟨name, hname, rfl⟩ | ⟨name, hname, rfl⟩)
    · obtain ⟨hmem, hsingle⟩ := List.mem_filter.mp hname
      have hwidth : prefixWidth prefixChars name = 1 := by
        simp [prefixWidth, (Bool.not_eq_true' _).mp hsingle]
      exact ⟨name, hmem, by rw [respelled, hwidth]⟩
    · obtain ⟨hmem, hdouble⟩ := List.mem_filter.mp hname
      have hwidth : prefixWidth prefixChars name = 2 := by
        simp [prefixWidth, hlong name hmem, hdouble]
      exact ⟨name, hmem, by rw [respelled, hwidth]⟩
  · rintro ⟨name, hmem, rfl⟩
    obtain ⟨hwidth, -, hdouble⟩ | ⟨hwidth, hsingle⟩ := prefixWidth_cases prefixChars name
    · exact .inr ⟨name, List.mem_filter.mpr ⟨hmem, hdouble⟩, by rw [respelled, hwidth]⟩
    · have hsingle := hsingle (hlong name hmem)
      exact .inl ⟨name, List.mem_filter.mpr ⟨hmem, by rw [hsingle]; rfl⟩, by rw [respelled, hwidth]⟩

/-- The short flags are the spellings of short names. -/
theorem mem_respellShort (hshort : ∀ name ∈ flags, isLong name = false) :
    flag ∈ respellShort prefixChars flags ↔
      ∃ c ∈ prefixChars.toList, ∃ name ∈ flags, flag = respelled prefixChars c name := by
  rw [respellShort, List.mem_flatMap]
  refine exists_congr fun c => and_congr_right fun _ => ?_
  rw [mem_spellings]
  refine exists_congr fun name => and_congr_right fun hname => ?_
  have hwidth : prefixWidth prefixChars name = 1 := by simp [prefixWidth, hshort name hname]
  rw [respelled, hwidth]

theorem mem_respellings : flag ∈ respellings prefixChars names ↔
    ∃ c ∈ prefixChars.toList, ∃ name ∈ names, flag = respelled prefixChars c name := by
  rw [respellings, List.mem_append,
    mem_respellLong fun name hname => (List.mem_filter.mp hname).2,
    mem_respellShort fun name hname => by simpa using (List.mem_filter.mp hname).2]
  constructor
  · rintro (⟨c, hc, name, hname, rfl⟩ | ⟨c, hc, name, hname, rfl⟩) <;>
      exact ⟨c, hc, name, List.mem_of_mem_filter hname, rfl⟩
  · rintro ⟨c, hc, name, hname, rfl⟩
    cases hlong : isLong name with
    | true => exact .inl ⟨c, hc, name, List.mem_filter.mpr ⟨hname, hlong⟩, rfl⟩
    | false => exact .inr ⟨c, hc, name, List.mem_filter.mpr ⟨hname, by simp [hlong]⟩, rfl⟩

/-! ## No flag twice -/

theorem nodup_eraseDups {α : Type} [DecidableEq α] (xs : List α) : xs.eraseDups.Nodup := by
  induction xs using List.reverseRecOn with
  | nil => exact List.nodup_nil
  | append_singleton xs x ih =>
    have hlast : ([x].removeAll xs).eraseDups = if x ∈ xs then [] else [x] := by
      by_cases hx : x ∈ xs <;> simp [List.removeAll, hx, List.eraseDups_cons]
    rw [List.eraseDups_append, hlast]
    split
    · rwa [List.append_nil]
    · rename_i hx
      refine List.nodup_append'.mpr ⟨ih, List.nodup_singleton x, ?_⟩
      rw [List.disjoint_singleton, List.mem_eraseDups]
      exact hx

/-- Different stems have different spellings. -/
theorem nodup_spellings (width : Nat) (c : Char) (stems : List String) :
    (spellings width c stems.eraseDups).Nodup := by
  refine List.Nodup.map (fun stem stem' h => ?_) (nodup_eraseDups stems)
  exact String.toList_inj.mp (List.append_cancel_left (String.ofList_injective h))

/-- Blocks of flags, one for each prefix character and with it in front. -/
theorem nodup_flatMap_of_head? {block : Char → List String} (hchars : prefixChars.toList.Nodup)
    (hblock : ∀ c ∈ prefixChars.toList, (block c).Nodup)
    (hhead : ∀ c, ∀ flag ∈ block c, flag.toList.head? = some c) :
    (prefixChars.toList.flatMap block).Nodup := by
  refine List.nodup_flatMap.mpr ⟨hblock, hchars.imp fun {c c'} hne flag h h' => ?_⟩
  exact hne (Option.some.inj ((hhead c flag h).symm.trans (hhead c' flag h')))

theorem head?_of_mem_spellings {width : Nat} {stems : List String}
    (h : flag ∈ spellings (width + 1) c stems) : flag.toList.head? = some c := by
  obtain ⟨stem, -, rfl⟩ := List.mem_map.mp h
  rw [String.toList_ofList, List.replicate_succ]
  rfl

/-- The flags with one prefix character have another character behind it. -/
theorem disjoint_spellings (flags : List String) (hc : c ∈ prefixChars.toList) :
    (spellings 1 c ((flags.filter (!isDouble prefixChars ·)).map (behind 1)).eraseDups).Disjoint
      (spellings 2 c ((flags.filter (isDouble prefixChars)).map (behind 2)).eraseDups) := by
  intro flag hone htwo
  obtain ⟨name, hname, rfl⟩ := mem_spellings.mp hone
  obtain ⟨name', hname', heq⟩ := mem_spellings.mp htwo
  obtain ⟨hmem, hsingle⟩ := List.mem_filter.mp hname
  have hdouble : isDouble prefixChars (.ofList (List.replicate 1 c ++ (behind 1 name).toList)) =
      true := by
    rw [heq, isDouble, String.toList_ofList]
    simpa using hc
  rw [isDouble, String.toList_ofList, behind, String.toList_ofList] at hdouble
  rw [isDouble, Bool.not_eq_true'] at hsingle
  exact absurd (hdouble.symm.trans hsingle) (by decide)

theorem nodup_respellings (hchars : prefixChars.toList.Nodup) :
    (respellings prefixChars names).Nodup := by
  have hlong : ∀ name ∈ names.filter isLong, isLong name = true :=
    fun name hname => (List.mem_filter.mp hname).2
  have hshort : ∀ name ∈ names.filter (!isLong ·), isLong name = false :=
    fun name hname => by simpa using (List.mem_filter.mp hname).2
  refine List.nodup_append'.mpr ⟨?_, ?_, fun flag hflag hflag' => ?_⟩
  · refine nodup_flatMap_of_head? hchars (fun c hc => ?_) fun c flag hflag => ?_
    · exact List.nodup_append'.mpr
        ⟨nodup_spellings .., nodup_spellings .., disjoint_spellings _ hc⟩
    · exact (List.mem_append.mp hflag).elim head?_of_mem_spellings head?_of_mem_spellings
  · exact nodup_flatMap_of_head? hchars (fun c _ => nodup_spellings ..)
      fun c flag => head?_of_mem_spellings
  · obtain ⟨c, -, name, hname, rfl⟩ := (mem_respellLong hlong).mp hflag
    obtain ⟨c', -, name', hname', heq⟩ := (mem_respellShort hshort).mp hflag'
    have := congrArg isLong heq
    rw [isLong_respelled, isLong_respelled, hlong name hname, hshort name' hname'] at this
    cases this

/-- The flags are all the spellings of the names. -/
structure Spellings (prefixChars : String) (names flags : List String) : Prop where
  /-- A name is one of them, unless it starts with two prefix characters that are not the same. -/
  kept : ∀ name ∈ names, name ∈ flags ↔ isMixed prefixChars name = false
  /-- To respell one of them with any prefix character gives another one of them. -/
  closed : ∀ flag ∈ flags, ∀ c ∈ prefixChars.toList, respelled prefixChars c flag ∈ flags
  /-- Each of them is a name with some prefix character. -/
  made : ∀ flag ∈ flags, ∃ name ∈ names, ∃ c ∈ prefixChars.toList,
    flag = respelled prefixChars c name
  /-- None of them is there twice, where no prefix character is. -/
  nodup : prefixChars.toList.Nodup → flags.Nodup

theorem spellings_respellings (hstart : ∀ name ∈ names, startsWithAny prefixChars name = true) :
    Spellings prefixChars names (respellings prefixChars names) where
  kept name hname := by
    constructor
    · intro h
      obtain ⟨c, hc, origin, -, rfl⟩ := mem_respellings.mp h
      exact isMixed_respelled hc
    · intro h
      obtain ⟨c, hc, heq⟩ := exists_respelled_eq (hstart name hname) h
      exact mem_respellings.mpr ⟨c, hc, name, hname, heq.symm⟩
  closed flag hflag c hc := by
    obtain ⟨c', hc', name, hname, rfl⟩ := mem_respellings.mp hflag
    exact mem_respellings.mpr ⟨c, hc, name, hname, respelled_respelled hc'⟩
  made flag hflag := by
    obtain ⟨c, hc, name, hname, heq⟩ := mem_respellings.mp hflag
    exact ⟨name, hname, c, hc, heq⟩
  nodup := nodup_respellings

/-! ## Flags of an argument -/

/-- The names of an optional argument that is accepted start with prefix characters. -/
theorem startsWithAny_of_ofArgument {a : Argument} {spelled : Flags}
    (h : ofArgument a prefixChars = .ok spelled) :
    ∀ name ∈ a.names, startsWithAny prefixChars name = true := by
  intro name hname
  rw [ofArgument] at h
  split at h
  · cases h
  · rename_i hfind
    simpa using List.find?_eq_none.mp hfind name hname

/-- The flags of an argument, whatever its destination is. -/
theorem flags_of_ofArgument {a : Argument} {spelled : Flags}
    (h : ofArgument a prefixChars = .ok spelled) :
    ∃ long short, respell prefixChars (a.names.filter isLong) (a.names.filter (!isLong ·)) =
        (long, short) ∧
      spelled.flags = long ++ short ++ a.flags := by
  refine ⟨_, _, rfl, ?_⟩
  rw [ofArgument] at h
  split at h
  · exact nomatch h
  · cases hdest : a.dest with
    | infer =>
      simp only [hdest] at h
      obtain ⟨dest, -, h⟩ := Declaration.bind_eq_ok.mp h
      obtain rfl := Except.ok.inj h
      rfl
    | named dest =>
      simp only [hdest] at h
      obtain rfl := Except.ok.inj h
      rfl
    | anonymous =>
      simp only [hdest] at h
      obtain rfl := Except.ok.inj h
      rfl

/-- Where there are several prefix characters, the flags are the spellings of the names and the
flags that are given as they are. -/
theorem flags_eq_respellings {a : Argument} {spelled : Flags}
    (h : ofArgument a prefixChars = .ok spelled) (hmany : 1 < prefixChars.length) :
    spelled.flags = respellings prefixChars a.names ++ a.flags := by
  obtain ⟨long, short, hrespell, hflags⟩ := flags_of_ofArgument h
  rw [respell, if_pos hmany] at hrespell
  obtain ⟨rfl, rfl⟩ := Prod.mk.inj hrespell
  exact hflags

end Flags

namespace Declaration

variable {base : Nat} {a : Argument} {settings : Settings} {defaults : ArgumentDefaults}
  {d : Declaration} {prefixChars : String}

/-- Where there are several prefix characters, an optional argument is resolved with the spellings of
its names as flags, and with the flags that are given as they are. -/
theorem resolve_respellings {r : ResolvedArgument} (h : resolve a settings = .ok r)
    (hchars : a.prefixChars.getD settings.prefixChars = prefixChars)
    (hoptional : isOptional a prefixChars = true) (hmany : 1 < prefixChars.length) :
    (∀ name ∈ a.names, startsWithAny prefixChars name = true) ∧ ∃ prefixes,
      r.kind = .optional (Flags.respellings prefixChars a.names ++ a.flags) prefixes := by
  obtain ⟨regexp, kinded, -, hkinded, rfl⟩ := resolve_eq_ok.mp h
  rw [hchars, resolveKind, if_pos hoptional] at hkinded
  obtain ⟨spelled, hspelled, rfl⟩ := resolveOptional_eq_ok.mp hkinded
  refine ⟨Flags.startsWithAny_of_ofArgument hspelled, spelled.prefixes, ?_⟩
  exact congrArg (ArgumentKind.optional · spelled.prefixes)
    (Flags.flags_eq_respellings hspelled hmany)

/-- Where there are several prefix characters, an optional argument that is accepted has all the
spellings of its names as flags, in front of the flags that are given as they are. It is compiled to
a rule for just these, unless its action puts something behind each of them: a suffix, or a colon in
front of the value. -/
theorem spellings_ofArgument (h : ofArgument base a settings defaults = .ok d)
    (hchars : a.prefixChars.getD settings.prefixChars = prefixChars)
    (hoptional : isOptional a prefixChars = true) (hmany : 1 < prefixChars.length) :
    ∃ resolved derived prefixes, resolve (a.inherit defaults) settings = .ok resolved ∧
      resolved.kind = .optional (derived ++ a.flags) prefixes ∧
      Flags.Spellings prefixChars a.names derived ∧
      ((a.inherit defaults).action.getD .store ∉ [Action.msvcFlag, .msvcFlagWithValue] →
        ∃ r, d = build base r ∧ r.kind = resolved.kind ∧ ∀ flag ∈ derived, r.HasFlag flag) ∧
      ((a.inherit defaults).action.getD .store = .msvcFlag →
        d = flagPair base resolved (a.msvcTrueSuffix.getD "") (a.msvcFalseSuffix.getD "-")) ∧
      ((a.inherit defaults).action.getD .store = .msvcFlagWithValue →
        ∃ r, d = build base r ∧ r.kind = .optional [] ((derived ++ a.flags).map (· ++ ":"))) := by
  rw [← ArgumentParser.ofArgument_inherit] at h
  obtain ⟨-, resolved, hresolve, happly⟩ := ofArgument_eq_ok.mp h
  obtain ⟨hstart, prefixes, hkind⟩ := resolve_respellings hresolve hchars hoptional hmany
  refine ⟨resolved, Flags.respellings prefixChars a.names, prefixes, hresolve, hkind,
    Flags.spellings_respellings hstart, fun haction => ?_, fun hpair => ?_, fun hcolon => ?_⟩
  · rw [List.mem_cons, List.mem_singleton, not_or] at haction
    obtain ⟨hpair, hcolon⟩ := haction
    obtain ⟨-, r, hadjust, rfl⟩ | ⟨hpair', -⟩ := applyAction_eq_ok.mp happly
    · have hsame := (adjust_kind hadjust).trans (if_neg hcolon)
      exact ⟨r, rfl, hsame, fun flag hflag =>
        ResolvedArgument.hasFlag_of_mem (hsame.trans hkind) (List.mem_append_left _ hflag)⟩
    · exact absurd hpair' hpair
  · obtain ⟨hpair', -⟩ | ⟨-, rfl⟩ := applyAction_eq_ok.mp happly
    · exact absurd hpair hpair'
    · rfl
  · obtain ⟨-, r, hadjust, rfl⟩ | ⟨hpair, -⟩ := applyAction_eq_ok.mp happly
    · refine ⟨r, rfl, ?_⟩
      rw [adjust_kind hadjust, if_pos hcolon, hkind]
      rfl
    · rw [hcolon] at hpair
      cases hpair

/-- An option with a long and a short name. -/
def slashed : Argument := { names := ["--out", "-o"], prefixChars := some "-/" }

theorem spellings_ofArgument_slashed :
    ∃ d r, ofArgument 0 slashed {} {} = .ok d ∧ d = build 0 r ∧
      r.kind = .optional ["--out", "//out", "-o", "/o"] ["--out=", "//out=", "-o", "/o"] ∧
      Flags.Spellings "-/" ["--out", "-o"] ["--out", "//out", "-o", "/o"] := by
  obtain ⟨d, hd⟩ : ∃ d, ofArgument 0 slashed {} {} = .ok d := ⟨_, rfl⟩
  obtain ⟨resolved, hresolved, hkind⟩ : ∃ resolved, resolve (slashed.inherit {}) {} = .ok resolved ∧
      resolved.kind = .optional ["--out", "//out", "-o", "/o"] ["--out=", "//out=", "-o", "/o"] :=
    ⟨_, rfl, rfl⟩
  obtain ⟨resolved', derived, prefixes, hresolved', hkind', hspellings, hbuild, -⟩ :=
    spellings_ofArgument hd rfl (by decide) (by decide)
  obtain rfl := Except.ok.inj (hresolved'.symm.trans hresolved)
  obtain ⟨r, rfl, hr, -⟩ := hbuild (by decide)
  have hderived : derived ++ [] = ["--out", "//out", "-o", "/o"] :=
    (ArgumentKind.optional.inj (hkind'.symm.trans hkind)).1
  rw [List.append_nil] at hderived
  exact ⟨_, r, hd, rfl, hr.trans hkind, hderived ▸ hspellings⟩

/-- A name that starts with two different prefix characters is not among the flags. -/
theorem not_forall_spellings_ofArgument :
    ¬ ∀ (base : Nat) (a : Argument) (settings : Settings) (defaults : ArgumentDefaults)
        (d : Declaration) (resolved : ResolvedArgument) (prefixChars : String)
        (flags prefixes : List String), ofArgument base a settings defaults = .ok d →
      a.prefixChars.getD settings.prefixChars = prefixChars → isOptional a prefixChars = true →
      prefixChars.toList.Nodup → 1 < prefixChars.length →
      resolve (a.inherit defaults) settings = .ok resolved →
      resolved.kind = .optional flags prefixes → ∀ name ∈ a.names, name ∈ flags := by
  intro h
  obtain ⟨d, hd⟩ : ∃ d, ofArgument 0 { names := ["-/foo"], prefixChars := some "-/" } {} {} =
      .ok d := ⟨_, rfl⟩
  have hmem := h 0 _ {} {} d _ "-/" _ _ hd rfl (by decide) (by decide) (by decide) rfl rfl "-/foo"
    List.mem_cons_self
  exact absurd hmem (by decide)

end Declaration

end TokenGrammar
