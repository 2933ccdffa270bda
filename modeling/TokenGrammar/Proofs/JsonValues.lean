import TokenGrammar.Proofs.JsonTexts

/-!
# Values survive as JSON

JSON has no variants, and so a value is read as the first kind that fits. For values without
floating point numbers this is the kind that they are of: a number in a JSON text is never a boolean
or a text, whatever a text spells, and an integer is tried before a floating point number.

* `Document.value?_ofJson`: a value is read from the JSON that it is written as;
* `Namespace.ofList_entries`: attributes in the order of their names are read as they are;
* `utf8_lt`: the order of texts is that of their bytes in UTF-8;
* `ofJsonText?_compact`: values and namespaces survive up to the depth of nesting that is read.
-/

namespace TokenGrammar

/-! ## From JSON to values -/

theorem JsonNumber.exact_ofInt64 (n : Int64) : (ofInt64 n).Exact := by
  rw [ofInt64]
  split
  · assumption
  · trivial

/-- An integer that is not negative is the same number with and without a sign. -/
theorem toNat_toUInt64 {n : Int64} (h : ¬ n < 0) : (n.toUInt64.toNat : Int) = n.toInt := by
  have hnonneg : 0 ≤ n.toInt := by simpa [Int64.lt_iff_toInt_lt] using h
  have hbits : n.toInt = n.toBitVec.toInt := rfl
  rw [hbits, BitVec.toInt_eq_toNat_cond] at hnonneg ⊢
  split at hnonneg
  · rw [if_pos (by assumption)]
    rfl
  · have := n.toBitVec.isLt
    omega

theorem Value.toJsons_eq_map (vs : List Value) : toJsons vs = vs.map toJson := by
  induction vs with
  | nil => rfl
  | cons v vs ih => rw [toJsons, ih, List.map_cons]

theorem Value.exact_toJson {v : Value} (h : v.Exact) : v.toJson.Exact := by
  induction h with
  | bool b => exact .bool b
  | int n => exact .number (JsonNumber.exact_ofInt64 n)
  | str s => exact .string s
  | list _ ih =>
    rw [toJson, toJsons_eq_map]
    exact .array (List.forall_mem_map.mpr ih)

namespace Document

/-- An integer is read from its number, which is one with a sign only where it is negative. -/
theorem value?_ofJsonNumber (n : Int64) :
    (ofJsonNumber (.ofInt64 n)).value? = some (.int n) := by
  rw [JsonNumber.ofInt64]
  split
  · rfl
  · rename_i hn
    rw [ofJsonNumber, Atom.value?, toNat_toUInt64 hn, Decimal.toInt64?_toInt]

theorem values?_ofJsonItems {vs : List Value}
    (h : ∀ v ∈ vs, (ofJson v.toJson).value? = some v) :
    values? (ofJsonItems (Value.toJsons vs)) = some vs := by
  induction vs with
  | nil => rfl
  | cons v vs ih =>
    obtain ⟨hv, hvs⟩ := List.forall_mem_cons.mp h
    rw [Value.toJsons, ofJsonItems, values?, hv, ih hvs]

/-- A value is read from its JSON, with its kind. -/
theorem value?_ofJson {v : Value} (h : v.Exact) : (ofJson v.toJson).value? = some v := by
  induction h with
  | bool b => rfl
  | int n => exact value?_ofJsonNumber n
  | str s => rfl
  | list _ ih =>
    rw [Value.toJson, ofJson, value?, if_pos rfl, values?_ofJsonItems ih, Option.map_some]

theorem attributes_ofJsonMembers {entries : List (String × Value)}
    (h : ∀ e ∈ entries, e.2.Exact) :
    (ofJsonMembers (entries.map fun (name, value) => (name, value.toJson))).mapM attribute? =
      some entries := by
  induction entries with
  | nil => rfl
  | cons e entries ih =>
    obtain ⟨he, hentries⟩ := List.forall_mem_cons.mp h
    have hattribute : attribute? (.scalar (.ofAtom (.text e.1)), ofJson e.2.toJson) = some e := by
      rw [attribute?, value?_ofJson he]
      rfl
    rw [List.map_cons, ofJsonMembers, List.mapM_cons, hattribute, ih hentries]
    rfl

/-- An object is read as a namespace whether or not it may stand for a name as well. -/
theorem namespace?_ofJson_object (members : List (String × Json)) :
    (ofJson (.object members)).namespace? =
      ((ofJsonMembers members).mapM attribute?).map .ofList := by
  rw [ofJson.eq_def]
  rfl

end Document

/-! ## Attributes in order -/

namespace Namespace

/-- An attribute behind all others is written at the end. -/
theorem insertEntry_last {name : String} (value : Value) {es : List (String × Value)}
    (h : ∀ e ∈ es, e.1 < name) : insertEntry name value es = es ++ [(name, value)] := by
  induction es with
  | nil => rfl
  | cons e es ih =>
    obtain ⟨he, hes⟩ := List.forall_mem_cons.mp h
    have hnot : ¬ name < e.1 := fun hlt => String.lt_irrefl _ (String.lt_trans hlt he)
    rw [insertEntry, if_neg hnot, if_pos he, ih hes, List.cons_append]

theorem entries_foldl_set {es : List (String × Value)} {ns : Namespace}
    (h : (ns.entries ++ es).Pairwise fun a b => a.1 < b.1) :
    (es.foldl (fun ns e => ns.set e.1 e.2) ns).entries = ns.entries ++ es := by
  induction es generalizing ns with
  | nil => rw [List.append_nil]; rfl
  | cons e es ih =>
    have hlast : (ns.set e.1 e.2).entries = ns.entries ++ [e] := by
      refine insertEntry_last e.2 fun d hd => ?_
      exact (List.pairwise_append.mp h).2.2 d hd e List.mem_cons_self
    rw [List.append_cons, ← hlast] at h ⊢
    exact ih h

/-- The entries of a namespace make up the namespace. -/
theorem ofList_entries (ns : Namespace) : ofList ns.entries = ns := by
  have hentries : (ofList ns.entries).entries = ns.entries := entries_foldl_set ns.sorted
  exact ext_get? fun name => by rw [get?, get?, hentries]

theorem exact_toJson {ns : Namespace} (h : ∀ e ∈ ns.entries, e.2.Exact) : ns.toJson.Exact :=
  .object (List.forall_mem_map.mpr fun e he => Value.exact_toJson (h e he))

end Namespace

/-! ## Order of bytes -/

/-- The bytes of a text. -/
def utf8 (s : String) : List UInt8 := s.toUTF8.data.toList

theorem utf8_eq (s : String) : utf8 s = s.toList.flatMap String.utf8EncodeChar := by
  conv_lhs => rw [← String.ofList_toList (s := s)]
  rw [utf8, String.toUTF8_eq_toByteArray, String.toByteArray_ofList, List.utf8Encode,
    List.data_toByteArray]

/-- The lesser one of two characters has the lesser bytes, whatever comes behind them. -/
theorem utf8EncodeChar_lt {c d : Char} (h : c < d) (xs ys : List UInt8) :
    String.utf8EncodeChar c ++ xs < String.utf8EncodeChar d ++ ys := by
  have hlt : c.val.toNat < d.val.toNat := UInt32.lt_iff_toNat_lt.mp (Char.lt_def.mp h)
  have hd : d.val.toNat < 0x110000 := by
    have := d.valid
    simp only [UInt32.isValidChar, Nat.isValidChar] at this
    omega
  simp only [String.utf8EncodeChar]
  generalize c.val.toNat = v at *
  generalize d.val.toNat = w at *
  -- The bytes are digits in base 64 with a mark on each, which leaves no carry.
  have hbyte (n : Nat) : (n % 64 + 128) % 2 ^ 8 = n % 64 + 128 := by omega
  have hfirst {n : Nat} (hn : n < 0x110000) :
      (n / 262144 % 8 + 240) % 2 ^ 8 = n / 262144 + 240 := by omega
  have hdigits (n : Nat) : n / 64 / 64 = n / 4096 ∧ n / 4096 / 64 = n / 262144 := by omega
  have hle (k : Nat) : v / k < w / k ∨ v / k = w / k :=
    (Nat.div_le_div_right hlt.le).lt_or_eq
  have hv := hdigits v
  have hw := hdigits w
  have h1 := hle 64
  have h2 := hle 4096
  have h3 := hle 262144
  split_ifs <;>
    simp only [List.cons_append, List.nil_append, List.cons_lt_cons_iff, UInt8.lt_iff_toNat_lt,
      ← UInt8.toNat_inj, UInt8.toNat_ofNat', hbyte, hfirst hd, hfirst (hlt.trans hd)] <;> omega

/-- Texts are in the order of their bytes. -/
theorem utf8_lt {s t : String} (h : s < t) : utf8 s < utf8 t := by
  rw [utf8_eq, utf8_eq]
  have hchars : List.Lex (· < ·) s.toList t.toList := String.lt_iff.mp h
  generalize s.toList = cs at hchars
  generalize t.toList = ds at hchars
  induction hchars with
  | @nil d ds =>
    have hlength := String.length_utf8EncodeChar d
    rw [List.flatMap_cons]
    cases hbytes : String.utf8EncodeChar d with
    | nil =>
      rw [hbytes] at hlength
      exact absurd hlength.symm d.utf8Size_pos.ne'
    | cons b bs => exact List.nil_lt_cons b _
  | @cons c cs ds _ ih =>
    rw [List.flatMap_cons, List.flatMap_cons]
    exact List.append_left_lt ih
  | @rel c cs d ds hcd => exact utf8EncodeChar_lt hcd _ _

/-! ## The round trip -/

theorem Value.ofJsonText?_compact {v : Value} (h : v.Exact) :
    ofJsonText? (.ofList v.toJson.compact) =
      if v.toJson.nesting ≤ Json.maxDepth then some v else none := by
  rw [ofJsonText?, Json.ofText?_compact (exact_toJson h)]
  split_ifs
  · exact Document.value?_ofJson h
  · rfl

theorem Namespace.ofJsonText?_compact {ns : Namespace} (h : ∀ e ∈ ns.entries, e.2.Exact) :
    ofJsonText? (.ofList ns.toJson.compact) =
      if ns.toJson.nesting ≤ Json.maxDepth then some ns else none := by
  rw [ofJsonText?, Json.ofText?_compact (exact_toJson h)]
  split_ifs
  · rw [Option.bind_some, toJson, Document.namespace?_ofJson_object,
      Document.attributes_ofJsonMembers h, Option.map_some, ofList_entries]
  · rfl

/-- Texts that spell an integer and a boolean, beside an integer and a boolean. -/
def lookAlikes : Value := .list [.str "1", .int 1, .str "true", .bool true, .int Int64.minValue]

/-- An attribute without a name, with a control character in its text. -/
def lookAlikeAttributes : Namespace := (Namespace.empty.set "k" lookAlikes).set "" (.str "\x01")

end TokenGrammar
