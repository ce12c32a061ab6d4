import SchemaCompiler.Proofs.Value.Json
import SchemaCompiler.Proofs.Value.JsonNumber
import SchemaCompiler.Proofs.Value.JsonString

/-!
# JSON read back

A value that JSON has is read back from what it is written as, as long as its integers can be
written and up to the order in which the layout writes the entries of dictionaries
(`parse?_toJson`). The induction is on the value. What it carries is that the text is read wherever
it stands: before anything that does not go on like a number, and with more fuel than it has
characters (`Decodes`). Lists and dictionaries are then a matter of their separators, which a layout
may follow by blanks.
-/

set_option autoImplicit false

namespace SchemaCompiler.Json

variable {fuel : Nat} {text blanks rest : List Char} {v w : Value} {separator : String}
  {texts : List String} {values : List Value} {entries : List (Value × Value)}

/-- A text is read as a value wherever it stands. -/
structure Decodes (text : List Char) (v : Value) : Prop where
  /-- The text begins with something that is neither a blank nor the end of a list. -/
  opens : ∃ c tail, text = c :: tail ∧ isBlank c = false ∧ c ≠ ']'
  /-- Each step takes up a character, so the length of the text is fuel enough. -/
  reads : ∀ fuel rest, text.length < fuel → Ends rest → value? fuel (text ++ rest) = some (v, rest)

/-- A separator is a character that may be followed by blanks. -/
def Separates (mark : Char) (separator : String) : Prop :=
  ∃ blanks, separator.toList = mark :: blanks ∧ ∀ c ∈ blanks, isBlank c = true

/-! ## Blanks -/

theorem skipBlanks_append (each : ∀ c ∈ blanks, isBlank c = true) :
    skipBlanks (blanks ++ rest) = skipBlanks rest :=
  List.dropWhile_append_of_pos each

theorem skipBlanks_cons {c : Char} (dark : isBlank c = false) :
    skipBlanks (c :: rest) = c :: rest :=
  List.dropWhile_cons_of_neg (ne_true_of_eq_false dark)

theorem value?_blanks (each : ∀ c ∈ blanks, isBlank c = true) :
    value? fuel (blanks ++ rest) = value? fuel rest := by
  cases fuel with
  | zero => rw [value?, value?]
  | succ fuel => rw [value?, value?, skipBlanks_append each]

theorem items?_blanks (each : ∀ c ∈ blanks, isBlank c = true) :
    items? fuel (blanks ++ rest) = items? fuel rest := by
  cases fuel with
  | zero => rw [items?, items?]
  | succ fuel => rw [items?, items?, value?_blanks each]

theorem entries?_blanks (each : ∀ c ∈ blanks, isBlank c = true) :
    entries? fuel (blanks ++ rest) = entries? fuel rest := by
  cases fuel with
  | zero => rw [entries?, entries?]
  | succ fuel => rw [entries?, entries?, skipBlanks_append each]

/-! ## Joined texts -/

/-- Joined texts begin with the first of them. -/
theorem exists_toList_intercalate (separator text : String) (texts : List String) :
    ∃ tail, (separator.intercalate (text :: texts)).toList = text.toList ++ tail := by
  cases texts with
  | nil =>
    rw [String.intercalate_singleton]
    exact ⟨[], (List.append_nil _).symm⟩
  | cons next texts =>
    rw [String.intercalate_cons_cons, String.toList_append, String.toList_append, List.append_assoc]
    exact ⟨_, rfl⟩

/-- Behind the first of several joined texts is a separator, and then the others. -/
theorem toList_intercalate_cons {mark : Char} (marked : separator.toList = mark :: blanks)
    (text next : String) (texts : List String) :
    (separator.intercalate (text :: next :: texts)).toList =
      text.toList ++ mark :: (blanks ++ (separator.intercalate (next :: texts)).toList) := by
  rw [String.intercalate_cons_cons, String.toList_append, String.toList_append, marked,
    List.append_assoc, List.cons_append]

/-! ## Scalars -/

/-- What is read as a scalar is read as a value, unless it opens a list or a dictionary. -/
theorem decodes_scalar {c : Char} {tail : List Char} (opens : text = c :: tail)
    (other : c ∉ [' ', '\n', '\r', '\t', '[', ']', '\x7b'])
    (reads : ∀ rest, Ends rest → scalar? (text ++ rest) = some (v, rest)) : Decodes text v := by
  simp only [List.mem_cons, List.not_mem_nil, or_false, not_or] at other
  obtain ⟨space, line, back, tab, opening, closing, brace⟩ := other
  have dark : isBlank c = false := by
    simp only [isBlank, Bool.or_eq_false_iff, beq_eq_false_iff_ne, ne_eq]
    exact ⟨⟨⟨space, line⟩, back⟩, tab⟩
  refine ⟨⟨c, tail, opens, dark, closing⟩, fun fuel rest enough ends => ?_⟩
  have read := reads rest ends
  obtain ⟨fuel, rfl⟩ := Nat.exists_eq_add_one_of_ne_zero (Nat.ne_zero_of_lt enough)
  rw [value?]
  rw [opens, List.cons_append] at read ⊢
  rw [skipBlanks_cons dark]
  split
  · next same => exact absurd (List.cons.inj same).1 opening
  · next same => exact absurd (List.cons.inj same).1 brace
  · exact read

theorem decodes_null : Decodes "null".toList .null :=
  decodes_scalar rfl (by decide) fun _ _ => rfl

theorem decodes_bool (b : Bool) : Decodes (if b then "true" else "false").toList (.bool b) := by
  cases b with
  | true => exact decodes_scalar rfl (by decide) fun _ _ => rfl
  | false => exact decodes_scalar rfl (by decide) fun _ _ => rfl

theorem decodes_int (n : Int) : Decodes (toString n).toList (.int n) := by
  obtain ⟨d, ds, first, digit⟩ := exists_digit n.natAbs
  have plain : d ∉ [' ', '\n', '\r', '\t', '[', ']', '\x7b'] := by
    intro mem
    have none : [' ', '\n', '\r', '\t', '[', ']', '\x7b'].any Text.isDigit = false := by decide
    exact List.any_eq_false.mp none d mem digit
  have written := toList_toString n
  rw [first] at written
  split at written
  · exact decodes_scalar written (by decide) fun _ => scalar?_toString n
  · exact decodes_scalar written plain fun _ => scalar?_toString n

theorem decodes_str (s : String) : Decodes (quoted s).toList (.str s) := by
  have written : (quoted s).toList = '\x22' :: (s.toList.flatMap escapeChar ++ ['\x22']) :=
    String.toList_ofList
  refine decodes_scalar written (by decide) fun rest _ => ?_
  rw [written, List.cons_append, List.append_assoc]
  simp only [scalar?, List.singleton_append, string?_escaped, Option.map_some, String.ofList_toList]

/-! ## Items up to a closing character -/

/-- A reader takes up the texts of items, one at a time: commas go between them, and a character
closes them. -/
structure ReadsItems {α : Type} (read : Nat → List Char → Option (List α × List Char))
    (closing : Char) (spells : String → α → Prop) : Prop where
  blanks : ∀ {fuel blanks rest}, (∀ c ∈ blanks, isBlank c = true) →
    read fuel (blanks ++ rest) = read fuel rest
  last : ∀ {fuel text a} rest, spells text a → text.toList.length < fuel →
    read (fuel + 1) (text.toList ++ closing :: rest) = some ([a], rest)
  more : ∀ {fuel text a rest}, spells text a → text.toList.length < fuel →
    read (fuel + 1) (text.toList ++ ',' :: rest) =
      (read fuel rest).map fun (items, after) => (a :: items, after)

/-- The texts of items, joined by separators, are read as the items. -/
theorem ReadsItems.intercalate {α : Type} {read : Nat → List Char → Option (List α × List Char)}
    {closing : Char} {spells : String → α → Prop} {items : List α}
    (reads : ReadsItems read closing spells) (separates : Separates ',' separator)
    (each : List.Forall₂ spells texts items) (nonempty : texts ≠ [])
    (enough : (separator.intercalate texts).toList.length + 1 < fuel) (rest : List Char) :
    read fuel ((separator.intercalate texts).toList ++ closing :: rest) = some (items, rest) := by
  obtain ⟨blanks, mark, blank⟩ := separates
  induction each generalizing fuel with
  | nil => exact absurd rfl nonempty
  | @cons text a texts items here each ih =>
    obtain ⟨fuel, rfl⟩ := Nat.exists_eq_add_one_of_ne_zero (Nat.ne_zero_of_lt enough)
    cases each with
    | nil =>
      rw [String.intercalate_singleton] at enough ⊢
      exact reads.last rest here (by omega)
    | @cons next a' texts items _ _ =>
      rw [toList_intercalate_cons mark] at enough ⊢
      simp only [List.length_append, List.length_cons] at enough
      have later := @ih fuel (List.cons_ne_nil next texts) (by omega)
      rw [List.append_assoc, List.cons_append, List.append_assoc, reads.more here (by omega),
        reads.blanks blank, later]
      rfl

/-- A text between two characters is read as a value if what opens it is no blank and no end of a
list, and what follows is read. -/
theorem decodes_enclosed {opening closing : String} {c d : Char} {inner : String}
    (opens : opening.toList = [c]) (closes : closing.toList = [d]) (dark : isBlank c = false)
    (other : c ≠ ']')
    (reads : ∀ fuel rest, inner.toList.length + 1 < fuel →
      value? (fuel + 1) (c :: (inner.toList ++ d :: rest)) = some (v, rest)) :
    Decodes (opening ++ inner ++ closing).toList v := by
  have written : (opening ++ inner ++ closing).toList = c :: (inner.toList ++ [d]) := by
    rw [String.toList_append, String.toList_append, opens, closes]
    rfl
  rw [written]
  refine ⟨⟨_, _, rfl, dark, other⟩, fun fuel rest enough _ => ?_⟩
  obtain ⟨fuel, rfl⟩ := Nat.exists_eq_add_one_of_ne_zero (Nat.ne_zero_of_lt enough)
  simp only [List.length_append, List.length_cons, List.length_nil] at enough
  rw [List.cons_append, List.append_assoc, List.singleton_append]
  exact reads fuel rest (by omega)

/-! ## Lists -/

theorem readsItems_items? :
    ReadsItems items? ']' fun text v => Decodes text.toList v where
  blanks := items?_blanks
  last rest here enough := by
    rw [items?, here.reads _ _ enough (ends_cons rfl _)]
    rfl
  more {fuel _ _ rest} here enough := by
    rw [items?, here.reads _ _ enough (ends_cons rfl _)]
    simp only [Option.bind_eq_bind, Option.bind_some]
    rw [skipBlanks_cons rfl]
    simp only
    cases items? fuel rest <;> rfl

/-- A list between brackets is read. -/
theorem decodes_list (separates : Separates ',' separator)
    (each : List.Forall₂ (fun text v => Decodes text.toList v) texts values) :
    Decodes ("[" ++ separator.intercalate texts ++ "]").toList (.list values) := by
  refine decodes_enclosed (c := '[') (d := ']') rfl rfl rfl (by decide) fun fuel rest enough => ?_
  rw [value?, skipBlanks_cons rfl]
  simp only
  cases each with
  | nil => rfl
  | @cons text v texts values here each =>
    have read := readsItems_items?.intercalate separates (.cons here each)
      (List.cons_ne_nil text texts) enough rest
    -- the text begins with an item, which is not the end of the list
    obtain ⟨c, first, opens, dark, other⟩ := here.opens
    obtain ⟨tail, joined⟩ := exists_toList_intercalate separator text texts
    rw [joined, opens, List.cons_append, List.cons_append] at read ⊢
    rw [skipBlanks_cons dark]
    split
    · next same => exact absurd (List.cons.inj same).1 other
    · rw [read]
      rfl

/-! ## Dictionaries -/

/-- A text is that of an entry: a quoted name, a separator and a text that is read as the value. -/
def DecodesEntry (separator text : String) (e : Value × Value) : Prop :=
  ∃ name written, e.1 = .str name ∧ Decodes written.toList e.2 ∧
    text = quoted name ++ separator ++ written

/-- One entry is read, up to the character behind it. -/
theorem entries?_entry (separates : Separates ':' separator) {text : String} {e : Value × Value}
    (entry : DecodesEntry separator text e) (enough : text.toList.length < fuel)
    (ends : Ends rest) : entries? (fuel + 1) (text.toList ++ rest) =
      match skipBlanks rest with
      | ',' :: rest => do
        let (entries, rest) ← entries? fuel rest
        return (e :: entries, rest)
      | '\x7d' :: rest => some ([e], rest)
      | _ => none := by
  obtain ⟨blanks, mark, blank⟩ := separates
  obtain ⟨key, v⟩ := e
  obtain ⟨name, written, rfl, here, rfl⟩ := entry
  have spelled : (quoted name ++ separator ++ written).toList ++ rest =
      '\x22' :: (name.toList.flatMap escapeChar ++
        '\x22' :: ':' :: (blanks ++ (written.toList ++ rest))) := by
    rw [String.toList_append, String.toList_append, mark]
    simp only [quoted, quotedChars, String.toList_ofList, List.cons_append, List.nil_append,
      List.append_assoc]
  have short : written.toList.length < fuel := by
    rw [String.toList_append, List.length_append] at enough
    omega
  rw [spelled, entries?, skipBlanks_cons rfl]
  simp only [string?_escaped, Option.bind_eq_bind, Option.bind_some, String.ofList_toList]
  rw [skipBlanks_cons rfl]
  simp only
  rw [value?_blanks blank, here.reads fuel rest short ends]
  rfl

theorem readsItems_entries? {between : String} (keys : Separates ':' between) :
    ReadsItems entries? '\x7d' (DecodesEntry between) where
  blanks := entries?_blanks
  last rest entry enough := by
    rw [entries?_entry keys entry enough (ends_cons rfl _), skipBlanks_cons rfl]
    rfl
  more {fuel _ _ rest} entry enough := by
    rw [entries?_entry keys entry enough (ends_cons rfl _), skipBlanks_cons rfl]
    simp only
    cases entries? fuel rest <;> rfl

/-- A dictionary between braces is read. -/
theorem decodes_dict {between : String} (separates : Separates ',' separator)
    (keys : Separates ':' between) (each : List.Forall₂ (DecodesEntry between) texts entries) :
    Decodes ("\x7b" ++ separator.intercalate texts ++ "\x7d").toList (.dict entries) := by
  refine decodes_enclosed (c := '\x7b') (d := '\x7d') rfl rfl rfl (by decide) fun fuel rest enough => ?_
  rw [value?, skipBlanks_cons rfl]
  simp only
  cases each with
  | nil => rfl
  | @cons text e texts entries here each =>
    have read := (readsItems_entries? keys).intercalate separates (.cons here each)
      (List.cons_ne_nil text texts) enough rest
    -- the text begins with the quote of a name
    obtain ⟨tail, opens⟩ : ∃ tail,
        (separator.intercalate (text :: texts)).toList ++ '\x7d' :: rest = '\x22' :: tail := by
      obtain ⟨name, value, _, _, rfl⟩ := here
      obtain ⟨tail, joined⟩ := exists_toList_intercalate separator
        (quoted name ++ between ++ value) texts
      rw [joined, String.toList_append, String.toList_append, quoted, String.toList_ofList]
      exact ⟨_, rfl⟩
    rw [opens] at read ⊢
    rw [skipBlanks_cons rfl]
    split
    · next same => cases same
    · rw [read]
      rfl

/-! ## Values -/

/-- The layouts whose texts can be read back: items are separated by commas and names from values
by colons, whatever blanks follow. -/
structure Readable (layout : JsonLayout) : Prop where
  items : Separates ',' layout.itemSeparator
  keys : Separates ':' layout.keySeparator

theorem readable_compact : Readable .compact :=
  ⟨⟨[], rfl, List.forall_mem_nil _⟩, ⟨[], rfl, List.forall_mem_nil _⟩⟩

theorem readable_line : Readable .line :=
  ⟨⟨[' '], rfl, List.forall_mem_singleton.mpr rfl⟩, ⟨[' '], rfl, List.forall_mem_singleton.mpr rfl⟩⟩

/-- What a value that JSON has is written as is read as the value, up to the order of entries, and
as the very value where keys are not sorted. -/
theorem exists_decodes {layout : JsonLayout} (readable : Readable layout) (json : v.IsJson)
    (short : v.IsShort) :
    ∃ text w, v.toJson layout = .ok text ∧ v.Reordered w ∧ (layout.sortKeys = false → w = v) ∧
      Decodes text.toList w := by
  induction json with
  | null => exact ⟨_, _, rfl, .refl _, fun _ => rfl, decodes_null⟩
  | bool b => exact ⟨_, _, rfl, .refl _, fun _ => rfl, decodes_bool b⟩
  | int n =>
    refine ⟨toString n, _, ?_, .refl _, fun _ => rfl, decodes_int n⟩
    have writable := Value.isShort_int_iff.mp short
    rw [Value.toJson, Value.integerJson, integerText_of_not_overlong writable]
    rfl
  | str s => exact ⟨_, _, rfl, .refl _, fun _ => rfl, decodes_str s⟩
  | @list items _ ih =>
    have each := Value.isShort_list_iff.mp short
    choose! text value written reordered same decodes using fun v mem => ih v mem (each v mem)
    have texts : items.mapM (·.toJson layout) = .ok (items.map text) :=
      Outcome.mapM_ok_iff.mpr (List.forall₂_map_right_iff.mpr (List.forall₂_same.mpr written))
    have values : List.Forall₂ Value.Reordered items (items.map value) :=
      List.forall₂_map_right_iff.mpr (List.forall₂_same.mpr reordered)
    have each : List.Forall₂ (fun text v => Decodes text.toList v) (items.map text)
        (items.map value) :=
      List.forall₂_map_left_iff.mpr
        (List.forall₂_map_right_iff.mpr (List.forall₂_same.mpr decodes))
    refine ⟨_, _, ?_, .of_items values, fun unsorted => ?_, decodes_list readable.items each⟩
    · rw [Value.toJson_list, texts]
      rfl
    · rw [List.map_congr_left fun v mem => same v mem unsorted, List.map_id']
  | @dict entries named _ _ ih =>
    have each := Value.isShort_dict_iff.mp short
    choose! text value written reordered same decodes using fun e mem => ih e mem (each e mem).2
    obtain ⟨ordered, perm, kept, done⟩ := Value.exists_entryTexts named written
    have entry (e) (mem : e ∈ ordered) : DecodesEntry layout.keySeparator
        (quoted (Value.nameOf e) ++ layout.keySeparator ++ text e) (e.1, value e) := by
      obtain ⟨name, key⟩ := named e (perm.subset mem)
      refine ⟨name, text e, key, decodes e (perm.subset mem), ?_⟩
      rw [Value.nameOf, key]
    have values : List.Forall₂ (fun e e' : Value × Value => e.1 = e'.1 ∧ e.2.Reordered e'.2) ordered
        (ordered.map fun e => (e.1, value e)) :=
      List.forall₂_map_right_iff.mpr
        (List.forall₂_same.mpr fun e mem => ⟨rfl, reordered e (perm.subset mem)⟩)
    refine ⟨_, _, done, .trans (.entries perm.symm) (.of_values values), fun unsorted => ?_,
      decodes_dict readable.items readable.keys (List.forall₂_map_left_iff.mpr
        (List.forall₂_map_right_iff.mpr (List.forall₂_same.mpr entry)))⟩
    have own : ∀ e ∈ entries, (e.1, value e) = e := fun e mem => by rw [same e mem unsorted]
    rw [kept unsorted, List.map_congr_left own, List.map_id']

/-- A text that is read wherever it stands is read on its own. -/
theorem Decodes.parse? {s : String} (decodes : Decodes s.toList v) : parse? s = some v := by
  have enough : s.toList.length < s.length + 1 := by
    rw [String.length_toList]
    exact Nat.lt_succ_self _
  have read := decodes.reads _ [] enough ends_nil
  rw [List.append_nil] at read
  unfold Json.parse?
  rw [read]
  rfl

/-- A quoted string is read as the string. -/
theorem parse?_quoted (s : String) : parse? (quoted s) = some (.str s) := (decodes_str s).parse?

/-- What a value that JSON has is written as is read as the value, up to the order of entries. -/
theorem parse?_toJson {layout : JsonLayout} (readable : Readable layout) (json : v.IsJson)
    (short : v.IsShort) :
    ∃ text w, v.toJson layout = .ok text ∧ parse? text = some w ∧ v.Reordered w := by
  obtain ⟨text, w, written, reordered, _, decodes⟩ := exists_decodes readable json short
  exact ⟨text, w, written, decodes.parse?, reordered⟩

/-- Where keys are not sorted, what a value that JSON has is written as is read as the value. -/
theorem parse?_toJson_of_unsorted {layout : JsonLayout} (readable : Readable layout)
    (unsorted : layout.sortKeys = false) (json : v.IsJson) (short : v.IsShort) :
    ∃ text, v.toJson layout = .ok text ∧ parse? text = some v := by
  obtain ⟨text, w, written, _, same, decodes⟩ := exists_decodes readable json short
  obtain rfl := same unsorted
  exact ⟨text, written, decodes.parse?⟩

end SchemaCompiler.Json
