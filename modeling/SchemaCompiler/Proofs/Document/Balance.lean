import SchemaCompiler.Proofs.Document.Layout

/-!
# Blocks with balanced braces

A block is read back if its braces besides the outer ones are balanced line by line
(`readsBack_of_balanced`). That holds of the settings of a document if the texts they are given hold
no brace and no line separator, and of a model block if it holds of its members and directives.
-/

set_option autoImplicit false

namespace SchemaCompiler

open Block (Closes balance code opening?)
open Text (IsName OneLine closedLines joined)

variable {s t first separator : String} {line : List Char} {ls : List (List Char)} {depth : Int}
  {texts inner schemas : List String} {o : Options} {b : ModelBlock}

namespace Block

/-- A line without slashes has no comment. -/
theorem code_eq_self (h : '/' ∉ line) : code line = line := by
  induction line using code.induct with
  | case1 => rfl
  | case2 rest => exact absurd List.mem_cons_self h
  | case3 c cs other ih =>
    rw [code, ih fun mem => h (List.mem_cons_of_mem c mem)]
    exact other

theorem code_subset (line : List Char) : code line ⊆ line := by
  induction line using code.induct with
  | case1 => exact List.Subset.refl _
  | case2 rest => exact List.nil_subset _
  | case3 c cs other ih =>
    rw [code]
    · exact List.cons_subset_cons c ih
    · exact other

/-- A line without braces is balanced. -/
theorem balance_eq_zero (h : ∀ c ∈ line, c ≠ '\x7b' ∧ c ≠ '\x7d') : balance line = 0 := by
  unfold balance
  rw [List.count_eq_zero_of_not_mem fun mem => (h _ (code_subset line mem)).1 rfl,
    List.count_eq_zero_of_not_mem fun mem => (h _ (code_subset line mem)).2 rfl]
  rfl

/-- Lines that are balanced each keep braces open up to a line that closes them. -/
theorem closes_of_balanced (is_open : 0 < depth) (each : ∀ l ∈ ls, balance l = 0)
    (closing : depth + balance line ≤ 0) : Closes depth (ls ++ [line]) := by
  induction ls with
  | nil =>
    rw [List.nil_append, Closes, if_pos closing]
  | cons l ls ih =>
    obtain ⟨here, later⟩ := List.forall_mem_cons.mp each
    rw [List.cons_append, Closes, here, Int.add_zero, if_neg (Int.not_le.mpr is_open)]
    exact ih later

end Block

/-- A block is read back if its first line opens one brace, the lines below it are balanced each,
and the last line closes that brace. -/
theorem readsBack_of_balanced {block : Block}
    (text : block.text = "\n".intercalate (first :: (inner ++ ["\x7d"])))
    (opens : opening? first.toList = some (block.kind, block.name)) (one : OneLine first)
    (begins : balance first.toList = 1)
    (each : ∀ t ∈ inner, OneLine t ∧ balance t.toList = 0) : block.ReadsBack := by
  have lines : ∀ t ∈ first :: (inner ++ ["\x7d"]), OneLine t := List.forall_mem_cons.mpr
    ⟨one, List.forall_mem_append.mpr
      ⟨fun t mem => (each t mem).1, List.forall_mem_singleton.mpr (by decide)⟩⟩
  have run : closedLines block.text = (first :: (inner ++ ["\x7d"])).map String.toList := by
    rw [text]
    exact Text.closedLines_of_each_oneLine (List.cons_ne_nil _ _) lines
  have closing : (1 : Int) + balance "\x7d".toList ≤ 0 := by decide
  refine Block.readsBack_iff_isRun.mpr ⟨?_, ?_, ?_⟩
  · rw [run]
    exact opens
  · rw [run, List.map_cons, List.map_append, List.map_singleton, Closes, begins, Int.zero_add,
      if_neg (by decide)]
    exact Block.closes_of_balanced (by decide)
      (List.forall_mem_map.mpr fun t mem => (each t mem).2) closing
  · rw [run, text]
    unfold joined
    rw [List.map_map]
    exact congrArg _ (List.map_id'' (fun t => String.ofList_toList) _).symm

/-! ## Settings -/

namespace Text

/-- A text of one line without braces. -/
def Unbraced (s : String) : Prop :=
  Each (fun c => isLineBreak c = false ∧ c ≠ '\x7b' ∧ c ≠ '\x7d') s

instance (s : String) : Decidable (Unbraced s) := List.decidableBAll _ _

theorem Unbraced.oneLine (h : Unbraced s) : OneLine s := fun c mem => (h c mem).1

theorem Unbraced.append (first : Unbraced s) (second : Unbraced t) : Unbraced (s ++ t) :=
  Each.append first second

theorem unbraced_intercalate (between : Unbraced separator) (each : ∀ t ∈ texts, Unbraced t) :
    Unbraced (separator.intercalate texts) :=
  each_intercalate between each

theorem Unbraced.balance_eq_zero (h : Unbraced s) : balance s.toList = 0 :=
  Block.balance_eq_zero fun c mem => (h c mem).2

theorem IsName.unbraced (h : IsName s) : Unbraced s := by
  intro c mem
  have word := h.2 c mem
  refine ⟨isLineBreak_of_isWord word, ?_, ?_⟩ <;>
    · rintro rfl
      exact absurd word (by decide +kernel)

end Text

open Text (Unbraced)

/-- Options whose texts in the settings hold no brace and no line separator. -/
structure Options.Unbraced (o : Options) : Prop where
  connectionEnv : Text.Unbraced o.connectionEnv
  clientOutput : Text.Unbraced o.clientOutput
  binaryTargets : ∀ t ∈ o.binaryTargets, Text.Unbraced t

theorem Options.standard_unbraced : Options.standard.Unbraced where
  connectionEnv := by decide
  clientOutput := by decide
  binaryTargets := by decide +kernel

namespace Document

theorem unbraced_enclosed (h : Unbraced s) : Unbraced (enclosed s) :=
  (Unbraced.append (by decide) h).append (by decide)

theorem unbraced_enclosedList (h : ∀ t ∈ texts, Unbraced t) : Unbraced (enclosedList texts) :=
  (Unbraced.append (by decide) (Text.unbraced_intercalate (by decide)
    (List.forall_mem_map.mpr fun t mem => unbraced_enclosed (h t mem)))).append (by decide)

/-- The entries of a settings block whose keys and values hold no brace. -/
def Settled (entries : List (String × String)) : Prop :=
  ∀ e ∈ entries, Unbraced e.1 ∧ Unbraced e.2

theorem settled_listEntry {key : String} (named : Unbraced key) (h : ∀ t ∈ texts, Unbraced t) :
    Settled (listEntry key texts) := by
  unfold listEntry
  split
  · exact List.forall_mem_nil _
  · exact List.forall_mem_singleton.mpr ⟨named, unbraced_enclosedList h⟩

/-- The line that opens a block opens one brace. -/
theorem balance_opener (h : Unbraced s) (uncommented : '/' ∉ s.toList) :
    balance (s ++ " \x7b").toList = 1 := by
  have whole : '/' ∉ (s ++ " \x7b").toList := by
    rw [String.toList_append]
    exact fun mem => (List.mem_append.mp mem).elim uncommented (by decide)
  unfold balance
  rw [Block.code_eq_self whole, String.toList_append, List.count_append, List.count_append,
    List.count_eq_zero_of_not_mem fun mem => (h _ mem).2.1 rfl,
    List.count_eq_zero_of_not_mem fun mem => (h _ mem).2.2 rfl]
  decide

theorem unbraced_padRight (width : Nat) (h : Unbraced s) :
    Unbraced (ModelBlock.padRight width s) := by
  refine h.append fun c mem => ?_
  rw [String.toList_ofList] at mem
  rw [List.eq_of_mem_replicate mem]
  decide

/-- Settings whose entries hold no brace are read back. -/
theorem readsBack_settings {block : Block} {opener : String} {entries : List (String × String)}
    (text : block.text = settings opener entries) (named : Unbraced opener)
    (uncommented : '/' ∉ opener.toList)
    (opens : opening? (opener ++ " \x7b").toList = some (block.kind, block.name))
    (settled : Settled entries) : block.ReadsBack := by
  refine readsBack_of_balanced text opens (named.oneLine.append (by decide))
    (balance_opener named uncommented) (List.forall_mem_map.mpr fun e mem => ?_)
  obtain ⟨key, value⟩ := settled e mem
  have line : Unbraced (ModelBlock.indent ++ ModelBlock.padRight
      (ModelBlock.widest (entries.map (·.1))) e.1 ++ " = " ++ e.2) :=
    ((Unbraced.append (by decide) (unbraced_padRight _ key)).append (by decide)).append value
  exact ⟨line.oneLine, line.balance_eq_zero⟩

theorem readsBack_datasource (h : o.Unbraced) (named : ∀ s ∈ schemas, Unbraced s) :
    (datasourceBlock o schemas).ReadsBack := by
  have dialect : Unbraced o.dialect.name := by cases o.dialect <;> decide
  have opens : opening? ("datasource db" ++ " \x7b").toList = some (.datasource, "db") := by
    decide +kernel
  refine readsBack_settings (datasourceBlock_text o schemas) (by decide) (by decide) opens ?_
  refine List.forall_mem_append.mpr ⟨?_, settled_listEntry (by decide) named⟩
  simp only [List.forall_mem_cons, List.not_mem_nil, false_imp_iff, implies_true, and_true]
  exact ⟨⟨by decide, unbraced_enclosed dialect⟩, by decide,
    (Unbraced.append (by decide) (unbraced_enclosed h.connectionEnv)).append (by decide)⟩

theorem readsBack_clientGenerator (h : o.Unbraced) (schemas : List String) :
    (generatorBlock o schemas).ReadsBack := by
  have opens : opening? ("generator client" ++ " \x7b").toList = some (.generator, "client") := by
    decide +kernel
  have features : ∀ t ∈ previewFeatures schemas, Unbraced t := by
    unfold previewFeatures
    split
    · exact List.forall_mem_nil _
    · exact List.forall_mem_singleton.mpr (by decide)
  refine readsBack_settings (generatorBlock_text o schemas) (by decide) (by decide) opens ?_
  refine List.forall_mem_append.mpr ⟨List.forall_mem_append.mpr ⟨?_,
    settled_listEntry (by decide) h.binaryTargets⟩, settled_listEntry (by decide) features⟩
  simp only [List.forall_mem_cons, List.not_mem_nil, false_imp_iff, implies_true, and_true]
  exact ⟨⟨by decide, unbraced_enclosed (by decide)⟩, by decide, unbraced_enclosed h.clientOutput⟩

end Document

/-- A model block is read back if its members and directives are balanced each. -/
theorem ModelBlock.readsBack_block {f : Formatter} (name : IsName b.name)
    (each : ∀ t ∈ b.innerLines f, OneLine t ∧ balance t.toList = 0) : (b.block f).ReadsBack := by
  have named : Unbraced ("model " ++ b.name) := Unbraced.append (by decide) name.unbraced
  have uncommented : '/' ∉ ("model " ++ b.name).toList := by
    rw [String.toList_append]
    intro mem
    rcases List.mem_append.mp mem with before | within
    · exact absurd before (by decide)
    · exact absurd (name.2 _ within) (by decide +kernel)
  exact readsBack_of_balanced (block_text f b) (Block.opening?_model name.2 name.1)
    (named.oneLine.append (by decide)) (Document.balance_opener named uncommented) each

end SchemaCompiler
