import EntityMapper.Proofs.Model.Writing
import EntityMapper.Proofs.Sql.Reading

/-!
# Conditions are read back

The text and the arguments of a clause determine its condition, up to labels, which count only in
projections. So conditions that differ compile to different clauses, and several conditions compile
to the clause of their conjunction from the left.

## Main definitions

* `Predicate.unlabelled p`: the condition without labels
* `Predicate.Plain p`: the condition has no part that is written by hand
* `Predicate.emit`, `Clause.emit`: what conditions and clauses are compiled to

## Main results

* `Predicate.parts`, `Predicate.fills`: where a condition begins, and how long it is
* `Predicate.reads`, `readClause_emit`: a condition and the condition of a clause are read back
* `emit_both`, `emit_cons`: joined conditions, and clauses of several conditions
* `conditions_recovered`: clauses determine their conditions
-/

namespace EntityMapper.Sql

open EntityMapper.Text

/-! ## Labels -/

/-- The column without its label. -/
def Column.unlabelled (c : Column) : Column := { c with label := none }

/-- The aggregate without its label. -/
def Aggregate.unlabelled (a : Aggregate) : Aggregate := { a with label := none }

/-- The subject without its label. -/
def Subject.unlabelled : Subject → Subject
  | .column c => .column c.unlabelled
  | .aggregate a => .aggregate a.unlabelled
  | .fragment r => .fragment r

/-- The operand without its label. -/
def Operand.unlabelled : Operand → Operand
  | .subject s => .subject s.unlabelled
  | .value v => .value v

namespace Predicate

/-- **The condition without labels**, which count only in projections. -/
def unlabelled : Predicate → Predicate
  | compare l op r => compare l.unlabelled op r.unlabelled
  | compareTruth l op r => compareTruth l.unlabelled op r.unlabelled
  | both l r => both l.unlabelled r.unlabelled
  | either l r => either l.unlabelled r.unlabelled
  | negation p => negation p.unlabelled
  | fragment r => fragment r

/-- **The condition has no part that is written by hand.** -/
def Plain (p : Predicate) : Prop := ∀ r, .fragment r ∉ p.sources

/-- How many conditions stand in one another; what is written by hand does not count. -/
def height : Predicate → Nat
  | compare _ _ _ => 1
  | compareTruth _ _ r => r.height + 1
  | both l r => max l.height r.height + 1
  | either l r => max l.height r.height + 1
  | negation p => p.height + 1
  | fragment _ => 0

end Predicate

/-- Neither of two parts is written by hand. -/
theorem plain_append {ss ts : List Source} (h : ∀ r, .fragment r ∉ ss ++ ts) :
    (∀ r, .fragment r ∉ ss) ∧ ∀ r, .fragment r ∉ ts :=
  ⟨fun r hr => h r (List.mem_append_left _ hr), fun r hr => h r (List.mem_append_right _ hr)⟩

section Reading

variable {d : Dialect} {m : Model} {e : Entity} {clause : Clause}

/-! ## The templates of conditions -/

namespace Predicate

variable (l : Subject) (op : Comparison) (p q : Predicate)

theorem items_compare (r : Operand) : (compare l op r).items clause =
    l.items clause ++ ([.text (" " ++ op.sign ++ " ")] ++ r.items clause) := by
  simp [items]

theorem items_compareTruth : (compareTruth l op p).items clause =
    l.items clause ++ ([.text (" " ++ op.sign ++ " ")] ++ grouped (p.items clause)) := by
  simp [items, grouped]

theorem items_both : (both p q).items clause =
    grouped (p.items clause) ++ ([.text " AND "] ++ grouped (q.items clause)) := by
  simp [items, grouped]

theorem items_either : (either p q).items clause =
    grouped (p.items clause) ++ ([.text " OR "] ++ grouped (q.items clause)) := by
  simp [items, grouped]

theorem items_negation : (negation p).items clause =
    [.text " NOT "] ++ grouped (p.items clause) := rfl

end Predicate

/-! ## First characters -/

/-- What subjects begin with: a quote, or the first letter of a function. -/
def subjectHeads : List Char := ['\x60', '"', 'A', 'S', 'C', 'M']

/-- No subject begins like a digit, a nested condition, a negation, or an argument. -/
theorem subjectHeads_spec : ∀ ch ∈ subjectHeads,
    digitValue? ch = none ∧ ch ≠ '(' ∧ ch ≠ ' ' ∧ ch ≠ '?' ∧ ch ≠ '$' := by
  simp [subjectHeads, digitValue?]

theorem quoteChar_mem (d : Dialect) : d.quoteChar ∈ subjectHeads := by cases d <;> decide

/-- An aggregate begins with a letter. -/
theorem Aggregate.begins (d : Dialect) (m : Model) (a : Aggregate) :
    ∃ ch ∈ ['A', 'S', 'C', 'M'], Begins d m a.items ch := by
  obtain ⟨f, c, label⟩ := a
  cases f with
  | avg => exact ⟨'A', by decide, (Begins.text (s := "AVG(") rfl).append _⟩
  | sum => exact ⟨'S', by decide, (Begins.text (s := "SUM(") rfl).append _⟩
  | count => exact ⟨'C', by decide, (Begins.text (s := "COUNT(") rfl).append _⟩
  | max => exact ⟨'M', by decide, (Begins.text (s := "MAX(") rfl).append _⟩
  | min => exact ⟨'M', by decide, (Begins.text (s := "MIN(") rfl).append _⟩

theorem Subject.begins (clause : Clause) (d : Dialect) (m : Model) {s : Subject}
    (hs : ∀ r, .fragment r ∉ s.sources) :
    ∃ ch ∈ subjectHeads, Begins d m (s.items clause) ch := by
  cases s with
  | fragment r => exact absurd List.mem_cons_self (hs r)
  | column c => exact ⟨_, quoteChar_mem d, .column c.name⟩
  | aggregate a =>
    cases clause with
    | filter => exact ⟨'A', by decide, by rintro ps ⟨⟩⟩
    | having =>
      obtain ⟨ch, hch, hbegins⟩ := a.begins d m
      have hletters : ∀ ch ∈ ['A', 'S', 'C', 'M'], ch ∈ subjectHeads := by simp [subjectHeads]
      exact ⟨ch, hletters ch hch, hbegins⟩

/-- The other side of a comparison begins with no digit. -/
theorem Operand.parts (d : Dialect) (m : Model) {o : Operand}
    (ho : ∀ r, .fragment r ∉ o.sources) : Parts d m (o.items clause) := by
  cases o with
  | subject s =>
    obtain ⟨ch, hch, hbegins⟩ := s.begins clause d m ho
    exact hbegins.parts (subjectHeads_spec ch hch).1
  | value v =>
    obtain ⟨ch, hch, hbegins⟩ := Begins.arg d m v
    refine hbegins.parts ?_
    rcases List.mem_pair.mp hch with rfl | rfl <;> rfl

/-- A condition begins with no digit. -/
theorem Predicate.parts (d : Dialect) (m : Model) {p : Predicate} (hp : p.Plain) :
    Parts d m (p.items clause) := by
  cases p with
  | compare l op r =>
    obtain ⟨ch, hch, hbegins⟩ := l.begins clause d m (plain_append hp).1
    exact items_compare l op r ▸ (hbegins.append _).parts (subjectHeads_spec ch hch).1
  | compareTruth l op r =>
    obtain ⟨ch, hch, hbegins⟩ := l.begins clause d m (plain_append hp).1
    exact items_compareTruth l op r ▸ (hbegins.append _).parts (subjectHeads_spec ch hch).1
  | both l r => exact items_both l r ▸ ((Begins.grouped _).append _).parts rfl
  | either l r => exact items_either l r ▸ ((Begins.grouped _).append _).parts rfl
  | negation p => exact ((Begins.text (s := " NOT ") rfl).append _).parts rfl
  | fragment r => exact absurd List.mem_cons_self (hp r)

/-! ## Reading -/

/-- The subject of a comparison is read back. -/
theorem Subject.reads (hm : m.Fits e) (hquote : ∀ f ∈ m.fields, d.quoteChar ∉ f.columnName.toList)
    {s : Subject} (hs : ∀ r, .fragment r ∉ s.sources) :
    Reads d m (Reader.subject d m) (s.items clause) s.unlabelled := by
  cases s with
  | fragment r => exact absurd List.mem_cons_self (hs r)
  | column c =>
    refine .peek (Begins.column c.name) ?_
    rw [if_pos rfl]
    exact (Reads.column hm hquote c.name).map _
  | aggregate a =>
    cases clause with
    | filter => exact .refusal _
    | having =>
      obtain ⟨ch, hch, hbegins⟩ := a.begins d m
      have hletters : ∀ ch ∈ ['A', 'S', 'C', 'M'], some ch ≠ some d.quoteChar := by
        cases d <;> simp [Dialect.quoteChar]
      refine .peek hbegins ?_
      rw [if_neg (hletters ch hch)]
      have hcolumn : Parts d m ([.column a.column] ++ [.text ")"]) :=
        ((Begins.column a.column).append _).parts (subjectHeads_spec _ (quoteChar_mem d)).1
      have hclose : Parts d m [.text ")"] := .text rfl rfl
      refine (Reads.function a.function).bind hcolumn ?_
      exact (Reads.column hm hquote a.column).bind hclose ((Reads.expect ")").map _)

/-- The other side of a comparison is read back. -/
theorem Operand.reads (hm : m.Fits e) (hquote : ∀ f ∈ m.fields, d.quoteChar ∉ f.columnName.toList)
    {o : Operand} (ho : ∀ r, .fragment r ∉ o.sources) (nested : Reader Predicate) (l : Subject)
    (op : Comparison) :
    Reads d m (Reader.rightSide d m nested l op) (o.items clause)
      (.compare l op o.unlabelled) := by
  cases o with
  | value v =>
    obtain ⟨ch, hch, hbegins⟩ := Begins.arg d m v
    refine .peek hbegins ?_
    rcases List.mem_pair.mp hch with rfl | rfl
    · exact (Reads.argument v).map _
    · exact (Reads.argument v).map _
  | subject s =>
    obtain ⟨ch, hch, hbegins⟩ := s.begins clause d m ho
    obtain ⟨-, hparen, -, hmark, hdollar⟩ := subjectHeads_spec ch hch
    refine .peek hbegins ?_
    split
    · exact absurd (Option.some.inj ‹_›) hparen
    · exact absurd (Option.some.inj ‹_›) hmark
    · exact absurd (Option.some.inj ‹_›) hdollar
    · exact (s.reads hm hquote ho).map _

/-- Comparisons are read from their subject on. -/
theorem reads_comparison (hm : m.Fits e)
    (hquote : ∀ f ∈ m.fields, d.quoteChar ∉ f.columnName.toList) {l : Subject}
    (hl : ∀ r, .fragment r ∉ l.sources) {op : Comparison} {is : List Item} {p : Predicate}
    {depth : Nat} (his : Parts d m is)
    (h : Reads d m (Reader.rightSide d m (Reader.inParens (Reader.condition d m depth))
      l.unlabelled op) is p) :
    Reads d m (Reader.condition d m (depth + 1))
      (l.items clause ++ ([.text (" " ++ op.sign ++ " ")] ++ is)) p := by
  obtain ⟨ch, hch, hbegins⟩ := l.begins clause d m hl
  obtain ⟨-, hparen, hblank, -, -⟩ := subjectHeads_spec ch hch
  have hsign : Parts d m ([.text (" " ++ op.sign ++ " ")] ++ is) := by
    have hblank : Begins d m [.text (" " ++ op.sign ++ " ")] ' ' := .text (by simp; rfl)
    exact (hblank.append _).parts rfl
  refine .peek (hbegins.append _) ?_
  split
  · exact absurd (Option.some.inj ‹_›) hparen
  · exact absurd (Option.some.inj ‹_›) hblank
  · exact (l.reads hm hquote hl).bind hsign ((Reads.comparison op).bind his h)

/-- Joined conditions are read one after the other. -/
theorem reads_join {join : Predicate → Predicate → Predicate} {s : String}
    (hmem : (join, s) ∈ Reader.joins) {is js : List Item} {p q : Predicate} {depth : Nat}
    (his : Parts d m is) (hjs : Parts d m js) (hp : Reads d m (Reader.condition d m depth) is p)
    (hq : Reads d m (Reader.condition d m depth) js q) :
    Reads d m (Reader.condition d m (depth + 1)) (grouped is ++ ([.text s] ++ grouped js))
      (join p q) := by
  have hsign : Parts d m ([.text s] ++ grouped js) := by
    have hs : ∃ cs, s.toList = ' ' :: cs := by
      rcases List.mem_pair.mp hmem with h | h <;> cases h <;> exact ⟨_, rfl⟩
    obtain ⟨cs, hcs⟩ := hs
    exact ((Begins.text hcs).append _).parts rfl
  refine .peek ((Begins.grouped is).append _) ?_
  refine (hp.inParens his).bind hsign ((Reads.oneOf (by decide) hmem).bind ?_ ?_)
  · exact (Begins.grouped js).parts rfl
  · exact (hq.inParens hjs).map _

/-- **A condition is read back**, up to labels. -/
theorem Predicate.reads (hm : m.Fits e)
    (hquote : ∀ f ∈ m.fields, d.quoteChar ∉ f.columnName.toList) {p : Predicate} (hp : p.Plain)
    {depth : Nat} (hd : p.height ≤ depth) :
    Reads d m (Reader.condition d m depth) (p.items clause) p.unlabelled := by
  -- Induction on the condition: its first character tells how it was built.
  induction p generalizing depth with
  | compare l op r =>
    obtain ⟨hl, hr⟩ := plain_append hp
    obtain ⟨n, rfl⟩ : ∃ n, depth = n + 1 := Nat.exists_eq_add_of_le' hd
    rw [items_compare]
    exact reads_comparison hm hquote hl (r.parts d m hr) (r.reads hm hquote hr _ _ op)
  | compareTruth l op r ih =>
    obtain ⟨hl, hr⟩ := plain_append hp
    obtain ⟨n, rfl⟩ : ∃ n, depth = n + 1 := Nat.exists_eq_add_of_le' (Nat.le_of_add_left_le hd)
    rw [items_compareTruth]
    refine reads_comparison hm hquote hl ((Begins.grouped _).parts rfl) ?_
    refine .peek (Begins.grouped _) ?_
    exact ((ih hr (Nat.le_of_succ_le_succ hd)).inParens (r.parts d m hr)).map _
  | both l r ihl ihr =>
    obtain ⟨hl, hr⟩ := plain_append hp
    obtain ⟨n, rfl⟩ : ∃ n, depth = n + 1 := Nat.exists_eq_add_of_le' (Nat.le_of_add_left_le hd)
    obtain ⟨hdl, hdr⟩ := Nat.max_le.mp (Nat.le_of_succ_le_succ hd)
    rw [items_both]
    exact reads_join List.mem_cons_self (l.parts d m hl) (r.parts d m hr) (ihl hl hdl) (ihr hr hdr)
  | either l r ihl ihr =>
    obtain ⟨hl, hr⟩ := plain_append hp
    obtain ⟨n, rfl⟩ : ∃ n, depth = n + 1 := Nat.exists_eq_add_of_le' (Nat.le_of_add_left_le hd)
    obtain ⟨hdl, hdr⟩ := Nat.max_le.mp (Nat.le_of_succ_le_succ hd)
    rw [items_either]
    exact reads_join (List.mem_cons_of_mem _ List.mem_cons_self) (l.parts d m hl) (r.parts d m hr)
      (ihl hl hdl) (ihr hr hdr)
  | negation p ih =>
    obtain ⟨n, rfl⟩ : ∃ n, depth = n + 1 := Nat.exists_eq_add_of_le' (Nat.le_of_add_left_le hd)
    rw [items_negation]
    refine .peek ((Begins.text (s := " NOT ") rfl).append _) ?_
    refine (Reads.expect _).bind ((Begins.grouped _).parts rfl) ?_
    exact ((ih hp (Nat.le_of_succ_le_succ hd)).inParens (p.parts d m hp)).map _
  | fragment r => exact absurd List.mem_cons_self (hp r)

/-! ## Lengths -/

/-- If the template resolves, its text has at least so many characters. -/
def Fills (d : Dialect) (m : Model) (is : List Item) (n : Nat) : Prop :=
  ∀ ps, resolveAll m is = .ok ps → ∀ bound, n ≤ (renderFrom d bound ps).length

namespace Fills

variable {is js : List Item} {n k : Nat}

theorem zero : Fills d m is 0 := fun _ _ _ => Nat.zero_le _

theorem text (s : String) : Fills d m [.text s] s.toList.length := by
  rintro ps h bound
  cases h
  simp [renderFrom, Piece.chars]

theorem append (h : Fills d m is n) (h' : Fills d m js k) : Fills d m (is ++ js) (n + k) := by
  intro ps hps bound
  obtain ⟨qs, rs, hqs, hrs, rfl⟩ := resolveAll_append_eq_ok.mp hps
  rw [renderFrom_append, List.length_append]
  exact Nat.add_le_add (h qs hqs _) (h' rs hrs _)

theorem grouped (h : Fills d m is n) : Fills d m (grouped is) (n + 2) := by
  have hparens := (text (d := d) (m := m) "(").append (h.append (text ")"))
  intro ps hps bound
  have hlength : 1 + (n + 1) ≤ (renderFrom d bound ps).length := hparens ps hps bound
  omega

theorem mono (h : Fills d m is n) (hk : k ≤ n) : Fills d m is k :=
  fun ps hps bound => hk.trans (h ps hps bound)

end Fills

/-- The text of a condition has as many characters as there are conditions in one another. -/
theorem Predicate.fills (d : Dialect) (m : Model) (p : Predicate) :
    Fills d m (p.items clause) p.height := by
  induction p with
  | compare l op r =>
    rw [items_compare]
    refine (Fills.zero.append ((Fills.text _).append Fills.zero)).mono ?_
    simp [height]
  | compareTruth l op r ih =>
    rw [items_compareTruth]
    refine (Fills.zero.append ((Fills.text _).append ih.grouped)).mono ?_
    simp only [height]
    omega
  | both l r ihl ihr =>
    rw [items_both]
    refine (ihl.grouped.append ((Fills.text _).append ihr.grouped)).mono ?_
    simp only [height]
    omega
  | either l r ihl ihr =>
    rw [items_either]
    refine (ihl.grouped.append ((Fills.text _).append ihr.grouped)).mono ?_
    simp only [height]
    omega
  | negation p ih =>
    rw [items_negation]
    refine ((Fills.text _).append ih.grouped).mono ?_
    simp only [height]
    omega
  | fragment r => exact Fills.zero

end Reading

/-! ## Compiling -/

/-- **What a template is compiled to** after `bound` arguments. -/
def compileFrom (d : Dialect) (m : Model) (bound : Nat) (is : List Item) : Except Error Query :=
  (resolveAll m is).map fun ps => ⟨String.ofList (renderFrom d bound ps), ps.flatMap Piece.args⟩

/-- What a condition is compiled to after `bound` arguments. -/
def Predicate.emit (d : Dialect) (m : Model) (bound : Nat) (clause : Clause) (p : Predicate) :
    Except Error Query :=
  compileFrom d m bound (p.items clause)

namespace Clause

/-- The keyword in front of a clause. -/
def keyword : Clause → String
  | filter => " WHERE "
  | having => " HAVING "

/-- The template of a clause of conditions. -/
def items : Clause → List Predicate → List Item
  | filter => whereItems
  | having => havingItems

/-- **What a clause of conditions is compiled to** after `bound` arguments. -/
def emit (d : Dialect) (m : Model) (bound : Nat) (clause : Clause) (ps : List Predicate) :
    Except Error Query :=
  compileFrom d m bound (clause.items ps)

theorem items_cons (clause : Clause) (p : Predicate) (ps : List Predicate) :
    clause.items (p :: ps) = [.text clause.keyword] ++ (ps.foldl .both p).items clause := by
  cases clause <;> rfl

end Clause

section Compiling

variable {d : Dialect} {m : Model} {e : Entity} {clause : Clause} {bound : Nat} {q : Query}
  {is js : List Item}

/-- Templates one after another are compiled one after another. -/
theorem compileFrom_append : compileFrom d m bound (is ++ js) = .ok q ↔
    ∃ q₁ q₂, compileFrom d m bound is = .ok q₁ ∧
      compileFrom d m (bound + q₁.args.length) js = .ok q₂ ∧
      q = ⟨q₁.sql ++ q₂.sql, q₁.args ++ q₂.args⟩ := by
  simp only [compileFrom, map_eq_ok, resolveAll_append_eq_ok]
  constructor
  · rintro ⟨_, ⟨ps, qs, hps, hqs, rfl⟩, rfl⟩
    refine ⟨_, _, ⟨ps, hps, rfl⟩, ⟨qs, hqs, rfl⟩, ?_⟩
    simp [renderFrom_append, String.ofList_append]
  · rintro ⟨_, _, ⟨ps, hps, rfl⟩, ⟨qs, hqs, rfl⟩, rfl⟩
    refine ⟨ps ++ qs, ⟨ps, qs, hps, hqs, rfl⟩, ?_⟩
    simp [renderFrom_append, String.ofList_append]

/-- Text is compiled to itself. -/
theorem compileFrom_text (s : String) : compileFrom d m bound [.text s] = .ok q ↔ q = ⟨s, []⟩ := by
  have htext : compileFrom d m bound [.text s] = .ok ⟨s, []⟩ := by
    simp [compileFrom, resolveAll, Item.resolve, renderFrom, Piece.chars, Piece.args, Except.map,
      bind, Except.bind]
  rw [htext, Except.ok.injEq, eq_comm]

/-- A template in parentheses is compiled in parentheses. -/
theorem compileFrom_grouped : compileFrom d m bound (grouped is) = .ok q ↔
    ∃ q₁, compileFrom d m bound is = .ok q₁ ∧ q = ⟨"(" ++ q₁.sql ++ ")", q₁.args⟩ := by
  simp only [grouped, compileFrom_append, compileFrom_text]
  constructor
  · rintro ⟨_, _, rfl, ⟨q₁, _, hq₁, rfl, rfl⟩, rfl⟩
    exact ⟨q₁, hq₁, by simp [String.append_assoc]⟩
  · rintro ⟨q₁, hq₁, rfl⟩
    exact ⟨_, _, rfl, ⟨q₁, _, hq₁, rfl, rfl⟩, by simp [String.append_assoc]⟩

/-- **Joined conditions are compiled in parentheses**, the second after the arguments of the
first. -/
theorem emit_both {p p' : Predicate} :
    (Predicate.both p p').emit d m bound clause = .ok q ↔
      ∃ q₁ q₂, p.emit d m bound clause = .ok q₁ ∧
        p'.emit d m (bound + q₁.args.length) clause = .ok q₂ ∧
        q = ⟨"(" ++ q₁.sql ++ ") AND (" ++ q₂.sql ++ ")", q₁.args ++ q₂.args⟩ := by
  rw [Predicate.emit, Predicate.items_both]
  simp only [compileFrom_append, compileFrom_grouped, compileFrom_text]
  constructor
  · rintro ⟨_, _, ⟨q₁, hq₁, rfl⟩, ⟨_, _, rfl, ⟨q₂, hq₂, rfl⟩, rfl⟩, rfl⟩
    refine ⟨q₁, q₂, hq₁, hq₂, ?_⟩
    simp [String.append_assoc, String.ext_iff]
  · rintro ⟨q₁, q₂, hq₁, hq₂, rfl⟩
    refine ⟨_, _, ⟨q₁, hq₁, rfl⟩, ⟨_, _, rfl, ⟨q₂, hq₂, rfl⟩, rfl⟩, ?_⟩
    simp [String.append_assoc, String.ext_iff]

/-- **A clause of several conditions is compiled like their conjunction** from the left. -/
theorem emit_cons {p : Predicate} {ps : List Predicate} :
    clause.emit d m bound (p :: ps) = .ok q ↔
      ∃ q₁, (ps.foldl .both p).emit d m bound clause = .ok q₁ ∧
        q = ⟨clause.keyword ++ q₁.sql, q₁.args⟩ := by
  rw [Clause.emit, Clause.items_cons]
  simp only [compileFrom_append, compileFrom_text]
  constructor
  · rintro ⟨_, q₁, rfl, hq₁, rfl⟩
    exact ⟨q₁, hq₁, rfl⟩
  · rintro ⟨q₁, hq₁, rfl⟩
    exact ⟨_, q₁, rfl, hq₁, rfl⟩

/-- **The condition of a clause is read back**, up to labels. -/
theorem readClause_emit (hm : m.Fits e)
    (hquote : ∀ f ∈ m.fields, d.quoteChar ∉ f.columnName.toList) {p : Predicate} (hp : p.Plain)
    (h : clause.emit d m bound [p] = .ok q) : readClause d m q = some p.unlabelled := by
  obtain ⟨ps, hps, rfl⟩ := map_eq_ok.mp h
  rw [Clause.items_cons] at hps
  have hdepth : p.height ≤ (renderFrom d bound ps).length :=
    (Nat.le_add_left _ _).trans (((Fills.text _).append (p.fills d m)) ps hps bound)
  have hkeyword : Reads d m (Reader.oneOf [((), " WHERE "), ((), " HAVING ")])
      [.text clause.keyword] () := .oneOf (by decide) (by cases clause <;> decide)
  have hreads : Reads d m (Reader.clause d m (renderFrom d bound ps).length)
      ([.text clause.keyword] ++ p.items clause) p.unlabelled :=
    hkeyword.bind (p.parts d m hp) (p.reads hm hquote hp hdepth)
  -- Nothing comes after the clause.
  obtain ⟨last, -, hrun⟩ := hreads ps hps bound none [] [] (by rintro - k ⟨⟩) (by rintro ch ⟨⟩)
  rw [List.append_nil, List.append_nil] at hrun
  rw [readClause, String.toList_ofList, hrun]

end Compiling

/-- **Conditions keep their structure when they are compiled.** The reader recovers every condition
without parts that are written by hand from the clause that it is compiled to, up to labels. So
conditions that are compiled to the same clause differ in labels only. A clause of several
conditions is compiled like their conjunction from the left. -/
theorem conditions_recovered {d : Dialect} {e : Entity} {os : List ModelOption} {serial : Nat}
    {m : Model} (hmodel : e.model os serial = .ok m)
    (hquote : ∀ f ∈ m.fields, d.quoteChar ∉ f.columnName.toList) :
    (∀ clause bound p q, p.Plain → Clause.emit d m bound clause [p] = .ok q →
      readClause d m q = some p.unlabelled) ∧
    (∀ clause clause' bound bound' p p' q, p.Plain → p'.Plain →
      Clause.emit d m bound clause [p] = .ok q → Clause.emit d m bound' clause' [p'] = .ok q →
        p.unlabelled = p'.unlabelled) ∧
    (∀ clause bound p ps,
      Clause.emit d m bound clause (p :: ps) = Clause.emit d m bound clause [ps.foldl .both p]) ∧
    ∀ clause bound p p' q, (Predicate.both p p').emit d m bound clause = .ok q ↔
      ∃ q₁ q₂, p.emit d m bound clause = .ok q₁ ∧
        p'.emit d m (bound + q₁.args.length) clause = .ok q₂ ∧
        q = ⟨"(" ++ q₁.sql ++ ") AND (" ++ q₂.sql ++ ")", q₁.args ++ q₂.args⟩ := by
  have hm := fits_of_model hmodel
  refine ⟨fun clause bound p q hp h => readClause_emit hm hquote hp h, ?_, ?_, ?_⟩
  · intro clause clause' bound bound' p p' q hp hp' h h'
    have hread := readClause_emit hm hquote hp h
    rw [readClause_emit hm hquote hp' h'] at hread
    exact (Option.some.inj hread).symm
  · intro clause bound p ps
    rw [Clause.emit, Clause.emit, Clause.items_cons, Clause.items_cons]
    rfl
  · intro clause bound p p' q
    exact emit_both

/-- A condition to try on the gauge; of its labels nothing is left in a clause. -/
def gaugeCondition : Predicate :=
  .both (.negation (.compare (.column ⟨"level", some "l"⟩) .le (.value (.int .u8 ⟨3, by decide⟩))))
    (.compareTruth (.aggregate ⟨.count, "id", none⟩) .ne
      (.either (.compare (.column ⟨"id", none⟩) .gt (.subject (.column ⟨"level", none⟩)))
        (.compare (.aggregate ⟨.max, "level", some "top"⟩) .eq (.value .null))))

/-- The condition is recovered from its clause, which comes after two arguments. -/
theorem gaugeCondition_recovered : ∃ q,
    Clause.emit .postgres gaugeModel 2 .having [gaugeCondition] = .ok q ∧
      q.args = [.int .u8 ⟨3, by decide⟩, .null] ∧
      readClause .postgres gaugeModel q = some gaugeCondition.unlabelled := by
  have hmodel : gauge.model [.columnName "level" "reading"] 0 = .ok gaugeModel := rfl
  have hplain : gaugeCondition.Plain := by
    intro r
    simp [gaugeCondition, Predicate.sources, Subject.sources, Operand.sources]
  obtain ⟨q, hq, hargs⟩ : ∃ q,
      Clause.emit .postgres gaugeModel 2 .having [gaugeCondition] = .ok q ∧
        q.args = [.int .u8 ⟨3, by decide⟩, .null] := ⟨_, rfl, rfl⟩
  obtain ⟨hread, -⟩ := conditions_recovered (d := .postgres) hmodel (by decide)
  exact ⟨q, hq, hargs, hread .having 2 gaugeCondition q hplain hq⟩

end EntityMapper.Sql
