import EntityMapper.Declaration.Derive
import EntityMapper.Proofs.Model.Registration

/-!
# Columns named in declarations

The attributes of a field name its column, alone or inside of tags. A declaration keeps what they
give in one tag, with commas between, and a registration cuts that tag at its commas and colons
again. A name that holds neither arrives as it is, whatever stands beside it; one that holds a comma
or a colon does not.

## Main definitions

* `Entry`: what the attributes of a field give, with `Entry.text` its part of the tag
* `Given directives entries`: the attributes of a field give these entries
* `LastNames directives entries column`: the last column that they give is named alone
* `Derived.Declares d e`: the entity is declared by what was derived
* `Entity.NamesColumn e p column`: a registration gives the field at a position the column

## Main results

* `Given.tagOf_eq`: the tag that is made of the entries
* `segments_tagText`: cutting the tag again gives the segments of each entry
* `namesColumn_of_tag`: the column that a tag names is the one of the registered field
* `plain_column_arrives`: which names arrive
* `separators_lost`: not all names do
-/

namespace EntityMapper

open EntityMapper.Text

/-! ## Registered columns -/

/-- **A registration without options gives the field at a position the column**, as far as the tag
of the field is concerned: the tag names the column; the registration succeeds if nothing is wrong
with other tags and no column is repeated; and the field has the column whenever it succeeds. -/
structure Entity.NamesColumn (e : Entity) (p : Nat) (column : String) : Prop where
  tag : ∃ decl, e.fields[p]? = some decl ∧ columnOfTag decl.tag = .ok (some column)
  registers : (∀ q decl, q ≠ p → e.fields[q]? = some decl → ∀ s ∈ decl.tagSegments, IsPair s) →
    (e.fields.map FieldDecl.ownColumn).Nodup → ∀ r : Registry, ∃ m r', r.register e [] = .ok (m, r')
  column : ∀ (r : Registry) m r', r.register e [] = .ok (m, r') →
    ∃ f, m.fields[p]? = some f ∧ f.columnName = column

/-- The fields of declarations, one by one. -/
theorem getElem?_fieldsFrom {k p : Nat} {ds : List FieldDecl} {fs : List Field} {d : FieldDecl}
    (h : fieldsFrom k ds = .ok fs) (hd : ds[p]? = some d) :
    ∃ column, columnOfTag d.tag = .ok column ∧
      fs[p]? = some ⟨d.name, column.getD (snakeCase d.name), d.type, k + p⟩ := by
  induction ds generalizing k p fs with
  | nil => simp at hd
  | cons d' ds ih =>
    obtain ⟨column, hcolumn, h⟩ := bind_eq_ok.mp h
    obtain ⟨fs', hfs, h⟩ := bind_eq_ok.mp h
    cases h
    cases p with
    | zero =>
      cases hd
      exact ⟨column, hcolumn, rfl⟩
    | succ p =>
      obtain ⟨column', hcolumn', hp⟩ := ih hfs hd
      refine ⟨column', hcolumn', ?_⟩
      rw [List.getElem?_cons_succ, hp, Nat.add_assoc, Nat.add_comm 1]

/-- A tag from which a column can be read is made of pairs. -/
theorem isPair_of_columnOfTag {tag : String} {column : Option String}
    (h : columnOfTag (some tag) = .ok column) : ∀ s ∈ segments ',' tag.toList, IsPair s := by
  cases hfind : (segments ',' tag.toList).find? (¬ IsPair ·) with
  | none =>
    intro s hs
    simpa using List.find?_eq_none.mp hfind s hs
  | some s =>
    obtain ⟨ps, hps, -⟩ := map_eq_ok.mp h
    cases hps.symm.trans (mapM_pairOf_of_fault hfind)

/-- **The column that a tag names** is the one of the registered field. -/
theorem namesColumn_of_tag {e : Entity} (hshape : e.shape = .record) {p : Nat} {d : FieldDecl}
    (hd : e.fields[p]? = some d) {column : String} (htag : columnOfTag d.tag = .ok (some column)) :
    e.NamesColumn p column where
  tag := ⟨d, hd, htag⟩
  registers := by
    intro hothers hnodup r
    have hpairs : ∀ s ∈ e.tagSegments, IsPair s := by
      intro s hs
      obtain ⟨d', hd', hs'⟩ := List.mem_flatMap.mp hs
      obtain ⟨q, hq⟩ := List.mem_iff_getElem?.mp hd'
      by_cases hqp : q = p
      · subst hqp
        cases hd.symm.trans hq
        cases htext : d.tag with
        | none => simp [FieldDecl.tagSegments, htext] at hs'
        | some tag =>
          rw [htext] at htag
          rw [FieldDecl.tagSegments, htext] at hs'
          exact isPair_of_columnOfTag htag s hs'
      · exact hothers q d' hqp hq s hs'
    have hcolumns : e.ownFields.map Field.columnName = e.fields.map FieldDecl.ownColumn := by
      apply List.ext_getElem?
      intro q
      simp [Entity.ownFields, Function.comp_def]
    have hmodel : e.model [] r.issued =
        .ok ⟨e.identity, e.name, e.defaultTable, e.ownFields, r.issued⟩ := by
      rw [Entity.model_of_pairs hshape hpairs]
      apply checkColumns_eq_ok.mpr
      exact ⟨rfl, repeatedColumn?_of_nodup (hcolumns ▸ hnodup) (by simp)⟩
    exact ⟨_, _, Registry.register_eq_ok.mpr ⟨hmodel, rfl⟩⟩
  column := by
    intro r m r' h
    obtain ⟨hm, -⟩ := Registry.register_eq_ok.mp h
    obtain ⟨-, fs, hfs, hoptions, -⟩ := model_eq_ok.mp hm
    cases hoptions
    obtain ⟨column', hcolumn, hp⟩ := getElem?_fieldsFrom hfs hd
    cases htag.symm.trans hcolumn
    exact ⟨_, hp, rfl⟩

namespace Declaration

/-! ## What attributes give -/

/-- **What the attributes of a field give**: a text that is a tag already, or the name of a column
alone. -/
inductive Entry where
  | tag (s : String)
  | column (s : String)
  deriving DecidableEq, Repr

namespace Entry

/-- What an entry is in the tag of its field. -/
def text : Entry → String
  | tag s => s
  | column s => "column:" ++ s

/-- What a registration cuts an entry into. -/
def segments (en : Entry) : List (List Char) := Text.segments ',' en.text.toList

/-- The entry is a tag of pairs. -/
def WellFormed (en : Entry) : Prop := ∀ s ∈ en.segments, IsPair s

instance : DecidablePred WellFormed := fun en =>
  inferInstanceAs (Decidable (∀ s ∈ en.segments, IsPair s))

/-- The column that an entry gives; of those in a tag the last one counts. -/
def column? : Entry → Option String
  | tag s => (Text.segments ',' s.toList).reverse.findSome? columnValue?
  | column s => some s

end Entry

/-- **Named columns as they are written**: the word, a sign of equality and a text each, with commas
between. One more comma may stand after the last. -/
inductive Pairs : List Token → List String → Prop where
  | nil : Pairs [] []
  | last (s : String) : Pairs [.word "column", .mark '=', .text s] [s]
  | cons {ts ss} (s : String) (h : Pairs ts ss) :
    Pairs (.word "column" :: .mark '=' :: .text s :: .mark ',' :: ts) (s :: ss)

/-- **What one attribute gives.** Attributes of somebody else give nothing. -/
inductive Gives : Directive → List Entry → Prop where
  | tag (s : String) : Gives (.ofTokens [.text s]) [.tag s]
  | columns {ts ss} (h : Pairs ts ss) : Gives (.ofTokens ts) (ss.map .column)
  | foreign {d} (h : d.isMapper = false) : Gives d []

/-- **What the attributes of a field give**, in order. -/
inductive Given : List Directive → List Entry → Prop where
  | nil : Given [] []
  | cons {d ds es es'} (h : Gives d es) (hs : Given ds es') : Given (d :: ds) (es ++ es')

/-- **The last column that the attributes of a field give is named alone**, and is not empty. The
tags beside it are tags of pairs. -/
structure LastNames (directives : List Directive) (entries : List Entry) (column : String) :
    Prop where
  given : Given directives entries
  tags : ∀ s, .tag s ∈ entries → (Entry.tag s).WellFormed
  last : ∃ before after, entries = before ++ .column column :: after ∧
    ∀ en ∈ after, en.column? = none
  ne_empty : column ≠ ""

/-! ## The tag of a field -/

theorem Pairs.readPairsWithin_eq {ts : List Token} {ss : List String} (h : Pairs ts ss)
    (expected : String) {fuel : Nat} (hfuel : ts.length ≤ fuel) :
    readPairsWithin "column" expected fuel ts = .ok ss := by
  induction h generalizing fuel with
  | nil => cases fuel <;> rfl
  | last s =>
    cases fuel with
    | zero => simp at hfuel
    | succ fuel => rfl
  | cons s _ ih =>
    cases fuel with
    | zero => simp at hfuel
    | succ fuel =>
      simp only [List.length_cons] at hfuel
      show (readPairsWithin "column" expected fuel _).map _ = _
      rw [ih (by omega)]
      rfl

theorem Gives.segmentsOf_eq {d : Directive} {es : List Entry} (h : Gives d es) :
    segmentsOf d = .ok (es.map Entry.text) := by
  cases h with
  | tag s => rfl
  | @columns ts ss h =>
    have hread := h.readPairsWithin_eq "expected `column = \"...\"` or a tag string"
      (Nat.le_refl _)
    have hsegments : segmentsOf (.ofTokens ts) =
        (readPairsWithin "column" "expected `column = \"...\"` or a tag string" ts.length ts).map
          fun columns => columns.map ("column:" ++ ·) := by
      cases h <;> rfl
    rw [hsegments, hread, List.map_map]
    rfl
  | foreign h => simp [segmentsOf, h]

theorem Given.allSegments_eq {ds : List Directive} {es : List Entry} (h : Given ds es) :
    allSegments ds = .ok (es.map Entry.text) := by
  induction h with
  | nil => rfl
  | cons h _ ih =>
    rw [allSegments, h.segmentsOf_eq, ih, List.map_append]
    rfl

/-- The tag that entries make, with commas between. -/
def tagText (es : List Entry) : String := String.intercalate "," (es.map Entry.text)

/-- **The tag of a field** is made of what its attributes give. -/
theorem Given.tagOf_eq {ds : List Directive} {es : List Entry} (h : Given ds es) (hne : es ≠ []) :
    tagOf ds = .ok (some (tagText es)) := by
  have hempty : (es.map Entry.text).isEmpty = false := by simpa using hne
  rw [tagOf, h.allSegments_eq]
  show Except.ok (if (es.map Entry.text).isEmpty then none else some (tagText es)) = _
  rw [hempty]
  rfl

/-- **Cutting the tag again** gives the segments of each entry. -/
theorem segments_tagText {es : List Entry} (hne : es ≠ []) :
    Text.segments ',' (tagText es).toList = es.flatMap Entry.segments := by
  have hmap : (es.map Entry.text).map String.toList ≠ [] := by simpa using hne
  rw [tagText, String.toList_intercalate]
  show Text.segments ',' (List.intercalate [','] _) = _
  rw [segments_intercalate ',' hmap, List.map_map, List.flatMap_map]
  rfl

/-! ## Names that arrive -/

/-- The name holds nothing at which tags are cut. -/
def Plain (column : String) : Prop := ',' ∉ column.toList ∧ ':' ∉ column.toList

instance : DecidablePred Plain := fun column =>
  inferInstanceAs (Decidable (',' ∉ column.toList ∧ ':' ∉ column.toList))

/-- A segment that names a column says so, and then the name. -/
theorem columnValue?_eq_some {s : List Char} {column : String} (h : columnValue? s = some column) :
    s = "column:".toList ++ column.toList := by
  obtain ⟨rest, hrest, rfl⟩ := Option.map_eq_some_iff.mp h
  obtain ⟨word, rfl, hword⟩ := List.dropPrefix?_eq_some_iff.mp hrest
  have hvalue : (String.ofList rest).toList = rest := String.toList_ofList
  rw [eq_of_beq hword, hvalue]

/-- A name alone is a segment of its own if it is plain. -/
theorem Plain.segments_eq {column : String} (h : Plain column) :
    (Entry.column column).segments = ["column:".toList ++ column.toList] := by
  have hnotMem : ',' ∉ (Entry.column column).text.toList := by
    rw [Entry.text, String.toList_append, List.mem_append, not_or]
    exact ⟨by decide, h.1⟩
  rw [Entry.segments, segments_of_notMem hnotMem, Entry.text, String.toList_append]

theorem columnValue?_column (column : String) :
    columnValue? ("column:".toList ++ column.toList) = some column := by
  have hkey : ':' ∉ "column".toList := by decide
  calc
    columnValue? ("column:".toList ++ column.toList)
        = columnValue? ("column".toList ++ ':' :: column.toList) := rfl
    _ = some column := by rw [columnValue?_eq hkey]; simp

/-- **A tag of pairs names the last column that its entries give**, where this one is plain. -/
theorem columnOfSegments_of_last {before after : List Entry} {column : String}
    (hafter : ∀ en ∈ after, en.column? = none) (hplain : Plain column) (hne : column ≠ "") :
    columnOfSegments ((before ++ .column column :: after).flatMap Entry.segments) =
      some column := by
  have hnone : (after.flatMap Entry.segments).reverse.findSome? columnValue? = none := by
    rw [List.findSome?_eq_none_iff]
    intro s hs
    obtain ⟨en, hen, hs⟩ := List.mem_flatMap.mp (List.mem_reverse.mp hs)
    cases en with
    | column c => cases hafter _ hen
    | tag t => exact List.findSome?_eq_none_iff.mp (hafter _ hen) s (List.mem_reverse.mpr hs)
  rw [columnOfSegments, List.flatMap_append, List.flatMap_cons, hplain.segments_eq,
    List.reverse_append, List.reverse_append, List.findSome?_append, List.findSome?_append, hnone,
    List.reverse_singleton, List.findSome?_cons, columnValue?_column]
  simp [Option.filter, hne]

/-- **A column that a tag names is plain**: its segment holds no comma, and no second colon. -/
theorem Plain.of_columnOfSegments {tag : List Char} {column : String}
    (hpairs : ∀ s ∈ Text.segments ',' tag, IsPair s)
    (h : columnOfSegments (Text.segments ',' tag) = some column) : Plain column := by
  obtain ⟨hfind, -⟩ := Option.filter_eq_some_iff.mp h
  obtain ⟨s, hs, hvalue⟩ := List.exists_of_findSome?_eq_some hfind
  rw [List.mem_reverse] at hs
  have hpair : s.count ':' = 1 := hpairs s hs
  have hcomma := notMem_segments ',' tag s hs
  rw [columnValue?_eq_some hvalue] at hpair hcomma
  refine ⟨fun hmem => hcomma (List.mem_append_right _ hmem), fun hmem => ?_⟩
  have hcount := List.count_pos_iff.mpr hmem
  rw [List.count_append, show "column:".toList.count ':' = 1 from rfl] at hpair
  omega

/-- The column that a tag of entries names, if any. -/
theorem columnOfTag_tagText {es : List Entry} (hne : es ≠ []) {column : String} :
    columnOfTag (some (tagText es)) = .ok (some column) ↔
      (∀ en ∈ es, en.WellFormed) ∧ columnOfSegments (es.flatMap Entry.segments) = some column := by
  have hforall : (∀ en ∈ es, en.WellFormed) ↔
      ∀ s ∈ Text.segments ',' (tagText es).toList, IsPair s := by
    rw [segments_tagText hne]
    simp only [List.mem_flatMap, Entry.WellFormed]
    constructor
    · rintro h s ⟨en, hen, hs⟩
      exact h en hen s hs
    · intro h en hen s hs
      exact h s ⟨en, hen, hs⟩
  rw [hforall, ← segments_tagText hne]
  constructor
  · intro h
    have hpairs := isPair_of_columnOfTag h
    refine ⟨hpairs, ?_⟩
    rw [columnOfTag_eq_columnOfSegments hpairs] at h
    exact Except.ok.inj h
  · rintro ⟨hpairs, hcolumn⟩
    rw [columnOfTag_eq_columnOfSegments hpairs, hcolumn]

/-! ## Declared entities -/

/-- **The entity is declared by what was derived**: its name, its table, and the names and tags of
its fields are the ones that were derived. -/
structure Derived.Declares (d : Derived) (e : Entity) : Prop where
  shape : e.shape = .record
  name : e.name = d.name
  table : e.table = d.table
  fields : e.fields.map (fun f => (f.name, f.tag)) = d.fields.map fun f => (f.name, f.tag)

/-- The fields of a declaration, one by one. -/
theorem getElem?_deriveFields {item : String} {fs : List ItemField} {ds : List DerivedField}
    {p : Nat} {f : ItemField} (h : deriveFields item fs = .ok ds) (hf : fs[p]? = some f) :
    ∃ d, ds[p]? = some d ∧ d.name = f.name ∧ tagOf f.directives = .ok d.tag := by
  induction fs generalizing p ds with
  | nil => simp at hf
  | cons f' fs ih =>
    obtain ⟨tag, htag, h⟩ := bind_eq_ok.mp h
    obtain ⟨ds', hds, h⟩ := bind_eq_ok.mp h
    cases h
    cases p with
    | zero =>
      cases hf
      exact ⟨_, rfl, rfl, htag⟩
    | succ p =>
      obtain ⟨d, hd⟩ := ih hds hf
      exact ⟨d, hd⟩

/-- The fields of what a declaration becomes. -/
theorem deriveFields_of_derive {item : Item} {d : Derived} (h : derive item = .ok d) :
    deriveFields item.name item.fields = .ok d.fields := by
  unfold derive at h
  split at h
  · cases h
  · split at h
    · cases h
    · cases h
    · cases h
    · cases h
    · obtain ⟨table, -, hd'⟩ := bind_eq_ok.mp (mapError_eq_ok.mp h)
      obtain ⟨fs, hfs, hd'⟩ := bind_eq_ok.mp hd'
      cases hd'
      exact hfs

/-- The field of an entity at the place of a declared one has the tag of its attributes. -/
theorem Derived.Declares.exists_tag {item : Item} {d : Derived} {e : Entity} (he : d.Declares e)
    (hderive : derive item = .ok d) {p : Nat} {f : ItemField} (hf : item.fields[p]? = some f) :
    ∃ decl, e.fields[p]? = some decl ∧ tagOf f.directives = .ok decl.tag := by
  obtain ⟨d', hd', -, htag⟩ := getElem?_deriveFields (deriveFields_of_derive hderive) hf
  have hp := congrArg (·[p]?) he.fields
  simp only [List.getElem?_map, hd', Option.map_some, Option.map_eq_some_iff] at hp
  obtain ⟨decl, hdecl, heq⟩ := hp
  refine ⟨decl, hdecl, ?_⟩
  rw [htag, (Prod.mk.inj heq).2]

/-- **Which names arrive.** Where the last column that the attributes of a field give is named
alone, a registration of the declared entity gives the field this column if and only if the name
holds nothing at which tags are cut and no other name breaks the tag. What else the attributes give
never changes it. -/
theorem plain_column_arrives {item : Item} {d : Derived} (hderive : derive item = .ok d)
    {e : Entity} (he : d.Declares e) {p : Nat} {f : ItemField} (hf : item.fields[p]? = some f)
    {entries : List Entry} {column : String} (h : LastNames f.directives entries column) :
    e.NamesColumn p column ↔
      Plain column ∧ ∀ s, .column s ∈ entries → (Entry.column s).WellFormed := by
  obtain ⟨decl, hdecl, htag⟩ := he.exists_tag hderive hf
  obtain ⟨before, after, hsplit, hafter⟩ := h.last
  have hne : entries ≠ [] := by simp [hsplit]
  have htext : decl.tag = some (tagText entries) := by
    rw [h.given.tagOf_eq hne] at htag
    exact (Except.ok.inj htag).symm
  constructor
  · intro hnames
    obtain ⟨decl', hdecl', hcolumn⟩ := hnames.tag
    cases hdecl.symm.trans hdecl'
    rw [htext] at hcolumn
    have hwhole := isPair_of_columnOfTag hcolumn
    obtain ⟨hwell, hlast⟩ := (columnOfTag_tagText hne).mp hcolumn
    rw [← segments_tagText hne] at hlast
    exact ⟨.of_columnOfSegments hwhole hlast, fun s hs => hwell _ hs⟩
  · rintro ⟨hplain, hcolumns⟩
    apply namesColumn_of_tag he.shape hdecl
    rw [htext, columnOfTag_tagText hne]
    constructor
    · intro en hen
      cases en with
      | tag s => exact h.tags s hen
      | column s => exact hcolumns s hen
    · rw [hsplit]
      exact columnOfSegments_of_last hafter hplain h.ne_empty

/-- The attributes of a weight. The first is somebody else's, and two of the others are tags. -/
def weightDirectives : List Directive :=
  [⟨false, .list [.word "dead_code"]⟩,
    .ofTokens [.text "unit:kg,column:weight"],
    .ofTokens [.word "column", .mark '=', .text "mass", .mark ','],
    .ofTokens [.text "note:si"]]

/-- What the attributes of the weight give: a column in a tag first, and then one alone. -/
def weightEntries : List Entry := [.tag "unit:kg,column:weight", .column "mass", .tag "note:si"]

/-- A load with its weight, as it is declared. -/
def load : Item := ⟨"Load", false, .record, [], [⟨"weight", "i64", weightDirectives⟩]⟩

/-- The entity of loads. -/
def loadEntity : Entity :=
  ⟨0, "Load", .record, none, [⟨"weight", ⟨.int .i64, false⟩,
    some "unit:kg,column:weight,column:mass,note:si", .int .i64 ⟨0, by decide⟩, .content, false⟩]⟩

theorem weight_lastNames : LastNames weightDirectives weightEntries "mass" where
  given := by
    apply Given.cons (.foreign rfl)
    apply Given.cons (.tag _)
    apply Given.cons (.columns (.cons "mass" .nil))
    exact Given.cons (.tag _) .nil
  tags := by
    intro s hs
    simp only [weightEntries, List.mem_cons, List.not_mem_nil, or_false, reduceCtorEq, false_or,
      Entry.tag.injEq] at hs
    rcases hs with rfl | rfl <;> decide
  last := ⟨[.tag "unit:kg,column:weight"], [.tag "note:si"], rfl, by decide⟩
  ne_empty := by decide

/-- The weight is in the column that is named alone after a tag that names another. -/
theorem weightColumn_arrives :
    ∃ d, derive load = .ok d ∧ d.Declares loadEntity ∧
      LastNames weightDirectives weightEntries "mass" ∧ loadEntity.NamesColumn 0 "mass" := by
  let derived : Derived := ⟨"Load", none,
    [⟨"weight", some "unit:kg,column:weight,column:mass,note:si", "i64", "Load,weight"⟩]⟩
  have hderive : derive load = .ok derived := by decide
  have hdeclares : derived.Declares loadEntity := ⟨rfl, rfl, rfl, rfl⟩
  refine ⟨derived, hderive, hdeclares, weight_lastNames, ?_⟩
  apply (plain_column_arrives hderive hdeclares rfl weight_lastNames).mpr
  constructor
  · decide
  · intro s hs
    simp only [weightEntries, List.mem_cons, List.not_mem_nil, or_false, reduceCtorEq, false_or,
      Entry.column.injEq] at hs
    subst hs
    decide

/-- An invoice whose amount is to be in the column. -/
def invoice (column : String) : Item :=
  ⟨"Invoice", false, .record, [],
    [⟨"net", "i64", [.ofTokens [.word "column", .mark '=', .text column]]⟩]⟩

/-- The entity of invoices. -/
def invoiceEntity (column : String) : Entity :=
  ⟨0, "Invoice", .record, none,
    [⟨"net", ⟨.int .i64, false⟩, some ("column:" ++ column), .int .i64 ⟨0, by decide⟩, .content,
      false⟩]⟩

/-- **Not all names arrive**: where the name of a column holds a colon, the entity cannot even be
registered. -/
theorem separators_lost :
    ¬ ∀ (item : Item) (d : Derived) (e : Entity) (p : Nat) (f : ItemField) (entries : List Entry)
      (column : String), derive item = .ok d → d.Declares e → item.fields[p]? = some f →
      LastNames f.directives entries column → e.NamesColumn p column := by
  intro h
  have hlast : LastNames [.ofTokens [.word "column", .mark '=', .text "price:net"]]
      [.column "price:net"] "price:net" := by
    refine ⟨.cons (.columns (.last _)) .nil, ?_, ⟨[], [], rfl, by simp⟩, by decide⟩
    simp
  have hderive : derive (invoice "price:net") =
      .ok ⟨"Invoice", none, [⟨"net", some "column:price:net", "i64", "Invoice,net"⟩]⟩ := by decide
  obtain ⟨decl, hdecl, hcolumn⟩ :=
    (h _ _ (invoiceEntity "price:net") 0 _ _ _ hderive ⟨rfl, rfl, rfl, by decide⟩ rfl hlast).tag
  cases hdecl
  exact absurd hcolumn (by decide)

-- A name with a comma can name another column, and nothing is said about it.
example : columnOfTag ((invoiceEntity "net,column:gross").fields.head?.bind FieldDecl.tag) =
    .ok (some "gross") := by decide

end Declaration

end EntityMapper
