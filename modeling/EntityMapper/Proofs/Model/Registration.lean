import EntityMapper.Proofs.Model.Fields
import Mathlib.Data.List.Induction

/-!
# What a registration comes to

Whether an entity can be registered, the model that it is given, and the fault that decides where
it cannot be, are said here without the steps of a registration: a column is named by the last
option for its field, else by the tag of the field, else by the name of the field, and only the
columns that are left at the end have to be distinct.

## Main definitions

* `FieldDecl.finalColumn os d`, `Entity.finalTable os e`: the names that are left at the end
* `Entity.Accepts e os`: the entity can be registered with the options
* `Entity.Yields e os m`: the model that it is given
* `Entity.Refuses e os err`: the fault that decides

## Main results

* `fieldsFrom_of_pairs`, `fieldsFrom_of_fault`: reading the tags of the fields
* `Model.withOptions_of_known`, `Model.withOptions_of_fault`: applying options in order
* `repeatedColumn?_of_repeated`, `repeatedColumn?_of_nodup`: looking for a repeated column
* `Entity.model_of_accepts`, `Entity.model_of_refuses`: the two ways in which a registration ends
* `register_decided`: when a registration succeeds, what it yields, and how it fails
-/

namespace EntityMapper

open EntityMapper.Text

/-! ## Names that are left at the end -/

/-- The segments of a field's tag. -/
def FieldDecl.tagSegments (d : FieldDecl) : List (List Char) :=
  match d.tag with
  | none => []
  | some tag => segments ',' tag.toList

/-- A segment of a tag is a pair: it has one colon. -/
def IsPair (segment : List Char) : Prop := segment.count ':' = 1

instance : DecidablePred IsPair := fun segment => decEq (segment.count ':') 1

/-- The column that a segment of a tag names. -/
def columnValue? (segment : List Char) : Option String :=
  (segment.dropPrefix? "column:".toList).map String.ofList

/-- **The column of a field before any option**: the last one that its tag names, unless that is
empty, and else its name in snake case. -/
def FieldDecl.ownColumn (d : FieldDecl) : String :=
  match d.tagSegments.reverse.findSome? columnValue? with
  | some column => if column = "" then snakeCase d.name else column
  | none => snakeCase d.name

namespace ModelOption

/-- The table that an option names. -/
def table? : ModelOption → Option String
  | tableName t => some t
  | columnName _ _ => none

/-- The column that an option names for a field. -/
def column? (field : String) : ModelOption → Option String
  | tableName _ => none
  | columnName f c => if f = field then some c else none

/-- The field that an option names does not exist. -/
def Misses (names : List String) : ModelOption → Prop
  | tableName _ => False
  | columnName f _ => f ∉ names

instance (names : List String) : DecidablePred (Misses names)
  | tableName _ => inferInstanceAs (Decidable False)
  | columnName f _ => inferInstanceAs (Decidable (f ∉ names))

end ModelOption

/-- **The column of a field at the end**: that of the last option for the field, if there is one. -/
def FieldDecl.finalColumn (os : List ModelOption) (d : FieldDecl) : String :=
  (os.reverse.findSome? (ModelOption.column? d.name)).getD d.ownColumn

/-- **The table of an entity at the end**: that of the last option for it, if there is one. -/
def Entity.finalTable (os : List ModelOption) (e : Entity) : String :=
  (os.reverse.findSome? ModelOption.table?).getD e.defaultTable

/-! ## The outcomes -/

/-- The names of the fields of an entity. -/
def Entity.names (e : Entity) : List String := e.fields.map FieldDecl.name

/-- The segments of all tags of an entity, in the order of its fields. -/
def Entity.tagSegments (e : Entity) : List (List Char) := e.fields.flatMap FieldDecl.tagSegments

/-- **The entity can be registered with the options.** -/
structure Entity.Accepts (e : Entity) (os : List ModelOption) : Prop where
  shape : e.shape = .record
  pairs : ∀ s ∈ e.tagSegments, IsPair s
  known : ∀ o ∈ os, ¬ o.Misses e.names
  distinct : (e.fields.map (FieldDecl.finalColumn os)).Nodup

/-- **The model that the entity is given**: its fields are those of the entity, in order, and a
name or a column finds the field that bears it, and no other name or column finds anything. -/
structure Entity.Yields (e : Entity) (os : List ModelOption) (m : Model) : Prop where
  identity_eq : m.identity = e.identity
  name_eq : m.entityName = e.name
  table_eq : m.table = e.finalTable os
  fields_eq : m.fields = e.fields.mapIdx fun p d => ⟨d.name, d.finalColumn os, d.type, p⟩
  field?_eq : ∀ f ∈ m.fields, m.field? f.fieldName = some f
  column?_eq : ∀ f ∈ m.fields, m.column? f.columnName = some f
  field?_none : ∀ name ∉ m.fields.map Field.fieldName, m.field? name = none
  column?_none : ∀ column ∉ m.fields.map Field.columnName, m.column? column = none

/-- **The fault that decides.** The shape of the entity comes first, then the first segment of its
tags that is no pair, then the first option for a field that it does not have, then the first field
whose column is that of a field before it. -/
inductive Entity.Refuses (e : Entity) (os : List ModelOption) : Error → Prop where
  | shape (hshape : e.shape ≠ .record) :
    Refuses e os (.invalidEntityShape (e.name ++ " (" ++ e.shape.label ++ ")"))
  | tag {before s after} (hshape : e.shape = .record)
    (hsplit : e.tagSegments = before ++ s :: after) (hbefore : ∀ s ∈ before, IsPair s) (hs : ¬ IsPair s) :
    Refuses e os (.invalidTagContent (String.ofList s))
  | option {before field column after} (hshape : e.shape = .record)
    (hpairs : ∀ s ∈ e.tagSegments, IsPair s)
    (hsplit : os = before ++ .columnName field column :: after)
    (hbefore : ∀ o ∈ before, ¬ o.Misses e.names) (hfield : field ∉ e.names) :
    Refuses e os (.unknownField field)
  | column {before d after} (hshape : e.shape = .record) (hpairs : ∀ s ∈ e.tagSegments, IsPair s)
    (hknown : ∀ o ∈ os, ¬ o.Misses e.names) (hsplit : e.fields = before ++ d :: after)
    (hbefore : (before.map (FieldDecl.finalColumn os)).Nodup)
    (hd : d.finalColumn os ∈ before.map (FieldDecl.finalColumn os)) :
    Refuses e os
      (.duplicateColumn (e.name ++ "." ++ d.name ++ " -> " ++ d.finalColumn os))

/-! ## Tags -/

/-- There is one segment more than there are separators. -/
theorem length_segments (sep : Char) (cs : List Char) :
    (segments sep cs).length = cs.count sep + 1 := by
  induction cs with
  | nil => rfl
  | cons c cs ih =>
    unfold segments
    by_cases hc : c = sep
    · simp [hc, ih]
    · cases hs : segments sep cs with
      | nil => exact absurd hs (segments_ne_nil sep cs)
      | cons s ss =>
        rw [hs] at ih
        simpa [hc] using ih

/-- The two parts of a pair. -/
theorem IsPair.exists_segments {s : List Char} (h : IsPair s) :
    ∃ key value, segments ':' s = [key, value] ∧ s = key ++ ':' :: value ∧ ':' ∉ key := by
  have hlength : (segments ':' s).length = 2 := by rw [length_segments, h]
  obtain ⟨key, value, heq⟩ := List.length_eq_two.mp hlength
  refine ⟨key, value, heq, ?_, notMem_segments ':' s key (by simp [heq])⟩
  simpa [heq, List.intercalate] using (intercalate_segments ':' s).symm

theorem segments_ne_pair {s : List Char} (h : ¬ IsPair s) (key value : List Char) :
    segments ':' s ≠ [key, value] := by
  intro heq
  have hlength := length_segments ':' s
  rw [heq] at hlength
  exact h (Nat.succ.inj hlength).symm

/-- The text before the first separator. -/
theorem takeWhile_before {sep : Char} {xs ys : List Char} (h : sep ∉ xs) :
    (xs ++ sep :: ys).takeWhile (· != sep) = xs := by
  rw [List.takeWhile_append_of_pos]
  · simp
  · intro x hx
    rw [bne_iff_ne]
    rintro rfl
    exact h hx

/-- A pair names a column if its key says so. -/
theorem columnValue?_eq {key value : List Char} (hkey : ':' ∉ key) :
    columnValue? (key ++ ':' :: value) =
      if String.ofList key = "column" then some (String.ofList value) else none := by
  unfold columnValue?
  split
  · next h =>
    have hk : key = "column".toList := by rw [← h, String.toList_ofList]
    have hdrop : (key ++ ':' :: value).dropPrefix? "column:".toList = some value :=
      List.dropPrefix?_eq_some_iff.mpr ⟨"column:".toList, by simp [hk], by simp⟩
    rw [hdrop]
    rfl
  · next h =>
    rw [Option.map_eq_none_iff, Option.eq_none_iff_forall_ne_some]
    intro rest hrest
    obtain ⟨p, heq, hp⟩ := List.dropPrefix?_eq_some_iff.mp hrest
    rw [eq_of_beq hp] at heq
    -- What stands before the first colon is the same on both sides.
    have hbefore := congrArg (List.takeWhile (· != ':')) heq
    rw [takeWhile_before hkey] at hbefore
    exact h (by rw [hbefore]; rfl)

/-- A segment as a pair. -/
def pairOf (segment : List Char) : Except Error (String × String) :=
  match segments ':' segment with
  | [key, value] => .ok (String.ofList key, String.ofList value)
  | _ => .error (.invalidTagContent (String.ofList segment))

theorem pairOf_of_not_isPair {s : List Char} (h : ¬ IsPair s) :
    pairOf s = .error (.invalidTagContent (String.ofList s)) := by
  unfold pairOf
  split
  · next heq => exact absurd heq (segments_ne_pair h _ _)
  · rfl

/-- A pair with the key of columns has the column that the segment names. -/
theorem IsPair.pairOf_eq {s : List Char} (h : IsPair s) :
    ∃ p, pairOf s = .ok p ∧ (if "column" == p.1 then some p.2 else none) = columnValue? s := by
  obtain ⟨key, value, hs, rfl, hkey⟩ := h.exists_segments
  refine ⟨(String.ofList key, String.ofList value), by rw [pairOf, hs], ?_⟩
  simp [columnValue?_eq hkey, eq_comm (a := "column")]

theorem mapM_pairOf_of_fault {segs : List (List Char)} {s : List Char}
    (h : segs.find? (¬ IsPair ·) = some s) :
    segs.mapM pairOf = .error (.invalidTagContent (String.ofList s)) := by
  induction segs with
  | nil => cases h
  | cons t segs ih =>
    rw [List.mapM_cons]
    by_cases ht : IsPair t
    · obtain ⟨p, hp, -⟩ := ht.pairOf_eq
      rw [hp]
      rw [List.find?_cons_of_neg (by simpa using ht)] at h
      simp [bind, Except.bind, ih h]
    · rw [List.find?_cons_of_pos (by simpa using ht)] at h
      cases h
      rw [pairOf_of_not_isPair ht]
      rfl

/-- Segments that all are pairs name the columns that they name one by one. -/
theorem mapM_pairOf {segs : List (List Char)} (h : ∀ s ∈ segs, IsPair s) :
    ∃ ps, segs.mapM pairOf = .ok ps ∧
      ps.map (fun p => if "column" == p.1 then some p.2 else none) = segs.map columnValue? := by
  induction segs with
  | nil => exact ⟨[], rfl, rfl⟩
  | cons s segs ih =>
    obtain ⟨hs, hsegs⟩ := List.forall_mem_cons.mp h
    obtain ⟨p, hp, hcolumn⟩ := hs.pairOf_eq
    obtain ⟨ps, hps, hcolumns⟩ := ih hsegs
    exact ⟨p :: ps, by rw [List.mapM_cons, hp, hps]; rfl, by
      rw [List.map_cons, List.map_cons, hcolumn, hcolumns]⟩

theorem findSome?_map_id {α β : Type} (f : α → Option β) (xs : List α) :
    (xs.map f).findSome? id = xs.findSome? f := by
  rw [List.findSome?_map]
  rfl

/-- The column that the segments of a tag name: the last one, unless it is empty. -/
def columnOfSegments (segs : List (List Char)) : Option String :=
  (segs.reverse.findSome? columnValue?).filter (· ≠ "")

/-- A tag of pairs names the column that its segments name. -/
theorem columnOfTag_eq_columnOfSegments {tag : String}
    (h : ∀ s ∈ segments ',' tag.toList, IsPair s) :
    columnOfTag (some tag) = .ok (columnOfSegments (segments ',' tag.toList)) := by
  obtain ⟨ps, hps, hcolumns⟩ := mapM_pairOf h
  have hlookup : ps.reverse.lookup "column" =
      (segments ',' tag.toList).reverse.findSome? columnValue? := by
    rw [List.lookup_eq_findSome?, ← findSome?_map_id, List.map_reverse, hcolumns,
      ← List.map_reverse, findSome?_map_id]
  refine map_eq_ok.mpr ⟨ps, hps, ?_⟩
  rw [columnOfPairs, columnOfSegments, hlookup]
  cases (segments ',' tag.toList).reverse.findSome? columnValue? with
  | none => rfl
  | some column => by_cases hc : column = "" <;> simp [hc, Option.filter]

namespace FieldDecl

variable {d : FieldDecl}

/-- The first segment of a tag that is no pair decides. -/
theorem columnOfTag_of_fault {s : List Char} (h : d.tagSegments.find? (¬ IsPair ·) = some s) :
    columnOfTag d.tag = .error (.invalidTagContent (String.ofList s)) := by
  unfold tagSegments at h
  split at h
  · cases h
  · next tag htag => rw [htag, columnOfTag, map_eq_error]; exact mapM_pairOf_of_fault h

/-- **A tag of pairs** names the column of its field, unless the name of the field does. -/
theorem columnOfTag_of_pairs (h : ∀ s ∈ d.tagSegments, IsPair s) :
    ∃ column, columnOfTag d.tag = .ok column ∧ column.getD (snakeCase d.name) = d.ownColumn := by
  unfold ownColumn
  unfold tagSegments at h ⊢
  split at h
  · next htag => exact ⟨none, by rw [htag]; rfl, by simp⟩
  · next tag htag =>
    refine ⟨_, htag ▸ columnOfTag_eq_columnOfSegments h, ?_⟩
    unfold columnOfSegments
    cases (segments ',' tag.toList).reverse.findSome? columnValue? with
    | none => rfl
    | some column => by_cases hc : column = "" <;> simp [hc, Option.filter]

end FieldDecl

/-! ## Fields before the options -/

/-- The fields of declarations whose tags are pairs. -/
theorem fieldsFrom_of_pairs {k : Nat} {ds : List FieldDecl}
    (h : ∀ s ∈ ds.flatMap FieldDecl.tagSegments, IsPair s) :
    fieldsFrom k ds = .ok (ds.mapIdx fun p d => ⟨d.name, d.ownColumn, d.type, k + p⟩) := by
  induction ds generalizing k with
  | nil => rfl
  | cons d ds ih =>
    rw [List.flatMap_cons, List.forall_mem_append] at h
    obtain ⟨column, hd, hown⟩ := FieldDecl.columnOfTag_of_pairs h.1
    rw [fieldsFrom, hd, ih h.2, List.mapIdx_cons, ← hown]
    simp [bind, Except.bind, Nat.add_assoc, Nat.add_comm 1]

/-- The first segment of the tags that is no pair decides. -/
theorem fieldsFrom_of_fault {k : Nat} {ds : List FieldDecl} {s : List Char}
    (h : (ds.flatMap FieldDecl.tagSegments).find? (¬ IsPair ·) = some s) :
    fieldsFrom k ds = .error (.invalidTagContent (String.ofList s)) := by
  induction ds generalizing k with
  | nil => cases h
  | cons d ds ih =>
    rw [List.flatMap_cons, List.find?_append] at h
    cases hd : d.tagSegments.find? (¬ IsPair ·) with
    | some t =>
      rw [hd, Option.some_or] at h
      cases h
      rw [fieldsFrom, FieldDecl.columnOfTag_of_fault hd]
      rfl
    | none =>
      rw [hd, Option.none_or] at h
      obtain ⟨column, hcolumn, -⟩ := FieldDecl.columnOfTag_of_pairs (d := d)
        (by simpa using List.find?_eq_none.mp hd)
      rw [fieldsFrom, hcolumn, ih h]
      rfl

/-! ## Options -/

/-- A field after an option. -/
def Field.withOption (o : ModelOption) (f : Field) : Field :=
  { f with columnName := (o.column? f.fieldName).getD f.columnName }

/-- A field after options. -/
def Field.withOptions (os : List ModelOption) (f : Field) : Field :=
  { f with
    columnName := (os.reverse.findSome? (ModelOption.column? f.fieldName)).getD f.columnName }

/-- Another column for a field that exists. -/
theorem renameColumn_of_mem {field column : String} {fs : List Field}
    (hnames : (fs.map Field.fieldName).Nodup) (h : field ∈ fs.map Field.fieldName) :
    renameColumn field column fs = .ok (fs.map (Field.withOption (.columnName field column))) := by
  induction fs with
  | nil => simp at h
  | cons f fs ih =>
    rw [List.map_cons, List.nodup_cons] at hnames
    unfold renameColumn
    by_cases hf : f.fieldName = field
    -- No later field has the name of this one.
    · have hrest : ∀ g ∈ fs, g.withOption (.columnName field column) = g := by
        intro g hg
        have hne : ¬ field = g.fieldName := fun heq =>
          hnames.1 (hf.trans heq ▸ List.mem_map_of_mem hg)
        simp [Field.withOption, ModelOption.column?, hne]
      rw [if_pos hf, List.map_cons, List.map_congr_left hrest, List.map_id']
      simp [Field.withOption, ModelOption.column?, hf]
    · have hmem : field ∈ fs.map Field.fieldName := by
        simpa [Ne.symm hf] using h
      rw [if_neg hf, ih hnames.2 hmem]
      simp [Except.map, Field.withOption, ModelOption.column?, Ne.symm hf]

theorem renameColumn_of_notMem {field column : String} {fs : List Field}
    (h : field ∉ fs.map Field.fieldName) :
    renameColumn field column fs = .error (.unknownField field) := by
  induction fs with
  | nil => rfl
  | cons f fs ih =>
    rw [List.map_cons, List.mem_cons, not_or] at h
    rw [renameColumn, if_neg (Ne.symm h.1), ih h.2]
    rfl

theorem Field.withOptions_cons (o : ModelOption) (os : List ModelOption) (f : Field) :
    f.withOptions (o :: os) = (f.withOption o).withOptions os := by
  unfold withOptions withOption
  rw [List.reverse_cons, List.findSome?_append]
  cases os.reverse.findSome? (ModelOption.column? f.fieldName) <;> simp

/-- Options change no names of fields. -/
theorem map_fieldName_withOption (o : ModelOption) (fs : List Field) :
    (fs.map (Field.withOption o)).map Field.fieldName = fs.map Field.fieldName := by
  rw [List.map_map]
  rfl

namespace Model

variable {m m' : Model} {o : ModelOption} {os os' : List ModelOption}

/-- A model after an option for a field that it has. -/
theorem withOption_of_known (hnames : (m.fields.map Field.fieldName).Nodup)
    (h : ¬ o.Misses (m.fields.map Field.fieldName)) :
    m.withOption o = .ok { m with
      table := o.table?.getD m.table
      fields := m.fields.map (Field.withOption o) } := by
  cases o with
  | tableName t =>
    have hfields : m.fields.map (Field.withOption (.tableName t)) = m.fields := List.map_id _
    rw [hfields]
    rfl
  | columnName f c =>
    rw [withOption, renameColumn_of_mem hnames (not_not.mp h)]
    rfl

/-- **A model after options** for fields that it has. -/
theorem withOptions_of_known (hnames : (m.fields.map Field.fieldName).Nodup)
    (h : ∀ o ∈ os, ¬ o.Misses (m.fields.map Field.fieldName)) :
    m.withOptions os = .ok { m with
      table := (os.reverse.findSome? ModelOption.table?).getD m.table
      fields := m.fields.map (Field.withOptions os) } := by
  -- Induction on the options: what the rest of them names takes the place of what the first does.
  induction os generalizing m with
  | nil =>
    have hfields : m.fields.map (Field.withOptions []) = m.fields := List.map_id _
    rw [hfields]
    rfl
  | cons o os ih =>
    obtain ⟨ho, hos⟩ := List.forall_mem_cons.mp h
    have hkept := map_fieldName_withOption o m.fields
    rw [withOptions, withOption_of_known hnames ho]
    show Model.withOptions _ os = _
    rw [ih (hkept ▸ hnames) (hkept ▸ hos), List.reverse_cons, List.findSome?_append]
    simp only [List.map_map, Function.comp_def, ← Field.withOptions_cons]
    cases os.reverse.findSome? ModelOption.table? <;> simp

theorem withOptions_append (m : Model) (os os' : List ModelOption) :
    m.withOptions (os ++ os') = m.withOptions os >>= fun m' => m'.withOptions os' := by
  induction os generalizing m with
  | nil => rfl
  | cons o os ih =>
    rw [List.cons_append, withOptions, withOptions, bind_assoc]
    simp only [ih]

/-- The first option for a field that the model does not have decides. -/
theorem withOptions_of_fault {field column : String}
    (hnames : (m.fields.map Field.fieldName).Nodup)
    (h : ∀ o ∈ os, ¬ o.Misses (m.fields.map Field.fieldName))
    (hfield : field ∉ m.fields.map Field.fieldName) :
    m.withOptions (os ++ .columnName field column :: os') = .error (.unknownField field) := by
  have hkept : (m.fields.map (Field.withOptions os)).map Field.fieldName =
      m.fields.map Field.fieldName := by
    rw [List.map_map]
    rfl
  rw [withOptions_append, withOptions_of_known hnames h]
  show Model.withOptions _ _ = _
  rw [withOptions, withOption, renameColumn_of_notMem (hkept ▸ hfield)]
  rfl

end Model

/-! ## Repeated columns -/

section Repetition

variable {seen : List String} {fs : List Field} {f : Field}

/-- The first field whose column is that of a field before it, or one seen before. -/
theorem repeatedColumn?_of_repeated {after : List Field}
    (hnodup : (fs.map Field.columnName).Nodup) (hnew : ∀ g ∈ fs, g.columnName ∉ seen)
    (hf : f.columnName ∈ seen ∨ f.columnName ∈ fs.map Field.columnName) :
    repeatedColumn? seen (fs ++ f :: after) = some f := by
  induction fs generalizing seen with
  | nil =>
    have hseen : f.columnName ∈ seen := by simpa using hf
    rw [List.nil_append, repeatedColumn?, if_pos hseen]
  | cons g fs ih =>
    rw [List.map_cons, List.nodup_cons] at hnodup
    obtain ⟨hg, hfs⟩ := List.forall_mem_cons.mp hnew
    rw [List.cons_append, repeatedColumn?, if_neg hg]
    refine ih hnodup.2 (fun g' hg' => ?_) ?_
    · rw [List.mem_cons, not_or]
      exact ⟨fun heq => hnodup.1 (heq ▸ List.mem_map_of_mem hg'), hfs g' hg'⟩
    · rw [List.mem_cons]
      rw [List.map_cons, List.mem_cons] at hf
      tauto

theorem repeatedColumn?_of_nodup (hnodup : (fs.map Field.columnName).Nodup)
    (hnew : ∀ g ∈ fs, g.columnName ∉ seen) : repeatedColumn? seen fs = none := by
  induction fs generalizing seen with
  | nil => rfl
  | cons g fs ih =>
    rw [List.map_cons, List.nodup_cons] at hnodup
    obtain ⟨hg, hfs⟩ := List.forall_mem_cons.mp hnew
    rw [repeatedColumn?, if_neg hg]
    refine ih hnodup.2 fun g' hg' => ?_
    rw [List.mem_cons, not_or]
    exact ⟨fun heq => hnodup.1 (heq ▸ List.mem_map_of_mem hg'), hfs g' hg'⟩

/-- Where keys are not distinct, there is a first one that stands before. -/
theorem exists_repeated {α β : Type} [DecidableEq β] {key : α → β} {xs : List α}
    (h : ¬ (xs.map key).Nodup) : ∃ before x after, xs = before ++ x :: after ∧
      (before.map key).Nodup ∧ key x ∈ before.map key := by
  induction xs using List.reverseRecOn with
  | nil => simp at h
  | append_singleton xs x ih =>
    by_cases hxs : (xs.map key).Nodup
    · refine ⟨xs, x, [], rfl, hxs, ?_⟩
      by_contra hx
      rw [List.map_append, List.nodup_append] at h
      refine h ⟨hxs, List.nodup_singleton _, ?_⟩
      rintro a ha b hb rfl
      rw [List.map_singleton, List.mem_singleton] at hb
      exact hx (hb ▸ ha)
    · obtain ⟨before, y, after, rfl, hbefore⟩ := ih hxs
      exact ⟨before, y, after ++ [x], by simp, hbefore⟩

end Repetition

/-! ## Registrations -/

namespace Entity

variable {e : Entity} {os : List ModelOption} {serial : Nat}

/-- Registering a record reads its tags, applies the options, and looks at the columns. -/
theorem model_of_record (hshape : e.shape = .record) (os : List ModelOption) (serial : Nat) :
    e.model os serial = (do
      let fs ← fieldsFrom 0 e.fields
      let m ← Model.withOptions ⟨e.identity, e.name, e.defaultTable, fs, serial⟩ os
      m.checkColumns) := by
  simp [model, hshape]

/-- The fields of an entity whose tags are pairs, before any option. -/
def ownFields (e : Entity) : List Field :=
  e.fields.mapIdx fun p d => ⟨d.name, d.ownColumn, d.type, p⟩

/-- Its model, with options for fields that it has. -/
def finalModel (e : Entity) (os : List ModelOption) (serial : Nat) : Model :=
  ⟨e.identity, e.name, e.finalTable os,
    e.fields.mapIdx fun p d => ⟨d.name, d.finalColumn os, d.type, p⟩, serial⟩

theorem map_fieldName_ownFields (e : Entity) : e.ownFields.map Field.fieldName = e.names := by
  refine List.ext_getElem? fun p => ?_
  simp [ownFields, names, Function.comp_def]

theorem map_fieldName_finalModel (e : Entity) (os : List ModelOption) (serial : Nat) :
    (e.finalModel os serial).fields.map Field.fieldName = e.names := by
  refine List.ext_getElem? fun p => ?_
  simp [finalModel, names, Function.comp_def]

theorem map_columnName_finalModel (e : Entity) (os : List ModelOption) (serial : Nat) :
    (e.finalModel os serial).fields.map Field.columnName =
      e.fields.map (FieldDecl.finalColumn os) := by
  refine List.ext_getElem? fun p => ?_
  simp [finalModel, Function.comp_def]

/-- Reading the tags of a record, all of which are pairs, comes to its own fields. -/
theorem model_of_pairs (hshape : e.shape = .record) (hpairs : ∀ s ∈ e.tagSegments, IsPair s) :
    e.model os serial =
      Model.withOptions ⟨e.identity, e.name, e.defaultTable, e.ownFields, serial⟩ os >>=
        Model.checkColumns := by
  have hfields : fieldsFrom 0 e.fields = .ok e.ownFields := by
    simpa [ownFields] using fieldsFrom_of_pairs (k := 0) hpairs
  rw [model_of_record hshape, hfields]
  rfl

/-- **Applying options** for fields that the entity has comes to the final model. -/
theorem withOptions_eq_finalModel (hnames : e.names.Nodup)
    (hknown : ∀ o ∈ os, ¬ o.Misses e.names) :
    Model.withOptions ⟨e.identity, e.name, e.defaultTable, e.ownFields, serial⟩ os =
      .ok (e.finalModel os serial) := by
  have hkept := e.map_fieldName_ownFields
  have hfields : e.ownFields.map (Field.withOptions os) = (e.finalModel os serial).fields := by
    refine List.ext_getElem? fun p => ?_
    simp [ownFields, finalModel, Field.withOptions, FieldDecl.finalColumn, Function.comp_def]
  rw [Model.withOptions_of_known (m := ⟨_, _, _, e.ownFields, _⟩) (by rwa [hkept])
    (by rwa [hkept]), hfields]
  rfl

/-- **A registration that is accepted** gives the final model. -/
theorem model_of_accepts (hnames : e.names.Nodup) (h : e.Accepts os) :
    e.model os serial = .ok (e.finalModel os serial) := by
  rw [model_of_pairs h.shape h.pairs, withOptions_eq_finalModel hnames h.known]
  refine checkColumns_eq_ok.mpr ⟨rfl, repeatedColumn?_of_nodup ?_ (by simp)⟩
  rw [map_columnName_finalModel]
  exact h.distinct

/-- The final model is what an accepted entity is given. -/
theorem yields_finalModel (hnames : e.names.Nodup) (h : e.Accepts os) :
    e.Yields os (e.finalModel os serial) where
  identity_eq := rfl
  name_eq := rfl
  table_eq := rfl
  fields_eq := rfl
  field?_eq _ hf := find?_reverse_eq_some (by rwa [map_fieldName_finalModel]) hf
  column?_eq _ hf :=
    find?_reverse_eq_some (by rw [map_columnName_finalModel]; exact h.distinct) hf
  field?_none name hname := by
    refine Option.eq_none_iff_forall_ne_some.mpr fun f hf => hname ?_
    obtain ⟨hmem, rfl⟩ := Model.mem_of_field? hf
    exact List.mem_map_of_mem hmem
  column?_none column hcolumn := by
    refine Option.eq_none_iff_forall_ne_some.mpr fun f hf => hcolumn ?_
    obtain ⟨hmem, rfl⟩ := Model.mem_of_column? hf
    exact List.mem_map_of_mem hmem

/-- **A registration that is refused** fails with the fault that decides. -/
theorem model_of_refuses (hnames : e.names.Nodup) {err : Error} (h : e.Refuses os err) :
    e.model os serial = .error err := by
  cases h with
  | shape hshape =>
    simp [model, hshape, bind, Except.bind, throw, throwThe, MonadExceptOf.throw]
  | tag hshape hsplit hbefore hs =>
    have hfirst : e.tagSegments.find? (¬ IsPair ·) = some _ :=
      List.find?_eq_some_iff_append.mpr ⟨by simpa using hs, _, _, hsplit, by simpa using hbefore⟩
    rw [model_of_record hshape, fieldsFrom_of_fault hfirst]
    rfl
  | @option before field column after hshape hpairs hsplit hbefore hfield =>
    have hkept := e.map_fieldName_ownFields
    rw [model_of_pairs hshape hpairs, hsplit, Model.withOptions_of_fault
      (m := ⟨_, _, _, e.ownFields, _⟩) (by rwa [hkept]) (by rwa [hkept]) (by rwa [hkept])]
    rfl
  | @column before d after hshape hpairs hknown hsplit hbefore hd =>
    rw [model_of_pairs hshape hpairs, withOptions_eq_finalModel hnames hknown]
    show Model.checkColumns _ = _
    -- The fields of the model are split where those of the entity are.
    have hfields : (e.finalModel os serial).fields =
        (before.mapIdx fun p d => ⟨d.name, d.finalColumn os, d.type, p⟩) ++
          ⟨d.name, d.finalColumn os, d.type, before.length⟩ ::
            after.mapIdx fun p d => ⟨d.name, d.finalColumn os, d.type, p + 1 + before.length⟩ := by
      simp [finalModel, hsplit, List.mapIdx_append, List.mapIdx_cons]
    have hcolumns : (before.mapIdx fun p d =>
        (⟨d.name, d.finalColumn os, d.type, p⟩ : Field)).map Field.columnName =
          before.map (FieldDecl.finalColumn os) := by
      refine List.ext_getElem? fun p => ?_
      simp [Function.comp_def]
    rw [Model.checkColumns, hfields, repeatedColumn?_of_repeated (by rwa [hcolumns]) (by simp)
      (.inr (by rwa [hcolumns]))]
    rfl

/-- Every entity is accepted, or refused for one of the faults. -/
theorem accepts_or_refuses (e : Entity) (os : List ModelOption) :
    e.Accepts os ∨ ∃ err, e.Refuses os err := by
  by_cases hshape : e.shape = .record
  · cases hsegment : e.tagSegments.find? (¬ IsPair ·) with
    | some s =>
      obtain ⟨hs, before, after, hsplit, hbefore⟩ := List.find?_eq_some_iff_append.mp hsegment
      exact .inr ⟨_, .tag hshape hsplit (by simpa using hbefore) (by simpa using hs)⟩
    | none =>
      have hpairs : ∀ s ∈ e.tagSegments, IsPair s := by simpa using List.find?_eq_none.mp hsegment
      cases hoption : os.find? (ModelOption.Misses e.names ·) with
      | some o =>
        obtain ⟨ho, before, after, hsplit, hbefore⟩ := List.find?_eq_some_iff_append.mp hoption
        cases o with
        | tableName t => exact (of_decide_eq_true ho).elim
        | columnName field column =>
          exact .inr ⟨_, .option hshape hpairs hsplit (by simpa using hbefore)
            (of_decide_eq_true ho)⟩
      | none =>
        have hknown : ∀ o ∈ os, ¬ o.Misses e.names := by simpa using List.find?_eq_none.mp hoption
        by_cases hdistinct : (e.fields.map (FieldDecl.finalColumn os)).Nodup
        · exact .inl ⟨hshape, hpairs, hknown, hdistinct⟩
        · obtain ⟨before, d, after, hsplit, hbefore, hd⟩ := exists_repeated hdistinct
          exact .inr ⟨_, .column hshape hpairs hknown hsplit hbefore hd⟩
  · exact .inr ⟨_, .shape hshape⟩

end Entity

/-- **What a registration comes to**, for an entity whose fields have distinct names: it succeeds
just when the entity is accepted with the options, and then yields the model described above; else
it fails with the fault that decides. -/
theorem register_decided {e : Entity} (hnames : e.names.Nodup) (os : List ModelOption)
    (r : Registry) :
    ((∃ m r', r.register e os = .ok (m, r')) ↔ e.Accepts os) ∧
    (∀ m r', r.register e os = .ok (m, r') → e.Yields os m) ∧
    ∀ err, r.register e os = .error err ↔ e.Refuses os err := by
  have haccepted (h : e.Accepts os) :
      r.register e os = .ok (e.finalModel os r.issued, r.store (e.finalModel os r.issued)) :=
    Registry.register_eq_ok.mpr ⟨Entity.model_of_accepts hnames h, rfl⟩
  have hrefused {err : Error} (h : e.Refuses os err) : r.register e os = .error err := by
    rw [Registry.register, Entity.model_of_refuses hnames h]
    rfl
  -- Both outcomes are reached, and a registration has only one outcome.
  rcases e.accepts_or_refuses os with h | ⟨err, h⟩
  · refine ⟨iff_of_true ⟨_, _, haccepted h⟩ h, fun m r' hm => ?_, fun err => ?_⟩
    · cases (haccepted h).symm.trans hm
      exact Entity.yields_finalModel hnames h
    · refine iff_of_false ?_ fun h' => ?_
      · rw [haccepted h]
        nofun
      · cases (haccepted h).symm.trans (hrefused h')
  · refine ⟨iff_of_false ?_ fun h' => ?_, fun m r' hm => ?_, fun err' => ?_⟩
    · rintro ⟨m, r', hm⟩
      cases (hrefused h).symm.trans hm
    · cases (hrefused h).symm.trans (haccepted h')
    · cases (hrefused h).symm.trans hm
    · refine ⟨fun h' => ?_, hrefused⟩
      cases (hrefused h).symm.trans h'
      exact h

/-- An entity to try registrations on: of the columns that its first tag names the last one counts,
and the column that the second one names is empty. -/
def route : Entity :=
  ⟨0, "BusRoute", .record, some "",
    [⟨"start", ⟨.text, false⟩, some "column:from,column:origin", .text "", .content, false⟩,
      ⟨"endStop", ⟨.text, true⟩, some "note:last,column:", .null, .content, false⟩]⟩

/-- Two options let the fields of the route swap their columns, which are the same in between; the
first option alone is refused. -/
theorem swappedRoute_decided :
    let swap := [.columnName "start" "end_stop", .columnName "endStop" "origin"]
    route.names.Nodup ∧
    (∃ m r', Registry.empty.register route swap = .ok (m, r') ∧ route.Yields swap m ∧
      m.table = "bus_route" ∧ m.fields.map Field.columnName = ["end_stop", "origin"]) ∧
    Registry.empty.register route [.columnName "start" "end_stop"] =
      .error (.duplicateColumn "BusRoute.endStop -> end_stop") := by
  intro swap
  have hnames : route.names.Nodup := by decide
  have haccepts : route.Accepts swap := ⟨rfl, by decide, by decide, by decide +kernel⟩
  obtain ⟨hok, hyields, -⟩ := register_decided hnames swap Registry.empty
  obtain ⟨m, r', hm⟩ := hok.mpr haccepts
  refine ⟨hnames, ⟨m, r', hm, hyields m r' hm, ?_, ?_⟩, ?_⟩
  · rw [(hyields m r' hm).table_eq]
    decide +kernel
  · rw [(hyields m r' hm).fields_eq]
    decide +kernel
  · refine ((register_decided hnames _ Registry.empty).2.2 _).mpr ?_
    have hsplit : route.fields = [route.fields[0]] ++ route.fields[1] :: [] := rfl
    have hrefuses : route.Refuses [.columnName "start" "end_stop"] _ :=
      .column rfl (by decide) (by decide) hsplit (by decide) (by decide +kernel)
    exact hrefuses

end EntityMapper
