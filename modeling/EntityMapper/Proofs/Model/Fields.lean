import EntityMapper.Proofs.Model.Registry
import Mathlib.Data.List.Nodup

/-!
# The fields of models

The fields of a model are those of its entity, in order, under other columns. As columns are
distinct, and the fields of a derived entity have distinct names, looking up a name finds the one
field that bears it.

## Main definitions

* `Entity.Derived e`: access by name finds the content of every field of the entity
* `Field.slot f`: what a field has from its declaration
* `Model.Fits m e`: the fields of the model are those of the entity, with distinct columns

## Main results

* `fits_of_model`: a registered model fits its entity
* `Model.Fits.field?_eq`, `Model.Fits.column?_eq`: looking up the name and the column of a field
* `Entity.Derived.position?_eq`: the position of a field by its name
-/

namespace EntityMapper

/-! ## Derived entities -/

/-- **An entity whose access by name is derived**: names stand for one field each, and every field
is found with its content. -/
structure Entity.Derived (e : Entity) : Prop where
  names_nodup : (e.fields.map FieldDecl.name).Nodup
  content : ∀ d ∈ e.fields, d.access = .content ∧ d.hidden = false

/-- **The position of a field by its name.** -/
theorem Entity.Derived.position?_eq {e : Entity} (he : e.Derived) {p : Nat} {d : FieldDecl}
    (h : e.fields[p]? = some d) : e.position? d.name = some p := by
  obtain ⟨hp, rfl⟩ := List.getElem?_eq_some_iff.mp h
  refine List.findIdx?_eq_some_iff_getElem.mpr ⟨hp, beq_self_eq_true _, fun q hq heq => ?_⟩
  have hne := List.pairwise_iff_getElem.mp he.names_nodup q p (by simp; omega) (by simpa) hq
  rw [List.getElem_map, List.getElem_map] at hne
  exact hne (beq_iff_eq.mp heq)

/-! ## Fields from declarations -/

/-- **What a field has from its declaration**: its name, its type and its position. -/
def Field.slot (f : Field) : String × ValueType × Nat := (f.fieldName, f.valueType, f.position)

/-- The fields of declarations have their names and types, and are counted in order. -/
theorem slots_fieldsFrom {k : Nat} {ds : List FieldDecl} {fs : List Field}
    (h : fieldsFrom k ds = .ok fs) :
    fs.map Field.slot = ds.mapIdx fun p d => (d.name, d.type, k + p) := by
  induction ds generalizing k fs with
  | nil =>
    cases h
    rfl
  | cons d ds ih =>
    obtain ⟨column, -, h⟩ := bind_eq_ok.mp h
    obtain ⟨gs, hgs, h⟩ := bind_eq_ok.mp h
    cases h
    rw [List.map_cons, ih hgs, List.mapIdx_cons]
    simp [Field.slot, Nat.add_assoc, Nat.add_comm 1]

/-- Another column for a field changes nothing that the field has from its declaration. -/
theorem slots_renameColumn {field column : String} {fs gs : List Field}
    (h : renameColumn field column fs = .ok gs) : gs.map Field.slot = fs.map Field.slot := by
  induction fs generalizing gs with
  | nil => cases h
  | cons f fs ih =>
    unfold renameColumn at h
    split at h
    · cases h
      rfl
    · obtain ⟨gs', hgs, rfl⟩ := map_eq_ok.mp h
      rw [List.map_cons, List.map_cons, ih hgs]

/-- Options change nothing that the fields of a model have from their declarations. -/
theorem slots_withOptions {m m' : Model} {os : List ModelOption}
    (h : m.withOptions os = .ok m') : m'.fields.map Field.slot = m.fields.map Field.slot := by
  induction os generalizing m with
  | nil =>
    cases h
    rfl
  | cons o os ih =>
    obtain ⟨m₁, ho, hos⟩ := bind_eq_ok.mp h
    rw [ih hos]
    -- One kind of option changes the table, the other a column; neither is part of a slot.
    cases o with
    | tableName t =>
      cases ho
      rfl
    | columnName f c =>
      obtain ⟨fs, hfs, rfl⟩ := map_eq_ok.mp ho
      exact slots_renameColumn hfs

/-- Where no column is repeated, the columns are distinct, and distinct from those before. -/
theorem nodup_of_repeatedColumn? {seen : List String} {fs : List Field}
    (h : repeatedColumn? seen fs = none) :
    (fs.map Field.columnName).Nodup ∧ ∀ f ∈ fs, f.columnName ∉ seen := by
  induction fs generalizing seen with
  | nil => simp
  | cons f fs ih =>
    unfold repeatedColumn? at h
    split at h
    · cases h
    · next hseen =>
      obtain ⟨hnodup, hnew⟩ := ih h
      simp only [List.mem_cons, not_or] at hnew
      refine ⟨List.nodup_cons.mpr ⟨?_, hnodup⟩, ?_⟩
      · intro hmem
        obtain ⟨g, hg, heq⟩ := List.mem_map.mp hmem
        exact (hnew g hg).1 heq
      · exact List.forall_mem_cons.mpr ⟨hseen, fun g hg => (hnew g hg).2⟩

/-! ## Models that fit -/

/-- **The fields of the model are those of the entity**, and their columns are distinct. -/
structure Model.Fits (m : Model) (e : Entity) : Prop where
  slots_eq : m.fields.map Field.slot = e.fields.mapIdx fun p d => (d.name, d.type, p)
  columns_nodup : (m.fields.map Field.columnName).Nodup

/-- **A registered model fits its entity**, whatever the options. -/
theorem fits_of_model {e : Entity} {os : List ModelOption} {serial : Nat} {m : Model}
    (h : e.model os serial = .ok m) : m.Fits e := by
  obtain ⟨-, fs, hfs, hm, hcolumns⟩ := model_eq_ok.mp h
  refine ⟨?_, (nodup_of_repeatedColumn? hcolumns).1⟩
  rw [slots_withOptions hm]
  simpa using slots_fieldsFrom hfs

/-- The last element of a key is the only one, where keys are distinct. -/
theorem find?_reverse_eq_some {α : Type} {key : α → String} {xs : List α}
    (h : (xs.map key).Nodup) {x : α} (hx : x ∈ xs) :
    xs.reverse.find? (fun y => key y == key x) = some x := by
  -- Something with this key is found, and nothing else has the key.
  obtain ⟨y, hy⟩ := Option.isSome_iff_exists.mp
    (List.find?_isSome (p := fun y => key y == key x).mpr
      ⟨x, List.mem_reverse.mpr hx, beq_self_eq_true (key x)⟩)
  have hkey : key y = key x := by simpa using List.find?_some hy
  rw [hy, List.inj_on_of_nodup_map h (List.mem_reverse.mp (List.mem_of_find?_eq_some hy)) hx hkey]

/-- What is found by a key is an element that has the key. -/
theorem mem_of_find?_reverse {α : Type} {key : α → String} {xs : List α} {k : String} {x : α}
    (h : xs.reverse.find? (fun y => key y == k) = some x) : x ∈ xs ∧ key x = k := by
  have hkey : (key x == k) = true := List.find?_some (p := fun y => key y == k) h
  exact ⟨List.mem_reverse.mp (List.mem_of_find?_eq_some h), beq_iff_eq.mp hkey⟩

/-- What is found as the field of a name is a field of the model and has this name. -/
theorem Model.mem_of_field? {m : Model} {name : String} {f : Field} (h : m.field? name = some f) :
    f ∈ m.fields ∧ f.fieldName = name :=
  mem_of_find?_reverse h

/-- What is found as the field of a column is a field of the model and has this column. -/
theorem Model.mem_of_column? {m : Model} {column : String} {f : Field}
    (h : m.column? column = some f) : f ∈ m.fields ∧ f.columnName = column :=
  mem_of_find?_reverse h

namespace Model.Fits

variable {m : Model} {e : Entity} {f : Field}

/-- A field of the model belongs to the declaration at its position. -/
theorem exists_decl (hm : m.Fits e) (hf : f ∈ m.fields) :
    ∃ d, e.fields[f.position]? = some d ∧ f.fieldName = d.name ∧ f.valueType = d.type := by
  have hslot : f.slot ∈ e.fields.mapIdx fun p d => (d.name, d.type, p) :=
    hm.slots_eq ▸ List.mem_map_of_mem hf
  obtain ⟨p, hp, heq⟩ := List.mem_mapIdx.mp hslot
  simp only [Field.slot, Prod.mk.injEq] at heq
  obtain ⟨hname, htype, hposition⟩ := heq
  refine ⟨e.fields[p], ?_, hname.symm, htype.symm⟩
  rw [← hposition, List.getElem?_eq_getElem hp]

/-- A declaration belongs to a field of the model. -/
theorem exists_field (hm : m.Fits e) {p : Nat} {d : FieldDecl} (h : e.fields[p]? = some d) :
    ∃ f ∈ m.fields, f.fieldName = d.name ∧ f.valueType = d.type ∧ f.position = p := by
  have hslot : (m.fields.map Field.slot)[p]? = some (d.name, d.type, p) := by
    rw [hm.slots_eq, List.getElem?_mapIdx, h]
    rfl
  rw [List.getElem?_map, Option.map_eq_some_iff] at hslot
  obtain ⟨f, hf, heq⟩ := hslot
  simp only [Field.slot, Prod.mk.injEq] at heq
  exact ⟨f, List.mem_of_getElem? hf, heq⟩

/-- A field of the model stands at its position. -/
theorem getElem?_position (hm : m.Fits e) (hf : f ∈ m.fields) : m.fields[f.position]? = some f := by
  obtain ⟨p, hp⟩ := List.mem_iff_getElem?.mp hf
  have hslot : (m.fields.map Field.slot)[p]? = some f.slot := by rw [List.getElem?_map, hp]; rfl
  rw [hm.slots_eq, List.getElem?_mapIdx, Option.map_eq_some_iff] at hslot
  obtain ⟨d, -, heq⟩ := hslot
  simp only [Field.slot, Prod.mk.injEq] at heq
  rw [← heq.2.2, hp]

/-- Fields at one position are the same. -/
theorem eq_of_position_eq (hm : m.Fits e) {g : Field} (hf : f ∈ m.fields) (hg : g ∈ m.fields)
    (h : f.position = g.position) : f = g :=
  Option.some.inj ((hm.getElem?_position hf).symm.trans (h ▸ hm.getElem?_position hg))

/-- The fields of the model have the names of the entity. -/
theorem names_eq (hm : m.Fits e) :
    m.fields.map Field.fieldName = e.fields.map FieldDecl.name := by
  refine List.ext_getElem? fun p => ?_
  have h := congrArg (fun slots => slots[p]?.map Prod.fst) hm.slots_eq
  simpa [Function.comp_def, Field.slot] using h

/-- **Looking up the name of a field** of a derived entity. -/
theorem field?_eq (hm : m.Fits e) (he : e.Derived) (hf : f ∈ m.fields) :
    m.field? f.fieldName = some f :=
  find?_reverse_eq_some (hm.names_eq ▸ he.names_nodup) hf

/-- **Looking up the column of a field.** -/
theorem column?_eq (hm : m.Fits e) (hf : f ∈ m.fields) : m.column? f.columnName = some f :=
  find?_reverse_eq_some hm.columns_nodup hf

end Model.Fits

end EntityMapper
