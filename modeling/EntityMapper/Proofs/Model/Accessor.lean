import EntityMapper.Model.Accessor
import EntityMapper.Proofs.Model.Fields
import EntityMapper.Proofs.Value.Conversion

/-!
# Laws of reading and writing instances

In a model that fits a derived entity, access by name and access by position reach the same cell.
So both ways read the content of a field, and a row of values that are in the form of their fields
is written whole, each value to the cell of its field and no other cell.

## Main definitions

* `Entity.Holds e i`: the cells of the instance are in the form of the fields
* `Instance.content i f`: the content of a field
* `Instance.Overlays i b j ps`: `j` has the contents of `i` at the positions `ps`, and those of `b`
  elsewhere

## Main results

* `Entity.Derived.readField_eq`: reading a field in either way
* `Entity.Derived.writeByName_eq`: writing by name is writing by position
* `Entity.Derived.writeRow_values`: writing the contents of an instance to another one
-/

namespace EntityMapper

/-- **The cells of the instance are in the form of the fields** of the entity. -/
def Entity.Holds (e : Entity) (i : Instance) : Prop :=
  List.Forall₂ (fun d v => d.type.Holds v) e.fields i.cells

/-- The content of a field. -/
def Instance.content (i : Instance) (f : Field) : Value := i.cells.getD f.position .null

/-- **One instance laid over another at positions.** There the contents are those of `i`, up to
what is not a number, and elsewhere they are those of `b`. -/
structure Instance.Overlays (i b j : Instance) (ps : List Nat) : Prop where
  length_eq : j.cells.length = b.cells.length
  inside : ∀ p ∈ ps, ∃ v w, i.cells[p]? = some v ∧ j.cells[p]? = some w ∧ v.Alike w
  outside : ∀ p, p ∉ ps → j.cells[p]? = b.cells[p]?

/-- The content of a field is in the form of the field. -/
theorem Entity.Holds.content_of_mem {e : Entity} {i : Instance} (hi : e.Holds i) {m : Model}
    (hm : m.Fits e) {f : Field} (hf : f ∈ m.fields) :
    i.cells[f.position]? = some (i.content f) ∧ f.valueType.Holds (i.content f) := by
  obtain ⟨d, hd, -, htype⟩ := hm.exists_decl hf
  obtain ⟨hp, rfl⟩ := List.getElem?_eq_some_iff.mp hd
  obtain ⟨hlength, hget⟩ := List.forall₂_iff_get.mp hi
  have hcell : i.cells[f.position]? = some i.cells[f.position] := List.getElem?_eq_getElem _
  have hcontent : i.content f = i.cells[f.position] := by simp [Instance.content, List.getD, hcell]
  rw [hcontent]
  exact ⟨hcell, htype ▸ hget _ hp (hlength ▸ hp)⟩

/-! ## Rows in the form of their fields -/

/-- The columns of fields are resolved to the fields. -/
theorem Model.Fits.resolveColumns_eq {m : Model} {e : Entity} (hm : m.Fits e) {fs : List Field}
    (hfs : ∀ f ∈ fs, f ∈ m.fields) : resolveColumns m (fs.map Field.columnName) = .ok fs := by
  induction fs with
  | nil => rfl
  | cons f fs ih =>
    obtain ⟨hf, hfs⟩ := List.forall_mem_cons.mp hfs
    simp [resolveColumns, hm.column?_eq hf, ih hfs, Except.map]

/-- Values that can be coerced are converted in order. -/
theorem convertCells_eq {fs : List Field} {g g' : Field → Value}
    (h : ∀ f ∈ fs, (g f).coerce f.valueType = .ok (g' f)) :
    convertCells (fs.map fun f => (f, g f)) = .ok (fs.map fun f => (f, g' f)) := by
  induction fs with
  | nil => rfl
  | cons f fs ih =>
    obtain ⟨hf, hfs⟩ := List.forall_mem_cons.mp h
    simp [convertCells, hf, ih hfs, Except.map]

/-- **Writing values by position** lays their instance over the one that is written to. -/
theorem writeByPosition_of_holds {i b : Instance} {cs : List (Field × Value)}
    (h : ∀ c ∈ cs, c.1.valueType.Holds c.2 ∧ c.1.position < b.cells.length ∧
      ∃ v, i.cells[c.1.position]? = some v ∧ v.Alike c.2) :
    ∃ j, writeByPosition b cs = (j, .ok ()) ∧
      i.Overlays b j (cs.map fun c => c.1.position) := by
  -- Induction on the values; a cell that is written twice keeps the later value.
  induction cs generalizing b with
  | nil => exact ⟨b, rfl, rfl, by simp, fun _ _ => rfl⟩
  | cons c cs ih =>
    obtain ⟨f, v⟩ := c
    obtain ⟨⟨hholds, hlt, u, hu, huv⟩, hcs⟩ := List.forall_mem_cons.mp h
    obtain ⟨w, hw, -, hvw⟩ := ValueType.store_of_holds hholds
    obtain ⟨j, hj, hover⟩ := ih (b := b.put f.position w) fun c hc => by
      obtain ⟨hc₁, hc₂, hc₃⟩ := hcs c hc
      exact ⟨hc₁, by simpa [Instance.put] using hc₂, hc₃⟩
    refine ⟨j, by simpa [writeByPosition, hw] using hj, ?_, fun p hp => ?_, fun p hp => ?_⟩
    · simpa [Instance.put] using hover.length_eq
    · by_cases hlater : p ∈ cs.map fun c => c.1.position
      · exact hover.inside p hlater
      · -- No later value goes to this cell, which therefore keeps what is stored now.
        obtain rfl : p = f.position := (List.mem_cons.mp hp).resolve_right hlater
        refine ⟨u, w, hu, ?_, huv.trans hvw⟩
        rw [hover.outside _ hlater]
        simp [Instance.put, hlt]
    · rw [List.map_cons, List.mem_cons, not_or] at hp
      rw [hover.outside p hp.2]
      simp [Instance.put, Ne.symm hp.1]

/-! ## The two ways -/

namespace Entity.Derived

variable {e : Entity} {m : Model} {f : Field}

/-- Reading the name of a field yields the cell at its position. -/
theorem read?_eq (he : e.Derived) (hm : m.Fits e) (hf : f ∈ m.fields) (i : Instance) :
    e.read? i f.fieldName = i.cells[f.position]? := by
  obtain ⟨d, hd, hname, -⟩ := hm.exists_decl hf
  obtain ⟨hcontent, hhidden⟩ := he.content d (List.mem_of_getElem? hd)
  rw [hname]
  simp [Entity.read?, he.position?_eq hd, hd, hcontent, hhidden]

/-- **Reading a field in either way** yields the cell at its position. -/
theorem readField_eq (he : e.Derived) (hm : m.Fits e) (hf : f ∈ m.fields) {k : AccessorKind}
    (hcheck : k = .byPosition → checkLayout e m = .ok ()) {i : Instance} {v : Value}
    (hv : i.cells[f.position]? = some v) : readField k e m i f.fieldName = .ok v := by
  cases k with
  | byName => simp [readField, readByName, hm.field?_eq he hf, he.read?_eq hm hf, hv]
  | byPosition =>
    simp [readField, readByPosition, hcheck rfl, hm.field?_eq he hf, hv, bind, Except.bind]

/-- Writing the name of a field puts the value, in the type of the field, at its position. -/
theorem write_eq (he : e.Derived) (hm : m.Fits e) (hf : f ∈ m.fields) (i : Instance)
    {v w : Value} (hw : f.valueType.store v = .ok w) :
    e.write i f.fieldName v = .ok (i.put f.position w) := by
  obtain ⟨d, hd, hname, htype⟩ := hm.exists_decl hf
  obtain ⟨-, hhidden⟩ := he.content d (List.mem_of_getElem? hd)
  rw [hname]
  simp [Entity.write, he.position?_eq hd, hd, hhidden, ← htype, hw]

/-- **Writing by name is writing by position**, for values in the form of their fields. -/
theorem writeByName_eq (he : e.Derived) (hm : m.Fits e) {cs : List (Field × Value)}
    (hcs : ∀ c ∈ cs, c.1 ∈ m.fields ∧ c.1.valueType.Holds c.2) (b : Instance) :
    writeByName e b cs = writeByPosition b cs := by
  induction cs generalizing b with
  | nil => rfl
  | cons c cs ih =>
    obtain ⟨f, v⟩ := c
    obtain ⟨⟨hf, hholds⟩, hcs⟩ := List.forall_mem_cons.mp hcs
    obtain ⟨w, hw, -⟩ := ValueType.store_of_holds hholds
    simp [writeByName, writeByPosition, he.write_eq hm hf b hw, hw, ih hcs]

/-- A row that is in the form of its fields is written by position, whatever the way. -/
theorem writeRow_eq (he : e.Derived) (hm : m.Fits e) {k : AccessorKind}
    (hcheck : k = .byPosition → checkLayout e m = .ok ()) {r : Row} {cs : List (Field × Value)}
    (hscan : scanRow m r = .ok cs)
    (hcs : ∀ c ∈ cs, c.1 ∈ m.fields ∧ c.1.valueType.Holds c.2) (b : Instance) :
    writeRow k e m b r = writeByPosition b cs := by
  cases k with
  | byName => simp [writeRow, hscan, he.writeByName_eq hm hcs]
  | byPosition => simp [writeRow, hcheck rfl, hscan]

/-- **Writing the contents of an instance to another one** lays it over the other at the positions
of the fields. -/
theorem writeRow_values (he : e.Derived) (hm : m.Fits e) {k : AccessorKind}
    (hcheck : k = .byPosition → checkLayout e m = .ok ()) {fs : List Field}
    (hfs : ∀ f ∈ fs, f ∈ m.fields) {i b : Instance} (hi : e.Holds i)
    (hb : b.cells.length = e.fields.length) {r : Row}
    (hcolumns : r.columns = fs.map Field.columnName) (hvalues : r.values = fs.map i.content) :
    ∃ j, writeRow k e m b r = (j, .ok ()) ∧ i.Overlays b j (fs.map Field.position) := by
  have : Inhabited Value := ⟨.null⟩
  -- What a field holds is converted to something alike, which the field holds as well.
  choose! stored hcoerce hstored halike using fun f hf =>
    ValueType.coerce_of_holds (hi.content_of_mem hm (hfs f hf)).2
  have hscan : scanRow m r = .ok (fs.map fun f => (f, stored f)) := by
    have hzip : fs.zip (fs.map i.content) = fs.map fun f => (f, i.content f) := by
      simpa using List.zip_map' (f := id) (g := i.content) (l := fs)
    rw [scanRow, hcolumns, hvalues, hm.resolveColumns_eq hfs, ← convertCells_eq hcoerce, ← hzip]
    rfl
  have hwrite : ∀ c ∈ fs.map fun f => (f, stored f), c.1.valueType.Holds c.2 ∧
      c.1.position < b.cells.length ∧ ∃ v, i.cells[c.1.position]? = some v ∧ v.Alike c.2 := by
    intro c hc
    obtain ⟨f, hf, rfl⟩ := List.mem_map.mp hc
    obtain ⟨d, hd, -⟩ := hm.exists_decl (hfs f hf)
    refine ⟨hstored f hf, ?_, _, (hi.content_of_mem hm (hfs f hf)).1, halike f hf⟩
    rw [hb]
    exact (List.getElem?_eq_some_iff.mp hd).1
  obtain ⟨j, hj, hover⟩ := writeByPosition_of_holds hwrite
  refine ⟨j, ?_, by simpa [Function.comp_def] using hover⟩
  rw [he.writeRow_eq hm hcheck hscan (fun c hc => ?_) b, hj]
  obtain ⟨f, hf, rfl⟩ := List.mem_map.mp hc
  exact ⟨hfs f hf, hstored f hf⟩

end Entity.Derived

end EntityMapper
