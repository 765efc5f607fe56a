import EntityMapper.Proofs.Model.Accessor

/-!
# Writing rows

A row is written whole or not at all, in either way of access. It is written when the model knows
all of its columns and every value has a form of its field. Then every field that the row names
holds what the last value of its column is coerced to, and every other field what it held. If not,
the instance stays as it is, and the error tells the first column that is not known, or else the
first value that has no form of its field.

## Main definitions

* `Row.last? r c`: the value of the last column of a name
* `Model.Takes m c v`: the column is known and the value has a form of its field
* `Model.Scans m c cell`: what a column and a value are scanned to
* `Model.Written m r i j`: the instance after the row has been written to it
* `Model.Refuses m r err`: why the row is refused
* `Instance.putAll i cs`: the instance with values put at the positions of their fields

## Main results

* `scans_of_scanRow`, `refuses_of_scanRow`: rows that are scanned, and rows that are not
* `Entity.Derived.writeRow_of_scanRow`: writing a row that is scanned
* `access_agrees`: both ways of access read alike and write a row whole or not at all
-/

namespace EntityMapper

/-! ## What a row asks for -/

/-- The value of the last column of a name. -/
def Row.last? (r : Row) (column : String) : Option Value := r.cells.reverse.lookup column

namespace Model

/-- The column is one of the model, and the value has a form of its field. -/
def Takes (m : Model) (column : String) (v : Value) : Prop :=
  ∃ f w, m.column? column = some f ∧ v.coerce f.valueType = .ok w

/-- **What a column and a value are scanned to**: the field of the column and the value in its
form. -/
def Scans (m : Model) (c : String × Value) (cell : Field × Value) : Prop :=
  m.column? c.1 = some cell.1 ∧ c.2.coerce cell.1.valueType = .ok cell.2

/-- **The instance after the row has been written to it.** A field that the row names holds what
the last value of its column is coerced to, and any other field what it held. -/
structure Written (m : Model) (r : Row) (i j : Instance) : Prop where
  length_eq : j.cells.length = i.cells.length
  named : ∀ f ∈ m.fields, ∀ v, r.last? f.columnName = some v →
    ∃ w, v.coerce f.valueType = .ok w ∧ j.cells[f.position]? = some w
  others : ∀ f ∈ m.fields, f.columnName ∉ r.columns →
    j.cells[f.position]? = i.cells[f.position]?

/-- **Why the row is refused**: the first of its columns that the model does not know or, if it
knows all of them, the first value that has no form of its field. -/
inductive Refuses (m : Model) (r : Row) : Error → Prop where
  | unknownColumn {before after : List String} {column : String}
      (hcolumns : r.columns = before ++ column :: after)
      (hbefore : ∀ c ∈ before, (m.column? c).isSome) (hcolumn : m.column? column = none) :
      Refuses m r (.unknownColumn column)
  | decode {before after : List (String × Value)} {column : String} {v : Value} {f : Field}
      {fault : ConversionFault} (hknown : ∀ c ∈ r.columns, (m.column? c).isSome)
      (hcells : r.cells = before ++ (column, v) :: after)
      (hbefore : ∀ c ∈ before, m.Takes c.1 c.2) (hcolumn : m.column? column = some f)
      (hfault : v.coerce f.valueType = .error fault) :
      Refuses m r (.decode column fault.message)

end Model

/-! ## Scanning -/

section Scanning

variable {m : Model} {r : Row} {err : Error}

/-- Columns that are resolved are those of the fields that they are resolved to. -/
theorem columns_of_resolveColumns {cs : List String} {fs : List Field}
    (h : resolveColumns m cs = .ok fs) :
    cs = fs.map Field.columnName ∧ ∀ f ∈ fs, m.column? f.columnName = some f := by
  induction cs generalizing fs with
  | nil =>
    cases h
    simp
  | cons c cs ih =>
    unfold resolveColumns at h
    split at h
    · cases h
    · next f hf =>
      obtain ⟨gs, hgs, rfl⟩ := map_eq_ok.mp h
      obtain ⟨rfl, hall⟩ := ih hgs
      obtain ⟨-, rfl⟩ := Model.mem_of_column? hf
      exact ⟨rfl, List.forall_mem_cons.mpr ⟨hf, hall⟩⟩

/-- Resolving stops at the first column that is not known. -/
theorem resolveColumns_eq_error {cs : List String} (h : resolveColumns m cs = .error err) :
    ∃ before column after, cs = before ++ column :: after ∧
      (∀ c ∈ before, (m.column? c).isSome) ∧ m.column? column = none ∧
      err = .unknownColumn column := by
  induction cs with
  | nil => cases h
  | cons c cs ih =>
    unfold resolveColumns at h
    split at h
    · next hc =>
      cases h
      exact ⟨[], c, cs, rfl, by simp, hc, rfl⟩
    · next f hf =>
      obtain ⟨before, column, after, rfl, hbefore, hcolumn, rfl⟩ := ih (map_eq_error.mp h)
      refine ⟨c :: before, column, after, rfl, ?_, hcolumn, rfl⟩
      exact List.forall_mem_cons.mpr ⟨by simp [hf], hbefore⟩

/-- Values that are converted stay with their fields. -/
theorem forall₂_of_convertCells {cs cs' : List (Field × Value)} (h : convertCells cs = .ok cs') :
    List.Forall₂ (fun c c' => c.1 = c'.1 ∧ c.2.coerce c.1.valueType = .ok c'.2) cs cs' := by
  induction cs generalizing cs' with
  | nil =>
    cases h
    exact .nil
  | cons c cs ih =>
    unfold convertCells at h
    split at h
    · cases h
    · next w hw =>
      obtain ⟨ds, hds, rfl⟩ := map_eq_ok.mp h
      exact .cons ⟨rfl, hw⟩ (ih hds)

/-- Converting stops at the first value that has no form of its field. -/
theorem convertCells_eq_error {cs : List (Field × Value)} (h : convertCells cs = .error err) :
    ∃ before f v after fault, cs = before ++ (f, v) :: after ∧
      (∀ c ∈ before, ∃ w, c.2.coerce c.1.valueType = .ok w) ∧
      v.coerce f.valueType = .error fault ∧ err = .decode f.columnName fault.message := by
  induction cs with
  | nil => cases h
  | cons c cs ih =>
    obtain ⟨f, v⟩ := c
    unfold convertCells at h
    split at h
    · next fault hv =>
      cases h
      exact ⟨[], f, v, cs, fault, rfl, by simp, hv, rfl⟩
    · next w hw =>
      obtain ⟨before, g, u, after, fault, rfl, hbefore, hu, rfl⟩ := ih (map_eq_error.mp h)
      refine ⟨(f, v) :: before, g, u, after, fault, rfl, ?_, hu, rfl⟩
      exact List.forall_mem_cons.mpr ⟨⟨w, hw⟩, hbefore⟩

/-- The columns of a row are those of the fields, so its cells are the values of the fields. -/
theorem cells_of_resolveColumns {fs : List Field} (h : resolveColumns m r.columns = .ok fs) :
    r.cells = (fs.zip r.values).map fun c => (c.1.columnName, c.2) := by
  rw [Row.cells, (columns_of_resolveColumns h).1, List.zip_map_left]
  rfl

/-- **A row that is scanned**, column by column. -/
theorem scans_of_scanRow {cs : List (Field × Value)} (h : scanRow m r = .ok cs) :
    List.Forall₂ m.Scans r.cells cs := by
  obtain ⟨fs, hfs, hcs⟩ := bind_eq_ok.mp h
  have hknown : ∀ c ∈ fs.zip r.values, m.column? c.1.columnName = some c.1 := fun c hc =>
    (columns_of_resolveColumns hfs).2 c.1 (List.of_mem_zip hc).1
  rw [cells_of_resolveColumns hfs, List.forall₂_map_left_iff]
  refine ((List.forall₂_and_left _ _).mpr ⟨hknown, forall₂_of_convertCells hcs⟩).imp ?_
  rintro ⟨f, v⟩ ⟨g, w⟩ ⟨hf, rfl, hw⟩
  exact ⟨hf, hw⟩

/-- **A row that is not scanned is refused** with the error of the scan. -/
theorem refuses_of_scanRow (h : scanRow m r = .error err) : m.Refuses r err := by
  cases hfs : resolveColumns m r.columns with
  | error err' =>
    obtain rfl : err' = err := by simpa [scanRow, hfs, bind, Except.bind] using h
    obtain ⟨before, column, after, hcolumns, hbefore, hcolumn, rfl⟩ := resolveColumns_eq_error hfs
    exact .unknownColumn hcolumns hbefore hcolumn
  | ok fs =>
    have hcs : convertCells (fs.zip r.values) = .error err := by
      simpa [scanRow, hfs, bind, Except.bind] using h
    obtain ⟨hcolumns, hknown⟩ := columns_of_resolveColumns hfs
    obtain ⟨before, f, v, after, fault, hsplit, hbefore, hfault, rfl⟩ := convertCells_eq_error hcs
    have hzip : ∀ c ∈ before ++ (f, v) :: after, m.column? c.1.columnName = some c.1 := fun c hc =>
      hknown c.1 (List.of_mem_zip (hsplit ▸ hc)).1
    have hcells : r.cells = before.map (fun c => (c.1.columnName, c.2)) ++
        (f.columnName, v) :: after.map fun c => (c.1.columnName, c.2) := by
      rw [cells_of_resolveColumns hfs, hsplit]
      simp
    refine .decode ?_ hcells ?_ (hzip (f, v) (List.mem_append_right _ List.mem_cons_self)) hfault
    · intro c hc
      rw [hcolumns] at hc
      obtain ⟨g, hg, rfl⟩ := List.mem_map.mp hc
      rw [hknown g hg]
      rfl
    · intro c hc
      obtain ⟨b, hb, rfl⟩ := List.mem_map.mp hc
      obtain ⟨w, hw⟩ := hbefore b hb
      exact ⟨b.1, w, hzip b (List.mem_append_left _ hb), hw⟩

/-- The columns of a scanned row are taken. -/
theorem takes_of_scans {cells : List (String × Value)} {cs : List (Field × Value)}
    (h : List.Forall₂ m.Scans cells cs) : ∀ c ∈ cells, m.Takes c.1 c.2 := by
  induction h with
  | nil => simp
  | cons hc _ ih => exact List.forall_mem_cons.mpr ⟨⟨_, _, hc⟩, ih⟩

/-- A row that is refused has a column or a value that is not taken. -/
theorem Model.Refuses.not_takes (h : m.Refuses r err) : ¬ ∀ c ∈ r.cells, m.Takes c.1 c.2 := by
  intro htakes
  cases h with
  | @unknownColumn before after column hcolumns hbefore hcolumn =>
    -- Every column has a value, as there are equally many of them.
    have hmem : column ∈ r.cells.map Prod.fst := by
      rw [Row.cells, List.map_fst_zip r.length_eq.le, hcolumns]
      simp
    obtain ⟨c, hc, rfl⟩ := List.mem_map.mp hmem
    obtain ⟨f, -, hf, -⟩ := htakes c hc
    rw [hcolumn] at hf
    cases hf
  | @decode before after column v f fault hknown hcells hbefore hcolumn hfault =>
    obtain ⟨g, w, hg, hw⟩ := htakes (column, v) (by simp [hcells])
    obtain rfl : f = g := Option.some.inj (hcolumn.symm.trans hg)
    rw [hfault] at hw
    cases hw

end Scanning

/-! ## Writing what was scanned -/

/-- **The instance with values put at the positions of their fields**, those of the first cell
last. -/
def Instance.putAll (i : Instance) (cs : List (Field × Value)) : Instance :=
  cs.foldr (fun c j => j.put c.1.position c.2) i

section Writing

variable {m : Model} {e : Entity} {r : Row} {i : Instance}

/-- Values that are stored as they are are put at the positions of their fields in order. -/
theorem writeByPosition_eq_putAll {cs : List (Field × Value)}
    (h : ∀ c ∈ cs, c.1.valueType.store c.2 = .ok c.2) (i : Instance) :
    writeByPosition i cs = (i.putAll cs.reverse, .ok ()) := by
  rw [Instance.putAll, List.foldr_reverse]
  induction cs generalizing i with
  | nil => rfl
  | cons c cs ih =>
    obtain ⟨hc, hcs⟩ := List.forall_mem_cons.mp h
    simp only [writeByPosition, hc]
    exact ih hcs _

/-- **What values leave behind that are put in place.** The cells are those of a scanned row, the
last one first. -/
theorem written_putAll (hm : m.Fits e) (hi : i.cells.length = e.fields.length)
    {cells : List (String × Value)} {cs : List (Field × Value)}
    (h : List.Forall₂ m.Scans cells cs) :
    (i.putAll cs).cells.length = i.cells.length ∧
      ∀ f ∈ m.fields,
        (∀ v, cells.lookup f.columnName = some v →
          ∃ w, v.coerce f.valueType = .ok w ∧ (i.putAll cs).cells[f.position]? = some w) ∧
        (f.columnName ∉ cells.map Prod.fst →
          (i.putAll cs).cells[f.position]? = i.cells[f.position]?) := by
  -- Induction on the cells from the last one; what is put in place last is not overwritten.
  induction h with
  | nil => exact ⟨rfl, fun f _ => ⟨by simp, fun _ => rfl⟩⟩
  | @cons c cell cells cs hc _ ih =>
    obtain ⟨column, v⟩ := c
    obtain ⟨g, w⟩ := cell
    obtain ⟨hg, hw⟩ := hc
    obtain ⟨hlength, hfields⟩ := ih
    obtain ⟨hgm, rfl⟩ := Model.mem_of_column? hg
    have hput : i.putAll ((g, w) :: cs) = (i.putAll cs).put g.position w := rfl
    refine ⟨by rw [hput, ← hlength, Instance.put, List.length_set], fun f hf => ?_⟩
    obtain ⟨hnamed, hothers⟩ := hfields f hf
    by_cases hfg : f = g
    · subst hfg
      refine ⟨fun u hu => ?_, fun hu => ?_⟩
      · obtain rfl : v = u := by simpa using hu
        obtain ⟨d, hd, -⟩ := hm.exists_decl hf
        have hp : f.position < (i.putAll cs).cells.length := by
          rw [hlength, hi]
          exact (List.getElem?_eq_some_iff.mp hd).1
        exact ⟨w, hw, by simp [hput, Instance.put, hp]⟩
      · simp at hu
    · have hcolumn : f.columnName ≠ g.columnName := fun heq => hfg
        (List.inj_on_of_nodup_map hm.columns_nodup hf hgm heq)
      have hkept : ((i.putAll cs).put g.position w).cells[f.position]? =
          (i.putAll cs).cells[f.position]? :=
        List.getElem?_set_ne fun heq => hfg (hm.eq_of_position_eq hgm hf heq).symm
      rw [hput, hkept]
      refine ⟨fun u hu => ?_, fun hu => ?_⟩
      · rw [List.lookup_cons, beq_eq_false_iff_ne.mpr hcolumn] at hu
        exact hnamed u hu
      · rw [List.map_cons, List.mem_cons, not_or] at hu
        exact hothers hu.2

/-- What a row is scanned to is in the forms of fields of the model, and is stored as it is. -/
theorem stored_of_scans {cells : List (String × Value)} {cs : List (Field × Value)}
    (h : List.Forall₂ m.Scans cells cs) :
    ∀ c ∈ cs, c.1 ∈ m.fields ∧ c.1.valueType.Holds c.2 ∧ c.1.valueType.store c.2 = .ok c.2 := by
  induction h with
  | nil => simp
  | cons hc _ ih =>
    obtain ⟨hcolumn, hw⟩ := hc
    refine List.forall_mem_cons.mpr ⟨⟨?_, ?_, ?_⟩, ih⟩
    · exact (Model.mem_of_column? hcolumn).1
    · exact ValueType.holds_of_coerce hw
    · rw [ValueType.store_eq_coerce, ValueType.coerce_of_coerce hw]

/-- **A row that is scanned is written**, in either way of access. -/
theorem Entity.Derived.writeRow_of_scanRow (he : e.Derived) (hm : m.Fits e) {k : AccessorKind}
    (hcheck : k = .byPosition → checkLayout e m = .ok ()) (hi : e.Holds i)
    {cs : List (Field × Value)} (hscan : scanRow m r = .ok cs) :
    writeRow k e m i r = (i.putAll cs.reverse, .ok ()) ∧
      m.Written r i (i.putAll cs.reverse) := by
  have hscans := scans_of_scanRow hscan
  have hstored := stored_of_scans hscans
  constructor
  · rw [he.writeRow_eq hm hcheck hscan (fun c hc => ⟨(hstored c hc).1, (hstored c hc).2.1⟩) i]
    exact writeByPosition_eq_putAll (fun c hc => (hstored c hc).2.2) i
  · obtain ⟨hlength, hfields⟩ := written_putAll hm (List.forall₂_iff_get.mp hi).1.symm
      (List.forall₂_reverse_iff.mpr hscans)
    have hcolumns : r.columns = r.cells.map Prod.fst := (List.map_fst_zip r.length_eq.le).symm
    refine ⟨hlength, fun f hf => (hfields f hf).1, fun f hf hnone => (hfields f hf).2 ?_⟩
    rwa [List.map_reverse, List.mem_reverse, ← hcolumns]

/-- A row that is not scanned leaves the instance as it is, in either way of access. -/
theorem writeRow_of_error {k : AccessorKind} (hcheck : k = .byPosition → checkLayout e m = .ok ())
    {err : Error} (hscan : scanRow m r = .error err) (i : Instance) :
    writeRow k e m i r = (i, .error err) := by
  cases k with
  | byName => simp [writeRow, hscan]
  | byPosition => simp [writeRow, hcheck rfl, hscan]

/-- **Both ways of access read alike, and write a row whole or not at all.** Whatever the name,
they read the same. Whatever the row, they leave the same instance and the same result: the row is
written exactly if all of its columns and values are taken, and otherwise it is refused and the
instance stays as it is. -/
theorem access_agrees {os : List ModelOption} {serial : Nat} (he : e.Derived)
    (hmodel : e.model os serial = .ok m) (hcheck : checkLayout e m = .ok ()) (hi : e.Holds i)
    (r : Row) :
    (∀ name, readField .byName e m i name = readField .byPosition e m i name) ∧
      writeRow .byName e m i r = writeRow .byPosition e m i r ∧
      ∀ k, ∃ j result, writeRow k e m i r = (j, result) ∧
        (result = .ok () ↔ ∀ c ∈ r.cells, m.Takes c.1 c.2) ∧
        (result = .ok () → m.Written r i j) ∧
        ∀ err, result = .error err → j = i ∧ m.Refuses r err := by
  have hm := fits_of_model hmodel
  refine ⟨fun name => ?_, ?_, fun k => ?_⟩
  · cases hf : m.field? name with
    | none => simp [readField, readByName, readByPosition, hcheck, hf, bind, Except.bind]
    | some f =>
      obtain ⟨hfm, rfl⟩ := Model.mem_of_field? hf
      have hcell := (hi.content_of_mem hm hfm).1
      rw [he.readField_eq hm hfm (fun _ => hcheck) hcell,
        he.readField_eq hm hfm (fun _ => hcheck) hcell]
  · cases hscan : scanRow m r with
    | ok cs =>
      rw [(he.writeRow_of_scanRow hm (fun _ => hcheck) hi hscan).1,
        (he.writeRow_of_scanRow hm (fun _ => hcheck) hi hscan).1]
    | error err =>
      rw [writeRow_of_error (fun _ => hcheck) hscan, writeRow_of_error (fun _ => hcheck) hscan]
  · cases hscan : scanRow m r with
    | ok cs =>
      obtain ⟨hwrite, hwritten⟩ := he.writeRow_of_scanRow hm (k := k) (fun _ => hcheck) hi hscan
      refine ⟨_, _, hwrite, ⟨fun _ => ?_, fun _ => rfl⟩, fun _ => hwritten, by rintro err ⟨⟩⟩
      exact takes_of_scans (scans_of_scanRow hscan)
    | error err =>
      have hrefuses := refuses_of_scanRow hscan
      refine ⟨_, _, writeRow_of_error (fun _ => hcheck) hscan i, ⟨by rintro ⟨⟩, fun htakes => ?_⟩,
        by rintro ⟨⟩, by rintro err ⟨⟩; exact ⟨rfl, hrefuses⟩⟩
      exact absurd htakes hrefuses.not_takes

end Writing

/-- An entity to try rows on: a gauge with its level, which may be unknown. -/
def gauge : Entity :=
  ⟨0, "Gauge", .record, none,
    [⟨"id", ⟨.int .u8, false⟩, none, .int .u8 (BoundedInt.zero _), .content, false⟩,
      ⟨"level", ⟨.int .i32, true⟩, none, .null, .content, false⟩]⟩

/-- The model of the gauge with an option for the column of its level. -/
def gaugeModel : Model :=
  ⟨0, "Gauge", "gauge",
    [⟨"id", "id", ⟨.int .u8, false⟩, 0⟩, ⟨"level", "reading", ⟨.int .i32, true⟩, 1⟩], 0⟩

/-- A row for the gauge, with its level twice. -/
def gaugeRow : Row :=
  ⟨["reading", "id", "reading"], [.null, .bool true, .int .u64 ⟨40, by decide⟩], rfl⟩

/-- Either way, the second level of the row is written to a blank gauge. -/
theorem gaugeRow_written : ∃ j, writeRow .byName gauge gaugeModel gauge.blank gaugeRow =
      (j, .ok ()) ∧
    writeRow .byPosition gauge gaugeModel gauge.blank gaugeRow = (j, .ok ()) ∧
    j.cells[1]? = some (.int .i32 ⟨40, by decide⟩) := by
  have hmodel : gauge.model [.columnName "level" "reading"] 0 = .ok gaugeModel := rfl
  have hcheck : checkLayout gauge gaugeModel = .ok () := rfl
  have hholds : gauge.Holds gauge.blank := .cons ⟨_, rfl⟩ (.cons ⟨none, rfl⟩ .nil)
  obtain ⟨-, heq, hwrite⟩ := access_agrees ⟨by decide, by decide⟩ hmodel hcheck hholds gaugeRow
  obtain ⟨j, result, hj, htakes, hwritten, -⟩ := hwrite .byName
  have hall : ∀ c ∈ gaugeRow.cells, gaugeModel.Takes c.1 c.2 := by
    refine List.forall_mem_cons.mpr ⟨⟨_, _, rfl, rfl⟩, List.forall_mem_cons.mpr ⟨⟨_, _, rfl, rfl⟩,
      List.forall_mem_singleton.mpr ⟨_, _, rfl, rfl⟩⟩⟩
  obtain rfl := htakes.mpr hall
  obtain ⟨w, hw, hcell⟩ := (hwritten rfl).named ⟨"level", "reading", ⟨.int .i32, true⟩, 1⟩
    (by decide) _ rfl
  obtain rfl : Value.int .i32 ⟨40, by decide⟩ = w := Except.ok.inj hw
  exact ⟨j, hj, heq ▸ hj, hcell⟩

end EntityMapper
