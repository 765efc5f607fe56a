import EntityMapper.Proofs.Model.Writing
import EntityMapper.Proofs.Value.Canonical

/-!
# The check on the blank instance

The two ways of access reach the same cells of a derived entity, so that the check on the blank
instance compares every initial value with itself. It finds nothing unless one of them is not a
number, which is never equal to itself; then access by position is refused for every instance,
however alike the two ways would read it.

## Main definitions

* `FieldDecl.fault e d`: what the check says about a field that it stops at
* `Entity.AgreesIn e m`: the two ways of access do the same to all instances
* `Entity.Checked e m`: what the check on the blank instance comes to

## Main results

* `layoutFault?_eq`: the check finds the first field that does not hold a number at first
* `positional_access_checked`: the derived entities that access by position works on
-/

namespace EntityMapper

/-- What the check on the blank instance says about a field of an entity that it stops at. -/
def FieldDecl.fault (e : Entity) (d : FieldDecl) : LayoutFault :=
  .disagrees e.name d.name d.initial d.initial

/-- **The two ways of access do the same to all instances** of the entity: they read every name
alike, and leave every row alike. -/
def Entity.AgreesIn (e : Entity) (m : Model) : Prop :=
  ∀ i, e.Holds i →
    (∀ name, readField .byPosition e m i name = readField .byName e m i name) ∧
      ∀ r, writeRow .byPosition e m i r = writeRow .byName e m i r

/-- **What the check on the blank instance comes to**, for a model of the entity. -/
structure Entity.Checked (e : Entity) (m : Model) : Prop where
  /-- It is passed unless a field does not hold a number at first. -/
  passed_iff : checkLayout e m = .ok () ↔ ∀ d ∈ e.fields, ¬ d.initial.IsNaN
  /-- Just then access by position works as access by name does. -/
  agrees_iff : e.AgreesIn m ↔ ∀ d ∈ e.fields, ¬ d.initial.IsNaN
  /-- Otherwise nothing is read or written by position, whatever the instance and the row. -/
  refused (d : FieldDecl) : e.fields.find? (·.initial.IsNaN) = some d →
    (∀ i name, readField .byPosition e m i name = .error (.other (d.fault e).message)) ∧
      ∀ i r, writeRow .byPosition e m i r = (i, .error (.other (d.fault e).message))

section Check

variable {e : Entity} {m : Model}

/-- A registered model has the name of its entity. -/
theorem entityName_of_model {os : List ModelOption} {serial : Nat}
    (h : e.model os serial = .ok m) : m.entityName = e.name := by
  obtain ⟨-, fs, -, hm, -⟩ := model_eq_ok.mp h
  exact (withOptions_eq_ok hm).2.1

/-- **What the check finds about one field** of a derived entity. -/
theorem Entity.Derived.fieldFault?_eq (he : e.Derived) (hm : m.Fits e)
    (hname : m.entityName = e.name) {f : Field} (hf : f ∈ m.fields) {d : FieldDecl}
    (hd : e.fields[f.position]? = some d) :
    fieldFault? e m f = if d.initial.IsNaN then some (d.fault e) else none := by
  have hcell : e.blank.cells[f.position]? = some d.initial := by
    rw [Entity.blank, List.getElem?_map, hd]
    rfl
  have hread : readByName e m e.blank f.fieldName = .ok d.initial :=
    he.readField_eq hm hf (k := .byName) nofun hcell
  obtain ⟨d', hd', hfield, -⟩ := hm.exists_decl hf
  obtain rfl : d = d' := Option.some.inj (hd.symm.trans hd')
  unfold fieldFault?
  rw [hread, hcell]
  dsimp only
  by_cases hnan : d.initial.IsNaN
  · rw [if_neg fun hsame => Value.same_self_iff.mp hsame hnan, if_pos hnan, hname, hfield]
    rfl
  · rw [if_pos (Value.same_self_iff.mpr hnan), if_neg hnan]

/-- The fields of a model and the declarations that they belong to, in order. -/
theorem Model.Fits.forall₂_decls (hm : m.Fits e) :
    List.Forall₂ (fun f d => f ∈ m.fields ∧ e.fields[f.position]? = some d) m.fields e.fields := by
  have hlength : m.fields.length = e.fields.length := by
    simpa using congrArg List.length hm.slots_eq
  refine List.forall₂_iff_get.mpr ⟨hlength, fun p hp hp' => ?_⟩
  have hmem : m.fields[p] ∈ m.fields := List.getElem_mem hp
  obtain ⟨f, hf, -, -, hposition⟩ := hm.exists_field (List.getElem?_eq_getElem hp')
  have hfield := hm.getElem?_position hf
  rw [hposition, List.getElem?_eq_getElem hp, Option.some.injEq] at hfield
  rw [List.get_eq_getElem, List.get_eq_getElem, hfield, hposition]
  exact ⟨hf, List.getElem?_eq_getElem hp'⟩

/-- **The check finds the first field that holds no number at first.** -/
theorem layoutFault?_eq (he : e.Derived) (hm : m.Fits e) (hname : m.entityName = e.name) :
    layoutFault? e m = (e.fields.find? (·.initial.IsNaN)).map (FieldDecl.fault e) := by
  have hfaults : ∀ {fs : List Field} {ds : List FieldDecl},
      List.Forall₂ (fun f d => f ∈ m.fields ∧ e.fields[f.position]? = some d) fs ds →
        fs.findSome? (fieldFault? e m) = (ds.find? (·.initial.IsNaN)).map (FieldDecl.fault e) := by
    intro fs ds h
    induction h with
    | nil => rfl
    | @cons f d fs ds hd _ ih =>
      rw [List.findSome?_cons, he.fieldFault?_eq hm hname hd.1 hd.2, List.find?_cons]
      by_cases hnan : d.initial.IsNaN
      · simp [hnan]
      · simpa [hnan] using ih
  exact hfaults hm.forall₂_decls

/-- The check on the blank instance of a derived entity, in a model of its own. -/
theorem checkLayout_eq {os : List ModelOption} {serial : Nat} (he : e.Derived)
    (hmodel : e.model os serial = .ok m) :
    checkLayout e m = match e.fields.find? (·.initial.IsNaN) with
      | none => .ok ()
      | some d => .error (.other (d.fault e).message) := by
  have howner : m.isModelOf e = true := beq_iff_eq.mpr (identity_of_model hmodel)
  rw [checkLayout, if_pos howner,
    layoutFault?_eq he (fits_of_model hmodel) (entityName_of_model hmodel)]
  cases e.fields.find? (·.initial.IsNaN) <;> rfl

/-- **Access by position works wherever the check is passed.** -/
theorem agreesIn_of_checkLayout {os : List ModelOption} {serial : Nat} (he : e.Derived)
    (hmodel : e.model os serial = .ok m) (hcheck : checkLayout e m = .ok ()) : e.AgreesIn m := by
  have hm := fits_of_model hmodel
  refine fun i _ => ⟨fun name => ?_, fun r => ?_⟩
  · simp only [readField, readByPosition, readByName, hcheck, bind, Except.bind]
    cases hf : m.field? name with
    | none => rfl
    | some f => simp only [he.read?_eq hm (Model.mem_of_field? hf).1]
  · cases hscan : scanRow m r with
    | error err => simp [writeRow, hcheck, hscan]
    | ok cs =>
      have hstored := stored_of_scans (scans_of_scanRow hscan)
      simp only [writeRow, hcheck, hscan]
      exact (he.writeByName_eq hm (fun c hc => ⟨(hstored c hc).1, (hstored c hc).2.1⟩) i).symm

/-- Where the check is not passed, nothing is read or written by position. -/
theorem refused_of_checkLayout {err : Error} (hcheck : checkLayout e m = .error err) :
    (∀ i name, readField .byPosition e m i name = .error err) ∧
      ∀ i r, writeRow .byPosition e m i r = (i, .error err) := by
  refine ⟨fun i name => ?_, fun i r => ?_⟩
  · simp [readField, readByPosition, hcheck, bind, Except.bind]
  · simp [writeRow, hcheck]

/-- **Access by position works on exactly those derived entities** none of whose fields holds at
first what is not a number. On all others it is refused, and names the first such field. -/
theorem positional_access_checked {os : List ModelOption} {serial : Nat} (he : e.Derived)
    (hblank : e.Holds e.blank) (hmodel : e.model os serial = .ok m) : e.Checked m := by
  have hm := fits_of_model hmodel
  have hcheck := checkLayout_eq he hmodel
  cases hfind : e.fields.find? (·.initial.IsNaN) with
  | none =>
    rw [hfind] at hcheck
    have hnumbers : ∀ d ∈ e.fields, ¬ d.initial.IsNaN := by simpa using hfind
    refine ⟨iff_of_true hcheck hnumbers,
      iff_of_true (agreesIn_of_checkLayout he hmodel hcheck) hnumbers, fun d hd => ?_⟩
    rw [hfind] at hd
    cases hd
  | some d =>
    rw [hfind] at hcheck
    have hrefused := refused_of_checkLayout hcheck
    have hmem : d ∈ e.fields := List.mem_of_find?_eq_some hfind
    have hnumbers : ¬ ∀ d ∈ e.fields, ¬ d.initial.IsNaN := fun h =>
      h d hmem (by simpa using List.find?_some hfind)
    refine ⟨iff_of_false (by simp [hcheck]) hnumbers, iff_of_false (fun hagrees => ?_) hnumbers, ?_⟩
    · -- The field itself is read by name.
      obtain ⟨p, hp⟩ := List.mem_iff_getElem?.mp hmem
      obtain ⟨f, hf, -, -, rfl⟩ := hm.exists_field hp
      have hnamed := he.readField_eq hm hf (k := .byName) nofun (hblank.content_of_mem hm hf).1
      have hread := (hagrees e.blank hblank).1 f.fieldName
      rw [hrefused.1, hnamed] at hread
      cases hread
    · intro d' hd'
      obtain rfl : d = d' := Option.some.inj (hfind.symm.trans hd')
      exact hrefused

end Check

/-- An entity with a measured value that is not a number until there is a measurement. -/
def thermometer : Entity :=
  ⟨0, "Thermometer", .record, none,
    [⟨"id", ⟨.int .u8, false⟩, none, .int .u8 (BoundedInt.zero _), .content, false⟩,
      ⟨"degrees", ⟨.double, false⟩, none, .double (Decimal.Binary.quietNaN _ false), .content,
        false⟩]⟩

/-- The model of the thermometer. -/
def thermometerModel : Model :=
  ⟨0, "Thermometer", "thermometer",
    [⟨"id", "id", ⟨.int .u8, false⟩, 0⟩, ⟨"degrees", "degrees", ⟨.double, false⟩, 1⟩], 0⟩

theorem thermometer_derived : thermometer.Derived := ⟨by decide, by decide⟩

theorem thermometer_holds : thermometer.Holds thermometer.blank :=
  .cons ⟨_, rfl⟩ (.cons ⟨_, rfl⟩ .nil)

theorem model_thermometer : thermometer.model [] 0 = .ok thermometerModel := rfl

/-- The identifier of a thermometer cannot be read by position, although it is a number. -/
theorem thermometer_checked : thermometer.Checked thermometerModel ∧
    ∀ i, ∃ message, readField .byPosition thermometer thermometerModel i "id" =
      .error (.other message) := by
  have hchecked := positional_access_checked thermometer_derived thermometer_holds model_thermometer
  exact ⟨hchecked, fun i => ⟨_, (hchecked.refused _ rfl).1 i "id"⟩⟩

/-- **Not every derived entity passes the check.** -/
theorem not_every_layout_passes :
    ¬ ∀ (e : Entity) (m : Model) (os : List ModelOption) (serial : Nat),
      e.Derived → e.Holds e.blank → e.model os serial = .ok m → checkLayout e m = .ok () := by
  intro h
  have hpass := h _ _ _ _ thermometer_derived thermometer_holds model_thermometer
  cases hpass

end EntityMapper
