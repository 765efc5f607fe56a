import EntityMapper.Driver.Scripted
import EntityMapper.Proofs.Session.Build
import EntityMapper.Proofs.Sql.Insertion
import EntityMapper.Scenario.Run

/-!
# Insertions that are read back

The arguments of an insertion are its instances, field by field. A row of the columns that the
insertion lists and the arguments of one instance decodes to this instance, as far as its fields
were inserted, and to a blank one otherwise.

## Main definitions

* `Insert.Restores s e i j`: what the arguments of an instance decode to

## Main results

* `restores_of_row`: what the contents of the inserted fields decode to
* `build_insert_decodes`: the arguments of an insertion decode to its instances
-/

namespace EntityMapper.Sql

variable {s : Insert} {e : Entity} {m : Model}

/-- **An instance with the inserted fields of another one**, up to what is not a number, while all
other fields hold what they hold at first. -/
structure Insert.Restores (s : Insert) (e : Entity) (i j : Instance) : Prop where
  length_eq : j.cells.length = e.fields.length
  inserted : ∀ (p : Nat) (d : FieldDecl), e.fields[p]? = some d → s.Selects d.name →
    ∃ v w : Value, i.cells[p]? = some v ∧ j.cells[p]? = some w ∧ v.Alike w
  initial : ∀ (p : Nat) (d : FieldDecl), e.fields[p]? = some d → ¬ s.Selects d.name →
    j.cells[p]? = some d.initial

/-- **The contents of the inserted fields decode to an instance with these fields.** -/
theorem restores_of_row (he : e.Derived) (hm : m.Fits e) {k : AccessorKind}
    (hcheck : k = .byPosition → checkLayout e m = .ok ()) {i : Instance} (hi : e.Holds i) {r : Row}
    (hcolumns : r.columns = (s.selected m).map Field.columnName)
    (hvalues : r.values = (s.selected m).map i.content) :
    ∃ j, writeRow k e m e.blank r = (j, .ok ()) ∧ s.Restores e i j := by
  have hblank : e.blank.cells.length = e.fields.length := by simp [Entity.blank]
  obtain ⟨j, hj, hover⟩ := he.writeRow_values hm hcheck (fun f hf => (Insert.mem_selected hf).1)
    hi hblank hcolumns hvalues
  refine ⟨j, hj, hover.length_eq.trans hblank, fun p d hd hs => ?_, fun p d hd hs => ?_⟩
  -- A selected field is one of the row, and holds what was written.
  · obtain ⟨f, hf, hname, -, rfl⟩ := hm.exists_field hd
    exact hover.inside _
      (List.mem_map_of_mem (Insert.mem_selected_of_selects he hm hf (hname ▸ hs)))
  -- No field of the row is at the place of another one, as their names are distinct.
  · rw [hover.outside p fun hp => ?_]
    · simp [Entity.blank, hd]
    · obtain ⟨f, hf, rfl⟩ := List.mem_map.mp hp
      obtain ⟨hfm, hselects⟩ := Insert.mem_selected hf
      obtain ⟨d', hd', hname, -⟩ := hm.exists_decl hfm
      obtain rfl : d' = d := Option.some.inj (hd'.symm.trans hd)
      exact hs (hname ▸ hselects)

/-- An insertion that is compiled goes on after its rows. -/
theorem compile_insert {d : Dialect} {read : Instance → String → Except Error Value}
    {ps : List Piece} (hbody : resolveAll m (s.bodyItems m read) = .ok ps) {q : Query} :
    (Statement.insert s).compile d m read = .ok q ↔
      ∃ qs, resolveAll m (s.tailItems d) = .ok qs ∧ q = render d (ps ++ qs) := by
  have hc : (Statement.insert s).compile d m read =
      (resolveAll m (s.items d m read)).map (render d) := rfl
  rw [hc, map_eq_ok, s.items_eq_append]
  constructor
  · rintro ⟨_, h, rfl⟩
    obtain ⟨ps', qs, hps', hqs, rfl⟩ := resolveAll_append_eq_ok.mp h
    obtain rfl : ps' = ps := Except.ok.inj (hps'.symm.trans hbody)
    exact ⟨qs, hqs, rfl⟩
  · rintro ⟨qs, hqs, rfl⟩
    exact ⟨ps ++ qs, resolveAll_append_eq_ok.mpr ⟨ps, qs, hbody, hqs, rfl⟩, rfl⟩

end EntityMapper.Sql

namespace EntityMapper

open EntityMapper.Sql

variable {σ : Type}

/-- **The arguments of an insertion decode to its instances.** Without its conflict clause the
insertion is built. It lists the columns of the selected fields, and has as many arguments for
every instance; with the names of the columns they form a row, which decodes to the instance. With
the clause, if it is built, it has the same arguments, and perhaps others after them. -/
theorem build_insert_decodes {s : Session σ} {k : AccessorKind} {e : Entity}
    {os : List ModelOption} {serial : Nat} {m : Model} {ins : Insert} (he : e.Derived)
    (hfields : e.fields ≠ []) (hmodel : e.model os serial = .ok m)
    (hcheck : .byPosition ∈ [s.database.settings.accessor, k] → checkLayout e m = .ok ())
    (hrows : ins.rows ≠ []) (hholds : ∀ i ∈ ins.rows, e.Holds i)
    (hcolumns : ∀ c ∈ ins.columns, (m.field? c).isSome) {c : Scope σ} {w : RunState σ}
    (hkept : (w.registries s.registry).lookup? e = some m) :
    ∃ q w', (s.build e (.insert { ins with upsert := none })).eval c w = (.ok (.ok q), w') ∧
      ins.header s.database.settings.dialect m <+: q.sql.toList ∧
      0 < (ins.selected m).length ∧
      q.args.length = ins.rows.length * (ins.selected m).length ∧
      (∀ n i, ins.rows[n]? = some i → ∃ r j,
        Row.make ((ins.selected m).map Field.columnName)
          ((q.args.drop (n * (ins.selected m).length)).take (ins.selected m).length) = .ok r ∧
        writeRow k e m e.blank r = (j, .ok ()) ∧ ins.Restores e i j) ∧
      ∀ q' w'', (s.build e (.insert ins)).eval c w = (.ok (.ok q'), w'') → q.args <+: q'.args := by
  have hm := fits_of_model hmodel
  -- Either way of access reads the content of every field of every instance.
  have hread : ∀ i ∈ ins.rows, ∀ f ∈ m.fields,
      readField s.database.settings.accessor e m i f.fieldName = .ok (i.content f) := by
    intro i hi f hf
    refine he.readField_eq hm hf (fun h => hcheck (by simp [h])) ?_
    exact ((hholds i hi).content_of_mem hm hf).1
  have hbody := Insert.resolveAll_body hcolumns hread
  have heval : (s.model e).eval c w = (.ok (.ok m), w) := by
    rw [Session.model, eval_modelOf, hkept]
  -- With a conflict clause or without, building comes down to compiling in the kept model.
  have hbuild : ∀ u, ∃ w', (s.build e (.insert { ins with upsert := u })).eval c w =
      (.ok ((Statement.insert { ins with upsert := u }).compile s.database.settings.dialect m
        (readField s.database.settings.accessor e m)), w') := by
    intro u
    have hrefusal : (Statement.insert { ins with upsert := u }).refusal? = none := by
      simp [Statement.refusal?, hrows]
    obtain ⟨examined, trace, h⟩ := s.eval_build_of_model e (by rintro q ⟨⟩) hrefusal heval
    exact ⟨_, h⟩
  have hnone : (Statement.insert { ins with upsert := none }).compile s.database.settings.dialect m
      (readField s.database.settings.accessor e m) =
        .ok (render s.database.settings.dialect (ins.bodyPieces m ++ [.text ";"])) :=
    (compile_insert (s := { ins with upsert := none }) hbody).mpr ⟨_, rfl, rfl⟩
  have hargs : (render s.database.settings.dialect (ins.bodyPieces m ++ [.text ";"])).args =
      ins.rows.flatMap fun i => (ins.selected m).map i.content := by
    simp [Insert.args_body, Piece.args]
  obtain ⟨w', hw'⟩ := hbuild none
  refine ⟨_, w', hnone ▸ hw', ?_, ?_, ?_, fun n i hi => ?_, fun q' w'' hq' => ?_⟩
  · rw [render, String.toList_ofList]
    exact ins.header_prefix _ m _
  · exact List.length_pos_iff.mpr (Insert.selected_ne_nil hm hfields hcolumns)
  · rw [hargs]
    simp
  · rw [hargs, take_drop_flatMap (fun _ _ => List.length_map _) hi]
    have hlength : ((ins.selected m).map Field.columnName).length =
        ((ins.selected m).map i.content).length := by simp
    obtain ⟨j, hj, hrestores⟩ := restores_of_row (k := k) he hm (fun h => hcheck (by simp [h]))
      (hholds i (List.mem_of_getElem? hi)) (r := ⟨_, _, hlength⟩) rfl rfl
    exact ⟨_, j, dif_pos hlength, hj, hrestores⟩
  -- The clause adds pieces after those of the rows, and its arguments after theirs.
  · obtain ⟨w₁, hw₁⟩ := hbuild ins.upsert
    have hq : (Statement.insert ins).compile s.database.settings.dialect m
        (readField s.database.settings.accessor e m) = .ok q' := by
      rw [hq', Prod.mk.injEq, Except.ok.injEq] at hw₁
      exact hw₁.1.symm
    obtain ⟨qs, -, rfl⟩ := (compile_insert hbody).mp hq
    simp [Insert.args_body, Piece.args]

/-- An entity to try insertions on: a sensor with its level, which may be unknown, and a note. -/
def sensor : Entity :=
  ⟨0, "Sensor", .record, none,
    [⟨"id", ⟨.int .u8, false⟩, none, .int .u8 (BoundedInt.zero _), .content, false⟩,
      ⟨"level", ⟨.single, true⟩, some "column:reading", .null, .content, false⟩,
      ⟨"note", ⟨.text, false⟩, none, .text "", .content, false⟩]⟩

/-- The model of the sensor with an option: of its columns one comes from a tag, one from the
option, and one from its name. -/
def sensorModel : Model :=
  ⟨0, "Sensor", "sensor",
    [⟨"id", "id", ⟨.int .u8, false⟩, 0⟩, ⟨"level", "reading", ⟨.single, true⟩, 1⟩,
      ⟨"note", "remark", ⟨.text, false⟩, 2⟩], 0⟩

/-- Two sensors, without their notes; the level of the first is not a number. -/
def sensorInsert : Insert :=
  ⟨[⟨[.int .u8 ⟨7, by decide⟩, .single (Decimal.Binary.quietNaN _ false), .text "north"]⟩,
    ⟨[.int .u8 ⟨8, by decide⟩, .null, .text "south"]⟩], ["level", "id"], none⟩

theorem sensorInsert_holds : ∀ i ∈ sensorInsert.rows, sensor.Holds i := by
  refine List.forall_mem_cons.mpr ⟨?_, List.forall_mem_singleton.mpr ?_⟩
  · exact .cons ⟨_, rfl⟩ (.cons ⟨some _, rfl⟩ (.cons ⟨_, rfl⟩ .nil))
  · exact .cons ⟨_, rfl⟩ (.cons ⟨none, rfl⟩ (.cons ⟨_, rfl⟩ .nil))

/-- The first sensor is read back by position without its note. -/
theorem sensorInsert_decodes : ∃ (q : Query) (r : Row) (j : Instance), q.args.length = 4 ∧
    Row.make ["reading", "id"] (q.args.take 2) = .ok r ∧
    writeRow .byPosition sensor sensorModel sensor.blank r = (j, .ok ()) ∧
    sensorInsert.Restores sensor
      ⟨[.int .u8 ⟨7, by decide⟩, .single (Decimal.Binary.quietNaN _ false), .text "north"]⟩ j := by
  let s : Session Scripted.State := .plain 0 ⟨⟨.mysql, .byName, 0, none, 0⟩, []⟩
  let w : RunState Scripted.State := { Scenario.startState (.start [] .none) [] with
    registries := fun _ => Registry.empty.store sensorModel }
  have hmodel : sensor.model [.columnName "note" "remark"] 0 = .ok sensorModel := rfl
  have hcheck : checkLayout sensor sensorModel = .ok () := rfl
  have hkept : (w.registries s.registry).lookup? sensor = some sensorModel :=
    Registry.lookup?_store _ rfl
  obtain ⟨q, w', -, -, -, hlength, hdecodes, -⟩ := build_insert_decodes (k := .byPosition)
    ⟨by decide, by decide⟩ (by decide) hmodel (fun _ => hcheck) (by decide) sensorInsert_holds
    (by decide)
    (c := Scenario.startScope Scripted.driver) hkept
  obtain ⟨r, j, hr, hj, hrestores⟩ := hdecodes 0 _ rfl
  exact ⟨q, r, j, hlength, hr, hj, hrestores⟩

end EntityMapper
