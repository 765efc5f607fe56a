import EntityMapper.Proofs.Model.Writing
import EntityMapper.Proofs.Value.Reporting

/-!
# Rows with texts reported as bytes

A row is decoded in the same way when some of its texts are reported as the bytes that spell them,
as long as the fields they go to take each of these texts and its bytes alike.

## Main definitions

* `Model.Reports m c c'`: a cell of a row, and how else it may be reported

## Main results

* `scanRow_eq_ok_iff`: what a row is scanned to, cell by cell
* `bytes_reported_as_text`: values, and rows of them, with texts reported as bytes
-/

namespace EntityMapper

open EntityMapper.Text

/-- **A cell of a row, and how else it may be reported**: a text as the bytes that spell it, if the
field that it goes to takes them alike. -/
inductive Model.Reports (m : Model) : String × Value → String × Value → Prop where
  | same (c : String × Value) : Reports m c c
  | bytes {column s : String} (h : ∀ f, m.column? column = some f →
      f.valueType.kind.TakesAlike s ∧ ¬ f.valueType.kind.LosesSign s) :
      Reports m (column, .text s) (column, .bytes (utf8Bytes s))

section Rows

variable {m : Model} {r r' : Row}

/-- A cell is scanned to one thing at most. -/
theorem Model.Scans.unique {c : String × Value} {cell cell' : Field × Value} (h : m.Scans c cell)
    (h' : m.Scans c cell') : cell = cell' := by
  obtain ⟨f, v⟩ := cell
  obtain ⟨g, w⟩ := cell'
  obtain rfl : f = g := Option.some.inj (h.1.symm.trans h'.1)
  obtain rfl : v = w := Except.ok.inj (h.2.symm.trans h'.2)
  rfl

/-- **A row is scanned cell by cell.** -/
theorem scanRow_eq_ok_iff {cs : List (Field × Value)} :
    scanRow m r = .ok cs ↔ List.Forall₂ m.Scans r.cells cs := by
  refine ⟨scans_of_scanRow, fun h => ?_⟩
  cases hscan : scanRow m r with
  | error err => exact absurd (takes_of_scans h) (refuses_of_scanRow hscan).not_takes
  | ok cs' =>
    have hunique : Relator.RightUnique m.Scans := fun _ _ _ => Model.Scans.unique
    rw [hunique.forall₂ (scans_of_scanRow hscan) h]

/-- A cell is scanned in the same way however it is reported. -/
theorem Model.Reports.scans_iff {c c' : String × Value} (h : m.Reports c c')
    (cell : Field × Value) : m.Scans c' cell ↔ m.Scans c cell := by
  cases h with
  | same => exact Iff.rfl
  | @bytes column s h =>
    refine and_congr_right fun hf => ?_
    obtain ⟨halike, hsign⟩ := h _ hf
    have hkind : cell.1.valueType.kind ≠ .uuid := by
      intro hk
      rw [hk] at halike
      exact halike
    exact (reportsAlike s hkind).eq_iff.mpr ⟨halike, hsign⟩ cell.2

/-- **A row is scanned in the same way** however its cells are reported. -/
theorem scanRow_of_reports (h : List.Forall₂ m.Reports r.cells r'.cells)
    (cs : List (Field × Value)) : scanRow m r' = .ok cs ↔ scanRow m r = .ok cs := by
  rw [scanRow_eq_ok_iff, scanRow_eq_ok_iff]
  generalize r.cells = cells, r'.cells = cells' at h
  induction h generalizing cs with
  | nil => exact Iff.rfl
  | cons hc _ ih => simp only [List.forall₂_cons_left_iff, hc.scans_iff, ih]

/-- All that decoding asks of a row is what it is scanned to. -/
theorem decodeRow_congr (h : ∀ cs, scanRow m r' = .ok cs ↔ scanRow m r = .ok cs)
    (k : AccessorKind) (e : Entity) (i : Instance) :
    decodeRow k e m r' = .ok i ↔ decodeRow k e m r = .ok i := by
  cases hscan : scanRow m r with
  | ok cs => simp [decodeRow, writeRow, hscan, (h cs).mpr hscan]
  | error err =>
    cases hscan' : scanRow m r' with
    | ok cs => cases hscan.symm.trans ((h cs).mp hscan')
    | error err' =>
      cases k with
      | byName => simp [decodeRow, writeRow, hscan, hscan']
      | byPosition => cases hcheck : checkLayout e m <;> simp [decodeRow, writeRow, *]

end Rows

/-- **Texts may be reported as bytes** where the kind takes both alike: integers, texts and bytes
always do, the other kinds exactly as `ScalarKind.TakesAlike` says. No text is taken as one value
and its bytes as another, except that bytes do not tell the sign of a zero; and a row is decoded to
the same entity, or not at all, if all that is reported as bytes is taken alike and keeps its
sign. -/
theorem bytes_reported_as_text (k : AccessorKind) (e : Entity) (m : Model) :
    (∀ (s : String) (t : ValueType), t.kind ≠ .uuid → ReportsAlike s t) ∧
      ∀ r r' : Row, List.Forall₂ m.Reports r.cells r'.cells →
        ∀ i, decodeRow k e m r' = .ok i ↔ decodeRow k e m r = .ok i :=
  ⟨fun s _ => reportsAlike s, fun _ _ h i => decodeRow_congr (scanRow_of_reports h) k e i⟩

/-- A row for the gauge, with texts for its numbers. -/
def spelledRow : Row := ⟨["reading", "id"], [.text " 40", .text "7"], rfl⟩

/-- The same row with the level of the gauge reported as bytes. -/
def reportedRow : Row := ⟨["reading", "id"], [.bytes (utf8Bytes " 40"), .text "7"], rfl⟩

/-- Numbers of the gauge are decoded from bytes, but a fraction is not. -/
theorem reportedRow_decodes :
    List.Forall₂ gaugeModel.Reports spelledRow.cells reportedRow.cells ∧
      (∃ i, decodeRow .byName gauge gaugeModel spelledRow = .ok i ∧
        decodeRow .byName gauge gaugeModel reportedRow = .ok i) ∧
      ReportsAlike "1.5" ⟨.double, false⟩ := by
  have hreports : List.Forall₂ gaugeModel.Reports spelledRow.cells reportedRow.cells := by
    refine .cons (.bytes fun f hf => ?_) (.cons (.same _) .nil)
    obtain rfl : (⟨"level", "reading", ⟨.int .i32, true⟩, 1⟩ : Field) = f := Option.some.inj hf
    exact ⟨trivial, id⟩
  have hdecoded : decodeRow .byName gauge gaugeModel spelledRow =
      .ok ⟨[.int .u8 ⟨7, by decide⟩, .int .i32 ⟨40, by decide⟩]⟩ := rfl
  obtain ⟨halike, hrows⟩ := bytes_reported_as_text .byName gauge gaugeModel
  exact ⟨hreports, ⟨_, hdecoded, (hrows _ _ hreports _).mpr hdecoded⟩,
    halike "1.5" ⟨.double, false⟩ nofun⟩

/-- **Not every text is read as its bytes are**: a truth value that is not spelled as a number. -/
theorem not_every_text_alike : ¬ ∀ (s : String) (t : ValueType), t.kind ≠ .uuid →
    ∀ v, (Value.bytes (utf8Bytes s)).coerce t = .ok v ↔ (Value.text s).coerce t = .ok v := by
  intro h
  have htext : (Value.text "true").coerce ⟨.bool, false⟩ = .ok (.bool true) := rfl
  have hbytes := (h "true" ⟨.bool, false⟩ nofun _).mpr htext
  obtain ⟨b, hb, -⟩ := map_eq_ok.mp hbytes
  obtain ⟨z, hz, -⟩ := ScalarKind.toBool_utf8Bytes.mp hb
  have hmem := ScalarKind.mem_of_spellsInteger (s := "true") (by decide)
    (spellsInteger_iff.mpr ⟨z, hz⟩)
  revert hmem
  decide

end EntityMapper
