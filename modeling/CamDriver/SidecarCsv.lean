import CamDriver.Lib.Csv
import CamDriver.Session

/-!
# CamDriver.SidecarCsv

The sidecar CSV as text: the row `SidecarWriter.add` makes of an accepted frame,
and `playback.load_stamps`, which reads the stamps back by column name.

`loadStamps_csvText`: the CSV of any frames loads as exactly their stamps.
-/

namespace CamDriver

open Csv (Text)

/-! ## Writing -/

/-- `CSV_FIELDS`. -/
def csvFields : List Text :=
  ["frame_id".toList, "pts_ns".toList, "timestamp_ns".toList, "source".toList,
    "chunk_ns".toList, "camera_ns".toList, "system_ns".toList]

/-- The row of an accepted frame; a missing chunk timestamp is an empty field. -/
def rowFields (row : SidecarRow) : List Text :=
  let stamp := row.1
  [Csv.intText stamp.frameId, Csv.intText row.2, Csv.intText stamp.timestampNs,
    stamp.source.value.toList,
    match stamp.chunkNs with
    | none => []
    | some chunk => Csv.intText chunk,
    Csv.intText stamp.cameraNs, Csv.intText stamp.systemNs]

/-- The line `writerow` writes for a frame. -/
def rowLine (row : SidecarRow) : Text := Csv.line (rowFields row)

/-- The whole CSV of some frames. -/
def csvText (rows : List SidecarRow) : Text := Csv.line csvFields ++ rows.flatMap rowLine

@[simp] theorem csvText_nil : csvText [] = Csv.line csvFields := by simp [csvText]

/-- One row more is one line more. -/
theorem csvText_concat (rows : List SidecarRow) (row : SidecarRow) :
    csvText (rows ++ [row]) = csvText rows ++ rowLine row := by
  simp [csvText]

/-- The value of a timestamp source needs no quoting. -/
theorem plain_value (source : TimestampSource) : Csv.Plain source.value.toList := by
  cases source <;> decide

/-- No field of a row needs quoting. -/
theorem plainRow_rowFields (row : SidecarRow) : Csv.PlainRow (rowFields row) := by
  refine ⟨fun field hf => ?_, List.cons_ne_nil _ _, by simp [rowFields]⟩
  have hchunk : Csv.Plain (match row.1.chunkNs with
      | none => []
      | some chunk => Csv.intText chunk) := by
    split
    · exact fun c hc => absurd hc List.not_mem_nil
    · exact Csv.plain_intText _
  simp only [rowFields, List.mem_cons, List.not_mem_nil, or_false] at hf
  rcases hf with rfl | rfl | rfl | rfl | rfl | rfl | rfl
  · exact Csv.plain_intText _
  · exact Csv.plain_intText _
  · exact Csv.plain_intText _
  · exact plain_value _
  · exact hchunk
  · exact Csv.plain_intText _
  · exact Csv.plain_intText _

/-- The rows of the CSV: the header and one row for each frame. -/
theorem readRows_csvText (rows : List SidecarRow) :
    Csv.readRows (csvText rows) = csvFields :: rows.map rowFields := by
  have hlines : csvText rows = (csvFields :: rows.map rowFields).flatMap Csv.line := by
    simp only [csvText, List.flatMap_cons, List.flatMap_map]
    rfl
  rw [hlines, Csv.readRows_lines]
  intro row hrow
  rcases List.mem_cons.mp hrow with rfl | hrow
  · decide
  · obtain ⟨r, -, rfl⟩ := List.mem_map.mp hrow
    exact plainRow_rowFields r

/-! ## Reading -/

/-- `csv.DictReader`: what a row holds under a column name.  The outer `none` is
a `KeyError`, the inner one the `None` of a short row. -/
def cell (fields row : List Text) (name : String) : Option (Option Text) :=
  (fields.findIdx? (· = name.toList)).map fun i => row[i]?

/-- `int(cell)`; `int(None)` raises. -/
def intCell (fields row : List Text) (name : String) : Option Int := do
  let text ← (← cell fields row name)
  Csv.parseInt text

/-- `int(cell or 0)`. -/
def intCellOrZero (fields row : List Text) (name : String) : Option Int := do
  match ← cell fields row name with
  | none | some [] => pure 0
  | some text => Csv.parseInt text

/-- The provenance of a row: a value that is none counts as `system`. -/
def sourceCell (fields row : List Text) : Option TimestampSource := do
  match ← cell fields row "source" with
  | none => pure .system
  | some text => pure ((TimestampSource.ofValue (String.ofList text)).getD .system)

/-- The chunk timestamp of a row, if the column and the field are there. -/
def chunkCell (fields row : List Text) : Option (Option Int) :=
  match cell fields row "chunk_ns" with
  | none | some none | some (some []) => some none
  | some (some text) => (Csv.parseInt text).map some

/-- One row of the CSV as a stamp; `none` where the constructor raises. -/
def stampOfRow (fields row : List Text) : Option FrameStamp := do
  let source ← sourceCell fields row
  let frameId ← intCell fields row "frame_id"
  let timestampNs ← intCell fields row "timestamp_ns"
  let systemNs ← intCellOrZero fields row "system_ns"
  let cameraNs ← intCellOrZero fields row "camera_ns"
  let chunkNs ← chunkCell fields row
  pure { frameId, timestampNs, source, systemNs, cameraNs, chunkNs }

/-- `load_stamps`: the first row names the columns. -/
def loadStamps (text : Text) : Option (List FrameStamp) :=
  match Csv.readRows text with
  | [] => some []
  | fields :: rows => rows.mapM (stampOfRow fields)

/-- A number that was written is read back. -/
@[simp] theorem intCellOrZero_intText {fields row : List Text} {name : String} {i : Int}
    (h : cell fields row name = some (some (Csv.intText i))) :
    intCellOrZero fields row name = some i := by
  obtain ⟨c, t, ht⟩ := List.exists_cons_of_ne_nil (Csv.intText_ne_nil i)
  have hparse := Csv.parseInt_intText i
  rw [ht] at h hparse
  simp [intCellOrZero, h, hparse]

/-- A frame's row is read back as its stamp. -/
theorem stampOfRow_rowFields (row : SidecarRow) :
    stampOfRow csvFields (rowFields row) = some row.1 := by
  have hframe : intCell csvFields (rowFields row) "frame_id" = some row.1.frameId :=
    Csv.parseInt_intText _
  have htimestamp :
      intCell csvFields (rowFields row) "timestamp_ns" = some row.1.timestampNs :=
    Csv.parseInt_intText _
  have hsystem :
      intCellOrZero csvFields (rowFields row) "system_ns" = some row.1.systemNs :=
    intCellOrZero_intText rfl
  have hcamera :
      intCellOrZero csvFields (rowFields row) "camera_ns" = some row.1.cameraNs :=
    intCellOrZero_intText rfl
  have hsource : sourceCell csvFields (rowFields row) = some row.1.source := by
    have hcell : cell csvFields (rowFields row) "source" =
      some (some row.1.source.value.toList) := rfl
    simp [sourceCell, hcell]
  have hchunk : chunkCell csvFields (rowFields row) = some row.1.chunkNs := by
    cases hc : row.1.chunkNs with
    | none =>
        have hcell : cell csvFields (rowFields row) "chunk_ns" = some (some []) := by
          show some (some _) = _
          rw [hc]
        simp [chunkCell, hcell]
    | some chunk =>
        have hcell : cell csvFields (rowFields row) "chunk_ns" =
            some (some (Csv.intText chunk)) := by
          show some (some _) = _
          rw [hc]
        obtain ⟨c, t, ht⟩ := List.exists_cons_of_ne_nil (Csv.intText_ne_nil chunk)
        have hparse := Csv.parseInt_intText chunk
        rw [ht] at hcell hparse
        simp [chunkCell, hcell, hparse]
  simp [stampOfRow, hframe, htimestamp, hsystem, hcamera, hsource, hchunk]

/-- **Round trip**: the CSV of any frames loads as exactly their stamps. -/
theorem loadStamps_csvText (rows : List SidecarRow) :
    loadStamps (csvText rows) = some (rows.map Prod.fst) := by
  rw [loadStamps, readRows_csvText]
  induction rows with
  | nil => rfl
  | cons row rows ih => simp [stampOfRow_rowFields, ih]

end CamDriver
