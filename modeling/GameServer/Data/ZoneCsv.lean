import GameServer.Data.ZoneData
import GameServer.Lib.Decimal
import GameServer.Lib.Delimited

/-!
# GameServer.Data.ZoneCsv

The text form of the zone data (`apps/zone_data_builder/main.cpp`): a file of
comma-separated columns for each of the six tables.

A file is written cell by cell and read back by position.  `CsvTable` holds the
two functions of a table together with what they have to agree on, so that a
table whose columns are read in another order cannot be built.

* `parseUnsigned`, `parseSigned` -- one cell
* `CsvTable` -- name, header, writer and parser of a file
* `writeCsvPack`, `loadCsvPack` -- the six files of a pack
* `loadCsvPack_writeCsvPack` -- reading gives back what was written
-/

namespace GameServer.Data

/-! ## Cells -/

/-- `ParseUnsigned`; what the conversion does not take is ignored. -/
def parseUnsigned (cell : List Char) : Option UInt32 := (stoull cell).map (·.1.toUInt32)

/-- `ParseSigned`. -/
def parseSigned (cell : List Char) : Option Int32 := (stoll cell).map (·.1.toInt32)

/-- `os << v` of an unsigned field. -/
def printUnsigned (v : UInt32) : List Char := printNat v.toNat

/-- `os << v` of a signed field. -/
def printSigned (v : Int32) : List Char := printInt v.toInt

@[simp] theorem parseUnsigned_printUnsigned (v : UInt32) :
    parseUnsigned (printUnsigned v) = some v := by
  have hv : v.toNat < 2 ^ 64 := v.toNat_lt.trans (by decide)
  rw [parseUnsigned, printUnsigned, stoull_printNat hv, Option.map_some,
    UInt64.toUInt32_ofNat', UInt32.ofNat_toNat]

@[simp] theorem parseSigned_printSigned (v : Int32) : parseSigned (printSigned v) = some v := by
  have hlow : -2 ^ 63 ≤ v.toInt := Int.le_trans (by decide) v.le_toInt
  have hhigh : v.toInt < 2 ^ 63 := Int.lt_trans v.toInt_lt (by decide)
  rw [parseSigned, printSigned, stoll_printInt hlow hhigh, Option.map_some,
    Int64.toInt32_ofInt, Int32.ofInt_toInt]

/-- Text that can stand in a cell: it is not empty and has no delimiter. -/
def IsCell (cell : List Char) : Prop := cell ≠ [] ∧ ',' ∉ cell ∧ '\n' ∉ cell

theorem isCell_printInt (i : Int) : IsCell (printInt i) :=
  ⟨printInt_ne_nil i, fun h => absurd (mem_printInt h) (by decide),
    fun h => absurd (mem_printInt h) (by decide)⟩

@[simp] theorem isCell_printUnsigned (v : UInt32) : IsCell (printUnsigned v) := by
  rw [printUnsigned, ← printInt_natCast]
  exact isCell_printInt _

@[simp] theorem isCell_printSigned (v : Int32) : IsCell (printSigned v) :=
  isCell_printInt v.toInt

/-! ## Rows -/

/-- The columns that all regions have. -/
def regionCells (row : ZoneRegionRecord) : List (List Char) :=
  [printUnsigned row.zoneId, printUnsigned row.mapId, printUnsigned row.regionId,
    printSigned row.value01, printSigned row.value02, printSigned row.value03,
    printSigned row.value04, printSigned row.centerX, printSigned row.centerY,
    printSigned row.centerZ, printSigned row.radius]

/-- The first eleven columns. -/
def parseRegionCells (cells : List (List Char)) : Option ZoneRegionRecord := do
  let zoneId ← parseUnsigned (cells.getD 0 [])
  let mapId ← parseUnsigned (cells.getD 1 [])
  let regionId ← parseUnsigned (cells.getD 2 [])
  let value01 ← parseSigned (cells.getD 3 [])
  let value02 ← parseSigned (cells.getD 4 [])
  let value03 ← parseSigned (cells.getD 5 [])
  let value04 ← parseSigned (cells.getD 6 [])
  let centerX ← parseSigned (cells.getD 7 [])
  let centerY ← parseSigned (cells.getD 8 [])
  let centerZ ← parseSigned (cells.getD 9 [])
  let radius ← parseSigned (cells.getD 10 [])
  return { zoneId, mapId, regionId, value01, value02, value03, value04, centerX, centerY,
           centerZ, radius }

/-- The columns of a portal: those of its region and the destination. -/
def portalCells (row : ZonePortalRecord) : List (List Char) :=
  regionCells row.toZoneRegionRecord ++
    [printUnsigned row.destZoneId, printUnsigned row.destMapId, printSigned row.destX,
      printSigned row.destY, printSigned row.destZ]

def parsePortalCells (cells : List (List Char)) : Option ZonePortalRecord := do
  let region ← parseRegionCells cells
  let destZoneId ← parseUnsigned (cells.getD 11 [])
  let destMapId ← parseUnsigned (cells.getD 12 [])
  let destX ← parseSigned (cells.getD 13 [])
  let destY ← parseSigned (cells.getD 14 [])
  let destZ ← parseSigned (cells.getD 15 [])
  return { region with destZoneId, destMapId, destX, destY, destZ }

def mapCells (row : ZoneMapRecord) : List (List Char) :=
  [printUnsigned row.zoneId, printUnsigned row.mapId]

def parseMapCells (cells : List (List Char)) : Option ZoneMapRecord := do
  let zoneId ← parseUnsigned (cells.getD 0 [])
  let mapId ← parseUnsigned (cells.getD 1 [])
  return { zoneId, mapId }

/-- `cells.size() >= columns`, before any cell is read. -/
def withColumns {α : Type} (columns : Nat) (parse : List (List Char) → Option α)
    (cells : List (List Char)) : Option α :=
  if columns ≤ cells.length then parse cells else none

theorem parseRegionCells_append (row : ZoneRegionRecord) (cells : List (List Char)) :
    parseRegionCells (regionCells row ++ cells) = some row := by
  simp [parseRegionCells, regionCells]

/-- The cells of a portal are read back. -/
theorem parsePortalCells_portalCells (row : ZonePortalRecord) :
    parsePortalCells (portalCells row) = some row := by
  have hregion := parseRegionCells_append row.toZoneRegionRecord
    [printUnsigned row.destZoneId, printUnsigned row.destMapId, printSigned row.destX,
      printSigned row.destY, printSigned row.destZ]
  rw [parsePortalCells, portalCells, hregion]
  simp [regionCells]

/-! ## Files -/

/-- `WriteRegionCsv`: the text of a file. -/
def writeRegionCsv {α : Type} (header : List Char) (rows : List α)
    (writer : α → List (List Char)) : List Char :=
  header ++ '\n' :: rows.flatMap fun row => [','].intercalate (writer row) ++ ['\n']

/-- `SplitCsv`. -/
def splitCsv (line : List Char) : List (List Char) := getlines ',' line

/-- `LoadRegionCsv`; the rows of a file that is not there are none. -/
def loadRegionCsv {α : Type} (file : Option (List Char))
    (parser : List (List Char) → Option α) : List α :=
  match file with
  | none => []
  | some text =>
      (getlines '\n' text).tail.filterMap fun line =>
        if line = [] then none else parser (splitCsv line)

/-- A file of the pack: how a row is written, and how it is parsed.  The cells
of a row can be told apart, and are parsed into the row they were written from. -/
structure CsvTable (α : Type) where
  file : String
  header : String
  writer : α → List (List Char)
  parser : List (List Char) → Option α
  header_line : '\n' ∉ header.toList
  writer_ne_nil : ∀ row, writer row ≠ []
  isCell_of_mem : ∀ row, ∀ cell ∈ writer row, IsCell cell
  parser_writer : ∀ row, parser (writer row) = some row

/-- The files of a directory. -/
abbrev CsvDirectory := String → Option (List Char)

namespace CsvTable

variable {α β : Type} (t : CsvTable α)

def write (dir : CsvDirectory) (rows : List α) : CsvDirectory :=
  Function.update dir t.file (some (writeRegionCsv t.header.toList rows t.writer))

def load (dir : CsvDirectory) : List α := loadRegionCsv (dir t.file) t.parser

/-- The line of a row. -/
def line (row : α) : List Char := [','].intercalate (t.writer row)

theorem newline_not_mem_line (row : α) : '\n' ∉ t.line row := by
  intro h
  rcases mem_intercalate h with hsep | ⟨cell, hcell, hmem⟩
  · exact absurd hsep (by decide)
  · exact (t.isCell_of_mem row cell hcell).2.2 hmem

theorem splitCsv_line (row : α) : splitCsv (t.line row) = t.writer row :=
  getlines_intercalate (fun cell h => (t.isCell_of_mem row cell h).1)
    fun cell h => (t.isCell_of_mem row cell h).2.1

theorem line_ne_nil (row : α) : t.line row ≠ [] := by
  intro h
  have hsplit := t.splitCsv_line row
  rw [h] at hsplit
  exact t.writer_ne_nil row hsplit.symm

/-- **The rows of a file read back.** -/
theorem loadRegionCsv_writeRegionCsv (rows : List α) :
    loadRegionCsv (some (writeRegionCsv t.header.toList rows t.writer)) t.parser = rows := by
  have hlines : getlines '\n' (writeRegionCsv t.header.toList rows t.writer) =
      t.header.toList :: rows.map t.line := by
    have hterminated : getlines '\n' ((rows.map t.line).flatMap (· ++ ['\n'])) =
        rows.map t.line :=
      getlines_terminated <| List.forall_mem_map.mpr fun row _ => t.newline_not_mem_line row
    rw [List.flatMap_map] at hterminated
    rw [writeRegionCsv, getlines_append_cons t.header_line]
    exact congrArg (t.header.toList :: ·) hterminated
  have hrow : ∀ row, (fun line => if line = [] then none else t.parser (splitCsv line))
      (t.line row) = some row := by
    intro row
    dsimp only
    rw [if_neg (t.line_ne_nil row), t.splitCsv_line, t.parser_writer]
  simp only [loadRegionCsv, hlines, List.tail_cons, List.filterMap_map]
  exact (List.filterMap_congr fun row _ => hrow row).trans (List.filterMap_some)

@[simp] theorem load_write (dir : CsvDirectory) (rows : List α) :
    t.load (t.write dir rows) = rows := by
  rw [load, write, Function.update_self, loadRegionCsv_writeRegionCsv]

/-- Writing a file leaves the others as they are. -/
theorem load_write_of_ne {t : CsvTable α} {u : CsvTable β} (h : t.file ≠ u.file)
    (dir : CsvDirectory) (rows : List β) : t.load (u.write dir rows) = t.load dir := by
  rw [load, load, write, Function.update_of_ne h]

end CsvTable

/-! ## The pack -/

/-- `maps.csv`. -/
def mapsCsv : CsvTable ZoneMapRecord where
  file := "maps.csv"
  header := "zone_id,map_id"
  writer := mapCells
  parser := withColumns 2 parseMapCells
  header_line := by decide
  writer_ne_nil row := List.cons_ne_nil _ _
  isCell_of_mem row := by simp [mapCells]
  parser_writer row := by simp [withColumns, parseMapCells, mapCells]

/-- The names of the columns that all regions have. -/
def regionHeader : String :=
  "zone_id,map_id,region_id,value01,value02,value03,value04,center_x,center_y,center_z,radius"

theorem newline_not_mem_regionHeader : '\n' ∉ regionHeader.toList := by decide

/-- `portal_regions.csv`. -/
def portalsCsv : CsvTable ZonePortalRecord where
  file := "portal_regions.csv"
  header := regionHeader ++ ",dest_zone_id,dest_map_id,dest_x,dest_y,dest_z"
  writer := portalCells
  parser := withColumns 16 parsePortalCells
  header_line := by
    rw [String.toList_append, List.mem_append, not_or]
    exact ⟨newline_not_mem_regionHeader, by decide⟩
  writer_ne_nil row := List.cons_ne_nil _ _
  isCell_of_mem row := by simp [portalCells, regionCells]
  parser_writer row := parsePortalCells_portalCells row

/-- The other four files differ in their names only. -/
def regionsCsv (file : String) : CsvTable ZoneRegionRecord where
  file := file
  header := regionHeader
  writer := regionCells
  parser := withColumns 11 parseRegionCells
  header_line := newline_not_mem_regionHeader
  writer_ne_nil row := List.cons_ne_nil _ _
  isCell_of_mem row := by simp [regionCells]
  parser_writer row := by
    have hregion := parseRegionCells_append row []
    rw [List.append_nil] at hregion
    exact hregion

def npcsCsv : CsvTable ZoneNpcRecord := regionsCsv "summon_npc_regions.csv"

def monstersCsv : CsvTable ZoneMonsterRecord := regionsCsv "summon_monster_regions.csv"

def safeRegionsCsv : CsvTable ZoneSafeRecord := regionsCsv "safe_regions.csv"

def specialRegionsCsv : CsvTable ZoneSpecialRecord := regionsCsv "special_regions.csv"

/-- `WriteCsvPack`. -/
def writeCsvPack (dir : CsvDirectory) (pack : ZoneRuntimeDataPack) : CsvDirectory :=
  let dir := mapsCsv.write dir pack.maps
  let dir := portalsCsv.write dir pack.portals
  let dir := npcsCsv.write dir pack.npcs
  let dir := monstersCsv.write dir pack.monsters
  let dir := safeRegionsCsv.write dir pack.safeRegions
  specialRegionsCsv.write dir pack.specialRegions

/-- `LoadCsvPack`. -/
def loadCsvPack (dir : CsvDirectory) : ZoneRuntimeDataPack where
  header := { magic := zoneRuntimeDataMagic, version := zoneRuntimeDataVersion }
  maps := mapsCsv.load dir
  portals := portalsCsv.load dir
  npcs := npcsCsv.load dir
  monsters := monstersCsv.load dir
  safeRegions := safeRegionsCsv.load dir
  specialRegions := specialRegionsCsv.load dir

/-- **The tables of a pack read back**; the counts of the header are not part
of the files. -/
theorem loadCsvPack_writeCsvPack (dir : CsvDirectory) (pack : ZoneRuntimeDataPack) :
    loadCsvPack (writeCsvPack dir pack) = { pack with header := {} } := by
  simp (disch := decide) only [loadCsvPack, writeCsvPack, CsvTable.load_write,
    CsvTable.load_write_of_ne]

end GameServer.Data
