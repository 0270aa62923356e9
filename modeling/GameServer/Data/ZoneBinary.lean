import GameServer.Data.ZoneCsv
import GameServer.Lib.Layout

/-!
# GameServer.Data.ZoneBinary

The binary form of the zone data (`server_common/data/zone_runtime_data.cpp`):
a header that counts the rows, and the six tables behind it.

The files themselves are assumed to work: what is written is what is read.
Memory for as many rows as the header demands is assumed, too.

* `writeBinary`, `readBinary` -- the bytes of a pack, and back
* `Unreadable` -- too short, or with another magic or version
* `readBinary_writeBinary`, `readBinary_refused_iff`
* `zoneData_round_trips` -- both forms
-/

namespace GameServer.Data

/-! ## Layouts -/

def ZoneRuntimeDataHeader.layout : Layout ZoneRuntimeDataHeader :=
  (Layout.u32.prod <| Layout.u32.prod <| Layout.u32.prod <| Layout.u32.prod <|
    Layout.u32.prod <| Layout.u32.prod <| Layout.u32.prod Layout.u32).map
    (fun h => (h.magic, h.version, h.mapCount, h.portalCount, h.npcCount, h.monsterCount,
      h.safeCount, h.specialCount))
    (fun p => {
      magic := p.1
      version := p.2.1
      mapCount := p.2.2.1
      portalCount := p.2.2.2.1
      npcCount := p.2.2.2.2.1
      monsterCount := p.2.2.2.2.2.1
      safeCount := p.2.2.2.2.2.2.1
      specialCount := p.2.2.2.2.2.2.2 })
    fun _ => rfl

def ZoneMapRecord.layout : Layout ZoneMapRecord :=
  (Layout.u32.prod Layout.u32).map (fun r => (r.zoneId, r.mapId))
    (fun p => { zoneId := p.1, mapId := p.2 }) fun _ => rfl

/-- The members that all region records have. -/
def ZoneRegionRecord.layout : Layout ZoneRegionRecord :=
  (Layout.u32.prod <| Layout.u32.prod <| Layout.u32.prod <| Layout.i32.prod <|
    Layout.i32.prod <| Layout.i32.prod <| Layout.i32.prod <| Layout.i32.prod <|
    Layout.i32.prod <| Layout.i32.prod Layout.i32).map
    (fun r => (r.zoneId, r.mapId, r.regionId, r.value01, r.value02, r.value03, r.value04,
      r.centerX, r.centerY, r.centerZ, r.radius))
    (fun p => {
      zoneId := p.1
      mapId := p.2.1
      regionId := p.2.2.1
      value01 := p.2.2.2.1
      value02 := p.2.2.2.2.1
      value03 := p.2.2.2.2.2.1
      value04 := p.2.2.2.2.2.2.1
      centerX := p.2.2.2.2.2.2.2.1
      centerY := p.2.2.2.2.2.2.2.2.1
      centerZ := p.2.2.2.2.2.2.2.2.2.1
      radius := p.2.2.2.2.2.2.2.2.2.2 })
    fun _ => rfl

def ZonePortalRecord.layout : Layout ZonePortalRecord :=
  (ZoneRegionRecord.layout.prod <| Layout.u32.prod <| Layout.u32.prod <| Layout.i32.prod <|
    Layout.i32.prod Layout.i32).map
    (fun r => (r.toZoneRegionRecord, r.destZoneId, r.destMapId, r.destX, r.destY, r.destZ))
    (fun p => {
      toZoneRegionRecord := p.1
      destZoneId := p.2.1
      destMapId := p.2.2.1
      destX := p.2.2.2.1
      destY := p.2.2.2.2.1
      destZ := p.2.2.2.2.2 })
    fun _ => rfl

/-- The sizes of the packed structs. -/
example : ZoneRuntimeDataHeader.layout.size = 32 ∧ ZoneMapRecord.layout.size = 8 ∧
    ZonePortalRecord.layout.size = 64 ∧ ZoneRegionRecord.layout.size = 44 :=
  ⟨rfl, rfl, rfl, rfl⟩

/-! ## Tables -/

/-- `WriteVector`. -/
def writeVector {α : Type} (l : Layout α) (values : List α) : List UInt8 := l.arrayBytes values

/-- `ReadVector`: the rows and the bytes behind them, unless there are too few. -/
def readVector {α : Type} (l : Layout α) (count : UInt32) (bytes : List UInt8) :
    Option (List α × List UInt8) :=
  if bytes.length < count.toNat * l.size then none
  else some (l.readArray count.toNat bytes, bytes.drop (count.toNat * l.size))

/-- A vector is read back with what follows it, if its length fits the counter. -/
theorem readVector_writeVector {α : Type} (l : Layout α) {values : List α}
    (h : values.length < 2 ^ 32) (bytes : List UInt8) :
    readVector l (UInt32.ofNat values.length) (writeVector l values ++ bytes) =
      some (values, bytes) := by
  have hcount : (UInt32.ofNat values.length).toNat = values.length := UInt32.toNat_ofNat_of_lt' h
  have hlength : (writeVector l values).length = values.length * l.size :=
    l.length_arrayBytes values
  rw [readVector, hcount, if_neg (by rw [List.length_append]; omega), ← hlength, List.drop_left,
    writeVector, l.readArray_arrayBytes]

/-- What follows a table fails, or there are too few bytes for both. -/
theorem readVector_bind_eq_none_iff {α β : Type} {l : Layout α} {count : UInt32}
    {bytes : List UInt8} {f : List α × List UInt8 → Option β} {n : Nat}
    (hf : ∀ r, f r = none ↔ r.2.length < n) :
    (readVector l count bytes).bind f = none ↔ bytes.length < count.toNat * l.size + n := by
  unfold readVector
  split_ifs with h
  · exact iff_of_true rfl (by omega)
  · rw [Option.bind_some, hf, List.length_drop]
    omega

/-- The tables in the order of the file. -/
def readTables (header : ZoneRuntimeDataHeader) (bytes : List UInt8) :
    Option ZoneRuntimeDataPack := do
  let (maps, bytes) ← readVector ZoneMapRecord.layout header.mapCount bytes
  let (portals, bytes) ← readVector ZonePortalRecord.layout header.portalCount bytes
  let (npcs, bytes) ← readVector ZoneRegionRecord.layout header.npcCount bytes
  let (monsters, bytes) ← readVector ZoneRegionRecord.layout header.monsterCount bytes
  let (safeRegions, bytes) ← readVector ZoneRegionRecord.layout header.safeCount bytes
  let (specialRegions, _) ← readVector ZoneRegionRecord.layout header.specialCount bytes
  return { header, maps, portals, npcs, monsters, safeRegions, specialRegions }

/-- The size of the tables that a header demands. -/
def bodySize (header : ZoneRuntimeDataHeader) : Nat :=
  header.mapCount.toNat * ZoneMapRecord.layout.size +
    (header.portalCount.toNat * ZonePortalRecord.layout.size +
      (header.npcCount.toNat * ZoneRegionRecord.layout.size +
        (header.monsterCount.toNat * ZoneRegionRecord.layout.size +
          (header.safeCount.toNat * ZoneRegionRecord.layout.size +
            header.specialCount.toNat * ZoneRegionRecord.layout.size))))

/-- The tables are read exactly if there are bytes enough for them. -/
theorem readTables_eq_none_iff (header : ZoneRuntimeDataHeader) (bytes : List UInt8) :
    readTables header bytes = none ↔ bytes.length < bodySize header := by
  refine readVector_bind_eq_none_iff fun ⟨_, _⟩ => ?_
  refine readVector_bind_eq_none_iff fun ⟨_, _⟩ => ?_
  refine readVector_bind_eq_none_iff fun ⟨_, _⟩ => ?_
  refine readVector_bind_eq_none_iff fun ⟨_, _⟩ => ?_
  refine readVector_bind_eq_none_iff fun ⟨_, _⟩ => ?_
  refine readVector_bind_eq_none_iff (n := 0) fun ⟨_, _⟩ => ?_
  exact iff_of_false (Option.some_ne_none _) (Nat.not_lt_zero _)

/-- The tables of a pack, one behind the other. -/
def writeTables (pack : ZoneRuntimeDataPack) : List UInt8 :=
  writeVector ZoneMapRecord.layout pack.maps ++
    (writeVector ZonePortalRecord.layout pack.portals ++
      (writeVector ZoneRegionRecord.layout pack.npcs ++
        (writeVector ZoneRegionRecord.layout pack.monsters ++
          (writeVector ZoneRegionRecord.layout pack.safeRegions ++
            writeVector ZoneRegionRecord.layout pack.specialRegions))))

/-! ## Files -/

/-- The header that `WriteBinary` writes. -/
def normalizedHeader (pack : ZoneRuntimeDataPack) : ZoneRuntimeDataHeader where
  magic := zoneRuntimeDataMagic
  version := zoneRuntimeDataVersion
  mapCount := UInt32.ofNat pack.maps.length
  portalCount := UInt32.ofNat pack.portals.length
  npcCount := UInt32.ofNat pack.npcs.length
  monsterCount := UInt32.ofNat pack.monsters.length
  safeCount := UInt32.ofNat pack.safeRegions.length
  specialCount := UInt32.ofNat pack.specialRegions.length

/-- `WriteBinary`: the bytes of the file. -/
def writeBinary (pack : ZoneRuntimeDataPack) : List UInt8 :=
  ZoneRuntimeDataHeader.layout.toBytes (normalizedHeader pack) ++ writeTables pack

/-- What `ReadBinary` returns, and what its arguments hold afterwards. -/
structure ReadOutcome where
  ok : Bool
  out : ZoneRuntimeDataPack
  error : Option String := none
deriving DecidableEq, Repr

/-- `ReadBinary`; `file` is missing where it cannot be opened. -/
def readBinary (file : Option (List UInt8)) (out : ZoneRuntimeDataPack) : ReadOutcome :=
  match file with
  | none => { ok := false, out, error := some "open_failed" }
  | some bytes =>
      if bytes.length < ZoneRuntimeDataHeader.layout.size then
        { ok := false, out, error := some "header_read_failed" }
      else
        let header := ZoneRuntimeDataHeader.layout.ofBytes bytes
        if header.magic ≠ zoneRuntimeDataMagic then { ok := false, out, error := some "bad_magic" }
        else if header.version ≠ zoneRuntimeDataVersion then
          { ok := false, out, error := some "unsupported_version" }
        else
          match readTables header (bytes.drop ZoneRuntimeDataHeader.layout.size) with
          | none => { ok := false, out, error := some "body_read_failed" }
          | some pack => { ok := true, out := pack }

/-- Every table has fewer rows than the counts of the header can say. -/
structure RowsFit (pack : ZoneRuntimeDataPack) : Prop where
  maps : pack.maps.length < 2 ^ 32
  portals : pack.portals.length < 2 ^ 32
  npcs : pack.npcs.length < 2 ^ 32
  monsters : pack.monsters.length < 2 ^ 32
  safeRegions : pack.safeRegions.length < 2 ^ 32
  specialRegions : pack.specialRegions.length < 2 ^ 32

/-- The six tables are read back one after the other. -/
theorem readTables_writeTables {pack : ZoneRuntimeDataPack} (h : RowsFit pack) :
    readTables (normalizedHeader pack) (writeTables pack) =
      some { pack with header := normalizedHeader pack } := by
  have hlast := readVector_writeVector ZoneRegionRecord.layout h.specialRegions []
  rw [List.append_nil] at hlast
  simp only [readTables, writeTables, normalizedHeader, readVector_writeVector _ h.maps,
    readVector_writeVector _ h.portals, readVector_writeVector _ h.npcs,
    readVector_writeVector _ h.monsters, readVector_writeVector _ h.safeRegions, hlast,
    Option.bind_eq_bind, Option.bind_some, Option.pure_def]

/-- The counts of the header are those of the tables. -/
theorem bodySize_normalizedHeader {pack : ZoneRuntimeDataPack} (h : RowsFit pack) :
    bodySize (normalizedHeader pack) = (writeTables pack).length := by
  simp only [bodySize, normalizedHeader, writeTables, writeVector, List.length_append,
    Layout.length_arrayBytes, UInt32.toNat_ofNat_of_lt' h.maps,
    UInt32.toNat_ofNat_of_lt' h.portals, UInt32.toNat_ofNat_of_lt' h.npcs,
    UInt32.toNat_ofNat_of_lt' h.monsters, UInt32.toNat_ofNat_of_lt' h.safeRegions,
    UInt32.toNat_ofNat_of_lt' h.specialRegions]

/-- **A written pack reads back**, with the normalised header. -/
theorem readBinary_writeBinary {pack : ZoneRuntimeDataPack} (h : RowsFit pack)
    (out : ZoneRuntimeDataPack) :
    readBinary (some (writeBinary pack)) out =
      { ok := true, out := { pack with header := normalizedHeader pack } } := by
  have hheader : ZoneRuntimeDataHeader.layout.ofBytes (writeBinary pack) = normalizedHeader pack :=
    ZoneRuntimeDataHeader.layout.ofBytes_append _ _
  have hbody : (writeBinary pack).drop ZoneRuntimeDataHeader.layout.size = writeTables pack := by
    rw [writeBinary, ← ZoneRuntimeDataHeader.layout.length_toBytes (normalizedHeader pack),
      List.drop_left]
  have hlength : ¬(writeBinary pack).length < ZoneRuntimeDataHeader.layout.size := by
    rw [writeBinary, List.length_append, Layout.length_toBytes]
    omega
  simp only [readBinary, if_neg hlength, hheader, hbody, readTables_writeTables h]
  rfl

/-! ## Unreadable files -/

/-- The bytes are no pack: they end before the header or the tables that it
demands do, or the magic or the version is another. -/
inductive Unreadable (bytes : List UInt8) : Prop
  | headerTruncated (h : bytes.length < ZoneRuntimeDataHeader.layout.size)
  | bodyTruncated (h : bytes.length < ZoneRuntimeDataHeader.layout.size +
      bodySize (ZoneRuntimeDataHeader.layout.ofBytes bytes))
  | badMagic (h : (ZoneRuntimeDataHeader.layout.ofBytes bytes).magic ≠ zoneRuntimeDataMagic)
  | badVersion (h : (ZoneRuntimeDataHeader.layout.ofBytes bytes).version ≠ zoneRuntimeDataVersion)

/-- The read failed and left its argument as it was. -/
def ReadOutcome.Refused (r : ReadOutcome) (out : ZoneRuntimeDataPack) : Prop :=
  r.ok = false ∧ r.out = out

/-- The files that are refused are the unreadable ones. -/
theorem readBinary_refused_iff (bytes : List UInt8) (out : ZoneRuntimeDataPack) :
    (readBinary (some bytes) out).Refused out ↔ Unreadable bytes := by
  unfold readBinary
  dsimp only
  split_ifs with hshort hmagic hversion
  · exact iff_of_true ⟨rfl, rfl⟩ (.headerTruncated hshort)
  · exact iff_of_true ⟨rfl, rfl⟩ (.badMagic hmagic)
  · exact iff_of_true ⟨rfl, rfl⟩ (.badVersion hversion)
  have hbody := readTables_eq_none_iff (ZoneRuntimeDataHeader.layout.ofBytes bytes)
    (bytes.drop ZoneRuntimeDataHeader.layout.size)
  rw [List.length_drop] at hbody
  cases htables : readTables (ZoneRuntimeDataHeader.layout.ofBytes bytes)
      (bytes.drop ZoneRuntimeDataHeader.layout.size) with
  | none =>
      have hlt := hbody.mp htables
      exact iff_of_true ⟨rfl, rfl⟩ (.bodyTruncated (by omega))
  | some pack =>
      rw [htables] at hbody
      have hle : ¬_ := fun hlt => Option.some_ne_none _ (hbody.mpr hlt)
      refine iff_of_false (fun h => Bool.noConfusion (show true = false from h.1)) ?_
      rintro (h | h | h | h)
      · exact hshort h
      · omega
      · exact hmagic h
      · exact hversion h

/-- Whatever is missing from the end of a written file, the rest is
unreadable. -/
theorem unreadable_take_writeBinary {pack : ZoneRuntimeDataPack} (h : RowsFit pack) {n : Nat}
    (hn : n < (writeBinary pack).length) : Unreadable ((writeBinary pack).take n) := by
  have hsize := ZoneRuntimeDataHeader.layout.length_toBytes (normalizedHeader pack)
  have hbody := bodySize_normalizedHeader h
  rw [writeBinary, List.length_append, hsize] at hn
  by_cases hshort : n < ZoneRuntimeDataHeader.layout.size
  · refine .headerTruncated ?_
    rw [List.length_take]
    omega
  · have htake : (writeBinary pack).take n =
        ZoneRuntimeDataHeader.layout.toBytes (normalizedHeader pack) ++
          (writeTables pack).take (n - ZoneRuntimeDataHeader.layout.size) := by
      rw [writeBinary, List.take_append, hsize, List.take_of_length_le (by omega)]
    refine .bodyTruncated ?_
    rw [htake, Layout.ofBytes_append, hbody, List.length_append, hsize, List.length_take]
    omega

/-! ## Both forms -/

/-- Both forms give back the tables they were written from, and what ends too
early, or has another magic or version, is refused and changes nothing. -/
theorem zoneData_round_trips (dir : CsvDirectory) (pack out : ZoneRuntimeDataPack)
    (h : RowsFit pack) :
    loadCsvPack (writeCsvPack dir pack) = { pack with header := {} } ∧
    readBinary (some (writeBinary pack)) out =
      { ok := true, out := { pack with header := normalizedHeader pack } } ∧
    (∀ n < (writeBinary pack).length,
      (readBinary (some ((writeBinary pack).take n)) out).Refused out) ∧
    ∀ bytes, Unreadable bytes → (readBinary (some bytes) out).Refused out :=
  ⟨loadCsvPack_writeCsvPack dir pack, readBinary_writeBinary h out,
    fun _ hn => (readBinary_refused_iff _ out).mpr (unreadable_take_writeBinary h hn),
    fun bytes hbytes => (readBinary_refused_iff bytes out).mpr hbytes⟩

/-- A pack with rows in three tables, and negative values. -/
def samplePack : ZoneRuntimeDataPack where
  maps := [{ zoneId := 1, mapId := 1 }]
  portals := [{ zoneId := 1, mapId := 1, value02 := -2, centerX := -100, radius := 5, destX := -7 }]
  safeRegions := [{ zoneId := 4294967295, regionId := 1, centerZ := -2147483648 }]

theorem zoneData_round_trips_sample :
    loadCsvPack (writeCsvPack (fun _ => none) samplePack) = { samplePack with header := {} } ∧
    readBinary (some (writeBinary samplePack)) {} =
      { ok := true, out := { samplePack with header := normalizedHeader samplePack } } ∧
    (∀ n < (writeBinary samplePack).length,
      (readBinary (some ((writeBinary samplePack).take n)) {}).Refused {}) ∧
    ∀ bytes, Unreadable bytes → (readBinary (some bytes) {}).Refused {} :=
  zoneData_round_trips (fun _ => none) samplePack {}
    { maps := by decide
      portals := by decide
      npcs := by decide
      monsters := by decide
      safeRegions := by decide
      specialRegions := by decide }

end GameServer.Data
