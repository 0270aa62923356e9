import Mathlib.Data.Prod.Lex
import GameServer.Data.ZoneBinary
import GameServer.Lib.Gathering

/-!
# GameServer.Data.Extraction

How the builder fills the tables from the files of the old server
(`ExtractFromLegacy` in `apps/zone_data_builder/main.cpp`).

The tables are filled in the order in which the directory yields the files.
The maps and the portals are sorted afterwards, the other four tables are not.

* `LegacyFile`, `legacyEntry` -- a file, and what there is in it
* `extractFile`, `extractFromLegacy` -- the loop, and the pack
* `Reproducible` -- the pack does not depend on the order of the files
* `reproducible_iff` -- which sets of files are reproducible
-/

namespace GameServer.Data

/-! ## Files -/

/-- `WorldRegionRow`. -/
structure WorldRegionRow where
  value01 : Int32 := 0
  value02 : Int32 := 0
  value03 : Int32 := 0
  value04 : Int32 := 0
  centerX : Int32 := 0
  centerY : Int32 := 0
  centerZ : Int32 := 0
  radius : Int32 := 0
deriving DecidableEq, Repr

def WorldRegionRow.layout : Layout WorldRegionRow :=
  (Layout.i32.prod <| Layout.i32.prod <| Layout.i32.prod <| Layout.i32.prod <|
    Layout.i32.prod <| Layout.i32.prod <| Layout.i32.prod Layout.i32).map
    (fun r => (r.value01, r.value02, r.value03, r.value04, r.centerX, r.centerY, r.centerZ,
      r.radius))
    (fun p => {
      value01 := p.1
      value02 := p.2.1
      value03 := p.2.2.1
      value04 := p.2.2.2.1
      centerX := p.2.2.2.2.1
      centerY := p.2.2.2.2.2.1
      centerZ := p.2.2.2.2.2.2.1
      radius := p.2.2.2.2.2.2.2 })
    fun _ => rfl

/-- An entry of the directory; `bytes` is missing where it cannot be opened. -/
structure LegacyFile where
  regular : Bool := true
  stem : List Char
  extension : List Char
  bytes : Option (List UInt8) := some []
deriving DecidableEq, Repr

/-- `ToUpper`. -/
def toUpper (v : List Char) : List Char := v.map Char.toUpper

/-- `ParseZoneIdFromStem`: `Z` and three digits. -/
def parseZoneIdFromStem : List Char → Option UInt32
  | z :: a :: b :: c :: _ =>
      if z = 'Z' ∧ a.isDigit ∧ b.isDigit ∧ c.isDigit then
        some (UInt32.ofNat (Nat.ofDigitChars 10 [a, b, c] 0))
      else none
  | _ => none

/-- `ReadWorldRegionFile`: a signed count, and as many rows. -/
def readWorldRegionFile : Option (List UInt8) → Except String (List WorldRegionRow)
  | none => .error "open_failed"
  | some bytes =>
      let count := Layout.i32.ofBytes bytes
      if bytes.length < Layout.i32.size ∨ count < 0 then .error "header_read_failed"
      else
        match readVector WorldRegionRow.layout count.toUInt32 (bytes.drop Layout.i32.size) with
        | none => .error "body_read_failed"
        | some r => .ok r.1

/-- The tables that region files fill. -/
inductive RegionKind
  | portal
  | npc
  | monster
  | safe
  | special
deriving DecidableEq, Repr

/-- `text.find(pattern) != npos`. -/
def containsText (text : List Char) (pattern : String) : Bool :=
  text.tails.any fun rest => pattern.toList.isPrefixOf rest

/-- The table of a file, by its name in capitals. -/
def regionKind (upperStem : List Char) : Option RegionKind :=
  if containsText upperStem "_ZONEMOVEREGION" then some .portal
  else if containsText upperStem "_SUMMONNPC" || containsText upperStem "_SUMMONGUARD" then
    some .npc
  else if containsText upperStem "_SUMMONMONSTER" then some .monster
  else if containsText upperStem "_ZONESAFEREGION" then some .safe
  else if containsText upperStem "_SPECIALREGION" then some .special
  else none

/-- What there is to take from a file. -/
inductive LegacyEntry
  | skipped
  | map (zoneId : UInt32)
  | regions (kind : RegionKind) (zoneId : UInt32) (rows : List WorldRegionRow)
deriving DecidableEq, Repr

/-- The checks of the loop, up to the rows. -/
def legacyEntry (f : LegacyFile) : LegacyEntry :=
  if f.regular = false then .skipped
  else
    let ext := toUpper f.extension
    match parseZoneIdFromStem f.stem with
    | none => .skipped
    | some zoneId =>
        if ext = ".WM".toList then .map zoneId
        else if ext ≠ ".WREGION".toList then .skipped
        else
          -- an unreadable file is reported and skipped
          match readWorldRegionFile f.bytes with
          | .error _ => .skipped
          | .ok rows =>
              match regionKind (toUpper f.stem) with
              | none => .skipped
              | some kind => .regions kind zoneId rows

/-! ## The loop -/

/-- `append_common`. -/
def regionRecord (zoneId : UInt32) (idx : Nat) (row : WorldRegionRow) : ZoneRegionRecord where
  zoneId := zoneId
  mapId := zoneId
  regionId := UInt32.ofNat (idx + 1)
  value01 := row.value01
  value02 := row.value02
  value03 := row.value03
  value04 := row.value04
  centerX := row.centerX
  centerY := row.centerY
  centerZ := row.centerZ
  radius := row.radius

/-- A portal leads to the zone in its second value. -/
def portalRecord (r : ZoneRegionRecord) : ZonePortalRecord :=
  if 0 < r.value02 then
    { r with destZoneId := r.value02.toUInt32, destMapId := r.value02.toUInt32 }
  else { r with }

/-- The loop over the rows of a file. -/
def appendRegions (pack : ZoneRuntimeDataPack) (kind : RegionKind) (rows : List ZoneRegionRecord) :
    ZoneRuntimeDataPack :=
  match kind with
  | .portal => { pack with portals := pack.portals ++ rows.map portalRecord }
  | .npc => { pack with npcs := pack.npcs ++ rows }
  | .monster => { pack with monsters := pack.monsters ++ rows }
  | .safe => { pack with safeRegions := pack.safeRegions ++ rows }
  | .special => { pack with specialRegions := pack.specialRegions ++ rows }

/-- The variables of the loop. -/
structure Extraction where
  pack : ZoneRuntimeDataPack := {}
  seenMaps : List UInt32 := []

def extractFile (st : Extraction) (f : LegacyFile) : Extraction :=
  match legacyEntry f with
  | .skipped => st
  | .map zoneId =>
      if st.seenMaps.contains zoneId then st
      else
        { pack := { st.pack with maps := st.pack.maps ++ [{ zoneId, mapId := zoneId }] }
          seenMaps := st.seenMaps ++ [zoneId] }
  | .regions kind zoneId rows =>
      { st with pack := appendRegions st.pack kind (rows.mapIdx (regionRecord zoneId)) }

/-- The maps are sorted by their zones. -/
def mapKey (m : ZoneMapRecord) : Nat := m.zoneId.toNat

/-- The portals are sorted by their zones, and by their numbers within a zone. -/
def portalKey (p : ZonePortalRecord) : Nat ×ₗ Nat := toLex (p.zoneId.toNat, p.regionId.toNat)

/-- `ExtractFromLegacy`, of the files in the order of the directory. -/
def extractFromLegacy (sortMaps : SortBy mapKey) (sortPortals : SortBy portalKey)
    (files : List LegacyFile) : ZoneRuntimeDataPack :=
  let pack := (files.foldl extractFile {}).pack
  resolvePortalDestinations
    { pack with maps := sortMaps.run pack.maps, portals := sortPortals.run pack.portals }

/-! ## The tables -/

/-- The regions in a table. -/
def ZoneRuntimeDataPack.regions (pack : ZoneRuntimeDataPack) : RegionKind → List ZoneRegionRecord
  | .portal => pack.portals.map (·.toZoneRegionRecord)
  | .npc => pack.npcs
  | .monster => pack.monsters
  | .safe => pack.safeRegions
  | .special => pack.specialRegions

/-- What a file adds to a table. -/
def regionsOf (kind : RegionKind) (f : LegacyFile) : List ZoneRegionRecord :=
  match legacyEntry f with
  | .regions kind' zoneId rows => if kind' = kind then rows.mapIdx (regionRecord zoneId) else []
  | .skipped | .map _ => []

@[simp] theorem toZoneRegionRecord_portalRecord (r : ZoneRegionRecord) :
    (portalRecord r).toZoneRegionRecord = r := by
  unfold portalRecord
  split_ifs <;> rfl

theorem regions_appendRegions (pack : ZoneRuntimeDataPack) (kind kind' : RegionKind)
    (rows : List ZoneRegionRecord) :
    (appendRegions pack kind' rows).regions kind =
      pack.regions kind ++ if kind' = kind then rows else [] := by
  cases kind' <;> cases kind <;>
    simp [appendRegions, ZoneRuntimeDataPack.regions, Function.comp_def]

/-- A file appends its regions to those of its kind. -/
theorem regions_extractFile (st : Extraction) (f : LegacyFile) (kind : RegionKind) :
    (extractFile st f).pack.regions kind = st.pack.regions kind ++ regionsOf kind f := by
  unfold extractFile regionsOf
  cases legacyEntry f with
  | skipped => exact (List.append_nil _).symm
  | map zoneId =>
      dsimp only
      rw [List.append_nil]
      split_ifs
      · rfl
      · cases kind <;> rfl
  | regions kind' zoneId rows => exact regions_appendRegions st.pack kind kind' _

/-- A portal file appends its portals. -/
theorem portals_extractFile (st : Extraction) (f : LegacyFile) :
    (extractFile st f).pack.portals =
      st.pack.portals ++ (regionsOf .portal f).map portalRecord := by
  unfold extractFile regionsOf
  cases legacyEntry f with
  | skipped => exact (List.append_nil _).symm
  | map zoneId =>
      dsimp only
      rw [List.map_nil, List.append_nil]
      split_ifs <;> rfl
  | regions kind zoneId rows => cases kind <;> simp [appendRegions]

/-- **A table holds what the files add to it**, one file after the other. -/
theorem regions_extractFiles (files : List LegacyFile) (kind : RegionKind) :
    (files.foldl extractFile {}).pack.regions kind = files.flatMap (regionsOf kind) := by
  have hrun := foldl_gather (fun st : Extraction => st.pack.regions kind)
    (fun st f => regions_extractFile st f kind) files {}
  cases kind <;> exact hrun

theorem portals_extractFiles (files : List LegacyFile) :
    (files.foldl extractFile {}).pack.portals =
      files.flatMap fun f => (regionsOf .portal f).map portalRecord :=
  foldl_gather (fun st : Extraction => st.pack.portals) portals_extractFile files {}

/-! ## The maps -/

/-- Each map of the table was seen once. -/
structure MapsSeen (st : Extraction) : Prop where
  maps : st.pack.maps = st.seenMaps.map fun zoneId => { zoneId, mapId := zoneId }
  nodup : st.seenMaps.Nodup

/-- A map is added when its zone is seen for the first time. -/
theorem MapsSeen.extractFile {st : Extraction} (h : MapsSeen st) (f : LegacyFile) :
    MapsSeen (extractFile st f) := by
  unfold Data.extractFile
  cases legacyEntry f with
  | skipped => exact h
  | map zoneId =>
      dsimp only
      split_ifs with hseen
      · exact h
      · rw [List.contains_iff_mem] at hseen
        refine ⟨?_, ?_⟩
        · dsimp only
          rw [h.maps, List.map_append, List.map_singleton]
        · exact List.nodup_append.mpr ⟨h.nodup, List.nodup_singleton zoneId,
            fun a ha b hb hab => hseen (List.mem_singleton.mp hb ▸ hab ▸ ha)⟩
  | regions kind zoneId rows => exact ⟨by cases kind <;> exact h.maps, h.nodup⟩

/-- A file adds the zone of its map to those seen. -/
theorem mem_seenMaps_extractFile (st : Extraction) (f : LegacyFile) (zoneId : UInt32) :
    zoneId ∈ (extractFile st f).seenMaps ↔
      zoneId ∈ st.seenMaps ∨ legacyEntry f = .map zoneId := by
  unfold extractFile
  cases legacyEntry f with
  | skipped => simp
  | map zoneId' =>
      dsimp only
      split_ifs with hseen
      · rw [List.contains_iff_mem] at hseen
        refine (or_iff_left_of_imp fun h => ?_).symm
        exact LegacyEntry.map.inj h ▸ hseen
      · simp [eq_comm]
  | regions kind zoneId' rows => simp

/-- Over all files: induction on their list. -/
theorem mapsSeen_extractFiles (files : List LegacyFile) :
    MapsSeen (files.foldl extractFile {}) ∧
      ∀ zoneId, zoneId ∈ (files.foldl extractFile {}).seenMaps ↔
        ∃ f ∈ files, legacyEntry f = .map zoneId := by
  induction files using List.reverseRecOn with
  | nil => exact ⟨⟨rfl, List.nodup_nil⟩, by simp⟩
  | append_singleton files f ih =>
      rw [List.foldl_append, List.foldl_cons, List.foldl_nil]
      refine ⟨ih.1.extractFile f, fun zoneId => ?_⟩
      rw [mem_seenMaps_extractFile, ih.2]
      simp [or_and_right, exists_or]

/-- The table of the maps is the same for every order, once it is sorted. -/
theorem sortMaps_orderFree (sortMaps : SortBy mapKey) (files : List LegacyFile) :
    OrderFree (fun files => sortMaps.run (files.foldl extractFile {}).pack.maps) files := by
  intro files' hperm
  obtain ⟨hseen', hmem'⟩ := mapsSeen_extractFiles files'
  obtain ⟨hseen, hmem⟩ := mapsSeen_extractFiles files
  dsimp only
  rw [hseen'.maps, hseen.maps]
  have hzones : (files'.foldl extractFile {}).seenMaps.Perm
      (files.foldl extractFile {}).seenMaps := by
    refine (List.perm_ext_iff_of_nodup hseen'.nodup hseen.nodup).mpr fun zoneId => ?_
    rw [hmem', hmem]
    simp only [hperm.mem_iff]
  refine SortBy.run_eq_of_perm _ _ (hzones.map _) fun a ha b hb hkey => ?_
  obtain ⟨z, -, rfl⟩ := List.mem_map.mp ha
  obtain ⟨z', -, rfl⟩ := List.mem_map.mp hb
  have hzone : z = z' := UInt32.toNat_inj.mp hkey
  rw [hzone]

/-! ## The numbers of the regions -/

/-- An entry of regions is what the reader made of the bytes. -/
theorem readWorldRegionFile_of_legacyEntry {f : LegacyFile} {kind : RegionKind}
    {zoneId : UInt32} {rows : List WorldRegionRow}
    (h : legacyEntry f = .regions kind zoneId rows) : readWorldRegionFile f.bytes = .ok rows := by
  unfold legacyEntry at h
  dsimp only at h
  split at h
  · exact LegacyEntry.noConfusion h
  split at h
  · exact LegacyEntry.noConfusion h
  split at h
  · exact LegacyEntry.noConfusion h
  split at h
  · exact LegacyEntry.noConfusion h
  split at h
  · exact LegacyEntry.noConfusion h
  next rows' hread =>
  split at h
  · exact LegacyEntry.noConfusion h
  rw [hread, (LegacyEntry.regions.inj h).2.2]

/-- The reader refuses a count that is not a positive 32-bit integer. -/
theorem length_readWorldRegionFile {file : Option (List UInt8)} {rows : List WorldRegionRow}
    (h : readWorldRegionFile file = .ok rows) : rows.length < 2 ^ 31 := by
  cases file with
  | none => exact absurd h (by simp [readWorldRegionFile])
  | some bytes =>
      simp only [readWorldRegionFile, readVector] at h
      split_ifs at h with hcount hbody
      rw [not_or, Int32.not_lt] at hcount
      rw [← Except.ok.inj h, Layout.length_readArray, Int32.toNat_toUInt32_of_le hcount.2]
      exact Int32.toNatClampNeg_lt _

/-- The regions of a file are numbered from 1. -/
theorem numbered_regionsOf (kind : RegionKind) (f : LegacyFile) :
    Numbered 1 (fun r : ZoneRegionRecord => r.regionId.toNat) (regionsOf kind f) := by
  unfold regionsOf
  cases hentry : legacyEntry f with
  | skipped => rfl
  | map zoneId => rfl
  | regions kind' zoneId rows =>
      dsimp only
      split_ifs
      · have hlt := length_readWorldRegionFile (readWorldRegionFile_of_legacyEntry hentry)
        refine List.ext_getElem (by simp) fun i hi hi' => ?_
        have hi : i < rows.length := by simpa using hi
        have hnum : (UInt32.ofNat (i + 1)).toNat = i + 1 :=
          UInt32.toNat_ofNat_of_lt' (Nat.lt_trans (by omega) (by decide : 2 ^ 31 + 1 < 2 ^ 32))
        rw [List.getElem_map, List.getElem_mapIdx, List.getElem_range']
        exact hnum.trans (by omega)
      · rfl

/-- The portals of one file have different keys, since their region ids are positions. -/
theorem nodup_portalKey (f : LegacyFile) :
    (((regionsOf .portal f).map portalRecord).map portalKey).Nodup := by
  refine List.Nodup.of_map (fun key => (ofLex key).2) ?_
  rw [List.map_map, List.map_map]
  have hnum : ((fun key : Nat ×ₗ Nat => (ofLex key).2) ∘ portalKey) ∘ portalRecord =
      fun r : ZoneRegionRecord => r.regionId.toNat := by
    funext r
    exact congrArg (fun r : ZoneRegionRecord => r.regionId.toNat)
      (toZoneRegionRecord_portalRecord r)
  rw [hnum, numbered_regionsOf .portal f]
  exact List.nodup_range'

/-! ## Reproducible packs -/

/-- Whatever the sorts do with rows of one key, the pack does not depend on the
order in which the directory yields the files. -/
def Reproducible (files : List LegacyFile) : Prop :=
  ∀ sortMaps sortPortals, OrderFree (extractFromLegacy sortMaps sortPortals) files

/-- The files leave no choice: those that fill the same unsorted table have the
same rows, and portals of one zone with the same number are the same. -/
structure LeavesNoChoice (files : List LegacyFile) : Prop where
  regions : ∀ kind, kind ≠ .portal → ∀ f ∈ files, ∀ g ∈ files,
    regionsOf kind f ≠ [] → regionsOf kind g ≠ [] → regionsOf kind f = regionsOf kind g
  portals : ∀ f ∈ files, ∀ g ∈ files, ∀ a ∈ regionsOf .portal f, ∀ b ∈ regionsOf .portal g,
    a.zoneId = b.zoneId → a.regionId = b.regionId → a = b

theorem regionsOf_orderFree_iff (kind : RegionKind) (files : List LegacyFile) :
    OrderFree (·.flatMap (regionsOf kind)) files ↔ ∀ f ∈ files, ∀ g ∈ files,
      regionsOf kind f ≠ [] → regionsOf kind g ≠ [] → regionsOf kind f = regionsOf kind g :=
  flatMap_orderFree_iff fun f _ => numbered_regionsOf kind f

/-- The sorted portals do not depend on the order of the files exactly if no key is shared
by different portals. -/
theorem sortPortals_orderFree_iff (files : List LegacyFile) :
    (∀ sortPortals : SortBy portalKey, OrderFree (fun files =>
      sortPortals.run (files.flatMap fun f => (regionsOf .portal f).map portalRecord)) files) ↔
      ∀ f ∈ files, ∀ g ∈ files, ∀ a ∈ regionsOf .portal f, ∀ b ∈ regionsOf .portal g,
        a.zoneId = b.zoneId → a.regionId = b.regionId → a = b := by
  have hkey : ∀ a b : ZoneRegionRecord, portalKey (portalRecord a) = portalKey (portalRecord b) ↔
      a.zoneId = b.zoneId ∧ a.regionId = b.regionId := by
    intro a b
    simp only [portalKey, toZoneRegionRecord_portalRecord, toLex_inj, Prod.mk.injEq,
      UInt32.toNat_inj]
  have hrecord : ∀ a b : ZoneRegionRecord, portalRecord a = portalRecord b ↔ a = b := by
    intro a b
    refine ⟨fun h => ?_, congrArg portalRecord⟩
    rw [← toZoneRegionRecord_portalRecord a, h, toZoneRegionRecord_portalRecord]
  rw [sort_orderFree_iff fun f _ => nodup_portalKey f]
  simp only [List.forall_mem_map, hkey, hrecord, and_imp]

/-- The sorted portals can be told from the completed ones. -/
theorem portals_eq_of_resolved {portals portals' : List ZonePortalRecord}
    (h : ∀ p ∈ portals, portalRecord p.toZoneRegionRecord = p)
    (h' : ∀ p ∈ portals', portalRecord p.toZoneRegionRecord = p)
    (heq : resolvePortals [] portals = resolvePortals [] portals') : portals = portals' := by
  have hregion : ∀ portals : List ZonePortalRecord,
      (resolvePortals [] portals).map (·.toZoneRegionRecord) =
        portals.map (·.toZoneRegionRecord) := fun portals =>
    map_region_resolvePortalDestinations { portals }
  have hback : ∀ portals : List ZonePortalRecord,
      (∀ p ∈ portals, portalRecord p.toZoneRegionRecord = p) →
      (portals.map (·.toZoneRegionRecord)).map portalRecord = portals := by
    intro portals h
    rw [List.map_map]
    exact (List.map_congr_left h).trans (List.map_id portals)
  rw [← hback portals h, ← hback portals' h', ← hregion portals, ← hregion portals', heq]

/-- The header is written once, at the end. -/
theorem header_extractFile (st : Extraction) (f : LegacyFile) :
    (extractFile st f).pack.header = st.pack.header := by
  unfold extractFile
  cases legacyEntry f with
  | skipped => rfl
  | map zoneId =>
      dsimp only
      split_ifs <;> rfl
  | regions kind zoneId rows => cases kind <;> rfl

theorem header_extractFiles (files : List LegacyFile) :
    (files.foldl extractFile {}).pack.header = {} := by
  induction files using List.reverseRecOn with
  | nil => rfl
  | append_singleton files f ih =>
      rw [List.foldl_append, List.foldl_cons, List.foldl_nil, header_extractFile, ih]

/-- The pack, table by table. -/
theorem extractFromLegacy_eq (sortMaps : SortBy mapKey) (sortPortals : SortBy portalKey)
    (files : List LegacyFile) :
    extractFromLegacy sortMaps sortPortals files =
      { maps := sortMaps.run (files.foldl extractFile {}).pack.maps
        portals := resolvePortals [] (sortPortals.run
          (files.flatMap fun f => (regionsOf .portal f).map portalRecord))
        npcs := files.flatMap (regionsOf .npc)
        monsters := files.flatMap (regionsOf .monster)
        safeRegions := files.flatMap (regionsOf .safe)
        specialRegions := files.flatMap (regionsOf .special) } := by
  have hnpcs : (files.foldl extractFile {}).pack.npcs = _ := regions_extractFiles files .npc
  have hmonsters : (files.foldl extractFile {}).pack.monsters = _ :=
    regions_extractFiles files .monster
  have hsafe : (files.foldl extractFile {}).pack.safeRegions = _ :=
    regions_extractFiles files .safe
  have hspecial : (files.foldl extractFile {}).pack.specialRegions = _ :=
    regions_extractFiles files .special
  simp only [extractFromLegacy, resolvePortalDestinations, header_extractFiles,
    portals_extractFiles, hnpcs, hmonsters, hsafe, hspecial]

/-- A record that comes out of the sort is still as it was appended. -/
theorem portalRecord_of_mem_sorted (sortPortals : SortBy portalKey) (files : List LegacyFile) :
    ∀ p ∈ sortPortals.run (files.flatMap fun f => (regionsOf .portal f).map portalRecord),
      portalRecord p.toZoneRegionRecord = p := by
  intro p hp
  obtain ⟨f, -, hpf⟩ := List.mem_flatMap.mp ((sortPortals.perm _).mem_iff.mp hp)
  obtain ⟨r, -, rfl⟩ := List.mem_map.mp hpf
  rw [toZoneRegionRecord_portalRecord]

/-- **The extraction is reproducible exactly if the files leave no choice.** -/
theorem reproducible_iff (files : List LegacyFile) :
    Reproducible files ↔ LeavesNoChoice files := by
  constructor
  · intro h
    have htables := fun sortPortals files' hperm =>
      h (SortBy.stable mapKey) sortPortals files' hperm
    simp only [extractFromLegacy_eq, ZoneRuntimeDataPack.mk.injEq] at htables
    refine ⟨fun kind hkind => (regionsOf_orderFree_iff kind files).mp fun files' hperm => ?_,
      (sortPortals_orderFree_iff files).mp fun sortPortals files' hperm => ?_⟩
    · obtain ⟨-, -, -, hnpcs, hmonsters, hsafe, hspecial⟩ :=
        htables (SortBy.stable portalKey) files' hperm
      cases kind with
      | portal => exact absurd rfl hkind
      | npc => exact hnpcs
      | monster => exact hmonsters
      | safe => exact hsafe
      | special => exact hspecial
    · obtain ⟨-, -, hportals, -⟩ := htables sortPortals files' hperm
      exact portals_eq_of_resolved (portalRecord_of_mem_sorted sortPortals files')
        (portalRecord_of_mem_sorted sortPortals files) hportals
  · intro h sortMaps sortPortals files' hperm
    have hregions : ∀ kind, kind ≠ .portal →
        files'.flatMap (regionsOf kind) = files.flatMap (regionsOf kind) := fun kind hkind =>
      (regionsOf_orderFree_iff kind files).mpr (h.regions kind hkind) files' hperm
    have hmaps := sortMaps_orderFree sortMaps files files' hperm
    have hportals := (sortPortals_orderFree_iff files).mpr h.portals sortPortals files' hperm
    dsimp only at hmaps hportals
    rw [extractFromLegacy_eq, extractFromLegacy_eq, hmaps, hportals, hregions .npc (by decide),
      hregions .monster (by decide), hregions .safe (by decide), hregions .special (by decide)]

/-- The merchants of zone 1, one row. -/
def merchants : LegacyFile where
  stem := "Z001_SUMMONNPC".toList
  extension := ".WREGION".toList
  bytes := some (Layout.i32.toBytes 1 ++ WorldRegionRow.layout.toBytes { centerX := 10 })

/-- The guards of zone 2, one row. -/
def guards : LegacyFile where
  stem := "Z002_SUMMONGUARD".toList
  extension := ".wregion".toList
  bytes := some (Layout.i32.toBytes 1 ++ WorldRegionRow.layout.toBytes { centerX := 20 })

/-- Two files in either order. -/
theorem extraction_depends_on_order :
    [guards, merchants].Perm [merchants, guards] ∧
    extractFromLegacy (SortBy.stable mapKey) (SortBy.stable portalKey) [guards, merchants] ≠
      extractFromLegacy (SortBy.stable mapKey) (SortBy.stable portalKey) [merchants, guards] := by
  refine ⟨List.Perm.swap _ _ _, fun h => ?_⟩
  have hnpcs := congrArg (·.npcs.map (·.zoneId)) h
  revert hnpcs
  decide

end GameServer.Data
