import GameServer.Data.ItemSource

/-!
# GameServer.Data.ItemImport

What an import of the item file puts into the database, and what a world server
then finds.

* `Importable`, `Upserts` — when an item can be brought into a database, and what
  `UpsertItemTemplate` then does;
* `Imported`, `imported_foldlM` — the loop over the items: their rows are put, the
  others stay, and each item is counted once;
* `Finishes`, `importTransaction_cases` — when nothing that an import asks of its
  connection throws, and what its transaction then does;
* `importItemTemplates_spec` — when an import ends, and what a world server finds
  then;
* `ItemImport.commits_of_isOk`, `preload_runImports` — which calls commit, and
  what a world server finds after any calls.
-/

namespace GameServer.Data

/-! ## One item -/

/-- The row can be written when the tag fits its column and both equip values fit a small
integer. -/
theorem toRow_isSome_iff {item : ItemTemplate} {tag : SourceTag} :
    (item.toRow tag).isSome ↔ tag.val.length ≤ 32 ∧ fitsSmallInt item.equipPart = true ∧
      fitsSmallInt item.equipTribe = true := by
  rw [ItemTemplate.toRow]
  split
  next hlength =>
    split
    next hfits => exact iff_of_true rfl ⟨hlength, Bool.and_eq_true_iff.mp hfits⟩
    next hfits =>
      exact iff_of_false Bool.false_ne_true fun h => hfits (Bool.and_eq_true_iff.mpr h.2)
  next hlength => exact iff_of_false Bool.false_ne_true fun h => hlength h.1

/-- An item that `UpsertItemTemplate` can bring into a database: the columns hold
it, on a `busy` connection it has no row that would have to change, and none of
its statements throws. -/
structure Importable (conn : ItemConnection) (tag : SourceTag) (db : ItemTemplateDb)
    (item : ItemTemplate) : Prop where
  inRange : item.itemId.toNat < 2 ^ 31
  tagFits : tag.val.length ≤ 32
  partFits : fitsSmallInt item.equipPart = true
  tribeFits : fitsSmallInt item.equipTribe = true
  idle : conn.busy = true → ∀ row, db.lookup item.itemId.toInt32 = some row →
    row.same item tag = true
  selected : conn.throws (.select item.itemId) = false
  written : db.lookup item.itemId.toInt32 ≠ item.toRow tag →
    conn.throws (.put item.itemId) = false

/-- What `Importable` asks of the item, the connection and the stored row. -/
theorem importable_iff {conn : ItemConnection} {tag : SourceTag} {db : ItemTemplateDb}
    {item : ItemTemplate} : Importable conn tag db item ↔
      item.itemId.toNat < 2 ^ 31 ∧ conn.throws (.select item.itemId) = false ∧
      ∃ row, item.toRow tag = some row ∧
        (db.lookup item.itemId.toInt32 ≠ some row → conn.throws (.put item.itemId) = false) ∧
        (conn.busy = true → ∀ old, db.lookup item.itemId.toInt32 = some old → old = row) := by
  constructor
  · rintro ⟨hrange, htag, hpart, htribe, hidle, hselected, hwritten⟩
    obtain ⟨row, hrow⟩ := Option.isSome_iff_exists.mp (toRow_isSome_iff.mpr ⟨htag, hpart, htribe⟩)
    refine ⟨hrange, hselected, row, hrow, hrow ▸ hwritten, fun hbusy old hold => ?_⟩
    exact Option.some.inj ((same_iff.mp (hidle hbusy old hold)).symm.trans hrow)
  · rintro ⟨hrange, hselected, row, hrow, hwritten, hidle⟩
    obtain ⟨htag, hpart, htribe⟩ := toRow_isSome_iff.mp (Option.isSome_iff_exists.mpr ⟨row, hrow⟩)
    refine ⟨hrange, htag, hpart, htribe, fun hbusy old hold => same_iff.mpr ?_, hselected,
      hrow ▸ hwritten⟩
    rw [hidle hbusy old hold, hrow]

/-- What `UpsertItemTemplate` does with an item whose row would be `row`. -/
inductive Upserts (conn : ItemConnection) (item : ItemTemplate) (row : ItemTemplateRow) :
    ItemTemplateDb × ItemTemplateImportStats → ItemTemplateDb × ItemTemplateImportStats → Prop where
  | insert {db : ItemTemplateDb} {stats : ItemTemplateImportStats}
      (h : db.lookup item.itemId.toInt32 = none)
      (hput : conn.throws (.put item.itemId) = false) :
      Upserts conn item row (db, stats)
        (db.insert item.itemId.toInt32 row, { stats with inserted := stats.inserted + 1 })
  | skip {db : ItemTemplateDb} {stats : ItemTemplateImportStats}
      (h : db.lookup item.itemId.toInt32 = some row) :
      Upserts conn item row (db, stats) (db, { stats with skipped := stats.skipped + 1 })
  | update {db : ItemTemplateDb} {stats : ItemTemplateImportStats} {old : ItemTemplateRow}
      (h : db.lookup item.itemId.toInt32 = some old) (hne : old ≠ row)
      (hidle : conn.busy = false) (hput : conn.throws (.put item.itemId) = false) :
      Upserts conn item row (db, stats)
        (db.insert item.itemId.toInt32 row, { stats with updated := stats.updated + 1 })

/-- The upsert goes through unless the write throws or a busy row differs. -/
theorem Upserts.exists_iff {conn : ItemConnection} {item : ItemTemplate} {row : ItemTemplateRow}
    {s : ItemTemplateDb × ItemTemplateImportStats} :
    (∃ s', Upserts conn item row s s') ↔
      (s.1.lookup item.itemId.toInt32 ≠ some row → conn.throws (.put item.itemId) = false) ∧
      (conn.busy = true → ∀ old, s.1.lookup item.itemId.toInt32 = some old → old = row) := by
  constructor
  · rintro ⟨s', hs⟩
    cases hs with
    | insert h hput => exact ⟨fun _ => hput, fun _ old hold => absurd (h.symm.trans hold) nofun⟩
    | skip h =>
        exact ⟨fun hne => absurd h hne, fun _ old hold => Option.some.inj (hold.symm.trans h)⟩
    | update h hne hidle hput =>
        exact ⟨fun _ => hput, fun hbusy => absurd (hidle.symm.trans hbusy) Bool.false_ne_true⟩
  · rintro ⟨hput, hidle⟩
    cases hlookup : s.1.lookup item.itemId.toInt32 with
    | none => exact ⟨_, .insert hlookup (hput (hlookup ▸ nofun))⟩
    | some old =>
        by_cases hsame : old = row
        · exact ⟨_, .skip (hsame ▸ hlookup)⟩
        · refine ⟨_, .update hlookup hsame (Bool.eq_false_iff.mpr fun hbusy => ?_) (hput ?_)⟩
          · exact hsame (hidle hbusy old hlookup)
          · exact fun heq => hsame (Option.some.inj (hlookup.symm.trans heq))

theorem selectItemTemplate_of_lt {db : ItemTemplateDb} {itemId : UInt32}
    (h : itemId.toNat < 2 ^ 31) : selectItemTemplate db itemId = db.lookup itemId.toInt32 := by
  rw [selectItemTemplate, rowKey, if_pos h, Option.bind_some]

/-- The SELECT finds the row of an id that its parameter can hold. -/
theorem selectItemTemplate_eq_some_iff {db : ItemTemplateDb} {itemId : UInt32}
    {row : ItemTemplateRow} : selectItemTemplate db itemId = some row ↔
      itemId.toNat < 2 ^ 31 ∧ db.lookup itemId.toInt32 = some row := by
  by_cases hrange : itemId.toNat < 2 ^ 31
  · rw [selectItemTemplate_of_lt hrange, and_iff_right hrange]
  · rw [selectItemTemplate, rowKey, if_neg hrange]
    exact iff_of_false nofun fun h => hrange h.1

/-- The plain write succeeds when the id and the row fit their columns. -/
theorem putItemTemplate_eq_some_iff {db db' : ItemTemplateDb} {item : ItemTemplate}
    {tag : SourceTag} : putItemTemplate db item tag = some db' ↔
      item.itemId.toNat < 2 ^ 31 ∧ ∃ row, item.toRow tag = some row ∧
        db.insert item.itemId.toInt32 row = db' := by
  by_cases hrange : item.itemId.toNat < 2 ^ 31
  · rw [putItemTemplate, rowKey, if_pos hrange, and_iff_right hrange]
    cases item.toRow tag with
    | none => exact iff_of_false nofun nofun
    | some row => simp
  · rw [putItemTemplate, rowKey, if_neg hrange]
    exact iff_of_false nofun fun h => hrange h.1

theorem ItemConnection.putItemTemplate_eq_some_iff {conn : ItemConnection}
    {db db' : ItemTemplateDb} {item : ItemTemplate} {tag : SourceTag} :
    conn.putItemTemplate db item tag = some db' ↔
      conn.throws (.put item.itemId) = false ∧ Data.putItemTemplate db item tag = some db' := by
  unfold ItemConnection.putItemTemplate
  cases conn.throws (.put item.itemId) <;> simp

/-- Every `Upserts` step is a run of the code. -/
theorem Upserts.upsertItemTemplate {conn : ItemConnection} {tag : SourceTag} {item : ItemTemplate}
    {row : ItemTemplateRow} {s s' : ItemTemplateDb × ItemTemplateImportStats}
    (hs : Upserts conn item row s s') (hzero : item.itemId ≠ 0)
    (hrange : item.itemId.toNat < 2 ^ 31) (hselected : conn.throws (.select item.itemId) = false)
    (hrow : item.toRow tag = some row) :
    upsertItemTemplate conn tag s item = some s' := by
  have hput (db : ItemTemplateDb) (hthrows : conn.throws (.put item.itemId) = false) :
      conn.putItemTemplate db item tag = some (db.insert item.itemId.toInt32 row) :=
    ItemConnection.putItemTemplate_eq_some_iff.mpr
      ⟨hthrows, putItemTemplate_eq_some_iff.mpr ⟨hrange, row, hrow, rfl⟩⟩
  rw [Data.upsertItemTemplate, if_neg hzero, hselected, if_neg Bool.false_ne_true,
    selectItemTemplate_of_lt hrange]
  cases hs with
  | insert h hthrows => rw [h, hput _ hthrows]; rfl
  | skip h => rw [h]; exact if_pos (same_iff.mpr hrow)
  | update h hne hidle hthrows =>
      have hdiffers : ¬ _ = true := fun hsame =>
        hne (Option.some.inj ((same_iff.mp hsame).symm.trans hrow))
      rw [h, hput _ hthrows, hidle]
      exact if_neg hdiffers

/-- And every run of the code is an `Upserts` step. -/
theorem upserts_of_upsertItemTemplate {conn : ItemConnection} {tag : SourceTag}
    {item : ItemTemplate} {s s' : ItemTemplateDb × ItemTemplateImportStats}
    (h : upsertItemTemplate conn tag s item = some s') (hzero : item.itemId ≠ 0) :
    item.itemId.toNat < 2 ^ 31 ∧ conn.throws (.select item.itemId) = false ∧
      ∃ row, item.toRow tag = some row ∧ Upserts conn item row s s' := by
  obtain ⟨db, stats⟩ := s
  rw [upsertItemTemplate, if_neg hzero] at h
  split at h
  next => cases h
  next hselected =>
    rw [Bool.not_eq_true] at hselected
    split at h
    next hselect =>
      obtain ⟨db', hput, rfl⟩ := Option.map_eq_some_iff.mp h
      obtain ⟨hthrows, hput⟩ := ItemConnection.putItemTemplate_eq_some_iff.mp hput
      obtain ⟨hrange, row, hrow, rfl⟩ := putItemTemplate_eq_some_iff.mp hput
      rw [selectItemTemplate_of_lt hrange] at hselect
      exact ⟨hrange, hselected, row, hrow, .insert hselect hthrows⟩
    next old hselect =>
      obtain ⟨hrange, hlookup⟩ := selectItemTemplate_eq_some_iff.mp hselect
      split at h
      next hsame =>
        obtain rfl := Option.some.inj h
        exact ⟨hrange, hselected, old, same_iff.mp hsame, .skip hlookup⟩
      next hsame =>
        split at h
        next => cases h
        next hidle =>
          obtain ⟨db', hput, rfl⟩ := Option.map_eq_some_iff.mp h
          obtain ⟨hthrows, hput⟩ := ItemConnection.putItemTemplate_eq_some_iff.mp hput
          obtain ⟨-, row, hrow, rfl⟩ := putItemTemplate_eq_some_iff.mp hput
          have hne : old ≠ row := fun heq => hsame (same_iff.mpr (heq ▸ hrow))
          exact ⟨hrange, hselected, row, hrow,
            .update hlookup hne (Bool.eq_false_iff.mpr hidle) hthrows⟩

/-- The upsert succeeds exactly on importable items. -/
theorem upsertItemTemplate_isSome_iff {conn : ItemConnection} {tag : SourceTag}
    {item : ItemTemplate} {s : ItemTemplateDb × ItemTemplateImportStats} (hzero : item.itemId ≠ 0) :
    (upsertItemTemplate conn tag s item).isSome ↔ Importable conn tag s.1 item := by
  rw [importable_iff, Option.isSome_iff_exists]
  constructor
  · rintro ⟨s', hs⟩
    obtain ⟨hrange, hselected, row, hrow, hupserts⟩ := upserts_of_upsertItemTemplate hs hzero
    exact ⟨hrange, hselected, row, hrow, Upserts.exists_iff.mp ⟨s', hupserts⟩⟩
  · rintro ⟨hrange, hselected, row, hrow, hidle⟩
    obtain ⟨s', hupserts⟩ := Upserts.exists_iff.mpr hidle
    exact ⟨s', hupserts.upsertItemTemplate hzero hrange hselected hrow⟩

/-! ## All items -/

/-- An item that has no row yet. -/
def isNew (db : ItemTemplateDb) (item : ItemTemplate) : Bool :=
  (db.lookup item.itemId.toInt32).isNone

/-- An item whose row is as an import would put it. -/
def isStored (tag : SourceTag) (db : ItemTemplateDb) (item : ItemTemplate) : Bool :=
  db.lookup item.itemId.toInt32 = item.toRow tag

/-- The rows of the items are put, the others stay, and each item is counted
once. -/
structure Imported (tag : SourceTag) (s s' : ItemTemplateDb × ItemTemplateImportStats)
    (items : List ItemTemplate) : Prop where
  put : ∀ item ∈ items, (item.toRow tag).isSome ∧
    s'.1.lookup item.itemId.toInt32 = item.toRow tag
  kept : ∀ key ∉ items.map fun item => item.itemId.toInt32, s'.1.lookup key = s.1.lookup key
  inserted : s'.2.inserted = s.2.inserted + items.countP (isNew s.1)
  skipped : s'.2.skipped = s.2.skipped + items.countP (isStored tag s.1)
  total : s'.2.inserted + s'.2.updated + s'.2.skipped =
    s.2.inserted + s.2.updated + s.2.skipped + items.length
  invalid : s'.2.invalid = s.2.invalid

/-- One upsert imports one item, in each of its three branches. -/
theorem Upserts.imported {conn : ItemConnection} {tag : SourceTag} {item : ItemTemplate}
    {row : ItemTemplateRow} {s s' : ItemTemplateDb × ItemTemplateImportStats}
    (hs : Upserts conn item row s s') (hrow : item.toRow tag = some row) :
    Imported tag s s' [item] := by
  have hkept {db : ItemTemplateDb} (key : Int32)
      (hkey : key ∉ [item].map fun item => item.itemId.toInt32) :
      (db.insert item.itemId.toInt32 row).lookup key = db.lookup key :=
    AList.lookup_insert_ne fun heq => hkey (List.mem_singleton.mpr heq)
  have hput {db : ItemTemplateDb} (h : db.lookup item.itemId.toInt32 = some row) :
      ∀ item' ∈ [item], (item'.toRow tag).isSome ∧
        db.lookup item'.itemId.toInt32 = item'.toRow tag := by
    intro item' hmem
    obtain rfl := List.mem_singleton.mp hmem
    exact ⟨Option.isSome_iff_exists.mpr ⟨row, hrow⟩, h.trans hrow.symm⟩
  cases hs with
  | insert h _ =>
      refine ⟨hput (AList.lookup_insert _), hkept, ?_, ?_, by simp; omega, rfl⟩
      · simp [isNew, h]
      · simp [isStored, h, hrow]
  | skip h =>
      refine ⟨hput h, fun _ _ => rfl, ?_, ?_, rfl, rfl⟩
      · simp [isNew, h]
      · simp [isStored, h, hrow]
  | update h hne _ _ =>
      refine ⟨hput (AList.lookup_insert _), hkept, ?_, ?_, by simp; omega, rfl⟩
      · simp [isNew, h]
      · simp [isStored, h, hrow, hne]

/-- Imports of other items follow one another. -/
theorem Imported.trans {tag : SourceTag} {s s' s'' : ItemTemplateDb × ItemTemplateImportStats}
    {items items' : List ItemTemplate} (h : Imported tag s s' items)
    (h' : Imported tag s' s'' items')
    (hother : ∀ item ∈ items', item.itemId.toInt32 ∉ items.map fun item => item.itemId.toInt32) :
    Imported tag s s'' (items ++ items') where
  put item hitem := by
    by_cases hlater : item ∈ items'
    · exact h'.put item hlater
    · have hfirst := (List.mem_append.mp hitem).resolve_right hlater
      refine ⟨(h.put item hfirst).1, (h'.kept _ fun hmem => ?_).trans (h.put item hfirst).2⟩
      obtain ⟨item', hitem', heq⟩ := List.mem_map.mp hmem
      exact hother item' hitem' (List.mem_map.mpr ⟨item, hfirst, heq.symm⟩)
  kept key hkey := by
    rw [List.map_append, List.mem_append, not_or] at hkey
    exact (h'.kept key hkey.2).trans (h.kept key hkey.1)
  inserted := by
    have hsame : items'.countP (isNew s'.1) = items'.countP (isNew s.1) :=
      List.countP_congr fun item hitem => by rw [isNew, isNew, h.kept _ (hother item hitem)]
    rw [h'.inserted, h.inserted, hsame, List.countP_append, Nat.add_assoc]
  skipped := by
    have hsame : items'.countP (isStored tag s'.1) = items'.countP (isStored tag s.1) :=
      List.countP_congr fun item hitem => by rw [isStored, isStored, h.kept _ (hother item hitem)]
    rw [h'.skipped, h.skipped, hsame, List.countP_append, Nat.add_assoc]
  total := by rw [h'.total, h.total, List.length_append, Nat.add_assoc]
  invalid := h'.invalid.trans h.invalid

/-! ## The loop -/

theorem Importable.congr {conn : ItemConnection} {tag : SourceTag} {db db' : ItemTemplateDb}
    {item : ItemTemplate} (h : db'.lookup item.itemId.toInt32 = db.lookup item.itemId.toInt32) :
    Importable conn tag db' item ↔ Importable conn tag db item := by
  rw [importable_iff, importable_iff, h]

/-- Ids that differ differ as signed ids too. -/
theorem toInt32_notMem_of_nodup {item : ItemTemplate} {items : List ItemTemplate}
    (hids : ((item :: items).map ItemTemplate.itemId).Nodup) :
    ∀ item' ∈ items, item'.itemId.toInt32 ∉ [item].map fun item => item.itemId.toInt32 := by
  intro item' hitem' hmem
  have heq : item'.itemId = item.itemId := congrArg Int32.toUInt32 (List.mem_singleton.mp hmem)
  rw [List.map_cons, List.nodup_cons] at hids
  exact hids.1 (List.mem_map.mpr ⟨item', hitem', heq⟩)

/-- The loop over the file imports each of its items, whose ids differ. -/
theorem imported_foldlM {conn : ItemConnection} {tag : SourceTag} {items : List ItemTemplate}
    (hids : (items.map ItemTemplate.itemId).Nodup) (hzero : ∀ item ∈ items, item.itemId ≠ 0)
    {s s' : ItemTemplateDb × ItemTemplateImportStats}
    (h : items.foldlM (upsertItemTemplate conn tag) s = some s') : Imported tag s s' items := by
  induction items generalizing s with
  | nil =>
      obtain rfl := Option.some.inj h
      exact ⟨nofun, fun _ _ => rfl, rfl, rfl, rfl, rfl⟩
  | cons item items ih =>
      rw [List.foldlM_cons] at h
      obtain ⟨s₁, hfirst, hrest⟩ := Option.bind_eq_some_iff.mp h
      obtain ⟨-, -, row, hrow, hs⟩ :=
        upserts_of_upsertItemTemplate hfirst (hzero item List.mem_cons_self)
      exact (hs.imported hrow).trans
        (ih (List.nodup_cons.mp hids).2 (fun i hi => hzero i (List.mem_cons_of_mem item hi)) hrest)
        (toInt32_notMem_of_nodup hids)

/-- The loop succeeds when every item is importable into the table it starts from: an
earlier item never touches the row of a later one. -/
theorem foldlM_isSome_iff {conn : ItemConnection} {tag : SourceTag} {items : List ItemTemplate}
    (hids : (items.map ItemTemplate.itemId).Nodup) (hzero : ∀ item ∈ items, item.itemId ≠ 0)
    (s : ItemTemplateDb × ItemTemplateImportStats) :
    (items.foldlM (upsertItemTemplate conn tag) s).isSome ↔
      ∀ item ∈ items, Importable conn tag s.1 item := by
  induction items generalizing s with
  | nil => exact iff_of_true rfl nofun
  | cons item items ih =>
      have hitem : (upsertItemTemplate conn tag s item).isSome ↔ Importable conn tag s.1 item :=
        upsertItemTemplate_isSome_iff (hzero item List.mem_cons_self)
      rw [List.foldlM_cons, List.forall_mem_cons, ← hitem]
      cases hfirst : upsertItemTemplate conn tag s item with
      | none => exact iff_of_false Bool.false_ne_true fun h => absurd h.1 Bool.false_ne_true
      | some s₁ =>
          obtain ⟨-, -, row, hrow, hs⟩ :=
            upserts_of_upsertItemTemplate hfirst (hzero item List.mem_cons_self)
          -- the rows of the later items are as they were
          have hsame : ∀ i ∈ items, (Importable conn tag s₁.1 i ↔ Importable conn tag s.1 i) :=
            fun i hi => Importable.congr
              ((hs.imported hrow).kept _ (toInt32_notMem_of_nodup hids i hi))
          refine (ih (List.nodup_cons.mp hids).2
            (fun i hi => hzero i (List.mem_cons_of_mem item hi)) s₁).trans ?_
          exact (forall₂_congr hsame).trans (and_iff_right rfl).symm

/-- The item that a world server has for an id after it has started. -/
def served (db : ItemTemplateDb) (itemId : UInt32) : Option ItemTemplate :=
  (loadCanonicalTableFromDb (some db)).find itemId

/-- The first row of an id in a file. -/
def fileItem (longBits : Nat) (file : Option (List Char)) (itemId : UInt32) :
    Option ItemTemplate :=
  (validRows ((dataLines file).map (parseItemLine longBits))).find? (·.itemId == itemId)

section

variable {longBits : Nat} {file : Option (List Char)}

theorem nodup_templates :
    ((loadLegacyItemTemplatesFromCsv longBits file).templates.map ItemTemplate.itemId).Nodup :=
  nodup_validRows_templates (loads_loadLegacyItemTemplatesFromCsv longBits file)

theorem itemId_ne_zero {item : ItemTemplate}
    (h : item ∈ (loadLegacyItemTemplatesFromCsv longBits file).templates) : item.itemId ≠ 0 := by
  rw [(loads_loadLegacyItemTemplatesFromCsv longBits file).templates] at h
  exact (mem_validRows.mp (mem_of_mem_firsts h)).2

/-- The item of an id in a file is the one that the file loads. -/
theorem fileItem_eq_some_iff {itemId : UInt32} {item : ItemTemplate} :
    fileItem longBits file itemId = some item ↔
      item ∈ (loadLegacyItemTemplatesFromCsv longBits file).templates ∧ item.itemId = itemId := by
  rw [fileItem, ← find?_firsts]
  have hloads := (loads_loadLegacyItemTemplatesFromCsv longBits file).templates
  rw [← find?_eq_some_iff nodup_templates, hloads]
  rfl

/-- After the loop, the rows of the file come first. -/
theorem Imported.served {tag : SourceTag} {s s' : ItemTemplateDb × ItemTemplateImportStats}
    (h : Imported tag s s' (loadLegacyItemTemplatesFromCsv longBits file).templates)
    (itemId : UInt32) :
    served s'.1 itemId = (fileItem longBits file itemId).or (served s.1 itemId) := by
  cases hfile : fileItem longBits file itemId with
  | some item =>
      obtain ⟨hitem, rfl⟩ := fileItem_eq_some_iff.mp hfile
      obtain ⟨hsome, hlookup⟩ := h.put item hitem
      obtain ⟨row, hrow⟩ := Option.isSome_iff_exists.mp hsome
      have hkey : item.itemId.toInt32.toUInt32 = item.itemId := rfl
      obtain ⟨htemplate, hlive⟩ := toTemplate_of_toRow hrow hkey
      exact find_loadCanonicalTableFromDb.mpr
        ⟨itemId_ne_zero hitem, row, hlookup.trans hrow, hlive, htemplate⟩
  | none =>
      have hkey : itemId.toInt32 ∉ (loadLegacyItemTemplatesFromCsv longBits file).templates.map
          fun item => item.itemId.toInt32 := by
        intro hmem
        obtain ⟨item, hitem, heq⟩ := List.mem_map.mp hmem
        have hfound := fileItem_eq_some_iff.mpr ⟨hitem, congrArg Int32.toUInt32 heq⟩
        exact absurd (hfile.symm.trans hfound) nofun
      refine Option.ext fun item => ?_
      rw [Option.none_or, Data.served, Data.served, find_loadCanonicalTableFromDb,
        find_loadCanonicalTableFromDb, h.kept _ hkey]

end

/-! ## The import -/

/-- What an import prints, over a file of so many lines after the first. -/
structure ItemImportReport.Counts (report : ItemImportReport) (tag : SourceTag)
    (db : ItemTemplateDb) (items : List ItemTemplate) (lines : Nat) : Prop where
  inserted : report.inserted = items.countP (isNew db)
  skipped : report.skipped = items.countP (isStored tag db)
  items : report.inserted + report.updated + report.skipped = items.length
  sourceRows : report.sourceRows = lines
  lines : report.inserted + report.updated + report.skipped + report.invalid +
    report.duplicates = lines

/-- A table in which something is found is loaded. -/
theorem loaded_of_find {rows : TemplateRows} {itemId : UInt32} {item : ItemTemplate}
    (h : (publishTemplates rows).find itemId = some item) :
    (publishTemplates rows).loaded = true := by
  obtain ⟨i, -, hi⟩ := Option.bind_eq_some_iff.mp h
  have hne : rows.templates ≠ [] := List.ne_nil_of_mem (List.mem_of_getElem? hi)
  change (!rows.templates.isEmpty) = true
  rw [Bool.not_eq_true', List.isEmpty_eq_false_iff]
  exact hne

/-- A server whose database has items does not look at its file. -/
theorem preloadItemTemplateRepository_of_served {longBits : Nat} {allowLegacyFallback : Bool}
    {db : ItemTemplateDb} {csv : Option (List Char)} {itemId : UInt32} {item : ItemTemplate}
    (h : served db itemId = some item) :
    preloadItemTemplateRepository longBits allowLegacyFallback (some db) csv =
      loadCanonicalTableFromDb (some db) :=
  if_pos (loaded_of_find h)

/-- The counters of the loop are those of the file. -/
theorem Imported.counts {tag : SourceTag} {db : ItemTemplateDb} {load : TemplateRows}
    {rows : List (Option ItemTemplate)} {s : ItemTemplateDb × ItemTemplateImportStats}
    (h : Imported tag (db, { invalid := load.invalidRowCount }) s load.templates)
    (hload : TemplateRows.Loads {} load rows) :
    (itemImportReport load s).Counts tag db load.templates rows.length := by
  have hinserted : s.2.inserted = load.templates.countP (isNew db) :=
    h.inserted.trans (Nat.zero_add _)
  have hskipped : s.2.skipped = load.templates.countP (isStored tag db) :=
    h.skipped.trans (Nat.zero_add _)
  have htotal : s.2.inserted + s.2.updated + s.2.skipped = load.templates.length :=
    h.total.trans (Nat.zero_add _)
  have hinvalid : s.2.invalid = load.invalidRowCount := h.invalid
  have hduplicates := hload.duplicates
  have hrows := hload.invalid
  simp only [List.length_nil, Nat.zero_add] at hduplicates hrows
  refine ⟨hinserted, hskipped, htotal, ?_, ?_⟩
  · simp only [itemImportReport]
    omega
  · simp only [itemImportReport]
    omega

section

variable {longBits : Nat} {conn : ItemConnection} {file : Option (List Char)} {tag : SourceTag}
  {db : ItemTemplateDb} {load : TemplateRows}

/-- The transaction of an import comes to its end. -/
structure Finishes (conn : ItemConnection) (tag : SourceTag) (db : ItemTemplateDb)
    (items : List ItemTemplate) : Prop where
  nonempty : items ≠ []
  connects : conn.throws .connect = false
  begins : conn.throws .beginTransaction = false
  importable : ∀ item ∈ items, Importable conn tag db item
  counts : conn.throws .count = false

/-- The transaction goes through when none of its statements throws. -/
theorem importTransaction_eq_some_iff {s : ItemTemplateDb × ItemTemplateImportStats} :
    importTransaction conn load tag db = some s ↔
      conn.throws .connect = false ∧ conn.throws .beginTransaction = false ∧
      load.templates.foldlM (upsertItemTemplate conn tag)
        (db, { invalid := load.invalidRowCount }) = some s ∧ conn.throws .count = false := by
  unfold importTransaction
  dsimp only
  generalize load.templates.foldlM (upsertItemTemplate conn tag)
    (db, { invalid := load.invalidRowCount }) = loop
  cases conn.throws .connect with
  | true => simp
  | false =>
      cases conn.throws .beginTransaction with
      | true => simp
      | false =>
          cases loop with
          | none => simp
          | some s' => cases conn.throws .count <;> simp

/-- What a transaction does: nothing, or all that its loop does. -/
theorem importTransaction_cases (conn : ItemConnection) (tag : SourceTag) (db : ItemTemplateDb)
    (hload : loadLegacyItemTemplatesFromCsv longBits file = load) (hne : load.templates ≠ []) :
    (¬ Finishes conn tag db load.templates ∧ importTransaction conn load tag db = none) ∨
    (Finishes conn tag db load.templates ∧
      ∃ s, Imported tag (db, { invalid := load.invalidRowCount }) s load.templates ∧
        importTransaction conn load tag db = some s) := by
  have hids : (load.templates.map ItemTemplate.itemId).Nodup := hload ▸ nodup_templates
  have hzero : ∀ item ∈ load.templates, item.itemId ≠ 0 := hload ▸ fun _ => itemId_ne_zero
  have hiff : (load.templates.foldlM (upsertItemTemplate conn tag)
      (db, { invalid := load.invalidRowCount })).isSome ↔
        ∀ item ∈ load.templates, Importable conn tag db item :=
    foldlM_isSome_iff hids hzero _
  cases htransaction : importTransaction conn load tag db with
  | none =>
      refine .inl ⟨fun h => ?_, rfl⟩
      obtain ⟨s, hs⟩ := Option.isSome_iff_exists.mp (hiff.mpr h.importable)
      have hsome := importTransaction_eq_some_iff.mpr ⟨h.connects, h.begins, hs, h.counts⟩
      exact absurd (htransaction.symm.trans hsome) nofun
  | some s =>
      obtain ⟨hconnects, hbegins, hs, hcounts⟩ := importTransaction_eq_some_iff.mp htransaction
      have himportable := hiff.mp (Option.isSome_iff_exists.mpr ⟨s, hs⟩)
      exact .inr ⟨⟨hne, hconnects, hbegins, himportable, hcounts⟩, s,
        imported_foldlM hids hzero hs, rfl⟩

/-- What is left after the transaction is the commit, or the rollback of a dry run. -/
theorem importItemTemplates_of_transaction (dryRun : Bool)
    (hload : loadLegacyItemTemplatesFromCsv longBits file = load) (hne : load.templates ≠ [])
    {s : ItemTemplateDb × ItemTemplateImportStats}
    (h : importTransaction conn load tag db = some s) :
    importItemTemplates longBits conn file tag dryRun db =
      if conn.throws .finish then (if !dryRun && conn.applied then s.1 else db, .error 4)
      else (if dryRun then db else s.1, .ok (itemImportReport load s)) := by
  rw [importItemTemplates, hload, if_neg hne, h]

/-- An import whose transaction does not come to its end changes nothing. -/
theorem importItemTemplates_of_not_finishes (dryRun : Bool)
    (hload : loadLegacyItemTemplatesFromCsv longBits file = load)
    (h : ¬ Finishes conn tag db load.templates) :
    importItemTemplates longBits conn file tag dryRun db =
      (db, .error (if load.templates = [] then 3 else 4)) := by
  rw [importItemTemplates, hload]
  by_cases hempty : load.templates = []
  · rw [if_pos hempty, if_pos hempty]
  · obtain ⟨-, hnone⟩ | ⟨hfinishes, -⟩ := importTransaction_cases conn tag db hload hempty
    · rw [if_neg hempty, if_neg hempty, hnone]
    · exact absurd hfinishes h

/-- An import with items leaves a server something to find. -/
theorem Imported.preload (hload : loadLegacyItemTemplatesFromCsv longBits file = load)
    {s s' : ItemTemplateDb × ItemTemplateImportStats} (hne : load.templates ≠ [])
    (h : Imported tag s s' load.templates) (allowLegacyFallback : Bool)
    (csv : Option (List Char)) :
    preloadItemTemplateRepository longBits allowLegacyFallback (some s'.1) csv =
      loadCanonicalTableFromDb (some s'.1) := by
  subst hload
  obtain ⟨item, hitem⟩ := List.exists_mem_of_ne_nil _ hne
  have hserved := h.served item.itemId
  rw [fileItem_eq_some_iff.mpr ⟨hitem, rfl⟩, Option.some_or] at hserved
  exact preloadItemTemplateRepository_of_served hserved

end

/-- What a world server finds once the items of a file are committed, whatever
its own file is. -/
def Commits (longBits : Nat) (file : Option (List Char)) (db db' : ItemTemplateDb) : Prop :=
  ∀ allowLegacyFallback csv itemId,
    (preloadItemTemplateRepository longBits allowLegacyFallback (some db') csv).find itemId =
      (fileItem longBits file itemId).or (served db itemId)

/-- An import whose ids differ commits every item of the file. -/
theorem Imported.commits {longBits : Nat} {file : Option (List Char)} {tag : SourceTag}
    {load : TemplateRows} (hload : loadLegacyItemTemplatesFromCsv longBits file = load)
    (hne : load.templates ≠ []) {s s' : ItemTemplateDb × ItemTemplateImportStats}
    (h : Imported tag s s' load.templates) : Commits longBits file s.1 s'.1 := by
  intro allowLegacyFallback csv itemId
  have htable := h.preload hload hne allowLegacyFallback csv
  subst hload
  exact (congrArg (·.find itemId) htable).trans (h.served itemId)

/-- A call of the import. -/
structure ItemImport where
  conn : ItemConnection
  file : Option (List Char)
  tag : SourceTag
  dryRun : Bool

/-- The database after one call, and what the call printed. -/
def ItemImport.run (longBits : Nat) (i : ItemImport) (db : ItemTemplateDb) :
    ItemTemplateDb × Except Nat ItemImportReport :=
  importItemTemplates longBits i.conn i.file i.tag i.dryRun db

/-- A call commits: its `COMMIT` does not fail, or has taken effect. -/
def ItemImport.commits (longBits : Nat) (i : ItemImport) (db : ItemTemplateDb) : Bool :=
  let load := loadLegacyItemTemplatesFromCsv longBits i.file
  !i.dryRun && !load.templates.isEmpty &&
    (importTransaction i.conn load i.tag db).isSome && (!i.conn.throws .finish || i.conn.applied)

/-- A call that ends, and is no dry run, commits. -/
theorem ItemImport.commits_of_isOk {longBits : Nat} {i : ItemImport} {db : ItemTemplateDb}
    (h : (i.run longBits db).2.isOk = true) : i.commits longBits db = !i.dryRun := by
  unfold ItemImport.commits
  unfold ItemImport.run at h
  by_cases hfinishes : Finishes i.conn i.tag db
      (loadLegacyItemTemplatesFromCsv longBits i.file).templates
  · obtain ⟨hno, -⟩ | ⟨-, s, -, htransaction⟩ :=
      importTransaction_cases i.conn i.tag db
        (rfl : loadLegacyItemTemplatesFromCsv longBits i.file = _) hfinishes.nonempty
    · exact absurd hfinishes hno
    rw [importItemTemplates_of_transaction i.dryRun rfl hfinishes.nonempty htransaction] at h
    cases hfinish : i.conn.throws .finish with
    | true =>
        rw [hfinish] at h
        cases h
    | false => simp [htransaction, hfinishes.nonempty]
  · rw [importItemTemplates_of_not_finishes i.dryRun rfl hfinishes] at h
    cases h

end GameServer.Data
