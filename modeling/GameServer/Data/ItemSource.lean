import GameServer.Data.ItemTemplates

/-!
# GameServer.Data.ItemSource

What a source of item templates gives: the file, and the rows of the database.

* `loads_loadLegacyItemTemplatesFromCsv` — a loader keeps the first row of each
  id, and counts the others;
* `TemplateRows.Loads.find` — the table in memory finds the rows that are kept;
* `readLiteral_tagSql_iff` — the tags that the database reads as they are;
* `same_iff`, `toTemplate_of_toRow` — an item and its row;
* `find_loadCanonicalTableFromDb` — a world server finds the rows that are not
  deleted.
-/

namespace GameServer.Data

/-! ## Sources -/

/-- The rows that have an id. -/
def validRows (rows : List (Option ItemTemplate)) : List ItemTemplate :=
  rows.filterMap fun row => row.filter (·.itemId ≠ 0)

/-- `seen_item_ids` has the ids of the templates. -/
def TemplateRows.Seen (out : TemplateRows) : Prop :=
  ∀ itemId, itemId ∈ out.seenItemIds ↔ itemId ∈ out.templates.map ItemTemplate.itemId

/-- A loader keeps the first row of each id, and counts the others. -/
structure TemplateRows.Loads (out out' : TemplateRows) (rows : List (Option ItemTemplate)) :
    Prop where
  templates : out'.templates = (validRows rows).foldl (addFirst ItemTemplate.itemId) out.templates
  duplicates : out'.duplicateItemIdCount + out'.templates.length =
    out.duplicateItemIdCount + out.templates.length + (validRows rows).length
  invalid : out'.invalidRowCount + (validRows rows).length = out.invalidRowCount + rows.length

/-- Loading rows in two parts is loading them all. -/
theorem TemplateRows.Loads.trans {out out' out'' : TemplateRows}
    {rows rows' : List (Option ItemTemplate)} (h : out.Loads out' rows)
    (h' : out'.Loads out'' rows') : out.Loads out'' (rows ++ rows') := by
  have hvalid : validRows (rows ++ rows') = validRows rows ++ validRows rows' :=
    List.filterMap_append
  refine ⟨?_, ?_, ?_⟩
  · rw [hvalid, List.foldl_append, ← h.templates, h'.templates]
  · rw [h'.duplicates, h.duplicates, hvalid, List.length_append, Nat.add_assoc]
  · have hfirst := h.invalid
    have hsecond := h'.invalid
    rw [hvalid, List.length_append, List.length_append]
    omega

/-- One row. -/
theorem TemplateRows.Seen.add {out : TemplateRows} (h : out.Seen) (row : Option ItemTemplate) :
    (out.add row).Seen ∧ out.Loads (out.add row) [row] := by
  cases row with
  | none => exact ⟨h, rfl, rfl, rfl⟩
  | some item =>
      by_cases hzero : item.itemId = 0
      · have hadd : out.add (some item) =
            { out with invalidRowCount := out.invalidRowCount + 1 } := by
          simp [TemplateRows.add, hzero]
        have hvalid : validRows [some item] = [] := by
          simp [validRows, Option.filter_some, hzero]
        rw [hadd]
        exact ⟨h, by rw [hvalid]; rfl, by rw [hvalid]; rfl, by rw [hvalid]; rfl⟩
      · have hvalid : validRows [some item] = [item] := by
          simp [validRows, Option.filter_some, hzero]
        by_cases hdup : item.itemId ∈ out.seenItemIds
        · have hadd : out.add (some item) =
              { out with duplicateItemIdCount := out.duplicateItemIdCount + 1 } := by
            simp [TemplateRows.add, hzero, hdup]
          rw [hadd]
          refine ⟨h, ?_, ?_, by rw [hvalid]; rfl⟩
          · rw [hvalid, List.foldl_cons, addFirst, if_pos ((h _).mp hdup)]
            rfl
          · rw [hvalid, Nat.add_right_comm]
            rfl
        · have hadd : out.add (some item) =
              { out with
                templates := out.templates ++ [item]
                seenItemIds := item.itemId :: out.seenItemIds } := by
            simp [TemplateRows.add, hzero, hdup]
          rw [hadd]
          refine ⟨fun itemId => ?_, ?_, ?_, by rw [hvalid]; rfl⟩
          · rw [List.mem_cons, h, List.map_append, List.mem_append, or_comm]
            exact or_congr_right List.mem_singleton.symm
          · rw [hvalid, List.foldl_cons, addFirst, if_neg (mt (h _).mpr hdup)]
            rfl
          · rw [hvalid, List.length_append]
            rfl

theorem TemplateRows.Seen.foldl_add {out : TemplateRows} (h : out.Seen)
    (rows : List (Option ItemTemplate)) : out.Loads (rows.foldl TemplateRows.add out) rows := by
  induction rows generalizing out with
  | nil => exact ⟨rfl, rfl, rfl⟩
  | cons row rows ih => exact (h.add row).2.trans (ih (h.add row).1)

/-- The file. -/
theorem loads_loadLegacyItemTemplatesFromCsv (longBits : Nat) (file : Option (List Char)) :
    TemplateRows.Loads {} (loadLegacyItemTemplatesFromCsv longBits file)
      ((dataLines file).map (parseItemLine longBits)) :=
  TemplateRows.Seen.foldl_add (fun _ => Iff.rfl) _

/-! ## The table in memory -/

theorem nodup_validRows_templates {out : TemplateRows} {rows : List (Option ItemTemplate)}
    (h : TemplateRows.Loads {} out rows) : (out.templates.map ItemTemplate.itemId).Nodup := by
  rw [h.templates]
  exact nodup_firsts _

/-- A world server finds the first row of each id. -/
theorem TemplateRows.Loads.find {out : TemplateRows} {rows : List (Option ItemTemplate)}
    (h : TemplateRows.Loads {} out rows) (itemId : UInt32) :
    (publishTemplates out).find itemId = (validRows rows).find? (·.itemId == itemId) := by
  refine (positions_bind_getElem? (nodup_validRows_templates h) itemId).trans ?_
  rw [h.templates]
  exact find?_firsts _ itemId

/-- A valid row has an item with an id. -/
theorem mem_validRows {rows : List (Option ItemTemplate)} {item : ItemTemplate} :
    item ∈ validRows rows ↔ some item ∈ rows ∧ item.itemId ≠ 0 := by
  simp only [validRows, List.mem_filterMap, Option.filter_eq_some_iff, decide_eq_true_eq]
  constructor
  · rintro ⟨row, hrow, rfl, hid⟩
    exact ⟨hrow, hid⟩
  · rintro ⟨hrow, hid⟩
    exact ⟨some item, hrow, rfl, hid⟩

/-! ## Rows -/

/-- A string takes a character for each of its own, one more for each quote, and
the last quote. -/
theorem length_readLiteral {text value rest : List Char}
    (h : readLiteral text = some (value, rest)) :
    text.length = value.length + value.count '\'' + 1 + rest.length := by
  fun_induction readLiteral text generalizing value with
  | case1 => cases h
  | case2 text ih =>
      obtain ⟨⟨value', rest'⟩, hread, heq⟩ := Option.map_eq_some_iff.mp h
      cases heq
      have hlength := ih hread
      simp only [List.length_cons, List.count_cons_self]
      omega
  | case3 text hnext =>
      cases h
      simp [Nat.add_comm]
  | case4 c text hquote hnext ih =>
      obtain ⟨⟨value', rest'⟩, hread, heq⟩ := Option.map_eq_some_iff.mp h
      cases heq
      have hlength := ih hread
      have hc : c ≠ '\'' := hnext
      simp only [List.length_cons, List.count_cons_of_ne hc]
      omega

theorem readLiteral_cons {c : Char} (hc : c ≠ '\'') (text : List Char) :
    readLiteral (c :: text) = (readLiteral text).map fun (value, rest) => (c :: value, rest) := by
  rw [readLiteral]
  · exact fun _ heq _ => hc heq
  · exact fun heq => hc heq

theorem readLiteral_quote {rest : List Char} (hrest : rest.head? ≠ some '\'') :
    readLiteral ('\'' :: rest) = some ([], rest) := by
  rw [readLiteral]
  rintro text rfl
  exact hrest rfl

/-- The database reads a tag as it is exactly if the tag has no quote. -/
theorem readLiteral_tagSql_iff {tag rest : List Char} (hrest : rest.head? ≠ some '\'') :
    readLiteral (tagSql tag rest) = some (tag, rest) ↔ '\'' ∉ tag := by
  constructor
  · intro h
    have hlength := length_readLiteral h
    rw [tagSql, List.length_append, List.length_cons] at hlength
    exact List.count_eq_zero.mp (by omega)
  · intro h
    induction tag with
    | nil => exact readLiteral_quote hrest
    | cons c tag ih =>
        rw [List.mem_cons, not_or] at h
        rw [tagSql, List.cons_append, readLiteral_cons (Ne.symm h.1), ← tagSql, ih h.2]
        rfl

/-- A tag with a quote ends early: `it's` is read as `it`. -/
example : readLiteral (tagSql "it's".toList [')']) = some ("it".toList, "s')".toList) := by
  decide

theorem toInt32_toInt16 {n : Int32} (h : fitsSmallInt n = true) : n.toInt16.toInt32 = n := by
  simp only [fitsSmallInt, Bool.and_eq_true, decide_eq_true_eq] at h
  refine Int32.toInt_inj.mp ?_
  rw [Int16.toInt_toInt32, Int32.toInt_toInt16]
  exact Int.bmod_eq_of_le (by omega) (by omega)

theorem fitsSmallInt_toInt32 (n : Int16) : fitsSmallInt n.toInt32 = true := by
  have hlow := n.le_toInt
  have hhigh := n.toInt_lt
  simp only [fitsSmallInt, Int16.toInt_toInt32, Bool.and_eq_true, decide_eq_true_eq]
  exact ⟨hlow, hhigh⟩

/-- The comparison is with the row that an import would put. -/
theorem same_iff {row : ItemTemplateRow} {item : ItemTemplate} {tag : SourceTag} :
    row.same item tag = true ↔ item.toRow tag = some row := by
  simp only [ItemTemplateRow.same, Bool.and_eq_true, decide_eq_true_eq, Bool.not_eq_true']
  constructor
  · rintro ⟨⟨⟨⟨⟨⟨⟨⟨⟨hpart, htribe⟩, hattack⟩, hdefense⟩, hlife⟩, hmana⟩, hvitality⟩, hki⟩,
      hdeleted⟩, htag⟩
    have hlength : tag.val.length ≤ 32 := htag ▸ row.sourceTag.property
    have hfits : (fitsSmallInt item.equipPart && fitsSmallInt item.equipTribe) = true := by
      rw [← hpart, ← htribe, fitsSmallInt_toInt32, fitsSmallInt_toInt32]
      rfl
    rw [ItemTemplate.toRow, dif_pos hlength, if_pos hfits]
    obtain ⟨equipPart, equipTribe, attack, defense, life, mana, vitality, ki, isDeleted,
      sourceTag⟩ := row
    rw [Option.some_inj, ItemTemplateRow.mk.injEq]
    exact ⟨by rw [← hpart, Int16.toInt16_toInt32], by rw [← htribe, Int16.toInt16_toInt32],
      hattack.symm, hdefense.symm, hlife.symm, hmana.symm, hvitality.symm, hki.symm,
      hdeleted.symm, Subtype.ext htag.symm⟩
  · intro hrow
    rw [ItemTemplate.toRow] at hrow
    split at hrow
    next hlength =>
      split at hrow
      next hfits =>
        obtain ⟨hpart, htribe⟩ := Bool.and_eq_true_iff.mp hfits
        obtain rfl := Option.some.inj hrow
        simp [toInt32_toInt16 hpart, toInt32_toInt16 htribe]
      next => cases hrow
    next => cases hrow

/-- A row that an import put is the item again. -/
theorem toTemplate_of_toRow {row : ItemTemplateRow} {item : ItemTemplate} {tag : SourceTag}
    (h : item.toRow tag = some row) {key : Int32} (hkey : key.toUInt32 = item.itemId) :
    row.toTemplate key = item ∧ row.isDeleted = false := by
  have hsame := same_iff.mpr h
  simp only [ItemTemplateRow.same, Bool.and_eq_true, decide_eq_true_eq,
    Bool.not_eq_true'] at hsame
  cases item
  simp_all [ItemTemplateRow.toTemplate]

/-! ## The start of a world server -/

theorem mem_liveRows {db : ItemTemplateDb} {key : Int32} {row : ItemTemplateRow} :
    ⟨key, row⟩ ∈ liveRows db ↔ db.lookup key = some row ∧ row.isDeleted = false := by
  rw [liveRows, (List.mergeSort_perm _ _).mem_iff, List.mem_filter, Bool.not_eq_true',
    ← AList.mem_lookup_iff]
  rfl

/-- What `LoadCanonicalTableFromDb` fetches. -/
def fetchedRows (db : ItemTemplateDb) : List (Option ItemTemplate) :=
  (liveRows db).map fun e => some (e.2.toTemplate e.1)

/-- What is fetched is stored, not deleted, and read back from its row. -/
theorem mem_fetchedRows {db : ItemTemplateDb} {item : ItemTemplate} :
    some item ∈ fetchedRows db ↔ ∃ row, db.lookup item.itemId.toInt32 = some row ∧
      row.isDeleted = false ∧ row.toTemplate item.itemId.toInt32 = item := by
  rw [fetchedRows, List.mem_map]
  constructor
  · rintro ⟨⟨key, row⟩, hmem, heq⟩
    obtain ⟨hlookup, hlive⟩ := mem_liveRows.mp hmem
    obtain rfl := Option.some.inj heq
    exact ⟨row, hlookup, hlive, rfl⟩
  · rintro ⟨row, hlookup, hlive, heq⟩
    exact ⟨⟨item.itemId.toInt32, row⟩, mem_liveRows.mpr ⟨hlookup, hlive⟩, congrArg some heq⟩

/-- The primary key leaves no duplicates. -/
theorem nodup_validRows_fetchedRows (db : ItemTemplateDb) :
    ((validRows (fetchedRows db)).map ItemTemplate.itemId).Nodup := by
  have hkeys : (db.entries.map Sigma.fst).Nodup := db.nodupKeys
  have hlive : ((liveRows db).map Sigma.fst).Nodup :=
    (((List.mergeSort_perm _ _).map _).nodup_iff).mpr (nodup_map_filter hkeys)
  have hids : ((liveRows db).map fun e => (e.2.toTemplate e.1).itemId).Nodup := by
    rw [show (fun e : Sigma fun _ : Int32 => ItemTemplateRow => (e.2.toTemplate e.1).itemId) =
      Int32.toUInt32 ∘ Sigma.fst from rfl, ← List.map_map]
    exact hlive.map fun a b hab => congrArg UInt32.toInt32 hab
  have hvalid : (validRows (fetchedRows db)).map ItemTemplate.itemId =
      ((liveRows db).map fun e => (e.2.toTemplate e.1).itemId).filter (· ≠ 0) := by
    rw [validRows, fetchedRows, List.filterMap_map, List.map_filterMap, List.filter_map,
      ← List.filterMap_eq_map, List.filterMap_filter]
    refine List.filterMap_congr fun e _ => ?_
    by_cases hzero : (e.2.toTemplate e.1).itemId = 0 <;> simp [Option.filter_some, hzero]
  rw [hvalid]
  exact hids.filter _

/-- A world server finds the rows that are not deleted. -/
theorem find_loadCanonicalTableFromDb {db : ItemTemplateDb} {itemId : UInt32}
    {item : ItemTemplate} :
    (loadCanonicalTableFromDb (some db)).find itemId = some item ↔
      itemId ≠ 0 ∧ ∃ row, db.lookup itemId.toInt32 = some row ∧ row.isDeleted = false ∧
        row.toTemplate itemId.toInt32 = item := by
  have hloads : TemplateRows.Loads {} ((fetchedRows db).foldl TemplateRows.add {})
      (fetchedRows db) := TemplateRows.Seen.foldl_add (fun _ => Iff.rfl) _
  refine (Eq.congr_left (hloads.find itemId)).trans ?_
  rw [find?_eq_some_iff (nodup_validRows_fetchedRows db), mem_validRows, mem_fetchedRows]
  constructor
  · rintro ⟨⟨hrow, hzero⟩, rfl⟩
    exact ⟨hzero, hrow⟩
  · rintro ⟨hzero, row, hlookup, hlive, rfl⟩
    exact ⟨⟨⟨row, hlookup, hlive, rfl⟩, hzero⟩, rfl⟩

end GameServer.Data
