import GameServer.Lib.Decimal
import GameServer.Lib.Delimited
import GameServer.Lib.Firsts
import GameServer.Lib.Table
import Mathlib.Data.List.AList

/-!
# GameServer.Data.ItemTemplates

The item templates: a legacy file, a table of the game database, and the table
that a world server keeps in memory.

* `loadLegacyItemTemplatesFromCsv` — the file, read column by column
  (`legacy_item_csv_loader.cpp`);
* `importItemTemplates` — the import of the file into the database
  (`apps/item_template_import/main.cpp`), in one transaction, whose statements
  may fail;
* `loadCanonicalTableFromDb`, `preloadItemTemplateRepository` — the start of a
  world server.
-/

namespace GameServer.Data

/-- `ItemTemplate`. -/
structure ItemTemplate where
  itemId : UInt32 := 0
  equipPart : Int32 := 0
  equipTribe : Int32 := 0
  attack : Int32 := 0
  defense : Int32 := 0
  life : Int32 := 0
  mana : Int32 := 0
  vitality : Int32 := 0
  ki : Int32 := 0
deriving DecidableEq, Repr

/-! ## The rows of a source -/

/-- What a loader has read: the templates, `seen_item_ids`, and the rows that it
left out. -/
structure TemplateRows where
  templates : List ItemTemplate := []
  seenItemIds : List UInt32 := []
  duplicateItemIdCount : Nat := 0
  invalidRowCount : Nat := 0
deriving DecidableEq, Repr

/-- One pass of a loader's loop; `none` is a row that is too short. -/
def TemplateRows.add (out : TemplateRows) : Option ItemTemplate → TemplateRows
  | none => { out with invalidRowCount := out.invalidRowCount + 1 }
  | some row =>
      if row.itemId = 0 then { out with invalidRowCount := out.invalidRowCount + 1 }
      else if row.itemId ∈ out.seenItemIds then
        { out with duplicateItemIdCount := out.duplicateItemIdCount + 1 }
      else
        { out with
          templates := out.templates ++ [row]
          seenItemIds := row.itemId :: out.seenItemIds }

/-! ## The legacy file -/

section

variable (longBits : Nat)

/-- `std::stoul`, where an `unsigned long` has `longBits` bits. -/
def stoul (s : List Char) : Option Nat :=
  let scan := scanInteger s
  if scan.digits = [] ∨ 2 ^ longBits ≤ scan.magnitude then none
  else if scan.negative then some ((2 ^ longBits - scan.magnitude) % 2 ^ longBits)
  else some scan.magnitude

/-- `ParseUInt_`. -/
def parseUInt (value : List Char) : UInt32 :=
  if value = [] then 0
  else
    match stoul longBits value with
    | none => 0
    | some n => UInt32.ofNat n

/-- `SplitTab_`. -/
def splitTab (line : List Char) : List (List Char) := line.splitOn '\t'

/-- A line of the file. -/
def parseItemLine (line : List Char) : Option ItemTemplate :=
  let cols := splitTab line
  let int (i : Nat) : Int32 := (parseUInt longBits (cols.getD i [])).toInt32
  if cols.length < 43 then none
  else
    some
      { itemId := parseUInt longBits (cols.getD 0 [])
        equipTribe := int 7
        equipPart := int 8
        vitality := int 24
        ki := int 25
        attack := int 29
        defense := int 30
        life := int 41
        mana := int 42 }

/-- The lines of a file after the first. -/
def dataLines (file : Option (List Char)) : List (List Char) := (getlines '\n' (file.getD [])).tail

/-- `LoadLegacyItemTemplatesFromCsv`; `loaded` is that there are templates. A
file that is not there has no lines. -/
def loadLegacyItemTemplatesFromCsv (file : Option (List Char)) : TemplateRows :=
  ((dataLines file).map (parseItemLine longBits)).foldl TemplateRows.add {}

end

/-! ## The database -/

/-- What the database reads of a string in a statement after its opening quote,
and the statement after the string: two quotes stand for one. -/
def readLiteral : List Char → Option (List Char × List Char)
  | [] => none
  | '\'' :: '\'' :: text => (readLiteral text).map fun (value, rest) => ('\'' :: value, rest)
  | '\'' :: text => some ([], text)
  | c :: text => (readLiteral text).map fun (value, rest) => (c :: value, rest)

/-- `BuildInsertSql_` and `BuildUpdateSql_` from the tag on, which they put
between quotes as it is; `rest` is `)` or `, [updated_at_utc] = …`. -/
def tagSql (tag rest : List Char) : List Char := tag ++ '\'' :: rest

/-- What an import marks its rows with.  A tag with a quote would not be read as
it is (`readLiteral_tagSql_iff`), and what the rest of the statement then does is
left open. -/
abbrev SourceTag := { tag : List Char // '\'' ∉ tag }

/-- A row of `game.item_template` beside its `item_id`. -/
structure ItemTemplateRow where
  equipPart : Int16
  equipTribe : Int16
  attack : Int32
  defense : Int32
  life : Int32
  mana : Int32
  vitality : Int32
  ki : Int32
  isDeleted : Bool
  sourceTag : { tag : List Char // tag.length ≤ 32 }
deriving DecidableEq, Repr

/-- `game.item_template`, by its primary key. -/
abbrev ItemTemplateDb := AList fun _ : Int32 => ItemTemplateRow

/-- A number that a `SMALLINT` holds. -/
def fitsSmallInt (n : Int32) : Bool := -2 ^ 15 ≤ n.toInt && n.toInt < 2 ^ 15

/-- The row of an item, if its columns hold it; a statement with other values
fails. -/
def ItemTemplate.toRow (item : ItemTemplate) (tag : SourceTag) : Option ItemTemplateRow :=
  if h : tag.val.length ≤ 32 then
    if fitsSmallInt item.equipPart && fitsSmallInt item.equipTribe then
      some
        { equipPart := item.equipPart.toInt16
          equipTribe := item.equipTribe.toInt16
          attack := item.attack
          defense := item.defense
          life := item.life
          mana := item.mana
          vitality := item.vitality
          ki := item.ki
          isDeleted := false
          sourceTag := ⟨tag.val, h⟩ }
    else none
  else none

/-- An item id as the key of a row. -/
def rowKey (itemId : UInt32) : Option Int32 :=
  if itemId.toNat < 2 ^ 31 then some itemId.toInt32 else none

/-- `WHERE [item_id] = ` the id. -/
def selectItemTemplate (db : ItemTemplateDb) (itemId : UInt32) : Option ItemTemplateRow :=
  (rowKey itemId).bind db.lookup

/-- `BuildInsertSql_` and `BuildUpdateSql_`: the row of the item is put. -/
def putItemTemplate (db : ItemTemplateDb) (item : ItemTemplate) (tag : SourceTag) :
    Option ItemTemplateDb := do
  let key ← rowKey item.itemId
  let row ← item.toRow tag
  return db.insert key row

/-- The comparison of the existing row with the item. -/
def ItemTemplateRow.same (row : ItemTemplateRow) (item : ItemTemplate) (tag : SourceTag) : Bool :=
  row.equipPart.toInt32 = item.equipPart && row.equipTribe.toInt32 = item.equipTribe &&
    row.attack = item.attack && row.defense = item.defense && row.life = item.life &&
    row.mana = item.mana && row.vitality = item.vitality && row.ki = item.ki &&
    !row.isDeleted && row.sourceTag.val = tag.val

/-! ## The import -/

/-- `ItemTemplateImportStats`, without the counts of the file. -/
structure ItemTemplateImportStats where
  inserted : Nat := 0
  updated : Nat := 0
  skipped : Nat := 0
  invalid : Nat := 0
deriving DecidableEq, Repr

/-- What an import asks its connection: `BEGIN TRANSACTION`, the `SELECT` of an
item and its `INSERT` or `UPDATE`, the count, and `COMMIT` or `ROLLBACK`. -/
inductive ItemStatement where
  | connect
  | beginTransaction
  | select (itemId : UInt32)
  | put (itemId : UInt32)
  | count
  | finish
deriving DecidableEq, Repr

/-- The connection of an import.  While a result is not read to its end, a `busy`
one refuses a further statement; `throws` says what fails whatever its values are
(the network, a lock, a permission), and `applied` whether a `COMMIT` that fails
has taken effect. -/
structure ItemConnection where
  busy : Bool := false
  throws : ItemStatement → Bool := fun _ => false
  applied : Bool := false

/-- `INSERT` or `UPDATE`, if the connection takes it. -/
def ItemConnection.putItemTemplate (conn : ItemConnection) (db : ItemTemplateDb)
    (item : ItemTemplate) (tag : SourceTag) : Option ItemTemplateDb :=
  if conn.throws (.put item.itemId) then none else Data.putItemTemplate db item tag

/-- `UpsertItemTemplate`; `none` is an exception.  The `SELECT` of an existing row
is still open when the row is updated. -/
def upsertItemTemplate (conn : ItemConnection) (tag : SourceTag)
    (s : ItemTemplateDb × ItemTemplateImportStats) (item : ItemTemplate) :
    Option (ItemTemplateDb × ItemTemplateImportStats) :=
  if item.itemId = 0 then some (s.1, { s.2 with invalid := s.2.invalid + 1 })
  else if conn.throws (.select item.itemId) then none
  else
    match selectItemTemplate s.1 item.itemId with
    | none =>
        (conn.putItemTemplate s.1 item tag).map fun db =>
          (db, { s.2 with inserted := s.2.inserted + 1 })
    | some row =>
        if row.same item tag then some (s.1, { s.2 with skipped := s.2.skipped + 1 })
        else if conn.busy then none
        else
          (conn.putItemTemplate s.1 item tag).map fun db =>
            (db, { s.2 with updated := s.2.updated + 1 })

/-- What the import prints. -/
structure ItemImportReport where
  sourceRows : Nat
  inserted : Nat
  updated : Nat
  skipped : Nat
  invalid : Nat
  duplicates : Nat
  liveRows : Nat
deriving DecidableEq, Repr

/-- `SELECT COUNT(1) … WHERE [is_deleted] = 0`. -/
def liveRowCount (db : ItemTemplateDb) : Nat := db.entries.countP fun e => !e.2.isDeleted

/-- What `main` prints of the rows that it has loaded and of the stats. -/
def itemImportReport (load : TemplateRows) (s : ItemTemplateDb × ItemTemplateImportStats) :
    ItemImportReport where
  sourceRows := load.templates.length + load.invalidRowCount + load.duplicateItemIdCount
  inserted := s.2.inserted
  updated := s.2.updated
  skipped := s.2.skipped
  invalid := s.2.invalid
  duplicates := load.duplicateItemIdCount
  liveRows := liveRowCount s.1

/-- The transaction of `main`, from the connection to the count of the rows. -/
def importTransaction (conn : ItemConnection) (load : TemplateRows) (tag : SourceTag)
    (db : ItemTemplateDb) : Option (ItemTemplateDb × ItemTemplateImportStats) :=
  if conn.throws .connect || conn.throws .beginTransaction then none
  else
    let stats : ItemTemplateImportStats := { invalid := load.invalidRowCount }
    match load.templates.foldlM (upsertItemTemplate conn tag) (db, stats) with
    | none => none
    | some s => if conn.throws .count then none else some s

/-- `main`: the database afterwards, and the exit code or what is printed.  A
transaction that is not committed changes nothing. -/
def importItemTemplates (longBits : Nat) (conn : ItemConnection) (file : Option (List Char))
    (tag : SourceTag) (dryRun : Bool) (db : ItemTemplateDb) :
    ItemTemplateDb × Except Nat ItemImportReport :=
  let load := loadLegacyItemTemplatesFromCsv longBits file
  if load.templates = [] then (db, .error 3)
  else
    match importTransaction conn load tag db with
    | none => (db, .error 4)
    | some s =>
        if conn.throws .finish then (if !dryRun && conn.applied then s.1 else db, .error 4)
        else (if dryRun then db else s.1, .ok (itemImportReport load s))

/-! ## The table in memory -/

/-- `ItemTemplateTable`. -/
structure ItemTemplateTable where
  loaded : Bool := false
  templates : List ItemTemplate := []
  indexByItemId : Table UInt32 Nat := .empty

/-- `ItemTemplateTable::Find`. -/
def ItemTemplateTable.find (t : ItemTemplateTable) (itemId : UInt32) : Option ItemTemplate :=
  (t.indexByItemId itemId).bind fun i => t.templates[i]?

/-- `ItemTemplateTable::Reset`. -/
def ItemTemplateTable.reset (loaded : Bool) (templates : List ItemTemplate) :
    ItemTemplateTable where
  loaded
  templates
  indexByItemId := positions ItemTemplate.itemId templates

/-- `PublishTemplates_`. -/
def publishTemplates (rows : TemplateRows) : ItemTemplateTable :=
  .reset (!rows.templates.isEmpty) rows.templates

/-- A row as a template. -/
def ItemTemplateRow.toTemplate (key : Int32) (row : ItemTemplateRow) : ItemTemplate where
  itemId := key.toUInt32
  equipPart := row.equipPart.toInt32
  equipTribe := row.equipTribe.toInt32
  attack := row.attack
  defense := row.defense
  life := row.life
  mana := row.mana
  vitality := row.vitality
  ki := row.ki

/-- `ORDER BY [item_id] ASC` of the rows that are not deleted. -/
def liveRows (db : ItemTemplateDb) : List (Sigma fun _ : Int32 => ItemTemplateRow) :=
  (db.entries.filter fun e => !e.2.isDeleted).mergeSort fun a b => a.1 ≤ b.1

/-- `LoadCanonicalTableFromDb`; `none` is a query that throws. -/
def loadCanonicalTableFromDb (db : Option ItemTemplateDb) : ItemTemplateTable :=
  match db with
  | none => publishTemplates {}
  | some db =>
      publishTemplates
        (((liveRows db).map fun e => some (e.2.toTemplate e.1)).foldl TemplateRows.add {})

/-- `BootstrapCanonicalTableFromLegacyCsv`. -/
def bootstrapCanonicalTableFromLegacyCsv (longBits : Nat) (file : Option (List Char)) :
    ItemTemplateTable :=
  publishTemplates (loadLegacyItemTemplatesFromCsv longBits file)

/-- `PreloadItemTemplateRepository_` of a world server that has a connection. -/
def preloadItemTemplateRepository (longBits : Nat) (allowLegacyFallback : Bool)
    (db : Option ItemTemplateDb) (file : Option (List Char)) : ItemTemplateTable :=
  let table := loadCanonicalTableFromDb db
  if table.loaded then table
  else if allowLegacyFallback then bootstrapCanonicalTableFromLegacyCsv longBits file
  else table

end GameServer.Data
