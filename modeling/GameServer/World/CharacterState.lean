import GameServer.Lib.Bytes

/-!
# GameServer.World.CharacterState

The state of a character (`services/world/common/character_*.h`) and the
16-byte blob it is persisted as (`demo_char_state.h`).

* `CharacterCoreState` — identity, presentation, combat stats and the hot
  part (resources, position, version);
* `DemoCharState` — the packed record the cache and the database hold: the
  character id, the gold and the version, nothing else;
* `serializeDemo` / `tryDeserializeDemo` — its little-endian image, with the
  round trip (`tryDeserializeDemo_serializeDemo`).
-/

namespace GameServer

/-! ## Data model -/

/-- `CharacterIdentity`. -/
structure CharacterIdentity where
  charId : UInt64 := 0
  accountId : UInt64 := 0
  charName : String := ""
  level : UInt32 := 1
  job : UInt16 := 0
  tribe : UInt16 := 0
deriving DecidableEq, Repr

def CharacterIdentity.valid (i : CharacterIdentity) : Bool := i.charId != 0 && i.accountId != 0

/-- `AppearanceSummary`. -/
structure AppearanceSummary where
  appearanceCode : UInt32 := 0
  gender : UInt8 := 0
  faceStyle : UInt8 := 0
  hairStyle : UInt8 := 0
  hairColor : UInt8 := 0
deriving DecidableEq, Repr

/-- `EquipSummary`. -/
structure EquipSummary where
  weaponTemplateId : UInt32 := 0
  armorTemplateId : UInt32 := 0
  costumeTemplateId : UInt32 := 0
  accessoryTemplateId : UInt32 := 0
deriving DecidableEq, Repr

/-- `CharacterCombatRuntimeStats`; the defaults are
`MakeDefaultCharacterCombatRuntimeStats`. -/
structure CharacterCombatRuntimeStats where
  maxHp : UInt32 := 100
  maxMp : UInt32 := 100
  atk : UInt32 := 20
  defense : UInt32 := 3
deriving DecidableEq, Repr

/-- `CharacterPosition`. -/
structure CharacterPosition where
  mapId : UInt32 := 0
  zoneId : UInt32 := 0
  x : Int32 := 0
  y : Int32 := 0
  z : Int32 := 0
  heading : Int16 := 0
deriving DecidableEq, Repr

/-- `CharacterResourceState`. -/
structure CharacterResourceState where
  currentHp : UInt32 := 100
  maxHp : UInt32 := 100
  currentMp : UInt32 := 100
  maxMp : UInt32 := 100
  gold : UInt32 := 0
deriving DecidableEq, Repr

/-- `CharacterDirtyFlags`: a bit set. -/
abbrev CharacterDirtyFlags := UInt32

namespace CharacterDirtyFlags

def resources : CharacterDirtyFlags := 1

def position : CharacterDirtyFlags := 2

end CharacterDirtyFlags

/-- `CharacterRuntimeHotState`. -/
structure CharacterRuntimeHotState where
  resources : CharacterResourceState := {}
  position : CharacterPosition := {}
  alive : Bool := true
  inWorld : Bool := false
  version : UInt32 := 0
  dirtyFlags : CharacterDirtyFlags := 0
deriving DecidableEq, Repr

/-- `CharacterCoreState`. -/
structure CharacterCoreState where
  identity : CharacterIdentity := {}
  appearance : AppearanceSummary := {}
  equip : EquipSummary := {}
  combatStats : CharacterCombatRuntimeStats := {}
  hot : CharacterRuntimeHotState := {}
deriving DecidableEq, Repr

/-- `MakeDefaultCharacterCoreState`: a fresh character has 1000 gold. -/
def makeDefaultCharacterCoreState (accountId charId : UInt64) : CharacterCoreState :=
  let stats : CharacterCombatRuntimeStats := {}
  { identity := { accountId, charId }
    combatStats := stats
    hot :=
      { resources :=
          { maxHp := stats.maxHp, maxMp := stats.maxMp, currentHp := stats.maxHp,
            currentMp := stats.maxMp, gold := 1000 }
        position := { mapId := 1, zoneId := 1 } } }

/-! ## The persisted blob -/

/-- `DemoCharState`, 16 bytes. -/
structure DemoCharState where
  charId : UInt64 := 0
  gold : UInt32 := 0
  version : UInt32 := 0
deriving DecidableEq, Repr

/-- A serialized character state. -/
abbrev Blob := List UInt8

/-- `FromCharacterCoreState`. -/
def fromCharacterCoreState (s : CharacterCoreState) : DemoCharState :=
  { charId := s.identity.charId, gold := s.hot.resources.gold, version := s.hot.version }

/-- `ToCharacterCoreState`. -/
def toCharacterCoreState (s : DemoCharState) (accountId : UInt64) : CharacterCoreState :=
  let out := makeDefaultCharacterCoreState accountId s.charId
  { out with
    hot := { out.hot with
      resources := { out.hot.resources with gold := s.gold }
      version := s.version } }

/-- `SerializeDemo` of the packed record. -/
def serializeDemo (s : DemoCharState) : Blob :=
  toBytesLE 8 s.charId.toNat ++ toBytesLE 4 s.gold.toNat ++ toBytesLE 4 s.version.toNat

/-- `TryDeserializeDemo` into the packed record. -/
def tryDeserializeDemo (blob : Blob) : Option DemoCharState :=
  if blob.length ≠ 16 then none
  else some
    { charId := UInt64.ofNat (ofBytesLE (blob.take 8))
      gold := UInt32.ofNat (ofBytesLE ((blob.drop 8).take 4))
      version := UInt32.ofNat (ofBytesLE (blob.drop 12)) }

/-- `TryDeserializeDemo` into a core state. -/
def tryDeserializeDemoCore (blob : Blob) (accountId : UInt64) : Option CharacterCoreState :=
  (tryDeserializeDemo blob).map fun raw => toCharacterCoreState raw accountId

@[simp] theorem length_serializeDemo (s : DemoCharState) : (serializeDemo s).length = 16 := by
  simp [serializeDemo]

/-- **Blob round trip**: a serialized record reads back as itself. -/
@[simp] theorem tryDeserializeDemo_serializeDemo (s : DemoCharState) :
    tryDeserializeDemo (serializeDemo s) = some s := by
  have hid : (serializeDemo s).take 8 = toBytesLE 8 s.charId.toNat := by
    simp [serializeDemo, List.append_assoc]
  have hgold : ((serializeDemo s).drop 8).take 4 = toBytesLE 4 s.gold.toNat := by
    simp [serializeDemo, List.append_assoc]
  have hversion : (serializeDemo s).drop 12 = toBytesLE 4 s.version.toNat := by
    simp [serializeDemo, List.append_assoc, List.drop_append]
  have hc := s.charId.toNat_lt
  have hg := s.gold.toNat_lt
  have hv := s.version.toNat_lt
  simp only [tryDeserializeDemo, length_serializeDemo, hid, hgold, hversion, ofBytesLE_toBytesLE]
  rw [Nat.mod_eq_of_lt (by omega), Nat.mod_eq_of_lt (by omega), Nat.mod_eq_of_lt (by omega)]
  simp

end GameServer
