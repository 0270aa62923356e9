import GameServer.Lib.Index
import GameServer.World.ZoneRoute
import Mathlib.Data.Int.Basic
import Mathlib.Data.List.Dedup
import Mathlib.Data.List.Destutter
import Mathlib.Data.List.Nodup
import Mathlib.Data.List.Sort
import Mathlib.Data.Set.Function

/-!
# GameServer.Config.ServerTopology

The zone processes of `servers.json` (`server_common/config/server_topology.cpp`).

Each shard of the file runs one process for each of its channels.  The server
id of a process is packed as `logical_id * 10 + channel_id`, and the index from
server ids to processes keeps the last one written.

* `ZoneShard` -- what is read from one element of `zone_servers`
* `loadServerTopology`, `findZoneProcess` -- as the code has them
* `packedServerId_eq_iff` -- which ids collide
* `findsItself_iff` -- when every process is found under its own id
-/

namespace GameServer.Config

/-! ## The file -/

/-- What the getters of the JSON library return for an element of
`zone_servers`; a missing field has its default. -/
structure ZoneShard where
  id : Int32 := 0
  worldId : Int32 := 1
  port : Int32 := 0
  serverName : String := ""
  maps : List UInt32 := []
  channels : List UInt16 := []
deriving DecidableEq, Repr

/-- `ZoneProcessTopologyEntry`. -/
structure ZoneProcessTopologyEntry where
  zoneServerId : UInt32 := 0
  logicalZoneId : UInt16 := 0
  channelId : UInt16 := 0
  worldId : UInt16 := 1
  listenPort : UInt16 := 0
  serverName : String
  maps : List UInt32
deriving DecidableEq, Repr

/-- `ServerTopology`. -/
structure ServerTopology where
  zoneProcesses : List ZoneProcessTopologyEntry := []
  zoneProcessIndexByServerId : Table UInt32 Nat := Table.empty

/-- `ParseMaps_`: sorted, without repetitions. -/
def parseMaps (items : List UInt32) : List UInt32 :=
  (items.insertionSort (· ≤ ·)).destutter (· ≠ ·)

/-- `ParseChannels_`. -/
def parseChannels (items : List UInt16) : List UInt16 :=
  (items.insertionSort (· ≤ ·)).destutter (· ≠ ·)

/-- The channels of a shard; one that names none has channel 1. -/
def ZoneShard.channelIds (shard : ZoneShard) : List UInt16 :=
  let channels := parseChannels shard.channels
  if channels.isEmpty then [1] else channels

/-- The server id of a channel: `logical_id * 10 + channel_id`. -/
def packedServerId (logicalId : Int32) (channelId : UInt16) : UInt32 :=
  (logicalId * 10 + Int32.ofNat channelId.toNat).toUInt32

/-- The name of a process. -/
def processName (shard : ZoneShard) (channelId : UInt16) : String :=
  let name := shard.serverName ++ (if shard.serverName.isEmpty then "" else "-") ++ "ch" ++
    toString channelId.toNat
  if name.isEmpty then "zone-" ++ toString shard.id.toInt ++ "-ch" ++ toString channelId.toNat
  else name

/-- The process of one channel. -/
def ZoneShard.entry (shard : ZoneShard) (channelId : UInt16) : ZoneProcessTopologyEntry where
  zoneServerId := packedServerId shard.id channelId
  logicalZoneId := shard.id.toUInt32.toUInt16
  channelId
  worldId := shard.worldId.toUInt32.toUInt16
  listenPort :=
    let port := shard.port.toUInt32.toUInt16
    if port = 0 then 0 else port + (channelId - 1)
  serverName := processName shard channelId
  maps := parseMaps shard.maps

/-- The process is appended, and the index set to its place. -/
def ServerTopology.add (t : ServerTopology) (e : ZoneProcessTopologyEntry) : ServerTopology where
  zoneProcesses := t.zoneProcesses ++ [e]
  zoneProcessIndexByServerId := t.zoneProcessIndexByServerId.set e.zoneServerId t.zoneProcesses.length

/-- `LoadServerTopology`; `file` has the shards, if it can be opened. -/
def loadServerTopology (file : Option (List ZoneShard)) : Option ServerTopology :=
  file.map fun shards =>
    shards.foldl (fun t shard =>
      shard.channelIds.foldl (fun t channelId => t.add (shard.entry channelId)) t) {}

/-- `FindZoneProcess`: the place of the process and what is there. -/
def ServerTopology.findZoneProcess (t : ServerTopology) (zoneServerId : UInt32) :
    Option (Nat × ZoneProcessTopologyEntry) :=
  match t.zoneProcessIndexByServerId zoneServerId with
  | none => none
  | some i => (t.zoneProcesses[i]?).map fun e => (i, e)

/-- Every process is found under its own server id. -/
def ServerTopology.FindsItself (t : ServerTopology) : Prop :=
  ∀ i e, t.zoneProcesses[i]? = some e → t.findZoneProcess e.zoneServerId = some (i, e)

/-- The pairs of a logical id and a channel that a file configures. -/
def configuredPairs (shards : List ZoneShard) : List (Int32 × UInt16) :=
  shards.flatMap fun shard => shard.channelIds.map fun channelId => (shard.id, channelId)

/-! ## The index and the processes -/

/-- The processes of a file, in the order they are appended. -/
def zoneProcessesOf (shards : List ZoneShard) : List ZoneProcessTopologyEntry :=
  shards.flatMap fun shard => shard.channelIds.map shard.entry

theorem loadServerTopology_some (shards : List ZoneShard) :
    loadServerTopology (some shards) =
      some ((zoneProcessesOf shards).foldl ServerTopology.add {}) := by
  rw [loadServerTopology, Option.map_some, zoneProcessesOf, List.foldl_flatMap]
  simp only [List.foldl_map]

/-- The processes as a table from places. -/
def placed (l : List ZoneProcessTopologyEntry) : Table Nat ZoneProcessTopologyEntry :=
  fun i => l[i]?

/-- The next entry is placed at the end. -/
theorem placed_concat (l : List ZoneProcessTopologyEntry) (e : ZoneProcessTopologyEntry) :
    placed (l ++ [e]) = (placed l).set l.length e := by
  funext i
  rw [Table.set_apply, placed]
  split
  · next hi => rw [hi, List.getElem?_concat_length]
  · next hi =>
    rcases Nat.lt_or_gt_of_ne hi with hlt | hgt
    · exact List.getElem?_append_left hlt
    · rw [placed, List.getElem?_eq_none (by simp; omega), List.getElem?_eq_none (by omega)]

theorem zoneProcesses_foldl_add (l : List ZoneProcessTopologyEntry) (t : ServerTopology) :
    (l.foldl ServerTopology.add t).zoneProcesses = t.zoneProcesses ++ l := by
  induction l generalizing t with
  | nil => exact (List.append_nil _).symm
  | cons e l ih =>
      rw [List.foldl_cons, ih, ServerTopology.add, List.append_assoc, List.singleton_append]

namespace ServerTopology

/-- Every process is found exactly if the index is complete for the places. -/
theorem findsItself_iff_complete (t : ServerTopology) :
    t.FindsItself ↔ Index.Complete (fun i _ => i) (·.zoneServerId) (placed t.zoneProcesses)
      t.zoneProcessIndexByServerId := by
  refine forall₃_congr fun i e he => ?_
  rw [findZoneProcess]
  constructor
  · cases hindex : t.zoneProcessIndexByServerId e.zoneServerId with
    | none => exact fun h => absurd h.symm (Option.some_ne_none _)
    | some j =>
        intro h
        obtain ⟨e', -, heq⟩ := Option.map_eq_some_iff.mp h
        rw [(Prod.mk.inj heq).1]
  · intro h
    rw [h]
    exact congrArg (Option.map _) he

/-- Distinct server ids make the index complete: each process is added under an
unused id. -/
theorem complete_foldl_add {l : List ZoneProcessTopologyEntry}
    (hids : (l.map (·.zoneServerId)).Nodup) :
    Index.Complete (fun i _ => i) (·.zoneServerId) (placed (l.foldl add {}).zoneProcesses)
      (l.foldl add {}).zoneProcessIndexByServerId := by
  induction l using List.reverseRecOn with
  | nil =>
      intro i e he
      simp [placed] at he
  | append_singleton l e ih =>
      rw [List.map_append, List.nodup_append] at hids
      obtain ⟨hl, -, hnew⟩ := hids
      have hplaces := zoneProcesses_foldl_add l {}
      rw [List.nil_append] at hplaces
      rw [List.foldl_append, List.foldl_cons, List.foldl_nil, add, hplaces, placed_concat]
      have hcomplete := ih hl
      rw [hplaces] at hcomplete
      refine hcomplete.set fun i e' he' heq => ?_
      exact hnew _ (List.mem_map_of_mem (List.mem_of_getElem? he')) e.zoneServerId
        List.mem_cons_self heq

/-- A complete index makes the server ids distinct. -/
theorem nodup_of_complete {l : List ZoneProcessTopologyEntry} {index : Table UInt32 Nat}
    (h : Index.Complete (fun i _ => i) (·.zoneServerId) (placed l) index) :
    (l.map (·.zoneServerId)).Nodup := by
  rw [List.Nodup, List.pairwise_map, List.pairwise_iff_getElem]
  intro i j hi hj hij heq
  have hplace : ∀ k (hk : k < l.length), placed l k = some l[k] := fun k hk =>
    List.getElem?_eq_getElem hk
  have hsame : i = j := h.unique id (hplace i hi) (hplace j hj) heq
  exact hij.ne hsame

/-- The processes of a list are all found exactly if their ids differ. -/
theorem findsItself_foldl_add_iff (l : List ZoneProcessTopologyEntry) :
    (l.foldl add {}).FindsItself ↔ (l.map (·.zoneServerId)).Nodup := by
  rw [findsItself_iff_complete]
  refine ⟨fun h => ?_, complete_foldl_add⟩
  have hplaces := zoneProcesses_foldl_add l {}
  rw [List.nil_append] at hplaces
  rw [hplaces] at h
  exact nodup_of_complete h

end ServerTopology

/-! ## The packed ids -/

theorem map_zoneServerId (shards : List ZoneShard) :
    (zoneProcessesOf shards).map (·.zoneServerId) =
      (configuredPairs shards).map fun p => packedServerId p.1 p.2 := by
  simp only [zoneProcessesOf, configuredPairs, List.map_flatMap, List.map_map]
  rfl

/-- Two pairs are packed into one id if `10 * logical_id + channel_id` agree
up to multiples of `2 ^ 32`. -/
theorem packedServerId_eq_iff (p q : Int32 × UInt16) :
    packedServerId p.1 p.2 = packedServerId q.1 q.2 ↔
      (2 ^ 32 : Int) ∣ (10 * p.1.toInt + p.2.toNat) - (10 * q.1.toInt + q.2.toNat) := by
  have htoInt : ∀ r : Int32 × UInt16,
      (r.1 * 10 + Int32.ofNat r.2.toNat).toInt =
        (10 * r.1.toInt + (r.2.toNat : Int)).bmod (2 ^ 32) := by
    intro r
    have hchannel : (Int32.ofNat r.2.toNat).toInt = r.2.toNat := by
      have hlt := r.2.toNat_lt
      rw [Int32.toInt_ofNat', Int.bmod_eq_of_le] <;> simp only [Int32.size] <;> omega
    have hten : (10 : Int32).toInt = 10 := rfl
    rw [Int32.toInt_add, Int32.toInt_mul, Int.bmod_add_bmod, hchannel, hten,
      Int.mul_comm r.1.toInt]
  have hcast : ∀ a b : Int32, a.toUInt32 = b.toUInt32 ↔ a = b := fun a b =>
    ⟨fun h => by cases a; cases b; exact congrArg Int32.ofUInt32 h, congrArg Int32.toUInt32⟩
  rw [packedServerId, packedServerId, hcast, ← Int32.toInt_inj, htoInt p, htoInt q,
    Int.bmod_eq_bmod_iff_bmod_sub_eq_zero, ← Int.dvd_iff_bmod_eq_zero]
  rfl

/-! ## When every process is found -/

/-- No two different pairs of a file agree on `10 * logical_id + channel_id`
up to multiples of `2 ^ 32`. -/
def PairsApart (shards : List ZoneShard) : Prop :=
  ∀ p ∈ configuredPairs shards, ∀ q ∈ configuredPairs shards, p ≠ q →
    ¬(2 ^ 32 : Int) ∣ (10 * p.1.toInt + p.2.toNat) - (10 * q.1.toInt + q.2.toNat)

/-- The packed id tells the pairs of a file apart exactly if they are apart. -/
theorem injOn_packedServerId_iff (shards : List ZoneShard) :
    Set.InjOn (fun p : Int32 × UInt16 => packedServerId p.1 p.2)
        {p | p ∈ configuredPairs shards} ↔ PairsApart shards := by
  refine forall₂_congr fun p _ => forall₂_congr fun q _ => ?_
  rw [← packedServerId_eq_iff]
  exact not_imp_not.symm

/-- Every process of a file with distinct pairs is found under its own id, and
the packed id is injective on the pairs, exactly if the pairs are apart. -/
theorem findsItself_iff {shards : List ZoneShard} {t : ServerTopology}
    (hload : loadServerTopology (some shards) = some t) (hpairs : (configuredPairs shards).Nodup) :
    (t.FindsItself ↔ PairsApart shards) ∧
    (Set.InjOn (fun p : Int32 × UInt16 => packedServerId p.1 p.2)
      {p | p ∈ configuredPairs shards} ↔ PairsApart shards) := by
  refine ⟨?_, injOn_packedServerId_iff shards⟩
  rw [loadServerTopology_some] at hload
  rw [← Option.some.inj hload, ServerTopology.findsItself_foldl_add_iff, map_zoneServerId,
    List.nodup_map_iff_inj_on hpairs, ← injOn_packedServerId_iff]
  exact ⟨fun h p hp q hq => h p hp q hq, fun h p hp q hq => h hp hq⟩

/-- What the zone routes look up in the topology. -/
def ServerTopology.lookup (t : ServerTopology) : GameServer.ServerTopology := fun zoneServerId =>
  (t.findZoneProcess zoneServerId).map fun found =>
    { logicalZoneId := found.2.logicalZoneId, worldId := found.2.worldId
      channelId := found.2.channelId, maps := found.2.maps }

/-- A zone that registers under the id of a process that is found gets the
zone, the world, the channel and the maps of that process. -/
theorem applyTopology_of_findsItself {t : ServerTopology} (h : t.FindsItself) {i : Nat}
    {e : ZoneProcessTopologyEntry} (he : t.zoneProcesses[i]? = some e) {route : ZoneRouteState}
    (hroute : route.serverId = e.zoneServerId) :
    EnterFlow.applyTopology (some t.lookup) route =
      { route with
        zoneId := e.logicalZoneId, worldId := e.worldId, channelId := e.channelId
        servedMapIds := e.maps } := by
  have hfound := h i e he
  simp only [EnterFlow.applyTopology, Option.bind_some, ServerTopology.lookup, hroute, hfound,
    Option.map_some]

/-- The shards of the shipped file. -/
def shippedShards : List ZoneShard :=
  [{ id := 1, port := 5001, serverName := "zone-server-1", maps := [1, 2, 3]
     channels := [1, 2, 3] },
   { id := 2, port := 5011, serverName := "zone-server-2", maps := [4, 5, 6]
     channels := [1, 2, 3] },
   { id := 3, port := 5021, serverName := "zone-server-3", maps := [7, 8, 9]
     channels := [1, 2, 3] }]

/-- Channel 11 of shard 1 and channel 1 of shard 2. -/
def collidingShards : List ZoneShard :=
  [{ id := 1, maps := [1], channels := [11] }, { id := 2, maps := [2], channels := [1] }]

theorem findsItself_iff_shipped :
    (((zoneProcessesOf shippedShards).foldl ServerTopology.add {}).FindsItself ↔
      PairsApart shippedShards) ∧
    (Set.InjOn (fun p : Int32 × UInt16 => packedServerId p.1 p.2)
      {p | p ∈ configuredPairs shippedShards} ↔ PairsApart shippedShards) :=
  findsItself_iff (loadServerTopology_some shippedShards) (by decide)

/-- Both processes have server id 21, and looking up the first finds the
second. -/
theorem colliding_process_finds_other :
    (configuredPairs collidingShards).Nodup ∧
    ∃ t, loadServerTopology (some collidingShards) = some t ∧ ¬t.FindsItself := by
  refine ⟨by decide, _, rfl, fun h => ?_⟩
  have hfirst := h 0 _ rfl
  revert hfirst
  decide

end GameServer.Config
