import GameServer.Account.LinkedWorlds
import GameServer.Account.SignIn
import GameServer.Lib.SortedList

/-!
# GameServer.Account.WorldList

The worlds that a client is shown, and the one that it selects.

The list is built from the routes and sorted; a selection looks through the
routes again and takes the first that fits.  Neither of them says for itself
that the routes of a hash table come in no order, or that a world can be
registered by two connections.

* `selectableEntries` — the routes that both look at;
* `WorldListed` — the list shows what can be selected;
* `Owned.worldListed` — it does while the connections own their worlds;
* `listed_run` — and they do in every run of the account server and its world
  servers.
-/

namespace GameServer

open AccountLine (Owned worldSummaryLe worldSummary isWorldSelectable)

namespace AccountLine

variable {s : AccountLine}

/-! ## The order -/

theorem worldSummaryLe_trans (a b c : WorldSummary) (hab : worldSummaryLe a b)
    (hbc : worldSummaryLe b c) : worldSummaryLe a c := by
  simp only [worldSummaryLe] at *
  grind

theorem worldSummaryLe_total (a b : WorldSummary) :
    (worldSummaryLe a b || worldSummaryLe b a) = true := by
  simp only [worldSummaryLe]
  grind

theorem worldId_le_of_worldSummaryLe {a b : WorldSummary} (h : worldSummaryLe a b) :
    a.worldId ≤ b.worldId := by
  simp only [worldSummaryLe] at h
  grind

/-! ## The routes -/

/-- The routes that can be selected. -/
def selectableEntries (s : AccountLine) : List (Sigma fun _ : UInt32 => RegisteredWorldEndpoint) :=
  s.worldsBySid.entries.filter fun e => isWorldSelectable e.2

theorem buildWorldSummaryList_perm (s : AccountLine) :
    s.buildWorldSummaryList.Perm (s.selectableEntries.map fun e => worldSummary e.2) :=
  List.mergeSort_perm _ _

/-- The list holds the selectable worlds, whatever their order. -/
theorem mem_buildWorldSummaryList {w : WorldSummary} :
    w ∈ s.buildWorldSummaryList ↔ ∃ sid e, s.worldsBySid.lookup sid = some e ∧
      isWorldSelectable e = true ∧ worldSummary e = w := by
  rw [s.buildWorldSummaryList_perm.mem_iff, List.mem_map]
  constructor
  · rintro ⟨⟨sid, e⟩, hmem, rfl⟩
    obtain ⟨hentry, hselectable⟩ := List.mem_filter.mp hmem
    exact ⟨sid, e, AList.mem_lookup_iff.mpr hentry, hselectable, rfl⟩
  · rintro ⟨sid, e, he, hselectable, rfl⟩
    exact ⟨⟨sid, e⟩, List.mem_filter.mpr ⟨AList.mem_lookup_iff.mp he, hselectable⟩, rfl⟩

/-- A world is registered by one connection, unless it has no id. -/
theorem Owned.sid_eq {h : List WorldClaim} (ho : Owned (s, h)) {sid sid' : UInt32}
    {e e' : RegisteredWorldEndpoint} (he : s.worldsBySid.lookup sid = some e)
    (he' : s.worldsBySid.lookup sid' = some e') (hzero : e.worldId ≠ 0)
    (hid : e.worldId = e'.worldId) : sid = sid' := by
  have hindex := ho.entry sid e he hzero
  have hindex' := ho.entry sid' e' he' (hid ▸ hzero)
  rw [← hid, hindex] at hindex'
  exact Option.some.inj hindex'

/-- Two worlds of one id have none. -/
theorem Owned.pairwise_worldId {h : List WorldClaim} (ho : Owned (s, h)) :
    s.buildWorldSummaryList.Pairwise fun a b => a.worldId = b.worldId → a.worldId = 0 := by
  have hkeys := List.nodupKeys_iff_pairwise.mp s.worldsBySid.nodupKeys
  have hentries : s.selectableEntries.Pairwise fun a b =>
      (worldSummary a.2).worldId = (worldSummary b.2).worldId →
        (worldSummary a.2).worldId = 0 := by
    refine (hkeys.imp_of_mem fun {a b} ha hb hne hid => ?_).filter _
    by_contra hzero
    exact hne (ho.sid_eq (AList.mem_lookup_iff.mpr ha) (AList.mem_lookup_iff.mpr hb) hzero hid)
  refine (s.buildWorldSummaryList_perm.pairwise_iff fun {a b} hab hid => ?_).mpr
    (List.pairwise_map.mpr hentries)
  exact hid.trans (hab hid.symm)

/-- **World list**: the worlds come in the order of their ids, each of them
once; a world is in the list with the address that a selection finds for it; the
message has room for those with the lowest ids; and the hash table's order does
not show.  A world whose id is not configured has the id 0, for which none of
this holds. -/
structure WorldListed (s : AccountLine) : Prop where
  ascending : s.buildWorldSummaryList.Pairwise fun a b =>
    a.worldId < b.worldId ∨ a.worldId = 0 ∧ b.worldId = 0
  selected : ∀ worldId host port, worldId ≠ 0 →
    (s.tryResolveSelectedWorldRoute worldId = some (host, port) ↔
      ∃ w ∈ s.buildWorldSummaryList, w.worldId = worldId ∧ w.publicHost = host ∧
        w.publicPort = port)
  shown : ∀ w ∈ s.buildWorldSummaryList, w.worldId ≠ 0 →
    (w ∈ s.buildWorldSummaryList.take LoginRuntime.worldListMaxCount ↔
      s.buildWorldSummaryList.countP (fun v => v.worldId < w.worldId) <
        LoginRuntime.worldListMaxCount)
  rehashed : ∀ worldsBySid : AList fun _ : UInt32 => RegisteredWorldEndpoint,
    worldsBySid.entries.Perm s.worldsBySid.entries →
      { s with worldsBySid }.buildWorldSummaryList.filter (·.worldId ≠ 0) =
        s.buildWorldSummaryList.filter (·.worldId ≠ 0)

/-- Sorted by id, so ids that are not zero ascend strictly. -/
theorem Owned.ascending {h : List WorldClaim} (ho : Owned (s, h)) :
    s.buildWorldSummaryList.Pairwise fun a b =>
      a.worldId < b.worldId ∨ a.worldId = 0 ∧ b.worldId = 0 := by
  have hsorted : s.buildWorldSummaryList.Pairwise (worldSummaryLe · ·) :=
    List.pairwise_mergeSort worldSummaryLe_trans worldSummaryLe_total _
  refine (hsorted.and ho.pairwise_worldId).imp fun {a b} hab => ?_
  have hle := worldId_le_of_worldSummaryLe hab.1
  by_cases hid : a.worldId = b.worldId
  · exact .inr ⟨hab.2 hid, hid ▸ hab.2 hid⟩
  · exact .inl (UInt16.lt_of_le_of_ne hle hid)

/-- The world that is selected by its id is the one that is listed with it. -/
theorem Owned.selected {h : List WorldClaim} (ho : Owned (s, h)) {worldId : UInt16}
    (hzero : worldId ≠ 0) (host : String) (port : UInt16) :
    s.tryResolveSelectedWorldRoute worldId = some (host, port) ↔
      ∃ w ∈ s.buildWorldSummaryList, w.worldId = worldId ∧ w.publicHost = host ∧
        w.publicPort = port := by
  constructor
  · intro hselected
    obtain ⟨⟨sid, e⟩, hfind, hpair⟩ := Option.map_eq_some_iff.mp hselected
    obtain ⟨hhost, hport⟩ := Prod.mk.inj hpair
    have hboth := List.find?_some hfind
    obtain ⟨hselectable, hid⟩ := Bool.and_eq_true_iff.mp hboth
    have he : s.worldsBySid.lookup sid = some e :=
      AList.mem_lookup_iff.mpr (List.mem_of_find?_eq_some hfind)
    exact ⟨worldSummary e, mem_buildWorldSummaryList.mpr ⟨sid, e, he, hselectable, rfl⟩,
      eq_of_beq hid, hhost, hport⟩
  · rintro ⟨w, hw, rfl, rfl, rfl⟩
    obtain ⟨sid, e, he, hselectable, rfl⟩ := mem_buildWorldSummaryList.mp hw
    have hsome : (s.worldsBySid.entries.find? fun e' =>
        isWorldSelectable e'.2 && e'.2.worldId == e.worldId).isSome :=
      List.find?_isSome.mpr ⟨⟨sid, e⟩, AList.mem_lookup_iff.mp he, by simp [hselectable]⟩
    obtain ⟨⟨sid', e'⟩, hfind⟩ := Option.isSome_iff_exists.mp hsome
    have hboth := List.find?_some hfind
    obtain ⟨-, hid⟩ := Bool.and_eq_true_iff.mp hboth
    have he' : s.worldsBySid.lookup sid' = some e' :=
      AList.mem_lookup_iff.mpr (List.mem_of_find?_eq_some hfind)
    -- another route of this world would be of the same slot
    obtain rfl := ho.sid_eq he he' hzero (eq_of_beq hid).symm
    obtain rfl := Option.some.inj (he.symm.trans he')
    exact Option.map_eq_some_iff.mpr ⟨⟨sid, e⟩, hfind, rfl⟩

/-- Whether a world is shown depends on how many have a smaller id. -/
theorem Owned.shown {h : List WorldClaim} (ho : Owned (s, h)) {w : WorldSummary}
    (hw : w ∈ s.buildWorldSummaryList) (hzero : w.worldId ≠ 0) (n : Nat) :
    w ∈ s.buildWorldSummaryList.take n ↔
      s.buildWorldSummaryList.countP (fun v => v.worldId < w.worldId) < n := by
  refine mem_take_iff_countP_lt (ho.ascending.imp fun {a b} hab => ⟨?_, ?_⟩) hw
    (decide_eq_false (UInt16.lt_irrefl _)) n
  · rintro rfl
    exact decide_eq_true (hab.resolve_right fun hc => hzero hc.2)
  · rintro rfl
    have hlt := hab.resolve_right fun hc => hzero hc.1
    exact decide_eq_false (UInt16.not_lt.mpr (UInt16.le_of_lt hlt))

/-- The invariant does not read the order of the table. -/
theorem Owned.of_perm {h : List WorldClaim} (ho : Owned (s, h))
    {worldsBySid : AList fun _ : UInt32 => RegisteredWorldEndpoint}
    (hperm : worldsBySid.entries.Perm s.worldsBySid.entries) :
    Owned ({ s with worldsBySid }, h) where
  entry sid e he := ho.entry sid e ((AList.perm_lookup hperm).symm.trans he)
  owner worldId sid hindex := by
    obtain ⟨e, he, hrest⟩ := ho.owner worldId sid hindex
    exact ⟨e, (AList.perm_lookup hperm).trans he, hrest⟩
  no_zero := ho.no_zero

/-- The worlds with an id are listed in one order, however the table is hashed. -/
theorem Owned.rehashed {h : List WorldClaim} (ho : Owned (s, h))
    {worldsBySid : AList fun _ : UInt32 => RegisteredWorldEndpoint}
    (hperm : worldsBySid.entries.Perm s.worldsBySid.entries) :
    { s with worldsBySid }.buildWorldSummaryList.filter (·.worldId ≠ 0) =
      s.buildWorldSummaryList.filter (·.worldId ≠ 0) := by
  have hlists : { s with worldsBySid }.buildWorldSummaryList.Perm s.buildWorldSummaryList := by
    refine (buildWorldSummaryList_perm _).trans (.trans ?_ s.buildWorldSummaryList_perm.symm)
    exact (hperm.filter _).map _
  have hstrict {t : AccountLine} (ht : Owned (t, h)) :
      (t.buildWorldSummaryList.filter (·.worldId ≠ 0)).Pairwise
        fun a b => a.worldId < b.worldId := by
    refine (ht.ascending.filter _).imp_of_mem fun {a b} ha hb hab => ?_
    exact hab.resolve_right fun hc => by simpa [hc.1] using (List.mem_filter.mp ha).2
  refine (hlists.filter _).eq_of_pairwise (fun a b _ _ hab hba => ?_)
    (hstrict (ho.of_perm hperm)) (hstrict ho)
  exact absurd hab (UInt16.not_lt.mpr (UInt16.le_of_lt hba))

theorem Owned.worldListed {h : List WorldClaim} (ho : Owned (s, h)) : WorldListed s where
  ascending := ho.ascending
  selected _ host port hzero := ho.selected hzero host port
  shown _ hw hzero := ho.shown hw hzero _
  rehashed _ hperm := ho.rehashed hperm

end AccountLine

namespace WorldLinks

/-- What the account server lists are worlds that can be selected, and each of
them is an open world server's: it was set up with that name and address, and
was told that it is this world. -/
structure Listed (ids : Nat → WorldIdentity) (cfg : AccountConfig) (s : WorldLinks) : Prop where
  list : AccountLine.WorldListed s.account
  world : ∀ w ∈ s.account.buildWorldSummaryList,
    ∃ (k : Nat) (c : LinkConnection), s.connections[k]? = some c ∧ c.accountOpen = true ∧
      idOf ids cfg c.world = some w.worldId ∧ (s.worlds c.world).worldId = w.worldId ∧
      RouteMessage.hello w.serverName w.publicHost w.publicPort = helloOf (ids c.world)

/-- The agreement of all links gives what the list says of each world. -/
theorem Linked.listed {ids : Nat → WorldIdentity} {cfg : AccountConfig} {s : WorldLinks}
    (h : Linked ids cfg s) : Listed ids cfg s where
  list := h.routes.owned.worldListed
  world w hw := by
    obtain ⟨sid, e, he, hselectable, rfl⟩ := AccountLine.mem_buildWorldSummaryList.mp hw
    obtain ⟨-, k, i, hk, ⟨hid, htexts⟩, hready⟩ := h.routes.route sid e he
    obtain ⟨c, hc, hopen, -, rfl⟩ := exists_open_of_attached hk
    have hacked : Acked ids cfg s c.world :=
      hready (AccountLine.ready_of_isWorldSelectable hselectable)
    exact ⟨k, c, hc, hopen, hid, (Option.some.inj (hid.symm.trans hacked.1)).symm, htexts⟩

/-- **The world list**: in every run of the account server and its world
servers a client is shown the worlds that it can select. -/
theorem listed_run (ids : Nat → WorldIdentity) (cfg : AccountConfig) (es : List Event) :
    Always (step ids cfg)
      (fun s => s.line.stats.sessionOpenCount < 2 ^ 32 - 1 → Listed ids cfg s) {} es :=
  (linked_always ids cfg es).imp fun _ h hroom => (h hroom).listed

end WorldLinks

end GameServer
