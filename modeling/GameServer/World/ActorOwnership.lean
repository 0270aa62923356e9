import GameServer.Lib.Bytes
import GameServer.World.SessionKey

/-!
# GameServer.World.ActorOwnership

Which shard runs a client packet, and which actors its handler uses.

The I/O thread chooses an actor from the bytes of the packet and from the
character bound to the session, and the packet is handled on the shard of
that actor; the handler parses the packet again and asks again who is bound.
An actor of another shard is not found: `get_or_create_local` gives out a
shared dummy.

* `resolveActorIdForPacket` — the routing;
* `dataAnalysis` — the actors each handler uses, and on whose shard;
* `allLocal_iff` — no dummy is given out precisely if the packet is
  `WellRouted`.
-/

namespace GameServer

/-! ## The actor system -/

/-- `kZoneTag`. -/
def zoneTag : UInt64 := 0x8000000000000000

/-- `MakeZoneActorId`. -/
def makeZoneActorId (zoneId : UInt32) : UInt64 := zoneTag ||| zoneId.toUInt64

/-- The shards that `start` makes. -/
def shardCount (threadCount : UInt32) : Nat := max 1 threadCount.toNat

/-- `pick_shard_`. -/
def pickShard (shards : Nat) (id : UInt64) : Nat :=
  let n := if shards = 0 then 1 else shards
  (id ^^^ (id >>> 33) ^^^ (id <<< 11)).toNat % n

/-- What `get_or_create_local` gives out. -/
inductive LocalActor where
  | dummy
  | actor (id : UInt64)
deriving DecidableEq, Repr

/-- `get_or_create_local`, on the thread of shard `cur`. -/
def getOrCreateLocal (shards cur : Nat) (id : UInt64) : LocalActor :=
  if shards = 0 then .dummy
  else if cur ≠ pickShard shards id then .dummy
  else .actor id

/-- Two actors live on one shard. -/
def SameShard (shards : Nat) (a b : UInt64) : Prop := pickShard shards a = pickShard shards b

instance instDecidableSameShard {shards : Nat} {a b : UInt64} : Decidable (SameShard shards a b) :=
  inferInstanceAs (Decidable (_ = _))

/-- A use of an actor, in code that runs on the shard of another. -/
structure ActorAccess where
  on : UInt64
  actor : UInt64
deriving DecidableEq, Repr

namespace ActorAccess

/-- A posted task uses the actor it was posted to. -/
def ofPosted (id : UInt64) : ActorAccess := ⟨id, id⟩

/-- The use finds its actor. -/
def IsLocal (shards : Nat) (use : ActorAccess) : Prop :=
  getOrCreateLocal shards (pickShard shards use.on) use.actor = .actor use.actor

end ActorAccess

/-! ## Packets -/

/-- The packets of `DataAnalysis`. -/
inductive ClientMsg where
  | enterWorldWithToken
  | logoutWorld
  | reconnectWorld
  | openWorldNotice
  | addGold
  | getStats
  | healSelf
  | move
  | benchMove
  | benchReset
  | benchMeasure
  | spawnMonster
  | attackMonster
  | attackPlayer
  | actorSeqTest
  | actorForward
  | unknown
deriving DecidableEq, Repr

/-- A received packet. -/
structure RawPacket where
  msg : ClientMsg
  body : List UInt8
deriving DecidableEq, Repr

/-- `proto::as<T>(body, len)` and the `u64` at an offset of it. -/
def asU64 (size offset : Nat) (body : List UInt8) : Option UInt64 :=
  if body.length < size then none
  else some (UInt64.ofNat (ofBytesLE ((body.drop offset).take 8)))

/-- The protobuf messages: whether a body parses, and the fields that choose
an actor. A build without protobuf parses none. -/
structure ClientCodec where
  parses : ClientMsg → List UInt8 → Bool := fun _ _ => false
  attackTargetCharId : List UInt8 → UInt64 := fun _ => 0
  reconnectCharId : List UInt8 → UInt64 := fun _ => 0

/-- The sizes of the packed legacy structs. -/
def legacySize : ClientMsg → Nat
  | .addGold | .healSelf | .spawnMonster => 4
  | .move | .attackMonster | .attackPlayer => 8
  | .actorForward => 16
  | .benchMove => 24
  | .reconnectWorld => 81
  | _ => 0

namespace RawPacket

variable (codec : ClientCodec) (p : RawPacket)

/-- The handler does not reject the body: it parses, or it holds the legacy
struct. -/
def accepted : Bool := codec.parses p.msg p.body || legacySize p.msg ≤ p.body.length

/-- The `target_char_id` that `HandleWorldAttackPlayer` reads. -/
def attackTarget : Option UInt64 :=
  if codec.parses .attackPlayer p.body then some (codec.attackTargetCharId p.body)
  else asU64 (legacySize .attackPlayer) 0 p.body

/-- The `char_id` that `HandleReconnectWorld` reads. -/
def reconnectTarget : Option UInt64 :=
  if codec.parses .reconnectWorld p.body then some (codec.reconnectCharId p.body)
  else asU64 (legacySize .reconnectWorld) 8 p.body

/-- `ResolveActorIdForPacket`: it reads the legacy structs only. -/
def resolveActorIdForPacket (sid : UInt32) (defaultActor : UInt64) : UInt64 :=
  match p.msg with
  | .actorForward =>
      match asU64 (legacySize .actorForward) 0 p.body with
      | some target => if target ≠ 0 then target else defaultActor
      | none => defaultActor
  | .attackPlayer =>
      match asU64 (legacySize .attackPlayer) 0 p.body with
      | some target => if target ≠ 0 then target else defaultActor
      | none => defaultActor
  | .benchMove => if defaultActor = 0 then sid.toUInt64 else defaultActor
  | _ => defaultActor

end RawPacket

/-! ## Handlers -/

/-- What a move comes to: nothing is posted, the transfer is completed, the
portal is within the map, or the zone is told, with so many flushes of
its sends. -/
inductive MoveReach where
  | ignored
  | transferred (sourceZoneId assignedZoneId : UInt16)
  | portalMoved
  | walked (flushes : Nat)
deriving DecidableEq, Repr

/-- What a handler learns from the rest of the process. -/
structure HandlerAnswers where
  serial : UInt32 := 1
  zoneId : UInt32 := 1
  safeRegion : Bool := false
  killed : Bool := false
  reconnected : Bool := false
  move : MoveReach := .ignored
deriving DecidableEq, Repr

/-- A handler runs on the shard of `key`; `bound` is the character bound to
the session by then, 0 for none. -/
structure HandlerContext where
  sid : UInt32
  key : UInt64
  bound : UInt64

namespace HandlerContext

variable (ctx : HandlerContext) (ans : HandlerAnswers)

/-- The actor of the bound character, in the handler itself. -/
def useBound : ActorAccess := ⟨ctx.key, ctx.bound⟩

/-- `HandleWorldAddGold`. -/
def handleWorldAddGold : List ActorAccess := if ctx.bound = 0 then [] else [ctx.useBound]

/-- `HandleWorldGetStats`. -/
def handleWorldGetStats : List ActorAccess := if ctx.bound = 0 then [] else [ctx.useBound]

/-- `HandleWorldHealSelf`, which ends as `HandleWorldGetStats`. -/
def handleWorldHealSelf : List ActorAccess :=
  if ctx.bound = 0 then [] else ctx.useBound :: ctx.handleWorldGetStats

/-- The tasks of a move: those of `CompletePortalTransfer_`, or those of the
zone. -/
def moveTasks : List ActorAccess :=
  match ans.move with
  | .ignored => []
  | .transferred sourceZoneId assignedZoneId =>
      [.ofPosted ctx.bound, .ofPosted (makeZoneActorId sourceZoneId.toUInt32),
        .ofPosted (makeZoneActorId assignedZoneId.toUInt32)]
  | .portalMoved => [.ofPosted (makeZoneActorId ans.zoneId)]
  | .walked flushes => List.replicate (flushes + 1) (.ofPosted (makeZoneActorId ans.zoneId))

/-- `HandleWorldMove`. -/
def handleWorldMove : List ActorAccess :=
  if ctx.bound = 0 then []
  else ctx.useBound :: if ans.serial = 0 then [] else ctx.moveTasks ans

/-- The character of a bench move: one made up from the session if none is
bound. -/
def benchCharId : UInt64 := if ctx.bound = 0 then zoneTag ||| ctx.sid.toUInt64 else ctx.bound

/-- `HandleWorldBenchMove`. -/
def handleWorldBenchMove : List ActorAccess :=
  ⟨ctx.key, ctx.benchCharId⟩ ::
    if ans.serial = 0 then [] else [.ofPosted (makeZoneActorId ans.zoneId)]

/-- `HandleWorldSpawnMonster`. -/
def handleWorldSpawnMonster : List ActorAccess :=
  if ctx.bound = 0 then []
  else
    ctx.useBound ::
      if ans.safeRegion ∨ ans.serial = 0 then [] else [.ofPosted (makeZoneActorId ans.zoneId)]

/-- `HandleWorldAttackMonster`: the loot of a killed monster goes back to the
attacker. -/
def handleWorldAttackMonster : List ActorAccess :=
  if ctx.bound = 0 then []
  else
    ctx.useBound ::
      if ans.safeRegion ∨ isValidSessionKey ctx.sid ans.serial = false then []
      else
        .ofPosted (makeZoneActorId ans.zoneId) :: if ans.killed then [.ofPosted ctx.bound] else []

/-- `HandleWorldAttackPlayer`: the attacker and the target. -/
def handleWorldAttackPlayer (targetCharId : UInt64) : List ActorAccess :=
  if ctx.bound = 0 then []
  else ctx.useBound :: if ans.safeRegion then [] else [⟨ctx.key, targetCharId⟩]

/-- `HandleReconnectWorld`: the actor is bound in `TryReconnectWorldSession`
and read for the answer, and the zone is told. -/
def handleReconnectWorld (charId : UInt64) : List ActorAccess :=
  if ans.serial = 0 ∨ ans.reconnected = false then []
  else
    [⟨ctx.key, charId⟩, ⟨ctx.key, charId⟩,
      .ofPosted (makeZoneActorId ans.zoneId.toUInt16.toUInt32)]

/-- `DataAnalysis`: the actors that are used. -/
def dataAnalysis (codec : ClientCodec) (p : RawPacket) : List ActorAccess :=
  match p.msg with
  | .reconnectWorld => (p.reconnectTarget codec).elim [] (ctx.handleReconnectWorld ans)
  | .addGold => if p.accepted codec then ctx.handleWorldAddGold else []
  | .getStats => ctx.handleWorldGetStats
  | .healSelf => if p.accepted codec then ctx.handleWorldHealSelf else []
  | .move => if p.accepted codec then ctx.handleWorldMove ans else []
  | .benchMove => if legacySize .benchMove ≤ p.body.length then ctx.handleWorldBenchMove ans else []
  | .spawnMonster => if p.accepted codec then ctx.handleWorldSpawnMonster ans else []
  | .attackMonster => if p.accepted codec then ctx.handleWorldAttackMonster ans else []
  | .attackPlayer => (p.attackTarget codec).elim [] (ctx.handleWorldAttackPlayer ans)
  | .enterWorldWithToken | .logoutWorld | .openWorldNotice | .benchReset | .benchMeasure
  | .actorSeqTest | .actorForward | .unknown => []

end HandlerContext

/-- A packet of a session, from dispatch to handling: the character bound at
either time, 0 for none. -/
structure Dispatch where
  threadCount : UInt32
  codec : ClientCodec
  sid : UInt32
  packet : RawPacket
  boundAtDispatch : UInt64
  boundAtHandling : UInt64
  answers : HandlerAnswers

namespace Dispatch

variable (d : Dispatch)

/-- The shards there are. -/
def shards : Nat := shardCount d.threadCount

/-- The actor the packet is posted to. -/
def key : UInt64 := d.packet.resolveActorIdForPacket d.sid d.boundAtDispatch

/-- The actors that are used until the last task of the packet is done. -/
def accesses : List ActorAccess :=
  HandlerContext.dataAnalysis ⟨d.sid, d.key, d.boundAtHandling⟩ d.answers d.codec d.packet

/-- **Actor ownership**: no use of an actor is given the dummy. -/
def AllLocal : Prop := ∀ use ∈ d.accesses, use.IsLocal d.shards

/-! ## When the packet is handled where it should be -/

/-- A packet about the sender's own character. -/
def aboutSelf : ClientMsg → Bool
  | .addGold | .getStats | .healSelf | .move | .spawnMonster | .attackMonster => true
  | _ => false

/-- The shard that was chosen at dispatch has the actors that are needed at
handling. -/
structure WellRouted : Prop where
  /-- The character is the one of the dispatch, or one that shares its shard. -/
  self : aboutSelf d.packet.msg = true → d.packet.accepted d.codec = true →
    d.boundAtHandling ≠ 0 → SameShard d.shards d.boundAtDispatch d.boundAtHandling
  /-- The session had the shard of the character before it was bound. -/
  reconnect : ∀ charId ∈ d.packet.reconnectTarget d.codec, d.packet.msg = .reconnectWorld →
    d.answers.serial ≠ 0 → d.answers.reconnected = true →
    SameShard d.shards d.boundAtDispatch charId
  /-- The session number and the made-up character, where none is bound. -/
  bench : d.packet.msg = .benchMove → legacySize .benchMove ≤ d.packet.body.length →
    SameShard d.shards
      (if d.boundAtDispatch = 0 then d.sid.toUInt64 else d.boundAtDispatch)
      (if d.boundAtHandling = 0 then zoneTag ||| d.sid.toUInt64 else d.boundAtHandling)
  /-- The attacker is on the shard that the legacy target, or else the sender,
  has. -/
  attacker : (d.packet.attackTarget d.codec).isSome = true → d.packet.msg = .attackPlayer →
    d.boundAtHandling ≠ 0 → SameShard d.shards d.key d.boundAtHandling
  /-- And so is the target that is parsed, outside safe regions. -/
  target : ∀ target ∈ d.packet.attackTarget d.codec, d.packet.msg = .attackPlayer →
    d.boundAtHandling ≠ 0 → d.answers.safeRegion = false → SameShard d.shards d.key target

variable {d} {use : ActorAccess}

/-- A use is local when both actors fall on the same shard. -/
theorem isLocal_iff (use : ActorAccess) :
    use.IsLocal d.shards ↔ SameShard d.shards use.on use.actor := by
  have hpos : d.shards ≠ 0 := by
    unfold shards shardCount
    omega
  unfold ActorAccess.IsLocal getOrCreateLocal SameShard
  rw [if_neg hpos]
  constructor
  · intro h
    split at h
    · cases h
    · next hcur => exact not_not.mp hcur
  · intro h
    rw [if_neg (not_not.mpr h)]

theorem isLocal_ofPosted (id : UInt64) : (ActorAccess.ofPosted id).IsLocal d.shards :=
  (isLocal_iff (.ofPosted id)).mpr rfl

/-- The uses that are not in a task of their own. -/
inductive DirectUse (d : Dispatch) : ActorAccess → Prop where
  | self (hmsg : aboutSelf d.packet.msg = true) (hbody : d.packet.accepted d.codec = true)
      (hbound : d.boundAtHandling ≠ 0) : DirectUse d ⟨d.boundAtDispatch, d.boundAtHandling⟩
  | reconnect {charId : UInt64} (hmsg : d.packet.msg = .reconnectWorld)
      (hbody : charId ∈ d.packet.reconnectTarget d.codec) (hserial : d.answers.serial ≠ 0)
      (hok : d.answers.reconnected = true) : DirectUse d ⟨d.boundAtDispatch, charId⟩
  | bench (hmsg : d.packet.msg = .benchMove)
      (hbody : legacySize .benchMove ≤ d.packet.body.length) :
      DirectUse d
        ⟨if d.boundAtDispatch = 0 then d.sid.toUInt64 else d.boundAtDispatch,
          if d.boundAtHandling = 0 then zoneTag ||| d.sid.toUInt64 else d.boundAtHandling⟩
  | attacker (hmsg : d.packet.msg = .attackPlayer)
      (hbody : (d.packet.attackTarget d.codec).isSome = true) (hbound : d.boundAtHandling ≠ 0) :
      DirectUse d ⟨d.key, d.boundAtHandling⟩
  | target {target : UInt64} (hmsg : d.packet.msg = .attackPlayer)
      (hbody : target ∈ d.packet.attackTarget d.codec) (hbound : d.boundAtHandling ≠ 0)
      (hsafe : d.answers.safeRegion = false) : DirectUse d ⟨d.key, target⟩

/-- A packet about the sender goes to the actor bound at dispatch. -/
theorem key_of_aboutSelf (h : aboutSelf d.packet.msg = true) : d.key = d.boundAtDispatch := by
  unfold key RawPacket.resolveActorIdForPacket
  cases hmsg : d.packet.msg <;> first | rfl | (rw [hmsg] at h; cases h)

end Dispatch

namespace HandlerContext

variable {ctx : HandlerContext} {ans : HandlerAnswers} {use : ActorAccess}

/-- The tasks of a handler use the actors they are posted to. -/
theorem mem_moveTasks (h : use ∈ ctx.moveTasks ans) : ∃ id, use = .ofPosted id := by
  unfold moveTasks at h
  split at h
  · cases h
  · simp only [List.mem_cons, List.not_mem_nil, or_false] at h
    rcases h with rfl | rfl | rfl <;> exact ⟨_, rfl⟩
  · exact ⟨_, List.mem_singleton.mp h⟩
  · exact ⟨_, List.eq_of_mem_replicate h⟩

/-- The uses of a handler for the bound character: that character's actor, if
there is one, and then tasks. -/
structure ForBound (ctx : HandlerContext) (uses : List ActorAccess) : Prop where
  sound : ∀ use ∈ uses, (ctx.bound ≠ 0 ∧ use = ctx.useBound) ∨ ∃ id, use = .ofPosted id
  complete : ctx.bound ≠ 0 → ctx.useBound ∈ uses

/-- A handler that refuses an unbound session uses no actor then. -/
theorem forBound_guard {rest : List ActorAccess}
    (h : ∀ use ∈ rest, use = ctx.useBound ∨ ∃ id, use = .ofPosted id) :
    ForBound ctx (if ctx.bound = 0 then [] else ctx.useBound :: rest) := by
  by_cases hbound : ctx.bound = 0
  · rw [if_pos hbound]
    exact ⟨nofun, fun hne => absurd hbound hne⟩
  · rw [if_neg hbound]
    refine ⟨fun use huse => ?_, fun _ => List.mem_cons_self⟩
    rcases List.mem_cons.mp huse with rfl | hrest
    · exact Or.inl ⟨hbound, rfl⟩
    · exact (h use hrest).imp (fun heq => ⟨hbound, heq⟩) id

theorem forBound_healSelf : ForBound ctx ctx.handleWorldHealSelf := by
  refine forBound_guard fun use huse => Or.inl ?_
  unfold handleWorldGetStats at huse
  split at huse
  · cases huse
  · exact List.mem_singleton.mp huse

theorem forBound_move : ForBound ctx (ctx.handleWorldMove ans) := by
  refine forBound_guard fun use huse => Or.inr ?_
  split at huse
  · cases huse
  · exact mem_moveTasks huse

theorem forBound_spawnMonster : ForBound ctx (ctx.handleWorldSpawnMonster ans) := by
  refine forBound_guard fun use huse => Or.inr ?_
  split at huse
  · cases huse
  · exact ⟨_, List.mem_singleton.mp huse⟩

/-- An attack goes through the actor that is bound. -/
theorem forBound_attackMonster : ForBound ctx (ctx.handleWorldAttackMonster ans) := by
  refine forBound_guard fun use huse => Or.inr ?_
  split at huse
  · cases huse
  rcases List.mem_cons.mp huse with rfl | hloot
  · exact ⟨_, rfl⟩
  · split at hloot
    · exact ⟨_, List.mem_singleton.mp hloot⟩
    · cases hloot

/-- A packet about the sender that is accepted uses the bound character. -/
theorem forBound_dataAnalysis {codec : ClientCodec} {p : RawPacket}
    (hmsg : Dispatch.aboutSelf p.msg = true) (hbody : p.accepted codec = true) :
    ForBound ctx (ctx.dataAnalysis ans codec p) := by
  unfold dataAnalysis
  cases h : p.msg with
  | addGold =>
      dsimp only
      rw [if_pos hbody]
      exact forBound_guard nofun
  | getStats => exact forBound_guard nofun
  | healSelf =>
      dsimp only
      rw [if_pos hbody]
      exact forBound_healSelf
  | move =>
      dsimp only
      rw [if_pos hbody]
      exact forBound_move
  | spawnMonster =>
      dsimp only
      rw [if_pos hbody]
      exact forBound_spawnMonster
  | attackMonster =>
      dsimp only
      rw [if_pos hbody]
      exact forBound_attackMonster
  | _ => exact absurd hmsg (by rw [h]; exact Bool.false_ne_true)

/-- One that is rejected uses nobody. -/
theorem dataAnalysis_of_rejected {codec : ClientCodec} {p : RawPacket}
    (hmsg : Dispatch.aboutSelf p.msg = true) (hbody : p.accepted codec = false) :
    ctx.dataAnalysis ans codec p = [] := by
  have hne : ¬p.accepted codec = true := by simp [hbody]
  unfold dataAnalysis
  cases h : p.msg with
  | addGold => exact if_neg hne
  | getStats => simp [RawPacket.accepted, h, legacySize] at hbody
  | healSelf => exact if_neg hne
  | move => exact if_neg hne
  | spawnMonster => exact if_neg hne
  | attackMonster => exact if_neg hne
  | _ => exact absurd hmsg (by rw [h]; exact Bool.false_ne_true)

end HandlerContext

namespace Dispatch

variable {d : Dispatch} {use : ActorAccess}

/-- A reconnect is dispatched under the actor that is bound, and handled for the one its
packet names. -/
theorem accesses_reconnect (hmsg : d.packet.msg = .reconnectWorld) :
    d.accesses = (d.packet.reconnectTarget d.codec).elim []
      (HandlerContext.handleReconnectWorld ⟨d.sid, d.boundAtDispatch, d.boundAtHandling⟩
        d.answers) := by
  have hkey : d.key = d.boundAtDispatch := by
    unfold key RawPacket.resolveActorIdForPacket
    rw [hmsg]
  unfold accesses HandlerContext.dataAnalysis
  rw [hmsg, hkey]

/-- The bench move makes an actor up from the session id when none is bound. -/
theorem accesses_bench (hmsg : d.packet.msg = .benchMove) :
    d.accesses =
      if legacySize .benchMove ≤ d.packet.body.length then
        HandlerContext.handleWorldBenchMove
          ⟨d.sid, if d.boundAtDispatch = 0 then d.sid.toUInt64 else d.boundAtDispatch,
            d.boundAtHandling⟩ d.answers
      else [] := by
  have hkey : d.key = if d.boundAtDispatch = 0 then d.sid.toUInt64 else d.boundAtDispatch := by
    unfold key RawPacket.resolveActorIdForPacket
    rw [hmsg]
  unfold accesses HandlerContext.dataAnalysis
  rw [hmsg, hkey]

theorem accesses_attackPlayer (hmsg : d.packet.msg = .attackPlayer) :
    d.accesses = (d.packet.attackTarget d.codec).elim []
      (HandlerContext.handleWorldAttackPlayer ⟨d.sid, d.key, d.boundAtHandling⟩ d.answers) := by
  unfold accesses HandlerContext.dataAnalysis
  rw [hmsg]

/-- What is used: directly what `DirectUse` says, and else by tasks. -/
theorem directUse_or_ofPosted (h : use ∈ d.accesses) :
    DirectUse d use ∨ ∃ id, use = .ofPosted id := by
  by_cases hself : aboutSelf d.packet.msg = true
  · cases hbody : d.packet.accepted d.codec with
    | false =>
        have hnil : d.accesses = [] := HandlerContext.dataAnalysis_of_rejected hself hbody
        rw [hnil] at h
        cases h
    | true =>
        have hfor := (HandlerContext.forBound_dataAnalysis hself hbody).sound use h
        refine hfor.imp (fun ⟨hbound, huse⟩ => ?_) id
        rw [huse, HandlerContext.useBound, key_of_aboutSelf hself]
        exact .self hself hbody hbound
  cases hmsg : d.packet.msg with
  | reconnectWorld =>
      rw [accesses_reconnect hmsg] at h
      cases hbody : d.packet.reconnectTarget d.codec with
      | none =>
          rw [hbody] at h
          cases h
      | some charId =>
          rw [hbody] at h
          change use ∈ HandlerContext.handleReconnectWorld _ _ charId at h
          unfold HandlerContext.handleReconnectWorld at h
          split at h
          · cases h
          next hok =>
          rw [not_or, Bool.not_eq_false] at hok
          have hdirect : DirectUse d ⟨d.boundAtDispatch, charId⟩ :=
            .reconnect hmsg hbody hok.1 hok.2
          simp only [List.mem_cons, List.not_mem_nil, or_false] at h
          rcases h with rfl | rfl | rfl
          · exact Or.inl hdirect
          · exact Or.inl hdirect
          · exact Or.inr ⟨_, rfl⟩
  | benchMove =>
      rw [accesses_bench hmsg] at h
      split at h
      · next hbody =>
        rcases List.mem_cons.mp h with rfl | htask
        · exact Or.inl (.bench hmsg hbody)
        · split at htask
          · cases htask
          · exact Or.inr ⟨_, List.mem_singleton.mp htask⟩
      · cases h
  | attackPlayer =>
      rw [accesses_attackPlayer hmsg] at h
      cases hbody : d.packet.attackTarget d.codec with
      | none =>
          rw [hbody] at h
          cases h
      | some target =>
          rw [hbody] at h
          change use ∈ HandlerContext.handleWorldAttackPlayer _ _ target at h
          unfold HandlerContext.handleWorldAttackPlayer at h
          split at h
          · cases h
          next hbound =>
          rcases List.mem_cons.mp h with rfl | htarget
          · exact Or.inl (.attacker hmsg (by rw [hbody]; rfl) hbound)
          · split at htarget
            · cases htarget
            · next hsafe =>
              rw [List.mem_singleton.mp htarget]
              exact Or.inl (.target hmsg hbody hbound (by simpa using hsafe))
  | _ =>
      first
        | (rw [hmsg] at hself; exact absurd rfl hself)
        | (unfold accesses HandlerContext.dataAnalysis at h; rw [hmsg] at h; cases h)

/-- Every direct use is one of the accesses. -/
theorem mem_accesses_of_directUse (h : DirectUse d use) : use ∈ d.accesses := by
  cases h with
  | self hmsg hbody hbound =>
      have hfor : HandlerContext.ForBound ⟨d.sid, d.key, d.boundAtHandling⟩ d.accesses :=
        HandlerContext.forBound_dataAnalysis hmsg hbody
      have hmem := hfor.complete hbound
      rwa [HandlerContext.useBound, key_of_aboutSelf hmsg] at hmem
  | reconnect hmsg hbody hserial hok =>
      rw [accesses_reconnect hmsg, Option.mem_def.mp hbody]
      change _ ∈ HandlerContext.handleReconnectWorld _ _ _
      unfold HandlerContext.handleReconnectWorld
      rw [if_neg (by simp [hserial, hok])]
      exact List.mem_cons_self
  | bench hmsg hbody =>
      rw [accesses_bench hmsg, if_pos hbody]
      exact List.mem_cons_self
  | attacker hmsg hbody hbound =>
      obtain ⟨target, hbody⟩ := Option.isSome_iff_exists.mp hbody
      rw [accesses_attackPlayer hmsg, hbody]
      change _ ∈ HandlerContext.handleWorldAttackPlayer _ _ target
      unfold HandlerContext.handleWorldAttackPlayer
      rw [if_neg hbound]
      exact List.mem_cons_self
  | target hmsg hbody hbound hsafe =>
      rw [accesses_attackPlayer hmsg, Option.mem_def.mp hbody]
      change _ ∈ HandlerContext.handleWorldAttackPlayer _ _ _
      unfold HandlerContext.handleWorldAttackPlayer
      rw [if_neg hbound, if_neg (by simp [hsafe])]
      exact List.mem_cons_of_mem _ List.mem_cons_self

/-- **Actor ownership**: the actors that a packet uses are all found where
they are used precisely if the packet is well routed. -/
theorem allLocal_iff (d : Dispatch) : d.AllLocal ↔ d.WellRouted := by
  have hdirect : d.AllLocal ↔
      ∀ on actor, DirectUse d ⟨on, actor⟩ → SameShard d.shards on actor := by
    constructor
    · intro h on actor huse
      exact (isLocal_iff ⟨on, actor⟩).mp (h _ (mem_accesses_of_directUse huse))
    · intro h use huse
      rcases directUse_or_ofPosted huse with hdirect | ⟨id, rfl⟩
      · exact (isLocal_iff use).mpr (h use.on use.actor hdirect)
      · exact isLocal_ofPosted id
  rw [hdirect]
  constructor
  · intro h
    exact
      { self := fun hmsg hbody hbound => h _ _ (.self hmsg hbody hbound)
        reconnect := fun charId hbody hmsg hserial hok => h _ _ (.reconnect hmsg hbody hserial hok)
        bench := fun hmsg hbody => h _ _ (.bench hmsg hbody)
        attacker := fun hbody hmsg hbound => h _ _ (.attacker hmsg hbody hbound)
        target := fun target hbody hmsg hbound hsafe => h _ _ (.target hmsg hbody hbound hsafe) }
  · intro h on actor huse
    cases huse with
    | self hmsg hbody hbound => exact h.self hmsg hbody hbound
    | reconnect hmsg hbody hserial hok => exact h.reconnect _ hbody hmsg hserial hok
    | bench hmsg hbody => exact h.bench hmsg hbody
    | attacker hmsg hbody hbound => exact h.attacker hbody hmsg hbound
    | target hmsg hbody hbound hsafe => exact h.target _ hbody hmsg hbound hsafe

/-- Character 1 attacks character 2, with two shards. -/
def attackAcrossShards : Dispatch :=
  { threadCount := 2, codec := {}, sid := 1
    packet := { msg := .attackPlayer, body := [2, 0, 0, 0, 0, 0, 0, 0] }
    boundAtDispatch := 1, boundAtHandling := 1, answers := {} }

/-- The packet is handled on the shard of the target, where the attacker is
not. -/
theorem not_allLocal_attackAcrossShards : ¬attackAcrossShards.AllLocal := by
  intro h
  have hmem : (⟨2, 1⟩ : ActorAccess) ∈ attackAcrossShards.accesses := by decide
  have hlocal := h _ hmem
  exact absurd hlocal (by unfold ActorAccess.IsLocal; decide)

end Dispatch

end GameServer
