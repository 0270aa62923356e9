import GameServer.Lib.Bytes
import GameServer.Lib.Run

/-!
# GameServer.Net.Framing

The frames of a TCP session (`net/tcp/tcp_session.h`): what `async_send`
queues, what the write loop puts on the wire, and what the read loop of the
other side makes of it.

A stream is read in pieces of any size, so `asyncRead` takes its bytes from
a list of chunks; `none` is the end of the stream.  What a packet handler
answers may depend on all it was given before.

* `readPacket_of_append`, `readPacket_ok` — one pass of the read loop takes
  exactly one frame;
* `readLoop_frames` — reading what was sent delivers what was sent;
* `reads_readLoop` — what is delivered from an arbitrary stream, and where
  the reader stops;
* `SendSession.wire_run` — the write loop sends the queued frames in order.
-/

namespace GameServer

/-- `_MSG_HEADER`. -/
structure MsgHeader where
  wSize : UInt16
  byType : UInt8 × UInt8
deriving DecidableEq, Repr

/-- `MSG_HEADER_SIZE`. -/
def msgHeaderSize : Nat := 4

namespace MsgHeader

/-- The header in memory. -/
def toBytes (h : MsgHeader) : List UInt8 := toBytesLE 2 h.wSize.toNat ++ [h.byType.1, h.byType.2]

/-- The header read from memory. -/
def ofBytes (bs : List UInt8) : MsgHeader where
  wSize := UInt16.ofNat (ofBytesLE (bs.take 2))
  byType := (bs.getD 2 0, bs.getD 3 0)

/-- The length of the body, as both sides compute it. -/
def bodyLen (h : MsgHeader) : Nat := h.wSize.toNat - msgHeaderSize

@[simp] theorem length_toBytes (h : MsgHeader) : h.toBytes.length = msgHeaderSize := by
  simp [toBytes, msgHeaderSize]

/-- The header is read back from its bytes. -/
@[simp] theorem ofBytes_toBytes (h : MsgHeader) : ofBytes h.toBytes = h := by
  have hsize : UInt16.ofNat (ofBytesLE (toBytesLE 2 h.wSize.toNat)) = h.wSize := by
    rw [ofBytesLE_toBytesLE]
    apply UInt16.toNat_inj.mp
    have hlt := h.wSize.toNat_lt
    rw [UInt16.toNat_ofNat']
    omega
  have htake : h.toBytes.take 2 = toBytesLE 2 h.wSize.toNat := by
    simp [toBytes]
  have hrest : h.toBytes.getD 2 0 = h.byType.1 ∧ h.toBytes.getD 3 0 = h.byType.2 := by
    simp [toBytes, List.getD_eq_getElem?_getD]
  unfold ofBytes
  rw [htake, hsize, hrest.1, hrest.2]

/-- Four bytes are the image of the header they spell. -/
theorem toBytes_ofBytes {bs : List UInt8} (h : bs.length = msgHeaderSize) :
    (ofBytes bs).toBytes = bs := by
  match bs, h with
  | [a, b, c, d], _ =>
      have ha := a.toNat_lt
      have hb := b.toNat_lt
      have hsize : (UInt16.ofNat (a.toNat + 256 * b.toNat)).toNat = a.toNat + 256 * b.toNat := by
        rw [UInt16.toNat_ofNat']
        omega
      have hlow : UInt8.ofNat ((a.toNat + 256 * b.toNat) % 256) = a := by
        apply UInt8.toNat_inj.mp
        rw [UInt8.toNat_ofNat']
        omega
      have hhigh : UInt8.ofNat ((a.toNat + 256 * b.toNat) / 256 % 256) = b := by
        apply UInt8.toNat_inj.mp
        rw [UInt8.toNat_ofNat']
        omega
      simp only [ofBytes, toBytes, toBytesLE, ofBytesLE, List.take_succ_cons, List.take_zero,
        Nat.mul_zero, Nat.add_zero, hsize, hlow, hhigh]
      rfl

end MsgHeader

/-- A header with its body: what `on_packet` is given. -/
structure Packet where
  header : MsgHeader
  body : List UInt8
deriving DecidableEq, Repr

namespace Packet

/-- The frame of a packet. -/
def toBytes (m : Packet) : List UInt8 := m.header.toBytes ++ m.body

/-- The size field is right and within the limit. -/
structure Fits (limit : UInt32) (m : Packet) : Prop where
  size : m.header.wSize.toNat = msgHeaderSize + m.body.length
  limit : m.header.wSize.toNat ≤ limit.toNat

theorem Fits.length_toBytes {limit : UInt32} {m : Packet} (h : m.Fits limit) :
    m.toBytes.length = m.header.wSize.toNat := by
  rw [h.size, toBytes, List.length_append, MsgHeader.length_toBytes]

theorem Fits.bodyLen {limit : UInt32} {m : Packet} (h : m.Fits limit) :
    m.header.bodyLen = m.body.length := by
  rw [MsgHeader.bodyLen, h.size]
  omega

end Packet

/-! ## Sending -/

/-- What is copied behind the header.  The buffer is zeroed first; the bytes
behind the end of a body that is too short are not specified. -/
def copyBody (h : MsgHeader) : Option (List UInt8) → List UInt8
  | none => List.replicate h.bodyLen 0
  | some body => body.take h.bodyLen ++ List.replicate (h.bodyLen - body.length) 0

/-- `async_send`, `async_send_lossy`: the message to queue, or none. -/
def asyncSend (limit : UInt32) (h : MsgHeader) (body : Option (List UInt8)) :
    Option (List UInt8) :=
  if h.wSize.toNat < msgHeaderSize ∨ limit.toNat < h.wSize.toNat then none
  else some (h.toBytes ++ copyBody h body)

/-- The body has the length that its header says. -/
theorem length_copyBody (h : MsgHeader) (body : Option (List UInt8)) :
    (copyBody h body).length = h.bodyLen := by
  cases body with
  | none => simp [copyBody]
  | some body =>
      simp only [copyBody, List.length_append, List.length_take, List.length_replicate]
      omega

/-- A queued message is the frame of a packet that fits. -/
theorem asyncSend_eq_some {limit : UInt32} {h : MsgHeader} {body : Option (List UInt8)}
    {bytes : List UInt8} (hs : asyncSend limit h body = some bytes) :
    (Packet.mk h (copyBody h body)).Fits limit ∧
      bytes = (Packet.mk h (copyBody h body)).toBytes := by
  unfold asyncSend at hs
  split at hs
  · cases hs
  · rename_i hbounds
    obtain rfl := Option.some.inj hs
    rw [not_or, Nat.not_lt, Nat.not_lt] at hbounds
    refine ⟨⟨?_, hbounds.2⟩, rfl⟩
    rw [length_copyBody, MsgHeader.bodyLen]
    exact (Nat.add_sub_cancel' hbounds.1).symm

/-- A packet that fits is sent as it is. -/
theorem asyncSend_of_fits {limit : UInt32} {m : Packet} (h : m.Fits limit) :
    asyncSend limit m.header (some m.body) = some m.toBytes := by
  have hsize := h.size
  have hlimit := h.limit
  have hbody : copyBody m.header (some m.body) = m.body := by
    simp [copyBody, h.bodyLen]
  unfold asyncSend
  rw [if_neg (by omega), hbody]
  rfl

/-! ## Reading -/

/-- `asio::async_read`: exactly `n` bytes, from as many chunks as it takes. -/
def asyncRead : Nat → List (List UInt8) → Option (List UInt8 × List (List UInt8))
  | 0, chunks => some ([], chunks)
  | _ + 1, [] => none
  | n + 1, c :: chunks =>
      if n + 1 ≤ c.length then some (c.take (n + 1), c.drop (n + 1) :: chunks)
      else (asyncRead (n + 1 - c.length) chunks).map fun r => (c ++ r.1, r.2)

/-- A read takes the first bytes of the stream, however they were cut into chunks. -/
theorem asyncRead_eq_some {n : Nat} {chunks rest : List (List UInt8)} {bs : List UInt8}
    (h : asyncRead n chunks = some (bs, rest)) :
    bs.length = n ∧ chunks.flatten = bs ++ rest.flatten := by
  induction chunks generalizing n bs with
  | nil =>
      cases n with
      | zero => simp_all [asyncRead]
      | succ n => simp [asyncRead] at h
  | cons c chunks ih =>
      cases n with
      | zero => simp_all [asyncRead]
      | succ n =>
          rw [asyncRead] at h
          split at h
          · rename_i hle
            simp only [Option.some.injEq, Prod.mk.injEq] at h
            obtain ⟨rfl, rfl⟩ := h
            refine ⟨by simp [hle], ?_⟩
            rw [List.flatten_cons, List.flatten_cons, ← List.append_assoc, List.take_append_drop]
          · rename_i hgt
            rw [Option.map_eq_some_iff] at h
            obtain ⟨⟨bs', rest'⟩, hr, heq⟩ := h
            simp only [Prod.mk.injEq] at heq
            obtain ⟨rfl, rfl⟩ := heq
            obtain ⟨hlen, hflat⟩ := ih hr
            refine ⟨by rw [List.length_append, hlen]; omega, ?_⟩
            rw [List.flatten_cons, hflat, List.append_assoc]

/-- A read waits only for bytes that have not come. -/
theorem asyncRead_eq_none {n : Nat} {chunks : List (List UInt8)} :
    asyncRead n chunks = none ↔ chunks.flatten.length < n := by
  induction chunks generalizing n with
  | nil => cases n <;> simp [asyncRead]
  | cons c chunks ih =>
      cases n with
      | zero => simp [asyncRead]
      | succ n =>
          rw [asyncRead, List.flatten_cons, List.length_append]
          split
          · simp
            omega
          · rw [Option.map_eq_none_iff, ih]
            omega

/-- A read depends on the bytes of the stream, not on its chunks. -/
theorem asyncRead_of_append {chunks : List (List UInt8)} {bs tail : List UInt8}
    (h : chunks.flatten = bs ++ tail) :
    ∃ rest, asyncRead bs.length chunks = some (bs, rest) ∧ rest.flatten = tail := by
  cases hr : asyncRead bs.length chunks with
  | none =>
      rw [asyncRead_eq_none, h, List.length_append] at hr
      omega
  | some r =>
      obtain ⟨bs', rest⟩ := r
      obtain ⟨hlen, hflat⟩ := asyncRead_eq_some hr
      rw [h] at hflat
      obtain ⟨rfl, rfl⟩ := List.append_inj hflat hlen.symm
      exact ⟨rest, rfl, rfl⟩

/-- Why the read loop ends: an exception of `async_read`, or one of its own. -/
inductive ReadEnd where
  | endOfStream
  | tooSmall
  | tooBig
  | rejected
deriving DecidableEq, Repr

/-- One pass of `read_loop`, up to the handler. -/
def readPacket (limit : UInt32) (chunks : List (List UInt8)) :
    Except ReadEnd (Packet × List (List UInt8)) :=
  match asyncRead msgHeaderSize chunks with
  | none => .error .endOfStream
  | some (hbuf, chunks) =>
      let hdr := MsgHeader.ofBytes hbuf
      if hdr.wSize.toNat < msgHeaderSize then .error .tooSmall
      else if limit.toNat < hdr.wSize.toNat then .error .tooBig
      else
        match asyncRead hdr.bodyLen chunks with
        | none => .error .endOfStream
        | some (body, chunks) => .ok (⟨hdr, body⟩, chunks)

/-- What is left of the stream when no frame can be read from it. -/
def Stops (limit : UInt32) (rest : List UInt8) : ReadEnd → Prop
  | .endOfStream =>
      rest.length < msgHeaderSize ∨
        msgHeaderSize ≤ (MsgHeader.ofBytes (rest.take msgHeaderSize)).wSize.toNat ∧
        (MsgHeader.ofBytes (rest.take msgHeaderSize)).wSize.toNat ≤ limit.toNat ∧
        rest.length < (MsgHeader.ofBytes (rest.take msgHeaderSize)).wSize.toNat
  | .tooSmall =>
      msgHeaderSize ≤ rest.length ∧
        (MsgHeader.ofBytes (rest.take msgHeaderSize)).wSize.toNat < msgHeaderSize
  | .tooBig =>
      msgHeaderSize ≤ rest.length ∧
        limit.toNat < (MsgHeader.ofBytes (rest.take msgHeaderSize)).wSize.toNat
  | .rejected => False

section

variable {limit : UInt32} {chunks rest : List (List UInt8)} {m : Packet}

/-- A frame that was read stood at the front of the stream. -/
theorem readPacket_ok (h : readPacket limit chunks = .ok (m, rest)) :
    m.Fits limit ∧ chunks.flatten = m.toBytes ++ rest.flatten := by
  unfold readPacket at h
  split at h
  · cases h
  · rename_i hbuf chunks' hhead
    obtain ⟨hlen, hflat⟩ := asyncRead_eq_some hhead
    dsimp only at h
    split at h
    · cases h
    · split at h
      · cases h
      · rename_i hsmall hbig
        split at h
        · cases h
        · rename_i body chunks'' hbody
          obtain ⟨hblen, hbflat⟩ := asyncRead_eq_some hbody
          simp only [Except.ok.injEq, Prod.mk.injEq] at h
          obtain ⟨rfl, rfl⟩ := h
          refine ⟨⟨?_, Nat.le_of_not_lt hbig⟩, ?_⟩
          · rw [hblen, MsgHeader.bodyLen]
            exact (Nat.add_sub_cancel' (Nat.le_of_not_lt hsmall)).symm
          · rw [hflat, hbflat, Packet.toBytes, MsgHeader.toBytes_ofBytes hlen, List.append_assoc]

/-- A frame at the front of the stream is read. -/
theorem readPacket_of_append {tail : List UInt8} (hm : m.Fits limit)
    (h : chunks.flatten = m.toBytes ++ tail) :
    ∃ rest, readPacket limit chunks = .ok (m, rest) ∧ rest.flatten = tail := by
  have hsize := hm.size
  have hlimit := hm.limit
  rw [Packet.toBytes, List.append_assoc] at h
  obtain ⟨chunks', hhead, hflat⟩ := asyncRead_of_append h
  obtain ⟨chunks'', hbody, htail⟩ := asyncRead_of_append hflat
  rw [MsgHeader.length_toBytes] at hhead
  rw [← hm.bodyLen] at hbody
  refine ⟨chunks'', ?_, htail⟩
  unfold readPacket
  simp only [hhead, MsgHeader.ofBytes_toBytes, hbody]
  rw [if_neg (by omega), if_neg (by omega)]

/-- Where no frame can be read, the rest of the stream shows why. -/
theorem readPacket_error {e : ReadEnd} (h : readPacket limit chunks = .error e) :
    Stops limit chunks.flatten e := by
  unfold readPacket at h
  split at h
  · rename_i hhead
    cases h
    exact Or.inl (asyncRead_eq_none.mp hhead)
  · rename_i hbuf chunks' hhead
    obtain ⟨hlen, hflat⟩ := asyncRead_eq_some hhead
    have htake : chunks.flatten.take msgHeaderSize = hbuf := by
      rw [hflat, ← hlen, List.take_left]
    have hle : msgHeaderSize ≤ chunks.flatten.length := by
      rw [hflat, List.length_append, hlen]
      omega
    dsimp only at h
    split at h
    · cases h
      exact ⟨hle, by rwa [htake]⟩
    · split at h
      · cases h
        exact ⟨hle, by rwa [htake]⟩
      · rename_i hsmall hbig
        split at h
        · rename_i hbody
          cases h
          rw [asyncRead_eq_none, MsgHeader.bodyLen] at hbody
          refine Or.inr ?_
          rw [htake]
          refine ⟨by omega, by omega, ?_⟩
          rw [hflat, List.length_append, hlen]
          omega
        · cases h

/-- A pass of the loop takes a header at least. -/
theorem length_lt_of_readPacket (h : readPacket limit chunks = .ok (m, rest)) :
    rest.flatten.length < chunks.flatten.length := by
  obtain ⟨hm, hflat⟩ := readPacket_ok h
  have hsize := hm.size
  rw [hflat, List.length_append, hm.length_toBytes, msgHeaderSize] at *
  omega

end

/-- What `on_packet` answers, by the packets it was given before. -/
abbrev PacketHandler := List Packet → Packet → Bool

/-- `read_loop`: the packets handed to the handler, and why it ended. -/
def readLoop (limit : UInt32) (handler : PacketHandler) (seen : List Packet)
    (chunks : List (List UInt8)) : List Packet × ReadEnd :=
  match _hread : readPacket limit chunks with
  | .error e => ([], e)
  | .ok (m, rest) =>
      if handler seen m then
        let r := readLoop limit handler (seen ++ [m]) rest
        (m :: r.1, r.2)
      else ([m], .rejected)
termination_by chunks.flatten.length
decreasing_by exact length_lt_of_readPacket _hread

/-- The packets up to the first that the handler rejects. -/
def upToRejected (handler : PacketHandler) (seen : List Packet) : List Packet → List Packet
  | [] => []
  | m :: ms => m :: if handler seen m then upToRejected handler (seen ++ [m]) ms else []

/-- **What the reader makes of a stream**: the delivered packets are the
frames at its front, one after the other; they are well formed, none comes
after a rejected one, and the loop ends with a rejected packet or where the
rest has a bad header or no complete frame. -/
structure Reads (limit : UInt32) (handler : PacketHandler) (seen : List Packet)
    (bytes : List UInt8) (out : List Packet × ReadEnd) : Prop where
  frames : ∃ rest, bytes = out.1.flatMap Packet.toBytes ++ rest ∧
    ((out.2 = .rejected ∧ ∃ ms m, out.1 = ms ++ [m] ∧ handler (seen ++ ms) m = false) ∨
      Stops limit rest out.2)
  fits : ∀ m ∈ out.1, m.Fits limit
  handled : out.1 = upToRejected handler seen out.1

section

variable {limit : UInt32} {handler : PacketHandler} {seen : List Packet}
  {chunks : List (List UInt8)} {m : Packet} {ms : List Packet}

theorem readLoop_error {e : ReadEnd} (h : readPacket limit chunks = .error e) :
    readLoop limit handler seen chunks = ([], e) := by
  rw [readLoop]
  split <;> simp_all

/-- One turn of the loop hands the packet to the handler. -/
theorem readLoop_ok {rest : List (List UInt8)} (h : readPacket limit chunks = .ok (m, rest)) :
    readLoop limit handler seen chunks =
      if handler seen m then
        (m :: (readLoop limit handler (seen ++ [m]) rest).1,
          (readLoop limit handler (seen ++ [m]) rest).2)
      else ([m], .rejected) := by
  rw [readLoop]
  split <;> simp_all

/-- The reader does with every stream what `Reads` says. -/
theorem reads_readLoop :
    Reads limit handler seen chunks.flatten (readLoop limit handler seen chunks) := by
  -- Along the recursion of the loop: each pass takes bytes from the stream.
  induction hn : chunks.flatten.length using Nat.strong_induction_on generalizing chunks seen with
  | _ n ih =>
      cases hp : readPacket limit chunks with
      | error e =>
          rw [readLoop_error hp]
          exact ⟨⟨chunks.flatten, rfl, Or.inr (readPacket_error hp)⟩, by simp, rfl⟩
      | ok r =>
          obtain ⟨m, rest⟩ := r
          obtain ⟨hm, hflat⟩ := readPacket_ok hp
          have hlt := length_lt_of_readPacket hp
          rw [readLoop_ok hp]
          by_cases hok : handler seen m = true
          · rw [if_pos hok]
            have hrec : Reads limit handler (seen ++ [m]) rest.flatten
                (readLoop limit handler (seen ++ [m]) rest) := ih _ (hn ▸ hlt) rfl
            obtain ⟨⟨tail, hbytes, hend⟩, hfits, hhandled⟩ := hrec
            refine ⟨⟨tail, ?_, ?_⟩, ?_, ?_⟩
            · rw [hflat, hbytes, List.flatMap_cons, List.append_assoc]
            · obtain ⟨hrej, ms, m', hms, hno⟩ | hstop := hend
              · refine Or.inl ⟨hrej, m :: ms, m', by rw [hms]; rfl, ?_⟩
                simpa using hno
              · exact Or.inr hstop
            · simpa using ⟨hm, hfits⟩
            · rw [upToRejected, if_pos hok, ← hhandled]
          · rw [if_neg hok]
            refine ⟨⟨rest.flatten, ?_, ?_⟩, by simpa using hm, ?_⟩
            · rw [hflat, List.flatMap_cons, List.flatMap_nil, List.append_nil]
            · refine Or.inl ⟨rfl, [], m, rfl, ?_⟩
              simpa using hok
            · rw [upToRejected, if_neg hok]

/-- One frame of the stream is one pass of the loop. -/
theorem readLoop_of_append (handler : PacketHandler) (seen : List Packet) {tail : List UInt8}
    (hm : m.Fits limit) (h : chunks.flatten = m.toBytes ++ tail) :
    ∃ rest, rest.flatten = tail ∧
      (readLoop limit handler seen chunks).1 =
        m :: if handler seen m then (readLoop limit handler (seen ++ [m]) rest).1 else [] := by
  obtain ⟨rest, hp, htail⟩ := readPacket_of_append hm h
  refine ⟨rest, htail, ?_⟩
  rw [readLoop_ok hp]
  split <;> rfl

/-- Frames, in any chunks, are read as the packets that were framed. -/
theorem readLoop_frames (handler : PacketHandler) (seen : List Packet)
    (hms : ∀ m ∈ ms, m.Fits limit) (h : chunks.flatten = ms.flatMap Packet.toBytes) :
    (readLoop limit handler seen chunks).1 = upToRejected handler seen ms := by
  induction ms generalizing chunks seen with
  | nil =>
      have hnone : asyncRead msgHeaderSize chunks = none := by
        rw [asyncRead_eq_none, h]
        decide
      rw [readLoop_error (e := .endOfStream) (by simp [readPacket, hnone])]
      rfl
  | cons m ms ih =>
      rw [List.flatMap_cons] at h
      obtain ⟨rest, htail, hread⟩ :=
        readLoop_of_append handler seen (hms m List.mem_cons_self) h
      rw [hread, upToRejected, ih (seen ++ [m]) (fun m' hm' => hms m' (List.mem_cons_of_mem m hm'))
        htail]

/-- No frame is the beginning of another. -/
theorem eq_of_toBytes_isPrefix {m' : Packet} {bytes : List UInt8} (hm : m.Fits limit)
    (hm' : m'.Fits limit) (h : m.toBytes <+: m'.toBytes ++ bytes) : m = m' := by
  obtain ⟨tail, htail⟩ := h
  have hstream : [m'.toBytes ++ bytes].flatten = m.toBytes ++ tail := by
    rw [List.flatten_singleton, htail]
  have hstream' : [m'.toBytes ++ bytes].flatten = m'.toBytes ++ bytes := List.flatten_singleton
  obtain ⟨rest, hread, _⟩ := readPacket_of_append hm hstream
  obtain ⟨rest', hread', _⟩ := readPacket_of_append hm' hstream'
  rw [hread] at hread'
  simp only [Except.ok.injEq, Prod.mk.injEq] at hread'
  exact hread'.1

/-- A stream of frames that breaks off is read as the beginning of it. -/
theorem readLoop_isPrefix (hms : ∀ m ∈ ms, m.Fits limit)
    (h : chunks.flatten <+: ms.flatMap Packet.toBytes) :
    (readLoop limit handler seen chunks).1 <+: upToRejected handler seen ms := by
  induction ms generalizing chunks seen with
  | nil =>
      have hnil : chunks.flatten = [].flatMap Packet.toBytes := by simpa using h
      rw [readLoop_frames handler seen (by simp) hnil]
  | cons m ms ih =>
      have hm := hms m List.mem_cons_self
      rw [List.flatMap_cons] at h
      cases hp : readPacket limit chunks with
      | error e =>
          rw [readLoop_error hp]
          exact List.nil_prefix
      | ok r =>
          obtain ⟨m', rest⟩ := r
          obtain ⟨hm', hflat⟩ := readPacket_ok hp
          rw [hflat] at h
          obtain rfl := eq_of_toBytes_isPrefix hm' hm ((List.prefix_append _ _).trans h)
          rw [List.prefix_append_right_inj] at h
          have hrec : (readLoop limit handler (seen ++ [m']) rest).1 <+:
              upToRejected handler (seen ++ [m']) ms :=
            ih (fun m hmem => hms m (List.mem_cons_of_mem m' hmem)) h
          rw [readLoop_ok hp, upToRejected]
          by_cases hok : handler seen m' = true
          · simpa [hok] using hrec
          · simp [hok]

/-- A handler that accepts everything sees everything. -/
theorem upToRejected_of_accepts (h : ∀ seen, ∀ m ∈ ms, handler seen m = true) :
    upToRejected handler seen ms = ms := by
  induction ms generalizing seen with
  | nil => rfl
  | cons m ms ih =>
      rw [upToRejected, if_pos (h seen m List.mem_cons_self),
        ih fun seen m' hm' => h seen m' (List.mem_cons_of_mem m hm')]

end

/-! ## The send queue -/

/-- The limits of a session. -/
structure SendLimits where
  maxPacketBytes : UInt32 := 64 * 1024
  maxSendQueueMsgs : Nat := 65536
  maxSendQueueBytes : Nat := 128 * 1024 * 1024
deriving DecidableEq, Repr

/-- The sending side of `TcpSession`: its queue, the state of the socket and
of the write loop, and what has gone out. -/
structure SendSession where
  sendQ : List (List UInt8) := []
  sendQBytes : Nat := 0
  isOpen : Bool := true
  writing : Bool := false
  wire : List UInt8 := []
deriving DecidableEq, Repr

namespace SendSession

section

variable (limits : SendLimits) (s : SendSession)

/-- The queue has no room for `msg`. -/
def overflows (msg : List UInt8) : Bool :=
  limits.maxSendQueueMsgs < s.sendQ.length + 1 ||
    limits.maxSendQueueBytes < s.sendQBytes + msg.length

/-- A message is queued, and the write loop started if it is the only one. -/
def push (msg : List UInt8) : SendSession :=
  { s with
    sendQ := s.sendQ ++ [msg]
    sendQBytes := s.sendQBytes + msg.length
    writing := if s.sendQ.isEmpty then true else s.writing }

/-- `enqueue_send_close_`. -/
def enqueueSendClose (msg : List UInt8) : SendSession :=
  if s.overflows limits msg then { s with isOpen := false } else s.push msg

/-- `enqueue_send_drop_`. -/
def enqueueSendDrop (msg : List UInt8) : SendSession :=
  if s.overflows limits msg then s else s.push msg

/-- A pass of `write_loop`: the front message has been written. -/
def writeFront : SendSession :=
  match s.sendQ with
  | m :: q =>
      if s.isOpen ∧ s.writing then
        { s with
          wire := s.wire ++ m
          sendQ := q
          sendQBytes := s.sendQBytes - m.length
          writing := !q.isEmpty }
      else s
  | [] => s

/-- `write_loop` ends with an exception, when `k` bytes of the front message
have been written. -/
def writeFails (k : Nat) : SendSession :=
  match s.sendQ with
  | m :: _ =>
      if s.writing then
        { s with wire := s.wire ++ m.take k, isOpen := false, writing := false }
      else s
  | [] => s

end

/-- What happens to the sending side. -/
inductive Event where
  | send (header : MsgHeader) (body : Option (List UInt8))
  | sendLossy (header : MsgHeader) (body : Option (List UInt8))
  | written
  | failed (k : Nat)
  | close
deriving DecidableEq, Repr

/-- One step of the sending side. -/
def step (limits : SendLimits) (s : SendSession) : Event → SendSession
  | .send header body =>
      match asyncSend limits.maxPacketBytes header body with
      | some msg => s.enqueueSendClose limits msg
      | none => s
  | .sendLossy header body =>
      match asyncSend limits.maxPacketBytes header body with
      | some msg => s.enqueueSendDrop limits msg
      | none => s
  | .written => s.writeFront
  | .failed k => s.writeFails k
  | .close => { s with isOpen := false }

/-- The packet an event puts into the queue. -/
def queued (limits : SendLimits) (s : SendSession) : Event → List Packet
  | .send header body | .sendLossy header body =>
      match asyncSend limits.maxPacketBytes header body with
      | some msg => if s.overflows limits msg then [] else [⟨header, copyBody header body⟩]
      | none => []
  | .written | .failed _ | .close => []

/-- What has gone out is the beginning of what was queued, and what follows
it is in the queue as long as the write loop lives. -/
structure InOrder (limits : SendLimits) (s : SendSession) (ms : List Packet) : Prop where
  fits : ∀ m ∈ ms, m.Fits limits.maxPacketBytes
  part : s.wire <+: ms.flatMap Packet.toBytes
  rest : s.writing = true ∨ s.sendQ = [] →
    s.wire ++ s.sendQ.flatten = ms.flatMap Packet.toBytes

variable {limits : SendLimits} {s : SendSession} {ms : List Packet}

/-- A pushed packet comes after all that were pushed before. -/
theorem InOrder.push {m : Packet} (h : InOrder limits s ms) (hm : m.Fits limits.maxPacketBytes) :
    InOrder limits (s.push m.toBytes) (ms ++ [m]) where
  fits m' hm' := by
    rcases List.mem_append.mp hm' with hold | hnew
    · exact h.fits m' hold
    · obtain rfl := List.mem_singleton.mp hnew
      exact hm
  part := by
    rw [List.flatMap_append]
    exact h.part.trans (List.prefix_append _ _)
  rest hlive := by
    have hbefore : s.writing = true ∨ s.sendQ = [] := by
      by_cases hq : s.sendQ = []
      · exact Or.inr hq
      · simpa [SendSession.push, hq] using hlive
    have hrest := h.rest hbefore
    simp only [SendSession.push, List.flatten_append, List.flatMap_append, List.flatten_singleton,
      List.flatMap_singleton]
    rw [← List.append_assoc, hrest]

/-- Writing the front moves bytes from the queue to the wire, in order. -/
theorem InOrder.writeFront (h : InOrder limits s ms) : InOrder limits s.writeFront ms := by
  unfold SendSession.writeFront
  split
  · rename_i m q hq
    split
    · rename_i hlive
      have hrest := h.rest (Or.inl hlive.2)
      rw [hq, List.flatten_cons, ← List.append_assoc] at hrest
      refine ⟨h.fits, ⟨_, hrest⟩, fun _ => hrest⟩
    · exact h
  · exact h

/-- A failed write ends the session in the middle of what was queued. -/
theorem InOrder.writeFails {k : Nat} (h : InOrder limits s ms) :
    InOrder limits (s.writeFails k) ms := by
  unfold SendSession.writeFails
  split
  · rename_i m q hq
    split
    · rename_i hlive
      have hrest := h.rest (Or.inl hlive)
      rw [hq, List.flatten_cons] at hrest
      refine ⟨h.fits, ?_, fun hdead => ?_⟩
      · rw [← hrest, List.prefix_append_right_inj]
        exact (List.take_prefix k m).trans (List.prefix_append m _)
      · simp [hq] at hdead
    · exact h
  · exact h

/-- The step lemma: one case for each event of the session. -/
theorem InOrder.step (h : InOrder limits s ms) (e : Event) :
    InOrder limits (step limits s e) (ms ++ queued limits s e) := by
  cases e with
  | send header body =>
      simp only [SendSession.step, queued]
      cases hs : asyncSend limits.maxPacketBytes header body with
      | none => simpa using h
      | some msg =>
          obtain ⟨hm, rfl⟩ := asyncSend_eq_some hs
          simp only [enqueueSendClose]
          split
          · rw [List.append_nil]
            exact ⟨h.fits, h.part, h.rest⟩
          · exact h.push hm
  | sendLossy header body =>
      simp only [SendSession.step, queued]
      cases hs : asyncSend limits.maxPacketBytes header body with
      | none => simpa using h
      | some msg =>
          obtain ⟨hm, rfl⟩ := asyncSend_eq_some hs
          simp only [enqueueSendDrop]
          split
          · rw [List.append_nil]
            exact h
          · exact h.push hm
  | written =>
      rw [queued, List.append_nil]
      exact h.writeFront
  | failed k =>
      rw [queued, List.append_nil]
      exact h.writeFails
  | close =>
      rw [queued, List.append_nil]
      exact ⟨h.fits, h.part, h.rest⟩

/-- The packets that a run has queued. -/
def queuedBy (limits : SendLimits) (es : List Event) : List Packet :=
  (run (recording (step limits) (queued limits)) ({}, []) es).2

theorem wire_run (limits : SendLimits) (es : List Event) :
    InOrder limits (run (step limits) {} es) (queuedBy limits es) := by
  rw [← fst_run_recording (queued limits) []]
  refine run_induction (W := fun sh : SendSession × List Packet => InOrder limits sh.1 sh.2)
    ⟨by simp, by simp, by simp⟩ ?_
  exact fun sh e h => h.step e

end SendSession

/-- **Framing round trip**: messages that `async_send` takes, read in any
chunks, are delivered in order and unchanged, up to the first that the
handler rejects; from an arbitrary stream the reader delivers frames that
stand one after the other and stops at a bad header; and what a write loop
has sent so far is read as the beginning of what was queued. -/
theorem framing_roundTrip (limits : SendLimits) (handler : PacketHandler) :
    (∀ ms : List Packet, (∀ m ∈ ms, m.Fits limits.maxPacketBytes) → ∀ chunks,
      chunks.flatten = (ms.filterMap fun m =>
        asyncSend limits.maxPacketBytes m.header (some m.body)).flatten →
      (readLoop limits.maxPacketBytes handler [] chunks).1 = upToRejected handler [] ms ∧
      ((∀ seen, ∀ m ∈ ms, handler seen m = true) →
        (readLoop limits.maxPacketBytes handler [] chunks).1 = ms)) ∧
    (∀ chunks, Reads limits.maxPacketBytes handler [] chunks.flatten
      (readLoop limits.maxPacketBytes handler [] chunks)) ∧
    (∀ es chunks, chunks.flatten = (run (SendSession.step limits) {} es).wire →
      (readLoop limits.maxPacketBytes handler [] chunks).1 <+:
        upToRejected handler [] (SendSession.queuedBy limits es) ∧
      ((run (SendSession.step limits) {} es).sendQ = [] →
        (readLoop limits.maxPacketBytes handler [] chunks).1 =
          upToRejected handler [] (SendSession.queuedBy limits es))) := by
  refine ⟨fun ms hms chunks h => ?_, fun chunks => reads_readLoop, fun es chunks h => ?_⟩
  · have hsent : (ms.filterMap fun m =>
        asyncSend limits.maxPacketBytes m.header (some m.body)) = ms.map Packet.toBytes := by
      rw [← List.filterMap_eq_map]
      exact List.filterMap_congr fun m hm => asyncSend_of_fits (hms m hm)
    rw [hsent, ← List.flatMap_def] at h
    have hread := readLoop_frames handler [] hms h
    exact ⟨hread, fun hok => by rw [hread, upToRejected_of_accepts hok]⟩
  · have horder := SendSession.wire_run limits es
    refine ⟨readLoop_isPrefix horder.fits (h ▸ horder.part), fun hq => ?_⟩
    have hrest := horder.rest (Or.inr hq)
    rw [hq, List.flatten_nil, List.append_nil, ← h] at hrest
    exact readLoop_frames handler [] horder.fits hrest

/-- A message that the handler rejects is the last one delivered. -/
theorem not_delivered_after_rejected :
    ¬ ∀ (limit : UInt32) (handler : PacketHandler) (ms : List Packet),
      (∀ m ∈ ms, m.Fits limit) → ∀ chunks,
      chunks.flatten = (ms.filterMap fun m => asyncSend limit m.header (some m.body)).flatten →
      (readLoop limit handler [] chunks).1 = ms := by
  intro hall
  let m : Packet := ⟨⟨4, (1, 1)⟩, []⟩
  have hfits : ∀ m' ∈ [m, m], m'.Fits 65536 := by
    simp only [List.mem_cons, List.not_mem_nil, or_false, or_self, forall_eq]
    exact ⟨by decide, by decide⟩
  have hchunks : [[m, m].flatMap Packet.toBytes].flatten = [m, m].flatMap Packet.toBytes :=
    List.flatten_singleton
  have hread := readLoop_frames (fun _ _ => false) [] hfits hchunks
  have hms := hall 65536 (fun _ _ => false) [m, m] hfits [[m, m].flatMap Packet.toBytes] (by decide)
  rw [hms] at hread
  exact absurd hread (by decide)

end GameServer
