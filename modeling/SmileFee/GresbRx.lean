import SmileFee.SimModes

/-!
# The receive callback of the clients of the bridge (`SDPDEV/sdpdev.c:197-261`, `TEST/smile_fee_demo.c:210-277`)

`rmap_rx` has the same text in both. It is called twice for a packet (`FEE/smile_fee_rmap.c:230-246`):
without a buffer for the size, and with one for the packet, which comes behind the four bytes of its
GRESB header. **`rmapRx_overruns`**: the second call counts the header as well, in the bytes that it
copies and in what it returns.
-/

namespace SmileFee

open Word

/-- A loop that finds something every time ends. -/
theorem recvLoop_isSome {chunks : List Nat} {left : Nat} {buf stream : List U8} (hpos : ∀ c ∈ chunks, 0 < c)
    (hlen : left ≤ chunks.length) (hstream : left ≤ stream.length) : ∃ r, recvLoop chunks left buf stream = some r := by
  induction chunks generalizing left buf stream with
  | nil =>
    obtain rfl := Nat.le_zero.1 hlen
    exact ⟨buf, by rw [recvLoop]⟩
  | cons c cs ih =>
    cases left with
    | zero => exact ⟨buf, by rw [recvLoop]⟩
    | succ left =>
      have hc : 0 < c := hpos c List.mem_cons_self
      have hlen' := Nat.le_of_succ_le_succ hlen
      rw [recvLoop]
      refine ih (fun x hx => hpos x (List.mem_cons_of_mem _ hx)) ?_ ?_
      · rw [List.length_take]
        omega
      · rw [List.length_drop, List.length_take]
        omega

/-! ## GRESB packets on a stream -/

/-- A packet of the GRESB to a host. The first byte has the bits `truncated` and `eeop`. -/
structure GresbPkt where
  flags : U8
  data : List U8
  lt : data.length < 2 ^ 24

namespace GresbPkt

variable (p : GresbPkt)

def size : U32 := BitVec.ofNat 32 p.data.length

/-- `struct gresb_to_host_pkt` as it lies in memory. -/
def bytes : List U8 := [p.flags, u8 (p.size >>> 16), u8 (p.size >>> 8), u8 p.size] ++ p.data

@[simp] theorem length_bytes : p.bytes.length = p.data.length + 4 := by simp [bytes]

@[simp] theorem drop_bytes : p.bytes.drop 4 = p.data := rfl

/-- The size is read from the first four bytes, whatever follows. -/
theorem spwDataSize_bytes (rest : List U8) : gresbGetSpwDataSize (p.bytes ++ rest) = p.data.length := by
  have hlt := p.lt
  rw [gresbGetSpwDataSize]
  simp only [bytes, List.cons_append, List.getD_cons_succ, List.getD_cons_zero]
  rw [toNat_join24_split, size, BitVec.toNat_ofNat]
  omega

end GresbPkt

/-- The size is in the header. -/
theorem gresbGetSpwDataSize_take {n : Nat} (hn : 4 ≤ n) (buf : List U8) :
    gresbGetSpwDataSize (buf.take n) = gresbGetSpwDataSize buf := by
  have h (i : Nat) (hi : i < 4) : (buf.take n).getD i 0 = buf.getD i 0 := by
    rw [List.getD_eq_getElem?_getD, List.getD_eq_getElem?_getD, List.getElem?_take_of_lt (by omega)]
  rw [gresbGetSpwDataSize, gresbGetSpwDataSize, h 1 (by decide), h 2 (by decide), h 3 (by decide)]

/-- A packet whose second byte of data is the protocol id of RMAP. -/
structure GresbRmapPkt extends GresbPkt where
  two : 2 ≤ data.length
  protoId : data.getD 1 0 = BitVec.ofNat 8 RMAP_PROTOCOL_ID

/-! ## The two calls -/

/-- `rmap_rx(NULL)`, with all that has been sent available to the peek: what it returns, and what it
leaves in `static uint32_t pkt_size`. -/
def rmapRxSize (stream : List U8) (pktSize : Nat) : Nat × Nat :=
  let gresbHdr := stream.take 6
  let recvBytes := gresbHdr.length
  if recvBytes ≤ 0 then (0, pktSize)
  else if recvBytes < 4 + 2 then (0, pktSize)
  else
    let pktSize :=
      if gresbHdr.getD 5 0 = BitVec.ofNat 8 RMAP_PROTOCOL_ID then gresbGetSpwDataSize gresbHdr else 0
    (pktSize, pktSize)

/-- What `rmap_rx(pkt)` has done when it returns. -/
structure RxDone where
  ret : Nat
  /-- The bytes written from `pkt` on; `none` for one that is read behind the end of `recv_buffer`. -/
  written : List (Option U8)
  /-- What is left in the stream. -/
  rest : List U8
deriving DecidableEq

/-- `rmap_rx(pkt)`; `chunks` are the numbers of bytes that the calls of `recv` find there. -/
def rmapRxPkt (chunks : List Nat) (stream : List U8) (pktSize : Nat) : Option RxDone :=
  match recvLoop chunks (pktSize + 4) [] stream with
  | none => none
  | some recvBuffer =>
    let recvBytes := recvBuffer.length
    -- `memcpy(pkt, gresb_get_spw_data(recv_buffer), recv_bytes)`
    some
      { ret := recvBytes
        written := (List.range recvBytes).map fun i => recvBuffer[4 + i]?
        rest := stream.drop recvBytes }

/-- The size announced and what is done with a buffer of that size (`smile_fee_process_rx`). -/
def rmapRxTwice (chunks : List Nat) (stream : List U8) (pktSize : Nat) : Nat × Option RxDone :=
  let (n, pktSize) := rmapRxSize stream pktSize
  (n, rmapRxPkt chunks stream pktSize)

/-! ## What they do -/

section

variable (p : GresbRmapPkt) (rest : List U8) (chunks : List Nat) (pktSize : Nat)

theorem rmapRxSize_eq : rmapRxSize (p.bytes ++ rest) pktSize = (p.data.length, p.data.length) := by
  have htwo := p.two
  have hlen : ((p.bytes ++ rest).take 6).length = 6 := by
    rw [List.length_take, List.length_append, p.length_bytes]
    omega
  have hproto : ((p.bytes ++ rest).take 6).getD 5 0 = BitVec.ofNat 8 RMAP_PROTOCOL_ID := by
    rw [← p.protoId, List.getD_eq_getElem?_getD, List.getD_eq_getElem?_getD, List.getElem?_take_of_lt (by decide),
      List.getElem?_append_left (by rw [p.length_bytes]; omega)]
    rfl
  simp only [rmapRxSize, hlen, hproto, gresbGetSpwDataSize_take (by decide : 4 ≤ 6), p.spwDataSize_bytes]
  rfl

/-- Reading on behind the end of a list. -/
theorem map_getElem?_range {α : Type} (l : List α) (k : Nat) :
    ((List.range (l.length + k)).map fun i => l[i]?) = l.map some ++ List.replicate k none := by
  apply List.ext_getElem (by simp)
  intro i hi _
  rw [List.getElem_map, List.getElem_range, List.getElem_append]
  split
  · rename_i hlt
    rw [List.getElem_map, List.getElem?_eq_getElem]
  · rename_i hge
    rw [List.getElem_replicate, List.getElem?_eq_none]
    simpa using hge

/-- The loop takes exactly this packet out of the stream, however many calls it makes; of the bytes that
are copied the last four were not received. -/
theorem rmapRxTwice_some {n : Nat} {done : RxDone} (h : rmapRxTwice chunks (p.bytes ++ rest) pktSize = (n, some done)) :
    n = p.data.length ∧ done = { ret := n + 4, written := p.data.map some ++ List.replicate 4 none, rest } := by
  simp only [rmapRxTwice, rmapRxSize_eq, Prod.mk.injEq, rmapRxPkt] at h
  obtain ⟨rfl, h⟩ := h
  split at h
  · cases h
  · rename_i recvBuffer hrecv
    have hbuf : recvBuffer = p.bytes := by
      rw [recvLoop_eq hrecv, List.nil_append, List.take_left' p.length_bytes]
    have hwritten : ((List.range (p.data.length + 4)).map fun i => p.bytes[4 + i]?) =
        p.data.map some ++ List.replicate 4 none := by
      rw [← map_getElem?_range]
      simp only [← List.getElem?_drop, p.drop_bytes]
    simp only [hbuf, p.length_bytes, hwritten, List.drop_left' p.length_bytes, Option.some.injEq] at h
    exact ⟨rfl, h.symm⟩

/-- If every call of `recv` finds something, the loop ends. -/
theorem rmapRxTwice_returns (hpos : ∀ c ∈ chunks, 0 < c) (hlen : p.data.length + 4 ≤ chunks.length) :
    ∃ done, rmapRxTwice chunks (p.bytes ++ rest) pktSize = (p.data.length, some done) := by
  have hstream : p.data.length + 4 ≤ (p.bytes ++ rest).length := by
    rw [List.length_append, p.length_bytes]
    exact Nat.le_add_right ..
  obtain ⟨r, hr⟩ := @recvLoop_isSome _ _ [] _ hpos hlen hstream
  simp only [rmapRxTwice, rmapRxSize_eq, rmapRxPkt, hr]
  exact ⟨_, rfl⟩

/-- What `smile_fee_process_rx` relies on. -/
structure RxContract (n : Nat) (done : RxDone) : Prop where
  /-- No more and no less than announced is written. -/
  count : done.written.length = n
  /-- It is the SpaceWire packet, from bytes that were received. -/
  spw : done.written = p.data.map some
  rest : done.rest = rest
  ret : done.ret = n

/-- **The callback writes four bytes more than it has announced**, and returns a size that is four too
large: for every packet, and however the stream is split. -/
theorem rmapRx_overruns : ¬ ∃ n done, rmapRxTwice chunks (p.bytes ++ rest) pktSize = (n, some done) ∧
    RxContract p rest n done := by
  rintro ⟨n, done, h, hc⟩
  obtain ⟨-, rfl⟩ := rmapRxTwice_some p rest chunks pktSize h
  have hret : n + 4 = n := hc.ret
  omega

end

/-- The reply to a write command, all of it there at once. -/
theorem rmapRx_overruns_reply :
    let p : GresbRmapPkt :=
      ⟨⟨0, [0x50, 0x01, 0x2C, 0x00, 0x51, 0x00, 0x01, 0xED], by decide⟩, by decide, by decide⟩
    rmapRxTwice [12] p.bytes 0 = (8, some ⟨12, p.data.map some ++ [none, none, none, none], []⟩) ∧
      ¬ ∃ n done, rmapRxTwice [12] p.bytes 0 = (n, some done) ∧ RxContract p [] n done := by
  intro p
  have hrun : rmapRxTwice [12] p.bytes 0 = (8, some ⟨12, p.data.map some ++ [none, none, none, none], []⟩) := by
    decide
  refine ⟨hrun, ?_⟩
  rintro ⟨n, done, h, hc⟩
  cases hrun.symm.trans h
  exact absurd hc.ret (by decide)

end SmileFee
