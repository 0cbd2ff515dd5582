import SmileFee.Bridge
import SmileFee.SimTransfer
import SmileFee.Lib.Feed

/-!
# Two receivers on one stream (`SDPDEV/sdpdev.c:106-261`, `TEST/smile_fee_demo.c:119-277`)

| here | there |
| --- | --- |
| `rmapRxSize` (of `GresbRx`), `pktRxSize` | `rmap_rx(NULL)`, `pkt_rx(NULL)` |
| `recvNb`                 | the loop of both, on a socket that does not block (`sdpdev.c:1256`, `smile_fee_demo.c:653`) |
| `Dpu.poll`               | one call for the size, and if the caller wants it, the one for the packet |

`rmap_rx` serves the control library and `pkt_rx` the tests; both peek at the same socket, and each leaves
alone what is for the other one. A packet for neither stays at the head of the stream for good, and so
does a reply while the library is not waiting for one (`smile_fee_rmap.c:232`).

As the socket does not block, a `recv` that finds nothing returns -1, which the loop takes for a number
of bytes: it steps back by one in its buffer and asks for one more. **`polls_in_sync`**: the receivers
stay in step with the packets exactly if that never happens; then each gets its own packets in order.
-/

namespace SmileFee

open Word

/-! ## The receivers -/

/-- The first branch of both (`sdpdev.c:124-149`, `:216-240`), for the protocol id that is looked for: what is
returned, and what is left in `static uint32_t pkt_size`. -/
def rxSize (id : U8) (stream : List U8) (pktSize : Nat) : Nat × Nat :=
  let gresbHdr := stream.take 6
  let recvBytes := gresbHdr.length
  if recvBytes ≤ 0 then (0, pktSize)
  else if recvBytes < 4 + 2 then (0, pktSize)
  else
    let pktSize := if gresbHdr.getD 5 0 = id then gresbGetSpwDataSize gresbHdr else 0
    (pktSize, pktSize)

theorem rmapRxSize_eq_rxSize : rmapRxSize = rxSize (BitVec.ofNat 8 RMAP_PROTOCOL_ID) := rfl

/-- `pkt_rx(NULL)`. -/
def pktRxSize : List U8 → Nat → Nat × Nat := rxSize FEE_DATA_PROTOCOL

/-- What the loop leaves. -/
structure RecvNb where
  recvBytes : Int
  /-- `recv_buffer`; `none` for bytes that were not written. -/
  buf : Int → Option U8
  rest : List U8
  /-- How often `recv` has returned -1. -/
  eagain : Nat

/-- `recv` of `bytes` to `recv_buffer + pos`. -/
def putAt (buf : Int → Option U8) (pos : Int) (bytes : List U8) (i : Int) : Option U8 :=
  if pos ≤ i then (bytes[(i - pos).toNat]?).or (buf i) else buf i

/-- `while (recv_left)` (`sdpdev.c:161`, `:248`): `finds` are the numbers of bytes that are there for the
calls of `recv`. `none` stands for a loop that goes on. -/
def recvNb : List Nat → Nat → Int → (Int → Option U8) → List U8 → Option RecvNb
  | _, 0, recvBytes, buf, stream => some ⟨recvBytes, buf, stream, 0⟩
  | [], _ + 1, _, _, _ => none
  | c :: cs, left + 1, recvBytes, buf, stream =>
    let got := stream.take (min c (left + 1))
    if got.length = 0 then
      -- rb is -1
      (recvNb cs (left + 2) (recvBytes - 1) buf stream).map fun r => { r with eagain := r.eagain + 1 }
    else
      recvNb cs (left + 1 - got.length) (recvBytes + got.length) (putAt buf recvBytes got) (stream.drop got.length)

inductive Receiver where
  | rmapRx
  | pktRx
deriving DecidableEq

/-- The two programs. Their receivers differ in what `pkt_rx` returns (`sdpdev.c:184`, `smile_fee_demo.c:195`). -/
inductive DpuProgram where
  | sdpdev
  | smileFeeDemo
deriving DecidableEq

/-- The socket of a program, and the two `static uint32_t pkt_size`. -/
structure Dpu where
  prog : DpuProgram
  stream : List U8
  rmapSize : Nat := 0
  pktSize : Nat := 0

/-- A call for the size of the next packet, when `avail` bytes are there, and whether the caller wants it. -/
structure Poll where
  receiver : Receiver
  avail : Nat
  wanted : Bool
  finds : List Nat

/-- A packet as the caller gets it. -/
structure Fetched where
  receiver : Receiver
  announced : Nat
  ret : Nat
  /-- The bytes written from `pkt` on, as in `RxDone`. -/
  written : List (Option U8)
deriving DecidableEq

inductive PollAnswer where
  | nothing
  | fetched (f : Fetched) (eagain : Nat)
  | busy
deriving DecidableEq

/-- The call for the packet (`sdpdev.c:156-187`, `:243-260`). -/
def Dpu.fetch (s : Dpu) (receiver : Receiver) (announced : Nat) (finds : List Nat) : PollAnswer × Dpu :=
  match recvNb finds (announced + 4) 0 (fun _ => none) s.stream with
  | none => (.busy, s)
  | some r =>
    -- `memcpy(pkt, gresb_get_spw_data(recv_buffer), recv_bytes)`
    let written := (List.range r.recvBytes.toNat).map fun i : Nat => r.buf (4 + i)
    let ret := match receiver, s.prog with
      | .pktRx, .sdpdev => announced
      | _, _ => r.recvBytes.toNat
    (.fetched ⟨receiver, announced, ret, written⟩ r.eagain, { s with stream := r.rest })

def Dpu.poll (s : Dpu) (p : Poll) : PollAnswer × Dpu :=
  let (announced, s) := match p.receiver with
    | .rmapRx =>
      let (n, size) := rmapRxSize (s.stream.take p.avail) s.rmapSize
      (n, { s with rmapSize := size })
    | .pktRx =>
      let (n, size) := pktRxSize (s.stream.take p.avail) s.pktSize
      (n, { s with pktSize := size })
  if announced = 0 ∨ p.wanted = false then (.nothing, s) else s.fetch p.receiver announced p.finds

/-! ## The loop -/

theorem putAt_of_lt {buf : Int → Option U8} {pos i : Int} (h : i < pos) (bytes : List U8) :
    putAt buf pos bytes i = buf i := if_neg (by omega)

theorem putAt_add {buf : Int → Option U8} {pos : Int} {bytes : List U8} {j : Nat} (h : j < bytes.length) :
    putAt buf pos bytes (pos + j) = bytes[j]? := by
  have hj : (pos + j - pos).toNat = j := by omega
  rw [putAt, if_pos (by omega), hj, List.getElem?_eq_getElem h, Option.some_or]

/-- The count ends where it would have ended, but for every call that found nothing one byte more has been
taken. -/
theorem recvNb_some {finds : List Nat} {left : Nat} {pos : Int} {buf : Int → Option U8} {stream : List U8}
    {r : RecvNb} (h : recvNb finds left pos buf stream = some r) :
    r.recvBytes = pos + left ∧ r.rest = stream.drop (left + r.eagain) ∧ left + r.eagain ≤ stream.length := by
  induction finds generalizing left pos buf stream r with
  | nil =>
    cases left with
    | zero =>
      cases h
      simp
    | succ left => cases h
  | cons c cs ih =>
    cases left with
    | zero =>
      cases h
      simp
    | succ left =>
      rw [recvNb] at h
      split at h
      · obtain ⟨r', hr, rfl⟩ := Option.map_eq_some_iff.1 h
        obtain ⟨hbytes, hrest, hle⟩ := ih hr
        have hadd : left + 2 + r'.eagain = left + 1 + (r'.eagain + 1) := by omega
        exact ⟨by rw [hbytes]; push_cast; omega, by rw [hrest, hadd], hadd ▸ hle⟩
      · have hgot : (stream.take (min c (left + 1))).length ≤ left + 1 := by
          rw [List.length_take]
          omega
        have hlen : (stream.take (min c (left + 1))).length ≤ stream.length := by
          rw [List.length_take]
          omega
        obtain ⟨hbytes, hrest, hle⟩ := ih h
        rw [List.length_drop] at hle
        refine ⟨by rw [hbytes]; push_cast; omega, ?_, by omega⟩
        rw [hrest, List.drop_drop]
        congr 1
        omega

/-- If every call has found something, the buffer holds the head of the stream. -/
theorem recvNb_buf {finds : List Nat} {left : Nat} {pos : Int} {buf : Int → Option U8} {stream : List U8}
    {r : RecvNb} (h : recvNb finds left pos buf stream = some r) (h0 : r.eagain = 0) :
    (∀ i < pos, r.buf i = buf i) ∧ (∀ j < left, r.buf (pos + j) = stream[j]?) ∧
      ∀ i, pos + left ≤ i → r.buf i = buf i := by
  induction finds generalizing left pos buf stream r with
  | nil =>
    cases left with
    | zero =>
      cases h
      simp
    | succ left => cases h
  | cons c cs ih =>
    cases left with
    | zero =>
      cases h
      simp
    | succ left =>
      rw [recvNb] at h
      split at h
      · obtain ⟨r', -, rfl⟩ := Option.map_eq_some_iff.1 h
        cases h0
      · obtain ⟨hbelow, hin, habove⟩ := ih h h0
        have hgot : (stream.take (min c (left + 1))).length ≤ left + 1 := by
          rw [List.length_take]
          omega
        generalize hg : stream.take (min c (left + 1)) = got at *
        have hhead (j : Nat) (hj : j < got.length) : got[j]? = stream[j]? := by
          rw [← hg, List.length_take] at hj
          rw [← hg, List.getElem?_take_of_lt (by omega)]
        refine ⟨fun i hi => ?_, fun j hj => ?_, fun i hi => ?_⟩
        · rw [hbelow i (by omega), putAt_of_lt hi]
        · by_cases hjg : j < got.length
          · rw [hbelow _ (by omega), putAt_add hjg, hhead j hjg]
          · have hnext := hin (j - got.length) (by omega)
            have hpos : pos + got.length + ((j - got.length : Nat) : Int) = pos + j := by omega
            rw [hpos, List.getElem?_drop] at hnext
            rw [hnext]
            congr 1
            omega
        · rw [habove i (by omega)]
          have hnone : got[(i - pos).toNat]? = none := List.getElem?_eq_none (by omega)
          rw [putAt, if_pos (by omega), hnone, Option.none_or]

/-! ## A poll -/

/-- The id that a receiver looks for. -/
def Receiver.id : Receiver → U8
  | .rmapRx => BitVec.ofNat 8 RMAP_PROTOCOL_ID
  | .pktRx => FEE_DATA_PROTOCOL

/-- A packet is for a receiver. -/
def Receiver.For (w : Receiver) (p : GresbPkt) : Prop := p.data.getD 1 0 = w.id

instance (w : Receiver) (p : GresbPkt) : Decidable (w.For p) := inferInstanceAs (Decidable (_ = _))

theorem Receiver.For.unique {w w' : Receiver} {p : GresbPkt} (h : w.For p) (h' : w'.For p) : w = w' := by
  have hid : w.id = w'.id := h.symm.trans h'
  cases w <;> cases w' <;> first | rfl | exact absurd hid (by decide)

/-- What a receiver makes of a packet that it takes whole: four bytes more than there are, as in
`rmapRx_overruns`. -/
def Receiver.gets (w : Receiver) (prog : DpuProgram) (p : GresbPkt) : Fetched where
  receiver := w
  announced := p.data.length
  ret := match w, prog with
    | .pktRx, .sdpdev => p.data.length
    | _, _ => p.data.length + 4
  written := p.data.map some ++ List.replicate 4 none

section

variable (p : GresbPkt) (rest : List U8)

/-- The peek looks at the packet at the head, if that has an id. -/
theorem rxSize_head (htwo : 2 ≤ p.data.length) (id : U8) (avail pktSize : Nat) :
    (rxSize id ((p.bytes ++ rest).take avail) pktSize).1 =
      if 6 ≤ avail ∧ p.data.getD 1 0 = id then p.data.length else 0 := by
  have hlen : (((p.bytes ++ rest).take avail).take 6).length = min 6 avail := by
    rw [List.take_take, List.length_take, List.length_append, p.length_bytes]
    omega
  rw [rxSize]
  dsimp only
  rw [hlen]
  by_cases havail : 6 ≤ avail
  · have hid : (((p.bytes ++ rest).take avail).take 6).getD 5 0 = p.data.getD 1 0 := by
      rw [List.take_take, Nat.min_eq_left havail, List.getD_eq_getElem?_getD, List.getD_eq_getElem?_getD,
        List.getElem?_take_of_lt (by decide), List.getElem?_append_left (by rw [p.length_bytes]; omega)]
      rfl
    have hsize : gresbGetSpwDataSize (((p.bytes ++ rest).take avail).take 6) = p.data.length := by
      rw [List.take_take, Nat.min_eq_left havail, gresbGetSpwDataSize_take (by decide), p.spwDataSize_bytes]
    rw [if_neg (by omega), if_neg (by omega), hid, hsize]
    simp [havail]
  · have hshort : min 6 avail < 4 + 2 := by omega
    have hno : ¬ (6 ≤ avail ∧ p.data.getD 1 0 = id) := fun h => havail h.1
    rw [if_pos hshort, if_neg hno]
    split <;> rfl

/-- The loop on the packet at the head. -/
theorem fetch_head {s : Dpu} (hs : s.stream = p.bytes ++ rest) (w : Receiver) (finds : List Nat) :
    s.fetch w p.data.length finds = (.busy, s) ∨
      ∃ f j, s.fetch w p.data.length finds = (.fetched f j, { s with stream := s.stream.drop (p.bytes.length + j) }) ∧
        p.bytes.length + j ≤ s.stream.length ∧ (j = 0 → f = w.gets s.prog p) := by
  rw [Dpu.fetch]
  cases hloop : recvNb finds (p.data.length + 4) 0 (fun _ => none) s.stream with
  | none => exact .inl rfl
  | some r =>
    obtain ⟨hbytes, hrest, hle⟩ := recvNb_some hloop
    have hcount : r.recvBytes.toNat = p.data.length + 4 := by omega
    rw [← p.length_bytes] at hrest hle
    refine .inr ⟨_, r.eagain, by rw [← hrest], hle, fun h0 => ?_⟩
    · obtain ⟨-, hin, habove⟩ := recvNb_buf hloop h0
      have hbuf (i : Nat) (_ : i < p.data.length + 4) : r.buf (4 + i) = p.data[i]? := by
        by_cases hi : i < p.data.length
        · have hread := hin (4 + i) (by omega)
          rw [Int.zero_add] at hread
          rw [show (4 : Int) + i = ((4 + i : Nat) : Int) by push_cast; rfl, hread, hs,
            List.getElem?_append_left (by rw [p.length_bytes]; omega), ← List.getElem?_drop, p.drop_bytes]
        · rw [habove _ (by omega), List.getElem?_eq_none (by omega)]
      have hwritten : ((List.range (p.data.length + 4)).map fun i : Nat => r.buf (4 + i)) =
          p.data.map some ++ List.replicate 4 none := by
        rw [← map_getElem?_range]
        exact List.map_congr_left fun i hi => hbuf i (List.mem_range.1 hi)
      simp only [hcount, hwritten]
      cases w <;> rfl

end

/-- The two receivers differ in the id and in the place of the size. -/
theorem poll_eq (s : Dpu) (a : Poll) : ∃ (s₁ : Dpu) (z : Nat), s₁.prog = s.prog ∧ s₁.stream = s.stream ∧
    s.poll a = if (rxSize a.receiver.id (s.stream.take a.avail) z).1 = 0 ∨ a.wanted = false then (.nothing, s₁)
      else s₁.fetch a.receiver (rxSize a.receiver.id (s.stream.take a.avail) z).1 a.finds := by
  obtain ⟨w, avail, wanted, finds⟩ := a
  cases w with
  | rmapRx =>
    exact ⟨{ s with rmapSize := (rxSize Receiver.rmapRx.id (s.stream.take avail) s.rmapSize).2 }, s.rmapSize, rfl, rfl, rfl⟩
  | pktRx =>
    exact ⟨{ s with pktSize := (rxSize Receiver.pktRx.id (s.stream.take avail) s.pktSize).2 }, s.pktSize, rfl, rfl, rfl⟩

theorem prog_fetch (s : Dpu) (w : Receiver) (announced : Nat) (finds : List Nat) :
    (s.fetch w announced finds).2.prog = s.prog := by
  rw [Dpu.fetch]
  split <;> rfl

theorem prog_poll (s : Dpu) (a : Poll) : (s.poll a).2.prog = s.prog := by
  obtain ⟨s₁, z, hprog, -, hpoll⟩ := poll_eq s a
  rw [hpoll]
  split
  · exact hprog
  · rw [prog_fetch, hprog]

theorem prog_feed (s : Dpu) (polls : List Poll) : (Feed.feed Dpu.poll s polls).2.prog = s.prog := by
  induction polls generalizing s with
  | nil => rfl
  | cons a polls ih => exact (ih (s.poll a).2).trans (prog_poll s a)

def PollAnswer.fetched? : PollAnswer → Option Fetched
  | .fetched f _ => some f
  | _ => none

/-- All that a poll can do when a packet begins at the head of the stream. -/
theorem poll_cases_head {s : Dpu} {ps : List GresbPkt} (htwo : ∀ p ∈ ps, 2 ≤ p.data.length)
    (hs : s.stream = ps.flatMap GresbPkt.bytes) (a : Poll) :
    ((s.poll a).1.fetched? = none ∧ (s.poll a).2.stream = s.stream) ∨
      ∃ p ps' f j, ps = p :: ps' ∧ a.receiver.For p ∧ (s.poll a).1 = .fetched f j ∧
        (s.poll a).2.stream = s.stream.drop (p.bytes.length + j) ∧ p.bytes.length + j ≤ s.stream.length ∧
        (j = 0 → f = a.receiver.gets s.prog p) := by
  obtain ⟨s₁, z, hprog, hs₁, hpoll⟩ := poll_eq s a
  rw [hpoll]
  cases ps with
  | nil =>
    have hnone : rxSize a.receiver.id (s.stream.take a.avail) z = (0, z) := by
      rw [hs, List.flatMap_nil, List.take_nil]
      rfl
    rw [hnone, if_pos (Or.inl rfl)]
    exact .inl ⟨rfl, hs₁⟩
  | cons p ps =>
    rw [List.flatMap_cons] at hs
    rw [hs, rxSize_head p _ (htwo p List.mem_cons_self), ← hs]
    by_cases hhead : 6 ≤ a.avail ∧ p.data.getD 1 0 = a.receiver.id
    · rw [if_pos hhead]
      by_cases hwants : p.data.length = 0 ∨ a.wanted = false
      · rw [if_pos hwants]
        exact .inl ⟨rfl, hs₁⟩
      · rw [if_neg hwants]
        obtain hbusy | ⟨f, j, hf, hle, hgets⟩ := fetch_head p _ (hs₁.trans hs) a.receiver a.finds
        · rw [hbusy]
          exact .inl ⟨rfl, hs₁⟩
        · rw [hf]
          rw [hs₁] at hle ⊢
          rw [hprog] at hgets
          exact .inr ⟨p, ps, f, j, rfl, hhead.2, rfl, rfl, hle, hgets⟩
    · rw [if_neg hhead, if_pos (Or.inl rfl)]
      exact .inl ⟨rfl, hs₁⟩

/-! ## Runs -/

/-- A poll takes a packet whole, or nothing. -/
def Dpu.Takes (s : Dpu) (a : Poll) : Prop :=
  ∀ f j, (s.poll a).1 = .fetched f j → (s.poll a).2.stream = s.stream.drop (gresbGetSpwDataSize s.stream + 4)

/-- Every `recv` of the loop has found something. -/
def Dpu.Found (s : Dpu) (a : Poll) : Prop := ∀ f j, (s.poll a).1 = .fetched f j → j = 0

/-- A packet is there as a whole when it is asked for. -/
structure Poll.Whole (a : Poll) (p : GresbPkt) : Prop where
  avail : 6 ≤ a.avail
  wanted : a.wanted = true
  pos : ∀ c ∈ a.finds, 0 < c
  enough : p.bytes.length ≤ a.finds.length

theorem takes_iff_found {s : Dpu} {ps : List GresbPkt} (htwo : ∀ p ∈ ps, 2 ≤ p.data.length)
    (hs : s.stream = ps.flatMap GresbPkt.bytes) (a : Poll) : s.Takes a ↔ s.Found a := by
  obtain ⟨hnone, -⟩ | ⟨p, ps', f, j, rfl, -, hf, hstream, hle, -⟩ := poll_cases_head htwo hs a
  · have hno (f : Fetched) (j : Nat) : (s.poll a).1 ≠ .fetched f j := by
      intro h
      rw [h] at hnone
      cases hnone
    exact iff_of_true (fun f j h => absurd h (hno f j)) (fun f j h => absurd h (hno f j))
  · have hsize : gresbGetSpwDataSize s.stream + 4 = p.bytes.length := by
      rw [hs, List.flatMap_cons, p.spwDataSize_bytes, p.length_bytes]
    constructor
    · intro htakes f' j' h'
      have hdrop := htakes f j hf
      rw [hstream, hsize] at hdrop
      have hlen := congrArg List.length hdrop
      rw [List.length_drop, List.length_drop] at hlen
      rw [hf] at h'
      cases h'
      omega
    · intro hfound f' j' h'
      rw [hstream, hsize, hfound f j hf]
      rfl

/-- One poll in step. -/
theorem Dpu.Found.step {s : Dpu} {ps : List GresbPkt} (htwo : ∀ p ∈ ps, 2 ≤ p.data.length)
    (hs : s.stream = ps.flatMap GresbPkt.bytes) {a : Poll} (h : s.Found a) :
    ((s.poll a).1.fetched? = none ∧ (s.poll a).2.stream = ps.flatMap GresbPkt.bytes) ∨
      ∃ p ps', ps = p :: ps' ∧ a.receiver.For p ∧ (s.poll a).1.fetched? = some (a.receiver.gets s.prog p) ∧
        (s.poll a).2.stream = ps'.flatMap GresbPkt.bytes := by
  obtain ⟨hnone, hsame⟩ | ⟨p, ps', f, j, rfl, hfor, hf, hstream, -, hgets⟩ := poll_cases_head htwo hs a
  · exact .inl ⟨hnone, hsame.trans hs⟩
  · have hj := h f j hf
    refine .inr ⟨p, ps', rfl, hfor, by rw [hf, hgets hj]; rfl, ?_⟩
    rw [hstream, hj, hs, List.flatMap_cons, Nat.add_zero, List.drop_left]

theorem recvNb_isSome {finds : List Nat} {left : Nat} {pos : Int} {buf : Int → Option U8} {stream : List U8}
    (hpos : ∀ c ∈ finds, 0 < c) (hlen : left ≤ finds.length) (hstream : left ≤ stream.length) :
    ∃ r, recvNb finds left pos buf stream = some r ∧ r.eagain = 0 := by
  induction finds generalizing left pos buf stream with
  | nil =>
    obtain rfl := Nat.le_zero.1 hlen
    exact ⟨_, by rw [recvNb], rfl⟩
  | cons c cs ih =>
    cases left with
    | zero => exact ⟨_, by rw [recvNb], rfl⟩
    | succ left =>
      have hc : 0 < c := hpos c List.mem_cons_self
      have hgot : 0 < (stream.take (min c (left + 1))).length := by
        rw [List.length_take]
        omega
      rw [recvNb, if_neg (by omega)]
      rw [List.length_cons] at hlen
      refine ih (fun x hx => hpos x (List.mem_cons_of_mem _ hx)) (by omega) ?_
      rw [List.length_drop]
      rw [List.length_take] at hgot ⊢
      omega

/-- A packet that is there as a whole is fetched by its receiver. -/
theorem poll_whole {s : Dpu} {p : GresbPkt} {rest : List U8} (hs : s.stream = p.bytes ++ rest)
    (htwo : 2 ≤ p.data.length) {a : Poll} (hfor : a.receiver.For p) (hwhole : a.Whole p) :
    (s.poll a).1 = .fetched (a.receiver.gets s.prog p) 0 := by
  obtain ⟨s₁, z, hprog, hs₁, hpoll⟩ := poll_eq s a
  have hid : p.data.getD 1 0 = a.receiver.id := hfor
  have hne : ¬ (p.data.length = 0 ∨ a.wanted = false) := by
    rintro (h0 | hno)
    · omega
    · rw [hwhole.wanted] at hno
      cases hno
  have hsize := rxSize_head p rest htwo a.receiver.id a.avail z
  rw [if_pos ⟨hwhole.avail, hid⟩, ← hs] at hsize
  rw [hpoll, hsize, if_neg hne]
  have hstream : p.data.length + 4 ≤ s₁.stream.length := by
    rw [hs₁, hs, List.length_append, p.length_bytes]
    omega
  have henough : p.data.length + 4 ≤ a.finds.length := by
    rw [← p.length_bytes]
    exact hwhole.enough
  obtain ⟨r, hr, h0⟩ := @recvNb_isSome a.finds _ 0 (fun _ => none) _ hwhole.pos henough hstream
  obtain hbusy | ⟨f, j, hf, -, hgets⟩ := fetch_head p rest (hs₁.trans hs) a.receiver a.finds
  · rw [Dpu.fetch, hr] at hbusy
    cases hbusy
  · have hj : j = 0 := by
      rw [Dpu.fetch, hr] at hf
      obtain ⟨-, rfl⟩ := PollAnswer.fetched.inj (congrArg Prod.fst hf)
      exact h0
    rw [hf, hgets hj, hj, hprog]

/-- The packets that one of the receivers has fetched. -/
def fetchedBy (w : Receiver) (answers : List PollAnswer) : List Fetched :=
  (answers.filterMap PollAnswer.fetched?).filter fun f => f.receiver = w

/-- In step, each receiver fetches what is for it. -/
theorem found_run {s : Dpu} {ps : List GresbPkt} (htwo : ∀ p ∈ ps, 2 ≤ p.data.length)
    (hs : s.stream = ps.flatMap GresbPkt.bytes) {polls : List Poll} (h : Feed.Along Dpu.poll Dpu.Found s polls) :
    ∃ k ≤ ps.length, (Feed.feed Dpu.poll s polls).2.stream = (ps.drop k).flatMap GresbPkt.bytes ∧
      (∀ w, fetchedBy w (Feed.feed Dpu.poll s polls).1 = ((ps.take k).filter fun p => w.For p).map (w.gets s.prog)) ∧
      ∀ p ∈ ps.take k, ∃ w : Receiver, w.For p := by
  induction polls generalizing s ps with
  | nil => exact ⟨0, Nat.zero_le _, hs, fun w => rfl, by simp⟩
  | cons a polls ih =>
    obtain ⟨hfound, h⟩ := h
    obtain ⟨hnone, hstream⟩ | ⟨p, ps', rfl, hfor, hsome, hstream⟩ := hfound.step htwo hs
    · obtain ⟨k, hk, hrest, hgot, hall⟩ := ih htwo hstream h
      rw [prog_poll] at hgot
      refine ⟨k, hk, hrest, fun w => ?_, hall⟩
      rw [← hgot w, fetchedBy, Feed.feed, List.filterMap_cons_none hnone]
      rfl
    · obtain ⟨k, hk, hrest, hgot, hall⟩ := ih (fun q hq => htwo q (List.mem_cons_of_mem _ hq)) hstream h
      rw [prog_poll] at hgot
      refine ⟨k + 1, Nat.succ_le_succ hk, hrest, fun w => ?_, ?_⟩
      · have htail := hgot w
        rw [fetchedBy] at htail
        rw [fetchedBy, Feed.feed, List.filterMap_cons_some hsome, List.filter_cons, htail, List.take_succ_cons,
          List.filter_cons]
        by_cases hw : w = a.receiver
        · subst hw
          have hself : decide ((a.receiver.gets s.prog p).receiver = a.receiver) = true := decide_eq_true rfl
          rw [if_pos hself, if_pos (decide_eq_true hfor), List.map_cons]
        · have hne : ¬ (a.receiver.gets s.prog p).receiver = w := fun h => hw h.symm
          have hno : ¬ w.For p := fun h => hw (h.unique hfor)
          rw [if_neg (by simpa using hne), if_neg (by simpa using hno)]
      · intro q hq
        rw [List.take_succ_cons, List.mem_cons] at hq
        rcases hq with rfl | hq
        · exact ⟨_, hfor⟩
        · exact hall q hq

/-- **The receivers stay in step with the packets exactly if no `recv` finds nothing.** On a stream of
packets of at least two bytes of data, in every run of polls by either receiver, however much has come
at each of them:

* every poll takes a packet whole or nothing, if and only if every call of the loops has found something;
* then what is taken are the first packets of the stream, each by the receiver whose id it has, so that
  each gets its own in order and nothing behind a packet that is for neither;
* the packet at the head of what is left is fetched by its receiver as soon as it is there as a whole. -/
theorem polls_in_sync {ps : List GresbPkt} (htwo : ∀ p ∈ ps, 2 ≤ p.data.length) {s : Dpu}
    (hs : s.stream = ps.flatMap GresbPkt.bytes) (polls : List Poll) :
    (Feed.Along Dpu.poll Dpu.Takes s polls ↔ Feed.Along Dpu.poll Dpu.Found s polls) ∧
    (Feed.Along Dpu.poll Dpu.Found s polls → ∃ k ≤ ps.length,
      (Feed.feed Dpu.poll s polls).2.stream = (ps.drop k).flatMap GresbPkt.bytes ∧
      (∀ w, fetchedBy w (Feed.feed Dpu.poll s polls).1 = ((ps.take k).filter fun p => w.For p).map (w.gets s.prog)) ∧
      (∀ p ∈ ps.take k, ∃ w : Receiver, w.For p) ∧
      ∀ (a : Poll) (p : GresbPkt), ps[k]? = some p → a.receiver.For p → a.Whole p →
        ((Feed.feed Dpu.poll s polls).2.poll a).1 = .fetched (a.receiver.gets s.prog p) 0) := by
  constructor
  · refine @Feed.along_congr _ _ _ _ (fun s => ∃ ps : List GresbPkt, (∀ p ∈ ps, 2 ≤ p.data.length) ∧
      s.stream = ps.flatMap GresbPkt.bytes) _ _ ?_ ?_ s ⟨ps, htwo, hs⟩ polls
    · rintro s a ⟨ps, htwo, hs⟩
      exact takes_iff_found htwo hs a
    · rintro s a ⟨ps, htwo, hs⟩ hfound
      obtain ⟨-, hstream⟩ | ⟨p, ps', rfl, -, -, hstream⟩ := hfound.step htwo hs
      · exact ⟨ps, htwo, hstream⟩
      · exact ⟨ps', fun q hq => htwo q (List.mem_cons_of_mem _ hq), hstream⟩
  · intro hfound
    obtain ⟨k, hk, hrest, hgot, hall⟩ := found_run htwo hs hfound
    refine ⟨k, hk, hrest, hgot, hall, fun a p hp hfor hwhole => ?_⟩
    obtain ⟨hlt, hget⟩ := List.getElem?_eq_some_iff.1 hp
    have hhead : (Feed.feed Dpu.poll s polls).2.stream = p.bytes ++ (ps.drop (k + 1)).flatMap GresbPkt.bytes := by
      rw [hrest, List.drop_eq_getElem_cons hlt, hget, List.flatMap_cons]
    rw [← prog_feed s polls]
    exact poll_whole hhead (htwo p (List.mem_of_getElem? hp)) hfor hwhole

/-- A reply and a data packet. The reply comes in two pieces: if the second one is there in time, each
receiver gets what is for it; if not, a byte of the reply is lost, and the first one of the data packet is
taken with it. -/
theorem polls_in_sync_split :
    let reply : GresbPkt := ⟨0, [0x50, 0x01, 0x2C, 0x00, 0x51, 0x00, 0x01, 0xED], by decide⟩
    let data : GresbPkt := ⟨0, [0x50, 0xF0, 0x00, 0x02, 0xAA, 0xBB], by decide⟩
    let s : Dpu := { prog := .smileFeeDemo, stream := [reply, data].flatMap GresbPkt.bytes }
    let polls : List Poll := [⟨.pktRx, 9, true, [22]⟩, ⟨.rmapRx, 9, true, [9, 3]⟩, ⟨.pktRx, 10, true, [10]⟩]
    let late : List Poll := [⟨.rmapRx, 9, true, [9, 0, 4]⟩]
    fetchedBy .rmapRx (Feed.feed Dpu.poll s polls).1 = [Receiver.rmapRx.gets .smileFeeDemo reply] ∧
      fetchedBy .pktRx (Feed.feed Dpu.poll s polls).1 = [Receiver.pktRx.gets .smileFeeDemo data] ∧
      (Feed.feed Dpu.poll s late).2.stream = data.bytes.drop 1 ∧ ¬ Feed.Along Dpu.poll Dpu.Takes s late := by
  intro reply data s polls late
  have htwo : ∀ p ∈ [reply, data], 2 ≤ p.data.length := by
    intro p hp
    simp only [List.mem_cons, List.not_mem_nil, or_false] at hp
    rcases hp with rfl | rfl <;> decide
  refine ⟨by decide, by decide, by decide, fun htakes => ?_⟩
  have hfound := (@polls_in_sync _ htwo s rfl late).1.1 htakes
  have hslip : (s.poll ⟨.rmapRx, 9, true, [9, 0, 4]⟩).1 = .fetched ⟨.rmapRx, 8, 12,
      [some 0x50, some 0x01, some 0x2C, some 0x00, some 0x00, some 0x01, some 0xED, some 0x00, none, none, none, none]⟩ 1 := by
    decide
  exact absurd (hfound.1 _ 1 hslip) (by decide)

end SmileFee
