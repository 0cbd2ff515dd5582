import SmileFee.Bridge
import SmileFee.Lib.Frames
import SmileFee.Lib.Rounds

/-!
# The simulator as a server (`SIM/smile_fee_sim.c`)

| here | there |
| --- | --- |
| `SimNetCfg`              | `struct sim_net_cfg` (`SIM/fee_sim.h`) |
| `gresbSend`              | a packet of `gresb_create_host_data_pkt` in its `gresb_get_host_data_pkt_size` bytes |
| `distributeTx`, `SimState.turn` | the call of `distribute_tx` (`:123`), and one turn of its loop |
| `feeSendNonRmap`         | `fee_send_non_rmap` (`:665`), and the end of `rmap_sim_rx` (`:650`) |
| `SimState.accept`        | one round of `accept_connections` (`:239`) |
| `simRecv`, `SimState.poll` | `sim_rx` (`:281`), and what `poll_socket` (`:359`) does with its result |

Three threads share the set of sockets: one accepts, one polls, and the main thread sends the packets of
the simulated FEE. The replies of the second one and the packets of the third one are distributed by the same
function, and nothing keeps the two loops apart. So `SimEvent` is the arrival of bytes, a connection, the taking and
serving of a command, the start of a data packet, or a turn of one of the two loops, which sends to one socket.
`send_all` (`:96`) is assumed to send all it is given at once, and a command to be served at once. When `send` fails,
`send_all` returns what is left and not −1, so that `distribute_tx` never drops a peer (`:144`).

**`simServer_refines`** says what this comes to: the commands are served one after the other; what is taken from
a peer are the packets it has sent, in order and once; and of either thread a peer is sent the packets that have passed
it since it was accepted, in order and once. It can see a reply and a data packet in another order than its neighbour.
-/

namespace SmileFee

open Word

/-! ## Packets of the host -/

/-- `gresb_get_host_data_pkt_size` (`gresb.c:170`). -/
def gresbGetHostDataPktSize (buf : List U8) : Nat :=
  4 + if buf.getD 0 0 = GRESB_FROM_HOST_DATA then gresbGetSpwDataSize buf else 0

/-- `send` of a packet of the host in its size. -/
def gresbSend (data : List U8) : List U8 :=
  (gresbCreateHostDataPkt data).take (gresbGetHostDataPktSize (gresbCreateHostDataPkt data))

theorem gresbGetHostDataPktSize_create (data : List U8) :
    gresbGetHostDataPktSize (gresbCreateHostDataPkt data) = data.length % 2 ^ 24 + 4 := by
  have hproto : (gresbCreateHostDataPkt data).getD 0 0 = GRESB_FROM_HOST_DATA := rfl
  rw [gresbGetHostDataPktSize, if_pos hproto, gresbGetSpwDataSize_create, Nat.add_comm]

/-- How packets are told apart on a socket in the format of the GRESB. -/
def gresbFraming : Framing U8 where
  hdr := 4
  size s := gresbGetSpwDataSize s + 4
  hdr_pos := by decide
  hdr_le _ := Nat.le_add_left _ _
  size_append s t h := by
    rw [← gresbGetSpwDataSize_take (le_refl 4) (s ++ t), List.take_append_of_le_length h,
      gresbGetSpwDataSize_take (le_refl 4)]

theorem gresbSend_eq {data : List U8} (h : data.length < 2 ^ 24) : gresbSend data = gresbCreateHostDataPkt data := by
  rw [gresbSend, gresbGetHostDataPktSize_create, Nat.mod_eq_of_lt h]
  exact List.take_of_length_le (by rw [length_gresbCreateHostDataPkt])

/-! ## The sockets -/

structure SimNetCfg where
  raw : Bool
  nFd : Nat := 0
  set : Finset Nat := ∅

/-- The two threads that send. -/
inductive Sender where
  | poll
  | main
deriving DecidableEq

/-- A call of `distribute_tx` that has come to `fdc`. -/
structure Push where
  buf : List U8
  len : Nat
  fdc : Nat := 0

/-- A socket: what the peer has sent and was not received, and the calls of `send_all`. -/
structure Sock where
  rx : List U8 := []
  tx : List (Sender × List U8) := []

structure SimState where
  cfg : SimNetCfg
  sock : Nat → Sock
  mem : Mem
  push : Sender → Option Push := fun _ => none

/-- What is sent of the packet to a socket (`:135`). -/
def Push.wire (raw : Bool) (p : Push) : List U8 :=
  if raw then (gresbGetSpwData p.buf).take (gresbGetSpwDataSize p.buf) else p.buf.take p.len

/-- `distribute_tx` (`:123`) up to its loop. -/
def distributeTx (s : SimState) (who : Sender) (buf : List U8) (len : Nat) : SimState :=
  { s with push := Function.update s.push who (some { buf, len }) }

/-- A turn of the loop of `distribute_tx`. -/
def SimState.turn (s : SimState) (who : Sender) : SimState :=
  match s.push who with
  | none => s
  | some p =>
    if p.fdc ≤ s.cfg.nFd then
      { s with
        sock :=
          if p.fdc ∈ s.cfg.set then
            let sock := s.sock p.fdc
            Function.update s.sock p.fdc { sock with tx := sock.tx ++ [(who, p.wire s.cfg.raw)] }
          else s.sock
        push := Function.update s.push who (some { p with fdc := p.fdc + 1 }) }
    else { s with push := Function.update s.push who none }

/-- The end of `rmap_sim_rx` (`:650`), and `fee_send_non_rmap` (`:665`). -/
def feeSendNonRmap (s : SimState) (who : Sender) (buf : List U8) : SimState :=
  let gresbPkt := gresbCreateHostDataPkt buf
  distributeTx s who gresbPkt (gresbGetHostDataPktSize gresbPkt)

/-- `accept_connections` (`:239`), with a new socket. -/
def SimState.accept (s : SimState) (fd : Nat) : SimState :=
  { s with
    cfg := { s.cfg with set := insert fd s.cfg.set, nFd := max fd s.cfg.nFd }
    sock := Function.update s.sock fd {} }

/-! ## Receiving -/

/-- What the calls of `recv` come to: how many bytes are there at the first one, which peeks in GRESB
mode; there, how many the calls of the loop find; and what the buffers hold that nothing has written. -/
structure RecvIo where
  avail : Nat
  chunks : List Nat
  heap : Nat → U8
  blob : Mem

/-- What `rmap_sim_rx` is called with (`:337`): in GRESB mode from behind the header on, in the length
that was received. -/
def simBuf (raw : Bool) (heap : Nat → U8) (recvBuffer : List U8) : Buf :=
  if raw then ⟨recvBuffer, heap⟩
  else
    let pkt := gresbGetSpwData recvBuffer
    ⟨pkt ++ (List.range (recvBuffer.length - pkt.length)).map fun i => heap (pkt.length + i), heap⟩

structure Recv where
  ret : Nat
  recvBuffer : List U8
  /-- What is left in the stream. -/
  rest : List U8

/-- `sim_rx` (`:281`) on a socket to which `stream` comes, without what `rmap_sim_rx` does; `none` for a
call that is still waiting. -/
def simRecv (raw : Bool) (io : RecvIo) (stream : List U8) : Option Recv :=
  if raw then
    let recvBuffer := stream.take (min io.avail GRESB_PKT_SIZE_MAX)
    some ⟨recvBuffer.length, recvBuffer, stream.drop recvBuffer.length⟩
  else
    let gresbHdr := stream.take (min io.avail 4)
    if gresbHdr.length < 4 then some ⟨0, [], stream⟩
    else
      let pktSize := gresbGetSpwDataSize gresbHdr + 4
      (recvLoop io.chunks pktSize [] stream).map fun recvBuffer =>
        ⟨recvBuffer.length, recvBuffer, stream.drop recvBuffer.length⟩

/-- What is handed to `rmap_sim_rx`, when all that is sent is there. -/
theorem simRx_eq (raw : Bool) (io : RecvIo) (stream : List U8) (havail : stream.length ≤ io.avail) :
    simRx raw io.chunks io.heap stream = (simRecv raw io stream).bind fun r =>
      if r.ret ≤ 0 then none else some (simBuf raw io.heap r.recvBuffer) := by
  cases raw with
  | true =>
    have htake : stream.take (min io.avail GRESB_PKT_SIZE_MAX) = stream.take GRESB_PKT_SIZE_MAX := by
      rw [List.take_eq_take_iff]
      omega
    simp only [simRx, simRecv, simBuf, if_true, htake, Option.bind_some]
  | false =>
    have htake : stream.take (min io.avail 4) = stream.take 4 := by
      rw [List.take_eq_take_iff]
      omega
    simp only [simRx, simRecv, simBuf, Bool.false_eq_true, if_false, htake]
    split
    · rfl
    · cases recvLoop io.chunks (gresbGetSpwDataSize (stream.take 4) + 4) [] stream <;> rfl

/-- What is received is taken off the head of the stream; in GRESB mode it is a packet, or nothing if
the peek has not found a header. -/
theorem simRecv_some {raw : Bool} {io : RecvIo} {stream : List U8} {r : Recv} (h : simRecv raw io stream = some r) :
    stream = r.recvBuffer ++ r.rest ∧ r.ret = r.recvBuffer.length ∧
      (raw = false → if min io.avail stream.length < 4 then r.recvBuffer = []
        else gresbFraming.IsFrame r.recvBuffer) := by
  cases raw with
  | true =>
    simp only [simRecv, if_true, Option.some.injEq] at h
    subst h
    exact ⟨(take_append_drop_length_take _ _).symm, rfl, by simp⟩
  | false =>
    simp only [simRecv, Bool.false_eq_true, if_false] at h
    have hhdr : (stream.take (min io.avail 4)).length < 4 ↔ min io.avail stream.length < 4 := by
      rw [List.length_take]
      omega
    split at h
    · rename_i hshort
      cases h
      exact ⟨rfl, rfl, fun _ => by rw [if_pos (hhdr.1 hshort)]⟩
    · rename_i hfull
      obtain ⟨recvBuffer, hrecv, rfl⟩ := Option.map_eq_some_iff.1 h
      have hfour : 4 ≤ min io.avail 4 := by
        rw [List.length_take] at hfull
        omega
      have heq := recvLoop_eq hrecv
      have hlen := length_of_recvLoop hrecv
      rw [gresbGetSpwDataSize_take hfour] at heq hlen
      rw [List.nil_append] at heq
      rw [List.length_nil, Nat.zero_add] at hlen
      refine ⟨?_, rfl, fun _ => ?_⟩
      · rw [hlen, heq, List.take_append_drop]
      · rw [if_neg (fun hc => hfull (hhdr.2 hc)), heq]
        refine @Framing.isFrame_take _ gresbFraming _ ?_
        have hle := congrArg List.length heq
        rw [hlen, List.length_take] at hle
        show gresbGetSpwDataSize stream + 4 ≤ stream.length
        omega

/-! ## The three threads -/

/-- A packet that was taken from a socket and handed on, and the reply to it. -/
structure Served where
  fd : Nat
  recvBuffer : List U8
  heap : Nat → U8
  blob : Mem
  reply : List U8

/-- `poll_socket` (`:359`) for a socket that `select` has reported; `none` if `sim_rx` does not return. -/
def SimState.poll (sim : Mirror) (s : SimState) (fd : Nat) (io : RecvIo) : Option (SimState × Option Served) :=
  match simRecv s.cfg.raw io (s.sock fd).rx with
  | none => none
  | some r =>
    let s := { s with sock := Function.update s.sock fd { s.sock fd with rx := r.rest } }
    if r.ret ≤ 0 then
      -- clean up disconnected socket
      some ({ s with cfg := { s.cfg with set := s.cfg.set.erase fd } }, none)
    else
      match rmapSimRx sim io.blob s.mem (simBuf s.cfg.raw io.heap r.recvBuffer) with
      | none => none
      | some (mem, reply) =>
        some (feeSendNonRmap { s with mem := mem } .poll reply, some ⟨fd, r.recvBuffer, io.heap, io.blob, reply⟩)

inductive SimEvent where
  | accept (fd : Nat)
  | arrive (fd : Nat) (bytes : List U8)
  | poll (fd : Nat) (io : RecvIo)
  | send (pkt : List U8)
  | turn (who : Sender)

/-- `none` for what cannot happen: a new socket is not one of those that are open, a thread that is in
`distribute_tx` does nothing else, and the calls that do not return. -/
def SimEvent.exec (sim : Mirror) (s : SimState) : SimEvent → Option (SimState × Option Served)
  | .accept fd => if fd ∈ s.cfg.set then none else some (s.accept fd, none)
  | .arrive fd bytes =>
    some ({ s with sock := Function.update s.sock fd { s.sock fd with rx := (s.sock fd).rx ++ bytes } }, none)
  | .poll fd io =>
    if (s.push .poll).isSome then none
    else if fd ≤ s.cfg.nFd ∧ fd ∈ s.cfg.set then s.poll sim fd io
    else some (s, none)
  | .send pkt => if (s.push .main).isSome then none else some (feeSendNonRmap s .main pkt, none)
  | .turn who => if (s.push who).isNone then none else some (s.turn who, none)

/-- The bytes that a connected peer is sent for a packet. -/
def txBytes (raw : Bool) (data : List U8) : List U8 :=
  let gresbPkt := gresbCreateHostDataPkt data
  Push.wire raw { buf := gresbPkt, len := gresbGetHostDataPktSize gresbPkt }

/-- The simulator with its past: the commands served and the data packets; how many of the packets of either
thread had passed a socket when it was accepted, how many commands were served by then, and what its peer has sent
since. -/
structure SimRun where
  st : SimState
  served : List Served := []
  data : List (List U8) := []
  joined : Nat → Sender → Nat := fun _ _ => 0
  first : Nat → Nat := fun _ => 0
  came : Nat → List U8 := fun _ => []

namespace SimRun

variable (r : SimRun)

/-- The packets whose distribution has begun. -/
def begun : Sender → List (List U8)
  | .poll => r.served.map Served.reply
  | .main => r.data

/-- The two threads as writers that go from socket to socket. -/
def rounds : Rounds Sender (List U8) where
  places := r.st.cfg.set
  last := r.st.cfg.nFd
  items who := (r.begun who).map (txBytes r.st.cfg.raw)
  cursor who := (r.st.push who).map fun p => (p.fdc, p.wire r.st.cfg.raw)
  got fd := (r.st.sock fd).tx
  joined := r.joined

def note : SimEvent → SimRun
  | .accept fd =>
    { r with
      joined := Function.update r.joined fd fun who => r.rounds.passed who fd
      first := Function.update r.first fd r.served.length
      came := Function.update r.came fd [] }
  | .arrive fd bytes => { r with came := Function.update r.came fd (r.came fd ++ bytes) }
  | .send pkt => { r with data := r.data ++ [pkt] }
  | _ => r

def exec (sim : Mirror) (r : SimRun) (e : SimEvent) : Option SimRun :=
  (e.exec sim r.st).map fun after => { r.note e with st := after.1, served := r.served ++ after.2.toList }

def run (sim : Mirror) (r : SimRun) (events : List SimEvent) : Option SimRun := events.foldlM (SimRun.exec sim) r

/-- What was taken from a peer since it was accepted. -/
def takenFrom (fd : Nat) : List (List U8) :=
  ((r.served.drop (r.first fd)).filter fun c => c.fd = fd).map Served.recvBuffer

/-- What was sent to a peer by one of the threads. -/
def gotFrom (who : Sender) (fd : Nat) : List (List U8) := Rounds.sentBy who (r.st.sock fd).tx

/-- The packets of a thread that have passed a peer since it was accepted. -/
def due (who : Sender) (fd : Nat) : List (List U8) :=
  ((r.begun who).take (r.rounds.passed who fd)).drop (r.joined fd who)

end SimRun

/-! ## What it comes to -/

/-- The simulator as it is meant: commands are served one after the other on one memory. -/
inductive Serves (sim : Mirror) (raw : Bool) (mem₀ : Mem) : List Served → Mem → Prop
  | start : Serves sim raw mem₀ [] mem₀
  | command {served : List Served} {mem mem' : Mem} (c : Served) : Serves sim raw mem₀ served mem →
      rmapSimRx sim c.blob mem (simBuf raw c.heap c.recvBuffer) = some (mem', c.reply) →
      Serves sim raw mem₀ (served ++ [c]) mem'

/-- Who is in the set is sent what passes it, and what comes from it is taken in the order in which it came. -/
structure SimRun.Socks (r : SimRun) : Prop where
  rounds : r.rounds.Inv
  first_le : ∀ fd, r.first fd ≤ r.served.length
  came : ∀ fd ∈ r.st.cfg.set, r.came fd = (r.takenFrom fd).flatten ++ (r.st.sock fd).rx
  frames : r.st.cfg.raw = false → ∀ fd, ∀ p ∈ r.takenFrom fd, gresbFraming.IsFrame p

/-! ### The sockets as places -/

/-- `s` when a call has taken bytes from a socket. -/
def SimState.left (s : SimState) (fd : Nat) (rest : List U8) (mem : Mem) : SimState :=
  { s with sock := Function.update s.sock fd { s.sock fd with rx := rest }, mem := mem }

section

variable (s : SimState) (fd : Nat) (rest : List U8) (mem : Mem)

@[simp] theorem left_tx (fd' : Nat) : ((s.left fd rest mem).sock fd').tx = (s.sock fd').tx := by
  rcases eq_or_ne fd' fd with rfl | hne
  · simp [SimState.left]
  · simp [SimState.left, hne]

@[simp] theorem left_rx_self : ((s.left fd rest mem).sock fd).rx = rest := by simp [SimState.left]

theorem left_rx_of_ne {fd' : Nat} (hne : fd' ≠ fd) : ((s.left fd rest mem).sock fd').rx = (s.sock fd').rx := by
  simp [SimState.left, hne]

@[simp] theorem turn_rx (who : Sender) : ((s.turn who).sock fd).rx = (s.sock fd).rx := by
  rw [SimState.turn]
  split
  · rfl
  · rename_i p hp
    split_ifs
    · rcases eq_or_ne fd p.fdc with rfl | hne
      · simp
      · simp [hne]
    · rfl
    · rfl

theorem turn_same (who : Sender) : (s.turn who).cfg = s.cfg ∧ (s.turn who).mem = s.mem := by
  rw [SimState.turn]
  split
  · exact ⟨rfl, rfl⟩
  · split_ifs <;> exact ⟨rfl, rfl⟩

end

@[simp] theorem feeSendNonRmap_cfg (s : SimState) (who : Sender) (data : List U8) :
    (feeSendNonRmap s who data).cfg = s.cfg := rfl

namespace SimRun

variable (r : SimRun) (fd : Nat)

theorem rounds_left (rest : List U8) (mem : Mem) : { r with st := r.st.left fd rest mem }.rounds = r.rounds := by
  refine Rounds.ext rfl rfl rfl rfl (funext fun fd' => ?_) rfl
  exact left_tx r.st fd rest mem fd'

theorem rounds_accept : { r.note (.accept fd) with st := r.st.accept fd }.rounds = r.rounds.join fd := by
  refine Rounds.ext rfl rfl rfl rfl (funext fun fd' => ?_) rfl
  show (Function.update r.st.sock fd {} fd').tx = Function.update (fun fd => (r.st.sock fd).tx) fd [] fd'
  rcases eq_or_ne fd' fd with rfl | hne
  · rw [Function.update_self, Function.update_self]
  · rw [Function.update_of_ne hne, Function.update_of_ne hne]

theorem cursor_push (who : Sender) (data : List U8) (who' : Sender) :
    ((feeSendNonRmap r.st who data).push who').map (fun p => (p.fdc, p.wire r.st.cfg.raw)) =
      Function.update r.rounds.cursor who (some (0, txBytes r.st.cfg.raw data)) who' := by
  show (Function.update r.st.push who _ who').map _ = _
  rcases eq_or_ne who' who with rfl | hne
  · rw [Function.update_self, Function.update_self]
    rfl
  · rw [Function.update_of_ne hne, Function.update_of_ne hne]
    rfl

/-- A reply. -/
theorem rounds_reply (mem : Mem) (c : Served) :
    { r with st := feeSendNonRmap { r.st with mem := mem } .poll c.reply, served := r.served ++ [c] }.rounds =
      r.rounds.begin .poll (txBytes r.st.cfg.raw c.reply) := by
  refine Rounds.ext rfl rfl (funext fun who => ?_) (funext fun who => r.cursor_push .poll c.reply who) rfl rfl
  cases who with
  | poll => simp [rounds, begun, Rounds.begin]
  | main => simp [rounds, begun, Rounds.begin]

/-- A data packet. -/
theorem rounds_send (pkt : List U8) :
    { r with st := feeSendNonRmap r.st .main pkt, data := r.data ++ [pkt] }.rounds =
      r.rounds.begin .main (txBytes r.st.cfg.raw pkt) := by
  refine Rounds.ext rfl rfl (funext fun who => ?_) (funext fun who => r.cursor_push .main pkt who) rfl rfl
  cases who with
  | poll => simp [rounds, begun, Rounds.begin]
  | main => simp [rounds, begun, Rounds.begin]

/-- A turn of the loop is one of the writer. -/
theorem rounds_turn (who : Sender) : { r with st := r.st.turn who }.rounds = r.rounds.turn who := by
  have hcursor : r.rounds.cursor who = (r.st.push who).map fun p => (p.fdc, p.wire r.st.cfg.raw) := rfl
  rw [Rounds.turn, hcursor]
  have hupdate (p : Option Push) (who' : Sender) :
      (Function.update r.st.push who p who').map (fun p => (p.fdc, p.wire r.st.cfg.raw)) =
        Function.update r.rounds.cursor who (p.map fun p => (p.fdc, p.wire r.st.cfg.raw)) who' := by
    rcases eq_or_ne who' who with rfl | hne
    · rw [Function.update_self, Function.update_self]
    · rw [Function.update_of_ne hne, Function.update_of_ne hne]
      rfl
  rcases hpush : r.st.push who with _ | p
  · rw [SimState.turn, hpush]
    rfl
  · simp only [SimState.turn, hpush, Option.map_some]
    have hlast : r.rounds.last = r.st.cfg.nFd := rfl
    rw [hlast]
    by_cases hle : p.fdc ≤ r.st.cfg.nFd
    · simp only [hle, if_true]
      refine Rounds.ext rfl rfl rfl (funext fun who' => hupdate (some { p with fdc := p.fdc + 1 }) who')
        (funext fun fd => ?_) rfl
      rw [Rounds.got_put]
      by_cases hin : p.fdc ∈ r.st.cfg.set
      · simp only [rounds, hin, and_true, if_true]
        rcases eq_or_ne fd p.fdc with rfl | hne
        · rw [Function.update_self, if_pos rfl]
        · rw [Function.update_of_ne hne, if_neg hne]
      · simp only [rounds, hin, and_false, if_false]
    · simp only [hle, if_false]
      exact Rounds.ext rfl rfl rfl (funext fun who' => hupdate none who') rfl rfl

end SimRun

/-! ### One round -/

/-- How many bytes the first call of `recv` has to find. -/
def SimNetCfg.least (cfg : SimNetCfg) : Nat := if cfg.raw then 1 else 4

/-- All that the polling of a socket can do. -/
theorem poll_cases {sim : Mirror} {s s' : SimState} {fd : Nat} {io : RecvIo} {served : Option Served}
    (h : s.poll sim fd io = some (s', served)) :
    (min io.avail (s.sock fd).rx.length < s.cfg.least ∧ served = none ∧
      s' = { s.left fd (s.sock fd).rx s.mem with cfg := { s.cfg with set := s.cfg.set.erase fd } }) ∨
    ∃ rest mem c, s.cfg.least ≤ min io.avail (s.sock fd).rx.length ∧ c.fd = fd ∧
      (s.sock fd).rx = c.recvBuffer ++ rest ∧ (s.cfg.raw = false → gresbFraming.IsFrame c.recvBuffer) ∧
      rmapSimRx sim c.blob s.mem (simBuf s.cfg.raw c.heap c.recvBuffer) = some (mem, c.reply) ∧
      s' = feeSendNonRmap (s.left fd rest mem) .poll c.reply ∧ served = some c := by
  rw [SimState.poll] at h
  split at h
  · cases h
  · rename_i r hrecv
    obtain ⟨hrx, hret, hframe⟩ := simRecv_some hrecv
    have hleast : r.ret ≤ 0 ↔ min io.avail (s.sock fd).rx.length < s.cfg.least := by
      rw [hret, SimNetCfg.least]
      cases hraw : s.cfg.raw with
      | true =>
        have htake : r.recvBuffer = (s.sock fd).rx.take (min io.avail GRESB_PKT_SIZE_MAX) := by
          rw [hraw] at hrecv
          simp only [simRecv, if_true, Option.some.injEq] at hrecv
          rw [← hrecv]
        rw [htake, List.length_take, GRESB_PKT_SIZE_MAX, GRESB_SPW_DATA_MAX_SIZE]
        simp only [if_true]
        omega
      | false =>
        have hf := hframe hraw
        simp only [Bool.false_eq_true, if_false]
        split at hf
        · rename_i hshort
          simp [hf, hshort]
        · rename_i hfull
          have hhdr : 4 ≤ r.recvBuffer.length := hf.hdr_le
          omega
    split at h
    · rename_i hzero
      obtain ⟨rfl, rfl⟩ := Prod.mk.inj (Option.some.inj h)
      have hnil : r.recvBuffer = [] := List.length_eq_zero_iff.1 (by omega)
      rw [hnil, List.nil_append] at hrx
      exact .inl ⟨hleast.1 hzero, rfl, by rw [hrx]; rfl⟩
    · rename_i hpos
      dsimp only at h
      split at h
      · cases h
      · rename_i mem reply hserve
        obtain ⟨rfl, rfl⟩ := Prod.mk.inj (Option.some.inj h)
        have hge := Nat.le_of_not_lt (fun hlt => hpos (hleast.2 hlt))
        refine .inr ⟨r.rest, mem, ⟨fd, r.recvBuffer, io.heap, io.blob, reply⟩, hge, rfl, hrx, fun hraw => ?_, hserve,
          rfl, rfl⟩
        have hf := hframe hraw
        rw [SimNetCfg.least, if_neg (by simp [hraw])] at hge
        rwa [if_neg (by omega)] at hf

namespace SimRun.Socks

variable {r : SimRun} (h : r.Socks)
include h

/-- A new peer: nothing has come from it and nothing was sent to it. -/
theorem accept (fd : Nat) : ({ r.note (.accept fd) with st := r.st.accept fd } : SimRun).Socks := by
  have htaken (fd' : Nat) : ({ r.note (.accept fd) with st := r.st.accept fd } : SimRun).takenFrom fd' =
      if fd' = fd then [] else r.takenFrom fd' := by
    show ((r.served.drop (Function.update r.first fd r.served.length fd')).filter _).map _ = _
    rcases eq_or_ne fd' fd with rfl | hne
    · rw [Function.update_self, if_pos rfl, List.drop_length]
      rfl
    · rw [Function.update_of_ne hne, if_neg hne]
      rfl
  refine ⟨?_, fun fd' => ?_, fun fd' hfd => ?_, fun hraw fd' p hp => ?_⟩
  · rw [rounds_accept]
    exact h.rounds.join fd
  · show Function.update r.first fd r.served.length fd' ≤ r.served.length
    rcases eq_or_ne fd' fd with rfl | hne
    · rw [Function.update_self]
    · rw [Function.update_of_ne hne]
      exact h.first_le fd'
  · rw [htaken]
    show Function.update r.came fd [] fd' = _ ++ (Function.update r.st.sock fd {} fd').rx
    rcases eq_or_ne fd' fd with rfl | hne
    · rw [if_pos rfl, Function.update_self, Function.update_self]
      rfl
    · rw [if_neg hne, Function.update_of_ne hne, Function.update_of_ne hne]
      exact h.came fd' ((Finset.mem_insert.1 hfd).resolve_left hne)
  · rw [htaken] at hp
    split at hp
    · cases hp
    · exact h.frames hraw fd' p hp

/-- What a peer has sent comes in. -/
theorem arrive (fd : Nat) (bytes : List U8) : ({ r.note (.arrive fd bytes) with
    st := r.st.left fd ((r.st.sock fd).rx ++ bytes) r.st.mem } : SimRun).Socks := by
  refine ⟨?_, h.first_le, fun fd' hfd => ?_, h.frames⟩
  · exact (r.rounds_left fd _ _).symm ▸ h.rounds
  · show Function.update r.came fd (r.came fd ++ bytes) fd' = (r.takenFrom fd').flatten ++ ((r.st.left _ _ _).sock fd').rx
    have hcame := h.came fd' hfd
    rcases eq_or_ne fd' fd with rfl | hne
    · rw [Function.update_self, left_rx_self, hcame, List.append_assoc]
    · rw [Function.update_of_ne hne, left_rx_of_ne _ _ _ _ hne]
      exact hcame

/-- A peer that is dropped. -/
theorem leave (fd : Nat) (rest : List U8) : ({ r with
    st := { r.st.left fd rest r.st.mem with cfg := { r.st.cfg with set := r.st.cfg.set.erase fd } } } : SimRun).Socks := by
  refine ⟨?_, h.first_le, fun fd' hfd => ?_, h.frames⟩
  · have hleave := h.rounds.leave fd
    rw [← r.rounds_left fd rest r.st.mem] at hleave
    exact hleave
  · show r.came fd' = (r.takenFrom fd').flatten ++ ((r.st.left fd rest r.st.mem).sock fd').rx
    rw [left_rx_of_ne _ _ _ _ (Finset.ne_of_mem_erase hfd)]
    exact h.came fd' (Finset.mem_of_mem_erase hfd)

/-- A command is taken and served, and its reply begins its way. -/
theorem serve {rest : List U8} (c : Served) (hpush : r.st.push .poll = none)
    (hrx : (r.st.sock c.fd).rx = c.recvBuffer ++ rest)
    (hframe : r.st.cfg.raw = false → gresbFraming.IsFrame c.recvBuffer) (mem : Mem) : ({ r with
      st := feeSendNonRmap (r.st.left c.fd rest mem) .poll c.reply, served := r.served ++ [c] } : SimRun).Socks := by
  have htaken (fd : Nat) : ({ r with
      st := feeSendNonRmap (r.st.left c.fd rest mem) .poll c.reply, served := r.served ++ [c] } : SimRun).takenFrom fd =
        r.takenFrom fd ++ if c.fd = fd then [c.recvBuffer] else [] := by
    show (((r.served ++ [c]).drop (r.first fd)).filter _).map _ = _
    rw [List.drop_append_of_le_length (h.first_le fd), List.filter_append, List.map_append]
    congr 1
    by_cases hfd : c.fd = fd <;> simp [hfd]
  refine ⟨?_, fun fd => ?_, fun fd hfd => ?_, fun hraw fd p hp => ?_⟩
  · have hidle : r.rounds.cursor .poll = none := by simp [SimRun.rounds, hpush]
    have hreply := rounds_reply { r with st := r.st.left c.fd rest mem } mem c
    rw [rounds_left] at hreply
    exact hreply ▸ h.rounds.begin hidle _
  · exact (h.first_le fd).trans (by simp)
  · rw [htaken]
    show r.came fd = _ ++ ((r.st.left c.fd rest mem).sock fd).rx
    rw [h.came fd hfd]
    by_cases heq : fd = c.fd
    · subst heq
      rw [left_rx_self, hrx, if_pos rfl, List.flatten_append, List.flatten_singleton, List.append_assoc]
    · rw [left_rx_of_ne _ _ _ _ heq, if_neg (Ne.symm heq), List.append_nil]
  · rw [htaken, List.mem_append] at hp
    rcases hp with hp | hp
    · exact h.frames hraw fd p hp
    · split at hp
      · rw [List.mem_singleton.1 hp]
        exact hframe hraw
      · cases hp

/-- A data packet begins its way. -/
theorem send (hpush : r.st.push .main = none) (pkt : List U8) :
    ({ r with st := feeSendNonRmap r.st .main pkt, data := r.data ++ [pkt] } : SimRun).Socks := by
  refine ⟨?_, h.first_le, h.came, h.frames⟩
  have hidle : r.rounds.cursor .main = none := by simp [SimRun.rounds, hpush]
  rw [rounds_send]
  exact h.rounds.begin hidle _

/-- A packet comes to the next socket. -/
theorem turn (who : Sender) : ({ r with st := r.st.turn who } : SimRun).Socks := by
  obtain ⟨hcfg, -⟩ := turn_same r.st who
  refine ⟨?_, h.first_le, fun fd hfd => ?_, fun hraw => ?_⟩
  · rw [rounds_turn]
    exact h.rounds.turn who
  · have hfd' : fd ∈ r.st.cfg.set := hcfg ▸ hfd
    show r.came fd = (r.takenFrom fd).flatten ++ ((r.st.turn who).sock fd).rx
    rw [turn_rx]
    exact h.came fd hfd'
  · exact h.frames (hcfg ▸ hraw)

end SimRun.Socks

def SimEvent.sent? : SimEvent → Option (List U8)
  | .send pkt => some pkt
  | _ => none

/-- All that can be seen of a round, and of what it leaves in the memory: nothing, a command served, or a data packet. -/
inductive SimEvent.Seen (sim : Mirror) (r r' : SimRun) : Option (List U8) → Prop
  | nothing : r'.served = r.served → r'.data = r.data → r'.st.mem = r.st.mem → Seen sim r r' none
  | command (c : Served) : rmapSimRx sim c.blob r.st.mem (simBuf r.st.cfg.raw c.heap c.recvBuffer) =
      some (r'.st.mem, c.reply) → r'.served = r.served ++ [c] → r'.data = r.data → Seen sim r r' none
  | data (pkt : List U8) : r'.served = r.served → r'.data = r.data ++ [pkt] → r'.st.mem = r.st.mem →
      Seen sim r r' (some pkt)

/-- **A round of one of the threads** keeps the sockets in order. -/
theorem SimRun.Socks.exec {sim : Mirror} {r r' : SimRun} (h : r.Socks) {e : SimEvent} (he : r.exec sim e = some r') :
    r'.Socks ∧ r'.st.cfg.raw = r.st.cfg.raw ∧ SimEvent.Seen sim r r' e.sent? := by
  obtain ⟨⟨st, served⟩, hexec, rfl⟩ := Option.map_eq_some_iff.1 he
  cases e with
  | accept fd =>
    rw [SimEvent.exec] at hexec
    split at hexec
    · cases hexec
    · obtain ⟨rfl, rfl⟩ := Prod.mk.inj (Option.some.inj hexec)
      dsimp only
      rw [Option.toList_none, List.append_nil]
      exact ⟨h.accept fd, rfl, .nothing rfl rfl rfl⟩
  | arrive fd bytes =>
    obtain ⟨rfl, rfl⟩ := Prod.mk.inj (Option.some.inj hexec)
    dsimp only
    rw [Option.toList_none, List.append_nil]
    exact ⟨h.arrive fd bytes, rfl, .nothing rfl rfl rfl⟩
  | send pkt =>
    rw [SimEvent.exec] at hexec
    split at hexec
    · cases hexec
    · rename_i hpush
      obtain ⟨rfl, rfl⟩ := Prod.mk.inj (Option.some.inj hexec)
      dsimp only
      rw [Option.toList_none, List.append_nil]
      exact ⟨h.send (Option.not_isSome_iff_eq_none.1 hpush) pkt, rfl, .data pkt rfl rfl rfl⟩
  | turn who =>
    rw [SimEvent.exec] at hexec
    split at hexec
    · cases hexec
    · obtain ⟨rfl, rfl⟩ := Prod.mk.inj (Option.some.inj hexec)
      obtain ⟨hcfg, hmem⟩ := turn_same r.st who
      dsimp only
      rw [Option.toList_none, List.append_nil]
      exact ⟨h.turn who, congrArg SimNetCfg.raw hcfg, .nothing rfl rfl hmem⟩
  | poll fd io =>
    rw [SimEvent.exec] at hexec
    split at hexec
    · cases hexec
    · rename_i hpush
      split at hexec
      · obtain ⟨-, rfl, rfl⟩ | ⟨rest, mem, c, -, rfl, hrx, hframe, hserve, rfl, rfl⟩ := poll_cases hexec
        · dsimp only
          rw [Option.toList_none, List.append_nil]
          exact ⟨h.leave fd _, rfl, .nothing rfl rfl rfl⟩
        · exact ⟨h.serve c (Option.not_isSome_iff_eq_none.1 hpush) hrx hframe mem, rfl, .command c hserve rfl rfl⟩
      · obtain ⟨rfl, rfl⟩ := Prod.mk.inj (Option.some.inj hexec)
        dsimp only
        rw [Option.toList_none, List.append_nil]
        exact ⟨h, rfl, .nothing rfl rfl rfl⟩

def SimEvent.isPoll : SimEvent → Bool
  | .poll .. => true
  | _ => false

/-- Only a command changes the memory. -/
theorem SimRun.exec_mem {sim : Mirror} {r r' : SimRun} {e : SimEvent} (he : r.exec sim e = some r')
    (hpoll : e.isPoll = false) : r'.st.mem = r.st.mem := by
  obtain ⟨⟨st, served⟩, hexec, rfl⟩ := Option.map_eq_some_iff.1 he
  cases e with
  | poll fd io => cases hpoll
  | arrive fd bytes =>
    obtain ⟨rfl, -⟩ := Prod.mk.inj (Option.some.inj hexec)
    rfl
  | accept fd | send pkt =>
    rw [SimEvent.exec] at hexec
    split at hexec
    · cases hexec
    · obtain ⟨rfl, -⟩ := Prod.mk.inj (Option.some.inj hexec)
      rfl
  | turn who =>
    rw [SimEvent.exec] at hexec
    split at hexec
    · cases hexec
    · obtain ⟨rfl, -⟩ := Prod.mk.inj (Option.some.inj hexec)
      exact (turn_same r.st who).2

/-- … and the commands are served in the order in which they were taken. -/
structure SimRun.Inv (sim : Mirror) (mem₀ : Mem) (data : List (List U8)) (r : SimRun) : Prop extends r.Socks where
  serves : Serves sim r.st.cfg.raw mem₀ r.served r.st.mem
  data_eq : r.data = data

theorem SimRun.Inv.exec {sim : Mirror} {mem₀ : Mem} {data : List (List U8)} {r r' : SimRun} (h : r.Inv sim mem₀ data)
    {e : SimEvent} (he : r.exec sim e = some r') :
    r'.Inv sim mem₀ (data ++ e.sent?.toList) ∧ r'.st.cfg.raw = r.st.cfg.raw := by
  obtain ⟨hsocks, hraw, hseen⟩ := h.toSocks.exec he
  have hserves := h.serves
  generalize e.sent? = sent at hseen ⊢
  refine ⟨⟨hsocks, ?_, ?_⟩, hraw⟩
  · rw [hraw]
    cases hseen with
    | nothing hserved _ hmem =>
      rw [hserved, hmem]
      exact hserves
    | command c hserve hserved _ =>
      rw [hserved]
      exact .command c hserves hserve
    | data pkt hserved _ hmem =>
      rw [hserved, hmem]
      exact hserves
  · rw [← h.data_eq]
    cases hseen with
    | nothing _ hdata _ => rw [hdata, Option.toList_none, List.append_nil]
    | command c _ _ hdata => rw [hdata, Option.toList_none, List.append_nil]
    | data pkt _ hdata _ => rw [hdata, Option.toList_some]

theorem SimRun.Inv.run {sim : Mirror} {mem₀ : Mem} {data : List (List U8)} {r r' : SimRun} (h : r.Inv sim mem₀ data)
    {events : List SimEvent} (hrun : r.run sim events = some r') :
    r'.Inv sim mem₀ (data ++ events.filterMap SimEvent.sent?) ∧ r'.st.cfg.raw = r.st.cfg.raw := by
  induction events generalizing r data with
  | nil =>
    cases hrun
    exact ⟨by simpa using h, rfl⟩
  | cons e events ih =>
    obtain ⟨r₁, he, hrun⟩ := Option.bind_eq_some_iff.1 hrun
    obtain ⟨h₁, hraw₁⟩ := h.exec he
    obtain ⟨h₂, hraw₂⟩ := ih h₁ hrun
    refine ⟨?_, hraw₂.trans hraw₁⟩
    rw [List.append_assoc] at h₂
    cases hs : e.sent? <;> simpa [List.filterMap_cons, hs] using h₂

/-- Nobody is connected, and nothing is being sent. -/
structure SimState.Fresh (s : SimState) : Prop where
  nobody : s.cfg.set = ∅
  socks : ∀ fd, s.sock fd = {}
  idle : ∀ who, s.push who = none

theorem SimState.Fresh.inv {s : SimState} (hs : s.Fresh) (sim : Mirror) : SimRun.Inv sim s.mem [] { st := s } where
  rounds := {
    le_last p hp := by simp [SimRun.rounds, hs.nobody] at hp
    under w c x hc := by simp [SimRun.rounds, hs.idle] at hc
    joined_le _ _ := Nat.zero_le _
    got p hp w := by simp [SimRun.rounds, hs.nobody] at hp
    got_prefix p w := by simp [SimRun.rounds, hs.socks] }
  first_le _ := le_rfl
  came fd hfd := by simp [hs.nobody] at hfd
  frames _ fd p hp := by simp [SimRun.takenFrom] at hp
  serves := .start
  data_eq := rfl

namespace SimRun

variable (r : SimRun) (who : Sender) (fd : Nat)

theorem rounds_due : r.rounds.due who fd = (r.due who fd).map (txBytes r.st.cfg.raw) := by
  rw [due, List.map_drop, List.map_take]
  rfl

/-- A thread that is not in `distribute_tx` has been to all sockets. -/
theorem due_of_idle (h : r.st.push who = none) : r.due who fd = (r.begun who).drop (r.joined fd who) := by
  have hcursor : r.rounds.cursor who = none := by simp [rounds, h]
  rw [due, Rounds.passed_of_idle hcursor]
  simp only [rounds, List.length_map, List.take_length]

end SimRun

/-- **The simulator serves its peers.** In every run of its three threads, where a turn of one of the two loops that
send is one send to one socket, with any number of peers that come, send and go, and however TCP cuts what they send:

* the commands are served one after the other, and the memory is the one after them in this order;
* whoever is connected has been sent, of either thread, the packets that have passed it since it was accepted, and
  these are all of them when the thread is not in its loop; whoever has left, the first ones of them;
* what is taken from a peer is what it has sent, from its beginning on; in the format of the GRESB, if it
  sends packets, these are taken whole, in order and once;
* the next round drops a peer exactly if the first `recv` finds less than a header (in raw mode, nothing). -/
theorem simServer_refines (sim : Mirror) {s : SimState} (hs : s.Fresh) {events : List SimEvent} {r : SimRun}
    (hrun : SimRun.run sim { st := s } events = some r) :
    Serves sim s.cfg.raw s.mem r.served r.st.mem ∧ r.data = events.filterMap SimEvent.sent? ∧
    (∀ who fd, r.gotFrom who fd <+: ((r.begun who).drop (r.joined fd who)).map (txBytes s.cfg.raw)) ∧
    ∀ fd ∈ r.st.cfg.set, fd ≤ r.st.cfg.nFd ∧
      (∀ who, r.gotFrom who fd = (r.due who fd).map (txBytes s.cfg.raw) ∧
        (r.st.push who = none → r.due who fd = (r.begun who).drop (r.joined fd who))) ∧
      (r.takenFrom fd).flatten <+: r.came fd ∧
      (s.cfg.raw = false → ∀ pkts : List (List U8), (∀ p ∈ pkts, gresbFraming.IsFrame p) →
        r.came fd <+: pkts.flatten → r.takenFrom fd <+: pkts) ∧
      ∀ io r', r.exec sim (.poll fd io) = some r' →
        (fd ∉ r'.st.cfg.set ↔ min io.avail (r.st.sock fd).rx.length < s.cfg.least) := by
  obtain ⟨hinv, hraw⟩ := (hs.inv sim).run hrun
  have hraw' : r.st.cfg.raw = s.cfg.raw := hraw
  refine ⟨hraw' ▸ hinv.serves, hinv.data_eq, fun who fd => ?_, fun fd hfd => ?_⟩
  · have hprefix := hinv.rounds.got_prefix fd who
    rw [← hraw', List.map_drop]
    exact hprefix
  · have hcame : (r.takenFrom fd).flatten <+: r.came fd := by
      rw [hinv.came fd hfd]
      exact List.prefix_append _ _
    refine ⟨hinv.rounds.le_last fd hfd, fun who => ⟨?_, r.due_of_idle who fd⟩, hcame, fun hgresb pkts hpkts hsent => ?_,
      fun io r' hr' => ?_⟩
    · rw [← hraw', ← r.rounds_due]
      exact hinv.rounds.got fd hfd who
    · exact Framing.isPrefix_of_flatten (hinv.frames (hraw'.trans hgresb) fd) hpkts (hcame.trans hsent)
    · obtain ⟨⟨st, served⟩, hexec, rfl⟩ := Option.map_eq_some_iff.1 hr'
      have hle : fd ≤ r.st.cfg.nFd := hinv.rounds.le_last fd hfd
      rw [SimEvent.exec] at hexec
      split at hexec
      · cases hexec
      · rw [if_pos ⟨hle, hfd⟩] at hexec
        have hleast : r.st.cfg.least = s.cfg.least := by rw [SimNetCfg.least, hraw', SimNetCfg.least]
        obtain ⟨hshort, -, rfl⟩ | ⟨rest, mem, c, hfull, -, -, -, -, rfl, -⟩ := poll_cases hexec
        · exact iff_of_true (Finset.notMem_erase _ _) (hleast ▸ hshort)
        · exact iff_of_false (not_not_intro hfd) (by omega)

/-- Two peers; the write of a register comes from one of them in two pieces, and while the reply is on its way to the
other one, a data packet overtakes it. -/
theorem simServer_refines_two :
    let sim : Mirror := ⟨.little, 0, 0x800⟩
    let s : SimState := { cfg := ⟨false, 0, ∅⟩, sock := fun _ => {}, mem := fun _ => 0 }
    let pkt := gresbSend (cmdBytes (fun _ => 0) {} 7 RMAP_WRITE_ADDR_INC_REPLY 0x4 4 (some [1, 2, 3, 4]))
    let events : List SimEvent := [.accept 5, .accept 4, .arrive 4 (pkt.take 9), .arrive 4 (pkt.drop 9),
      .poll 4 ⟨6, [6, 40], fun _ => 0xEE, fun _ => 0⟩] ++ List.replicate 5 (.turn .poll) ++ [.send [0x50, 0xF0]] ++
      List.replicate 6 (.turn .main) ++ List.replicate 2 (.turn .poll)
    ∃ r, SimRun.run sim { st := s } events = some r ∧ r.takenFrom 4 = [pkt] ∧ r.st.mem.read 4 4 = [1, 2, 3, 4] ∧
      (r.st.sock 4).tx.map Prod.fst = [.poll, .main] ∧ (r.st.sock 5).tx.map Prod.fst = [.main, .poll] ∧
      r.gotFrom .poll 5 = (r.served.map Served.reply).map (txBytes false) := by
  intro sim s pkt events
  have hrun : (SimRun.run sim { st := s } events).map (fun r : SimRun =>
      decide (r.takenFrom 4 = [pkt] ∧ r.st.mem.read 4 4 = [1, 2, 3, 4] ∧
        (r.st.sock 4).tx.map Prod.fst = [.poll, .main] ∧ (r.st.sock 5).tx.map Prod.fst = [.main, .poll] ∧
        5 ∈ r.st.cfg.set ∧ r.joined 5 .poll = 0 ∧ (r.st.push .poll).isNone)) = some true := by decide +kernel
  obtain ⟨r, hr, hvals⟩ := Option.map_eq_some_iff.1 hrun
  obtain ⟨htaken, hmem, hfour, hfive, hin, hjoined, hidle⟩ := of_decide_eq_true hvals
  obtain ⟨-, -, -, hall⟩ := @simServer_refines sim s ⟨rfl, fun _ => rfl, fun _ => rfl⟩ events r hr
  obtain ⟨hgot, hdue⟩ := (hall 5 hin).2.1 .poll
  rw [hdue (Option.isNone_iff_eq_none.1 hidle), hjoined] at hgot
  exact ⟨r, hr, htaken, hmem, hfour, hfive, hgot⟩

end SmileFee
