import SmileFee.GresbRx

/-!
# The way from the GRESB to the users (`GRESB/gresb_bridge.c:374-500`)

| here | there |
| --- | --- |
| `Bridge`, `BridgeCfg` | `struct bridge_cfg` (`:25`) of the bridge, and of a socket of the GRESB |
| `gresbPktToUsr`       | `gresb_pkt_to_usr` (`:374`), where `send_all` (`:60`) sends all it is given |
| `bridgeRun`           | the calls that `poll_socket_gresb` (`:453`) makes for one socket |

`recv` is called once for a packet and may give less of it. What is forwarded then is the part received,
or in raw mode as many bytes as the header asks for, those that were not received being whatever
`malloc` has returned. The rest of the packet is taken for the next header.

The users expect raw data if `raw` is set for the bridge, which is what the option `-b` does (`:630`);
what is forwarded depends on `raw` of the socket of the GRESB.
-/

namespace SmileFee

open Word

/-- What is used of `struct bridge_cfg` for the side of the users. -/
structure Bridge where
  raw : Bool
  nFd : Nat
  set : Finset Nat

/-- … and for a socket of the GRESB. -/
structure BridgeCfg where
  raw : Bool
  bridge : Bridge

/-- A socket that the loop over the users comes to (`:416`). -/
def Bridge.IsUser (b : Bridge) (fdc : Nat) : Prop := fdc ≤ b.nFd ∧ fdc ∈ b.set

instance (b : Bridge) (fdc : Nat) : Decidable (b.IsUser fdc) := inferInstanceAs (Decidable (_ ∧ _))

/-- `recv_buffer` after `recv`: what is behind the bytes received is what the heap has there. -/
def recvBuffer (got : List U8) (heap : Nat → U8) (i : Nat) : U8 := got.getD i (heap i)

/-- The `gresb_get_spw_data_size(buf)` bytes from `gresb_get_spw_data(buf)` on. -/
def spwData (buf : Nat → U8) : List U8 :=
  (List.range (gresbGetSpwDataSize [buf 0, buf 1, buf 2, buf 3])).map fun i => buf (4 + i)

variable (cfg : BridgeCfg)

/-- `gresb_pkt_to_usr` (`:374`), when `recv` finds `avail` bytes: what is sent to each socket, and what
is left in the stream. -/
def gresbPktToUsr (avail : Nat) (heap : Nat → U8) (stream : List U8) : (Nat → Option (List U8)) × List U8 :=
  let gresbHdr := stream.take 4
  if gresbHdr.length < 4 then (fun _ => none, stream)
  else
    let pktSize := gresbGetSpwDataSize gresbHdr + 4
    let got := stream.take (min avail pktSize)
    let recvBytes := got.length
    let rest := stream.drop recvBytes
    if recvBytes ≤ 0 then (fun _ => none, rest)
    else
      let buf := if cfg.raw then spwData (recvBuffer got heap) else got
      (fun fdc => if cfg.bridge.IsUser fdc then some buf else none, rest)

/-- `n` calls: what has been sent to each socket, and what is left. -/
def bridgeRun (avail : Nat → Nat) (heap : Nat → Nat → U8) : Nat → List U8 → (Nat → List (List U8)) × List U8
  | 0, stream => (fun _ => [], stream)
  | n + 1, stream =>
    let (sent, rest) := gresbPktToUsr cfg (avail 0) (heap 0) stream
    let (later, rest) := bridgeRun (fun j => avail (j + 1)) (fun j => heap (j + 1)) n rest
    (fun fdc => (sent fdc).toList ++ later fdc, rest)

/-- What the users of the bridge expect of a packet. -/
def Bridge.expected (b : Bridge) (p : GresbPkt) : List U8 := if b.raw then p.data else p.bytes

/-- The calls forward the packets, each complete, in order and once: after `n` calls every user has got
the first `n`, whatever the heap holds. -/
def BridgeCfg.Framed (avail : Nat → Nat) (pkts : List GresbPkt) : Prop :=
  ∀ heap n fdc, cfg.bridge.IsUser fdc →
    (bridgeRun cfg avail heap n (pkts.flatMap GresbPkt.bytes)).1 fdc = (pkts.map cfg.bridge.expected).take n

/-! ## One call -/

theorem take_append_drop_length_take {α : Type} (n : Nat) (l : List α) : l.take n ++ l.drop (l.take n).length = l := by
  have htake : l.take n = l.take (l.take n).length := by
    rw [List.take_eq_take_iff, List.length_take]
    omega
  conv_lhs => lhs; rw [htake]
  exact List.take_append_drop _ _

section

variable {cfg} {fdc : Nat} (hu : cfg.bridge.IsUser fdc) (avail : Nat) (heap : Nat → U8)

/-- Without a header nothing happens. -/
theorem gresbPktToUsr_short {stream : List U8} (h : stream.length < 4) :
    gresbPktToUsr cfg avail heap stream = (fun _ => none, stream) := by
  rw [gresbPktToUsr, if_pos (by rw [List.length_take]; omega)]

include hu

/-- With one, and something to receive, every user is sent something. -/
theorem gresbPktToUsr_some {stream : List U8} (hlen : 4 ≤ stream.length) (hpos : 0 < avail) :
    (gresbPktToUsr cfg avail heap stream).1 fdc =
      some (if cfg.raw then
        spwData (recvBuffer (stream.take (min avail (gresbGetSpwDataSize stream + 4))) heap)
      else stream.take (min avail (gresbGetSpwDataSize stream + 4))) := by
  have hhdr : ¬ (stream.take 4).length < 4 := by rw [List.length_take]; omega
  have hgot : ¬ (stream.take (min avail (gresbGetSpwDataSize stream + 4))).length ≤ 0 := by
    rw [List.length_take]
    omega
  simp only [gresbPktToUsr, if_neg hhdr, gresbGetSpwDataSize_take (le_refl 4), if_neg hgot, if_pos hu]

/-- In the format of the GRESB no byte is lost or added, whatever the splitting. -/
theorem gresbPktToUsr_conserves (hraw : cfg.raw = false) (stream : List U8) :
    ((gresbPktToUsr cfg avail heap stream).1 fdc).toList.flatten ++ (gresbPktToUsr cfg avail heap stream).2 =
      stream := by
  simp only [gresbPktToUsr, hraw, Bool.false_eq_true, if_false]
  split
  · rfl
  · split
    · rename_i hgot
      rw [Nat.le_zero.1 hgot]
      rfl
    · simp only [if_pos hu, Option.toList_some, List.flatten_singleton]
      exact take_append_drop_length_take _ stream

end

/-! ## A packet at the head of the stream -/

section

variable {cfg} (p : GresbPkt) (rest : List U8) (avail : Nat) (heap : Nat → U8)

theorem recvBuffer_of_lt {got : List U8} {i : Nat} (h : i < got.length) (x : U8) :
    recvBuffer got heap i = got.getD i x := by
  rw [recvBuffer, List.getD_eq_getElem _ _ h, List.getD_eq_getElem _ _ h]

/-- With the header received, the size is the one it has. -/
theorem length_spwData {got : List U8} (h : 4 ≤ got.length) :
    (spwData (recvBuffer got heap)).length = gresbGetSpwDataSize got := by
  rw [spwData, List.length_map, List.length_range]
  have hbuf (i : Nat) (hi : i < 4) : recvBuffer got heap i = got.getD i 0 := recvBuffer_of_lt heap (by omega) 0
  simp only [gresbGetSpwDataSize, List.getD_cons_succ, List.getD_cons_zero, hbuf 1 (by decide), hbuf 2 (by decide),
    hbuf 3 (by decide)]

theorem getElem_spwData {got : List U8} {i : Nat} (h : i < (spwData (recvBuffer got heap)).length) :
    (spwData (recvBuffer got heap))[i] = recvBuffer got heap (4 + i) := by
  simp only [spwData, List.getElem_map, List.getElem_range]

theorem spwData_bytes : spwData (recvBuffer p.bytes heap) = p.data := by
  have hsize : gresbGetSpwDataSize p.bytes = p.data.length := by simpa using p.spwDataSize_bytes []
  have hlen : (spwData (recvBuffer p.bytes heap)).length = p.data.length := by
    rw [length_spwData heap (by simp), hsize]
  apply List.ext_getElem hlen
  intro i hi hi'
  rw [getElem_spwData, recvBuffer_of_lt heap (by rw [p.length_bytes]; omega) 0, Nat.add_comm,
    ← List.getD_eq_getElem _ 0 hi']
  rfl

/-- A packet that `recv` gives in whole: every user gets it, and the stream goes on behind it. -/
theorem gresbPktToUsr_whole (h : p.bytes.length ≤ avail) : gresbPktToUsr cfg avail heap (p.bytes ++ rest) =
    (fun fdc => if cfg.bridge.IsUser fdc then some (if cfg.raw then p.data else p.bytes) else none, rest) := by
  have hhdr : ¬ ((p.bytes ++ rest).take 4).length < 4 := by
    rw [List.length_take, List.length_append, p.length_bytes]
    omega
  have hgot : (p.bytes ++ rest).take (min avail (p.data.length + 4)) = p.bytes := by
    rw [Nat.min_eq_right (by simpa using h), List.take_left' p.length_bytes]
  have hpos : ¬ p.bytes.length ≤ 0 := by simp
  simp only [gresbPktToUsr, if_neg hhdr, gresbGetSpwDataSize_take (le_refl 4), p.spwDataSize_bytes, hgot, if_neg hpos,
    spwData_bytes, List.drop_left' rfl]

theorem toNat_join24_mod (a b c : U8) : (join24 a b c).toNat % 256 = c.toNat := by
  have h := congrArg BitVec.toNat (u8_join24 a b c).2.2
  simpa [u8] using h

theorem recvBuffer_take_of_le {k i : Nat} (h : k ≤ i) : recvBuffer (p.bytes.take k) heap i = heap i := by
  rw [recvBuffer, List.getD_eq_default]
  rw [List.length_take]
  omega

/-- In raw mode as many bytes are forwarded as the packet has only if its header has been received. -/
theorem length_spwData_ne {k : Nat} (hk : k < 4) (hheap : heap 3 = u8 p.size + 1) :
    (spwData (recvBuffer (p.bytes.take k) heap)).length ≠ p.data.length ∧
      (spwData (recvBuffer (p.bytes.take k) heap)).length ≠ p.data.length + 4 := by
  have hlt := p.lt
  have hlow : (spwData (recvBuffer (p.bytes.take k) heap)).length % 256 = (p.data.length + 1) % 256 := by
    rw [spwData, List.length_map, List.length_range]
    simp only [gresbGetSpwDataSize, List.getD_cons_succ, List.getD_cons_zero]
    rw [toNat_join24_mod, recvBuffer_take_of_le p heap (by omega), hheap, u8, GresbPkt.size]
    have hone : (1 : U8).toNat = 1 := rfl
    simp only [BitVec.toNat_add, BitVec.toNat_setWidth, BitVec.toNat_ofNat, hone]
    omega
  constructor <;> omega

/-- A packet of which only a part is received is not what is forwarded in raw mode, if all is considered
that the heap may hold. -/
theorem whole_of_spwData {k : Nat} {msg : List U8} (hmsg : msg = p.data ∨ msg = p.bytes)
    (h : ∀ heap, spwData (recvBuffer (p.bytes.take k) heap) = msg) : p.bytes.length ≤ k ∧ msg = p.data := by
  have hmsglen : msg.length = p.data.length ∨ msg.length = p.data.length + 4 := by
    rcases hmsg with rfl | rfl
    · exact .inl rfl
    · exact .inr p.length_bytes
  by_cases hk : p.bytes.length ≤ k
  · have hfull := h fun _ => 0
    rw [List.take_of_length_le hk, spwData_bytes] at hfull
    exact ⟨hk, hfull.symm⟩
  · exfalso
    rw [p.length_bytes] at hk
    -- where nothing was received the heap has another byte than the packet
    have hadv := h fun i => p.bytes.getD i 0 + 1
    by_cases h4 : 4 ≤ k
    · have hlen : msg.length = p.data.length := by
        rw [← hadv, length_spwData _ (by simp; omega), gresbGetSpwDataSize_take h4]
        simpa using p.spwDataSize_bytes []
      have hdata : msg = p.data := hmsg.resolve_right (by rintro rfl; simp at hlen)
      have hi : k - 4 < p.data.length := by omega
      have hbyte : p.data[k - 4] = p.bytes.getD k 0 + 1 := by
        simp only [← hdata, ← hadv, getElem_spwData]
        rw [Nat.add_sub_cancel' h4, recvBuffer_take_of_le p _ (le_refl k)]
      have hsame : p.bytes.getD k 0 = p.data[k - 4] := by
        rw [← List.getD_eq_getElem _ 0 hi]
        conv_lhs => rw [← Nat.sub_add_cancel h4]
        rfl
      rw [hsame] at hbyte
      bv_omega
    · obtain ⟨h1, h2⟩ := length_spwData_ne p (fun i => p.bytes.getD i 0 + 1) (Nat.lt_of_not_le h4) rfl
      rw [hadv] at h1 h2
      exact hmsglen.elim h1 h2

end

/-! ## Runs -/

section

variable {cfg}

theorem bridgeRun_nil (avail : Nat → Nat) (heap : Nat → Nat → U8) (n fdc : Nat) :
    (bridgeRun cfg avail heap n []).1 fdc = [] := by
  induction n generalizing avail heap with
  | zero => rfl
  | succ n ih =>
    have hshort : gresbPktToUsr cfg (avail 0) (heap 0) [] = (fun _ => none, []) := gresbPktToUsr_short _ _ (by decide)
    simp only [bridgeRun, hshort]
    exact ih _ _

/-- One more call at the end. -/
theorem bridgeRun_succ (avail : Nat → Nat) (heap : Nat → Nat → U8) (n : Nat) (stream : List U8) (fdc : Nat) :
    (bridgeRun cfg avail heap (n + 1) stream).1 fdc = (bridgeRun cfg avail heap n stream).1 fdc ++
      ((gresbPktToUsr cfg (avail n) (heap n) (bridgeRun cfg avail heap n stream).2).1 fdc).toList := by
  induction n generalizing avail heap stream with
  | zero => simp [bridgeRun]
  | succ n ih =>
    rw [bridgeRun]
    change (_ : List (List U8)) ++ (bridgeRun cfg _ _ (n + 1) _).1 fdc = _
    rw [ih, ← List.append_assoc]
    rfl

/-- In the format of the GRESB what a user gets is, all in all, what has been taken out of the stream. -/
theorem bridgeRun_conserves {fdc : Nat} (hu : cfg.bridge.IsUser fdc) (hraw : cfg.raw = false) (avail : Nat → Nat)
    (heap : Nat → Nat → U8) (n : Nat) (stream : List U8) :
    ((bridgeRun cfg avail heap n stream).1 fdc).flatten ++ (bridgeRun cfg avail heap n stream).2 = stream := by
  induction n generalizing avail heap stream with
  | zero => rfl
  | succ n ih =>
    simp only [bridgeRun, List.flatten_append, List.append_assoc, ih]
    exact gresbPktToUsr_conserves hu (avail 0) (heap 0) hraw stream

/-- If every packet is received in whole, each call forwards one. -/
theorem bridgeRun_whole {avail : Nat → Nat} {pkts : List GresbPkt} {fdc : Nat} (hu : cfg.bridge.IsUser fdc)
    (hraw : cfg.raw = cfg.bridge.raw) (h : ∀ j p, pkts[j]? = some p → p.bytes.length ≤ avail j)
    (heap : Nat → Nat → U8) (n : Nat) :
    (bridgeRun cfg avail heap n (pkts.flatMap GresbPkt.bytes)).1 fdc = (pkts.map cfg.bridge.expected).take n := by
  induction pkts generalizing avail heap n with
  | nil => simpa using bridgeRun_nil avail heap n fdc
  | cons p pkts ih =>
    cases n with
    | zero => rfl
    | succ n =>
      have hrest := ih (fun j q hq => h (j + 1) q hq) (fun j => heap (j + 1)) n
      simp only [List.flatMap_cons, bridgeRun, gresbPktToUsr_whole p _ _ _ (h 0 p rfl), if_pos hu, hrest, hraw]
      rfl

theorem length_flatMap_bytes (pkts : List GresbPkt) :
    (pkts.flatMap GresbPkt.bytes).length = (pkts.map GresbPkt.data).flatten.length + 4 * pkts.length := by
  induction pkts with
  | nil => rfl
  | cons p pkts ih =>
    simp only [List.flatMap_cons, List.map_cons, List.flatten_cons, List.length_append, ih, p.length_bytes,
      List.length_cons]
    omega

/-- Users that are told to expect raw data do not get it in the format of the GRESB: when all packets
have been forwarded there are still four bytes of each in the stream. -/
theorem not_framed_header {avail : Nat → Nat} (hpos : ∀ j, 0 < avail j) {pkts : List GresbPkt} (hne : pkts ≠ [])
    {fdc : Nat} (hu : cfg.bridge.IsUser fdc) (hraw : cfg.raw = false) (hbridge : cfg.bridge.raw = true) :
    ¬ cfg.Framed avail pkts := by
  intro hf
  have hexp : cfg.bridge.expected = GresbPkt.data := by
    funext p
    rw [Bridge.expected, if_pos hbridge]
  have hall := hf (fun _ _ => 0) pkts.length fdc hu
  have hmore := hf (fun _ _ => 0) (pkts.length + 1) fdc hu
  have hcons := congrArg List.length (bridgeRun_conserves hu hraw avail (fun _ _ => 0) pkts.length
    (pkts.flatMap GresbPkt.bytes))
  have hpkts := List.length_pos_iff.2 hne
  rw [hall, hexp, List.take_of_length_le (by simp), List.length_append, length_flatMap_bytes] at hcons
  rw [bridgeRun_succ, gresbPktToUsr_some hu _ _ (by omega) (hpos _), hall] at hmore
  have hlen := congrArg List.length hmore
  simp at hlen

section First

variable {avail : Nat → Nat} {p : GresbPkt} {pkts : List GresbPkt} {fdc : Nat}

/-- The message of the first call, whatever is in the heap. -/
theorem BridgeCfg.Framed.first (hf : cfg.Framed avail (p :: pkts)) (hpos : 0 < avail 0) (hu : cfg.bridge.IsUser fdc)
    (heap : Nat → U8) :
    (if cfg.raw then spwData (recvBuffer (p.bytes.take (min (avail 0) (p.data.length + 4))) heap)
      else p.bytes.take (min (avail 0) (p.data.length + 4))) = cfg.bridge.expected p := by
  have htake : (p.bytes ++ pkts.flatMap GresbPkt.bytes).take (min (avail 0) (p.data.length + 4)) =
      p.bytes.take (min (avail 0) (p.data.length + 4)) :=
    List.take_append_of_le_length (by rw [p.length_bytes]; exact Nat.min_le_right _ _)
  have hone := hf (fun _ => heap) 1 fdc hu
  have hlen : 4 ≤ (p.bytes ++ pkts.flatMap GresbPkt.bytes).length := by
    rw [List.length_append, p.length_bytes]
    omega
  simp only [List.flatMap_cons, bridgeRun, gresbPktToUsr_some hu _ _ hlen hpos, p.spwDataSize_bytes, htake,
    Option.toList_some, List.append_nil, List.map_cons, List.take_succ_cons, List.take_zero, List.cons.injEq,
    and_true] at hone
  exact hone

/-- It is the packet only if that was received in whole. -/
theorem BridgeCfg.Framed.first_whole (hf : cfg.Framed avail (p :: pkts)) (hpos : 0 < avail 0)
    (hu : cfg.bridge.IsUser fdc) (hraw : cfg.raw = false → cfg.bridge.raw = false) :
    p.bytes.length ≤ avail 0 ∧ cfg.raw = cfg.bridge.raw := by
  have hfirst := hf.first hpos hu
  cases hr : cfg.raw with
  | true =>
    simp only [hr, if_true] at hfirst
    have hexp : cfg.bridge.expected p = p.data ∨ cfg.bridge.expected p = p.bytes := by
      rw [Bridge.expected]
      split
      · exact .inl rfl
      · exact .inr rfl
    obtain ⟨hle, hdata⟩ := whole_of_spwData p hexp hfirst
    refine ⟨hle.trans (Nat.min_le_left _ _), ?_⟩
    by_contra hb
    rw [Bridge.expected, if_neg (fun h => hb h.symm)] at hdata
    simpa using congrArg List.length hdata
  | false =>
    have hb := hraw hr
    simp only [hr, Bool.false_eq_true, if_false, Bridge.expected, hb] at hfirst
    have hlen := congrArg List.length (hfirst fun _ => 0)
    rw [List.length_take, p.length_bytes] at hlen
    exact ⟨by rw [p.length_bytes]; omega, hb.symm⟩

/-- The calls after the first one. -/
theorem BridgeCfg.Framed.tail (hf : cfg.Framed avail (p :: pkts)) (hwhole : p.bytes.length ≤ avail 0) :
    cfg.Framed (fun j => avail (j + 1)) pkts := by
  intro heap n fdc hu
  have hnext := hf (fun j => Nat.casesOn j (fun _ => 0) heap) (n + 1) fdc hu
  simp only [List.flatMap_cons, bridgeRun, gresbPktToUsr_whole p _ _ _ hwhole, if_pos hu, List.map_cons,
    List.take_succ_cons, Option.toList_some, List.singleton_append, List.cons.injEq] at hnext
  exact hnext.2

end First

theorem BridgeCfg.Framed.whole {avail : Nat → Nat} (hpos : ∀ j, 0 < avail j) {pkts : List GresbPkt} {fdc : Nat}
    (hu : cfg.bridge.IsUser fdc) (hraw : cfg.raw = false → cfg.bridge.raw = false) (hf : cfg.Framed avail pkts) :
    ∀ j p, pkts[j]? = some p → p.bytes.length ≤ avail j ∧ cfg.raw = cfg.bridge.raw := by
  induction pkts generalizing avail with
  | nil =>
    intro j p hj
    cases hj
  | cons q pkts ih =>
    have hfirst := hf.first_whole (hpos 0) hu hraw
    intro j p hj
    cases j with
    | zero =>
      cases hj
      exact hfirst
    | succ j => exact ih (fun j => hpos (j + 1)) (hf.tail hfirst.1) j p hj

end

/-- **The bridge depends on the splitting**: it forwards the packets as they were exactly if there is no
user, or if each packet is received with one call and the two flags agree. -/
theorem framed_iff (avail : Nat → Nat) (hpos : ∀ j, 0 < avail j) (pkts : List GresbPkt) :
    cfg.Framed avail pkts ↔ (∀ fdc, ¬ cfg.bridge.IsUser fdc) ∨
      ∀ j p, pkts[j]? = some p → p.bytes.length ≤ avail j ∧ cfg.raw = cfg.bridge.raw := by
  constructor
  · intro hf
    by_cases hno : ∀ fdc, ¬ cfg.bridge.IsUser fdc
    · exact .inl hno
    · obtain ⟨fdc, hu⟩ := not_forall_not.1 hno
      refine .inr fun j p hj => hf.whole hpos hu (fun hr => ?_) j p hj
      by_contra hb
      exact not_framed_header hpos (List.ne_nil_of_mem (List.mem_of_getElem? hj)) hu hr (by simpa using hb) hf
  · rintro (hno | hall) heap n fdc hu
    · exact absurd hu (hno fdc)
    · cases pkts with
      | nil => simpa using bridgeRun_nil avail heap n fdc
      | cons p pkts => exact bridgeRun_whole hu (hall 0 p rfl).2 (fun j q hq => (hall j q hq).1) heap n

/-- A packet of eight bytes of data, received with one call. -/
theorem framed_iff_whole :
    let cfg : BridgeCfg := ⟨true, true, 5, {4}⟩
    let p : GresbPkt := ⟨0, [0x50, 0x01, 0x2C, 0x00, 0x51, 0x00, 0x01, 0xED], by decide⟩
    cfg.Framed (fun _ => 12) [p] := by
  intro cfg p
  refine (framed_iff cfg (fun _ => 12) (fun _ => Nat.succ_pos 11) [p]).2 (.inr fun j q hq => ?_)
  obtain rfl := List.mem_singleton.1 (List.mem_of_getElem? hq)
  exact ⟨by decide, rfl⟩

/-- … and with two, in raw mode: the first message has four bytes that nobody has sent. -/
theorem not_framed_split :
    let cfg : BridgeCfg := ⟨true, true, 5, {4}⟩
    let p : GresbPkt := ⟨0, [0x50, 0x01, 0x2C, 0x00, 0x51, 0x00, 0x01, 0xED], by decide⟩
    (bridgeRun cfg (fun _ => 8) (fun _ _ => 0xEE) 1 p.bytes).1 4 =
        [[0x50, 0x01, 0x2C, 0x00, 0xEE, 0xEE, 0xEE, 0xEE]] ∧
      ¬ cfg.Framed (fun _ => 8) [p] := by
  intro cfg p
  have hrun : (bridgeRun cfg (fun _ => 8) (fun _ _ => 0xEE) 1 p.bytes).1 4 =
      [[0x50, 0x01, 0x2C, 0x00, 0xEE, 0xEE, 0xEE, 0xEE]] := by decide
  refine ⟨hrun, fun hf => ?_⟩
  have hone := hf (fun _ _ => 0xEE) 1 4 (by decide)
  rw [List.flatMap_singleton, hrun] at hone
  exact absurd hone (by decide)

end SmileFee
