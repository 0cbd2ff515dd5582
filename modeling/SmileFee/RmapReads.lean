import SmileFee.RmapCodec

/-!
# Where the RMAP decoder reads its buffer (`FEE/rmap.c:509-647`)

The decoder of `Rmap.lean` run with reads that are written down. It looks at the byte of the header
CRC, at index 11, in every header that is long enough for its kind, and the shortest reply has 7
bytes; behind the data it looks at a data CRC that the length check leaves out
(`#if 0 … /* +1 for data CRC */`). **`decode_reads_inside_iff`** says when these two reads are
inside the buffer; all others always are.
-/

namespace SmileFee

open Word

/-! ## Reads that are written down -/

/-- A read that is written down. -/
abbrev Buf.readLogged (b : Buf) (i : Nat) : StateM (List Nat) U8 := fun log => (b.get i, log ++ [i])

/-- The indices at which `rmap_pkt_from_buffer` reads a buffer. -/
def Buf.reads (b : Buf) : List Nat := (rmapPktFromBuffer b.readLogged b.bytes.length []).2

theorem bind_log {α β : Type} (x : StateM (List Nat) α) (f : α → StateM (List Nat) β) (log : List Nat) :
    (x >>= f) log = f (x log).1 (x log).2 := rfl

theorem if_log {α : Type} (c : Prop) [Decidable c] (x y : StateM (List Nat) α) (log : List Nat) :
    (if c then x else y) log = if c then x log else y log := apply_ite (fun x : StateM (List Nat) α => x log) c x y

theorem pure_log {α : Type} (a : α) (log : List Nat) : (pure a : StateM (List Nat) α) log = (a, log) := rfl

theorem readAddr_log (b : Buf) (isCmd : Bool) (n : Nat) (log : List Nat) :
    readAddr b.readLogged isCmd n log = (@readAddr Id _ b.get isCmd n, log ++
      if isCmd then [RMAP_ADDR_BYTE0 + n, RMAP_ADDR_BYTE1 + n, RMAP_ADDR_BYTE2 + n, RMAP_ADDR_BYTE3 + n] else []) := by
  cases isCmd
  · exact congrArg (Prod.mk _) (List.append_nil log).symm
  · simp only [readAddr, if_true, bind_log, pure_log, List.append_assoc]
    rfl

theorem readDataLen_log (b : Buf) (instruction : U8) (n : Nat) (log : List Nat) :
    readDataLen b.readLogged instruction n log = (@readDataLen Id _ b.get instruction n, log ++
      if ¬ (riCmdResp instruction = false ∧ riCmdWrite instruction = true) then
        [RMAP_DATALEN_BYTE0 + n, RMAP_DATALEN_BYTE1 + n, RMAP_DATALEN_BYTE2 + n] else []) := by
  unfold readDataLen
  split
  · simp only [bind_log, pure_log, List.append_assoc]
    rfl
  · exact congrArg (Prod.mk _) (List.append_nil log).symm

theorem readBytes_log (b : Buf) : ∀ (n start : Nat) (log : List Nat),
    readBytes b.readLogged start n log =
      ((List.range n).map fun i => b.get (start + i), log ++ (List.range n).map fun i => start + i)
  | 0, start, log => congrArg (Prod.mk _) (List.append_nil log).symm
  | n + 1, start, log => by
    have ih := readBytes_log b n (start + 1) (log ++ [start])
    have hstep : readBytes b.readLogged start (n + 1) log =
      (b.get start :: (readBytes b.readLogged (start + 1) n (log ++ [start])).1,
        (readBytes b.readLogged (start + 1) n (log ++ [start])).2) := rfl
    rw [hstep, ih]
    simp [List.range_succ_eq_map, Function.comp_def, Nat.add_assoc, Nat.add_comm 1]

/-- Writing down the reads does not change the result. -/
theorem Buf.decode_logged (b : Buf) : (rmapPktFromBuffer b.readLogged b.bytes.length []).1 = b.decode := by
  rw [rmapPktFromBuffer]
  simp only [bind_log, pure_log, if_log, readBytes_log, readAddr_log, readDataLen_log, apply_ite Prod.fst]
  simp only [Buf.decode, rmapPktFromBuffer, pure, bind, readBytes_id]

/-! ## The reads, in order -/

/-- The reads behind the first four bytes of the header, up to the header CRC. -/
def Buf.headerReads (b : Buf) : List Nat :=
  (List.range b.skip).map (fun i => RMAP_REPLY_ADDR_START + i) ++
    ([RMAP_SRC_ADDR + b.skip, RMAP_TRANS_ID_BYTE0 + b.skip, RMAP_TRANS_ID_BYTE1 + b.skip] ++
    ((if riCmdResp b.instr then [RMAP_ADDR_BYTE0 + b.skip, RMAP_ADDR_BYTE1 + b.skip, RMAP_ADDR_BYTE2 + b.skip,
      RMAP_ADDR_BYTE3 + b.skip] else []) ++
    ((if ¬ (riCmdResp b.instr = false ∧ riCmdWrite b.instr = true) then
      [RMAP_DATALEN_BYTE0 + b.skipAddr, RMAP_DATALEN_BYTE1 + b.skipAddr, RMAP_DATALEN_BYTE2 + b.skipAddr] else []) ++
    [RMAP_HEADER_CRC])))

/-- The reads of the data and its CRC. -/
def Buf.dataReads (b : Buf) : List Nat :=
  (List.range b.dataLen.toNat).map (fun i => RMAP_DATA_START + b.skipAddr + i) ++
    [RMAP_DATA_START + b.skipAddr + b.dataLen.toNat]

/-- The reads of the first four bytes of the header. -/
def Buf.startReads : List Nat :=
  [RMAP_PROTOCOL_ID, RMAP_DEST_ADDRESS, RMAP_PROTOCOL_ID, RMAP_INSTRUCTION, RMAP_CMD_DESTKEY]

theorem Buf.reads_eq (b : Buf) : b.reads =
    if b.bytes.length < 7 then [] else
    if b.get RMAP_PROTOCOL_ID ≠ 1 then [RMAP_PROTOCOL_ID] else
    if rmapGetMinHdrSize b.instr < 0 then startReads else
    if b.bytes.length < (rmapGetMinHdrSize b.instr).toNat then startReads else
    if riCmdResp b.instr ∧ b.bytes.length < (rmapGetMinHdrSize b.instr).toNat + b.skip then startReads else
    if b.dataLen = 0 then startReads ++ b.headerReads else
    if b.bytes.length < RMAP_DATA_START + b.skipAddr + b.dataLen.toNat then startReads ++ b.headerReads
    else startReads ++ (b.headerReads ++ b.dataReads) := by
  rw [Buf.reads, rmapPktFromBuffer]
  simp only [bind_log, pure_log, if_log, readBytes_log, readAddr_log, readDataLen_log, apply_ite Prod.snd,
    List.append_assoc, List.nil_append]
  simp only [Buf.headerReads, Buf.startReads, List.append_assoc]
  rfl

/-! ## Which of them are inside -/

/-- No error path is taken before the header CRC is read. -/
structure Buf.HeaderFits (b : Buf) : Prop where
  proto : b.get RMAP_PROTOCOL_ID = 1
  hdr_valid : 0 ≤ rmapGetMinHdrSize b.instr
  hdr_fits : (rmapGetMinHdrSize b.instr).toNat + b.skip ≤ b.bytes.length

/-- The reads in a buffer whose header CRC is looked at. -/
theorem Buf.reads_of_headerFits {b : Buf} (h : b.HeaderFits) : b.reads = startReads ++ (b.headerReads ++
    if b.dataLen ≠ 0 ∧ RMAP_DATA_START + b.skipAddr + b.dataLen.toNat ≤ b.bytes.length then b.dataReads else []) := by
  have hv := h.hdr_valid
  have hf := h.hdr_fits
  have hmin := minHdrSize_cases b.instr
  rw [b.reads_eq, if_neg (by omega), if_neg (not_not.2 h.proto), if_neg (by omega), if_neg (by omega),
    if_neg (by omega)]
  by_cases hd : b.dataLen = 0
  · rw [if_pos hd, if_neg (by simp [hd]), List.append_nil]
  · rw [if_neg hd]
    by_cases hl : b.bytes.length < RMAP_DATA_START + b.skipAddr + b.dataLen.toNat
    · rw [if_pos hl, if_neg (by omega), List.append_nil]
    · rw [if_neg hl, if_pos ⟨hd, by omega⟩]

theorem Buf.reads_of_not_headerFits {b : Buf} (h : ¬ b.HeaderFits) : ∀ i ∈ b.reads, i < b.bytes.length := by
  intro i hi
  rw [b.reads_eq] at hi
  have hstart (h7 : ¬ b.bytes.length < 7) (hi : i ∈ Buf.startReads) : i < b.bytes.length := by
    simp only [Buf.startReads, RMAP_PROTOCOL_ID, RMAP_DEST_ADDRESS, RMAP_INSTRUCTION, RMAP_CMD_DESTKEY, List.mem_cons,
      List.not_mem_nil, or_false] at hi
    omega
  split at hi
  · cases hi
  · rename_i h7
    split at hi
    · simp only [RMAP_PROTOCOL_ID, List.mem_singleton] at hi
      omega
    · rename_i hproto
      split at hi
      · exact hstart h7 hi
      · rename_i hv
        split at hi
        · exact hstart h7 hi
        · rename_i hmin
          split at hi
          · exact hstart h7 hi
          · rename_i hfit
            refine absurd ⟨not_not.1 hproto, by omega, ?_⟩ h
            by_cases hc : riCmdResp b.instr = true
            · simp only [hc, true_and] at hfit
              omega
            · simp only [Buf.skip, hc]
              simp
              omega

theorem Buf.headerReads_lt {b : Buf} (h : b.HeaderFits) :
    (∀ i ∈ b.headerReads, i < b.bytes.length) ↔ RMAP_HEADER_CRC < b.bytes.length := by
  have hf := h.hdr_fits
  constructor
  · intro hall
    exact hall _ (by simp [Buf.headerReads])
  · intro hcrc i hi
    rcases minHdrSize_cases b.instr with hm | ⟨hc, hm⟩ | ⟨hc, hw, hm⟩ | ⟨hc, hw, hm⟩
    · have := h.hdr_valid
      omega
    all_goals
      rw [hm] at hf
      simp only [Buf.headerReads, Buf.skipAddr, hc, List.mem_append, List.mem_map, List.mem_range, RMAP_REPLY_ADDR_START,
        RMAP_SRC_ADDR, RMAP_TRANS_ID_BYTE0, RMAP_TRANS_ID_BYTE1, RMAP_ADDR_BYTE0, RMAP_ADDR_BYTE1, RMAP_ADDR_BYTE2,
        RMAP_ADDR_BYTE3, RMAP_DATALEN_BYTE0, RMAP_DATALEN_BYTE1, RMAP_DATALEN_BYTE2, RMAP_HEADER_CRC] at hi hcrc
      grind

theorem Buf.dataReads_lt (b : Buf) : (∀ i ∈ b.dataReads, i < b.bytes.length) ↔
    RMAP_DATA_START + b.skipAddr + b.dataLen.toNat < b.bytes.length := by
  constructor
  · intro hall
    exact hall _ (by simp [Buf.dataReads])
  · intro hlt i hi
    simp only [Buf.dataReads, List.mem_append, List.mem_map, List.mem_range, List.mem_singleton] at hi
    omega

/-- A buffer whose header is accepted reaches up to the header CRC, and does not end with the data. -/
def Buf.LengthOk (b : Buf) : Prop :=
  b.HeaderFits → RMAP_HEADER_CRC < b.bytes.length ∧
    (b.dataLen ≠ 0 → b.bytes.length ≠ RMAP_DATA_START + b.skipAddr + b.dataLen.toNat)

/-- **The decoder stays inside its buffer** iff the two bytes it does not check for are there. -/
theorem decode_reads_inside_iff (b : Buf) : (∀ i ∈ b.reads, i < b.bytes.length) ↔ b.LengthOk := by
  by_cases h : b.HeaderFits
  · have hhdr := Buf.headerReads_lt h
    have hstart : (∀ i ∈ Buf.startReads, i < b.bytes.length) ↔ 3 < b.bytes.length := by
      simp only [Buf.startReads, RMAP_PROTOCOL_ID, RMAP_DEST_ADDRESS, RMAP_INSTRUCTION, RMAP_CMD_DESTKEY,
        List.forall_mem_cons, List.not_mem_nil, false_imp_iff, forall_true_iff, and_true]
      omega
    rw [Buf.reads_of_headerFits h, Buf.LengthOk, List.forall_mem_append, List.forall_mem_append, hstart, hhdr]
    simp only [h, true_imp_iff]
    split
    · rename_i hd
      have hfit := hd.2
      simp only [b.dataReads_lt, RMAP_HEADER_CRC, RMAP_DATA_START, ne_eq, hd.1, not_false_eq_true, true_imp_iff] at hfit ⊢
      omega
    · rename_i hd
      simp only [RMAP_HEADER_CRC, List.not_mem_nil, false_imp_iff, forall_true_iff, and_true]
      constructor
      · rintro ⟨-, hcrc⟩
        exact ⟨hcrc, fun h0 hl => hd ⟨h0, hl.ge⟩⟩
      · rintro ⟨hcrc, -⟩
        exact ⟨by omega, hcrc⟩
  · exact iff_of_true (Buf.reads_of_not_headerFits h) fun h' => absurd h' h

/-- A complete reply to a write command has eight bytes, and the byte at index 11 is read. -/
theorem decode_reads_outside :
    ¬ ∀ b : Buf, ∀ i ∈ b.reads, i < b.bytes.length := by
  intro h
  have hread : 11 ∈ Buf.reads ⟨[0x50, 1, 0x2c, 0, 0x51, 0, 7, 0x1d], fun _ => 0⟩ := by decide
  exact absurd (h _ 11 hread) (by decide)

end SmileFee
