import SmileFee.Rmap

/-!
# What the RMAP decoder accepts, and what it returns

`Buf.decode_eq_some` is the one place where the body of `rmap_pkt_from_buffer` is opened: a
buffer is accepted iff `Buf.Accepts`, and the packet is then `Buf.packet`, field by field the
bytes at the offsets the header kind prescribes. The rest of the file derives from it what a
command, a write reply and a read reply decode to, and (**`buildHdr_decode`**) that building
the header of a decoded packet gives back the bytes it was decoded from.
-/

namespace SmileFee

open Word

/-! ## Reading through the identity monad -/

theorem readBytes_id (rd : Nat → U8) : ∀ (n start : Nat),
    @readBytes Id _ rd start n = (List.range n).map fun i => rd (start + i)
  | 0, _ => rfl
  | n + 1, start => by
    have ih := readBytes_id rd n (start + 1)
    simp only [List.range_succ_eq_map, List.map_cons, List.map_map, Nat.add_zero]
    show rd start :: @readBytes Id _ rd (start + 1) n = _
    rw [ih]
    congr 1
    exact List.map_congr_left fun i _ => by simp only [Function.comp]; congr 1; omega

theorem Buf.get_of_lt (b : Buf) (i : Nat) (h : i < b.bytes.length) : b.get i = b.bytes[i] := by
  simp [Buf.get, h]

/-- A byte behind a known prefix. -/
theorem Buf.get_append (pre tail : List U8) (z : Nat → U8) (k : Nat) (i : Nat) (hi : i = pre.length + k) :
    Buf.get ⟨pre ++ tail, z⟩ i = tail.getD k (z i) := by
  subst hi
  simp [Buf.get, List.getElem?_append_right]

/-- Reading a block that lies inside the buffer. -/
theorem Buf.map_get (b : Buf) (start n : Nat) (h : start + n ≤ b.bytes.length) :
    ((List.range n).map fun i => b.get (start + i)) = (b.bytes.drop start).take n := by
  apply List.ext_getElem
  · simp; omega
  · intro i h1 h2
    simp only [List.length_map, List.length_range] at h1
    simp only [List.getElem_map, List.getElem_range, List.getElem_take, List.getElem_drop]
    exact b.get_of_lt _ (by omega)

/-! ## Acceptance and result -/

namespace Buf

variable (b : Buf)

/-- The instruction byte. -/
def instr : U8 := b.get RMAP_INSTRUCTION

/-- The skip of the offsets behind the reply path. -/
def skip : Nat := if riCmdResp b.instr then riReplyAddrLen b.instr * 4 else 0

/-- The skip of the offsets behind the address field. -/
def skipAddr : Nat := if riCmdResp b.instr then b.skip + 4 else b.skip

/-- The data length field, 0 where there is none. -/
def dataLen : U32 := @readDataLen Id _ b.get b.instr b.skipAddr

/-- The packet but for its data. -/
def header : RmapPkt where
  dst := b.get RMAP_DEST_ADDRESS
  protoId := b.get RMAP_PROTOCOL_ID
  instruction := b.instr
  key := b.get RMAP_CMD_DESTKEY
  rpath := (List.range b.skip).map fun i => b.get (RMAP_REPLY_ADDR_START + i)
  src := b.get (RMAP_SRC_ADDR + b.skip)
  trId := join16 (b.get (RMAP_TRANS_ID_BYTE0 + b.skip)) (b.get (RMAP_TRANS_ID_BYTE1 + b.skip))
  addr := @readAddr Id _ b.get (riCmdResp b.instr) b.skip
  dataLen := b.dataLen
  hdrCrc := b.get RMAP_HEADER_CRC

/-- The decoded packet of an accepted buffer. -/
def packet : RmapPkt :=
  if b.dataLen = 0 then b.header else
  { b.header with
    data := (List.range b.dataLen.toNat).map fun i => b.get (RMAP_DATA_START + b.skipAddr + i)
    dataCrc := b.get (RMAP_DATA_START + b.skipAddr + b.dataLen.toNat) }

/-- The conditions under which no error path is taken. -/
structure Accepts : Prop where
  proto : b.get RMAP_PROTOCOL_ID = 1
  hdr_valid : 0 ≤ rmapGetMinHdrSize b.instr
  hdr_fits : (rmapGetMinHdrSize b.instr).toNat + b.skip ≤ b.bytes.length
  data_fits : b.dataLen ≠ 0 → RMAP_DATA_START + b.skipAddr + b.dataLen.toNat ≤ b.bytes.length

end Buf

/-- The header sizes of valid command codes. -/
theorem minHdrSize_cases (i : U8) : rmapGetMinHdrSize i = -1 ∨
    (riCmdResp i = true ∧ rmapGetMinHdrSize i = 15) ∨
    (riCmdResp i = false ∧ riCmdWrite i = true ∧ rmapGetMinHdrSize i = 7) ∨
    (riCmdResp i = false ∧ riCmdWrite i = false ∧ rmapGetMinHdrSize i = 11) := by
  unfold rmapGetMinHdrSize
  cases hr : riCmdResp i
  · split
    · rename_i hm
      refine Or.inr (Or.inr (Or.inr ⟨rfl, ?_, rfl⟩))
      simp only [List.mem_cons, List.not_mem_nil, or_false] at hm
      rcases hm with h | h | h <;> (rw [riCmdWrite, h]; rfl)
    · split
      · rename_i hm
        refine Or.inr (Or.inr (Or.inl ⟨rfl, ?_, rfl⟩))
        simp only [List.mem_cons, List.not_mem_nil, or_false] at hm
        rcases hm with h | h | h | h | h | h | h | h <;> (rw [riCmdWrite, h]; rfl)
      · exact Or.inl rfl
  · split
    · exact Or.inr (Or.inl ⟨rfl, rfl⟩)
    · split
      · exact Or.inr (Or.inl ⟨rfl, rfl⟩)
      · exact Or.inl rfl

/-- A header size is defined for the valid command codes. -/
theorem minHdrSize_nonneg_iff (i : U8) : 0 ≤ rmapGetMinHdrSize i ↔ rmapValidateCmdCode (riCmd i) = true := by
  have hvalid : rmapValidateCmdCode (riCmd i) = true ↔
      riCmd i ∈ [RMAP_READ_ADDR_SINGLE, RMAP_READ_ADDR_INC, RMAP_READ_MODIFY_WRITE_ADDR_INC] ∨
      riCmd i ∈ [RMAP_WRITE_ADDR_SINGLE, RMAP_WRITE_ADDR_INC, RMAP_WRITE_ADDR_SINGLE_REPLY,
        RMAP_WRITE_ADDR_INC_REPLY, RMAP_WRITE_ADDR_SINGLE_VERIFY, RMAP_WRITE_ADDR_INC_VERIFY,
        RMAP_WRITE_ADDR_SINGLE_VERIFY_REPLY, RMAP_WRITE_ADDR_INC_VERIFY_REPLY] := by
    rw [rmapValidateCmdCode, decide_eq_true_eq, ← List.mem_append]
    rfl
  rw [hvalid, rmapGetMinHdrSize]
  split
  · rename_i hr
    refine iff_of_true ?_ (.inl hr)
    split <;> decide
  · rename_i hr
    split
    · rename_i hw
      refine iff_of_true ?_ (.inr hw)
      split <;> decide
    · rename_i hw
      exact iff_of_false (by decide) fun h => h.elim hr hw

/-- The size that `rmap_build_hdr` returns for a `NULL` header is that of the header it builds. -/
theorem rmapBuildHdrSize_eq {p : RmapPkt} (hv : 0 ≤ rmapGetMinHdrSize p.instruction) :
    rmapBuildHdrSize p = (rmapBuildHdr p).length := by
  rcases minHdrSize_cases p.instruction with h | ⟨hc, h⟩ | ⟨hc, hw, h⟩ | ⟨hc, hw, h⟩
  · omega
  · simp [rmapBuildHdrSize, h, rmapBuildHdr, hc, dataLenBytes]; omega
  · simp [rmapBuildHdrSize, h, rmapBuildHdr, hc, hw]; omega
  · simp [rmapBuildHdrSize, h, rmapBuildHdr, hc, hw, dataLenBytes]; omega

/-- **`rmap_pkt_from_buffer` (`rmap.c:509`)**: which buffers decode, and to what. -/
theorem Buf.decode_eq_some (b : Buf) (p : RmapPkt) : b.decode = some p ↔ b.Accepts ∧ p = b.packet := by
  have key : b.decode =
      if b.bytes.length < 7 then none else
      if b.get RMAP_PROTOCOL_ID ≠ 1 then none else
      if rmapGetMinHdrSize b.instr < 0 then none else
      if b.bytes.length < (rmapGetMinHdrSize b.instr).toNat then none else
      if riCmdResp b.instr ∧ b.bytes.length < (rmapGetMinHdrSize b.instr).toNat + b.skip then none else
      if b.dataLen = 0 then some b.header else
      if b.bytes.length < RMAP_DATA_START + b.skipAddr + b.dataLen.toNat then none else
      some { b.header with
        data := (List.range b.dataLen.toNat).map fun i => b.get (RMAP_DATA_START + b.skipAddr + i)
        dataCrc := b.get (RMAP_DATA_START + b.skipAddr + b.dataLen.toNat) } := by
    simp only [Buf.decode, rmapPktFromBuffer, pure, bind, readBytes_id]
    rfl
  have hmin := minHdrSize_cases b.instr
  rw [key]
  constructor
  · intro h
    split_ifs at h with h1 h2 h3 h4 h5 h6 h7
    · refine ⟨⟨by simpa using h2, by omega, ?_, fun hd => absurd h6 hd⟩, ?_⟩
      · by_cases hc : riCmdResp b.instr = true
        · simp only [hc, true_and] at h5; omega
        · simp only [Buf.skip, hc]; simp; omega
      · rw [Buf.packet, if_pos h6]
        exact (Option.some.inj h).symm
    · refine ⟨⟨by simpa using h2, by omega, ?_, fun _ => by omega⟩, ?_⟩
      · by_cases hc : riCmdResp b.instr = true
        · simp only [hc, true_and] at h5; omega
        · simp only [Buf.skip, hc]; simp; omega
      · rw [Buf.packet, if_neg h6]
        exact (Option.some.inj h).symm
  · rintro ⟨ha, rfl⟩
    have hv := ha.hdr_valid
    have hf := ha.hdr_fits
    rw [if_neg (by omega), if_neg (by simpa using ha.proto), if_neg (by omega), if_neg (by omega),
      if_neg (by omega)]
    by_cases hd : b.dataLen = 0
    · rw [Buf.packet, if_pos hd, if_pos hd]
    · have := ha.data_fits hd
      rw [Buf.packet, if_neg hd, if_neg hd, if_neg (by omega)]

theorem Buf.decode_eq_none (b : Buf) (h : ¬ b.Accepts) : b.decode = none := by
  cases hd : b.decode with
  | none => rfl
  | some p => exact absurd ((b.decode_eq_some p).1 hd).1 h

/-- The data of a decoded packet is as long as its length field says. -/
theorem Buf.length_data_of_decode {b : Buf} {p : RmapPkt} (h : b.decode = some p) :
    p.data.length = p.dataLen.toNat := by
  obtain ⟨-, rfl⟩ := b.decode_eq_some p |>.1 h
  rw [Buf.packet]
  split
  · rename_i hd
    show 0 = b.dataLen.toNat
    rw [hd]; rfl
  · show ((List.range b.dataLen.toNat).map _).length = b.dataLen.toNat
    simp

/-! ## Decode, then encode -/

/-- The header bytes that are always written as 0: the extended address byte of a command and the
reserved byte of a read reply. -/
def RmapPkt.Blank (p : RmapPkt) (i : Nat) : Prop :=
  if riCmdResp p.instruction then i = 7 + p.rpath.length
  else riCmdWrite p.instruction = false ∧ i = 7

instance (p : RmapPkt) (i : Nat) : Decidable (p.Blank i) := by
  unfold RmapPkt.Blank; infer_instance

@[simp] theorem Buf.packet_instruction (b : Buf) : b.packet.instruction = b.instr := by
  unfold Buf.packet; split <;> rfl

@[simp] theorem Buf.packet_rpath (b : Buf) :
    b.packet.rpath = (List.range b.skip).map fun i => b.get (RMAP_REPLY_ADDR_START + i) := by
  unfold Buf.packet; split <;> rfl

@[simp] theorem Buf.packet_dataLen (b : Buf) : b.packet.dataLen = b.dataLen := by
  unfold Buf.packet; split <;> rfl

/-- Building a header looks at neither the data nor the CRCs. -/
theorem Buf.buildHdr_packet (b : Buf) : rmapBuildHdr b.packet = rmapBuildHdr b.header := by
  unfold Buf.packet; split <;> rfl

theorem dataLenBytes_join24 (a b c : U8) : dataLenBytes (join24 a b c) = [a, b, c] := by
  obtain ⟨h1, h2, h3⟩ := u8_join24 a b c
  simp [dataLenBytes, h1, h2, h3]

/-- The rebuilt header, byte by byte. -/
theorem Buf.buildHdr_header (b : Buf) (hv : 0 ≤ rmapGetMinHdrSize b.instr) :
    rmapBuildHdr b.header = (List.range ((rmapGetMinHdrSize b.instr).toNat + b.skip)).map fun i =>
      if b.packet.Blank i then 0 else b.get i := by
  have hi : b.header.instruction = b.instr := rfl
  rcases minHdrSize_cases b.instr with h | ⟨hc, h⟩ | ⟨hc, hw, h⟩ | ⟨hc, hw, h⟩
  · omega
  · -- a command: the reply path sits between the first four bytes and the last eleven
    have hsplit : (15 : Int).toNat + b.skip = 4 + b.skip + 11 := by omega
    have hmid : (List.range b.skip).map (fun i => if 4 + i = 7 + b.skip then (0 : U8) else b.get (4 + i)) =
        (List.range b.skip).map fun i => b.get (RMAP_REPLY_ADDR_START + i) :=
      List.map_congr_left fun i hi => by
        rw [if_neg (by have := List.mem_range.1 hi; omega)]; rfl
    have hlen : dataLenBytes b.header.dataLen =
        [b.get (12 + b.skip), b.get (13 + b.skip), b.get (14 + b.skip)] := by
      have : b.header.dataLen = join24 (b.get (12 + b.skip)) (b.get (13 + b.skip)) (b.get (14 + b.skip)) := by
        simp only [Buf.header, Buf.dataLen, Buf.skipAddr, readDataLen, hc]
        show join24 _ _ _ = _
        simp only [RMAP_DATALEN_BYTE0, RMAP_DATALEN_BYTE1, RMAP_DATALEN_BYTE2, if_true]
        congr 2 <;> omega
      rw [this, dataLenBytes_join24]
    have haddr : b.header.addr = join32 (b.get (8 + b.skip)) (b.get (9 + b.skip)) (b.get (10 + b.skip))
        (b.get (11 + b.skip)) := by
      simp only [Buf.header, readAddr, hc]
      rfl
    obtain ⟨a3, a2, a1, a0⟩ := u8_join32 (b.get (8 + b.skip)) (b.get (9 + b.skip)) (b.get (10 + b.skip))
        (b.get (11 + b.skip))
    rw [h, hsplit, List.range_add, List.range_add]
    simp only [List.map_append, List.map_map, Function.comp_def, RmapPkt.Blank, Buf.packet_instruction, hc,
      Buf.packet_rpath, List.length_map, List.length_range, if_true]
    rw [hmid]
    simp only [rmapBuildHdr, hi, hc, if_true, hlen, haddr, a3, a2, a1, a0]
    simp [Buf.header, List.range_succ, RMAP_DEST_ADDRESS, RMAP_PROTOCOL_ID, RMAP_INSTRUCTION, RMAP_CMD_DESTKEY,
      RMAP_SRC_ADDR, RMAP_TRANS_ID_BYTE0, RMAP_TRANS_ID_BYTE1, Buf.instr]
    grind
  · have hs : b.skip = 0 := by simp [Buf.skip, hc]
    rw [h, hs]
    have hl : ∀ i, b.packet.Blank i ↔ False := fun i => by
      simp [RmapPkt.Blank, hc, hw]
    simp only [hl, if_false, rmapBuildHdr, hi, hc, hw]
    simp [Buf.header, hs, List.range_succ, RMAP_DEST_ADDRESS, RMAP_PROTOCOL_ID, RMAP_INSTRUCTION, RMAP_CMD_DESTKEY,
      RMAP_SRC_ADDR, RMAP_TRANS_ID_BYTE0, RMAP_TRANS_ID_BYTE1, Buf.instr]
  · have hs : b.skip = 0 := by simp [Buf.skip, hc]
    have hl : ∀ i, b.packet.Blank i ↔ i = 7 := fun i => by
      simp [RmapPkt.Blank, hc, hw]
    have hlen : b.header.dataLen = join24 (b.get 8) (b.get 9) (b.get 10) := by
      simp only [Buf.header, Buf.dataLen, Buf.skipAddr, readDataLen, hc, hw, hs]
      rfl
    rw [h, hs]
    simp only [hl, rmapBuildHdr, hi, hc, hw, hlen, dataLenBytes_join24]
    simp [Buf.header, hs, List.range_succ, RMAP_DEST_ADDRESS, RMAP_PROTOCOL_ID, RMAP_INSTRUCTION, RMAP_CMD_DESTKEY,
      RMAP_SRC_ADDR, RMAP_TRANS_ID_BYTE0, RMAP_TRANS_ID_BYTE1, Buf.instr]

/-- The length of a decoded header. -/
theorem Buf.length_buildHdr_packet (b : Buf) (hv : 0 ≤ rmapGetMinHdrSize b.instr) :
    (rmapBuildHdr b.packet).length = (rmapGetMinHdrSize b.instr).toNat + b.skip := by
  rw [b.buildHdr_packet, b.buildHdr_header hv]
  simp

/-- The data of a packet with a data field starts one byte, the header CRC, behind the header. -/
theorem Buf.data_start (b : Buf) (hv : 0 ≤ rmapGetMinHdrSize b.instr) (hd : b.dataLen ≠ 0) :
    RMAP_DATA_START + b.skipAddr = (rmapGetMinHdrSize b.instr).toNat + b.skip + 1 := by
  rcases minHdrSize_cases b.instr with h | ⟨hc, h⟩ | ⟨hc, hw, h⟩ | ⟨hc, hw, h⟩
  · omega
  · simp only [h, Buf.skipAddr, hc, if_true, RMAP_DATA_START]; omega
  · exact absurd (by simp only [Buf.dataLen, readDataLen, hc, hw]; rfl) hd
  · simp only [h, Buf.skipAddr, Buf.skip, hc, RMAP_DATA_START]; simp

/-- **Decoding loses nothing**: the header of a decoded packet is the header it was decoded from,
but for the byte that has no place in the packet, and the data is the block behind the header CRC. -/
theorem buildHdr_decode (b : Buf) (p : RmapPkt) (h : b.decode = some p) :
    ∃ hfit : (rmapBuildHdr p).length ≤ b.bytes.length,
      (∀ (i : Nat) (hi : i < (rmapBuildHdr p).length),
        (rmapBuildHdr p)[i] = if p.Blank i then 0 else b.bytes[i]) ∧
      p.data = (b.bytes.drop ((rmapBuildHdr p).length + 1)).take p.dataLen.toNat ∧
      p.data.length = p.dataLen.toNat := by
  obtain ⟨ha, rfl⟩ := b.decode_eq_some p |>.1 h
  have hlen := b.length_buildHdr_packet ha.hdr_valid
  have hfit : (rmapBuildHdr b.packet).length ≤ b.bytes.length := hlen ▸ ha.hdr_fits
  refine ⟨hfit, fun i hi => ?_, ?_⟩
  · have hg := b.get_of_lt i (by omega)
    simp only [b.buildHdr_packet, b.buildHdr_header ha.hdr_valid, List.getElem_map, List.getElem_range, hg]
  · rw [hlen, Buf.packet_dataLen]
    by_cases hd : b.dataLen = 0
    · rw [Buf.packet, if_pos hd, hd]; exact ⟨rfl, rfl⟩
    · have hf := ha.data_fits hd
      have hdata : b.packet.data =
          (b.bytes.drop (RMAP_DATA_START + b.skipAddr)).take b.dataLen.toNat := by
        rw [Buf.packet, if_neg hd, ← b.map_get _ _ hf]
      rw [hdata, b.data_start ha.hdr_valid hd]
      exact ⟨rfl, by rw [← b.data_start ha.hdr_valid hd]; simp; omega⟩

/-- A read reply of four bytes, whose reserved byte at index 7 is not 0. -/
theorem buildHdr_decode_readReply :
    ∃ p, Buf.decode ⟨[0x50, 1, 0x0c, 0, 0x51, 0, 5, 0xff, 0, 0, 4, 0x77, 0xa, 0xb, 0xc, 0xd, 0x99], fun _ => 0⟩ =
        some p ∧
      (rmapBuildHdr p).length ≤ 17 ∧ (rmapBuildHdr p)[7]? = some 0 ∧
      p.data = [0xa, 0xb, 0xc, 0xd] ∧ p.data.length = p.dataLen.toNat := by
  have hdec : Buf.decode ⟨[0x50, 1, 0x0c, 0, 0x51, 0, 5, 0xff, 0, 0, 4, 0x77, 0xa, 0xb, 0xc, 0xd, 0x99], fun _ => 0⟩ =
      some { dst := 0x50, protoId := 1, instruction := 0x0c, src := 0x51, trId := 5, dataLen := 4,
             data := [0xa, 0xb, 0xc, 0xd], hdrCrc := 0x77, dataCrc := 0x99 } := by decide
  obtain ⟨hfit, hhdr, hdata, hlen⟩ := buildHdr_decode _ _ hdec
  exact ⟨_, hdec, hfit, congrArg some (hhdr 7 (by decide)), hdata, hlen⟩

/-! ## Encode, then decode -/

/-- A packet whose header the decoder reads back: no destination path, and no field that its kind
of header has no place for. -/
structure RmapPkt.HdrOk (p : RmapPkt) : Prop where
  path_nil : p.path = []
  proto : p.protoId = 1
  valid : 0 ≤ rmapGetMinHdrSize p.instruction
  rpath_len : p.rpath.length = if riCmdResp p.instruction then riReplyAddrLen p.instruction * 4 else 0
  addr_reply : riCmdResp p.instruction = false → p.addr = 0
  len_reply : riCmdResp p.instruction = false → riCmdWrite p.instruction = true → p.dataLen = 0
  len_lt : p.dataLen.toNat < 2 ^ 24

/-- A built header, its CRC byte, and whatever comes behind. -/
def RmapPkt.onWire (p : RmapPkt) (crc : U8) (tail : List U8) : List U8 := rmapBuildHdr p ++ crc :: tail

/-- What follows the reply path in a header. -/
def RmapPkt.hdrRest (p : RmapPkt) : List U8 :=
  [p.src, u8 (p.trId >>> 8), u8 p.trId] ++
    (if riCmdResp p.instruction then
      [0x0, u8 (p.addr >>> 24), u8 (p.addr >>> 16), u8 (p.addr >>> 8), u8 p.addr] ++ dataLenBytes p.dataLen
    else if riCmdWrite p.instruction then []
    else [0x0] ++ dataLenBytes p.dataLen)

section OnWire

variable {p : RmapPkt} (hp : p.HdrOk) (crc : U8) (tail : List U8) (z : Nat → U8)
include hp

/-- What the four leading bytes and the reply path leave for the decoder. -/
theorem RmapPkt.onWire_eq : p.onWire crc tail =
    ([p.dst, 1, p.instruction, p.key] ++ p.rpath) ++ (p.hdrRest ++ crc :: tail) := by
  simp [onWire, rmapBuildHdr, hdrRest, hp.path_nil, hp.proto]

theorem instr_onWire : Buf.instr ⟨p.onWire crc tail, z⟩ = p.instruction := by
  rw [Buf.instr, p.onWire_eq hp]; rfl

theorem skip_onWire : Buf.skip ⟨p.onWire crc tail, z⟩ = p.rpath.length := by
  simp only [Buf.skip, instr_onWire hp, hp.rpath_len]

/-- The byte `k` places behind the reply path. -/
theorem get_onWire (k i : Nat) (hi : i = 4 + p.rpath.length + k) :
    Buf.get ⟨p.onWire crc tail, z⟩ i = (p.hdrRest ++ crc :: tail).getD k (z i) := by
  rw [p.onWire_eq hp]
  exact Buf.get_append _ _ z k i (by simp; omega)

theorem dataLen_onWire : Buf.dataLen ⟨p.onWire crc tail, z⟩ = p.dataLen := by
  have hj := join24_split p.dataLen hp.len_lt
  simp only [Buf.dataLen, Buf.skipAddr, instr_onWire hp, skip_onWire hp, readDataLen]
  cases hc : riCmdResp p.instruction
  · cases hw : riCmdWrite p.instruction
    · rw [if_pos (by simp)]
      show join24 _ _ _ = _
      have h0 : p.rpath.length = 0 := by simpa [hc] using hp.rpath_len
      rw [get_onWire hp crc tail z 4 _ (by simp [RMAP_DATALEN_BYTE0]; omega),
        get_onWire hp crc tail z 5 _ (by simp [RMAP_DATALEN_BYTE1]; omega),
        get_onWire hp crc tail z 6 _ (by simp [RMAP_DATALEN_BYTE2]; omega)]
      simpa [RmapPkt.hdrRest, hc, hw, dataLenBytes] using hj
    · rw [if_neg (by simp)]
      exact (hp.len_reply hc hw).symm
  · rw [if_pos (by simp)]
    show join24 _ _ _ = _
    rw [get_onWire hp crc tail z 8 _ (by simp [RMAP_DATALEN_BYTE0]; omega),
      get_onWire hp crc tail z 9 _ (by simp [RMAP_DATALEN_BYTE1]; omega),
      get_onWire hp crc tail z 10 _ (by simp [RMAP_DATALEN_BYTE2]; omega)]
    simpa [RmapPkt.hdrRest, hc, dataLenBytes] using hj

theorem header_onWire : Buf.header ⟨p.onWire crc tail, z⟩ =
    { p with data := [], dataCrc := 0, hdrCrc := Buf.get ⟨p.onWire crc tail, z⟩ RMAP_HEADER_CRC } := by
  have hr : (List.range p.rpath.length).map
      (fun i => Buf.get ⟨p.onWire crc tail, z⟩ (RMAP_REPLY_ADDR_START + i)) = p.rpath := by
    apply List.ext_getElem (by simp)
    intro i h1 h2
    simp only [List.getElem_map, List.getElem_range]
    rw [p.onWire_eq hp, List.append_assoc]
    exact (Buf.get_append [p.dst, 1, p.instruction, p.key] _ z i _ rfl).trans
      (by simp [List.getElem?_append_left, h2])
  have h0 : Buf.get ⟨p.onWire crc tail, z⟩ RMAP_DEST_ADDRESS = p.dst := by rw [p.onWire_eq hp]; rfl
  have h1 : Buf.get ⟨p.onWire crc tail, z⟩ RMAP_PROTOCOL_ID = p.protoId := by
    rw [p.onWire_eq hp, hp.proto]; rfl
  have h3 : Buf.get ⟨p.onWire crc tail, z⟩ RMAP_CMD_DESTKEY = p.key := by rw [p.onWire_eq hp]; rfl
  have hsrc : Buf.get ⟨p.onWire crc tail, z⟩ (RMAP_SRC_ADDR + p.rpath.length) = p.src := by
    rw [get_onWire hp crc tail z 0 _ (by simp [RMAP_SRC_ADDR])]; rfl
  have htid : join16 (Buf.get ⟨p.onWire crc tail, z⟩ (RMAP_TRANS_ID_BYTE0 + p.rpath.length))
      (Buf.get ⟨p.onWire crc tail, z⟩ (RMAP_TRANS_ID_BYTE1 + p.rpath.length)) = p.trId := by
    rw [get_onWire hp crc tail z 1 _ (by simp [RMAP_TRANS_ID_BYTE0]; omega),
      get_onWire hp crc tail z 2 _ (by simp [RMAP_TRANS_ID_BYTE1]; omega)]
    exact join16_split p.trId
  have haddr : @readAddr Id _ (Buf.get ⟨p.onWire crc tail, z⟩) (riCmdResp p.instruction) p.rpath.length =
      p.addr := by
    cases hc : riCmdResp p.instruction
    · exact (hp.addr_reply hc).symm
    · show join32 _ _ _ _ = _
      rw [get_onWire hp crc tail z 4 _ (by simp [RMAP_ADDR_BYTE0]; omega),
        get_onWire hp crc tail z 5 _ (by simp [RMAP_ADDR_BYTE1]; omega),
        get_onWire hp crc tail z 6 _ (by simp [RMAP_ADDR_BYTE2]; omega),
        get_onWire hp crc tail z 7 _ (by simp [RMAP_ADDR_BYTE3]; omega)]
      simpa [RmapPkt.hdrRest, hc] using join32_split p.addr
  simp only [Buf.header, instr_onWire hp, skip_onWire hp, dataLen_onWire hp, hr, h0, h1, h3, hsrc, htid, haddr]
  simp [hp.path_nil]

omit hp in
theorem length_onWire : (p.onWire crc tail).length = (rmapBuildHdr p).length + 1 + tail.length := by
  simp [RmapPkt.onWire]; omega

omit hp in
theorem drop_onWire : (p.onWire crc tail).drop ((rmapBuildHdr p).length + 1) = tail := by
  rw [RmapPkt.onWire, List.append_cons]
  exact List.drop_left' (by simp)

/-- The decoder and the encoder agree on where the header ends. -/
theorem hdrSize_onWire :
    (rmapGetMinHdrSize p.instruction).toNat + p.rpath.length = (rmapBuildHdr p).length := by
  have h := Buf.length_buildHdr_packet ⟨p.onWire 0 [], fun _ => 0⟩
    (by rw [instr_onWire hp]; exact hp.valid)
  rw [Buf.buildHdr_packet, header_onWire hp, instr_onWire hp, skip_onWire hp] at h
  exact h.symm

theorem accepts_onWire : Buf.Accepts ⟨p.onWire crc tail, z⟩ ↔
    (p.dataLen ≠ 0 → p.dataLen.toNat ≤ tail.length) := by
  have hsize := hdrSize_onWire hp
  have hlen := length_onWire (p := p) crc tail
  have hstart := fun hd => Buf.data_start ⟨p.onWire crc tail, z⟩
    (by rw [instr_onWire hp]; exact hp.valid) (by rwa [dataLen_onWire hp])
  simp only [instr_onWire hp, skip_onWire hp] at hstart
  constructor
  · intro h hd
    have := h.data_fits (by rwa [dataLen_onWire hp])
    rw [hstart hd, dataLen_onWire hp] at this
    simp only at this
    omega
  · intro h
    refine ⟨by rw [p.onWire_eq hp]; rfl, by rw [instr_onWire hp]; exact hp.valid, ?_, ?_⟩
    · rw [instr_onWire hp, skip_onWire hp]
      simp only
      omega
    · intro hd
      rw [dataLen_onWire hp] at hd ⊢
      rw [hstart hd]
      have := h hd
      simp only
      omega

/-- **Encode, then decode**: a header with its CRC byte decodes to the packet it was built from,
provided the data its length field announces is there. -/
theorem decode_onWire : Buf.decode ⟨p.onWire crc tail, z⟩ =
    if p.dataLen = 0 then
      some { p with data := [], dataCrc := 0, hdrCrc := Buf.get ⟨p.onWire crc tail, z⟩ RMAP_HEADER_CRC }
    else if tail.length < p.dataLen.toNat then none
    else some { p with
      data := tail.take p.dataLen.toNat
      dataCrc := Buf.get ⟨p.onWire crc tail, z⟩ ((rmapBuildHdr p).length + 1 + p.dataLen.toNat)
      hdrCrc := Buf.get ⟨p.onWire crc tail, z⟩ RMAP_HEADER_CRC } := by
  have hsize := hdrSize_onWire hp
  split
  · rename_i hd
    refine (Buf.decode_eq_some _ _).2 ⟨(accepts_onWire hp crc tail z).2 fun h => absurd hd h, ?_⟩
    rw [Buf.packet, if_pos (by rwa [dataLen_onWire hp]), header_onWire hp]
  · rename_i hd
    split
    · rename_i hl
      refine Buf.decode_eq_none _ fun h => ?_
      have := (accepts_onWire hp crc tail z).1 h hd
      omega
    · rename_i hl
      have ha := (accepts_onWire hp crc tail z).2 fun _ => by omega
      have hstart := Buf.data_start ⟨p.onWire crc tail, z⟩ ha.hdr_valid (by rwa [dataLen_onWire hp])
      rw [instr_onWire hp, skip_onWire hp, hsize] at hstart
      refine (Buf.decode_eq_some _ _).2 ⟨ha, ?_⟩
      have hdata := Buf.map_get ⟨p.onWire crc tail, z⟩ ((rmapBuildHdr p).length + 1) p.dataLen.toNat
        (by rw [length_onWire]; omega)
      rw [Buf.packet, if_neg (by rwa [dataLen_onWire hp]), header_onWire hp, dataLen_onWire hp, hstart, hdata,
        drop_onWire]

/-- A packet with its data behind the header. -/
theorem decode_onWire_data (data extra : List U8) (hlen : p.dataLen.toNat = data.length) (hne : data ≠ []) :
    Buf.decode ⟨p.onWire crc (data ++ extra), z⟩ =
    some { p with
      data := data
      dataCrc := Buf.get ⟨p.onWire crc (data ++ extra), z⟩ ((rmapBuildHdr p).length + 1 + data.length)
      hdrCrc := Buf.get ⟨p.onWire crc (data ++ extra), z⟩ RMAP_HEADER_CRC } := by
  have hz : p.dataLen ≠ 0 := by
    intro h
    rw [h] at hlen
    exact hne (List.length_eq_zero_iff.1 hlen.symm)
  rw [decode_onWire hp, if_neg hz, hlen, if_neg (by rw [List.length_append]; omega), List.take_left' rfl]

/-- A packet without a data field. -/
theorem decode_onWire_nodata (hz : p.dataLen = 0) :
    Buf.decode ⟨p.onWire crc tail, z⟩ =
    some { p with
      data := [], dataCrc := 0, hdrCrc := Buf.get ⟨p.onWire crc tail, z⟩ RMAP_HEADER_CRC } := by
  rw [decode_onWire hp, if_pos hz]

end OnWire

end SmileFee
