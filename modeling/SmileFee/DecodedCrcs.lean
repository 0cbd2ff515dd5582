import SmileFee.FeeRmap

/-!
# The CRCs of a decoded packet (`rmap.c:589-628`)

The decoder keeps the two CRC bytes of a packet for its caller to check. Behind a reply path and an
address everything is shifted; the shift is applied to the data and its CRC, but not to the header CRC,
which is always taken from byte 11. That is where a read reply has it. In a command it is the last byte
of the address, the extended address byte or a byte of the reply path, for reply paths of 0, 4 and more
bytes (**`reportsCrcs_iff`**).
-/

namespace SmileFee

/-- A packet in one piece, with both its CRCs, is decoded, and the CRCs are those of the packet. -/
def ReportsCrcs (p : RmapPkt) (data : List U8) : Prop :=
  ∀ beyond, ∃ q,
    Buf.decode ⟨p.onWire (rmapCrc8 (rmapBuildHdr p)) (data ++ [rmapCrc8 data]), beyond⟩ = some q ∧
      q.hdrCrc = rmapCrc8 (rmapBuildHdr p) ∧ q.dataCrc = rmapCrc8 data

section

variable {p : RmapPkt} (crc : U8) (tail : List U8) (z : Nat → U8)

theorem get_onWire_hdr (i : Nat) (hi : i < (rmapBuildHdr p).length) :
    Buf.get ⟨p.onWire crc tail, z⟩ i = (rmapBuildHdr p).getD i 0 := by
  rw [Buf.get, RmapPkt.onWire, List.getD_append _ _ _ _ hi, List.getD_eq_getElem _ _ hi, List.getD_eq_getElem _ _ hi]

theorem get_onWire_crc : Buf.get ⟨p.onWire crc tail, z⟩ (rmapBuildHdr p).length = crc :=
  Buf.get_append _ _ z 0 _ rfl

theorem get_onWire_tail (i : Nat) (hi : i < tail.length) :
    Buf.get ⟨p.onWire crc tail, z⟩ ((rmapBuildHdr p).length + 1 + i) = tail.getD i 0 := by
  rw [RmapPkt.onWire, Buf.get_append _ _ z (i + 1) _ (by omega), List.getD_cons_succ,
    List.getD_eq_getElem _ _ hi, List.getD_eq_getElem _ _ hi]

end

/-- The header of a packet with data: a command, or the eleven bytes of a read reply. -/
theorem length_buildHdr_of_data {p : RmapPkt} (hp : p.HdrOk) (hd : p.dataLen ≠ 0) :
    (riCmdResp p.instruction = true ∧ (rmapBuildHdr p).length = 15 + p.rpath.length) ∨
      (riCmdResp p.instruction = false ∧ (rmapBuildHdr p).length = 11) := by
  have hsize := hdrSize_onWire hp
  have hrpath := hp.rpath_len
  rcases minHdrSize_cases p.instruction with h | ⟨hc, h⟩ | ⟨hc, hw, -⟩ | ⟨hc, -, h⟩
  · exact absurd hp.valid (by omega)
  · exact .inl ⟨hc, by rw [← hsize, h]; rfl⟩
  · exact absurd (hp.len_reply hc hw) hd
  · rw [hc] at hrpath
    refine .inr ⟨hc, ?_⟩
    rw [← hsize, h, hrpath]
    rfl

/-- **When the decoder reports the CRCs that were sent**: for read replies, and for commands whose header
has its own CRC in byte 11 as well. -/
theorem reportsCrcs_iff (p : RmapPkt) (hp : p.HdrOk) (data : List U8) (hne : data ≠ [])
    (hlen : p.dataLen.toNat = data.length) :
    ReportsCrcs p data ↔ riCmdResp p.instruction = false ∨
      (rmapBuildHdr p).getD RMAP_HEADER_CRC 0 = rmapCrc8 (rmapBuildHdr p) := by
  have hd : p.dataLen ≠ 0 := by
    rintro h
    rw [h] at hlen
    exact hne (List.length_eq_zero_iff.1 hlen.symm)
  have hdec (beyond : Nat → U8) := decode_onWire_data hp (rmapCrc8 (rmapBuildHdr p)) beyond data [rmapCrc8 data] hlen hne
  have hdataCrc (beyond : Nat → U8) :
      Buf.get ⟨p.onWire (rmapCrc8 (rmapBuildHdr p)) (data ++ [rmapCrc8 data]), beyond⟩
        ((rmapBuildHdr p).length + 1 + data.length) = rmapCrc8 data := by
    rw [get_onWire_tail _ _ _ _ (by simp), List.getD_append_right _ _ _ _ le_rfl, Nat.sub_self]
    rfl
  -- what is left is the byte that is taken for the header CRC
  have hiff : ReportsCrcs p data ↔ ∀ beyond,
      Buf.get ⟨p.onWire (rmapCrc8 (rmapBuildHdr p)) (data ++ [rmapCrc8 data]), beyond⟩ RMAP_HEADER_CRC =
        rmapCrc8 (rmapBuildHdr p) := by
    constructor
    · intro h beyond
      obtain ⟨q, hq, hhdr, -⟩ := h beyond
      rw [hdec beyond] at hq
      cases hq
      exact hhdr
    · intro h beyond
      exact ⟨_, hdec beyond, h beyond, hdataCrc beyond⟩
  rw [hiff]
  rcases length_buildHdr_of_data hp hd with ⟨hc, hl⟩ | ⟨hc, hl⟩
  · simp only [hc, get_onWire_hdr _ _ _ RMAP_HEADER_CRC (by rw [hl, RMAP_HEADER_CRC]; omega)]
    simp
  · simp only [hc, true_or, iff_true]
    intro beyond
    rw [RMAP_HEADER_CRC, ← hl]
    exact get_onWire_crc _ _ _

/-- A read reply of four bytes. -/
theorem reportsCrcs_readReply :
    ReportsCrcs { dst := 0x50, protoId := 1, instruction := 0x0c, src := 0x51, trId := 5, dataLen := 4 }
      [0xa, 0xb, 0xc, 0xd] :=
  (reportsCrcs_iff _ ⟨rfl, rfl, by decide, rfl, fun _ => rfl, by decide, by simp⟩ _ (by decide) rfl).2 (.inl rfl)

/-- A write to a register: the address is reported instead of the header CRC. -/
theorem not_reportsCrcs_register_write :
    ∃ q, Buf.decode ⟨(cmdPkt {} 7 RMAP_WRITE_ADDR_INC_REPLY 0x40 4).onWire
        (rmapCrc8 (rmapBuildHdr (cmdPkt {} 7 RMAP_WRITE_ADDR_INC_REPLY 0x40 4)))
        ([0, 0, 0, 1] ++ [rmapCrc8 [0, 0, 0, 1]]), fun _ => 0⟩ = some q ∧
      q.hdrCrc = 0x40 ∧ rmapCrc8 (rmapBuildHdr (cmdPkt {} 7 RMAP_WRITE_ADDR_INC_REPLY 0x40 4)) = 0x63 ∧
      ¬ ReportsCrcs (cmdPkt {} 7 RMAP_WRITE_ADDR_INC_REPLY 0x40 4) [0, 0, 0, 1] := by
  have hcrc : rmapCrc8 (rmapBuildHdr (cmdPkt {} 7 RMAP_WRITE_ADDR_INC_REPLY 0x40 4)) = 0x63 := by decide +kernel
  refine ⟨_, rfl, rfl, hcrc, fun h => ?_⟩
  obtain ⟨q, hq, hhdr, -⟩ := h fun _ => 0
  cases hq
  rw [hcrc] at hhdr
  revert hhdr
  decide

end SmileFee
