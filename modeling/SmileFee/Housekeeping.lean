import SmileFee.Setters

/-!
# The housekeeping registers (`FEE/smile_fee_ctrl.c:1765-3750`)

The simulator sets what the library reads. `HkField` lists the fields that have both accessors. Where
their names differ, a field goes by the name that the getter has.

**`hk_readback_iff`**: a value that fits is read back, and no other bit of the mirror changes; only the
mode of the FPGA is read with seven bits and set with four.
-/

namespace SmileFee

open Word Mem

/-- The place of `hk_reg_n` in `struct smile_fee_mirror`, counted in registers. -/
def hkIdx (n : Nat) : Nat := 0x1C0 + n

namespace Mirror

variable (s : Mirror)

theorem cfgReg_hkIdx (n : Nat) : s.cfgReg (hkIdx n) = s.hkReg n := by
  rw [cfgReg, hkReg, hkIdx]
  omega

/-! ## The accessors -/

/-! hk_reg_4 -/

def smileFeeGetHkCcd2TsA (m : Mem) : U16 := (s.getBits (hkIdx 4) 0xFFFF 16 m).setWidth 16
def smileFeeSetHkCcd2TsA (v : U16) (m : Mem) : Mem := s.setBits (hkIdx 4) 0xFFFF 16 (u32 v) m

/-- The setter is `smile_fee_set_hk_ccd2_ts_b`. -/
def smileFeeGetHkCcd4TsB (m : Mem) : U16 := (s.getBits (hkIdx 4) 0xFFFF 0 m).setWidth 16
def smileFeeSetHkCcd2TsB (v : U16) (m : Mem) : Mem := s.setBits (hkIdx 4) 0xFFFF 0 (u32 v) m

/-! hk_reg_5 -/

def smileFeeGetHkPrt1 (m : Mem) : U16 := (s.getBits (hkIdx 5) 0xFFFF 16 m).setWidth 16
def smileFeeSetHkPrt1 (v : U16) (m : Mem) : Mem := s.setBits (hkIdx 5) 0xFFFF 16 (u32 v) m

def smileFeeGetHkPrt2 (m : Mem) : U16 := (s.getBits (hkIdx 5) 0xFFFF 0 m).setWidth 16
def smileFeeSetHkPrt2 (v : U16) (m : Mem) : Mem := s.setBits (hkIdx 5) 0xFFFF 0 (u32 v) m

/-! hk_reg_6 -/

def smileFeeGetHkPrt3 (m : Mem) : U16 := (s.getBits (hkIdx 6) 0xFFFF 16 m).setWidth 16
def smileFeeSetHkPrt3 (v : U16) (m : Mem) : Mem := s.setBits (hkIdx 6) 0xFFFF 16 (u32 v) m

def smileFeeGetHkPrt4 (m : Mem) : U16 := (s.getBits (hkIdx 6) 0xFFFF 0 m).setWidth 16
def smileFeeSetHkPrt4 (v : U16) (m : Mem) : Mem := s.setBits (hkIdx 6) 0xFFFF 0 (u32 v) m

/-! hk_reg_7 -/

def smileFeeGetHkPrt5 (m : Mem) : U16 := (s.getBits (hkIdx 7) 0xFFFF 16 m).setWidth 16
def smileFeeSetHkPrt5 (v : U16) (m : Mem) : Mem := s.setBits (hkIdx 7) 0xFFFF 16 (u32 v) m

/-! hk_reg_8 -/

def smileFeeGetHkCcd4VodMonE (m : Mem) : U16 := (s.getBits (hkIdx 8) 0xFFFF 16 m).setWidth 16
def smileFeeSetHkCcd4VodMonE (v : U16) (m : Mem) : Mem := s.setBits (hkIdx 8) 0xFFFF 16 (u32 v) m

def smileFeeGetHkCcd4VogMon (m : Mem) : U16 := (s.getBits (hkIdx 8) 0xFFFF 0 m).setWidth 16
def smileFeeSetHkCcd4VogMon (v : U16) (m : Mem) : Mem := s.setBits (hkIdx 8) 0xFFFF 0 (u32 v) m

/-! hk_reg_9 -/

def smileFeeGetHkCcd4VrdMonE (m : Mem) : U16 := (s.getBits (hkIdx 9) 0xFFFF 16 m).setWidth 16
def smileFeeSetHkCcd4VrdMonE (v : U16) (m : Mem) : Mem := s.setBits (hkIdx 9) 0xFFFF 16 (u32 v) m

def smileFeeGetHkCcd2VodMon (m : Mem) : U16 := (s.getBits (hkIdx 9) 0xFFFF 0 m).setWidth 16
def smileFeeSetHkCcd2VodMon (v : U16) (m : Mem) : Mem := s.setBits (hkIdx 9) 0xFFFF 0 (u32 v) m

/-! hk_reg_10 -/

def smileFeeGetHkCcd2VogMon (m : Mem) : U16 := (s.getBits (hkIdx 10) 0xFFFF 16 m).setWidth 16
def smileFeeSetHkCcd2VogMon (v : U16) (m : Mem) : Mem := s.setBits (hkIdx 10) 0xFFFF 16 (u32 v) m

def smileFeeGetHkCcd2VrdMonE (m : Mem) : U16 := (s.getBits (hkIdx 10) 0xFFFF 0 m).setWidth 16
def smileFeeSetHkCcd2VrdMonE (v : U16) (m : Mem) : Mem := s.setBits (hkIdx 10) 0xFFFF 0 (u32 v) m

/-! hk_reg_11 -/

def smileFeeGetHkCcd4VrdMonF (m : Mem) : U16 := (s.getBits (hkIdx 11) 0xFFFF 16 m).setWidth 16
def smileFeeSetHkCcd4VrdMonF (v : U16) (m : Mem) : Mem := s.setBits (hkIdx 11) 0xFFFF 16 (u32 v) m

def smileFeeGetHkCcd4VddMon (m : Mem) : U16 := (s.getBits (hkIdx 11) 0xFFFF 0 m).setWidth 16
def smileFeeSetHkCcd4VddMon (v : U16) (m : Mem) : Mem := s.setBits (hkIdx 11) 0xFFFF 0 (u32 v) m

/-! hk_reg_12 -/

def smileFeeGetHkCcd4VgdMon (m : Mem) : U16 := (s.getBits (hkIdx 12) 0xFFFF 16 m).setWidth 16
def smileFeeSetHkCcd4VgdMon (v : U16) (m : Mem) : Mem := s.setBits (hkIdx 12) 0xFFFF 16 (u32 v) m

def smileFeeGetHkCcd2VrdMonF (m : Mem) : U16 := (s.getBits (hkIdx 12) 0xFFFF 0 m).setWidth 16
def smileFeeSetHkCcd2VrdMonF (v : U16) (m : Mem) : Mem := s.setBits (hkIdx 12) 0xFFFF 0 (u32 v) m

/-! hk_reg_13 -/

def smileFeeGetHkCcd2VddMon (m : Mem) : U16 := (s.getBits (hkIdx 13) 0xFFFF 16 m).setWidth 16
def smileFeeSetHkCcd2VddMon (v : U16) (m : Mem) : Mem := s.setBits (hkIdx 13) 0xFFFF 16 (u32 v) m

def smileFeeGetHkCcd2VgdMon (m : Mem) : U16 := (s.getBits (hkIdx 13) 0xFFFF 0 m).setWidth 16
def smileFeeSetHkCcd2VgdMon (v : U16) (m : Mem) : Mem := s.setBits (hkIdx 13) 0xFFFF 0 (u32 v) m

/-! hk_reg_14 -/

def smileFeeGetHkVccd (m : Mem) : U16 := (s.getBits (hkIdx 14) 0xFFFF 16 m).setWidth 16
def smileFeeSetHkVccd (v : U16) (m : Mem) : Mem := s.setBits (hkIdx 14) 0xFFFF 16 (u32 v) m

def smileFeeGetHkVrclkMon (m : Mem) : U16 := (s.getBits (hkIdx 14) 0xFFFF 0 m).setWidth 16
def smileFeeSetHkVrclkMon (v : U16) (m : Mem) : Mem := s.setBits (hkIdx 14) 0xFFFF 0 (u32 v) m

/-! hk_reg_15 -/

def smileFeeGetHkViclk (m : Mem) : U16 := (s.getBits (hkIdx 15) 0xFFFF 16 m).setWidth 16
def smileFeeSetHkViclk (v : U16) (m : Mem) : Mem := s.setBits (hkIdx 15) 0xFFFF 16 (u32 v) m

def smileFeeGetHkCcd4VodMonF (m : Mem) : U16 := (s.getBits (hkIdx 15) 0xFFFF 0 m).setWidth 16
def smileFeeSetHkCcd4VodMonF (v : U16) (m : Mem) : Mem := s.setBits (hkIdx 15) 0xFFFF 0 (u32 v) m

/-! hk_reg_16 -/

def smileFeeGetHk5vbPosMon (m : Mem) : U16 := (s.getBits (hkIdx 16) 0xFFFF 16 m).setWidth 16
def smileFeeSetHk5vbPosMon (v : U16) (m : Mem) : Mem := s.setBits (hkIdx 16) 0xFFFF 16 (u32 v) m

def smileFeeGetHk5vbNegMon (m : Mem) : U16 := (s.getBits (hkIdx 16) 0xFFFF 0 m).setWidth 16
def smileFeeSetHk5vbNegMon (v : U16) (m : Mem) : Mem := s.setBits (hkIdx 16) 0xFFFF 0 (u32 v) m

/-! hk_reg_17 -/

def smileFeeGetHk3v3bMon (m : Mem) : U16 := (s.getBits (hkIdx 17) 0xFFFF 16 m).setWidth 16
def smileFeeSetHk3v3bMon (v : U16) (m : Mem) : Mem := s.setBits (hkIdx 17) 0xFFFF 16 (u32 v) m

def smileFeeGetHk2v5aMon (m : Mem) : U16 := (s.getBits (hkIdx 17) 0xFFFF 0 m).setWidth 16
def smileFeeSetHk2v5aMon (v : U16) (m : Mem) : Mem := s.setBits (hkIdx 17) 0xFFFF 0 (u32 v) m

/-! hk_reg_18 -/

def smileFeeGetHk3v3dMon (m : Mem) : U16 := (s.getBits (hkIdx 18) 0xFFFF 16 m).setWidth 16
def smileFeeSetHk3v3dMon (v : U16) (m : Mem) : Mem := s.setBits (hkIdx 18) 0xFFFF 16 (u32 v) m

def smileFeeGetHk2v5dMon (m : Mem) : U16 := (s.getBits (hkIdx 18) 0xFFFF 0 m).setWidth 16
def smileFeeSetHk2v5dMon (v : U16) (m : Mem) : Mem := s.setBits (hkIdx 18) 0xFFFF 0 (u32 v) m

/-! hk_reg_19 -/

def smileFeeGetHk1v2dMon (m : Mem) : U16 := (s.getBits (hkIdx 19) 0xFFFF 16 m).setWidth 16
def smileFeeSetHk1v2dMon (v : U16) (m : Mem) : Mem := s.setBits (hkIdx 19) 0xFFFF 16 (u32 v) m

def smileFeeGetHk5vrefMon (m : Mem) : U16 := (s.getBits (hkIdx 19) 0xFFFF 0 m).setWidth 16
def smileFeeSetHk5vrefMon (v : U16) (m : Mem) : Mem := s.setBits (hkIdx 19) 0xFFFF 0 (u32 v) m

/-! hk_reg_20 -/

def smileFeeGetHkVccdPosRaw (m : Mem) : U16 := (s.getBits (hkIdx 20) 0xFFFF 16 m).setWidth 16
def smileFeeSetHkVccdPosRaw (v : U16) (m : Mem) : Mem := s.setBits (hkIdx 20) 0xFFFF 16 (u32 v) m

def smileFeeGetHkVclkPosRaw (m : Mem) : U16 := (s.getBits (hkIdx 20) 0xFFFF 0 m).setWidth 16
def smileFeeSetHkVclkPosRaw (v : U16) (m : Mem) : Mem := s.setBits (hkIdx 20) 0xFFFF 0 (u32 v) m

/-! hk_reg_21 -/

def smileFeeGetHkVan1PosRaw (m : Mem) : U16 := (s.getBits (hkIdx 21) 0xFFFF 16 m).setWidth 16
def smileFeeSetHkVan1PosRaw (v : U16) (m : Mem) : Mem := s.setBits (hkIdx 21) 0xFFFF 16 (u32 v) m

/-- The setter is `smile_fee_set_hk_van3_neg_monw`. -/
def smileFeeGetHkVan3NegMon (m : Mem) : U16 := (s.getBits (hkIdx 21) 0xFFFF 0 m).setWidth 16
def smileFeeSetHkVan3NegMonw (v : U16) (m : Mem) : Mem := s.setBits (hkIdx 21) 0xFFFF 0 (u32 v) m

/-! hk_reg_22 -/

def smileFeeGetHkVan2PosRaw (m : Mem) : U16 := (s.getBits (hkIdx 22) 0xFFFF 16 m).setWidth 16
def smileFeeSetHkVan2PosRaw (v : U16) (m : Mem) : Mem := s.setBits (hkIdx 22) 0xFFFF 16 (u32 v) m

def smileFeeGetHkVdigRaw (m : Mem) : U16 := (s.getBits (hkIdx 22) 0xFFFF 0 m).setWidth 16
def smileFeeSetHkVdigRaw (v : U16) (m : Mem) : Mem := s.setBits (hkIdx 22) 0xFFFF 0 (u32 v) m

/-! hk_reg_23 -/

def smileFeeGetHkIgHiMon (m : Mem) : U16 := (s.getBits (hkIdx 23) 0xFFFF 16 m).setWidth 16
def smileFeeSetHkIgHiMon (v : U16) (m : Mem) : Mem := s.setBits (hkIdx 23) 0xFFFF 16 (u32 v) m

def smileFeeGetHkCcd2VodMonF (m : Mem) : U16 := (s.getBits (hkIdx 23) 0xFFFF 0 m).setWidth 16
def smileFeeSetHkCcd2VodMonF (v : U16) (m : Mem) : Mem := s.setBits (hkIdx 23) 0xFFFF 0 (u32 v) m

/-! hk_reg_32 -/

def smileFeeGetSpwId (m : Mem) : U8 := (s.getBits (hkIdx 32) 0x3 24 m).setWidth 8
def smileFeeSetSpwId (v : U8) (m : Mem) : Mem := s.setBits (hkIdx 32) 0x3 24 (u32 v) m

def smileFeeGetHkTimecodeFromSpw (m : Mem) : U8 := (s.getBits (hkIdx 32) 0xFF 16 m).setWidth 8
def smileFeeSetHkTimecodeFromSpw (v : U8) (m : Mem) : Mem := s.setBits (hkIdx 32) 0xFF 16 (u32 v) m

def smileFeeGetHkRmapTargetStatus (m : Mem) : U8 := (s.getBits (hkIdx 32) 0xFF 8 m).setWidth 8
def smileFeeSetHkRmapTargetStatus (v : U8) (m : Mem) : Mem := s.setBits (hkIdx 32) 0xFF 8 (u32 v) m

def smileFeeGetHkRmapTargetIndicate (m : Mem) : U32 := s.getBits (hkIdx 32) 0x1 5 m
def smileFeeSetHkRmapTargetIndicate (mode : U32) (m : Mem) : Mem := s.setFlag (hkIdx 32) 5 mode m

def smileFeeGetHkSpwLinkEscapeError (m : Mem) : U32 := s.getBits (hkIdx 32) 0x1 4 m
def smileFeeSetHkSpwLinkEscapeError (mode : U32) (m : Mem) : Mem := s.setFlag (hkIdx 32) 4 mode m

def smileFeeGetHkSpwLinkCreditError (m : Mem) : U32 := s.getBits (hkIdx 32) 0x1 3 m
def smileFeeSetHkSpwLinkCreditError (mode : U32) (m : Mem) : Mem := s.setFlag (hkIdx 32) 3 mode m

def smileFeeGetHkSpwLinkParityError (m : Mem) : U32 := s.getBits (hkIdx 32) 0x1 2 m
def smileFeeSetHkSpwLinkParityError (mode : U32) (m : Mem) : Mem := s.setFlag (hkIdx 32) 2 mode m

/-- The setter is `smile_fee_set_hk_spw_link_disconnect_error`. -/
def smileFeeGetHkSpwLinkDisconnect (m : Mem) : U32 := s.getBits (hkIdx 32) 0x1 1 m
def smileFeeSetHkSpwLinkDisconnectError (mode : U32) (m : Mem) : Mem := s.setFlag (hkIdx 32) 1 mode m

def smileFeeGetHkSpwLinkRunning (m : Mem) : U32 := s.getBits (hkIdx 32) 0x1 0 m
def smileFeeSetHkSpwLinkRunning (mode : U32) (m : Mem) : Mem := s.setFlag (hkIdx 32) 0 mode m

/-! hk_reg_33 -/

def smileFeeGetHkFrameCounter (m : Mem) : U32 := s.getBits (hkIdx 33) 0xFFFF 16 m
def smileFeeSetHkFrameCounter (v : U16) (m : Mem) : Mem := s.setBits (hkIdx 33) 0xFFFF 16 (u32 v) m

def smileFeeGetHkFpgaOpMode (m : Mem) : U8 := (s.getBits (hkIdx 33) 0x7F 0 m).setWidth 8

/-- `smile_fee_set_hk_fpga_op_mode` clears the seven bits and sets four (`:3228`). -/
def smileFeeSetHkFpgaOpMode (v : U8) (m : Mem) : Mem :=
  s.updReg (hkIdx 33) (fun x => (x &&& ~~~(0x7F : U32)) ||| u32 (v &&& 0xF)) m

/-! hk_reg_34 -/

def smileFeeGetHkErrorFlagSpwDacOnBiasReadback (m : Mem) : U32 := s.getBits (hkIdx 34) 0x1 0 m
def smileFeeSetHkErrorFlagSpwDacOnBiasReadback (mode : U32) (m : Mem) : Mem := s.setFlag (hkIdx 34) 0 mode m

def smileFeeGetHkErrorFlagDacOffBiasReadbackError (m : Mem) : U32 := s.getBits (hkIdx 34) 0x1 1 m
def smileFeeSetHkErrorFlagDacOffBiasReadbackError (mode : U32) (m : Mem) : Mem := s.setFlag (hkIdx 34) 1 mode m

def smileFeeGetHkErrorFlagExtSdramEdacCorrErrError (m : Mem) : U32 := s.getBits (hkIdx 34) 0x1 5 m
def smileFeeSetHkErrorFlagExtSdramEdacCorrErrError (mode : U32) (m : Mem) : Mem := s.setFlag (hkIdx 34) 5 mode m

def smileFeeGetHkErrorFlagExtSdramEdacUncorrErrError (m : Mem) : U32 := s.getBits (hkIdx 34) 0x1 6 m
def smileFeeSetHkErrorFlagExtSdramEdacUncorrErrError (mode : U32) (m : Mem) : Mem := s.setFlag (hkIdx 34) 6 mode m

def smileFeeGetHkErrorFlagSpwLinkDisconnectError (m : Mem) : U32 := s.getBits (hkIdx 34) 0x1 7 m
def smileFeeSetHkErrorFlagSpwLinkDisconnectError (mode : U32) (m : Mem) : Mem := s.setFlag (hkIdx 34) 7 mode m

def smileFeeGetHkErrorFlagSpwLinkEscapeError (m : Mem) : U32 := s.getBits (hkIdx 34) 0x1 8 m
def smileFeeSetHkErrorFlagSpwLinkEscapeError (mode : U32) (m : Mem) : Mem := s.setFlag (hkIdx 34) 8 mode m

def smileFeeGetHkErrorFlagSpwLinkCreditError (m : Mem) : U32 := s.getBits (hkIdx 34) 0x1 9 m
def smileFeeSetHkErrorFlagSpwLinkCreditError (mode : U32) (m : Mem) : Mem := s.setFlag (hkIdx 34) 9 mode m

def smileFeeGetHkErrorFlagSpwLinkParityError (m : Mem) : U32 := s.getBits (hkIdx 34) 0x1 10 m
def smileFeeSetHkErrorFlagSpwLinkParityError (mode : U32) (m : Mem) : Mem := s.setFlag (hkIdx 34) 10 mode m

/-! hk_reg_35 -/

def smileFeeGetHkFpgaMinorVersion (m : Mem) : U8 := (s.getBits (hkIdx 35) 0xFF 0 m).setWidth 8
def smileFeeSetHkFpgaMinorVersion (v : U8) (m : Mem) : Mem := s.setBits (hkIdx 35) 0xFF 0 (u32 v) m

def smileFeeGetHkFpgaMajorVersion (m : Mem) : U8 := (s.getBits (hkIdx 35) 0xF 8 m).setWidth 8
def smileFeeSetHkFpgaMajorVersion (v : U8) (m : Mem) : Mem := s.setBits (hkIdx 35) 0xF 8 (u32 v) m

def smileFeeGetHkBoardId (m : Mem) : U16 := (s.getBits (hkIdx 35) 0x1F 12 m).setWidth 16
def smileFeeSetHkBoardId (v : U16) (m : Mem) : Mem := s.setBits (hkIdx 35) 0x1F 12 (u32 v) m

def smileFeeGetCmicCorr (m : Mem) : U16 := (s.getBits (hkIdx 35) 0xFFF 17 m).setWidth 16
def smileFeeSetCmicCorr (v : U16) (m : Mem) : Mem := s.setBits (hkIdx 35) 0xFFF 17 (u32 v) m

/-! hk_reg_36 -/

def smileFeeGetHkCcd2FPixFullSun (m : Mem) : U16 := (s.getBits (hkIdx 36) 0xFFFF 16 m).setWidth 16
def smileFeeSetHkCcd2FPixFullSun (v : U16) (m : Mem) : Mem := s.setBits (hkIdx 36) 0xFFFF 16 (u32 v) m

def smileFeeGetHkCcd2EPixFullSun (m : Mem) : U16 := (s.getBits (hkIdx 36) 0xFFFF 0 m).setWidth 16
def smileFeeSetHkCcd2EPixFullSun (v : U16) (m : Mem) : Mem := s.setBits (hkIdx 36) 0xFFFF 0 (u32 v) m

/-! hk_reg_37 -/

def smileFeeGetHkCcd4FPixFullSun (m : Mem) : U16 := (s.getBits (hkIdx 37) 0xFFFF 16 m).setWidth 16
def smileFeeSetHkCcd4FPixFullSun (v : U16) (m : Mem) : Mem := s.setBits (hkIdx 37) 0xFFFF 16 (u32 v) m

def smileFeeGetHkCcd4EPixFullSun (m : Mem) : U16 := (s.getBits (hkIdx 37) 0xFFFF 0 m).setWidth 16
def smileFeeSetHkCcd4EPixFullSun (v : U16) (m : Mem) : Mem := s.setBits (hkIdx 37) 0xFFFF 0 (u32 v) m

end Mirror

/-! ## Fields -/

inductive HkField where
  | ccd2TsA | ccd4TsB | prt1 | prt2 | prt3 | prt4 | prt5 | ccd4VodMonE | ccd4VogMon | ccd4VrdMonE | ccd2VodMon
  | ccd2VogMon | ccd2VrdMonE | ccd4VrdMonF | ccd4VddMon | ccd4VgdMon | ccd2VrdMonF | ccd2VddMon | ccd2VgdMon
  | vccd | vrclkMon | viclk | ccd4VodMonF | hk5vbPosMon | hk5vbNegMon | hk3v3bMon | hk2v5aMon | hk3v3dMon
  | hk2v5dMon | hk1v2dMon | hk5vrefMon | vccdPosRaw | vclkPosRaw | van1PosRaw | van3NegMon | van2PosRaw
  | vdigRaw | igHiMon | ccd2VodMonF | spwId | timecodeFromSpw | rmapTargetStatus | rmapTargetIndicate
  | spwLinkEscapeError | spwLinkCreditError | spwLinkParityError | spwLinkDisconnect | spwLinkRunning
  | frameCounter | fpgaOpMode | errorFlagSpwDacOnBiasReadback | errorFlagDacOffBiasReadbackError
  | errorFlagExtSdramEdacCorrErrError | errorFlagExtSdramEdacUncorrErrError | errorFlagSpwLinkDisconnectError
  | errorFlagSpwLinkEscapeError | errorFlagSpwLinkCreditError | errorFlagSpwLinkParityError | fpgaMinorVersion
  | fpgaMajorVersion | boardId | cmicCorr | ccd2FPixFullSun | ccd2EPixFullSun | ccd4FPixFullSun
  | ccd4EPixFullSun
deriving DecidableEq, Repr

/-- The setter of a field, its argument cast to the parameter type. -/
def HkField.set (s : Mirror) (v : U32) (m : Mem) : HkField → Mem
  | .ccd2TsA => s.smileFeeSetHkCcd2TsA (v.setWidth 16) m
  | .ccd4TsB => s.smileFeeSetHkCcd2TsB (v.setWidth 16) m
  | .prt1 => s.smileFeeSetHkPrt1 (v.setWidth 16) m
  | .prt2 => s.smileFeeSetHkPrt2 (v.setWidth 16) m
  | .prt3 => s.smileFeeSetHkPrt3 (v.setWidth 16) m
  | .prt4 => s.smileFeeSetHkPrt4 (v.setWidth 16) m
  | .prt5 => s.smileFeeSetHkPrt5 (v.setWidth 16) m
  | .ccd4VodMonE => s.smileFeeSetHkCcd4VodMonE (v.setWidth 16) m
  | .ccd4VogMon => s.smileFeeSetHkCcd4VogMon (v.setWidth 16) m
  | .ccd4VrdMonE => s.smileFeeSetHkCcd4VrdMonE (v.setWidth 16) m
  | .ccd2VodMon => s.smileFeeSetHkCcd2VodMon (v.setWidth 16) m
  | .ccd2VogMon => s.smileFeeSetHkCcd2VogMon (v.setWidth 16) m
  | .ccd2VrdMonE => s.smileFeeSetHkCcd2VrdMonE (v.setWidth 16) m
  | .ccd4VrdMonF => s.smileFeeSetHkCcd4VrdMonF (v.setWidth 16) m
  | .ccd4VddMon => s.smileFeeSetHkCcd4VddMon (v.setWidth 16) m
  | .ccd4VgdMon => s.smileFeeSetHkCcd4VgdMon (v.setWidth 16) m
  | .ccd2VrdMonF => s.smileFeeSetHkCcd2VrdMonF (v.setWidth 16) m
  | .ccd2VddMon => s.smileFeeSetHkCcd2VddMon (v.setWidth 16) m
  | .ccd2VgdMon => s.smileFeeSetHkCcd2VgdMon (v.setWidth 16) m
  | .vccd => s.smileFeeSetHkVccd (v.setWidth 16) m
  | .vrclkMon => s.smileFeeSetHkVrclkMon (v.setWidth 16) m
  | .viclk => s.smileFeeSetHkViclk (v.setWidth 16) m
  | .ccd4VodMonF => s.smileFeeSetHkCcd4VodMonF (v.setWidth 16) m
  | .hk5vbPosMon => s.smileFeeSetHk5vbPosMon (v.setWidth 16) m
  | .hk5vbNegMon => s.smileFeeSetHk5vbNegMon (v.setWidth 16) m
  | .hk3v3bMon => s.smileFeeSetHk3v3bMon (v.setWidth 16) m
  | .hk2v5aMon => s.smileFeeSetHk2v5aMon (v.setWidth 16) m
  | .hk3v3dMon => s.smileFeeSetHk3v3dMon (v.setWidth 16) m
  | .hk2v5dMon => s.smileFeeSetHk2v5dMon (v.setWidth 16) m
  | .hk1v2dMon => s.smileFeeSetHk1v2dMon (v.setWidth 16) m
  | .hk5vrefMon => s.smileFeeSetHk5vrefMon (v.setWidth 16) m
  | .vccdPosRaw => s.smileFeeSetHkVccdPosRaw (v.setWidth 16) m
  | .vclkPosRaw => s.smileFeeSetHkVclkPosRaw (v.setWidth 16) m
  | .van1PosRaw => s.smileFeeSetHkVan1PosRaw (v.setWidth 16) m
  | .van3NegMon => s.smileFeeSetHkVan3NegMonw (v.setWidth 16) m
  | .van2PosRaw => s.smileFeeSetHkVan2PosRaw (v.setWidth 16) m
  | .vdigRaw => s.smileFeeSetHkVdigRaw (v.setWidth 16) m
  | .igHiMon => s.smileFeeSetHkIgHiMon (v.setWidth 16) m
  | .ccd2VodMonF => s.smileFeeSetHkCcd2VodMonF (v.setWidth 16) m
  | .spwId => s.smileFeeSetSpwId (v.setWidth 8) m
  | .timecodeFromSpw => s.smileFeeSetHkTimecodeFromSpw (v.setWidth 8) m
  | .rmapTargetStatus => s.smileFeeSetHkRmapTargetStatus (v.setWidth 8) m
  | .rmapTargetIndicate => s.smileFeeSetHkRmapTargetIndicate v m
  | .spwLinkEscapeError => s.smileFeeSetHkSpwLinkEscapeError v m
  | .spwLinkCreditError => s.smileFeeSetHkSpwLinkCreditError v m
  | .spwLinkParityError => s.smileFeeSetHkSpwLinkParityError v m
  | .spwLinkDisconnect => s.smileFeeSetHkSpwLinkDisconnectError v m
  | .spwLinkRunning => s.smileFeeSetHkSpwLinkRunning v m
  | .frameCounter => s.smileFeeSetHkFrameCounter (v.setWidth 16) m
  | .fpgaOpMode => s.smileFeeSetHkFpgaOpMode (v.setWidth 8) m
  | .errorFlagSpwDacOnBiasReadback => s.smileFeeSetHkErrorFlagSpwDacOnBiasReadback v m
  | .errorFlagDacOffBiasReadbackError => s.smileFeeSetHkErrorFlagDacOffBiasReadbackError v m
  | .errorFlagExtSdramEdacCorrErrError => s.smileFeeSetHkErrorFlagExtSdramEdacCorrErrError v m
  | .errorFlagExtSdramEdacUncorrErrError => s.smileFeeSetHkErrorFlagExtSdramEdacUncorrErrError v m
  | .errorFlagSpwLinkDisconnectError => s.smileFeeSetHkErrorFlagSpwLinkDisconnectError v m
  | .errorFlagSpwLinkEscapeError => s.smileFeeSetHkErrorFlagSpwLinkEscapeError v m
  | .errorFlagSpwLinkCreditError => s.smileFeeSetHkErrorFlagSpwLinkCreditError v m
  | .errorFlagSpwLinkParityError => s.smileFeeSetHkErrorFlagSpwLinkParityError v m
  | .fpgaMinorVersion => s.smileFeeSetHkFpgaMinorVersion (v.setWidth 8) m
  | .fpgaMajorVersion => s.smileFeeSetHkFpgaMajorVersion (v.setWidth 8) m
  | .boardId => s.smileFeeSetHkBoardId (v.setWidth 16) m
  | .cmicCorr => s.smileFeeSetCmicCorr (v.setWidth 16) m
  | .ccd2FPixFullSun => s.smileFeeSetHkCcd2FPixFullSun (v.setWidth 16) m
  | .ccd2EPixFullSun => s.smileFeeSetHkCcd2EPixFullSun (v.setWidth 16) m
  | .ccd4FPixFullSun => s.smileFeeSetHkCcd4FPixFullSun (v.setWidth 16) m
  | .ccd4EPixFullSun => s.smileFeeSetHkCcd4EPixFullSun (v.setWidth 16) m

/-- The getter of a field. -/
def HkField.get (s : Mirror) (m : Mem) : HkField → U32
  | .ccd2TsA => u32 (s.smileFeeGetHkCcd2TsA m)
  | .ccd4TsB => u32 (s.smileFeeGetHkCcd4TsB m)
  | .prt1 => u32 (s.smileFeeGetHkPrt1 m)
  | .prt2 => u32 (s.smileFeeGetHkPrt2 m)
  | .prt3 => u32 (s.smileFeeGetHkPrt3 m)
  | .prt4 => u32 (s.smileFeeGetHkPrt4 m)
  | .prt5 => u32 (s.smileFeeGetHkPrt5 m)
  | .ccd4VodMonE => u32 (s.smileFeeGetHkCcd4VodMonE m)
  | .ccd4VogMon => u32 (s.smileFeeGetHkCcd4VogMon m)
  | .ccd4VrdMonE => u32 (s.smileFeeGetHkCcd4VrdMonE m)
  | .ccd2VodMon => u32 (s.smileFeeGetHkCcd2VodMon m)
  | .ccd2VogMon => u32 (s.smileFeeGetHkCcd2VogMon m)
  | .ccd2VrdMonE => u32 (s.smileFeeGetHkCcd2VrdMonE m)
  | .ccd4VrdMonF => u32 (s.smileFeeGetHkCcd4VrdMonF m)
  | .ccd4VddMon => u32 (s.smileFeeGetHkCcd4VddMon m)
  | .ccd4VgdMon => u32 (s.smileFeeGetHkCcd4VgdMon m)
  | .ccd2VrdMonF => u32 (s.smileFeeGetHkCcd2VrdMonF m)
  | .ccd2VddMon => u32 (s.smileFeeGetHkCcd2VddMon m)
  | .ccd2VgdMon => u32 (s.smileFeeGetHkCcd2VgdMon m)
  | .vccd => u32 (s.smileFeeGetHkVccd m)
  | .vrclkMon => u32 (s.smileFeeGetHkVrclkMon m)
  | .viclk => u32 (s.smileFeeGetHkViclk m)
  | .ccd4VodMonF => u32 (s.smileFeeGetHkCcd4VodMonF m)
  | .hk5vbPosMon => u32 (s.smileFeeGetHk5vbPosMon m)
  | .hk5vbNegMon => u32 (s.smileFeeGetHk5vbNegMon m)
  | .hk3v3bMon => u32 (s.smileFeeGetHk3v3bMon m)
  | .hk2v5aMon => u32 (s.smileFeeGetHk2v5aMon m)
  | .hk3v3dMon => u32 (s.smileFeeGetHk3v3dMon m)
  | .hk2v5dMon => u32 (s.smileFeeGetHk2v5dMon m)
  | .hk1v2dMon => u32 (s.smileFeeGetHk1v2dMon m)
  | .hk5vrefMon => u32 (s.smileFeeGetHk5vrefMon m)
  | .vccdPosRaw => u32 (s.smileFeeGetHkVccdPosRaw m)
  | .vclkPosRaw => u32 (s.smileFeeGetHkVclkPosRaw m)
  | .van1PosRaw => u32 (s.smileFeeGetHkVan1PosRaw m)
  | .van3NegMon => u32 (s.smileFeeGetHkVan3NegMon m)
  | .van2PosRaw => u32 (s.smileFeeGetHkVan2PosRaw m)
  | .vdigRaw => u32 (s.smileFeeGetHkVdigRaw m)
  | .igHiMon => u32 (s.smileFeeGetHkIgHiMon m)
  | .ccd2VodMonF => u32 (s.smileFeeGetHkCcd2VodMonF m)
  | .spwId => u32 (s.smileFeeGetSpwId m)
  | .timecodeFromSpw => u32 (s.smileFeeGetHkTimecodeFromSpw m)
  | .rmapTargetStatus => u32 (s.smileFeeGetHkRmapTargetStatus m)
  | .rmapTargetIndicate => s.smileFeeGetHkRmapTargetIndicate m
  | .spwLinkEscapeError => s.smileFeeGetHkSpwLinkEscapeError m
  | .spwLinkCreditError => s.smileFeeGetHkSpwLinkCreditError m
  | .spwLinkParityError => s.smileFeeGetHkSpwLinkParityError m
  | .spwLinkDisconnect => s.smileFeeGetHkSpwLinkDisconnect m
  | .spwLinkRunning => s.smileFeeGetHkSpwLinkRunning m
  | .frameCounter => s.smileFeeGetHkFrameCounter m
  | .fpgaOpMode => u32 (s.smileFeeGetHkFpgaOpMode m)
  | .errorFlagSpwDacOnBiasReadback => s.smileFeeGetHkErrorFlagSpwDacOnBiasReadback m
  | .errorFlagDacOffBiasReadbackError => s.smileFeeGetHkErrorFlagDacOffBiasReadbackError m
  | .errorFlagExtSdramEdacCorrErrError => s.smileFeeGetHkErrorFlagExtSdramEdacCorrErrError m
  | .errorFlagExtSdramEdacUncorrErrError => s.smileFeeGetHkErrorFlagExtSdramEdacUncorrErrError m
  | .errorFlagSpwLinkDisconnectError => s.smileFeeGetHkErrorFlagSpwLinkDisconnectError m
  | .errorFlagSpwLinkEscapeError => s.smileFeeGetHkErrorFlagSpwLinkEscapeError m
  | .errorFlagSpwLinkCreditError => s.smileFeeGetHkErrorFlagSpwLinkCreditError m
  | .errorFlagSpwLinkParityError => s.smileFeeGetHkErrorFlagSpwLinkParityError m
  | .fpgaMinorVersion => u32 (s.smileFeeGetHkFpgaMinorVersion m)
  | .fpgaMajorVersion => u32 (s.smileFeeGetHkFpgaMajorVersion m)
  | .boardId => u32 (s.smileFeeGetHkBoardId m)
  | .cmicCorr => u32 (s.smileFeeGetCmicCorr m)
  | .ccd2FPixFullSun => u32 (s.smileFeeGetHkCcd2FPixFullSun m)
  | .ccd2EPixFullSun => u32 (s.smileFeeGetHkCcd2EPixFullSun m)
  | .ccd4FPixFullSun => u32 (s.smileFeeGetHkCcd4FPixFullSun m)
  | .ccd4EPixFullSun => u32 (s.smileFeeGetHkCcd4EPixFullSun m)

/-- Where a field lies, and its width as the getter has it. -/
structure HkPlace where
  reg : Nat
  shift : Nat
  width : Nat

def HkField.place : HkField → HkPlace
  | .ccd2TsA => ⟨4, 16, 16⟩
  | .ccd4TsB => ⟨4, 0, 16⟩
  | .prt1 => ⟨5, 16, 16⟩
  | .prt2 => ⟨5, 0, 16⟩
  | .prt3 => ⟨6, 16, 16⟩
  | .prt4 => ⟨6, 0, 16⟩
  | .prt5 => ⟨7, 16, 16⟩
  | .ccd4VodMonE => ⟨8, 16, 16⟩
  | .ccd4VogMon => ⟨8, 0, 16⟩
  | .ccd4VrdMonE => ⟨9, 16, 16⟩
  | .ccd2VodMon => ⟨9, 0, 16⟩
  | .ccd2VogMon => ⟨10, 16, 16⟩
  | .ccd2VrdMonE => ⟨10, 0, 16⟩
  | .ccd4VrdMonF => ⟨11, 16, 16⟩
  | .ccd4VddMon => ⟨11, 0, 16⟩
  | .ccd4VgdMon => ⟨12, 16, 16⟩
  | .ccd2VrdMonF => ⟨12, 0, 16⟩
  | .ccd2VddMon => ⟨13, 16, 16⟩
  | .ccd2VgdMon => ⟨13, 0, 16⟩
  | .vccd => ⟨14, 16, 16⟩
  | .vrclkMon => ⟨14, 0, 16⟩
  | .viclk => ⟨15, 16, 16⟩
  | .ccd4VodMonF => ⟨15, 0, 16⟩
  | .hk5vbPosMon => ⟨16, 16, 16⟩
  | .hk5vbNegMon => ⟨16, 0, 16⟩
  | .hk3v3bMon => ⟨17, 16, 16⟩
  | .hk2v5aMon => ⟨17, 0, 16⟩
  | .hk3v3dMon => ⟨18, 16, 16⟩
  | .hk2v5dMon => ⟨18, 0, 16⟩
  | .hk1v2dMon => ⟨19, 16, 16⟩
  | .hk5vrefMon => ⟨19, 0, 16⟩
  | .vccdPosRaw => ⟨20, 16, 16⟩
  | .vclkPosRaw => ⟨20, 0, 16⟩
  | .van1PosRaw => ⟨21, 16, 16⟩
  | .van3NegMon => ⟨21, 0, 16⟩
  | .van2PosRaw => ⟨22, 16, 16⟩
  | .vdigRaw => ⟨22, 0, 16⟩
  | .igHiMon => ⟨23, 16, 16⟩
  | .ccd2VodMonF => ⟨23, 0, 16⟩
  | .spwId => ⟨32, 24, 2⟩
  | .timecodeFromSpw => ⟨32, 16, 8⟩
  | .rmapTargetStatus => ⟨32, 8, 8⟩
  | .rmapTargetIndicate => ⟨32, 5, 1⟩
  | .spwLinkEscapeError => ⟨32, 4, 1⟩
  | .spwLinkCreditError => ⟨32, 3, 1⟩
  | .spwLinkParityError => ⟨32, 2, 1⟩
  | .spwLinkDisconnect => ⟨32, 1, 1⟩
  | .spwLinkRunning => ⟨32, 0, 1⟩
  | .frameCounter => ⟨33, 16, 16⟩
  | .fpgaOpMode => ⟨33, 0, 7⟩
  | .errorFlagSpwDacOnBiasReadback => ⟨34, 0, 1⟩
  | .errorFlagDacOffBiasReadbackError => ⟨34, 1, 1⟩
  | .errorFlagExtSdramEdacCorrErrError => ⟨34, 5, 1⟩
  | .errorFlagExtSdramEdacUncorrErrError => ⟨34, 6, 1⟩
  | .errorFlagSpwLinkDisconnectError => ⟨34, 7, 1⟩
  | .errorFlagSpwLinkEscapeError => ⟨34, 8, 1⟩
  | .errorFlagSpwLinkCreditError => ⟨34, 9, 1⟩
  | .errorFlagSpwLinkParityError => ⟨34, 10, 1⟩
  | .fpgaMinorVersion => ⟨35, 0, 8⟩
  | .fpgaMajorVersion => ⟨35, 8, 4⟩
  | .boardId => ⟨35, 12, 5⟩
  | .cmicCorr => ⟨35, 17, 12⟩
  | .ccd2FPixFullSun => ⟨36, 16, 16⟩
  | .ccd2EPixFullSun => ⟨36, 0, 16⟩
  | .ccd4FPixFullSun => ⟨37, 16, 16⟩
  | .ccd4EPixFullSun => ⟨37, 0, 16⟩

namespace HkField

variable (f : HkField)

def reg : Nat := f.place.reg
def shift : Nat := f.place.shift
def width : Nat := f.place.width

/-- The ones of a field, at its right end. -/
def mask : U32 := BitVec.ofNat 32 (2 ^ f.width - 1)

/-- What the setter puts there. -/
def stored (v : U32) : U32 := if f = .fpgaOpMode then v &&& 0xF else v

def all : List HkField := [
  .ccd2TsA, .ccd4TsB, .prt1, .prt2, .prt3, .prt4, .prt5, .ccd4VodMonE, .ccd4VogMon, .ccd4VrdMonE, .ccd2VodMon,
  .ccd2VogMon, .ccd2VrdMonE, .ccd4VrdMonF, .ccd4VddMon, .ccd4VgdMon, .ccd2VrdMonF, .ccd2VddMon, .ccd2VgdMon,
  .vccd, .vrclkMon, .viclk, .ccd4VodMonF, .hk5vbPosMon, .hk5vbNegMon, .hk3v3bMon, .hk2v5aMon, .hk3v3dMon,
  .hk2v5dMon, .hk1v2dMon, .hk5vrefMon, .vccdPosRaw, .vclkPosRaw, .van1PosRaw, .van3NegMon, .van2PosRaw,
  .vdigRaw, .igHiMon, .ccd2VodMonF, .spwId, .timecodeFromSpw, .rmapTargetStatus, .rmapTargetIndicate,
  .spwLinkEscapeError, .spwLinkCreditError, .spwLinkParityError, .spwLinkDisconnect, .spwLinkRunning,
  .frameCounter, .fpgaOpMode, .errorFlagSpwDacOnBiasReadback, .errorFlagDacOffBiasReadbackError,
  .errorFlagExtSdramEdacCorrErrError, .errorFlagExtSdramEdacUncorrErrError, .errorFlagSpwLinkDisconnectError,
  .errorFlagSpwLinkEscapeError, .errorFlagSpwLinkCreditError, .errorFlagSpwLinkParityError, .fpgaMinorVersion,
  .fpgaMajorVersion, .boardId, .cmicCorr, .ccd2FPixFullSun, .ccd2EPixFullSun, .ccd4FPixFullSun,
  .ccd4EPixFullSun]

theorem mem_all : f ∈ all := by cases f <;> decide

/-- No bit belongs to two fields. -/
theorem bits_disjoint {f g : HkField} (hne : f ≠ g) (hreg : f.reg = g.reg) :
    f.mask <<< f.shift &&& g.mask <<< g.shift = 0 := by
  have h : ∀ f ∈ all, ∀ g ∈ all, f ≠ g → f.reg = g.reg → f.mask <<< f.shift &&& g.mask <<< g.shift = 0 := by
    decide +kernel
  exact h f f.mem_all g g.mem_all hne hreg

theorem mask_fits : f.mask <<< f.shift >>> f.shift = f.mask := by cases f <;> decide

/-! ### What the accessors do -/

section

variable (s : Mirror) (m : Mem)

theorem get_eq : f.get s m = getField f.mask f.shift (s.getReg (hkIdx f.reg) m) := by
  cases f
  case rmapTargetIndicate | spwLinkEscapeError | spwLinkCreditError | spwLinkParityError | spwLinkDisconnect |
      spwLinkRunning | frameCounter | errorFlagSpwDacOnBiasReadback | errorFlagDacOffBiasReadbackError |
      errorFlagExtSdramEdacCorrErrError | errorFlagExtSdramEdacUncorrErrError |
      errorFlagSpwLinkDisconnectError | errorFlagSpwLinkEscapeError | errorFlagSpwLinkCreditError |
      errorFlagSpwLinkParityError =>
    rfl
  all_goals exact u32_setWidth_and _ _ _ (by decide)

/-- Of the mode four bits are left, whatever the types on the way. -/
theorem opMode_and (v : U32) : u32 ((v.setWidth 8 : U8) &&& 0xF) = 0x7F &&& (v &&& 0xF) := by
  have hwidth : (v.setWidth 8 : U8) &&& 0xF = (v &&& 0xF).setWidth 8 := by
    rw [BitVec.setWidth_and]
    rfl
  have hmask : (0x7F : U32) &&& (v &&& 0xF) = v &&& 0xF := by
    rw [BitVec.and_comm, BitVec.and_assoc, show (0xF : U32) &&& 0x7F = 0xF by decide]
  rw [hwidth, u32_setWidth_and 8 0xF v (by decide), hmask]

theorem set_eq {v : U32} (hv : v.toNat < 2 ^ f.width) :
    f.set s v m = s.updReg (hkIdx f.reg) (setField f.mask f.shift (f.stored v)) m := by
  cases f
  case rmapTargetIndicate | spwLinkEscapeError | spwLinkCreditError | spwLinkParityError | spwLinkDisconnect |
      spwLinkRunning | errorFlagSpwDacOnBiasReadback | errorFlagDacOffBiasReadbackError |
      errorFlagExtSdramEdacCorrErrError | errorFlagExtSdramEdacUncorrErrError |
      errorFlagSpwLinkDisconnectError | errorFlagSpwLinkEscapeError | errorFlagSpwLinkCreditError |
      errorFlagSpwLinkParityError =>
    exact s.setFlag_eq _ _ v m hv
  case fpgaOpMode =>
    have hop : (fun x => (x &&& ~~~(0x7F : U32)) ||| u32 ((v.setWidth 8 : U8) &&& 0xF)) =
        setField 0x7F 0 (v &&& 0xF) := by
      funext x
      rw [opMode_and, setField, BitVec.shiftLeft_zero, BitVec.shiftLeft_zero]
    have hplace : HkField.fpgaOpMode.reg = 33 ∧ HkField.fpgaOpMode.mask = 0x7F ∧ HkField.fpgaOpMode.shift = 0 := by
      decide
    rw [set, Mirror.smileFeeSetHkFpgaOpMode, hop, stored, if_pos rfl, hplace.1, hplace.2.1, hplace.2.2]
  all_goals exact congrArg (fun g => s.updReg _ g m) (setField_u32_setWidth _ _ v _ (by decide))

theorem getField_stored {v : U32} (x : U32) (hv : v.toNat < 2 ^ f.width) :
    getField f.mask f.shift (setField f.mask f.shift (f.stored v) x) = f.stored v := by
  rw [getField_setField _ _ _ _ f.mask_fits]
  refine mask_and f.width f.mask _ rfl ?_
  rw [stored]
  split
  · exact lt_of_le_of_lt (by rw [BitVec.toNat_and]; exact Nat.and_le_left) hv
  · exact hv

/-- The value that is read back. -/
theorem get_set {v : U32} (hv : v.toNat < 2 ^ f.width) : f.get s (f.set s v m) = f.stored v := by
  rw [f.get_eq, f.set_eq s m hv, s.getReg_updReg, f.getField_stored _ hv]

/-- The other fields, of the same register or not. -/
theorem get_set_of_ne {g : HkField} (hne : g ≠ f) {v : U32} (hv : v.toNat < 2 ^ f.width) :
    g.get s (f.set s v m) = g.get s m := by
  rw [g.get_eq, g.get_eq, f.set_eq s m hv]
  by_cases hreg : g.reg = f.reg
  · rw [hreg, s.getReg_updReg, getField_setField_disjoint _ _ _ _ _ _ (bits_disjoint hne hreg)]
  · rw [s.getReg_updReg_of_ne m (by simpa [hkIdx] using hreg)]

/-- The configuration registers are elsewhere. -/
theorem getReg_set {n : Nat} (hn : n < 26) {v : U32} (hv : v.toNat < 2 ^ f.width) :
    s.getReg n (f.set s v m) = s.getReg n m := by
  rw [f.set_eq s m hv, s.getReg_updReg_of_ne m (by rw [hkIdx]; omega)]

theorem set_outside {v : U32} (hv : v.toNat < 2 ^ f.width) {x : Nat}
    (hx : x < s.hkReg f.reg ∨ s.hkReg f.reg + 4 ≤ x) : f.set s v m x = m x := by
  rw [← s.cfgReg_hkIdx] at hx
  rw [f.set_eq s m hv, s.updReg_outside _ _ m x hx]

theorem stored_eq_iff {v : U32} : f.stored v = v ↔ (f = .fpgaOpMode → v.toNat < 16) := by
  rw [stored]
  split
  · rename_i hf
    constructor
    · intro h _
      rw [← h, BitVec.toNat_and]
      exact Nat.lt_succ_of_le Nat.and_le_right
    · intro h
      rw [BitVec.and_comm]
      exact mask_and 4 0xF v rfl (h hf)
  · rename_i hf
    exact ⟨fun _ h => absurd h hf, fun _ => rfl⟩

end

/-- The field `f` has been set to `v`: it reads back, and nothing else has changed. The SRAM mirror is
among the bytes outside of the register. -/
structure IsSet (s : Mirror) (v : U32) (m m' : Mem) : Prop where
  value : f.get s m' = v
  hk : ∀ g, g ≠ f → g.get s m' = g.get s m
  cfg : ∀ n < 26, s.getReg n m' = s.getReg n m
  bytes : ∀ x, x < s.hkReg f.reg ∨ s.hkReg f.reg + 4 ≤ x → m' x = m x

end HkField

/-- **Housekeeping reads back**, from any contents on either host, except for a mode of the FPGA of more
than four bits. -/
theorem hk_readback_iff (s : Mirror) (f : HkField) (v : U32) (m : Mem) (hv : v.toNat < 2 ^ f.width) :
    f.IsSet s v m (f.set s v m) ↔ (f = .fpgaOpMode → v.toNat < 16) := by
  rw [← f.stored_eq_iff, ← f.get_set s m hv]
  refine ⟨fun h => h.value, fun h => ⟨h, fun g hne => ?_, fun n hn => ?_, fun x hx => ?_⟩⟩
  · exact f.get_set_of_ne s m hne hv
  · exact f.getReg_set s m hn hv
  · exact f.set_outside s m hv hx

/-- A board id of all ones. -/
theorem hk_readback_boardId :
    (0x1F : U32).toNat < 2 ^ HkField.boardId.width ∧
      (HkField.boardId.IsSet ⟨.little, 0, 0x1000⟩ 0x1F (fun _ => 0xFF)
        (HkField.boardId.set ⟨.little, 0, 0x1000⟩ 0x1F fun _ => 0xFF) ↔
        (HkField.boardId = .fpgaOpMode → (0x1F : U32).toNat < 16)) :=
  ⟨by decide, hk_readback_iff ⟨.little, 0, 0x1000⟩ .boardId 0x1F (fun _ => 0xFF) (by decide)⟩

/-- The mode 16 is read back as 0. -/
theorem hk_opMode_sixteen :
    (16 : U32).toNat < 2 ^ HkField.fpgaOpMode.width ∧
      HkField.fpgaOpMode.get ⟨.little, 0, 0x1000⟩
        (HkField.fpgaOpMode.set ⟨.little, 0, 0x1000⟩ 16 fun _ => 0) = 0 ∧
      ¬ HkField.fpgaOpMode.IsSet ⟨.little, 0, 0x1000⟩ 16 (fun _ => 0)
        (HkField.fpgaOpMode.set ⟨.little, 0, 0x1000⟩ 16 fun _ => 0) := by
  have hget : HkField.fpgaOpMode.get ⟨.little, 0, 0x1000⟩
      (HkField.fpgaOpMode.set ⟨.little, 0, 0x1000⟩ 16 fun _ => 0) = 0 := by decide
  refine ⟨by decide, hget, fun h => ?_⟩
  exact absurd (h.value.symm.trans hget) (by decide)

end SmileFee
