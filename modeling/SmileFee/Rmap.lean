import SmileFee.Lib.Mem

/-!
# RMAP packets (`FEE/rmap.c`, `FEE/rmap.h`)

| here | there |
| --- | --- |
| `RmapPkt`            | `struct rmap_pkt` (`rmap.h:164`); the lengths `path_len`, `rpath_len` are those of the lists |
| `riCmd` …            | the bit fields of `struct rmap_instruction` (`rmap.h:138`); both byte orders lay them out alike in the byte |
| `rmapCrc8`           | `rmap_crc8` (`rmap.c:121`) |
| `rmapSet…`           | the setters (`rmap.c:242-431`), `none` for the error return, which leaves the packet as it was |
| `rmapBuildHdr`       | `rmap_build_hdr` (`rmap.c:443`) with a header buffer, `rmapBuildHdrSize` with `NULL` |
| `rmapPktFromBuffer`  | `rmap_pkt_from_buffer` (`rmap.c:509`) |

The decoder reads its buffer through `rd`, in any monad: with the identity it is the function
the C code computes, with a logging monad it also tells which indices are read. Nothing stops
it from reading past the end of the buffer, so a `Buf` also says what it finds there.
-/

namespace SmileFee

open Word

/-! ## Constants -/

def RMAP_CMD_BIT_WRITE : U8 := 0x8

def RMAP_READ_ADDR_SINGLE : U8 := 0x2
def RMAP_READ_ADDR_INC : U8 := 0x3
def RMAP_READ_MODIFY_WRITE_ADDR_INC : U8 := 0x7
def RMAP_WRITE_ADDR_SINGLE : U8 := 0x8
def RMAP_WRITE_ADDR_INC : U8 := 0x9
def RMAP_WRITE_ADDR_SINGLE_REPLY : U8 := 0xa
def RMAP_WRITE_ADDR_INC_REPLY : U8 := 0xb
def RMAP_WRITE_ADDR_SINGLE_VERIFY : U8 := 0xc
def RMAP_WRITE_ADDR_INC_VERIFY : U8 := 0xd
def RMAP_WRITE_ADDR_SINGLE_VERIFY_REPLY : U8 := 0xe
def RMAP_WRITE_ADDR_INC_VERIFY_REPLY : U8 := 0xf

def RMAP_HDR_MIN_SIZE_WRITE_CMD : Nat := 15
def RMAP_HDR_MIN_SIZE_WRITE_REP : Nat := 7
def RMAP_HDR_MIN_SIZE_READ_CMD : Nat := RMAP_HDR_MIN_SIZE_WRITE_CMD
def RMAP_HDR_MIN_SIZE_READ_REP : Nat := 11

def RMAP_DEST_ADDRESS : Nat := 0x00
def RMAP_PROTOCOL_ID : Nat := 0x01
def RMAP_INSTRUCTION : Nat := 0x02
def RMAP_CMD_DESTKEY : Nat := 0x03
def RMAP_REPLY_ADDR_START : Nat := 0x04

/-! Offsets behind the reply path. -/

def RMAP_SRC_ADDR : Nat := 0x04
def RMAP_TRANS_ID_BYTE0 : Nat := 0x05
def RMAP_TRANS_ID_BYTE1 : Nat := 0x06
def RMAP_ADDR_BYTE0 : Nat := 0x08
def RMAP_ADDR_BYTE1 : Nat := 0x09
def RMAP_ADDR_BYTE2 : Nat := 0x0a
def RMAP_ADDR_BYTE3 : Nat := 0x0b

/-! Offsets to which 4 is added when an address is present. -/

def RMAP_DATALEN_BYTE0 : Nat := 0x08
def RMAP_DATALEN_BYTE1 : Nat := 0x09
def RMAP_DATALEN_BYTE2 : Nat := 0x0a
def RMAP_HEADER_CRC : Nat := 0x0b
def RMAP_DATA_START : Nat := 0x0c

def RMAP_MAX_PATH_LEN : Nat := 15
def RMAP_MAX_REPLY_PATH_LEN : Nat := 12
def RMAP_MAX_DATA_LEN : Nat := 0xFFFFFF

/-! ## The instruction byte -/

/-- `ri.cmd`. -/
def riCmd (b : U8) : U8 := (b >>> 2) &&& 0xF

/-- `ri.cmd_resp`. -/
def riCmdResp (b : U8) : Bool := b.getLsbD 6

/-- `ri.cmd & RMAP_CMD_BIT_WRITE`. -/
def riCmdWrite (b : U8) : Bool := riCmd b &&& RMAP_CMD_BIT_WRITE != 0

/-- `ri.reply_addr_len`. -/
def riReplyAddrLen (b : U8) : Nat := (b &&& 3).toNat

/-- `ri.cmd = c`. -/
def setRiCmd (b c : U8) : U8 := (b &&& 0xC3) ||| ((c &&& 0xF) <<< 2)

/-- `ri.cmd_resp = r`. -/
def setRiCmdResp (b : U8) (r : Bool) : U8 := (b &&& 0xBF) ||| (if r then 0x40 else 0)

/-- `ri.reply_addr_len = n`. -/
def setRiReplyAddrLen (b n : U8) : U8 := (b &&& 0xFC) ||| (n &&& 3)

@[simp] theorem riCmd_setRiCmd (b c : U8) : riCmd (setRiCmd b c) = c &&& 0xF := by
  apply BitVec.eq_of_getLsbD_eq
  intro i hi
  simp only [riCmd, setRiCmd]
  interval_cases i <;> simp

@[simp] theorem riCmd_setRiCmdResp (b : U8) (r : Bool) : riCmd (setRiCmdResp b r) = riCmd b := by
  apply BitVec.eq_of_getLsbD_eq
  intro i hi
  simp only [riCmd, setRiCmdResp]
  cases r <;> interval_cases i <;> simp

@[simp] theorem riCmdWrite_setRiCmdResp (b : U8) (r : Bool) : riCmdWrite (setRiCmdResp b r) = riCmdWrite b := by
  rw [riCmdWrite, riCmd_setRiCmdResp, riCmdWrite]

@[simp] theorem riCmdResp_setRiCmdResp (b : U8) (r : Bool) : riCmdResp (setRiCmdResp b r) = r := by
  cases r <;> simp [riCmdResp, setRiCmdResp]

@[simp] theorem riReplyAddrLen_setRiCmdResp (b : U8) (r : Bool) :
    riReplyAddrLen (setRiCmdResp b r) = riReplyAddrLen b := by
  unfold riReplyAddrLen
  congr 1
  apply BitVec.eq_of_getLsbD_eq
  intro i hi
  simp only [setRiCmdResp]
  cases r <;> interval_cases i <;> simp

@[simp] theorem riReplyAddrLen_setRiCmd (b c : U8) : riReplyAddrLen (setRiCmd b c) = riReplyAddrLen b := by
  unfold riReplyAddrLen
  congr 1
  apply BitVec.eq_of_getLsbD_eq
  intro i hi
  simp only [setRiCmd]
  interval_cases i <;> simp

@[simp] theorem riReplyAddrLen_setRiReplyAddrLen (b n : U8) :
    riReplyAddrLen (setRiReplyAddrLen b n) = (n &&& 3).toNat := by
  unfold riReplyAddrLen
  congr 1
  apply BitVec.eq_of_getLsbD_eq
  intro i hi
  simp only [setRiReplyAddrLen]
  interval_cases i <;> simp

/-! ## CRC -/

/-- The look-up table of `rmap_crc8` (`rmap.c:128-161`). -/
def crc8Lt : List U8 := [
  0x00, 0x91, 0xe3, 0x72, 0x07, 0x96, 0xe4, 0x75, 0x0e, 0x9f, 0xed, 0x7c, 0x09, 0x98, 0xea, 0x7b,
  0x1c, 0x8d, 0xff, 0x6e, 0x1b, 0x8a, 0xf8, 0x69, 0x12, 0x83, 0xf1, 0x60, 0x15, 0x84, 0xf6, 0x67,
  0x38, 0xa9, 0xdb, 0x4a, 0x3f, 0xae, 0xdc, 0x4d, 0x36, 0xa7, 0xd5, 0x44, 0x31, 0xa0, 0xd2, 0x43,
  0x24, 0xb5, 0xc7, 0x56, 0x23, 0xb2, 0xc0, 0x51, 0x2a, 0xbb, 0xc9, 0x58, 0x2d, 0xbc, 0xce, 0x5f,
  0x70, 0xe1, 0x93, 0x02, 0x77, 0xe6, 0x94, 0x05, 0x7e, 0xef, 0x9d, 0x0c, 0x79, 0xe8, 0x9a, 0x0b,
  0x6c, 0xfd, 0x8f, 0x1e, 0x6b, 0xfa, 0x88, 0x19, 0x62, 0xf3, 0x81, 0x10, 0x65, 0xf4, 0x86, 0x17,
  0x48, 0xd9, 0xab, 0x3a, 0x4f, 0xde, 0xac, 0x3d, 0x46, 0xd7, 0xa5, 0x34, 0x41, 0xd0, 0xa2, 0x33,
  0x54, 0xc5, 0xb7, 0x26, 0x53, 0xc2, 0xb0, 0x21, 0x5a, 0xcb, 0xb9, 0x28, 0x5d, 0xcc, 0xbe, 0x2f,
  0xe0, 0x71, 0x03, 0x92, 0xe7, 0x76, 0x04, 0x95, 0xee, 0x7f, 0x0d, 0x9c, 0xe9, 0x78, 0x0a, 0x9b,
  0xfc, 0x6d, 0x1f, 0x8e, 0xfb, 0x6a, 0x18, 0x89, 0xf2, 0x63, 0x11, 0x80, 0xf5, 0x64, 0x16, 0x87,
  0xd8, 0x49, 0x3b, 0xaa, 0xdf, 0x4e, 0x3c, 0xad, 0xd6, 0x47, 0x35, 0xa4, 0xd1, 0x40, 0x32, 0xa3,
  0xc4, 0x55, 0x27, 0xb6, 0xc3, 0x52, 0x20, 0xb1, 0xca, 0x5b, 0x29, 0xb8, 0xcd, 0x5c, 0x2e, 0xbf,
  0x90, 0x01, 0x73, 0xe2, 0x97, 0x06, 0x74, 0xe5, 0x9e, 0x0f, 0x7d, 0xec, 0x99, 0x08, 0x7a, 0xeb,
  0x8c, 0x1d, 0x6f, 0xfe, 0x8b, 0x1a, 0x68, 0xf9, 0x82, 0x13, 0x61, 0xf0, 0x85, 0x14, 0x66, 0xf7,
  0xa8, 0x39, 0x4b, 0xda, 0xaf, 0x3e, 0x4c, 0xdd, 0xa6, 0x37, 0x45, 0xd4, 0xa1, 0x30, 0x42, 0xd3,
  0xb4, 0x25, 0x57, 0xc6, 0xb3, 0x22, 0x50, 0xc1, 0xba, 0x2b, 0x59, 0xc8, 0xbd, 0x2c, 0x5e, 0xcf]

/-- `rmap_crc8` (`rmap.c:121`). -/
def rmapCrc8 (buf : List U8) : U8 :=
  buf.foldl (fun crc8 b => crc8Lt.getD (crc8 ^^^ b).toNat 0) 0

/-! ## The packet and its setters -/

/-- `struct rmap_pkt`. The union members `ri`/`instruction` and `key`/`status` are one byte each. -/
structure RmapPkt where
  path : List U8 := []
  dst : U8 := 0
  protoId : U8 := 0
  instruction : U8 := 0
  key : U8 := 0
  src : U8 := 0
  rpath : List U8 := []
  trId : U16 := 0
  addr : U32 := 0
  data : List U8 := []
  dataLen : U32 := 0
  hdrCrc : U8 := 0
  dataCrc : U8 := 0
deriving DecidableEq, Repr

/-- `rmap_validate_cmd_code` (`rmap.c:49`): `true` for the return value 0. -/
def rmapValidateCmdCode (cmd : U8) : Bool :=
  cmd ∈ [RMAP_READ_ADDR_SINGLE, RMAP_READ_ADDR_INC, RMAP_READ_MODIFY_WRITE_ADDR_INC,
    RMAP_WRITE_ADDR_SINGLE, RMAP_WRITE_ADDR_INC, RMAP_WRITE_ADDR_SINGLE_REPLY,
    RMAP_WRITE_ADDR_INC_REPLY, RMAP_WRITE_ADDR_SINGLE_VERIFY, RMAP_WRITE_ADDR_INC_VERIFY,
    RMAP_WRITE_ADDR_SINGLE_VERIFY_REPLY, RMAP_WRITE_ADDR_INC_VERIFY_REPLY]

/-- `rmap_get_min_hdr_size` (`rmap.c:79`), from the instruction byte. -/
def rmapGetMinHdrSize (instruction : U8) : Int :=
  if riCmd instruction ∈ [RMAP_READ_ADDR_SINGLE, RMAP_READ_ADDR_INC, RMAP_READ_MODIFY_WRITE_ADDR_INC] then
    if riCmdResp instruction then RMAP_HDR_MIN_SIZE_READ_CMD else RMAP_HDR_MIN_SIZE_READ_REP
  else if riCmd instruction ∈ [RMAP_WRITE_ADDR_SINGLE, RMAP_WRITE_ADDR_INC, RMAP_WRITE_ADDR_SINGLE_REPLY,
      RMAP_WRITE_ADDR_INC_REPLY, RMAP_WRITE_ADDR_SINGLE_VERIFY, RMAP_WRITE_ADDR_INC_VERIFY,
      RMAP_WRITE_ADDR_SINGLE_VERIFY_REPLY, RMAP_WRITE_ADDR_INC_VERIFY_REPLY] then
    if riCmdResp instruction then RMAP_HDR_MIN_SIZE_WRITE_CMD else RMAP_HDR_MIN_SIZE_WRITE_REP
  else -1

/-- `rmap_create_packet` (`rmap.c:184`): everything 0 but the protocol id. -/
def rmapCreatePacket : RmapPkt := { protoId := BitVec.ofNat 8 RMAP_PROTOCOL_ID }

def rmapSetDst (pkt : RmapPkt) (addr : U8) : RmapPkt := { pkt with dst := addr }
def rmapSetSrc (pkt : RmapPkt) (addr : U8) : RmapPkt := { pkt with src := addr }
def rmapSetKey (pkt : RmapPkt) (key : U8) : RmapPkt := { pkt with key := key }
def rmapSetTrId (pkt : RmapPkt) (id : U16) : RmapPkt := { pkt with trId := id }
def rmapSetDataAddr (pkt : RmapPkt) (addr : U32) : RmapPkt := { pkt with addr := addr }

/-- `rmap_set_reply_path` (`rmap.c:284`). -/
def rmapSetReplyPath (pkt : RmapPkt) (rpath : List U8) : Option RmapPkt :=
  if rpath.length > RMAP_MAX_REPLY_PATH_LEN then none
  else if rpath.length % 4 ≠ 0 then none
  else some { pkt with
    rpath := rpath
    instruction := setRiReplyAddrLen pkt.instruction (BitVec.ofNat 8 (rpath.length / 4)) }

/-- `rmap_set_dest_path` (`rmap.c:327`). -/
def rmapSetDestPath (pkt : RmapPkt) (path : List U8) : Option RmapPkt :=
  if path.length > RMAP_MAX_PATH_LEN then none else some { pkt with path := path }

/-- `rmap_set_cmd` (`rmap.c:359`). -/
def rmapSetCmd (pkt : RmapPkt) (cmd : U8) : Option RmapPkt :=
  if rmapValidateCmdCode cmd then
    some { pkt with instruction := setRiCmdResp (setRiCmd pkt.instruction (cmd &&& 0xF)) true }
  else none

/-- `rmap_set_data_len` (`rmap.c:420`). -/
def rmapSetDataLen (pkt : RmapPkt) (len : U32) : Option RmapPkt :=
  if len.toNat > RMAP_MAX_DATA_LEN then none else some { pkt with dataLen := len }

/-! ## Encoder -/

/-- The three bytes of the data length field, most significant first. -/
def dataLenBytes (len : U32) : List U8 := [u8 (len >>> 16), u8 (len >>> 8), u8 len]

/-- `rmap_build_hdr` (`rmap.c:443`): the bytes written to `hdr`, in the order of `n++`. -/
def rmapBuildHdr (pkt : RmapPkt) : List U8 :=
  pkt.path ++ [pkt.dst, pkt.protoId, pkt.instruction, pkt.key] ++ pkt.rpath ++
    [pkt.src, u8 (pkt.trId >>> 8), u8 pkt.trId] ++
    (if riCmdResp pkt.instruction then
      [0x0, u8 (pkt.addr >>> 24), u8 (pkt.addr >>> 16), u8 (pkt.addr >>> 8), u8 pkt.addr] ++
        dataLenBytes pkt.dataLen
    else if riCmdWrite pkt.instruction then []  -- a write reply ends here
    else [0x0] ++ dataLenBytes pkt.dataLen)

/-- `rmap_build_hdr` with `hdr == NULL`. -/
def rmapBuildHdrSize (pkt : RmapPkt) : Int :=
  rmapGetMinHdrSize pkt.instruction + pkt.path.length + pkt.rpath.length

/-! ## Decoder -/

/-- A received buffer, and the bytes that follow it in memory. -/
structure Buf where
  bytes : List U8
  beyond : Nat → U8 := fun _ => 0

/-- `buf[i]`. -/
def Buf.get (b : Buf) (i : Nat) : U8 := b.bytes.getD i (b.beyond i)

/-- `for (i = 0; i < n; i++) dst[i] = buf[start + i]`. -/
def readBytes {m : Type → Type} [Monad m] (rd : Nat → m U8) : Nat → Nat → m (List U8)
  | _, 0 => pure []
  | start, n + 1 => do
    let b ← rd start
    let bs ← readBytes rd (start + 1) n
    pure (b :: bs)

/-- The address field of a command (`rmap.c:574-580`). -/
def readAddr {m : Type → Type} [Monad m] (rd : Nat → m U8) (isCmd : Bool) (n : Nat) : m U32 :=
  if isCmd then do
    let a0 ← rd (RMAP_ADDR_BYTE0 + n)
    let a1 ← rd (RMAP_ADDR_BYTE1 + n)
    let a2 ← rd (RMAP_ADDR_BYTE2 + n)
    let a3 ← rd (RMAP_ADDR_BYTE3 + n)
    pure (join32 a0 a1 a2 a3)
  else pure 0

/-- The data length field, absent from write replies (`rmap.c:583-587`). -/
def readDataLen {m : Type → Type} [Monad m] (rd : Nat → m U8) (instruction : U8) (n : Nat) : m U32 :=
  if ¬ (riCmdResp instruction = false ∧ riCmdWrite instruction = true) then do
    let l0 ← rd (RMAP_DATALEN_BYTE0 + n)
    let l1 ← rd (RMAP_DATALEN_BYTE1 + n)
    let l2 ← rd (RMAP_DATALEN_BYTE2 + n)
    pure (join24 l0 l1 l2)
  else pure 0

/-- `rmap_pkt_from_buffer` (`rmap.c:509`), on a non-NULL buffer of `len` bytes read through `rd`. -/
def rmapPktFromBuffer {m : Type → Type} [Monad m] (rd : Nat → m U8) (len : Nat) : m (Option RmapPkt) := do
  if len < RMAP_HDR_MIN_SIZE_WRITE_REP then pure none else
  let id ← rd RMAP_PROTOCOL_ID
  if id ≠ BitVec.ofNat 8 RMAP_PROTOCOL_ID then pure none else
  let dst ← rd RMAP_DEST_ADDRESS
  let protoId ← rd RMAP_PROTOCOL_ID
  let instruction ← rd RMAP_INSTRUCTION
  let key ← rd RMAP_CMD_DESTKEY
  let minHdrSize := rmapGetMinHdrSize instruction
  if minHdrSize < 0 then pure none else
  if len < minHdrSize.toNat then pure none else
  -- only a command has a reply path, which shifts all that follows
  let isCmd := riCmdResp instruction
  let n := if isCmd then riReplyAddrLen instruction * 4 else 0
  if isCmd ∧ len < minHdrSize.toNat + n then pure none else
  let rpath ← readBytes rd RMAP_REPLY_ADDR_START n
  let src ← rd (RMAP_SRC_ADDR + n)
  let t0 ← rd (RMAP_TRANS_ID_BYTE0 + n)
  let t1 ← rd (RMAP_TRANS_ID_BYTE1 + n)
  let addr ← readAddr rd isCmd n
  let n := if isCmd then n + 4 else n
  let dataLen ← readDataLen rd instruction n
  -- the running skip `n` is not applied to the position of the header CRC
  let hdrCrc ← rd RMAP_HEADER_CRC
  let pkt : RmapPkt := {
    dst := dst, protoId := protoId, instruction := instruction, key := key, rpath := rpath
    src := src, trId := join16 t0 t1, addr := addr, dataLen := dataLen, hdrCrc := hdrCrc }
  if dataLen = 0 then pure (some pkt) else
  if len < RMAP_DATA_START + n + dataLen.toNat then pure none else
  let data ← readBytes rd (RMAP_DATA_START + n) dataLen.toNat
  let dataCrc ← rd (RMAP_DATA_START + n + dataLen.toNat)
  pure (some { pkt with data := data, dataCrc := dataCrc })

/-- The packet `rmap_pkt_from_buffer` returns for a buffer at its exact length. -/
def Buf.decode (b : Buf) : Option RmapPkt := @rmapPktFromBuffer Id _ b.get b.bytes.length

end SmileFee
