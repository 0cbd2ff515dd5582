import SmileFee.SimRmap

/-!
# The input modes of the simulator (`GRESB/gresb.c:35-220`, `SIM/smile_fee_sim.c:281-348`)

| here | there |
| --- | --- |
| `gresbCreateHostDataPkt` | `gresb_create_host_data_pkt` (`gresb.c:137`) |
| `gresbGetSpwDataSize`, `gresbGetSpwData` | `gresb_get_spw_data_size`, `gresb_get_spw_data` (`:214`, `:193`) |
| `recvLoop`, `simRx`      | `sim_rx` (`smile_fee_sim.c:281`) up to the call of `rmap_sim_rx` |

`simRx` gives the buffer that is handed to `rmap_sim_rx`, with the length it is told. In GRESB mode
this is the number of bytes received, which counts the four bytes of the GRESB header, while the
pointer is behind that header: **`simRx_modes_differ`**. The decoder is then free to read four bytes
behind the packet, so that a read command, which is refused in raw mode because the data it asks for is
not there, is served if it asks for at most four bytes: **`simRx_read_agrees_iff`**.
-/

namespace SmileFee

open Word

/-! ## GRESB packets -/

def GRESB_SPW_DATA_MAX_SIZE : Nat := 0x8000000
def GRESB_PKT_SIZE_MAX : Nat := GRESB_SPW_DATA_MAX_SIZE + 13

def GRESB_FROM_HOST_DATA : U8 := 0

/-- `gresb_create_host_data_pkt` (`:137`): protocol, size in 24 bits, data. -/
def gresbCreateHostDataPkt (data : List U8) : List U8 :=
  let size := BitVec.ofNat 32 data.length
  [GRESB_FROM_HOST_DATA, u8 (size >>> 16), u8 (size >>> 8), u8 size] ++ data

/-- `gresb_get_spw_data_size` (`:214`). -/
def gresbGetSpwDataSize (buf : List U8) : Nat := (join24 (buf.getD 1 0) (buf.getD 2 0) (buf.getD 3 0)).toNat

/-- `gresb_get_spw_data` (`:193`). -/
def gresbGetSpwData (buf : List U8) : List U8 := buf.drop 4

@[simp] theorem length_gresbCreateHostDataPkt (data : List U8) :
    (gresbCreateHostDataPkt data).length = data.length + 4 := by
  simp [gresbCreateHostDataPkt]

@[simp] theorem gresbGetSpwData_create (data : List U8) : gresbGetSpwData (gresbCreateHostDataPkt data) = data := by
  simp [gresbGetSpwData, gresbCreateHostDataPkt]

/-- The size of a packet is cut off after 24 bits. -/
theorem gresbGetSpwDataSize_create (data : List U8) :
    gresbGetSpwDataSize (gresbCreateHostDataPkt data) = data.length % 2 ^ 24 := by
  rw [gresbGetSpwDataSize]
  simp only [gresbCreateHostDataPkt, List.cons_append, List.getD_cons_succ, List.getD_cons_zero]
  rw [toNat_join24_split, BitVec.toNat_ofNat]
  omega

/-! ## Receiving -/

/-- `while (recv_left)` (`:312`): `chunks` are the numbers of bytes that the calls of `recv` find there.
`none` stands for a call that is still waiting. -/
def recvLoop : List Nat → Nat → List U8 → List U8 → Option (List U8)
  | _, 0, buf, _ => some buf
  | [], _ + 1, _, _ => none
  | c :: cs, left + 1, buf, stream =>
    let rb := (stream.take (min c (left + 1))).length
    recvLoop cs (left + 1 - rb) (buf ++ stream.take rb) (stream.drop rb)

/-- However many calls it takes, the bytes received are the first ones of the stream. -/
theorem recvLoop_eq {chunks : List Nat} {left : Nat} {buf stream r : List U8}
    (h : recvLoop chunks left buf stream = some r) : r = buf ++ stream.take left := by
  induction chunks generalizing left buf stream with
  | nil =>
    cases left with
    | zero => simpa [recvLoop] using h.symm
    | succ left => cases h
  | cons c cs ih =>
    cases left with
    | zero => simpa [recvLoop] using h.symm
    | succ left =>
      rw [recvLoop] at h
      have hr := ih h
      rw [hr, List.append_assoc, ← List.take_add]
      congr 2
      rw [List.length_take]
      omega

/-- A loop that has returned has received all it asked for. -/
theorem length_of_recvLoop {chunks : List Nat} {left : Nat} {buf stream r : List U8}
    (h : recvLoop chunks left buf stream = some r) : r.length = buf.length + left := by
  induction chunks generalizing left buf stream with
  | nil =>
    cases left with
    | zero => simp_all [recvLoop]
    | succ left => cases h
  | cons c cs ih =>
    cases left with
    | zero => simp_all [recvLoop]
    | succ left =>
      rw [recvLoop] at h
      have hr := ih h
      rw [hr, List.length_append, List.length_take, List.length_take]
      omega

/-- `sim_rx` (`:281`): what `rmap_sim_rx` is given, `none` if it is not called. In raw mode one `recv`
gets what is there. `heap` are the bytes that no `recv` has written, by their distance from the pointer
handed over. -/
def simRx (raw : Bool) (chunks : List Nat) (heap : Nat → U8) (stream : List U8) : Option Buf :=
  if raw then
    let recvBuffer := stream.take GRESB_PKT_SIZE_MAX
    let recvBytes := recvBuffer.length
    if recvBytes ≤ 0 then none else some ⟨recvBuffer, heap⟩
  else if (stream.take 4).length < 4 then none
  else
    let pktSize := gresbGetSpwDataSize (stream.take 4) + 4
    match recvLoop chunks pktSize [] stream with
    | none => none
    | some recvBuffer =>
      let recvBytes := recvBuffer.length
      if recvBytes ≤ 0 then none
      else
        let pkt := gresbGetSpwData recvBuffer
        -- as many bytes as `rmap_sim_rx` is told, from behind the header on
        some ⟨pkt ++ (List.range (recvBytes - pkt.length)).map fun i => heap (pkt.length + i), heap⟩

theorem simRx_raw {chunks : List Nat} {heap : Nat → U8} {pkt : List U8} {b : Buf}
    (hmax : pkt.length ≤ GRESB_PKT_SIZE_MAX) (h : simRx true chunks heap pkt = some b) : b = ⟨pkt, heap⟩ := by
  simp only [simRx, if_true] at h
  split at h
  · cases h
  · rw [List.take_of_length_le hmax] at h
    exact (Option.some.inj h).symm

/-- In GRESB mode the decoder is told of four bytes more than the packet has. -/
theorem simRx_gresb {chunks : List Nat} {heap : Nat → U8} {pkt : List U8} {b : Buf}
    (h : simRx false chunks heap (gresbCreateHostDataPkt pkt) = some b) :
    b = ⟨pkt.take (pkt.length % 2 ^ 24) ++ (List.range 4).map fun i => heap (pkt.length % 2 ^ 24 + i), heap⟩ := by
  have hsize : gresbGetSpwDataSize ((gresbCreateHostDataPkt pkt).take 4) = pkt.length % 2 ^ 24 := by
    rw [← gresbGetSpwDataSize_create pkt]
    rfl
  simp only [simRx, Bool.false_eq_true, if_false, hsize] at h
  split at h
  · cases h
  · split at h
    · cases h
    · rename_i recvBuffer hrecv
      have hlen := length_of_recvLoop hrecv
      rw [List.length_nil, Nat.zero_add] at hlen
      have hpkt : gresbGetSpwData recvBuffer = pkt.take (pkt.length % 2 ^ 24) := by
        rw [recvLoop_eq hrecv, List.nil_append, gresbGetSpwData, List.drop_take, Nat.add_sub_cancel]
        exact congrArg _ (gresbGetSpwData_create pkt)
      have hmod := Nat.mod_le pkt.length (2 ^ 24)
      have hpktlen : (gresbGetSpwData recvBuffer).length = pkt.length % 2 ^ 24 := by
        rw [hpkt, List.length_take, Nat.min_eq_left hmod]
      split at h
      · cases h
      · rw [hpktlen, hlen, Nat.add_sub_cancel_left, hpkt] at h
        exact (Option.some.inj h).symm

/-- One `recv` is enough for a packet in raw mode. -/
theorem simRx_raw_once {heap : Nat → U8} {pkt : List U8} (hne : pkt ≠ []) (hmax : pkt.length ≤ GRESB_PKT_SIZE_MAX) :
    simRx true [] heap pkt = some ⟨pkt, heap⟩ := by
  have hpos := List.length_pos_of_ne_nil hne
  simp only [simRx, if_true, List.take_of_length_le hmax]
  rw [if_neg (by omega)]

/-- … and in GRESB mode, if everything is there. -/
theorem simRx_gresb_once {heap : Nat → U8} {pkt : List U8} (hlt : pkt.length < 2 ^ 24) :
    simRx false [pkt.length + 4] heap (gresbCreateHostDataPkt pkt) =
      some ⟨pkt ++ (List.range 4).map fun i => heap (pkt.length + i), heap⟩ := by
  have hsize : gresbGetSpwDataSize ((gresbCreateHostDataPkt pkt).take 4) = pkt.length := by
    rw [← Nat.mod_eq_of_lt hlt, ← gresbGetSpwDataSize_create pkt]
    rfl
  have hrecv : recvLoop [pkt.length + 4] (pkt.length + 4) [] (gresbCreateHostDataPkt pkt) =
      some (gresbCreateHostDataPkt pkt) := by
    rw [recvLoop]
    simp [recvLoop]
  simp only [simRx, Bool.false_eq_true, if_false, hsize, hrecv]
  rw [if_neg (by simp), if_neg (by simp), gresbGetSpwData_create, length_gresbCreateHostDataPkt,
    Nat.add_sub_cancel_left]

/-! ## The two modes -/

/-- The packet of a command. -/
def cmdBytes (blob : Mem) (cfg : RmapCfg) (transId : U16) (cmd : U8) (addr size : U32) (data : Option (List U8)) :
    List U8 :=
  packaged (smileFeePackage blob (smileFeeGenCmd cfg transId cmd addr size) cfg.dpath.length data)

theorem length_buildHdr_cmdPkt_le (cfg : RmapCfg) (transId : U16) (cmd : U8) (addr size : U32) :
    (rmapBuildHdr (cmdPkt cfg transId cmd addr size)).length ≤ 42 := by
  have hdp := cfg.dpath_le
  have hrp := cfg.rpath_le
  simp only [RMAP_MAX_PATH_LEN, RMAP_MAX_REPLY_PATH_LEN] at hdp hrp
  rw [rmapBuildHdr, riCmdResp_cmdPkt, if_pos rfl]
  simp only [cmdPkt, dataLenBytes, List.length_append, List.length_cons, List.length_nil]
  omega

theorem length_cmdBytes_le (blob : Mem) (cfg : RmapCfg) (transId : U16) {cmd : U8} (addr size : U32)
    {data : Option (List U8)} (hc : rmapValidateCmdCode cmd = true)
    (hdata : (data.getD []).length ≤ RMAP_MAX_DATA_LEN) :
    (cmdBytes blob cfg transId cmd addr size data).length ≤ GRESB_PKT_SIZE_MAX := by
  have hfield (c : List U8) (n : Nat) : (dataCrcField c n data).length ≤ 1 := by
    unfold dataCrcField
    split
    · exact le_rfl
    · exact Nat.zero_le 1
  rw [cmdBytes, smileFeeGenCmd, smileFeeGenPkt_eq_cmdPkt cfg transId addr size hc,
    packaged_eq _ _ _ _ (rmapBuildHdr_ne_nil _)]
  simp only [RMAP_MAX_DATA_LEN] at hdata
  have h1 := hfield (rmapBuildHdr (cmdPkt cfg transId cmd addr (if size.toNat > RMAP_MAX_DATA_LEN then 0 else size)))
    cfg.dpath.length
  have h2 := length_buildHdr_cmdPkt_le cfg transId cmd addr (if size.toNat > RMAP_MAX_DATA_LEN then 0 else size)
  simp only [List.length_append, List.length_cons, GRESB_PKT_SIZE_MAX, GRESB_SPW_DATA_MAX_SIZE]
  omega

/-- The modes agree on a packet: the same bytes and length are handed on, and with it the memory and the
reply are the same, or the packet is refused both times. -/
structure ModesAgree (sim : Mirror) (blob mem : Mem) (raw gresb : Buf) : Prop where
  bytes : gresb.bytes = raw.bytes
  outcome : rmapSimRx sim blob mem gresb = rmapSimRx sim blob mem raw

/-- **The modes never agree**: in raw mode `rmap_sim_rx` is given the packet, in GRESB mode a length
that is four bytes more than the size in the GRESB header. -/
theorem simRx_modes_differ (cfg : RmapCfg) (transId : U16) {cmd : U8} (addr size : U32) {data : Option (List U8)}
    (hc : rmapValidateCmdCode cmd = true) (hdata : (data.getD []).length ≤ RMAP_MAX_DATA_LEN) (blob : Mem)
    {chunks chunks' : List Nat} {heap heap' : Nat → U8} {raw gresb : Buf}
    (hraw : simRx true chunks heap (cmdBytes blob cfg transId cmd addr size data) = some raw)
    (hgresb : simRx false chunks' heap' (gresbCreateHostDataPkt (cmdBytes blob cfg transId cmd addr size data)) =
      some gresb) :
    raw.bytes = cmdBytes blob cfg transId cmd addr size data ∧
    gresb.bytes.length = raw.bytes.length % 2 ^ 24 + 4 ∧
    ∀ (sim : Mirror) (blob' mem : Mem), ¬ ModesAgree sim blob' mem raw gresb := by
  have hle := length_cmdBytes_le blob cfg transId addr size hc hdata
  rw [simRx_raw hle hraw, simRx_gresb hgresb]
  generalize cmdBytes blob cfg transId cmd addr size data = pkt
  have hlen : (pkt.take (pkt.length % 2 ^ 24) ++ (List.range 4).map fun i => heap' (pkt.length % 2 ^ 24 + i)).length =
      pkt.length % 2 ^ 24 + 4 := by
    simp [Nat.mod_le]
  refine ⟨rfl, hlen, fun sim blob' mem hagree => ?_⟩
  have hbytes := congrArg List.length hagree.bytes
  rw [hlen] at hbytes
  simp only at hbytes
  omega

/-- The read of register 0. -/
def registerRead : List U8 := cmdBytes (fun _ => 0) {} 0 RMAP_READ_ADDR_INC 0x0 4 none

theorem length_registerRead : registerRead.length = 16 := by decide

/-- A register read is refused in raw mode, and answered in GRESB mode. -/
theorem simRx_modes_differ_read :
    ((simRx true [] (fun _ => 0) registerRead).bind fun b =>
      rmapSimRx ⟨.little, 0, 0x800⟩ (fun _ => 0) (fun _ => 0) b).isSome = false ∧
    ((simRx false [20] (fun _ => 0) (gresbCreateHostDataPkt registerRead)).bind fun b =>
      rmapSimRx ⟨.little, 0, 0x800⟩ (fun _ => 0) (fun _ => 0) b).isSome = true := by
  decide

theorem simRx_modes_differ_register :
    (registerRead ++ (List.range 4).map fun i => (fun _ => (0 : U8)) (registerRead.length + i)).length =
      registerRead.length % 2 ^ 24 + 4 ∧
    ∀ (sim : Mirror) (blob' mem : Mem), ¬ ModesAgree sim blob' mem ⟨registerRead, fun _ => 0⟩
      ⟨registerRead ++ (List.range 4).map fun i => (fun _ => (0 : U8)) (registerRead.length + i), fun _ => 0⟩ := by
  have hraw := @simRx_raw_once (fun _ => 0) registerRead (by decide) (by rw [length_registerRead]; decide)
  have hgresb := @simRx_gresb_once (fun _ => 0) registerRead (by rw [length_registerRead]; decide)
  exact (simRx_modes_differ {} 0 0x0 4 (by decide) (by decide) (fun _ => 0) hraw hgresb).2

/-! ### What comes of it -/

/-- The simulator looks at neither of the CRCs. -/
theorem rmapSimRx_of_crcs (p : RmapPkt) (data : List U8) {b b' : Buf} {x y x' y' : U8}
    (h : b.decode = some { p with data := data, dataCrc := x, hdrCrc := y })
    (h' : b'.decode = some { p with data := data, dataCrc := x', hdrCrc := y' }) (sim : Mirror) (blob mem : Mem) :
    rmapSimRx sim blob mem b = rmapSimRx sim blob mem b' := by
  have haddr : simLocalAddr sim { p with data := data, dataCrc := x, hdrCrc := y } =
    simLocalAddr sim { p with data := data, dataCrc := x', hdrCrc := y' } := rfl
  simp only [rmapSimRx, h, h', haddr]
  cases simLocalAddr sim { p with data := data, dataCrc := x', hdrCrc := y' } with
  | none => rfl
  | some a =>
    simp only [simServe]
    split
    · rfl
    · split
      · rfl
      · split <;> rfl

/-- What lies behind the data of a packet does not matter. -/
theorem rmapSimRx_onWire_congr {p : RmapPkt} (hp : p.HdrOk) (crc : U8) {data : List U8}
    (hlen : p.dataLen.toNat = data.length) (extra extra' : List U8) (z z' : Nat → U8) (sim : Mirror) (blob mem : Mem) :
    rmapSimRx sim blob mem ⟨p.onWire crc (data ++ extra), z⟩ =
      rmapSimRx sim blob mem ⟨p.onWire crc (data ++ extra'), z'⟩ := by
  by_cases hne : data = []
  · have h0 : p.dataLen = 0 := BitVec.eq_of_toNat_eq (by rw [hlen, hne]; rfl)
    exact rmapSimRx_of_crcs p [] (decode_onWire_nodata hp crc _ z h0) (decode_onWire_nodata hp crc _ z' h0) sim blob mem
  · exact rmapSimRx_of_crcs p data (decode_onWire_data hp crc z data extra hlen hne)
      (decode_onWire_data hp crc z' data extra' hlen hne) sim blob mem

theorem rmapSimRx_eq_none_iff {b : Buf} {rp : RmapPkt} (h : b.decode = some rp) (sim : Mirror) (blob mem : Mem) :
    rmapSimRx sim blob mem b = none ↔ simLocalAddr sim rp = none := by
  simp only [rmapSimRx, h]
  cases simLocalAddr sim rp <;> simp

section

variable {cfg : RmapCfg} (hd : cfg.dpath = []) (transId : U16) (addr : U32) {size : U32}
  (hs : size.toNat ≤ RMAP_MAX_DATA_LEN)
include hd hs

omit hd hs in
theorem onWire_append (p : RmapPkt) (crc : U8) (tail extra : List U8) :
    p.onWire crc tail ++ extra = p.onWire crc (tail ++ extra) := by
  simp [RmapPkt.onWire]

/-- The command on the wire. -/
theorem cmdBytes_eq {cmd : U8} (hc : rmapValidateCmdCode cmd = true) (blob : Mem) (data : Option (List U8)) :
    cmdBytes blob cfg transId cmd addr size data = (cmdPkt cfg transId cmd addr size).onWire
      (rmapCrc8 (rmapBuildHdr (cmdPkt cfg transId cmd addr size)))
      (data.getD [] ++ if hasDataCrc cmd then [data.elim 0 rmapCrc8] else []) := by
  have h0 : cfg.dpath.length = 0 := by rw [hd]; rfl
  rw [cmdBytes, h0, smileFeeGenCmd, smileFeeGenPkt_eq cfg transId addr hc hs, packaged_cmdPkt hd transId addr size hc]

/-- **Write commands are handled alike**, as long as the size fits into the GRESB header. -/
theorem simRx_write_agrees {data : List U8} (hlen : data.length = size.toNat) (blob : Mem)
    (hfits : (cmdBytes blob cfg transId RMAP_WRITE_ADDR_INC_REPLY addr size (some data)).length < 2 ^ 24)
    {chunks chunks' : List Nat} {heap heap' : Nat → U8} {raw gresb : Buf}
    (hraw : simRx true chunks heap (cmdBytes blob cfg transId RMAP_WRITE_ADDR_INC_REPLY addr size (some data)) =
      some raw)
    (hgresb : simRx false chunks' heap' (gresbCreateHostDataPkt
      (cmdBytes blob cfg transId RMAP_WRITE_ADDR_INC_REPLY addr size (some data))) = some gresb)
    (sim : Mirror) (blob' mem : Mem) : rmapSimRx sim blob' mem gresb = rmapSimRx sim blob' mem raw := by
  have hc : rmapValidateCmdCode RMAP_WRITE_ADDR_INC_REPLY = true := by decide
  have hp := cmdPkt_hdrOk hd transId RMAP_WRITE_ADDR_INC_REPLY addr hc hs
  have hle := @length_cmdBytes_le blob cfg transId _ addr size (some data) hc
    (by simpa only [Option.getD_some, hlen] using hs)
  rw [simRx_raw hle hraw, simRx_gresb hgresb, Nat.mod_eq_of_lt hfits, List.take_length,
    cmdBytes_eq hd transId addr hs hc blob (some data), Option.getD_some, onWire_append, List.append_assoc]
  exact rmapSimRx_onWire_congr hp _ hlen.symm _ _ _ _ sim blob' mem

/-- **Read commands** are handled alike unless they ask for one to four bytes that there are: then they
are refused in raw mode and served in GRESB mode. -/
theorem simRx_read_agrees_iff (blob : Mem) {chunks chunks' : List Nat} {heap heap' : Nat → U8} {raw gresb : Buf}
    (hraw : simRx true chunks heap (cmdBytes blob cfg transId RMAP_READ_ADDR_INC addr size none) = some raw)
    (hgresb : simRx false chunks' heap' (gresbCreateHostDataPkt
      (cmdBytes blob cfg transId RMAP_READ_ADDR_INC addr size none)) = some gresb)
    (sim : Mirror) (blob' mem : Mem) : rmapSimRx sim blob' mem gresb = rmapSimRx sim blob' mem raw ↔
      size = 0 ∨ 4 < size.toNat ∨ simLocalAddr sim (cmdPkt cfg transId RMAP_READ_ADDR_INC addr size) = none := by
  have hc : rmapValidateCmdCode RMAP_READ_ADDR_INC = true := by decide
  have hp := cmdPkt_hdrOk hd transId RMAP_READ_ADDR_INC addr hc hs
  have hle := @length_cmdBytes_le blob cfg transId _ addr size none hc (Nat.zero_le _)
  have hbytes : cmdBytes blob cfg transId RMAP_READ_ADDR_INC addr size none =
      (cmdPkt cfg transId RMAP_READ_ADDR_INC addr size).onWire
        (rmapCrc8 (rmapBuildHdr (cmdPkt cfg transId RMAP_READ_ADDR_INC addr size))) [] :=
    cmdBytes_eq hd transId addr hs hc blob none
  have hfits : (cmdBytes blob cfg transId RMAP_READ_ADDR_INC addr size none).length < 2 ^ 24 := by
    have hhdr := length_buildHdr_cmdPkt_le cfg transId RMAP_READ_ADDR_INC addr size
    rw [hbytes, length_onWire, List.length_nil]
    omega
  rw [simRx_raw hle hraw, simRx_gresb hgresb, Nat.mod_eq_of_lt hfits, List.take_length]
  have hextra : ((List.range 4).map fun i =>
      heap' ((cmdBytes blob cfg transId RMAP_READ_ADDR_INC addr size none).length + i)).length = 4 := by simp
  generalize ((List.range 4).map fun i =>
    heap' ((cmdBytes blob cfg transId RMAP_READ_ADDR_INC addr size none).length + i)) = extra at *
  rw [hbytes, onWire_append, List.nil_append]
  generalize rmapCrc8 (rmapBuildHdr (cmdPkt cfg transId RMAP_READ_ADDR_INC addr size)) = crc
  have hz : (cmdPkt cfg transId RMAP_READ_ADDR_INC addr size).dataLen = size := rfl
  by_cases h0 : size = 0
  · refine iff_of_true ?_ (Or.inl h0)
    exact @rmapSimRx_onWire_congr _ hp crc [] (by rw [hz, h0]; rfl) extra [] heap' heap sim blob' mem
  have hpos : 0 < size.toNat := by
    have : size.toNat ≠ 0 := fun h => h0 (BitVec.eq_of_toNat_eq h)
    omega
  -- in raw mode there is no byte of the data
  have hraw : rmapSimRx sim blob' mem ⟨(cmdPkt cfg transId RMAP_READ_ADDR_INC addr size).onWire crc [], heap⟩ = none := by
    rw [rmapSimRx, decode_onWire hp, hz, if_neg h0, if_pos (by simpa using hpos)]
  rw [hraw, or_iff_right h0]
  by_cases h4 : 4 < size.toNat
  · refine iff_of_true ?_ (Or.inl h4)
    rw [rmapSimRx, decode_onWire hp, hz, if_neg h0, hextra, if_pos h4]
  · rw [or_iff_right h4]
    have hdec := decode_onWire hp crc extra heap'
    rw [hz, if_neg h0, hextra, if_neg h4] at hdec
    exact rmapSimRx_eq_none_iff hdec sim blob' mem

end

end SmileFee
