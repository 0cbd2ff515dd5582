import SmileFee.Packaging
import SmileFee.SimRmap

/-!
# The reply of the simulator and the buffer it is packaged in (`SIM/smile_fee_sim.c:620-658`)

`rmap_sim_rx` asks `fee_sim_package` for the size of the buffer and lets `smile_fee_package` fill it. The
one is the other seen from the far end of the link: a data CRC goes with a read there, with a write
here, and it is the code of the command, kept in the reply, by which both decide. They agree only on a
code that neither has in its list (**`replySized_iff`**).
-/

namespace SmileFee

/-- The command codes after which `fee_sim_package` counts a data CRC. -/
def feeSimHasDataCrc (cmd : U8) : Bool := [RMAP_READ_ADDR_SINGLE, RMAP_READ_ADDR_INC].contains cmd

/-- `fee_sim_package` (`:425`) with `blob == NULL`. -/
def feeSimPackageSize (cmd : List U8) (nonCrcBytes : Nat) (data : Option (List U8)) : Nat :=
  if cmd.length = 0 then 0 else
  let n := cmd.length + 1
  let n := if feeSimHasDataCrc (packageCmd cmd nonCrcBytes) then n + 1 else n
  match data with
  | some d => n + d.length
  | none => n

/-- The header and the payload of the reply to a packet (`:547-632`). -/
def simReply (sim : Mirror) (mem : Mem) (pkt : Buf) : Option (List U8 × Option (List U8)) :=
  match pkt.decode with
  | none => none
  | some rp =>
    match simLocalAddr sim rp with
    | none => none
    | some a =>
      let rp := { rp with instruction := setRiCmdResp rp.instruction false, src := rp.dst, dst := rp.src }
      let (_, data, rp) := simServe mem a rp
      some (rmapBuildHdr rp, data)

/-- What `rmap_sim_rx` sends is the packaged reply. -/
theorem rmapSimRx_reply (sim : Mirror) (blob mem : Mem) (pkt : Buf) :
    (rmapSimRx sim blob mem pkt).map Prod.snd =
      (simReply sim mem pkt).map fun r => packaged (smileFeePackage blob r.1 0 r.2) := by
  simp only [rmapSimRx, simReply]
  cases pkt.decode with
  | none => rfl
  | some rp =>
    cases h : simLocalAddr sim rp with
    | none => simp [h]
    | some a => simp [h]

theorem feeSimPackageSize_eq {cmd : List U8} (hc : cmd ≠ []) (nonCrcBytes : Nat) (data : Option (List U8)) :
    feeSimPackageSize cmd nonCrcBytes data = cmd.length + 1 + (data.getD []).length +
      if feeSimHasDataCrc (packageCmd cmd nonCrcBytes) then 1 else 0 := by
  have hl : ¬ cmd.length = 0 := by simpa using hc
  simp only [feeSimPackageSize, if_neg hl]
  by_cases h : feeSimHasDataCrc (packageCmd cmd nonCrcBytes) = true
  · cases data <;> simp [h]; omega
  · cases data <;> simp [h]

/-- What the header of an answered packet says, and when the reply has data. -/
theorem simReply_spec {sim : Mirror} {mem : Mem} {pkt : Buf} {hdr : List U8} {data : Option (List U8)}
    (h : simReply sim mem pkt = some (hdr, data)) :
    hdr ≠ [] ∧ packageCmd hdr 0 = riCmd pkt.instr ∧ rmapValidateCmdCode (riCmd pkt.instr) = true ∧
      (data ≠ none ↔ riCmd pkt.instr = RMAP_READ_ADDR_INC) := by
  rw [simReply] at h
  cases hdec : pkt.decode with
  | none => simp [hdec] at h
  | some rp =>
    obtain ⟨hacc, rfl⟩ := (pkt.decode_eq_some rp).1 hdec
    have hvalid := (minHdrSize_nonneg_iff pkt.instr).1 hacc.hdr_valid
    have hpath : pkt.packet.path = [] := by unfold Buf.packet; split <;> rfl
    cases haddr : simLocalAddr sim pkt.packet with
    | none => simp [hdec, haddr] at h
    | some a =>
      have hcode (p : RmapPkt) (hp : p.path = []) : packageCmd (rmapBuildHdr p) 0 = riCmd p.instruction := by
        have := packageCmd_buildHdr p
        rwa [hp] at this
      simp only [hdec, haddr, simServe, Option.some.injEq, Prod.mk.injEq, riCmd_setRiCmdResp,
        Buf.packet_instruction] at h
      obtain ⟨rfl, rfl⟩ := h
      refine ⟨rmapBuildHdr_ne_nil _, ?_, hvalid, ?_⟩
      · rw [hcode _ (by split_ifs <;> exact hpath)]
        split_ifs <;> simp
      · split_ifs with h1 h2 h3 <;> simp [h1]

/-- What the sender of a reply relies on: the buffer has the size that is returned for it, nothing is
written behind it, and the packet is complete. -/
structure ReplySized (hdr : List U8) (data : Option (List U8)) : Prop where
  size : ∀ blob, (smileFeePackage blob hdr 0 data).1 = feeSimPackageSize hdr 0 data
  inside : ∀ blob i, feeSimPackageSize hdr 0 data ≤ i → (smileFeePackage blob hdr 0 data).2 i = blob i
  bytes : ∀ blob, packaged (smileFeePackage blob hdr 0 data) =
    hdr ++ rmapCrc8 hdr :: data.elim [] fun d => d ++ [rmapCrc8 d]

section

variable {hdr : List U8} (hne : hdr ≠ [])
include hne

/-- Without data neither function may count a CRC. -/
theorem replySized_none_iff :
    ReplySized hdr none ↔ hasDataCrc (packageCmd hdr 0) = false ∧ feeSimHasDataCrc (packageCmd hdr 0) = false := by
  constructor
  · intro h
    have hbytes := congrArg List.length (h.bytes fun _ => 0)
    have hsize := h.size fun _ => 0
    rw [packaged_eq _ _ _ _ hne, dataCrcField] at hbytes
    rw [smileFeePackage_fst, smileFeePackageSize_eq _ _ _ hne, feeSimPackageSize_eq hne, dataCrcField] at hsize
    cases h1 : hasDataCrc (packageCmd hdr 0) <;> cases h2 : feeSimHasDataCrc (packageCmd hdr 0) <;>
      simp [h1, h2] at hbytes hsize ⊢
  · rintro ⟨h1, h2⟩
    refine ⟨fun blob => ?_, fun blob i hi => ?_, fun blob => ?_⟩
    · simp [smileFeePackage_fst, smileFeePackageSize_eq _ _ _ hne, feeSimPackageSize_eq hne, dataCrcField, h1, h2]
    · rw [smileFeePackage_snd _ _ _ _ hne, Mem.write_outside]
      simp [feeSimPackageSize_eq hne, h2] at hi
      simp [packageTail, h1]
      omega
    · simp [packaged_eq _ _ _ _ hne, dataCrcField, h1]

/-- With data both would have to count it. -/
theorem not_replySized_some (d : List U8) (h1 : hasDataCrc (packageCmd hdr 0) = false) :
    ¬ ReplySized hdr (some d) := by
  intro h
  have hbytes := congrArg List.length (h.bytes fun _ => 0)
  simp [packaged_eq _ _ _ _ hne, dataCrcField, h1] at hbytes

end

/-- **When the reply fits its buffer**: it answers a write to a single address, with reply. -/
theorem replySized_iff (sim : Mirror) (mem : Mem) (pkt : Buf) (hdr : List U8) (data : Option (List U8))
    (h : simReply sim mem pkt = some (hdr, data)) :
    ReplySized hdr data ↔ riCmd pkt.instr = RMAP_WRITE_ADDR_SINGLE_REPLY := by
  obtain ⟨hne, hcode, hvalid, hdata⟩ := simReply_spec h
  cases data with
  | some d =>
    have hread : riCmd pkt.instr = RMAP_READ_ADDR_INC := hdata.1 (by simp)
    have hno := not_replySized_some hne d (by rw [hcode, hread]; rfl)
    simp only [hno, hread, false_iff]
    decide
  | none =>
    rw [replySized_none_iff hne, hcode]
    simp only [rmapValidateCmdCode, decide_eq_true_eq, List.mem_cons, List.not_mem_nil, or_false] at hvalid
    rcases hvalid with hv | hv | hv | hv | hv | hv | hv | hv | hv | hv | hv <;> (rw [hv]; decide)

/-- A write that the simulator does not implement. -/
theorem replySized_write_single :
    simReply ⟨.little, 0x100, 0x1000⟩ (fun _ => 0)
        ⟨packaged (smileFeePackage (fun _ => 0) (rmapBuildHdr (cmdPkt {} 7 RMAP_WRITE_ADDR_SINGLE_REPLY 0x40 1)) 0
          (some [0xaa])), fun _ => 0⟩ = some ([0, 1, 0x28, 0, 0, 0, 7], none) ∧
      ReplySized [0, 1, 0x28, 0, 0, 0, 7] none :=
  have h : simReply ⟨.little, 0x100, 0x1000⟩ (fun _ => 0)
      ⟨packaged (smileFeePackage (fun _ => 0) (rmapBuildHdr (cmdPkt {} 7 RMAP_WRITE_ADDR_SINGLE_REPLY 0x40 1)) 0
        (some [0xaa])), fun _ => 0⟩ = some ([0, 1, 0x28, 0, 0, 0, 7], none) := by decide
  ⟨h, (replySized_iff _ _ _ _ _ h).2 (by decide)⟩

/-- A write to a register: the reply gets eight bytes and fills nine. -/
theorem not_replySized_register_write :
    simReply ⟨.little, 0x100, 0x1000⟩ (fun _ => 0)
        ⟨packaged (smileFeePackage (fun _ => 0) (feeWriteCmdRegister {} 7 0x0) 0 (some [0, 0, 0, 1])), fun _ => 0⟩ =
          some ([0, 1, 0x2c, 0, 0, 0, 7], none) ∧
      feeSimPackageSize [0, 1, 0x2c, 0, 0, 0, 7] 0 none = 8 ∧
      (smileFeePackage (fun _ => 0xFF) [0, 1, 0x2c, 0, 0, 0, 7] 0 none).1 = 9 ∧
      (smileFeePackage (fun _ => 0xFF) [0, 1, 0x2c, 0, 0, 0, 7] 0 none).2 8 = 0 ∧
      ¬ ReplySized [0, 1, 0x2c, 0, 0, 0, 7] none := by
  refine ⟨by decide, by decide, by decide, by decide, fun h => ?_⟩
  have hsize := h.size fun _ => 0
  revert hsize
  decide

end SmileFee
