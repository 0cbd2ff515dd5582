import SmileFee.FeeRmap

/-!
# What `smile_fee_package` promises its callers (`FEE/smile_fee_rmap.c:519`)

A caller asks for the size, allocates that much, and has the packet written. `Packages` is what this
relies on. The size counts a data CRC by the command code, but the CRC is written wherever there is
data: for a code that is not in the list the last byte lies behind the blob (**`packages_iff`**).

A destination path is stripped by the routers on the way. What arrives is the packet that would have
been made without a path (**`package_strip_path`**).
-/

namespace SmileFee

/-! ## Size and extent -/

/-- The size query is the number of bytes written, and a packet with data ends with their CRC. -/
structure Packages (cmd : List U8) (nonCrcBytes : Nat) (data : Option (List U8)) : Prop where
  size : ∀ blob, (smileFeePackage blob cmd nonCrcBytes data).1 = smileFeePackageSize cmd nonCrcBytes data
  extent : Mem.Assigns (fun blob => (smileFeePackage blob cmd nonCrcBytes data).2)
    (smileFeePackageSize cmd nonCrcBytes data)
  data_crc : ∀ d ∈ data, d ≠ [] → ∀ blob,
    (packaged (smileFeePackage blob cmd nonCrcBytes data)).getLast? = some (rmapCrc8 d)

/-- The codes that the list of `smile_fee_package` leaves out: the reads, which need it in a reply
only, and one of the writes. -/
def uncountedCmds : List U8 := [RMAP_READ_ADDR_SINGLE, RMAP_READ_ADDR_INC, RMAP_WRITE_ADDR_SINGLE_REPLY]

theorem hasDataCrc_iff {cmd : U8} (hc : rmapValidateCmdCode cmd = true) :
    hasDataCrc cmd = true ↔ cmd ∉ uncountedCmds := by
  simp only [rmapValidateCmdCode, decide_eq_true_eq, List.mem_cons, List.not_mem_nil, or_false] at hc
  rcases hc with rfl | rfl | rfl | rfl | rfl | rfl | rfl | rfl | rfl | rfl | rfl <;> decide

section

variable {cmd : List U8} (hc : cmd ≠ []) (nonCrcBytes : Nat)
include hc

/-- The number of bytes written. -/
theorem package_assigns_iff (data : Option (List U8)) (n : Nat) :
    Mem.Assigns (fun blob => (smileFeePackage blob cmd nonCrcBytes data).2) n ↔
      n = cmd.length + 1 + (packageTail cmd nonCrcBytes data).length := by
  simp only [smileFeePackage_snd _ _ _ _ hc, Mem.assigns_write_iff, List.length_append, List.length_cons]
  omega

/-- Without data the size is right for every code. -/
theorem packages_none : Packages cmd nonCrcBytes none where
  size blob := smileFeePackage_fst blob cmd nonCrcBytes none
  extent := by
    rw [package_assigns_iff hc, smileFeePackageSize_eq _ _ _ hc, packageTail, dataCrcField]
    split <;> simp
  data_crc := by simp

/-- With data it is if the CRC was counted. -/
theorem packages_some_iff (d : List U8) :
    Packages cmd nonCrcBytes (some d) ↔ hasDataCrc (packageCmd cmd nonCrcBytes) = true := by
  constructor
  · intro h
    have hext := (package_assigns_iff hc nonCrcBytes (some d) _).1 h.extent
    rw [smileFeePackageSize_eq _ _ _ hc, packageTail, dataCrcField] at hext
    by_contra hcode
    simp [hcode] at hext
  · intro hcode
    refine ⟨fun blob => smileFeePackage_fst blob cmd nonCrcBytes _, ?_, fun d' hd' _ blob => ?_⟩
    · rw [package_assigns_iff hc, smileFeePackageSize_eq _ _ _ hc, packageTail, dataCrcField, if_pos hcode]
      simp
      omega
    · obtain rfl : d = d' := by simpa using hd'
      rw [packaged_eq _ _ _ _ hc, dataCrcField, if_pos hcode, List.append_cons, Option.getD_some,
        ← List.append_assoc]
      exact List.getLast?_concat ..

end

/-- **When the queried size is what gets written**: there is no data, or the code of the header is one
for which the data CRC is counted. -/
theorem packages_iff (cmd : List U8) (nonCrcBytes : Nat) (data : Option (List U8))
    (hi : nonCrcBytes + RMAP_INSTRUCTION < cmd.length) (hc : rmapValidateCmdCode (packageCmd cmd nonCrcBytes) = true) :
    Packages cmd nonCrcBytes data ↔ data = none ∨ packageCmd cmd nonCrcBytes ∉ uncountedCmds := by
  have hne : cmd ≠ [] := List.ne_nil_of_length_pos (by omega)
  cases data with
  | none => simpa using packages_none hne nonCrcBytes
  | some d => rw [packages_some_iff hne, hasDataCrc_iff hc]; simp

/-- A write with a data CRC behind a path of two bytes. -/
theorem packages_write_verify :
    Packages (rmapBuildHdr (cmdPkt { dpath := [1, 2] } 7 RMAP_WRITE_ADDR_INC_VERIFY_REPLY 0x40 4)) 2
      (some [0xa, 0xb, 0xc, 0xd]) :=
  (packages_iff _ 2 (some [0xa, 0xb, 0xc, 0xd]) (by decide) (by decide)).2 (.inr (by decide))

/-- A write of four bytes to a single address, with reply: a packet of 20 bytes, the CRC behind it. -/
theorem not_packages_write_single_reply :
    ¬ Packages (rmapBuildHdr (cmdPkt {} 7 RMAP_WRITE_ADDR_SINGLE_REPLY 0x40 4)) 0 (some [0xa, 0xb, 0xc, 0xd]) := by
  intro h
  have hsize : smileFeePackageSize (rmapBuildHdr (cmdPkt {} 7 RMAP_WRITE_ADDR_SINGLE_REPLY 0x40 4)) 0
      (some [0xa, 0xb, 0xc, 0xd]) = 20 := by decide
  have hkeep := h.extent.2 20 (by rw [hsize]) fun _ => 0
  revert hkeep
  decide

/-! ## Destination paths -/

theorem rmapBuildHdr_path (pkt : RmapPkt) (path : List U8) :
    rmapBuildHdr { pkt with path := path } = path ++ rmapBuildHdr { pkt with path := [] } := by
  simp [rmapBuildHdr]

/-- The instruction byte is found behind the path. -/
theorem packageCmd_path (pkt : RmapPkt) (path : List U8) :
    packageCmd (rmapBuildHdr { pkt with path := path }) path.length =
      packageCmd (rmapBuildHdr { pkt with path := [] }) 0 :=
  (packageCmd_buildHdr { pkt with path := path }).trans (packageCmd_buildHdr { pkt with path := [] }).symm

/-- **Path stripping**: a packet made for a destination path is the path and the packet made without one,
in all that is written, in what is sent, and in the size. -/
theorem package_strip_path (pkt : RmapPkt) (path : List U8) (data : Option (List U8))
    (hp : path.length ≤ RMAP_MAX_PATH_LEN) :
    ∃ routed bare, rmapSetDestPath pkt path = some routed ∧ rmapSetDestPath pkt [] = some bare ∧
      smileFeePackageSize (rmapBuildHdr routed) path.length data =
        smileFeePackageSize (rmapBuildHdr bare) 0 data + path.length ∧
      (∀ blob blob', (smileFeePackage blob (rmapBuildHdr routed) path.length data).1 =
          (smileFeePackage blob' (rmapBuildHdr bare) 0 data).1 + path.length ∧
        packaged (smileFeePackage blob (rmapBuildHdr routed) path.length data) =
          path ++ packaged (smileFeePackage blob' (rmapBuildHdr bare) 0 data)) ∧
      ∃ bytes, ∀ blob, (smileFeePackage blob (rmapBuildHdr routed) path.length data).2 = blob.write 0 (path ++ bytes) ∧
        (smileFeePackage blob (rmapBuildHdr bare) 0 data).2 = blob.write 0 bytes := by
  have hcmd := packageCmd_path pkt path
  have hhdr := rmapBuildHdr_path pkt path
  have hdrop : (rmapBuildHdr { pkt with path := path }).drop path.length = rmapBuildHdr { pkt with path := [] } := by
    rw [hhdr, List.drop_left]
  have hcrc : dataCrcField (rmapBuildHdr { pkt with path := path }) path.length data =
      dataCrcField (rmapBuildHdr { pkt with path := [] }) 0 data := by
    rw [dataCrcField, dataCrcField, hcmd]
  have htail : packageTail (rmapBuildHdr { pkt with path := path }) path.length data =
      packageTail (rmapBuildHdr { pkt with path := [] }) 0 data := by
    cases data with
    | none => rw [packageTail, packageTail, hcmd]
    | some d => rfl
  have hsize : smileFeePackageSize (rmapBuildHdr { pkt with path := path }) path.length data =
      smileFeePackageSize (rmapBuildHdr { pkt with path := [] }) 0 data + path.length := by
    rw [smileFeePackageSize_eq _ _ _ (rmapBuildHdr_ne_nil _), smileFeePackageSize_eq _ _ _ (rmapBuildHdr_ne_nil _), hcrc,
      hhdr, List.length_append]
    omega
  refine ⟨{ pkt with path := path }, { pkt with path := [] }, if_neg (by omega), rfl, hsize, fun blob blob' => ⟨?_, ?_⟩,
    rmapBuildHdr { pkt with path := [] } ++ rmapCrc8 (rmapBuildHdr { pkt with path := [] }) ::
      packageTail (rmapBuildHdr { pkt with path := [] }) 0 data, fun blob => ⟨?_, ?_⟩⟩
  · rw [smileFeePackage_fst, smileFeePackage_fst, hsize]
  · rw [packaged_eq _ _ _ _ (rmapBuildHdr_ne_nil _), packaged_eq _ _ _ _ (rmapBuildHdr_ne_nil _), hdrop, hcrc, hhdr,
      List.append_assoc, List.drop_zero]
  · rw [smileFeePackage_snd _ _ _ _ (rmapBuildHdr_ne_nil _), hdrop, htail, hhdr, List.append_assoc]
  · rw [smileFeePackage_snd _ _ _ _ (rmapBuildHdr_ne_nil _), List.drop_zero]

/-- A write over three routers. -/
theorem package_strip_path_three :
    smileFeePackageSize (rmapBuildHdr { cmdPkt {} 7 RMAP_WRITE_ADDR_INC_REPLY 0x40 1 with path := [1, 2, 3] }) 3
        (some [0xaa]) =
      smileFeePackageSize (rmapBuildHdr (cmdPkt {} 7 RMAP_WRITE_ADDR_INC_REPLY 0x40 1)) 0 (some [0xaa]) + 3 := by
  obtain ⟨_, _, hr, hb, hs, -⟩ := package_strip_path (cmdPkt {} 7 RMAP_WRITE_ADDR_INC_REPLY 0x40 1) [1, 2, 3]
    (some [0xaa]) (by decide)
  cases hr
  cases hb
  exact hs

end SmileFee
