import SmileFee.RmapCodec

/-!
# The writes of `rmap_build_hdr` (`FEE/rmap.c:443-495`)

`rmapBuildHdr` has the bytes of a header in the order of the stores. Here each store `hdr[n++] = b` is
kept with its index, so that what is written, where and how often can be told apart from the value that
is returned. The writer follows single bits of the instruction, the size query a table over the command
codes (`rmap_get_min_hdr_size`), and every caller allocates by the query.

**`rmapBuildHdrTo_refines`**: the stores are the bytes of `rmapBuildHdr`, each at its own index.
**`rmapBuildHdr_assigns_once`**: a query returns what the writer returns, which has then stored once to
every byte below it and to none from there on.
-/

namespace SmileFee

open Word

/-- `hdr` and `n`: the stores done so far, each a byte and the index it went to. -/
structure HdrOut where
  n : Nat
  stores : List (U8 × Nat)
deriving DecidableEq, Repr

namespace HdrOut

/-- `hdr[n++] = b`. -/
def put (out : HdrOut) (b : U8) : HdrOut := ⟨out.n + 1, out.stores ++ [(b, out.n)]⟩

/-- `for (i = 0; i < len; i++) hdr[n++] = bytes[i]`. -/
def puts (out : HdrOut) (bytes : List U8) : HdrOut := bytes.foldl put out

/-- `data_len`, the last three bytes of a header that has it. -/
def putDataLen (out : HdrOut) (len : U32) : HdrOut :=
  out |>.put (u8 (len >>> 16)) |>.put (u8 (len >>> 8)) |>.put (u8 len)

/-- How often `hdr[i]` is assigned. -/
def assigned (out : HdrOut) (i : Nat) : Nat := (out.stores.map Prod.snd).count i

end HdrOut

/-- `rmap_build_hdr` (`rmap.c:443`), store by store. -/
def rmapBuildHdrTo (pkt : RmapPkt) : HdrOut :=
  let out := HdrOut.puts ⟨0, []⟩ pkt.path
  let out := out |>.put pkt.dst |>.put pkt.protoId |>.put pkt.instruction |>.put pkt.key
  let out := out.puts pkt.rpath
  let out := out |>.put pkt.src |>.put (u8 (pkt.trId >>> 8)) |>.put (u8 pkt.trId)
  if riCmdResp pkt.instruction then
    let out := out |>.put 0x0 |>.put (u8 (pkt.addr >>> 24)) |>.put (u8 (pkt.addr >>> 16))
      |>.put (u8 (pkt.addr >>> 8)) |>.put (u8 pkt.addr)
    out.putDataLen pkt.dataLen
  else if ¬ riCmdResp pkt.instruction ∧ riCmdWrite pkt.instruction then out  -- a write reply ends here
  else (out.put 0x0).putDataLen pkt.dataLen

/-! ## What is stored -/

namespace HdrOut

/-- `bytes` stored from index 0 on, in order. -/
def ofBytes (bytes : List U8) : HdrOut := ⟨bytes.length, bytes.zipIdx⟩

@[simp] theorem put_ofBytes (bytes : List U8) (b : U8) : (ofBytes bytes).put b = ofBytes (bytes ++ [b]) := by
  simp [put, ofBytes, List.zipIdx_append]

@[simp] theorem puts_ofBytes (bytes more : List U8) : (ofBytes bytes).puts more = ofBytes (bytes ++ more) := by
  induction more generalizing bytes with
  | nil => rw [List.append_nil]; rfl
  | cons b more ih =>
    calc (ofBytes bytes).puts (b :: more)
        = ((ofBytes bytes).put b).puts more := rfl
      _ = (ofBytes (bytes ++ [b])).puts more := by rw [put_ofBytes]
      _ = ofBytes (bytes ++ b :: more) := by rw [ih, List.append_assoc, List.singleton_append]

@[simp] theorem putDataLen_ofBytes (bytes : List U8) (len : U32) :
    (ofBytes bytes).putDataLen len = ofBytes (bytes ++ dataLenBytes len) := by
  simp [putDataLen, dataLenBytes]

/-- Stores in order leave no gap, and none is done twice. -/
theorem assigned_ofBytes (bytes : List U8) (i : Nat) :
    (ofBytes bytes).assigned i = if i < (ofBytes bytes).n then 1 else 0 := by
  have hidx : (ofBytes bytes).stores.map Prod.snd = List.range bytes.length := by
    rw [ofBytes, List.zipIdx_map_snd, List.range_eq_range']
  rw [assigned, hidx]
  by_cases hi : i < bytes.length
  · exact (List.count_eq_one_of_mem List.nodup_range (List.mem_range.2 hi)).trans (if_pos hi).symm
  · exact (List.count_eq_zero_of_not_mem fun h => hi (List.mem_range.1 h)).trans (if_neg hi).symm

end HdrOut

/-- **The writer refines the header.** -/
theorem rmapBuildHdrTo_refines (pkt : RmapPkt) : rmapBuildHdrTo pkt = HdrOut.ofBytes (rmapBuildHdr pkt) := by
  have h0 : (⟨0, []⟩ : HdrOut) = HdrOut.ofBytes [] := rfl
  rw [rmapBuildHdrTo, rmapBuildHdr, h0]
  cases hc : riCmdResp pkt.instruction with
  | true => simp
  | false => cases hw : riCmdWrite pkt.instruction <;> simp

/-! ## The size query -/

/-- For a code that is not valid a query is short of the header. -/
theorem rmapBuildHdrSize_eq_iff (pkt : RmapPkt) :
    rmapBuildHdrSize pkt = (rmapBuildHdr pkt).length ↔ rmapValidateCmdCode (riCmd pkt.instruction) = true := by
  rw [← minHdrSize_nonneg_iff]
  refine ⟨fun h => ?_, rmapBuildHdrSize_eq⟩
  by_contra hneg
  have hlong : pkt.path.length + pkt.rpath.length ≤ (rmapBuildHdr pkt).length := by
    simp only [rmapBuildHdr, List.length_append]
    omega
  rw [rmapBuildHdrSize] at h
  omega

/-- **The size query and the writer agree** for every valid command code, as command or as reply: the
size returned is the same, and the writer assigns every byte below it once and no other. -/
theorem rmapBuildHdr_assigns_once (pkt : RmapPkt) (hv : rmapValidateCmdCode (riCmd pkt.instruction) = true) :
    rmapBuildHdrSize pkt = (rmapBuildHdrTo pkt).n ∧
    ∀ i, (rmapBuildHdrTo pkt).assigned i = if i < (rmapBuildHdrTo pkt).n then 1 else 0 := by
  rw [rmapBuildHdrTo_refines]
  exact ⟨(rmapBuildHdrSize_eq_iff pkt).2 hv, HdrOut.assigned_ofBytes _⟩

/-- The reply to a read-modify-write, with a path and a reply path. -/
theorem rmapBuildHdr_assigns_once_rmwReply :
    rmapBuildHdrSize { path := [1, 2], instruction := 0x1C, rpath := [3, 4, 5, 6] } = 17 ∧
    ∀ i, (rmapBuildHdrTo { path := [1, 2], instruction := 0x1C, rpath := [3, 4, 5, 6] }).assigned i =
      if i < 17 then 1 else 0 :=
  rmapBuildHdr_assigns_once { path := [1, 2], instruction := 0x1C, rpath := [3, 4, 5, 6] } (by decide)

end SmileFee
