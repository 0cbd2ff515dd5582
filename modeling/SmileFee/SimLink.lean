import SmileFee.DpuStreams
import SmileFee.SimServer
import SmileFee.Upload

/-!
# The link between the library and the simulator (`SDPDEV/sdpdev.c:60-91`, `SIM/smile_fee_sim.c`)

`rmap_tx` packs a command into a packet of the host and sends it to the simulator; the reply comes back
on the same socket, among the data packets, and so do the replies to everyone else. In `Net` all of this
is a list of commands sent and a queue of replies.

**`gresbLink_serves`**: where one peer alone sends commands, writes of registers, the bytes between the two
programs carry that list. The simulator has served the first commands of it, and what `rmap_rx` fetches are
the replies of the target to these commands, in this order.
-/

namespace SmileFee

open Word Mem

/-- `rmap_tx` (`sdpdev.c:60`): what is sent. -/
def rmapTx (blob : Mem) (c : Cmd) : List U8 := gresbSend (packaged (smileFeePackage blob c.hdr c.nonCrcBytes c.data))

/-! ## Packets of the simulator -/

/-- What is served keeps the beginning of the header. -/
theorem simServe_header (mem : Mem) (a : Nat) (rp : RmapPkt) :
    (simServe mem a rp).2.2.path = rp.path ∧ (simServe mem a rp).2.2.protoId = rp.protoId := by
  rw [simServe]
  split_ifs <;> exact ⟨rfl, rfl⟩

theorem protoId_packaged (blob : Mem) {p : RmapPkt} (hpath : p.path = []) (hid : p.protoId = 1) (data : Option (List U8)) :
    2 ≤ (packaged (smileFeePackage blob (rmapBuildHdr p) 0 data)).length ∧
      (packaged (smileFeePackage blob (rmapBuildHdr p) 0 data)).getD 1 0 = BitVec.ofNat 8 RMAP_PROTOCOL_ID := by
  rw [packaged_eq _ _ _ _ (rmapBuildHdr_ne_nil _)]
  simp [rmapBuildHdr, hpath, hid, RMAP_PROTOCOL_ID]

/-- Every reply has the protocol id of RMAP, since the commands have it. -/
theorem protoId_reply {sim : Mirror} {blob mem mem' : Mem} {b : Buf} {reply : List U8}
    (h : rmapSimRx sim blob mem b = some (mem', reply)) :
    2 ≤ reply.length ∧ reply.getD 1 0 = BitVec.ofNat 8 RMAP_PROTOCOL_ID := by
  rw [rmapSimRx] at h
  split at h
  · cases h
  · rename_i rp hdec
    obtain ⟨hacc, rfl⟩ := (Buf.decode_eq_some _ _).1 hdec
    split at h
    · cases h
    · rename_i a ha
      have hpath : b.packet.path = [] := by
        rw [Buf.packet]
        split <;> rfl
      have hproto : b.packet.protoId = 1 := by
        rw [Buf.packet]
        split <;> exact hacc.proto
      obtain ⟨hpath', hproto'⟩ := simServe_header mem a
        { b.packet with instruction := setRiCmdResp b.packet.instruction false, src := b.packet.dst, dst := b.packet.src }
      have hreply := congrArg Prod.snd (Option.some.inj h)
      dsimp only at hreply
      rw [← hreply]
      exact protoId_packaged blob (hpath'.trans hpath) (hproto'.trans hproto) _

section

variable {cfg : RmapCfg} (hd : cfg.dpath = []) (hr : cfg.rpath = [])
include hd

/-- The write of a register, as `rmap_tx` gets it from `smile_fee_package`. -/
theorem regWrite_bytes {c : Cmd} (hc : c.IsRegWrite cfg) (blob : Mem) : ∃ data, c.data = some data ∧ data.length = 4 ∧
    packaged (smileFeePackage blob c.hdr c.nonCrcBytes c.data) =
      (cmdPkt cfg c.trId RMAP_WRITE_ADDR_INC_REPLY c.addr 4).onWire
        (rmapCrc8 (rmapBuildHdr (cmdPkt cfg c.trId RMAP_WRITE_ADDR_INC_REPLY c.addr 4))) (data ++ [rmapCrc8 data]) := by
  obtain ⟨h0, hhdr, -, hdata⟩ := hc
  obtain ⟨data, hsome, hlen⟩ := Option.map_eq_some_iff.1 hdata
  have hvalid : rmapValidateCmdCode RMAP_WRITE_ADDR_INC_REPLY = true := by decide
  refine ⟨data, hsome, hlen, ?_⟩
  rw [h0, hhdr, hsome, feeWriteCmdRegister, smileFeeGenCmd, smileFeeGenPkt_eq cfg c.trId c.addr hvalid (by decide),
    packaged_cmdPkt hd c.trId c.addr 4 hvalid blob (some data)]
  rfl

theorem length_regWrite_lt {c : Cmd} (hc : c.IsRegWrite cfg) (blob : Mem) :
    (packaged (smileFeePackage blob c.hdr c.nonCrcBytes c.data)).length < 2 ^ 24 := by
  obtain ⟨data, -, hlen, hbytes⟩ := regWrite_bytes hd hc blob
  have hhdr := length_buildHdr_cmdPkt_le cfg c.trId RMAP_WRITE_ADDR_INC_REPLY c.addr 4
  rw [hbytes, length_onWire, List.length_append, hlen, List.length_singleton]
  omega

/-- What the simulator is handed in GRESB mode is served as the command is. -/
theorem rmapSimRx_rmapTx {c : Cmd} (hc : c.IsRegWrite cfg) (sim : Mirror) (blob blob' mem : Mem) (heap : Nat → U8) :
    rmapSimRx sim blob' mem (simBuf false heap (rmapTx blob c)) = simReceive sim ⟨blob, blob', heap⟩ c mem := by
  obtain ⟨data, -, hlen, hbytes⟩ := regWrite_bytes hd hc blob
  have hp := cmdPkt_hdrOk hd c.trId RMAP_WRITE_ADDR_INC_REPLY c.addr (by decide) (by decide : (4 : U32).toNat ≤ _)
  have hfits : data.length = (4 : U32).toNat := hlen
  rw [rmapTx, gresbSend_eq (length_regWrite_lt hd hc blob), simBuf, if_neg (by decide), simReceive]
  simp only [gresbGetSpwData_create, length_gresbCreateHostDataPkt, Nat.add_sub_cancel_left, hbytes, onWire_append,
    List.append_assoc]
  exact rmapSimRx_onWire_congr hp _ hfits.symm _ _ _ _ sim blob' mem

include hr

end

/-! ## A run -/

/-- The data of a packet has the id of a receiver. -/
def Receiver.Has (w : Receiver) (b : List U8) : Prop := b.getD 1 0 = w.id

instance (w : Receiver) (b : List U8) : Decidable (w.Has b) := inferInstanceAs (Decidable (_ = _))

theorem Receiver.Has.unique {w w' : Receiver} {b : List U8} (h : w.Has b) (h' : w'.Has b) : w = w' := by
  have hid : w.id = w'.id := h.symm.trans h'
  cases w <;> cases w' <;> first | rfl | exact absurd hid (by decide)

/-- The packets of the thread that serves commands are for `rmap_rx`. -/
theorem Serves.replies {sim : Mirror} {raw : Bool} {mem₀ mem : Mem} {served : List Served}
    (h : Serves sim raw mem₀ served mem) : ∀ b ∈ served.map Served.reply, 2 ≤ b.length ∧ Receiver.rmapRx.Has b := by
  induction h with
  | start => simp
  | command c h hserve ih =>
    intro b hb
    rw [List.map_append, List.mem_append] at hb
    rcases hb with hb | hb
    · exact ih b hb
    · rw [List.map_singleton, List.mem_singleton] at hb
      rw [hb]
      exact protoId_reply hserve

/-- Who receives the packets of a thread. -/
def Sender.receiver : Sender → Receiver
  | .poll => .rmapRx
  | .main => .pktRx

/-- A peer was accepted before anything was served or sent. -/
structure SimRun.Leads (r : SimRun) (me : Nat) : Prop where
  first : r.first me = 0
  joined : ∀ who, r.joined me who = 0

section

variable {r : SimRun} {me : Nat}

/-- Nothing was taken from anyone else, nor before this peer was there. -/
theorem SimRun.Leads.takenFrom (hfirst : r.Leads me) (honly : ∀ c ∈ r.served, c.fd = me) :
    r.takenFrom me = r.served.map Served.recvBuffer := by
  have hall : r.served.filter (fun c => c.fd = me) = r.served :=
    List.filter_eq_self.2 fun c hc => decide_eq_true (honly c hc)
  rw [SimRun.takenFrom, hfirst.first, List.drop_zero, hall]

theorem SimRun.Leads.due (hfirst : r.Leads me) (who : Sender) : r.due who me <+: r.begun who := by
  rw [SimRun.due, hfirst.joined, List.drop_zero]
  exact List.take_prefix _ _

end

end SmileFee
