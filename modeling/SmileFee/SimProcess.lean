import SmileFee.SimMain
import SmileFee.SimServer

/-!
# The simulator as a whole (`SIM/smile_fee_sim.c`, `SIM/fee_sim.c`)

The thread that polls the sockets serves the commands (`SimServer`), the main loop executes the operations
(`SimMain`). They share the memory of the FEE, and the sockets that both send to. A step of either can come at
any time: between two packets of an operation there can be a command and its reply, and while one of the threads
sends a packet to one socket after the other, so can the other one.

`Works` is the simulator as it is meant: the main loop, for which a command is something that another thread writes.
**`simProc_refines`** says that this is what the threads come to together, as long as no command that is served while an
operation is executed changes what the operation reads.
-/

namespace SmileFee

open Word Mem

/-- A round of one of the threads of the server, or a step of the main loop. -/
inductive ProcEvent where
  | net (e : SimEvent) (h : e.sent? = none)
  | main (io : MainIo)

structure SimProc where
  net : SimRun
  pc : MainPc := .start
  statics : SimStatics := {}

/-- What the main loop finds. -/
def SimProc.main (p : SimProc) : MainState := { pc := p.pc, mem := p.net.st.mem, statics := p.statics }

/-- The main loop sends with `fee_send_non_rmap`, and does nothing else until that returns. -/
def SimProc.exec (sim : Mirror) (p : SimProc) : ProcEvent → Option SimProc
  | .net e _ => (p.net.exec sim e).map fun net => { p with net := net }
  | .main io =>
    if (p.net.st.push .main).isSome then none
    else
      let after := p.main.step sim io
      let net := { p.net with st := { p.net.st with mem := after.1.mem } }
      (net.run sim ((after.2.filterMap MainObs.pkt?).map SimEvent.send)).map fun net =>
        { net := net, pc := after.1.pc, statics := after.1.statics }

def SimProc.run (sim : Mirror) (p : SimProc) (events : List ProcEvent) : Option SimProc :=
  events.foldlM (SimProc.exec sim) p

/-- While an operation is executed, nothing is changed that it reads. -/
def SimProc.Undisturbed (sim : Mirror) : SimProc → List ProcEvent → Prop
  | _, [] => True
  | p, e :: events => ∀ p', p.exec sim e = some p' →
    (p.pc.executing → SameForOp sim p.net.st.mem p'.net.st.mem) ∧ p'.Undisturbed sim events

/-! ## What it comes to -/

/-- The commands served, and the main loop with its past. -/
inductive Works (sim : Mirror) (raw : Bool) (m₀ : MainRun) : List Served → MainRun → Prop
  | start : Works sim raw m₀ [] m₀
  | command {served : List Served} {m : MainRun} {mem : Mem} (c : Served) : Works sim raw m₀ served m →
      rmapSimRx sim c.blob m.st.mem (simBuf raw c.heap c.recvBuffer) = some (mem, c.reply) →
      MainEvent.Spares sim m (.write mem) → Works sim raw m₀ (served ++ [c]) (m.exec sim (.write mem))
  | main {served : List Served} {m : MainRun} (io : MainIo) : Works sim raw m₀ served m →
      Works sim raw m₀ served (m.exec sim (.step io))

section

variable {sim : Mirror} {raw : Bool} {m₀ m : MainRun} {served : List Served}

/-- It is a run of the main loop that nobody disturbs. -/
theorem Works.run (h : Works sim raw m₀ served m) : ∃ events, m = m₀.run sim events ∧ m₀.Undisturbed sim events := by
  induction h with
  | start => exact ⟨[], rfl, trivial⟩
  | @command _ _ mem _ _ _ hspares ih =>
    obtain ⟨events, rfl, hun⟩ := ih
    exact ⟨events ++ [.write mem], by simp [MainRun.run], MainRun.undisturbed_append.2 ⟨hun, hspares, trivial⟩⟩
  | main io _ ih =>
    obtain ⟨events, rfl, hun⟩ := ih
    refine ⟨events ++ [.step io], by simp [MainRun.run], MainRun.undisturbed_append.2 ⟨hun, ?_⟩⟩
    exact ⟨trivial, trivial⟩

/-- A request is made by a command. -/
theorem Works.raised_le (h : Works sim raw m₀ served m) : m.raised ≤ m₀.raised + served.length := by
  induction h with
  | start => exact Nat.le_add_right _ _
  | command _ _ _ _ ih =>
    simp only [MainRun.exec, List.length_append, List.length_singleton]
    split <;> omega
  | main io _ ih => exact ih

end

/-- The threads have come to what they are meant to. -/
structure SimProc.Inv (sim : Mirror) (raw : Bool) (m₀ : MainRun) (p : SimProc) : Prop where
  socks : p.net.Socks
  mode : p.net.st.cfg.raw = raw
  works : ∃ m, Works sim raw m₀ p.net.served m ∧ m.st = p.main ∧ p.net.data = m.sent

section

variable {sim : Mirror} {raw : Bool} {m₀ : MainRun} {p p' : SimProc}

/-- Packets of the main loop leave the memory alone. -/
theorem SimRun.sends_mem {r r' : SimRun} {pkts : List (List U8)} (hrun : r.run sim (pkts.map SimEvent.send) = some r') :
    r'.st.mem = r.st.mem := by
  induction pkts generalizing r with
  | nil =>
    cases hrun
    rfl
  | cons pkt pkts ih =>
    obtain ⟨r₁, he, hrun⟩ := Option.bind_eq_some_iff.1 hrun
    exact (ih hrun).trans (SimRun.exec_mem he rfl)

/-- … and go to the sockets. -/
theorem SimRun.Socks.sends {r r' : SimRun} (h : r.Socks) {pkts : List (List U8)}
    (hrun : r.run sim (pkts.map SimEvent.send) = some r') :
    r'.Socks ∧ r'.st.cfg.raw = r.st.cfg.raw ∧ r'.served = r.served ∧ r'.data = r.data ++ pkts := by
  induction pkts generalizing r with
  | nil =>
    cases hrun
    exact ⟨h, rfl, rfl, (List.append_nil _).symm⟩
  | cons pkt pkts ih =>
    rw [List.map_cons, SimRun.run, List.foldlM_cons] at hrun
    obtain ⟨r₁, he, hrun⟩ := Option.bind_eq_some_iff.1 hrun
    obtain ⟨h₁, hraw₁, hseen⟩ := h.exec he
    obtain ⟨h₂, hraw₂, hserved₂, hdata₂⟩ := ih h₁ hrun
    rw [SimEvent.sent?] at hseen
    cases hseen with
    | data _ hserved hdata _ =>
      refine ⟨h₂, hraw₂.trans hraw₁, hserved₂.trans hserved, ?_⟩
      rw [hdata₂, hdata, List.append_assoc]
      rfl

/-- **A round of one thread.** -/
theorem SimProc.Inv.exec (h : p.Inv sim raw m₀) {e : ProcEvent} (he : p.exec sim e = some p')
    (hspares : p.pc.executing → SameForOp sim p.net.st.mem p'.net.st.mem) : p'.Inv sim raw m₀ := by
  obtain ⟨hsocks, hraw, m, hworks, hmain, hdata⟩ := h
  have hmem : m.st.mem = p.net.st.mem := congrArg MainState.mem hmain
  have hpc : m.st.pc = p.pc := congrArg MainState.pc hmain
  cases e with
  | net e hsent =>
    obtain ⟨net, hnet, rfl⟩ := Option.map_eq_some_iff.1 he
    obtain ⟨hsocks', hraw', hseen⟩ := hsocks.exec hnet
    rw [hsent] at hseen
    cases hseen with
    | nothing hserved' hdata' hmem' =>
      refine ⟨hsocks', hraw'.trans hraw, m, hserved' ▸ hworks, ?_, hdata'.trans hdata⟩
      rw [hmain, SimProc.main, SimProc.main, hmem']
    | command c hserve hserved' hdata' =>
      rw [hraw, ← hmem] at hserve
      refine ⟨hsocks', hraw'.trans hraw, m.exec sim (.write net.st.mem), ?_, ?_, hdata'.trans hdata⟩
      · rw [hserved']
        refine .command c hworks hserve fun hexec => ?_
        rw [hmem]
        exact hspares (hpc ▸ hexec)
      · show { m.st with mem := net.st.mem } = _
        rw [hmain]
        rfl
  | main io =>
    rw [SimProc.exec] at he
    split at he
    · cases he
    · obtain ⟨net, hnet, rfl⟩ := Option.map_eq_some_iff.1 he
      have hsame : SimRun.Socks { p.net with st := { p.net.st with mem := (p.main.step sim io).1.mem } } :=
        ⟨hsocks.rounds, hsocks.first_le, hsocks.came, hsocks.frames⟩
      obtain ⟨hsocks', hraw', hserved', hdata'⟩ := hsame.sends hnet
      refine ⟨hsocks', hraw'.trans hraw, m.exec sim (.step io), ?_, ?_, ?_⟩
      · rw [hserved']
        exact .main io hworks
      · show (m.st.step sim io).1 = ⟨(p.main.step sim io).1.pc, net.st.mem, (p.main.step sim io).1.statics⟩
        rw [SimRun.sends_mem hnet, hmain]
      · rw [hdata', hdata, ← hmain]
        exact List.filterMap_append.symm

theorem SimProc.Inv.run (h : p.Inv sim raw m₀) {events : List ProcEvent} (hrun : p.run sim events = some p')
    (hun : p.Undisturbed sim events) : p'.Inv sim raw m₀ := by
  induction events generalizing p with
  | nil =>
    cases hrun
    exact h
  | cons e events ih =>
    obtain ⟨p₁, he, hrun⟩ := Option.bind_eq_some_iff.1 hrun
    obtain ⟨hspares, hun⟩ := hun p₁ he
    exact ih (h.exec he hspares) hrun hun

end

/-- **The simulator.** In every run of its threads, from the start of the program on, where no command that is served
while an operation is executed changes what that reads, there is a run of the main loop in which what other threads
write are the commands that were served, so that

* the data packets are the packets of the operations of the main loop, one after the other (`feeSimRun`), and an operation
  reads the same from its beginning to its end;
* an operation is requested by a command, or was requested at the start, or repeats one;
* and every peer that is connected has been sent, of the replies as well as of the data packets, those that have passed
  it since it was accepted, whole and in their order. -/
theorem simProc_refines (sim : Mirror) {s : SimState} (hs : s.Fresh) {events : List ProcEvent} {p : SimProc}
    (hrun : SimProc.run sim { net := { st := s } } events = some p)
    (hun : SimProc.Undisturbed sim { net := { st := s } } events) :
    (∃ m, Works sim s.cfg.raw (MainRun.start s.mem {}) p.net.served m ∧ m.st = p.main ∧ p.net.data = m.sent ∧
      m.sent ++ p.pc.unsent = (feeSimRun sim {} m.ops).flatten ∧
      (p.pc.executing → ∃ op, m.ops.getLast? = some op ∧
        ∀ st, feeSimExecuteOp sim st { op with mem := p.net.st.mem } = feeSimExecuteOp sim st op) ∧
      m.ops.length ≤ p.net.served.length + requested sim s.mem + m.repeats) ∧
    ∀ fd ∈ p.net.st.cfg.set, ∀ who, p.net.gotFrom who fd = (p.net.due who fd).map (txBytes s.cfg.raw) := by
  have hinit : SimProc.Inv sim s.cfg.raw (MainRun.start s.mem {}) { net := { st := s } } :=
    ⟨(hs.inv sim).toSocks, rfl, _, .start, rfl, rfl⟩
  obtain ⟨hsocks, hraw, m, hworks, hmain, hdata⟩ := hinit.run hrun hun
  obtain ⟨mevents, hm, hmun⟩ := hworks.run
  have hraised := hworks.raised_le
  have hinv : m.Inv sim {} (requested sim s.mem) := hm ▸ (MainRun.Inv.start sim s.mem {}).run mevents
  have hstart : (MainRun.start s.mem {}).Finds sim := nofun
  have hfinds : m.Finds sim := hm ▸ hstart.run hmun
  have hcount := hinv.count
  have hreq := hinv.requests
  have hzero : (MainRun.start s.mem {}).raised = 0 := rfl
  refine ⟨⟨m, hworks, hmain, hdata, ?_, fun hexec => ?_, by omega⟩, fun fd hfd who => ?_⟩
  · rw [← hinv.sent, hmain]
    rfl
  · have hpc : m.st.pc = p.pc := congrArg MainState.pc hmain
    obtain ⟨op, hop, hsame⟩ := hfinds (hpc ▸ hexec)
    rw [hmain] at hsame
    exact ⟨op, hop, fun st => (feeSimExecuteOp_congr hsame st op).symm⟩
  · rw [← hraw, ← p.net.rounds_due]
    exact hsocks.rounds.got fd hfd who

/-! ## Runs without commands -/

def ProcEvent.isPoll : ProcEvent → Bool
  | .net e _ => e.isPoll
  | .main _ => false

section

variable {sim : Mirror} {p p' : SimProc}

/-- Without a command, the memory is that which the main loop has left. -/
theorem SimProc.exec_mem {e : ProcEvent} (he : p.exec sim e = some p') (hpoll : e.isPoll = false)
    (hexec : p.pc.executing) : p'.net.st.mem = p.net.st.mem := by
  cases e with
  | net e hsent =>
    obtain ⟨net, hnet, rfl⟩ := Option.map_eq_some_iff.1 he
    exact SimRun.exec_mem hnet hpoll
  | main io =>
    rw [SimProc.exec] at he
    split at he
    · cases he
    · obtain ⟨net, hnet, rfl⟩ := Option.map_eq_some_iff.1 he
      exact (SimRun.sends_mem hnet).trans (MainState.step_mem_of_executing hexec)

theorem SimProc.undisturbed_of_quiet {events : List ProcEvent} (h : ∀ e ∈ events, e.isPoll = false) :
    p.Undisturbed sim events := by
  induction events generalizing p with
  | nil => trivial
  | cons e events ih =>
    intro p' hp'
    refine ⟨fun hexec => ?_, ih fun e' he' => h e' (List.mem_cons_of_mem e he')⟩
    rw [SimProc.exec_mem hp' (h e List.mem_cons_self) hexec]
    exact .refl sim _

theorem SimProc.undisturbed_append {as bs : List ProcEvent} (h : p.Undisturbed sim as)
    (h' : ∀ p', p.run sim as = some p' → p'.Undisturbed sim bs) : p.Undisturbed sim (as ++ bs) := by
  induction as generalizing p with
  | nil => exact h' p rfl
  | cons e as ih =>
    intro p₁ hp₁
    obtain ⟨hspares, h⟩ := h p₁ hp₁
    exact ⟨hspares, ih h fun p' hp' => h' p' (Option.bind_eq_some_iff.2 ⟨p₁, hp₁, hp'⟩)⟩

end

/-- A peer requests an event simulation without nodes: it is sent the reply, the housekeeping and the end of the
frame. -/
theorem simProc_refines_evsim :
    let sim : Mirror := ⟨.little, 0, 0x800⟩
    let mem : Mem := fun x => if x = 0x12 then 0x3 else if x = 0x13 then 0xA else if x = 0x54 then 0xA else 0
    let s : SimState := { cfg := ⟨false, 0, ∅⟩, sock := fun _ => {}, mem := mem }
    let pkt := gresbSend (cmdBytes (fun _ => 0) {} 7 RMAP_WRITE_ADDR_INC_REPLY 0x64 4 (some [0, 0, 0, 1]))
    let main : ProcEvent := .main ⟨{ mem := fun _ => 0 }, 0⟩
    let turns (who : Sender) : List ProcEvent := List.replicate 6 (.net (.turn who) rfl)
    let before : List ProcEvent := [.net (.accept 4) rfl, .net (.arrive 4 pkt) rfl, main]
    let after : List ProcEvent := turns .poll ++ List.replicate 4 main ++ turns .main ++ [main] ++ turns .main ++
      [main, main]
    let events := before ++ .net (.poll 4 ⟨100, [100], fun _ => 0, fun _ => 0⟩) rfl :: after
    ∃ p, SimProc.run sim { net := { st := s } } events = some p ∧
      (p.net.st.sock 4).tx.map (fun x => (x.1, x.2.length)) = [(.poll, 13), (.main, 166), (.main, 68)] ∧
      p.net.gotFrom .main 4 = (p.net.due .main 4).map (txBytes false) ∧
      ∃ m : MainRun, p.net.data = m.sent ∧ m.sent ++ p.pc.unsent = (feeSimRun sim {} m.ops).flatten ∧
        m.ops.length ≤ 1 + m.repeats := by
  intro sim mem s pkt main turns before after events
  have hrun : (SimProc.run sim { net := { st := s } } events).map (fun p : SimProc =>
      decide ((p.net.st.sock 4).tx.map (fun x => (x.1, x.2.length)) = [(.poll, 13), (.main, 166), (.main, 68)] ∧
        4 ∈ p.net.st.cfg.set ∧ p.net.served.length + requested sim s.mem = 1)) = some true := by decide +kernel
  obtain ⟨p, hp, hvals⟩ := Option.map_eq_some_iff.1 hrun
  obtain ⟨htx, hfour, hone⟩ := of_decide_eq_true hvals
  -- the command is served while the main loop polls for a request
  have hpolls : (SimProc.run sim { net := { st := s } } before).map (fun p => p.pc.executing) = some false := by
    decide +kernel
  have hun : SimProc.Undisturbed sim { net := { st := s } } events := by
    refine SimProc.undisturbed_append (SimProc.undisturbed_of_quiet (by decide)) fun p₁ hp₁ p₂ hp₂ => ?_
    rw [hp₁, Option.map_some, Option.some.injEq] at hpolls
    exact ⟨fun hexec => absurd hexec (by simp [hpolls]), SimProc.undisturbed_of_quiet (by decide)⟩
  obtain ⟨⟨m, -, -, hdata, hsent, -, hops⟩, hall⟩ :=
    @simProc_refines sim s ⟨rfl, fun _ => rfl, fun _ => rfl⟩ events p hp hun
  exact ⟨p, hp, htx, hall 4 hfour .main, m, hdata, hsent, hone ▸ hops⟩

end SmileFee
