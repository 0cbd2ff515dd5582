import Mathlib.Data.List.GetD
import SmileFee.Lib.Word

/-!
# Flat byte memory

An address space is a total function from addresses to bytes. `read` and `write` are the two
directions of `memcpy`; everything a proof needs about them is the byte a write leaves at an
address, and how writes compose with reads of the same or of another range.
-/

/-- A byte for every address. -/
abbrev Mem := Nat → U8

namespace Mem

/-- The `n` bytes from `a` on. -/
def read (m : Mem) (a n : Nat) : List U8 := (List.range n).map fun i => m (a + i)

/-- `memcpy(a, bs, |bs|)`. -/
def write (m : Mem) (a : Nat) (bs : List U8) : Mem := fun x =>
  if a ≤ x ∧ x < a + bs.length then bs.getD (x - a) 0 else m x

@[simp] theorem length_read (m : Mem) (a n : Nat) : (m.read a n).length = n := by simp [read]

@[simp] theorem getElem_read (m : Mem) (a n i : Nat) (h : i < (m.read a n).length) :
    (m.read a n)[i] = m (a + i) := by simp [read]

@[simp] theorem read_zero (m : Mem) (a : Nat) : m.read a 0 = [] := rfl

theorem read_succ (m : Mem) (a n : Nat) : m.read a (n + 1) = m a :: m.read (a + 1) n := by
  simp only [read, List.range_succ_eq_map, List.map_cons, List.map_map, Nat.add_zero]
  congr 1
  exact List.map_congr_left fun i _ => by simp only [Function.comp]; congr 1; omega

theorem read_add (m : Mem) (a n k : Nat) : m.read a (n + k) = m.read a n ++ m.read (a + n) k := by
  simp only [read, List.range_add, List.map_append, List.map_map]
  congr 1
  exact List.map_congr_left fun i _ => by simp only [Function.comp]; congr 1; omega

theorem read_congr {m m' : Mem} {a n : Nat} (h : ∀ x, a ≤ x → x < a + n → m x = m' x) :
    m.read a n = m'.read a n :=
  List.map_congr_left fun i hi => h _ (by omega) (by have := List.mem_range.1 hi; omega)

/-- Equal ranges agree byte by byte. -/
theorem eq_of_read_eq {m m' : Mem} {a n x : Nat} (h : m.read a n = m'.read a n) (h1 : a ≤ x)
    (h2 : x < a + n) : m x = m' x := by
  have hx : (m.read a n)[x - a]? = (m'.read a n)[x - a]? := by rw [h]
  have hlt : x - a < n := by omega
  simpa [read, hlt, show a + (x - a) = x by omega] using hx

/-! ## What a write leaves -/

@[simp] theorem write_nil (m : Mem) (a : Nat) : m.write a [] = m := by
  funext x; simp only [write, List.length_nil, Nat.add_zero]; rw [if_neg (by omega)]

theorem write_inside (m : Mem) (a : Nat) (bs : List U8) (i : Nat) (h : i < bs.length) :
    m.write a bs (a + i) = bs[i] := by
  simp [write, h]

theorem write_outside (m : Mem) (a : Nat) (bs : List U8) (x : Nat)
    (h : x < a ∨ a + bs.length ≤ x) : m.write a bs x = m x := by
  simp only [write]; rw [if_neg (by omega)]

@[simp] theorem read_write_same (m : Mem) (a : Nat) (bs : List U8) :
    (m.write a bs).read a bs.length = bs := by
  apply List.ext_getElem (by simp)
  intro i h1 h2
  rw [getElem_read, write_inside m a bs i h2]

theorem read_write_same' (m : Mem) (a n : Nat) (bs : List U8) (h : n = bs.length) :
    (m.write a bs).read a n = bs := by subst h; exact read_write_same m a bs

/-- Reading the beginning of what was written. -/
theorem read_write_take (m : Mem) (a n : Nat) (bs : List U8) (h : n ≤ bs.length) :
    (m.write a bs).read a n = bs.take n := by
  apply List.ext_getElem (by simp [h])
  intro i h1 h2
  have hi : i < bs.length := by simp at h1; omega
  rw [getElem_read, write_inside m a bs i hi, List.getElem_take]

theorem read_write_disjoint (m : Mem) (a b n : Nat) (bs : List U8)
    (h : b + n ≤ a ∨ a + bs.length ≤ b) : (m.write a bs).read b n = m.read b n :=
  read_congr fun x h1 h2 => write_outside m a bs x (by omega)

/-- Two adjacent writes are one. -/
theorem write_write_append (m : Mem) (a : Nat) (bs cs : List U8) :
    (m.write a bs).write (a + bs.length) cs = m.write a (bs ++ cs) := by
  funext x
  simp only [write, List.length_append]
  by_cases h1 : a ≤ x ∧ x < a + bs.length
  · rw [if_neg (by omega), if_pos h1, if_pos (by omega), List.getD_append _ _ _ _ (by omega)]
  · by_cases h2 : a + bs.length ≤ x ∧ x < a + bs.length + cs.length
    · rw [if_pos h2, if_pos (by omega), List.getD_append_right _ _ _ _ (by omega)]
      congr 1; omega
    · rw [if_neg h2, if_neg h1, if_neg (by omega)]

/-- A write over a write of the same range. -/
theorem write_write_same (m : Mem) (a : Nat) (bs cs : List U8) (h : bs.length = cs.length) :
    (m.write a bs).write a cs = m.write a cs := by
  funext x
  simp only [write, h]
  split <;> rfl

/-- Writes to ranges that do not overlap change places. -/
theorem write_comm (m : Mem) {a b : Nat} (bs cs : List U8) (h : a + bs.length ≤ b ∨ b + cs.length ≤ a) :
    (m.write b cs).write a bs = (m.write a bs).write b cs := by
  funext x
  simp only [write]
  by_cases h1 : a ≤ x ∧ x < a + bs.length
  · rw [if_pos h1, if_neg (by omega), if_pos h1]
  · rw [if_neg h1, if_neg h1]

/-! ## Writes one after the other -/

/-- The byte that the last of the writes over `x` puts there. -/
def lastWrite : List (Nat × List U8) → Nat → Option U8
  | [], _ => none
  | (a, bs) :: ws, x => (lastWrite ws x).or (if a ≤ x ∧ x < a + bs.length then bs[x - a]? else none)

/-- **The last write wins.** -/
theorem foldl_write (ws : List (Nat × List U8)) (m : Mem) (x : Nat) :
    ws.foldl (fun m w => m.write w.1 w.2) m x = (lastWrite ws x).getD (m x) := by
  induction ws generalizing m with
  | nil => rfl
  | cons w ws ih =>
    obtain ⟨a, bs⟩ := w
    rw [List.foldl_cons, ih, lastWrite]
    cases lastWrite ws x with
    | some b => rfl
    | none =>
      simp only [Option.getD_none, Option.none_or, write, List.getD_eq_getElem?_getD]
      split
      · rename_i h
        rw [List.getElem?_eq_getElem (by omega)]
        rfl
      · rfl

/-! ## The extent of a write -/

/-- Every byte below `n` gets a value of its own, and no other byte one. -/
def Assigns (f : Mem → Mem) (n : Nat) : Prop :=
  (∀ i < n, ∀ m m', f m i = f m' i) ∧ ∀ i, n ≤ i → ∀ m, f m i = m i

theorem assigns_write (bs : List U8) : Assigns (fun m => m.write 0 bs) bs.length := by
  refine ⟨fun i hi m m' => ?_, fun i hi m => write_outside m 0 bs i (by omega)⟩
  have h (m : Mem) : m.write 0 bs i = bs[i] := by simpa using write_inside m 0 bs i hi
  exact (h m).trans (h m').symm

/-- The extent is a single one. -/
theorem Assigns.unique {f : Mem → Mem} {n n' : Nat} (h : Assigns f n) (h' : Assigns f n') : n = n' := by
  have key {k k' : Nat} (hk : Assigns f k) (hk' : Assigns f k') : ¬ k < k' := fun hlt => by
    -- the byte at `k` would have to be both left alone and given a value
    have h0 := hk.2 k le_rfl fun _ => 0
    have h1 := hk.2 k le_rfl fun _ => 1
    have := hk'.1 k hlt (fun _ => 0) (fun _ => 1)
    rw [h0, h1] at this
    cases this
  have h1 := key h h'
  have h2 := key h' h
  omega

theorem assigns_write_iff (bs : List U8) (n : Nat) : Assigns (fun m => m.write 0 bs) n ↔ n = bs.length := by
  constructor
  · intro h
    exact h.unique (assigns_write bs)
  · rintro rfl
    exact assigns_write bs

/-! ## Words in memory -/

open Word

/-- The bytes of a half-word in the order of the host. -/
def bytes16 : Host → U16 → List U8
  | .little, v => [u8 v, u8 (v >>> 8)]
  | .big, v => [u8 (v >>> 8), u8 v]

@[simp] theorem length_bytes16 (h : Host) (v : U16) : (bytes16 h v).length = 2 := by cases h <;> rfl

/-- `*(uint16_t *) a`. -/
def load16 (h : Host) (m : Mem) (a : Nat) : U16 :=
  match h with
  | .little => join16 (m (a + 1)) (m a)
  | .big => join16 (m a) (m (a + 1))

/-- A half-word swapped for transfer is in memory most significant byte first. -/
theorem bytes16_be16ToCpu (h : Host) (v : U16) : bytes16 h (be16ToCpu h v) = [u8 (v >>> 8), u8 v] := by
  cases h
  · rw [be16ToCpu, ← join16_split v, swab16_join16]
    simp [bytes16]
  · rfl

theorem be16ToCpu_load16 (h : Host) (m : Mem) (a : Nat) : be16ToCpu h (load16 h m a) = join16 (m a) (m (a + 1)) := by
  cases h
  · exact swab16_join16 _ _
  · rfl

/-- An array of half-words as it lies in the memory of a host. -/
def ofHalfwords (h : Host) (f : Nat → U16) : Mem := fun x => (bytes16 h (f (x / 2))).getD (x % 2) 0

/-- Copied bytes are the same half-words for a host of the same byte order. -/
theorem load16_of_read_eq {h : Host} {m : Mem} {f : Nat → U16} {a n i : Nat}
    (hr : m.read a (2 * n) = (ofHalfwords h f).read 0 (2 * n)) (hi : i < n) : load16 h m (a + 2 * i) = f i := by
  have hb (x : Nat) (hx : x < 2 * n) : m (a + x) = ofHalfwords h f x := by
    have hx' : (m.read a (2 * n))[x]? = ((ofHalfwords h f).read 0 (2 * n))[x]? := by rw [hr]
    simpa [read, hx] using hx'
  have h0 := hb (2 * i) (by omega)
  have h1 := hb (2 * i + 1) (by omega)
  have hdiv : (2 * i + 1) / 2 = i := by omega
  simp only [ofHalfwords, Nat.mul_div_cancel_left _ two_pos, Nat.mul_mod_right] at h0
  simp only [ofHalfwords, hdiv, Nat.mul_add_mod, ← Nat.add_assoc] at h1
  cases h <;> simp only [load16, h0, h1] <;> exact join16_split (f i)

/-- Half-words one after the other are found at their places. -/
theorem load16_of_read_flatMap {m : Mem} {a : Nat} {h : Host} {l : List U16}
    (hr : m.read a (2 * l.length) = l.flatMap (bytes16 h)) (i : Nat) (hi : i < l.length) :
    load16 h m (a + 2 * i) = l[i] := by
  induction l generalizing a i with
  | nil => exact absurd hi (Nat.not_lt_zero i)
  | cons v l ih =>
    rw [List.length_cons, Nat.mul_add, Nat.add_comm, read_add, List.flatMap_cons] at hr
    obtain ⟨hv, hl⟩ := List.append_inj hr (by simp)
    cases i with
    | zero =>
      simp only [Nat.mul_one, read_succ, read_zero] at hv
      cases h <;> simp only [bytes16, List.cons.injEq, and_true] at hv <;> simp [load16, hv, join16_split]
    | succ i =>
      rw [show a + 2 * (i + 1) = a + 2 * 1 + 2 * i by omega]
      exact ih hl i (Nat.lt_of_succ_lt_succ hi)

/-- The bytes of a word in the order of the host. -/
def bytes32 : Host → U32 → List U8
  | .little, v => [u8 v, u8 (v >>> 8), u8 (v >>> 16), u8 (v >>> 24)]
  | .big, v => [u8 (v >>> 24), u8 (v >>> 16), u8 (v >>> 8), u8 v]

@[simp] theorem length_bytes32 (h : Host) (v : U32) : (bytes32 h v).length = 4 := by cases h <;> rfl

/-- An array of words as it lies in the memory of a host. -/
def ofWords (h : Host) (f : Nat → U32) : Mem := fun x => (bytes32 h (f (x / 4))).getD (x % 4) 0

theorem read_ofWords (h : Host) (f : Nat → U32) (i : Nat) : (ofWords h f).read (4 * i) 4 = bytes32 h (f i) := by
  have hdiv : (4 * i + 1) / 4 = i ∧ (4 * i + 2) / 4 = i ∧ (4 * i + 3) / 4 = i := by omega
  cases h <;> simp [read_succ, ofWords, bytes32, Nat.add_assoc, hdiv]

/-- `*(uint32_t *) a = v`. -/
def store32 (h : Host) (m : Mem) (a : Nat) (v : U32) : Mem := m.write a (bytes32 h v)

/-- `*(uint32_t *) a`. -/
def load32 (h : Host) (m : Mem) (a : Nat) : U32 :=
  match h with
  | .little => join32 (m (a + 3)) (m (a + 2)) (m (a + 1)) (m a)
  | .big => join32 (m a) (m (a + 1)) (m (a + 2)) (m (a + 3))

/-- The word whose most significant byte comes first in memory. -/
def loadBe32 (m : Mem) (a : Nat) : U32 := join32 (m a) (m (a + 1)) (m (a + 2)) (m (a + 3))

/-- **The byte order cancels out**: swapping what was loaded gives the big-endian word on either host. -/
theorem be32ToCpu_load32 (h : Host) (m : Mem) (a : Nat) : be32ToCpu h (load32 h m a) = loadBe32 m a := by
  cases h
  · exact swab32_join32 _ _ _ _
  · rfl

/-- … and storing a swapped word writes its big-endian bytes. -/
theorem store32_be32ToCpu (h : Host) (m : Mem) (a : Nat) (v : U32) :
    store32 h m a (be32ToCpu h v) = m.write a (bytes32 .big v) := by
  cases h
  · have hv : swab32 v = join32 (u8 v) (u8 (v >>> 8)) (u8 (v >>> 16)) (u8 (v >>> 24)) := by
      rw [← swab32_join32, join32_split]
    obtain ⟨h3, h2, h1, h0⟩ := u8_join32 (u8 v) (u8 (v >>> 8)) (u8 (v >>> 16)) (u8 (v >>> 24))
    simp only [store32, bytes32, be32ToCpu, hv, h3, h2, h1, h0]
  · rfl

theorem store32_store32 (h : Host) (m : Mem) (a : Nat) (v w : U32) :
    store32 h (store32 h m a v) a w = store32 h m a w :=
  write_write_same m a _ _ (by simp)

@[simp] theorem loadBe32_write (m : Mem) (a : Nat) (v : U32) : loadBe32 (m.write a (bytes32 .big v)) a = v := by
  have hb (i : Nat) (hi : i < 4) : m.write a (bytes32 .big v) (a + i) = (bytes32 .big v).get ⟨i, by simpa using hi⟩ :=
    write_inside m a _ i (by simpa using hi)
  have h0 := hb 0 (by omega)
  rw [Nat.add_zero] at h0
  rw [loadBe32, h0, hb 1 (by omega), hb 2 (by omega), hb 3 (by omega)]
  exact join32_split v

/-- Writing the word that is there changes nothing. -/
theorem write_loadBe32 (m : Mem) (a : Nat) : m.write a (bytes32 .big (loadBe32 m a)) = m := by
  obtain ⟨h3, h2, h1, h0⟩ := u8_join32 (m a) (m (a + 1)) (m (a + 2)) (m (a + 3))
  have hread : bytes32 .big (loadBe32 m a) = m.read a 4 := by
    simp only [bytes32, loadBe32, h3, h2, h1, h0]
    rfl
  funext x
  by_cases hx : a ≤ x ∧ x < a + 4
  · have hw := read_write_same m a (m.read a 4)
    rw [length_read] at hw
    rw [hread]
    exact eq_of_read_eq hw hx.1 hx.2
  · exact write_outside m a _ x (by rw [length_bytes32]; omega)

/-- Copying the four bytes of a word copies the word. -/
theorem loadBe32_write_read (m m' : Mem) (a b : Nat) : loadBe32 (m.write a (m'.read b 4)) a = loadBe32 m' b := by
  have hb (i : Nat) (hi : i < 4) : m.write a (m'.read b 4) (a + i) = m' (b + i) := by
    rw [write_inside m a _ i (by simpa using hi), getElem_read]
  have h0 := hb 0 (by omega)
  rw [Nat.add_zero, Nat.add_zero] at h0
  rw [loadBe32, h0, hb 1 (by omega), hb 2 (by omega), hb 3 (by omega), loadBe32]

theorem loadBe32_write_disjoint (m : Mem) {a b : Nat} (bs : List U8) (h : b + 4 ≤ a ∨ a + bs.length ≤ b) :
    loadBe32 (m.write a bs) b = loadBe32 m b := by
  have hb (i : Nat) (hi : i < 4) : m.write a bs (b + i) = m (b + i) := write_outside m a bs _ (by omega)
  have h0 := hb 0 (by omega)
  rw [Nat.add_zero] at h0
  rw [loadBe32, h0, hb 1 (by omega), hb 2 (by omega), hb 3 (by omega), loadBe32]

@[simp] theorem load32_store32 (h : Host) (m : Mem) (a : Nat) (v : U32) : load32 h (store32 h m a v) a = v := by
  have hs := store32_be32ToCpu h m a (be32ToCpu h v)
  have hl := be32ToCpu_load32 h (store32 h m a v) a
  rw [be32ToCpu_be32ToCpu] at hs
  rw [hs, loadBe32_write] at hl
  rw [hs, ← be32ToCpu_be32ToCpu h (load32 h _ a), hl, be32ToCpu_be32ToCpu]

end Mem
