import Mathlib.Data.List.Basic
import Mathlib.Tactic.Ring

/-!
# `Lib.Memory` — byte-addressed memory, little-endian numbers and arrays

A memory gives a byte for every address. Numbers of `n` bytes are stored least significant byte first, and
arrays of such numbers one behind the other. What a load returns depends only on the bytes it covers,
wherever they are (`Same`), and a store changes only the bytes it covers (`Agree` elsewhere); all frame
conditions of the clients come from these two facts.
-/

namespace Memory

abbrev Mem := Nat → UInt8

/-! ## Little-endian numbers -/

/-- The `n` low bytes of `v`, the least significant first. -/
def bytes : Nat → Nat → List UInt8
  | 0, _     => []
  | n + 1, v => UInt8.ofNat v :: bytes n (v / 256)

/-- The number that the bytes represent. -/
def value : List UInt8 → Nat
  | []      => 0
  | b :: bs => b.toNat + 256 * value bs

@[simp] theorem length_bytes (n v : Nat) : (bytes n v).length = n := by
  induction n generalizing v with
  | zero => rfl
  | succ n ih => simp [bytes, ih]

/-- What is read back is the number modulo the capacity of its field. -/
theorem value_bytes (n v : Nat) : value (bytes n v) = v % 256 ^ n := by
  induction n generalizing v with
  | zero => simp [bytes, value, Nat.mod_one]
  | succ n ih =>
      rw [bytes, value, ih, pow_succ', Nat.mod_mul]
      rfl

theorem value_lt (bs : List UInt8) : value bs < 256 ^ bs.length := by
  induction bs with
  | nil => exact Nat.one_pos
  | cons b bs ih =>
      have hb := b.toNat_lt
      rw [value, List.length_cons, pow_succ]
      omega

/-! ## Reading and writing bytes -/

/-- The `n` bytes from address `a` on. -/
def read (m : Mem) (a : Nat) : Nat → List UInt8
  | 0     => []
  | n + 1 => m a :: read m (a + 1) n

/-- The memory after the bytes were written from address `a` on. -/
def write (m : Mem) (a : Nat) : List UInt8 → Mem
  | []      => m
  | b :: bs => fun x => if x = a then b else write m (a + 1) bs x

/-- The `n` bytes from `a` on are the `n` bytes from `a'` on in the other memory. -/
def Same (m : Mem) (a : Nat) (m' : Mem) (a' n : Nat) : Prop := ∀ i < n, m (a + i) = m' (a' + i)

/-- The two memories have the same `n` bytes from address `a` on. -/
def Agree (m m' : Mem) (a n : Nat) : Prop := ∀ x, a ≤ x → x < a + n → m x = m' x

@[simp] theorem length_read (m : Mem) (a n : Nat) : (read m a n).length = n := by
  induction n generalizing a with
  | zero => rfl
  | succ n ih => simp [read, ih]

/-- A read range splits at any place. -/
theorem read_append (m : Mem) (a n k : Nat) : read m a (n + k) = read m a n ++ read m (a + n) k := by
  induction n generalizing a with
  | zero => simp [read]
  | succ n ih => rw [Nat.succ_add, read, ih, read, List.cons_append, Nat.add_assoc, Nat.add_comm 1 n]

theorem mem_read {m : Mem} {a n : Nat} {b : UInt8} : b ∈ read m a n ↔ ∃ i < n, m (a + i) = b := by
  induction n generalizing a with
  | zero => simp [read]
  | succ n ih =>
      rw [read, List.mem_cons, ih]
      constructor
      · rintro (rfl | ⟨i, hi, rfl⟩)
        · exact ⟨0, by omega, rfl⟩
        · exact ⟨i + 1, by omega, by rw [show a + (i + 1) = a + 1 + i by omega]⟩
      · rintro ⟨i, hi, rfl⟩
        cases i with
        | zero => exact .inl rfl
        | succ i => exact .inr ⟨i, by omega, by rw [show a + 1 + i = a + (i + 1) by omega]⟩

theorem write_cons_self (m : Mem) (a : Nat) (b : UInt8) (bs : List UInt8) :
    write m a (b :: bs) a = b := if_pos rfl

theorem write_cons_of_ne (m : Mem) {a x : Nat} (b : UInt8) (bs : List UInt8) (h : x ≠ a) :
    write m a (b :: bs) x = write m (a + 1) bs x := if_neg h

/-- A write changes no byte outside of its range. -/
theorem write_outside (m : Mem) {a x : Nat} {bs : List UInt8} (h : x < a ∨ a + bs.length ≤ x) :
    write m a bs x = m x := by
  induction bs generalizing a with
  | nil => rfl
  | cons b bs ih =>
      rw [List.length_cons] at h
      rw [write_cons_of_ne m b bs (by omega)]
      exact ih (by omega)

/-- Ranges inside of the two ranges, at the same place in both. -/
theorem Same.mono {m m' : Mem} {a a' b b' n k : Nat} (h : Same m a m' a' n) (hlo : a ≤ b)
    (hhi : b + k ≤ a + n) (hshift : b + a' = b' + a) : Same m b m' b' k := by
  intro i hi
  have hx := h (b - a + i) (by omega)
  rw [show a + (b - a + i) = b + i by omega, show a' + (b - a + i) = b' + i by omega] at hx
  exact hx

theorem Same.read_eq {m m' : Mem} {a a' n : Nat} (h : Same m a m' a' n) : read m a n = read m' a' n := by
  induction n generalizing a a' with
  | zero => rfl
  | succ n ih =>
      have hhead : m a = m' a' := h 0 (Nat.succ_pos n)
      have htail : read m (a + 1) n = read m' (a' + 1) n := ih (h.mono (by omega) (by omega) (by omega))
      rw [read, read, hhead, htail]

/-- What reads the same is the same. -/
theorem same_of_read_eq {m m' : Mem} {a a' n : Nat} (h : read m a n = read m' a' n) : Same m a m' a' n := by
  induction n generalizing a a' with
  | zero => exact fun i hi => absurd hi (Nat.not_lt_zero i)
  | succ n ih =>
      obtain ⟨hhead, htail⟩ := List.cons.inj h
      intro i hi
      cases i with
      | zero => exact hhead
      | succ i =>
          have hi' := ih htail i (Nat.lt_of_succ_lt_succ hi)
          rw [show a + (i + 1) = a + 1 + i by omega, show a' + (i + 1) = a' + 1 + i by omega]
          exact hi'

theorem Agree.same {m m' : Mem} {a n : Nat} (h : Agree m m' a n) : Same m a m' a n :=
  fun i hi => h (a + i) (Nat.le_add_right a i) (by omega)

theorem Agree.refl (m : Mem) (a n : Nat) : Agree m m a n := fun _ _ _ => rfl

theorem Agree.symm {m m' : Mem} {a n : Nat} (h : Agree m m' a n) : Agree m' m a n :=
  fun x ha hn => (h x ha hn).symm

theorem Agree.trans {m m' m'' : Mem} {a n : Nat} (h : Agree m m' a n) (h' : Agree m' m'' a n) :
    Agree m m'' a n :=
  fun x ha hn => (h x ha hn).trans (h' x ha hn)

/-- A range inside of the range. -/
theorem Agree.mono {m m' : Mem} {a b n k : Nat} (h : Agree m m' a n) (hlo : a ≤ b) (hhi : b + k ≤ a + n) :
    Agree m m' b k :=
  fun x hb hk => h x (by omega) (by omega)

theorem Agree.read_eq {m m' : Mem} {a n : Nat} (h : Agree m m' a n) : read m a n = read m' a n :=
  h.same.read_eq

theorem agree_write (m : Mem) {a b n : Nat} {bs : List UInt8} (h : b + n ≤ a ∨ a + bs.length ≤ b) :
    Agree (write m a bs) m b n :=
  fun _ hb hn => write_outside m (by omega)

theorem read_write (m : Mem) (a : Nat) (bs : List UInt8) : read (write m a bs) a bs.length = bs := by
  induction bs generalizing a with
  | nil => rfl
  | cons b bs ih =>
      have htail : Agree (write m a (b :: bs)) (write m (a + 1) bs) (a + 1) bs.length := by
        intro x hx _
        exact write_cons_of_ne m b bs (by omega)
      rw [List.length_cons, read, htail.read_eq, ih, write_cons_self]

/-- A copy has the bytes of its source. -/
theorem same_copy (m m' : Mem) (a a' n : Nat) : Same m a (write m' a' (read m a n)) a' n := by
  have h := read_write m' a' (read m a n)
  rw [length_read] at h
  exact same_of_read_eq h.symm

/-! ## Loads and stores of numbers -/

/-- The number in the `n` bytes at address `a`. -/
def load (n : Nat) (m : Mem) (a : Nat) : Nat := value (read m a n)

/-- The memory after `v` was stored in the `n` bytes at address `a`. -/
def store (n : Nat) (m : Mem) (a v : Nat) : Mem := write m a (bytes n v)

theorem load_lt (n : Nat) (m : Mem) (a : Nat) : load n m a < 256 ^ n := by
  have h := value_lt (read m a n)
  rwa [length_read] at h

theorem Same.load_eq {m m' : Mem} {a a' n : Nat} (h : Same m a m' a' n) : load n m a = load n m' a' := by
  rw [load, load, h.read_eq]

theorem Agree.load_eq {m m' : Mem} {a n : Nat} (h : Agree m m' a n) : load n m a = load n m' a :=
  h.same.load_eq

theorem load_store (n : Nat) (m : Mem) (a v : Nat) : load n (store n m a v) a = v % 256 ^ n := by
  have h := read_write m a (bytes n v)
  rw [length_bytes] at h
  rw [load, store, h, value_bytes]

/-- A store changes no byte outside of its field. -/
theorem store_outside (n : Nat) (m : Mem) (v : Nat) {a x : Nat} (h : x < a ∨ a + n ≤ x) :
    store n m a v x = m x :=
  write_outside m (by rwa [length_bytes])

theorem agree_store (n : Nat) (m : Mem) (v : Nat) {a b k : Nat} (h : b + k ≤ a ∨ a + n ≤ b) :
    Agree (store n m a v) m b k :=
  agree_write m (by rwa [length_bytes])

/-- A load does not see a store to other bytes. -/
theorem load_store_disjoint (n k : Nat) (m : Mem) (v : Nat) {a b : Nat} (h : b + k ≤ a ∨ a + n ≤ b) :
    load k (store n m a v) b = load k m b :=
  (agree_store n m v h).load_eq

/-! ## Arrays -/

/-- The `k` numbers of `n` bytes each from address `a` on. -/
def loadArray (n : Nat) (m : Mem) (a : Nat) : Nat → List Nat
  | 0     => []
  | k + 1 => load n m a :: loadArray n m (a + n) k

/-- The memory after the numbers were stored from address `a` on. -/
def storeArray (n : Nat) (m : Mem) (a : Nat) : List Nat → Mem
  | []      => m
  | v :: vs => store n (storeArray n m (a + n) vs) a v

@[simp] theorem length_loadArray (n : Nat) (m : Mem) (a k : Nat) : (loadArray n m a k).length = k := by
  induction k generalizing a with
  | zero => rfl
  | succ k ih => simp [loadArray, ih]

theorem Same.loadArray_eq {m m' : Mem} {n a a' k : Nat} (h : Same m a m' a' (n * k)) :
    loadArray n m a k = loadArray n m' a' k := by
  induction k generalizing a a' with
  | zero => rfl
  | succ k ih =>
      rw [Nat.mul_succ] at h
      have hhead : load n m a = load n m' a' := (h.mono (Nat.le_refl a) (by omega) (by omega)).load_eq
      have htail : loadArray n m (a + n) k = loadArray n m' (a' + n) k :=
        ih (h.mono (by omega) (by omega) (by omega))
      rw [loadArray, loadArray, hhead, htail]

theorem Agree.loadArray_eq {m m' : Mem} {n a k : Nat} (h : Agree m m' a (n * k)) :
    loadArray n m a k = loadArray n m' a k :=
  h.same.loadArray_eq

theorem storeArray_outside (n : Nat) (m : Mem) {a x : Nat} {vs : List Nat}
    (h : x < a ∨ a + n * vs.length ≤ x) : storeArray n m a vs x = m x := by
  induction vs generalizing a with
  | nil => rfl
  | cons v vs ih =>
      rw [List.length_cons, Nat.mul_succ] at h
      rw [storeArray, store_outside n _ v (by omega)]
      exact ih (by omega)

theorem agree_storeArray (n : Nat) (m : Mem) {a b k : Nat} {vs : List Nat}
    (h : b + k ≤ a ∨ a + n * vs.length ≤ b) : Agree (storeArray n m a vs) m b k :=
  fun _ hb hk => storeArray_outside n m (by omega)

theorem load_storeArray_disjoint (n k : Nat) (m : Mem) {a b : Nat} {vs : List Nat}
    (h : b + k ≤ a ∨ a + n * vs.length ≤ b) : load k (storeArray n m a vs) b = load k m b :=
  (agree_storeArray n m h).load_eq

theorem loadArray_store_disjoint (n i : Nat) (m : Mem) (v : Nat) {a b k : Nat}
    (h : b + n * k ≤ a ∨ a + i ≤ b) : loadArray n (store i m a v) b k = loadArray n m b k :=
  (agree_store i m v h).loadArray_eq

theorem loadArray_storeArray (n : Nat) (m : Mem) (a : Nat) (vs : List Nat) :
    loadArray n (storeArray n m a vs) a vs.length = vs.map (· % 256 ^ n) := by
  induction vs generalizing a with
  | nil => rfl
  | cons v vs ih =>
      have htail := loadArray_store_disjoint n n (storeArray n m (a + n) vs) v (a := a) (b := a + n)
        (k := vs.length) (Or.inr (Nat.le_refl _))
      rw [List.length_cons, storeArray, loadArray, load_store, htail, ih, List.map_cons]

/-- A loaded array splits at any place. -/
theorem loadArray_append (n : Nat) (m : Mem) (a j k : Nat) :
    loadArray n m a (j + k) = loadArray n m a j ++ loadArray n m (a + n * j) k := by
  induction j generalizing a with
  | zero => simp [loadArray]
  | succ j ih =>
      rw [Nat.succ_add, loadArray, ih, loadArray, List.cons_append, Nat.mul_succ]
      congr 3
      ring

end Memory
