import Cfix.Jpht.Resize

/-!
# `Jpht.BucketSize` — the size of the bucket array (`jpht/hashtable.c`)

`JphtInitializeHashtable` and `JphtResize` multiply the number of buckets by the size of one, and then compare the product
with the largest `SIZE_T`; the former keeps it in an `__int64`, the latter in a `SIZE_T`. The product itself is computed
in a `SIZE_T` by both, so neither comparison finds one that has wrapped.
-/

namespace Cfix.Jpht

open LinkedList
open Cfix.Events (Width)

/-! ## Machine arithmetic -/

/-- `SIZE_T`, which is `size_t`. -/
abbrev SIZE_T (w : Width) := BitVec w.bits

/-- The product of a `ULONG` and `sizeof( JPHT_HASHTABLE_BUCKET )`. -/
def bucketBytes (w : Width) (bucketCount : ULONG) : SIZE_T w :=
  bucketCount.setWidth w.bits * BitVec.ofNat w.bits (sizeofBucket w)

/-- `( SIZE_T ) -1`. -/
def maxSizeT (w : Width) : SIZE_T w := BitVec.allOnes w.bits

/-- `SizeRequired > ( SIZE_T ) -1` with an `__int64` on the left: the operands are compared as signed numbers, unless the
    `SIZE_T` has 64 bits as well. -/
def exceedsSizeT : Width → BitVec 64 → Bool
  | .w32, sizeRequired => ((maxSizeT .w32).setWidth 64).slt sizeRequired
  | .w64, sizeRequired => ((maxSizeT .w64).setWidth 64).ult sizeRequired

section Arithmetic

variable (w : Width) (n : ULONG)

theorem toNat_bucketBytes : (bucketBytes w n).toNat = sizeRequired w n := by
  rw [bucketBytes, BitVec.toNat_mul, BitVec.toNat_setWidth, BitVec.toNat_ofNat, ← Nat.mul_mod, sizeRequired]

theorem bits_le_64 : w.bits ≤ 64 := by
  have hbytes := w.bytes_pos
  rw [Width.bits]
  omega

/-- The `__int64` has room for a `SIZE_T`. -/
theorem toNat_setWidth_bucketBytes : ((bucketBytes w n).setWidth 64).toNat = sizeRequired w n := by
  have hlt : sizeRequired w n < 2 ^ w.bits := Nat.mod_lt _ (Nat.two_pow_pos _)
  have hle : 2 ^ w.bits ≤ 2 ^ 64 := Nat.pow_le_pow_right (by omega) (bits_le_64 w)
  rw [BitVec.toNat_setWidth, toNat_bucketBytes, Nat.mod_eq_of_lt (Nat.lt_of_lt_of_le hlt hle)]

/-- **The comparison of the `__int64`** never finds that the product is too large. -/
theorem exceedsSizeT_bucketBytes : exceedsSizeT w ((bucketBytes w n).setWidth 64) = false := by
  have hvalue := toNat_setWidth_bucketBytes w n
  have hlt : sizeRequired w n < 2 ^ w.bits := Nat.mod_lt _ (Nat.two_pow_pos _)
  cases w with
  | w32 =>
      have hsmall : ((bucketBytes .w32 n).setWidth 64).toNat < 2 ^ 32 := by
        rw [hvalue]
        exact hlt
      have hsigned : ((bucketBytes .w32 n).setWidth 64).toInt = (((bucketBytes .w32 n).setWidth 64).toNat : Int) :=
        BitVec.toInt_eq_toNat_of_lt (by omega)
      have hmax : ((maxSizeT .w32).setWidth 64).toInt = 2 ^ 32 - 1 := by decide
      rw [exceedsSizeT, BitVec.slt, hmax, hsigned]
      apply decide_eq_false
      omega
  | w64 =>
      have hmax : ((maxSizeT .w64).setWidth 64).toNat = 2 ^ 64 - 1 := by decide
      rw [exceedsSizeT, BitVec.ult, hmax]
      apply decide_eq_false
      omega

/-- **The comparison of the `SIZE_T`** does not either. -/
theorem ult_bucketBytes : (maxSizeT w).ult (bucketBytes w n) = false := by
  rw [BitVec.ult, maxSizeT, BitVec.toNat_allOnes, toNat_bucketBytes]
  exact decide_eq_false (not_overflow w n)

/-- `( SIZE_T ) SizeRequired`. -/
theorem setWidth_setWidth_bucketBytes : ((bucketBytes w n).setWidth 64).setWidth w.bits = bucketBytes w n := by
  apply BitVec.eq_of_toNat_eq
  rw [BitVec.toNat_setWidth, toNat_setWidth_bucketBytes, toNat_bucketBytes]
  exact Nat.mod_eq_of_lt (Nat.mod_lt _ (Nat.two_pow_pos _))

end Arithmetic

/-! ## Allocation -/

/-- What a function has asked `Allocate` for, and its table with the list heads initialised; `none` says that it has
    returned `FALSE`. -/
structure Allocation (ε : Type) where
  requested : Option Nat
  table     : Except Fault (Option (Hashtable ε))

variable {ε κ : Type} [DecidableEq ε]

/-- `Allocate` is called, and the loop initialises the list heads of the table in the new block. -/
def allocateBuckets (size : Nat) (memory : Bool) (t : Hashtable ε) : Allocation ε where
  requested := some size
  table     :=
    if !memory then .ok none
    else do
      let t ← initializeListHeads t.bucketCount.toNat t
      .ok (some t)

/-- `JphtInitializeHashtable`: `SizeRequired` is an `__int64`. -/
def initializeBuckets (w : Width) (initialBucketCount : ULONG) (memory : Bool) (links : Links (Link ε)) (block : Nat) :
    Allocation ε :=
  let sizeRequired : BitVec 64 := (bucketBytes w initialBucketCount).setWidth 64
  if exceedsSizeT w sizeRequired then ⟨none, .ok none⟩
  else
    let size : SIZE_T w := sizeRequired.setWidth w.bits
    allocateBuckets size.toNat memory
      { entryCount := 0#32, bucketCount := initialBucketCount, buckets := block,
        capacity := size.toNat / sizeofBucket w, links := links, nextBlock := block + 1 }

/-- `JphtResize` up to the loop that copies the entries: `SizeRequired` is a `SIZE_T`. -/
def resizeAllocation (w : Width) (newBucketCount : ULONG) (memory : Bool) (t : Hashtable ε) : Allocation ε :=
  let sizeRequired : SIZE_T w := bucketBytes w newBucketCount
  if (maxSizeT w).ult sizeRequired then ⟨none, .ok none⟩
  else
    allocateBuckets sizeRequired.toNat memory
      { t with
        bucketCount := newBucketCount
        buckets     := t.nextBlock
        capacity    := sizeRequired.toNat / sizeofBucket w
        entryCount  := 0#32
        nextBlock   := t.nextBlock + 1 }

/-- The rest of `JphtResize`: the entries of `t` are copied to the table that was allocated. -/
def copyEntries (r : Routines ε κ) (fuel : Nat) (t : Hashtable ε) :
    Option (Hashtable ε) → Except Fault (Hashtable ε × Bool)
  | none    => .ok (t, false)
  | some t' => do
    let t' ← resizeBuckets r fuel t.buckets t.capacity t.bucketCount.toNat t'
    .ok (t', true)

section Functions

variable (w : Width) (n : ULONG) (memory : Bool)

theorem initializeBuckets_eq (links : Links (Link ε)) (block : Nat) :
    initializeBuckets w n memory links block = allocateBuckets (sizeRequired w n) memory
      { entryCount := 0#32, bucketCount := n, buckets := block, capacity := sizeRequired w n / sizeofBucket w,
        links := links, nextBlock := block + 1 } := by
  simp only [initializeBuckets, exceedsSizeT_bucketBytes, Bool.false_eq_true, if_false, setWidth_setWidth_bucketBytes,
    toNat_bucketBytes]

theorem resizeAllocation_eq (t : Hashtable ε) :
    resizeAllocation w n memory t = allocateBuckets (sizeRequired w n) memory
      { t with
        bucketCount := n
        buckets     := t.nextBlock
        capacity    := sizeRequired w n / sizeofBucket w
        entryCount  := 0#32
        nextBlock   := t.nextBlock + 1 } := by
  simp only [resizeAllocation, ult_bucketBytes, Bool.false_eq_true, if_false, toNat_bucketBytes]

/-- **The table is the one of `initializeHashtable`**, whose size is a number. -/
theorem initializeBuckets_table (links : Links (Link ε)) (block : Nat) :
    (initializeBuckets w n memory links block).table = initializeHashtable w n memory links block := by
  rw [initializeBuckets_eq, allocateBuckets, initializeHashtable]
  simp only [not_overflow, if_false]

/-- **`resize` copies the entries** to the table that was allocated. -/
theorem resize_eq_copyEntries (r : Routines ε κ) (fuel : Nat) (t : Hashtable ε) :
    resize r w fuel n memory t = (resizeAllocation w n memory t).table >>= copyEntries r fuel t := by
  rw [resizeAllocation_eq, allocateBuckets, resize]
  simp only [not_overflow, if_false]
  cases memory with
  | false => rfl
  | true  =>
      simp only [Bool.not_true, Bool.false_eq_true, if_false, bind_assoc]
      rfl

end Functions

/-! ## Room for the buckets -/

/-- The function has returned `FALSE`, or it has asked for the bytes of all buckets and initialised their list heads,
    all of which are in the block. -/
def Allocation.HasRoom (w : Width) (n : ULONG) (a : Allocation ε) : Prop :=
  a.table = .ok none ∨
    ∃ size t, a.requested = some size ∧ n.toNat * sizeofBucket w ≤ size ∧ a.table = .ok (some t) ∧
      ∀ i < n.toNat, Linked t.links (.bucket t.buckets i) []

section Room

variable {w : Width} {n : ULONG} {memory : Bool}

/-- A product that has wrapped is smaller than the product. -/
theorem le_sizeRequired_iff : n.toNat * sizeofBucket w ≤ sizeRequired w n ↔ n.toNat * sizeofBucket w < 2 ^ w.bits := by
  constructor
  · intro hle
    exact Nat.lt_of_le_of_lt hle (Nat.mod_lt _ (Nat.two_pow_pos _))
  · intro hlt
    exact Nat.le_of_eq (sizeRequired_of_lt hlt).symm

theorem allocateBuckets_hasRoom_iff {t : Hashtable ε} (hcount : t.bucketCount = n)
    (hcapacity : t.capacity = sizeRequired w n / sizeofBucket w) :
    (allocateBuckets (sizeRequired w n) memory t).HasRoom w n ↔
      (memory = true → n.toNat * sizeofBucket w < 2 ^ w.bits) := by
  cases memory with
  | false =>
      apply iff_of_true
      · exact .inl rfl
      · exact fun h => absurd h Bool.false_ne_true
  | true =>
      constructor
      · rintro (hfalse | ⟨size, t', hsize, hle, -⟩) -
        · rw [allocateBuckets] at hfalse
          simp only [Bool.not_true, Bool.false_eq_true, if_false] at hfalse
          cases hrun : initializeListHeads t.bucketCount.toNat t with
          | error fault =>
              rw [hrun] at hfalse
              cases hfalse
          | ok t' =>
              rw [hrun] at hfalse
              cases hfalse
        · cases hsize
          exact le_sizeRequired_iff.mp hle
      · intro h
        have hfit := h rfl
        have hroom : t.bucketCount.toNat ≤ t.capacity := by
          rw [hcapacity, hcount, capacity_of_lt hfit]
        obtain ⟨links, hrun, hlinked, -⟩ := initializeListHeads_spec t hroom
        refine .inr ⟨_, t.changed links t.entryCount, rfl, le_sizeRequired_iff.mpr hfit, ?_, ?_⟩
        · rw [allocateBuckets]
          simp only [Bool.not_true, Bool.false_eq_true, if_false, hrun, ok_bind]
        · intro i hi
          rw [← hcount] at hi
          exact hlinked i hi

/-- **Both have room exactly if the product does not wrap**, unless there is no memory. -/
theorem hasRoom_iff (w : Width) (n : ULONG) (memory : Bool) (links : Links (Link ε)) (block : Nat) (t : Hashtable ε) :
    ((initializeBuckets w n memory links block).HasRoom w n ↔ (memory = true → n.toNat * sizeofBucket w < 2 ^ w.bits)) ∧
      ((resizeAllocation w n memory t).HasRoom w n ↔ (memory = true → n.toNat * sizeofBucket w < 2 ^ w.bits)) := by
  rw [initializeBuckets_eq, resizeAllocation_eq]
  exact ⟨allocateBuckets_hasRoom_iff rfl rfl, allocateBuckets_hasRoom_iff rfl rfl⟩

/-- On 32 bits, 2^29 buckets take no byte. -/
theorem not_hasRoom_w32 :
    ¬ ∀ (w : Width) (n : ULONG) (memory : Bool) (links : Links (Link Nat)) (block : Nat) (t : Hashtable Nat),
      (initializeBuckets w n memory links block).HasRoom w n ∧ (resizeAllocation w n memory t).HasRoom w n := by
  intro hall
  have hinit := (hall .w32 0x20000000#32 true ⟨id, id⟩ 0 ⟨0#32, 1#32, 0, 1, ⟨id, id⟩, 1⟩).1
  rw [initializeBuckets_eq] at hinit
  have hfit := (allocateBuckets_hasRoom_iff rfl rfl).mp hinit rfl
  exact absurd hfit (by decide)

/-- On 64 bits no product wraps. -/
theorem product_lt_w64 (n : ULONG) : n.toNat * sizeofBucket .w64 < 2 ^ Width.w64.bits := by
  have hlt := n.isLt
  show n.toNat * 16 < 2 ^ 64
  omega

/-- **On 64 bits both always have room.** -/
theorem hasRoom_w64 (n : ULONG) (memory : Bool) (links : Links (Link ε)) (block : Nat) (t : Hashtable ε) :
    (initializeBuckets .w64 n memory links block).HasRoom .w64 n ∧ (resizeAllocation .w64 n memory t).HasRoom .w64 n := by
  rw [initializeBuckets_eq, resizeAllocation_eq]
  refine ⟨(allocateBuckets_hasRoom_iff rfl rfl).mpr ?_, (allocateBuckets_hasRoom_iff rfl rfl).mpr ?_⟩
  · exact fun _ => product_lt_w64 n
  · exact fun _ => product_lt_w64 n

end Room

end Cfix.Jpht
