import Cfix.Kernel.EventLayout
import Cfix.Lib.LinkedList

/-!
# `Jpht.Hashtable` — the hashtable (`jpht/hashtable.c`)

The entries belong to the caller and contain the links of the bucket they are in. A bucket is the head of a
list, and the buckets are an allocated array. The walks along a list take the number of steps they may make;
`Fault.outOfFuel` says that they were too many.
-/

namespace Cfix.Jpht

open LinkedList
open Cfix.Events (Width)

abbrev ULONG := BitVec 32

/-! ## Data -/

/-- The address of a `LIST_ENTRY`: a bucket in an allocated block, or the links of an entry. -/
inductive Link (ε : Type) where
  | bucket (block index : Nat)
  | entry (e : ε)
  deriving DecidableEq, Repr

/-- Why a call does not return. -/
inductive Fault where
  /-- An access to memory that is not the table's. -/
  | wildAccess
  | outOfFuel
  deriving DecidableEq, Repr

/-- The routines that the user supplies, and `Entry->Key`. -/
structure Routines (ε κ : Type) where
  hash   : κ → ULONG
  equals : κ → κ → Bool
  key    : ε → κ

/-- `JPHT_HASHTABLE`, with the links of all buckets and entries. `buckets` is the block that `Buckets` points
    to, and `capacity` the number of buckets that fit in it. -/
structure Hashtable (ε : Type) where
  entryCount  : ULONG
  bucketCount : ULONG
  buckets     : Nat
  capacity    : Nat
  links       : Links (Link ε)
  /-- The next block that `Allocate` returns. -/
  nextBlock   : Nat

/-- `sizeof( JPHT_HASHTABLE_BUCKET )`. -/
def sizeofBucket (w : Width) : Nat := 2 * w.bytes

/-- The product of a bucket count and the size of a bucket, which is computed in a `SIZE_T`. -/
def sizeRequired (w : Width) (bucketCount : ULONG) : Nat := bucketCount.toNat * sizeofBucket w % 2 ^ w.bits

variable {ε κ : Type}

/-- `&Hashtable->Data.Buckets[ Index ]`, to be accessed. -/
def bucketAt (buckets capacity index : Nat) : Except Fault (Link ε) :=
  if index < capacity then .ok (.bucket buckets index) else .error .wildAccess

/-- The bucket that a hash selects. -/
def Hashtable.bucketIndex (t : Hashtable ε) (hash : ULONG) : Nat := hash.toNat % t.bucketCount.toNat

variable [DecidableEq ε]

/-! ## Creation -/

/-- The loop that initializes the list heads, up to the index. -/
def initializeListHeads : Nat → Hashtable ε → Except Fault (Hashtable ε)
  | 0,         t => .ok t
  | index + 1, t => do
    let t ← initializeListHeads index t
    let listHead ← bucketAt t.buckets t.capacity index
    .ok { t with links := t.links.initializeListHead listHead }

/-- `JphtInitializeHashtable`: `none` says that it returned `FALSE`. `memory` says whether `Allocate`
    succeeds; `links` and `block` are the memory before the call. -/
def initializeHashtable (w : Width) (initialBucketCount : ULONG) (memory : Bool) (links : Links (Link ε))
    (block : Nat) : Except Fault (Option (Hashtable ε)) :=
  let size := sizeRequired w initialBucketCount
  if 2 ^ w.bits - 1 < size then .ok none
  else if !memory then .ok none
  else do
    let t ← initializeListHeads initialBucketCount.toNat
      { entryCount := 0#32, bucketCount := initialBucketCount, buckets := block,
        capacity := size / sizeofBucket w, links := links, nextBlock := block + 1 }
    .ok (some t)

/-! ## Entries -/

variable (r : Routines ε κ)

/-- The loop of `JphtPutEntryHashtable`, from `listEntry` on. -/
def putLoop (listHead : Link ε) (entry : ε) : Nat → Link ε → Hashtable ε → Option ε →
    Except Fault (Hashtable ε × Option ε)
  | 0,        _,         _, _        => .error .outOfFuel
  | fuel + 1, listEntry, t, oldEntry =>
    if listEntry = listHead then .ok (t, oldEntry)
    else
      match listEntry with
      | .bucket _ _            => .error .wildAccess
      | .entry existingEntry =>
        if r.equals (r.key entry) (r.key existingEntry) then
          let t := { t with
            links      := t.links.removeEntryList listEntry
            entryCount := t.entryCount - 1#32 }
          -- the walk goes on from the removed entry
          putLoop listHead entry fuel (t.links.flink listEntry) t (some existingEntry)
        else putLoop listHead entry fuel (t.links.flink listEntry) t oldEntry

/-- `JphtPutEntryHashtable`, with `*OldEntry`. -/
def putEntryHashtable (fuel : Nat) (entry : ε) (t : Hashtable ε) : Except Fault (Hashtable ε × Option ε) := do
  let listHead ← bucketAt t.buckets t.capacity (t.bucketIndex (r.hash (r.key entry)))
  let (t, oldEntry) ← putLoop r listHead entry fuel (t.links.flink listHead) t none
  .ok ({ t with
    links      := t.links.insertHeadList listHead (.entry entry)
    entryCount := t.entryCount + 1#32 }, oldEntry)

/-- The loop of `JphtGetEntryHashtable`. -/
def getLoop (links : Links (Link ε)) (listHead : Link ε) (key : κ) : Nat → Link ε → Except Fault (Option ε)
  | 0,        _         => .error .outOfFuel
  | fuel + 1, listEntry =>
    if listEntry = listHead then .ok none
    else
      match listEntry with
      | .bucket _ _  => .error .wildAccess
      | .entry entry =>
        if r.equals (r.key entry) key then .ok (some entry)
        else getLoop links listHead key fuel (links.flink listEntry)

/-- `JphtGetEntryHashtable`. -/
def getEntryHashtable (fuel : Nat) (key : κ) (t : Hashtable ε) : Except Fault (Option ε) := do
  let listHead ← bucketAt t.buckets t.capacity (t.bucketIndex (r.hash key))
  getLoop r t.links listHead key fuel (t.links.flink listHead)

/-- The loop of `JphtRemoveEntryHashtable`. -/
def removeLoop (listHead : Link ε) (key : κ) : Nat → Link ε → Hashtable ε →
    Except Fault (Hashtable ε × Option ε)
  | 0,        _,         _ => .error .outOfFuel
  | fuel + 1, listEntry, t =>
    if listEntry = listHead then .ok (t, none)
    else
      match listEntry with
      | .bucket _ _  => .error .wildAccess
      | .entry entry =>
        if r.equals (r.key entry) key then
          .ok ({ t with
            links      := t.links.removeEntryList listEntry
            entryCount := t.entryCount - 1#32 }, some entry)
        else removeLoop listHead key fuel (t.links.flink listEntry) t

/-- `JphtRemoveEntryHashtable`, with `*OldEntry`. -/
def removeEntryHashtable (fuel : Nat) (key : κ) (t : Hashtable ε) : Except Fault (Hashtable ε × Option ε) := do
  let listHead ← bucketAt t.buckets t.capacity (t.bucketIndex (r.hash key))
  removeLoop r listHead key fuel (t.links.flink listHead) t

/-! ## Resizing -/

/-- The inner loop of `JphtResize`, over the entries of an old bucket. The next entry is read before the
    links of this one change. -/
def resizeBucket (fuel : Nat) (listHead : Link ε) : Nat → Link ε → Hashtable ε → Except Fault (Hashtable ε)
  | 0,         _,         _ => .error .outOfFuel
  | steps + 1, listEntry, t =>
    if listEntry = listHead then .ok t
    else
      match listEntry with
      | .bucket _ _  => .error .wildAccess
      | .entry entry => do
        let nextEntry := t.links.flink listEntry
        let (t, _) ← putEntryHashtable r fuel entry t
        resizeBucket fuel listHead steps nextEntry t

/-- The outer loop of `JphtResize`, over the old buckets up to the index. -/
def resizeBuckets (fuel oldBuckets oldCapacity : Nat) : Nat → Hashtable ε → Except Fault (Hashtable ε)
  | 0,         t => .ok t
  | index + 1, t => do
    let t ← resizeBuckets fuel oldBuckets oldCapacity index t
    let listHead ← bucketAt oldBuckets oldCapacity index
    resizeBucket r fuel listHead fuel (t.links.flink listHead) t

/-- `JphtResize`. -/
def resize (w : Width) (fuel : Nat) (newBucketCount : ULONG) (memory : Bool) (t : Hashtable ε) :
    Except Fault (Hashtable ε × Bool) :=
  let size := sizeRequired w newBucketCount
  if 2 ^ w.bits - 1 < size then .ok (t, false)
  else if !memory then .ok (t, false)
  else do
    let t' ← initializeListHeads newBucketCount.toNat
      { t with
        bucketCount := newBucketCount
        buckets     := t.nextBlock
        capacity    := size / sizeofBucket w
        entryCount  := 0#32
        nextBlock   := t.nextBlock + 1 }
    let t' ← resizeBuckets r fuel t.buckets t.capacity t.bucketCount.toNat t'
    .ok (t', true)

/-! ## Calls -/

inductive Operation (ε κ : Type) where
  | put (entry : ε)
  | get (key : κ)
  | remove (key : κ)
  | resize (newBucketCount : ULONG) (memory : Bool)
  deriving DecidableEq, Repr

/-- What a call gives its caller. -/
inductive Result (ε : Type) where
  | entry (e : Option ε)
  | resized (success : Bool)
  deriving DecidableEq, Repr

def call (w : Width) (fuel : Nat) (t : Hashtable ε) : Operation ε κ → Except Fault (Hashtable ε × Result ε)
  | .put entry                    => (putEntryHashtable r fuel entry t).map fun p => (p.1, .entry p.2)
  | .get key                      => (getEntryHashtable r fuel key t).map fun e => (t, .entry e)
  | .remove key                   => (removeEntryHashtable r fuel key t).map fun p => (p.1, .entry p.2)
  | .resize newBucketCount memory => (resize r w fuel newBucketCount memory t).map fun p => (p.1, .resized p.2)

/-- A call on the table, with the results so far. -/
def next (w : Width) (fuel : Nat) (s : Hashtable ε × List (Result ε)) (op : Operation ε κ) :
    Option (Hashtable ε × List (Result ε)) :=
  match call r w fuel s.1 op with
  | .ok (t, result) => some (t, s.2 ++ [result])
  | .error _        => none

end Cfix.Jpht
