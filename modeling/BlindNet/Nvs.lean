import BlindNet.Platform

/-!
# Non-volatile storage

One key of an NVS namespace: nothing, or the bytes of a blob. A read answers what
is stored, or an error of the driver; a write is committed, or fails before or
after its bytes became visible. A store keeps one table under one key; both
stores load and save their blobs in the same steps.
-/

namespace BlindNet

set_option autoImplicit false

open ByteLayout

def espErrNvsNotFound : EspErr := .other 0x1102
def espErrNvsInvalidLength : EspErr := .other 0x110C

/-- A read error of the driver that is not `ESP_ERR_NVS_NOT_FOUND`, which only an
absent key gives. -/
structure NvsFault where
  err : EspErr
  present : err ≠ espErrNvsNotFound

def nvsGetBlob (fault : Option NvsFault) (stored : Option Bytes) (size : Nat) : Result Bytes :=
  match fault with
  | some fault => .error fault.err
  | none =>
      match stored with
      | none => .error espErrNvsNotFound
      | some image => if size < image.length then .error espErrNvsInvalidLength else .ok image

/-- How `nvs_open`, `nvs_set_blob` and `nvs_commit` end for one blob. After a failed
commit the new bytes may or may not be what later reads see. -/
inductive NvsWrite where
  | committed
  | failed (err : EspErr) (visible : Bool)

def nvsSetBlob (write : NvsWrite) (stored : Option Bytes) (image : Bytes) :
    Result Unit × Option Bytes :=
  match write with
  | .committed => (.ok (), some image)
  | .failed err visible => (.error err, if visible then some image else stored)

/-- `fnv1a32_update`, and `fnv1a_update` of the RNA store. -/
def fnv1a32Update (hash : UInt32) (data : Bytes) : UInt32 :=
  data.foldl (fun hash byte => (hash ^^^ byte.toUInt32) * 16777619) hash

section Store

variable {Table : Type} (size : Nat) (blank : Table)
  (blobToTable : Bytes → Table → Result Unit × Table) (fallback : Result Table)

/-- The load of a store: the output is cleared first, and a blob of the wrong size
is not looked at. -/
def storeLoad (fault : Option NvsFault) (stored : Option Bytes) : Result Unit × Table :=
  match nvsGetBlob fault stored size with
  | .error err => (.error err, blank)
  | .ok image =>
      if image.length ≠ size then (.error .invalidSize, blank) else blobToTable image blank

/-- The load that falls back to another table when nothing is stored. -/
def storeLoadOrInit (fault : Option NvsFault) (stored : Option Bytes) : Result Table :=
  match storeLoad size blank blobToTable fault stored with
  | (.ok (), table) => .ok table
  | (.error err, _) => if err ≠ espErrNvsNotFound then .error err else fallback

def storeSave (image : Result Bytes) (write : NvsWrite) (stored : Option Bytes) :
    Result Unit × Option Bytes :=
  match image with
  | .error err => (.error err, stored)
  | .ok image => nvsSetBlob write stored image

variable {size blank blobToTable fallback}

theorem store_load_or_init_cases {fault : Option NvsFault} {stored : Option Bytes} {table : Table}
    (loaded : storeLoadOrInit size blank blobToTable fallback fault stored = .ok table) :
    (∃ image, blobToTable image blank = (.ok (), table)) ∨ fallback = .ok table := by
  unfold storeLoadOrInit at loaded
  cases answer : storeLoad size blank blobToTable fault stored with
  | mk result outTable =>
      rw [answer] at loaded
      cases result with
      | error err =>
          rw [guard_ok] at loaded
          exact Or.inr loaded.2
      | ok _ =>
          cases loaded
          unfold storeLoad at answer
          split at answer
          · cases answer
          · rename_i image read
            split_ifs at answer
            · cases answer
            · exact Or.inl ⟨image, answer⟩

theorem store_load_or_init_unfaulted {fault : Option NvsFault} {stored : Option Bytes}
    {table : Table}
    (loaded : storeLoadOrInit size blank blobToTable fallback fault stored = .ok table) :
    storeLoadOrInit size blank blobToTable fallback none stored = .ok table := by
  cases fault with
  | none => exact loaded
  | some fault =>
      simp only [storeLoadOrInit, storeLoad, nvsGetBlob] at loaded
      rw [if_pos fault.present] at loaded
      cases loaded

theorem store_load_or_init_missing :
    storeLoadOrInit size blank blobToTable fallback none none = fallback := by
  simp only [storeLoadOrInit, storeLoad, nvsGetBlob, ne_eq, not_true, if_false]

theorem store_load_or_init_image {image : Bytes} {table : Table} (sized : image.length = size)
    (decoded : blobToTable image blank = (.ok (), table)) :
    storeLoadOrInit size blank blobToTable fallback none (some image) = .ok table := by
  have read : nvsGetBlob none (some image) size = .ok image := by
    simp only [nvsGetBlob, sized, lt_irrefl, if_false]
  have loaded : storeLoad size blank blobToTable none (some image) = (.ok (), table) := by
    rw [storeLoad, read]
    simp only
    rw [if_neg (not_not.mpr sized), decoded]
  rw [storeLoadOrInit, loaded]

/-- A save stores its image or nothing; it reports success only for the image. -/
theorem store_save_cases (image : Bytes) (write : NvsWrite) (stored : Option Bytes) :
    (storeSave (.ok image) write stored).2 = some image ∨
      ((storeSave (.ok image) write stored).2 = stored ∧
        (storeSave (.ok image) write stored).1 ≠ .ok ()) := by
  cases write with
  | committed => exact Or.inl rfl
  | failed err visible =>
      cases visible with
      | true => exact Or.inl rfl
      | false => exact Or.inr ⟨rfl, by simp [storeSave, nvsSetBlob]⟩

end Store

end BlindNet
