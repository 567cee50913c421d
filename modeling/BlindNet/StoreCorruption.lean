import BlindNet.TableStores
import BlindNet.Lib.Checksum

/-!
# Corrupted blobs

Both stores put the FNV-1a hash of everything in front of it at the end of the blob. The
ranges that the ribosome store hashes one by one leave no gap, and the RNA store hashes one
range up to the checksum, so a blob that is accepted is sealed as a whole, padding included,
and no longer accepted after one byte of it has changed.
-/

namespace BlindNet

set_option autoImplicit false

open ByteLayout Checksum

def blobDigest (body : Bytes) : Bytes :=
  Layout.u32.encode (fnv1a32Update 2166136261 body)

theorem fnv1a_tells :
    Tells fun (hash : UInt32) (byte : UInt8) => (hash ^^^ byte.toUInt32) * 16777619 :=
  @xor_mul_tells 16777619 899433627 (by decide)

theorem fnv1a_update_append (hash : UInt32) (first second : Bytes) :
    fnv1a32Update (fnv1a32Update hash first) second = fnv1a32Update hash (first ++ second) :=
  (List.foldl_append ..).symm

theorem u32_encode_injective {first second : UInt32}
    (same : Layout.u32.encode first = Layout.u32.encode second) : first = second := by
  rw [← Layout.u32.decode_encode first, same, Layout.u32.decode_encode]

theorem blob_digest_one_apart {first second : Bytes} (apart : OneApart first second) :
    blobDigest first ≠ blobDigest second := by
  intro same
  exact fnv1a_tells.fold_one_apart apart 2166136261 (u32_encode_injective same)

/-- The four ranges of `blob_checksum` are the blob up to its checksum. -/
theorem ribosome_blob_bytes (blob : RibosomeStoreBlob) :
    (RibosomeStoreBlob.layout.encode blob).drop 1448 = Layout.u32.encode blob.checksum ∧
      blob.blobChecksum =
        fnv1a32Update 2166136261 ((RibosomeStoreBlob.layout.encode blob).take 1448) := by
  let body := Layout.u32.encode blob.magic ++ Layout.u16.encode blob.version ++
    Layout.u16.encode blob.entryCount ++
    (RibosomeTableEntry.paddedLayout.array ribosomeMaxEntries).encode blob.entries
  have image : RibosomeStoreBlob.layout.encode blob =
      body ++ Layout.u32.encode blob.checksum := by
    change Layout.u32.encode blob.magic ++ (Layout.u16.encode blob.version ++
      (Layout.u16.encode blob.entryCount ++
        ((RibosomeTableEntry.paddedLayout.array ribosomeMaxEntries).encode blob.entries ++
          Layout.u32.encode blob.checksum))) = _
    simp only [body, List.append_assoc]
  have size : body.length = 1448 := by
    simp only [body, List.length_append, Layout.encode_length]
    decide
  rw [image, List.drop_left' size, List.take_left' size]
  constructor
  · rfl
  · unfold RibosomeStoreBlob.blobChecksum
    simp only [fnv1a_update_append, body]

theorem rna_blob_bytes (blob : RnaStoreBlob) :
    (RnaStoreBlob.layout.encode blob).drop 1416 = Layout.u32.encode blob.checksum ∧
      blob.blobChecksum =
        fnv1a32Update 2166136261 ((RnaStoreBlob.layout.encode blob).take 1416) := by
  let body := RnaStoreBlob.bodyLayout.encode
    (blob.magic, blob.version, blob.templateCount, blob.templates)
  have image : RnaStoreBlob.layout.encode blob = body ++ Layout.u32.encode blob.checksum := rfl
  have size : body.length = 1416 := RnaStoreBlob.bodyLayout.encode_length _
  rw [image, List.drop_left' size, List.take_left' size]
  exact ⟨rfl, rfl⟩

theorem ribosome_accepted_sealed {image : Bytes} {outTable : RibosomeTable}
    (sized : image.length = 1452)
    (accepted : (ribosomeBlobToTable (RibosomeStoreBlob.layout.decode image) outTable).1 = .ok ()) :
    Sealed 1448 blobDigest image := by
  rcases ribosome_blob_bytes (RibosomeStoreBlob.layout.decode image) with ⟨stored, computed⟩
  rw [RibosomeStoreBlob.layout.encode_decode image sized] at stored computed
  unfold ribosomeBlobToTable at accepted
  split_ifs at accepted with header mismatch
  unfold Sealed blobDigest
  rw [stored, ← computed, not_not.mp mismatch]

theorem rna_accepted_sealed {image : Bytes} {outTable : RnaTemplateTable}
    (sized : image.length = 1420)
    (accepted : (rnaBlobToTable (RnaStoreBlob.layout.decode image) outTable).1 = .ok ()) :
    Sealed 1416 blobDigest image := by
  rcases rna_blob_bytes (RnaStoreBlob.layout.decode image) with ⟨stored, computed⟩
  rw [RnaStoreBlob.layout.encode_decode image sized] at stored computed
  unfold rnaBlobToTable at accepted
  split_ifs at accepted with header mismatch
  unfold Sealed blobDigest
  rw [stored, ← computed, not_not.mp mismatch]

theorem set_one_apart {size : Nat} (image : ByteArr size) (index : Fin size) {byte : UInt8}
    (differs : byte ≠ image.get index) : OneApart image.toList (image.set index byte).toList := by
  rw [List.Vector.toList_set]
  apply one_apart_set
  rw [List.Vector.get_eq_get_toList] at differs
  exact differs

/-- Whatever is accepted is refused with any byte replaced by another one. -/
def DetectsOneByte {Table : Type} (size : Nat)
    (blobToTable : Bytes → Table → Result Unit × Table) : Prop :=
  ∀ (image : ByteArr size) (index : Fin size) (byte : UInt8) (outTable other : Table),
    byte ≠ image.get index → (blobToTable image.toList outTable).1 = .ok () →
    ∃ err, (blobToTable (image.set index byte).toList other).1 = .error err

theorem detects_of_sealed {Table : Type} {size cut : Nat}
    {blobToTable : Bytes → Table → Result Unit × Table}
    (sealedOnly : ∀ {image : Bytes} {outTable : Table}, image.length = size →
      (blobToTable image outTable).1 = .ok () → Sealed cut blobDigest image) :
    DetectsOneByte size blobToTable := by
  intro image index byte outTable other differs accepted
  have whole := sealedOnly image.toList_length accepted
  have broken := whole.broken blob_digest_one_apart (set_one_apart image index differs)
  cases outcome : (blobToTable (image.set index byte).toList other).1 with
  | error err => exact ⟨err, rfl⟩
  | ok _ => exact absurd (sealedOnly (image.set index byte).toList_length outcome) broken

/-- Both stores refuse every blob that is one byte away from one they accept. -/
theorem one_changed_byte_is_detected :
    DetectsOneByte 1452
        (fun image => ribosomeBlobToTable (RibosomeStoreBlob.layout.decode image)) ∧
      DetectsOneByte 1420 (fun image => rnaBlobToTable (RnaStoreBlob.layout.decode image)) := by
  constructor
  · exact detects_of_sealed ribosome_accepted_sealed
  · exact detects_of_sealed rna_accepted_sealed

def RibosomeTable.memory (table : RibosomeTable) : ByteArr 1452 :=
  ⟨table.image, RibosomeStoreBlob.layout.encode_length _⟩

def RnaTemplateTable.memory (table : RnaTemplateTable) : ByteArr 1420 :=
  ⟨table.image, RnaStoreBlob.layout.encode_length _⟩

theorem add_one_ne (byte : UInt8) : byte + 1 ≠ byte := by
  simp

def oneLamp : RibosomeTable :=
  (ribosomeTableAddFromConfig ribosomeTableInit
    ⟨CString.utf8 "lamp01" ++ [0], 1, 1, List.Vector.replicate 32 7⟩).2

theorem padding_and_magic_are_covered :
    (oneLamp.count = 1 ∧ ∃ err, (ribosomeBlobToTable (RibosomeStoreBlob.layout.decode
        (oneLamp.memory.set 41 (oneLamp.memory.get 41 + 1)).toList)
          ribosomeTableInit).1 = .error err) ∧
      ∃ table, rnaMembraneLoadDefaults = .ok table ∧
        ∃ err, (rnaBlobToTable (RnaStoreBlob.layout.decode
          (table.memory.set 0 (table.memory.get 0 + 1)).toList)
            rnaTemplateTableInit).1 = .error err := by
  refine ⟨⟨by decide +kernel, ?_⟩, ?_⟩
  · apply one_changed_byte_is_detected.1 oneLamp.memory 41 _ ribosomeTableInit
    · apply add_one_ne
    · have clean : oneLamp.Clean :=
        ribosome_table_add_from_config_clean ribosome_table_init_clean _
      have accepted := ribosome_blob_to_table_clean clean ribosomeTableInit
      rw [← RibosomeStoreBlob.layout.decode_encode oneLamp.blob] at accepted
      exact congrArg Prod.fst accepted
  · have counts : rnaMembraneLoadDefaults.toOption.map RnaTemplateTable.count = some 7 := by
      decide +kernel
    cases loaded : rnaMembraneLoadDefaults with
    | error err =>
        rw [loaded] at counts
        cases counts
    | ok table =>
        rw [loaded] at counts
        have seven : table.count = 7 := Option.some.inj counts
        have accepted := rna_blob_to_table_clean (rna_membrane_load_defaults_clean loaded)
          (by omega) rnaTemplateTableInit
        rw [← RnaStoreBlob.layout.decode_encode table.blob] at accepted
        refine ⟨table, rfl, ?_⟩
        apply one_changed_byte_is_detected.2 table.memory 0 _ rnaTemplateTableInit
        · apply add_one_ne
        · exact congrArg Prod.fst accepted

end BlindNet
