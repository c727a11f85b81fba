import ArtForgeStudio.Library.BigEndian
import ArtForgeStudio.Library.Outcome

/-! # Stored file identities

A file is known by what its system says of it. The index stores that as bytes, with a tag for the
system.
-/

namespace ArtForgeStudio.FileIndex

open ArtForgeStudio.BigEndian ArtForgeStudio.Outcome

inductive StableFileIdentity where
  | unix (device inode : UInt64)
  | windows (volume : UInt64) (fileId : Vector UInt8 16)
  | macOs (volumeUuid : Vector UInt8 16) (inode : UInt64)
  deriving DecidableEq

/-- `u64::to_be_bytes` -/
def toBeBytes (n : UInt64) : List UInt8 := toBytes 8 n.toNat

/-- Why bytes are not read: an index past their end, or the refusal of the decoder. -/
inductive DecodeFailure where
  | outOfRange
  | error (message : String)

/-- `bytes[start..stop]` -/
def slice (bytes : List UInt8) (start stop : Nat) : Except DecodeFailure (List UInt8) :=
  if start ≤ stop ∧ stop ≤ bytes.length then .ok ((bytes.drop start).take (stop - start))
  else .error .outOfRange

/-- `bytes.try_into()` -/
def tryInto (width : Nat) (bytes : List UInt8) : Except DecodeFailure (Vector UInt8 width) :=
  if h : bytes.length = width then .ok ⟨bytes.toArray, by simpa using h⟩
  else .error (.error "could not convert slice to array")

/-- `u64::from_be_bytes` -/
def fromBeBytes (bytes : Vector UInt8 8) : UInt64 := UInt64.ofNat (ofBytes bytes.toList)

namespace StableFileIdentity

def toStorageBytes : StableFileIdentity → List UInt8
  | unix device inode => [1] ++ toBeBytes device ++ toBeBytes inode
  | windows volume fileId => [2] ++ toBeBytes volume ++ fileId.toList
  | macOs volumeUuid inode => [3] ++ volumeUuid.toList ++ toBeBytes inode

def fromStorageBytes (bytes : List UInt8) : Except DecodeFailure StableFileIdentity :=
  if bytes.head? = some 1 ∧ bytes.length = 17 then do
    let device ← slice bytes 1 9 >>= tryInto 8
    let inode ← slice bytes 9 17 >>= tryInto 8
    pure (unix (fromBeBytes device) (fromBeBytes inode))
  else if bytes.head? = some 2 ∧ bytes.length = 25 then do
    let volume ← slice bytes 1 9 >>= tryInto 8
    let fileId ← slice bytes 9 25 >>= tryInto 16
    pure (windows (fromBeBytes volume) fileId)
  else if bytes.head? = some 3 ∧ bytes.length = 25 then do
    let volumeUuid ← slice bytes 1 17 >>= tryInto 16
    let inode ← slice bytes 17 25 >>= tryInto 8
    pure (macOs volumeUuid (fromBeBytes inode))
  else .error (.error "invalid tagged file identity encoding")

end StableFileIdentity

/-- The `CHECK` of `physical_identity` in the third schema. -/
def checkPhysicalIdentity (bytes : List UInt8) : Bool :=
  (bytes.length = 17 && bytes.take 1 = [1]) ||
    (bytes.length = 25 && (bytes.take 1 = [2] || bytes.take 1 = [3]))

section Laws

variable {bytes : List UInt8} {identity : StableFileIdentity}

@[simp] theorem length_toBeBytes (n : UInt64) : (toBeBytes n).length = 8 := length_toBytes 8 n.toNat

theorem toBeBytes_fromBeBytes (field : Vector UInt8 8) :
    toBeBytes (fromBeBytes field) = field.toList := by
  have hlength : field.toList.length = 8 := by simp
  have hbound : ofBytes field.toList < UInt64.size := by
    have hlt := ofBytes_lt field.toList
    rw [hlength] at hlt
    exact hlt
  have hbytes := toBytes_ofBytes field.toList
  rw [hlength] at hbytes
  rw [toBeBytes, fromBeBytes, UInt64.toNat_ofNat_of_lt' hbound, hbytes]

/-- The bytes of a number as a field of a row. -/
def field (n : UInt64) : Vector UInt8 8 := ⟨(toBeBytes n).toArray, by simp⟩

@[simp] theorem toList_field (n : UInt64) : (field n).toList = toBeBytes n := by simp [field]

@[simp] theorem fromBeBytes_field (n : UInt64) : fromBeBytes (field n) = n := by
  have hbound : n.toNat < 256 ^ 8 := n.toNat_lt
  rw [fromBeBytes, toList_field, toBeBytes, ofBytes_toBytes hbound]
  exact UInt64.ofNat_toNat

/-- A field is read from the place it was put at. -/
theorem slice_tryInto {width start stop : Nat} (before after : List UInt8)
    (field : Vector UInt8 width) (hstart : before.length = start) (hstop : start + width = stop) :
    (slice (before ++ field.toList ++ after) start stop >>= tryInto width) = .ok field := by
  subst hstart hstop
  have hbounds : before.length ≤ before.length + width ∧
      before.length + width ≤ (before ++ field.toList ++ after).length := by simp
  have hslice : slice (before ++ field.toList ++ after) before.length (before.length + width) =
      .ok field.toList := by
    rw [slice, if_pos hbounds, List.append_assoc, List.drop_left, Nat.add_sub_cancel_left]
    rw [List.take_append_of_le_length (by simp), List.take_of_length_le (by simp)]
  have hlength : field.toList.length = width := by simp
  rw [hslice]
  change tryInto width field.toList = .ok field
  rw [tryInto, dif_pos hlength]
  exact congrArg Except.ok (Vector.toList_inj.mp (by simp))

theorem fromStorageBytes_unix (device inode : Vector UInt8 8) :
    StableFileIdentity.fromStorageBytes ([1] ++ device.toList ++ inode.toList) =
      .ok (.unix (fromBeBytes device) (fromBeBytes inode)) := by
  have hdevice := slice_tryInto [1] inode.toList device (Eq.refl 1) (Eq.refl 9)
  have hinode := slice_tryInto ([1] ++ device.toList) [] inode (by simp) (Eq.refl 17)
  rw [List.append_nil] at hinode
  rw [StableFileIdentity.fromStorageBytes, if_pos (by simp), hdevice, hinode]
  rfl

theorem fromStorageBytes_windows (volume : Vector UInt8 8) (fileId : Vector UInt8 16) :
    StableFileIdentity.fromStorageBytes ([2] ++ volume.toList ++ fileId.toList) =
      .ok (.windows (fromBeBytes volume) fileId) := by
  have hvolume := slice_tryInto [2] fileId.toList volume (Eq.refl 1) (Eq.refl 9)
  have hfileId := slice_tryInto ([2] ++ volume.toList) [] fileId (by simp) (Eq.refl 25)
  rw [List.append_nil] at hfileId
  rw [StableFileIdentity.fromStorageBytes, if_neg (by simp), if_pos (by simp), hvolume, hfileId]
  rfl

theorem fromStorageBytes_macOs (volumeUuid : Vector UInt8 16) (inode : Vector UInt8 8) :
    StableFileIdentity.fromStorageBytes ([3] ++ volumeUuid.toList ++ inode.toList) =
      .ok (.macOs volumeUuid (fromBeBytes inode)) := by
  have huuid := slice_tryInto [3] inode.toList volumeUuid (Eq.refl 1)
    (Eq.refl 17)
  have hinode := slice_tryInto ([3] ++ volumeUuid.toList) [] inode (by simp) (Eq.refl 25)
  rw [List.append_nil] at hinode
  rw [StableFileIdentity.fromStorageBytes, if_neg (by simp), if_neg (by simp), if_pos (by simp),
    huuid, hinode]
  rfl

/-- What is stored is read back. -/
theorem fromStorageBytes_toStorageBytes (identity : StableFileIdentity) :
    StableFileIdentity.fromStorageBytes identity.toStorageBytes = .ok identity := by
  cases identity with
  | unix device inode =>
    have hread := fromStorageBytes_unix (field device) (field inode)
    simpa [StableFileIdentity.toStorageBytes] using hread
  | windows volume fileId =>
    have hread := fromStorageBytes_windows (field volume) fileId
    simpa [StableFileIdentity.toStorageBytes] using hread
  | macOs volumeUuid inode =>
    have hread := fromStorageBytes_macOs volumeUuid (field inode)
    simpa [StableFileIdentity.toStorageBytes] using hread

/-- Bytes of the length of a layout are its tag and its two fields. -/
theorem exists_fields {tag : UInt8} {first second : Nat} (htag : bytes.head? = some tag)
    (hlength : bytes.length = 1 + first + second) :
    ∃ (left : Vector UInt8 first) (right : Vector UInt8 second),
      bytes = [tag] ++ left.toList ++ right.toList := by
  obtain ⟨rest, rfl⟩ := List.head?_eq_some_iff.mp htag
  have hrest : rest.length = first + second := by
    rw [List.length_cons] at hlength
    omega
  refine ⟨⟨(rest.take first).toArray, by simp [hrest]⟩,
    ⟨(rest.drop first).toArray, by simp [hrest]⟩, ?_⟩
  simp

/-- What is read is stored as the bytes it was read from; anything else is refused. -/
theorem fromStorageBytes_cases (bytes : List UInt8) :
    (∃ identity, StableFileIdentity.fromStorageBytes bytes = .ok identity ∧
      identity.toStorageBytes = bytes ∧ checkPhysicalIdentity bytes = true) ∨
    StableFileIdentity.fromStorageBytes bytes =
      .error (.error "invalid tagged file identity encoding") := by
  by_cases hunix : bytes.head? = some 1 ∧ bytes.length = 17
  · obtain ⟨device, inode, rfl⟩ := @exists_fields _ 1 8 8 hunix.1 hunix.2
    refine .inl ⟨_, fromStorageBytes_unix device inode, ?_, by simp [checkPhysicalIdentity]⟩
    simp [StableFileIdentity.toStorageBytes, toBeBytes_fromBeBytes]
  by_cases hwindows : bytes.head? = some 2 ∧ bytes.length = 25
  · obtain ⟨volume, fileId, rfl⟩ := @exists_fields _ 2 8 16 hwindows.1 hwindows.2
    refine .inl ⟨_, fromStorageBytes_windows volume fileId, ?_, by simp [checkPhysicalIdentity]⟩
    simp [StableFileIdentity.toStorageBytes, toBeBytes_fromBeBytes]
  by_cases hmacOs : bytes.head? = some 3 ∧ bytes.length = 25
  · obtain ⟨volumeUuid, inode, rfl⟩ := @exists_fields _ 3 16 8 hmacOs.1 hmacOs.2
    refine .inl ⟨_, fromStorageBytes_macOs volumeUuid inode, ?_, by simp [checkPhysicalIdentity]⟩
    simp [StableFileIdentity.toStorageBytes, toBeBytes_fromBeBytes]
  · right
    rw [StableFileIdentity.fromStorageBytes, if_neg hunix, if_neg hwindows, if_neg hmacOs]

theorem toStorageBytes_of_fromStorageBytes
    (hread : StableFileIdentity.fromStorageBytes bytes = .ok identity) :
    identity.toStorageBytes = bytes := by
  obtain ⟨other, hother, hstored, -⟩ | hrefused := fromStorageBytes_cases bytes
  · cases hother.symm.trans hread
    exact hstored
  · cases hrefused.symm.trans hread

theorem toStorageBytes_injective : Function.Injective StableFileIdentity.toStorageBytes := by
  intro first second hsame
  have hfirst := fromStorageBytes_toStorageBytes first
  rw [hsame, fromStorageBytes_toStorageBytes second] at hfirst
  exact (Except.ok.inj hfirst).symm

/-- Identities and their stored bytes are the same thing: every identity is read back, bytes are
read only as the identity they are stored for, no index runs past the end, and what is read passes
the check of the column. -/
theorem stored_identity_round_trips :
    (∀ identity, StableFileIdentity.fromStorageBytes identity.toStorageBytes = .ok identity) ∧
    (∀ bytes, StableFileIdentity.fromStorageBytes bytes ≠ .error .outOfRange) ∧
    (∀ bytes identity, StableFileIdentity.fromStorageBytes bytes = .ok identity →
      identity.toStorageBytes = bytes) ∧
    Function.Injective StableFileIdentity.toStorageBytes ∧
    (∀ bytes identity, StableFileIdentity.fromStorageBytes bytes = .ok identity →
      checkPhysicalIdentity bytes = true) := by
  refine ⟨fromStorageBytes_toStorageBytes, ?_,
    fun _ _ hread => toStorageBytes_of_fromStorageBytes hread, toStorageBytes_injective, ?_⟩
  · intro bytes herror
    obtain ⟨identity, hread, -⟩ | hrefused := fromStorageBytes_cases bytes
    · cases hread.symm.trans herror
    · cases hrefused.symm.trans herror
  · intro bytes identity hread
    obtain ⟨other, -, -, hcheck⟩ | hrefused := fromStorageBytes_cases bytes
    · exact hcheck
    · cases hrefused.symm.trans hread

end Laws

end ArtForgeStudio.FileIndex
