import RoboLake.Domain.Payloads
import RoboLake.Foundation.Urlsafe

/-! # Download cursors

A cursor names one manifest ordinal of one Version: a format byte, the identifier and
the ordinal in twenty-five bytes, spelled in unpadded URL-safe Base64.
-/

namespace RoboLake

open Foundation

/-! ## Text and numbers -/

def encodeAscii (s : PyStr) : Option (List Char) :=
  if s.all fun c => c.val < 128 then some (s.map fun c => Char.ofNat c.val) else none

def asciiStr (cs : List Char) : PyStr := cs.map fun c => Fin.ofNat 0x110000 c.toNat

/-! ## The cursor struct -/

def cursorFormatVersion : Nat := 1

/-- `struct.pack(">B16sQ", …)`, with no value where it raises. -/
def packCursor (formatVersion : Nat) (versionId : UUID) (ordinal : Nat) : Option Bytes :=
  if ordinal < 2 ^ 64 then
    some (bigEndian 1 formatVersion ++ versionId.bytes ++ bigEndian 8 ordinal)
  else none

/-- `struct.unpack(">B16sQ", …)` of exactly twenty-five bytes. -/
def unpackCursor (payload : Bytes) : Option (Nat × Bytes × Nat) :=
  if payload.length = 25 then
    some (ofBigEndian (payload.take 1), (payload.drop 1).take 16, ofBigEndian (payload.drop 17))
  else none

/-! ## The codec -/

/-- Encode one fixed-width, Version-aware manifest ordinal. -/
def encodeCursor (versionId : UUID) (manifestOrdinal : Int) : Except Failure PyStr :=
  if manifestOrdinal < 0 then
    .error (.domain (.invalidCursor "Cursor ordinal must be nonnegative."))
  else
    match packCursor cursorFormatVersion versionId manifestOrdinal.toNat with
    | none => .error (.domain
        (.invalidCursor "Cursor ordinal is outside the supported range."))
    | some payload => .ok (asciiStr (Base64.unpadded payload))

/-- Read the bytes and the fields of a cursor, in either alphabet and with any spare bits. -/
def readCursor (cursor : PyStr) : Option (List Char × Bytes × Nat × Bytes × Nat) := do
  let encoded ← encodeAscii cursor
  let padding := List.replicate (Base64.missing encoded.length) '='
  let payload ← Base64.decode ((encoded ++ padding).map Base64.ofUrlsafe)
  let unpacked ← unpackCursor payload
  pure (encoded, payload, unpacked)

/-- Strictly decode and validate one cursor for an immutable Version. -/
def decodeCursor (cursor : PyStr) (versionId : UUID) (fileCount : Int) : Except Failure Int :=
  match readCursor cursor with
  | none => .error (.domain (.invalidCursor "Download cursor is malformed."))
  | some (encoded, payload, formatVersion, encodedVersion, ordinal) =>
      if Base64.unpadded payload ≠ encoded then
        .error (.domain (.invalidCursor "Download cursor is not canonically encoded."))
      else if formatVersion ≠ cursorFormatVersion then
        .error (.domain (.invalidCursor "Download cursor format is unsupported."))
      else if encodedVersion ≠ versionId.bytes then
        .error (.domain
          (.invalidCursor "Download cursor belongs to a different DatasetVersion."))
      else if (ordinal : Int) ≥ fileCount then
        .error (.domain
          (.invalidCursor "Download cursor ordinal is outside this DatasetVersion."))
      else .ok ordinal

/-! ## Round trips of the parts -/

theorem asciiStr_of_encodeAscii {s : PyStr} {cs : List Char} (h : encodeAscii s = some cs) :
    asciiStr cs = s := by
  unfold encodeAscii at h
  split at h
  · rename_i hascii
    cases h
    rw [List.all_eq_true] at hascii
    rw [asciiStr, List.map_map]
    calc s.map _ = s.map id := by
          apply List.map_congr_left
          intro c hc
          have hsmall : c.val < 128 := by simpa using hascii c hc
          have hvalid : c.val.isValidChar := Or.inl (by omega)
          rw [Function.comp_apply, Char.toNat_ofNat, if_pos hvalid, Fin.ofNat_eq_cast,
            Fin.cast_val_eq_self]
          rfl
      _ = s := List.map_id s
  · cases h

theorem encodeAscii_asciiStr {cs : List Char} (h : ∀ c ∈ cs, c.toNat < 128) :
    encodeAscii (asciiStr cs) = some cs := by
  have hvalue : ∀ c ∈ cs, (Fin.ofNat 0x110000 c.toNat).val = c.toNat := by
    intro c hc
    have hsmall := h c hc
    exact Nat.mod_eq_of_lt (by omega)
  have hascii : (asciiStr cs).all (fun c => decide (c.val < 128)) = true := by
    rw [asciiStr, List.all_map, List.all_eq_true]
    intro c hc
    rw [Function.comp_apply, decide_eq_true_eq, hvalue c hc]
    exact h c hc
  rw [encodeAscii, if_pos hascii, asciiStr, List.map_map]
  congr 1
  calc cs.map _ = cs.map id := by
        apply List.map_congr_left
        intro c hc
        rw [Function.comp_apply, hvalue c hc, Char.ofNat_toNat]
        rfl
    _ = cs := List.map_id cs

/-! ## Round trips of the struct -/

theorem unpackCursor_packCursor {formatVersion ordinal : Nat} {versionId : UUID} {payload : Bytes}
    (hformat : formatVersion < 256)
    (h : packCursor formatVersion versionId ordinal = some payload) :
    unpackCursor payload = some (formatVersion, versionId.bytes, ordinal) := by
  unfold packCursor at h
  split at h
  · rename_i hordinal
    cases h
    have hone : (bigEndian 1 formatVersion).length = 1 := by simp [bigEndian]
    have hid : versionId.bytes.length = 16 := by simp [UUID.bytes, bigEndian]
    have height : (bigEndian 8 ordinal).length = 8 := by simp [bigEndian]
    have hlength : (bigEndian 1 formatVersion ++ versionId.bytes ++
        bigEndian 8 ordinal).length = 25 := by
      rw [List.length_append, List.length_append, hone, hid, height]
    have hfirst : (bigEndian 1 formatVersion ++ versionId.bytes ++ bigEndian 8 ordinal).take 1 =
        bigEndian 1 formatVersion := by
      rw [List.append_assoc, List.take_left' hone]
    have hmiddle : ((bigEndian 1 formatVersion ++ versionId.bytes ++
        bigEndian 8 ordinal).drop 1).take 16 = versionId.bytes := by
      rw [List.append_assoc, List.drop_left' hone, List.take_left' hid]
    have hlast : (bigEndian 1 formatVersion ++ versionId.bytes ++ bigEndian 8 ordinal).drop 17 =
        bigEndian 8 ordinal := by
      rw [List.drop_left' (by rw [List.length_append, hone, hid])]
    rw [unpackCursor, if_pos hlength, hfirst, hmiddle, hlast, ofBigEndian_bigEndian (by omega),
      ofBigEndian_bigEndian (by omega)]
  · cases h

theorem packCursor_unpackCursor {formatVersion ordinal : Nat} {versionId : UUID} {payload : Bytes}
    (h : unpackCursor payload = some (formatVersion, versionId.bytes, ordinal)) :
    packCursor formatVersion versionId ordinal = some payload := by
  unfold unpackCursor at h
  split at h
  · rename_i hlength
    simp only [Option.some.injEq, Prod.mk.injEq] at h
    obtain ⟨rfl, hid, rfl⟩ := h
    have hone : (payload.take 1).length = 1 := by simp [hlength]
    have height : (payload.drop 17).length = 8 := by simp [hlength]
    have hfirst := bigEndian_ofBigEndian (payload.take 1)
    have hlast := bigEndian_ofBigEndian (payload.drop 17)
    have hlt := ofBigEndian_lt (payload.drop 17)
    rw [hone] at hfirst
    rw [height] at hlast hlt
    have hdrop : payload.drop 17 = (payload.drop 1).drop 16 := by rw [List.drop_drop]
    rw [packCursor, if_pos (by omega), hfirst, hlast, ← hid, List.append_assoc, hdrop,
      List.take_append_drop, List.take_append_drop]
  · cases h

end RoboLake
