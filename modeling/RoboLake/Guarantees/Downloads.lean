import RoboLake.Application.Downloads

/-! # Downloads

A Version is read one manifest entry at a time, each named by a cursor that only the
service can have made.
-/

namespace RoboLake

open Foundation

/-! ## Cursors -/

/-- A cursor reads back as the payload and the fields it was made from. -/
theorem readCursor_of_packCursor {versionId : UUID} {ordinal : Nat} {payload : Bytes}
    (h : packCursor cursorFormatVersion versionId ordinal = some payload) :
    readCursor (asciiStr (Base64.unpadded payload)) =
      some (Base64.unpadded payload, payload, cursorFormatVersion, versionId.bytes, ordinal) := by
  obtain ⟨values, hsymbols, hsmall, hpadded⟩ := Base64.unpadded_spec payload
  have hascii : encodeAscii (asciiStr (Base64.unpadded payload)) =
      some (Base64.unpadded payload) := by
    apply encodeAscii_asciiStr
    intro c hc
    rw [hsymbols] at hc
    obtain ⟨n, hn, rfl⟩ := List.mem_map.mp hc
    exact Base64.toUrlsafe_symbol_ascii (hsmall n hn)
  have hunpacked := unpackCursor_packCursor (by decide) h
  simp only [readCursor, hascii, Option.bind_eq_bind, Option.bind_some, hpadded,
    Base64.decode_encode, hunpacked, Option.pure_def]

theorem readCursor_ascii {cursor : PyStr} {encoded : List Char} {payload versionId : Bytes}
    {formatVersion ordinal : Nat}
    (h : readCursor cursor = some (encoded, payload, formatVersion, versionId, ordinal)) :
    asciiStr encoded = cursor ∧
      unpackCursor payload = some (formatVersion, versionId, ordinal) := by
  unfold readCursor at h
  obtain ⟨encoded', hencoded, h⟩ := Option.bind_eq_some_iff.mp h
  obtain ⟨payload', _, h⟩ := Option.bind_eq_some_iff.mp h
  obtain ⟨unpacked, hunpacked, h⟩ := Option.bind_eq_some_iff.mp h
  cases h
  exact ⟨asciiStr_of_encodeAscii hencoded, hunpacked⟩

/-- The accepted cursors of a Version are the encodings of its ordinals. -/
theorem decodeCursor_ok_iff {versionId : UUID} {fileCount ordinal : Int} {cursor : PyStr} :
    decodeCursor cursor versionId fileCount = .ok ordinal ↔
      0 ≤ ordinal ∧ ordinal < fileCount ∧ ordinal < 2 ^ 64 ∧
        encodeCursor versionId ordinal = .ok cursor := by
  constructor
  · intro h
    unfold decodeCursor at h
    split at h
    · cases h
    · rename_i encoded payload formatVersion encodedVersion k hread
      obtain ⟨hcursor, hunpacked⟩ := readCursor_ascii hread
      split at h
      · cases h
      · rename_i hcanonical
        split at h
        · cases h
        · rename_i hformat
          split at h
          · cases h
          · rename_i hversion
            split at h
            · cases h
            · rename_i hbound
              cases h
              rw [not_not] at hcanonical hformat hversion
              subst hformat hversion
              have hpacked := packCursor_unpackCursor hunpacked
              have hsmall : k < 2 ^ 64 := by
                unfold packCursor at hpacked
                split at hpacked
                · assumption
                · cases hpacked
              refine ⟨Int.natCast_nonneg k, not_le.mp hbound, by exact_mod_cast hsmall, ?_⟩
              rw [encodeCursor, if_neg (by omega), Int.toNat_natCast, hpacked]
              change Except.ok _ = _
              rw [hcanonical, hcursor]
  · intro h
    obtain ⟨hpos, hbound, hsmall, hencode⟩ := h
    obtain ⟨k, rfl⟩ := Int.eq_ofNat_of_zero_le hpos
    have hk : k < 2 ^ 64 := by exact_mod_cast hsmall
    have hpacked : packCursor cursorFormatVersion versionId k =
        some (bigEndian 1 cursorFormatVersion ++ versionId.bytes ++ bigEndian 8 k) := if_pos hk
    rw [encodeCursor, if_neg (not_lt.mpr hpos), Int.toNat_natCast, hpacked] at hencode
    cases hencode
    rw [decodeCursor, readCursor_of_packCursor hpacked]
    simp only [ne_eq, not_true_eq_false, if_false]
    rw [if_neg (not_le.mpr hbound)]

/-- Every ordinal of a Version that fits the struct reads back from its cursor, and a cursor that
is accepted is the encoding of the ordinal it reads as. -/
theorem cursor_codec_is_exact (versionId : UUID) (fileCount : Int) :
    (∀ ordinal : Int, 0 ≤ ordinal → ordinal < fileCount → ordinal < 2 ^ 64 →
      ∃ cursor, encodeCursor versionId ordinal = .ok cursor ∧
        decodeCursor cursor versionId fileCount = .ok ordinal) ∧
    ∀ (cursor : PyStr) (ordinal : Int), decodeCursor cursor versionId fileCount = .ok ordinal →
      ordinal < fileCount ∧ encodeCursor versionId ordinal = .ok cursor := by
  constructor
  · intro ordinal hpos hbound hsmall
    have hpacked : packCursor cursorFormatVersion versionId ordinal.toNat =
        some (bigEndian 1 cursorFormatVersion ++ versionId.bytes ++ bigEndian 8 ordinal.toNat) :=
      if_pos (by omega)
    have hencode : encodeCursor versionId ordinal = .ok (asciiStr (Base64.unpadded
        (bigEndian 1 cursorFormatVersion ++ versionId.bytes ++ bigEndian 8 ordinal.toNat))) := by
      rw [encodeCursor, if_neg (not_lt.mpr hpos), hpacked]
    exact ⟨_, hencode, decodeCursor_ok_iff.mpr ⟨hpos, hbound, hsmall, hencode⟩⟩
  · intro cursor ordinal h
    obtain ⟨_, hbound, _, hencode⟩ := decodeCursor_ok_iff.mp h
    exact ⟨hbound, hencode⟩

end RoboLake
