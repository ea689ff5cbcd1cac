import RoboLake.Application.Registration
import RoboLake.Domain.Canonical
import RoboLake.Registry.Reachable

/-! # Framed requests

A request is hashed as its fields, each behind an eight-byte length. One text is the text
of one list of fields, and an idempotency key names one operation on one list of fields.
-/

namespace RoboLake

open Foundation

section Framing

variable [Platform] {operation operation' : PyStr} {fields fields' : List Bytes}

omit [Platform] in
theorem asciiText_value_injective {d d' : Sha256Digest}
    (h : asciiText (asciiChars d.value) = asciiText (asciiChars d'.value)) : d = d' := by
  have hvalue := congrArg Manifest.digestText h
  rw [Manifest.digestText_value, Manifest.digestText_value] at hvalue
  exact Sha256Digest.ext hvalue

theorem fingerprint_of_makeIdempotencyKey
    (h : makeIdempotencyKey operation fields = makeIdempotencyKey operation' fields') :
    operation = operation' ∧ requestFingerprint fields = requestFingerprint fields' := by
  unfold makeIdempotencyKey at h
  have hlength : ∀ d : Sha256Digest, (asciiText (asciiChars d.value)).length = 64 := by
    intro d
    rw [asciiText, asciiChars, List.length_map, List.length_map, d.length_value]
  obtain ⟨hname, hdigest⟩ := List.append_inj' h (by rw [hlength, hlength])
  have hoperation := List.append_cancel_left (List.append_cancel_right hname)
  exact ⟨hoperation, asciiText_value_injective hdigest⟩

/-- The hashed text tells lists of fields apart, and so do the keys where SHA-256 tells their
texts apart. -/
theorem request_framing_is_injective (hfits : ∀ field ∈ fields, field.length < 2 ^ 64)
    (hfits' : ∀ field ∈ fields', field.length < 2 ^ 64) :
    (framed fields = framed fields' → fields = fields') ∧
      ((sha256 (framed fields) = sha256 (framed fields') → framed fields = framed fields') →
        makeIdempotencyKey operation fields = makeIdempotencyKey operation' fields' →
        operation = operation' ∧ fields = fields') := by
  have hframes : framed fields = framed fields' → fields = fields' :=
    fieldHeader.frames_injective hfits hfits'
  refine ⟨hframes, ?_⟩
  intro hsha hkey
  obtain ⟨hoperation, hfingerprint⟩ := fingerprint_of_makeIdempotencyKey hkey
  exact ⟨hoperation, hframes (hsha hfingerprint)⟩

end Framing

end RoboLake

namespace RoboLake.Sample

open Foundation

/-- A platform that gives SHA-256 on the fields `ab`, `c` and on the fields `a`, `bc`. -/
@[reducible]
def fieldPlatform : Platform :=
  { platform with
    sha256 := fun data =>
      if data = framed [[97, 98], [99]] then
        digest 0x601d5476e2ccfe2c87a2bba7a322659734a05749d5b5aa781f513e4912db0d5f
      else digest 0x3fafa1cf2f19a7c1129beb20cf0983f73a489a221fc0dd2f16d1be292d089205 }

set_option maxRecDepth 100000 in
/-- The boundary between two fields is part of the text and of the key. -/
theorem sample_boundaries_are_kept :
    framed [[97, 98], [99]] ≠ framed [[97], [98, 99]] ∧
      @makeIdempotencyKey fieldPlatform (text "version-register") [[97, 98], [99]] ≠
        @makeIdempotencyKey fieldPlatform (text "version-register") [[97], [98, 99]] := by
  have hfits : ∀ field ∈ [[97, 98], [99]], (field : Bytes).length < 2 ^ 64 := by decide
  have hfits' : ∀ field ∈ [[97], [98, 99]], (field : Bytes).length < 2 ^ 64 := by decide
  have hne : ([[97, 98], [99]] : List Bytes) ≠ [[97], [98, 99]] := by decide
  obtain ⟨hframed, hkeys⟩ := @request_framing_is_injective fieldPlatform (text "version-register")
    (text "version-register") _ _ hfits hfits'
  refine ⟨fun h => hne (hframed h), fun h => hne (hkeys ?_ h).2⟩
  intro hsha
  exfalso
  revert hsha
  decide +kernel

end RoboLake.Sample
