import Mathlib

/-! # Length-prefixed framing

Fields of any length are joined into one text, each behind a header of fixed width that
states its length. No field is the start of another once it is framed, so the text is
the text of one list of fields only: an empty field still has its header, and a field
that looks like a header is counted by its own.
-/

namespace Foundation

/-- Headers of one width that tell the lengths below a bound apart. -/
structure LengthHeader (α : Type*) where
  header : Nat → List α
  width : Nat
  bound : Nat
  length_header : ∀ n, (header n).length = width
  width_pos : 0 < width
  injective : ∀ n m, n < bound → m < bound → header n = header m → n = m

namespace LengthHeader

variable {α : Type*} (h : LengthHeader α)

def frame (field : List α) : List α := h.header field.length ++ field

def frames (fields : List (List α)) : List α := fields.flatMap h.frame

/-- The lengths of all fields are told apart. -/
def Fits (fields : List (List α)) : Prop := ∀ field ∈ fields, field.length < h.bound

@[simp] theorem frames_cons (field : List α) (fields : List (List α)) :
    h.frames (field :: fields) = h.frame field ++ h.frames fields := rfl

theorem frame_ne_nil (field : List α) : h.frame field ≠ [] := by
  intro hempty
  have hheader := (List.append_eq_nil_iff.mp hempty).1
  have hlength := h.length_header field.length
  have hpos := h.width_pos
  rw [hheader, List.length_nil] at hlength
  omega

theorem frame_append_injective {field field' rest rest' : List α}
    (hfits : field.length < h.bound) (hfits' : field'.length < h.bound)
    (heq : h.frame field ++ rest = h.frame field' ++ rest') : field = field' ∧ rest = rest' := by
  unfold frame at heq
  rw [List.append_assoc, List.append_assoc] at heq
  have hwidth : (h.header field.length).length = (h.header field'.length).length := by
    rw [h.length_header, h.length_header]
  obtain ⟨hheader, hbody⟩ := List.append_inj heq hwidth
  have hlength := h.injective _ _ hfits hfits' hheader
  exact List.append_inj hbody hlength

/-- One text is the text of one list of fields. -/
theorem frames_injective {fields fields' : List (List α)} (hfits : h.Fits fields)
    (hfits' : h.Fits fields') (heq : h.frames fields = h.frames fields') : fields = fields' := by
  induction fields generalizing fields' with
  | nil =>
      cases fields' with
      | nil => rfl
      | cons field' rest' =>
          have hempty := (List.append_eq_nil_iff.mp heq.symm).1
          exact absurd hempty (h.frame_ne_nil field')
  | cons field rest ih =>
      cases fields' with
      | nil =>
          have hempty := (List.append_eq_nil_iff.mp heq).1
          exact absurd hempty (h.frame_ne_nil field)
      | cons field' rest' =>
          rw [frames_cons, frames_cons] at heq
          obtain ⟨hfield, hrest⟩ := h.frame_append_injective (hfits field List.mem_cons_self)
            (hfits' field' List.mem_cons_self) heq
          have htail := ih (fun x hx => hfits x (List.mem_cons_of_mem field hx))
            (fun x hx => hfits' x (List.mem_cons_of_mem field' hx)) hrest
          rw [hfield, htail]

end LengthHeader

end Foundation
