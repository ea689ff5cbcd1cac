import RoboLake.Domain.Identifiers

/-! # Dataset references

A reference spells a Dataset name and a registration-order number in one text. The
spelling is split at its last version suffix, so it reads back whatever the name.
-/

namespace RoboLake

open Foundation

/-- The text readers of the standard library. -/
class TextReaders where
  /-- `unicodedata.decimal` of one character. -/
  decimalValue : CodePoint → Option Nat
  decimalValue_ascii : ∀ d, d < 10 → decimalValue (Fin.ofNat _ (0x30 + d)) = some d
  /-- `UUID(hex)`. -/
  readUuid : List Char → Option UUID
  readUuid_str : ∀ id : UUID, readUuid id.str = some id

export TextReaders (decimalValue decimalValue_ascii readUuid readUuid_str)

/-! ## Splitting -/

/-- `str.rpartition`: what stands before and after the last separator. -/
def rpartition (separator : PyStr) : PyStr → Option (PyStr × PyStr)
  | [] => none
  | c :: rest =>
      match rpartition separator rest with
      | some (before, after) => some (c :: before, after)
      | none =>
          if separator.isPrefixOf (c :: rest) then
            some ([], (c :: rest).drop separator.length)
          else none

theorem rpartition_append {separator s before after : PyStr}
    (h : rpartition separator s = some (before, after)) (front : PyStr) :
    rpartition separator (front ++ s) = some (front ++ before, after) := by
  induction front with
  | nil => exact h
  | cons c front ih => rw [List.cons_append, rpartition, ih, List.cons_append]

theorem rpartition_of_notMem {c : CodePoint} {separator s : PyStr} (h : c ∉ s) :
    rpartition (c :: separator) s = none := by
  induction s with
  | nil => rfl
  | cons x s ih =>
      have hne : ¬(c = x) := fun hcx => h (hcx ▸ List.mem_cons_self)
      rw [rpartition, ih (List.not_mem_of_not_mem_cons h)]
      simp [hne]

/-! ## Decimal numbers -/

/-- `str.isdecimal`. -/
def isDecimal [TextReaders] (s : PyStr) : Bool :=
  !s.isEmpty && s.all fun c => (decimalValue c).isSome

/-- `int` of a decimal text; a text of more than 4300 digits is refused. -/
def intOf [TextReaders] (s : PyStr) : Except Failure Nat :=
  if s.length > 4300 then .error .valueError
  else .ok (s.foldl (fun n c => n * 10 + (decimalValue c).getD 0) 0)

/-- `str(n)`. -/
def numeral (n : Nat) : PyStr := asciiText (decimal n)

def digitPoint (d : Nat) : CodePoint := Fin.ofNat _ (0x30 + d)

theorem numeral_eq (n : Nat) :
    numeral n = if n < 10 then [digitPoint n] else numeral (n / 10) ++ [digitPoint (n % 10)] := by
  have hdigit : ∀ d, d < 10 → asciiText (asciiChars [Nat.digitChar d]) = [digitPoint d] := by
    decide
  unfold numeral decimal
  rw [Nat.toDigits_eq_if (by decide)]
  split
  · rename_i hn
    exact hdigit n hn
  · rw [← hdigit (n % 10) (Nat.mod_lt n (by decide))]
    simp [asciiText, asciiChars]

theorem mem_numeral {n : Nat} {c : CodePoint} (h : c ∈ numeral n) :
    ∃ d, d < 10 ∧ c = digitPoint d := by
  induction n using Nat.strongRecOn with
  | ind n ih =>
      rw [numeral_eq] at h
      split at h
      · rename_i hn
        exact ⟨n, hn, List.mem_singleton.mp h⟩
      · rcases List.mem_append.mp h with h | h
        · exact ih (n / 10) (by omega) h
        · exact ⟨n % 10, Nat.mod_lt n (by decide), List.mem_singleton.mp h⟩

theorem numeral_ne_nil (n : Nat) : numeral n ≠ [] := by
  rw [numeral_eq]
  split
  · nofun
  · exact List.append_ne_nil_of_right_ne_nil _ nofun

theorem length_numeral (n : Nat) : (numeral n).length = (Nat.toDigits 10 n).length := by
  simp [numeral, decimal, asciiText, asciiChars]

theorem isDecimal_numeral [TextReaders] (n : Nat) : isDecimal (numeral n) = true := by
  unfold isDecimal
  rw [Bool.and_eq_true, List.all_eq_true]
  refine ⟨by simp [numeral_ne_nil], ?_⟩
  intro c hc
  obtain ⟨d, hd, rfl⟩ := mem_numeral hc
  rw [digitPoint, decimalValue_ascii d hd]
  rfl

theorem foldl_numeral [TextReaders] (n : Nat) :
    (numeral n).foldl (fun m c => m * 10 + (decimalValue c).getD 0) 0 = n := by
  induction n using Nat.strongRecOn with
  | ind n ih =>
      rw [numeral_eq]
      split
      · rename_i hn
        rw [List.foldl_cons, List.foldl_nil, digitPoint, decimalValue_ascii n hn]
        simp
      · rw [List.foldl_append, ih (n / 10) (by omega), List.foldl_cons, List.foldl_nil,
          digitPoint, decimalValue_ascii (n % 10) (Nat.mod_lt n (by decide)), Option.getD_some]
        omega

theorem intOf_numeral [TextReaders] {n : Nat} (h : n < 2 ^ 63) : intOf (numeral n) = .ok n := by
  have hlength : (numeral n).length ≤ 19 := by
    rw [length_numeral]
    exact (Nat.length_toDigits_le_iff (by decide) (by decide)).mpr (by omega)
  unfold intOf
  rw [if_neg (by omega), foldl_numeral]

/-! ## References -/

variable [Platform]

/-- Human Dataset reference using its registration-order version number. -/
structure DatasetReference where
  dataset : DatasetName
  versionNumber : Nat
  deriving DecidableEq

namespace DatasetReference

def marker : PyStr := text "@v"

def str (reference : DatasetReference) : PyStr :=
  reference.dataset.value ++ marker ++ numeral reference.versionNumber

/-- Split a reference on its final version suffix. -/
def parse [TextReaders] (raw : PyStr) : Except Failure DatasetReference :=
  match rpartition marker raw with
  | none => .error invalid
  | some (name, number) =>
      if isDecimal number = false then .error invalid
      else do
        let versionNumber ← intOf number
        if versionNumber < 1 then .error invalid
        else do
          let dataset ← DatasetName.parse name
          pure ⟨dataset, versionNumber⟩
where
  invalid : Failure :=
    .domain (.invalidDatasetReference "Expected DATASET@v<positive integer>.")

end DatasetReference

theorem DatasetName.parse_value (name : DatasetName) : DatasetName.parse name.value = .ok name := by
  obtain ⟨value, hnormalized, hsafe⟩ := name
  obtain ⟨encoded, hencoded, hchecks⟩ := (Option.any_eq_true _ _).mp hsafe
  unfold DatasetName.parse
  simp only [hnormalized]
  split
  · rename_i hnone
    rw [hnormalized, hencoded] at hnone
    cases hnone
  · rename_i encoded' hencoded'
    rw [hnormalized, hencoded] at hencoded'
    cases hencoded'
    rw [dif_pos hchecks]

/-- The spelling of a reference is split where its number begins. -/
theorem DatasetReference.rpartition_str (reference : DatasetReference) :
    rpartition marker reference.str =
      some (reference.dataset.value, numeral reference.versionNumber) := by
  have hat : ∀ d, d < 10 → digitPoint d ≠ ⟨0x40, by decide⟩ := by decide
  have hv : (⟨0x76, by decide⟩ : CodePoint) ≠ ⟨0x40, by decide⟩ := by decide
  have hmarker : marker = [⟨0x40, by decide⟩, ⟨0x76, by decide⟩] := by decide
  -- No digit is the first character of the marker, so the split is where the number begins.
  have hnone : rpartition marker (⟨0x76, by decide⟩ :: numeral reference.versionNumber) = none := by
    rw [hmarker]
    refine rpartition_of_notMem ?_
    intro hmem
    rcases List.mem_cons.mp hmem with h | h
    · exact hv h.symm
    · obtain ⟨d, hd, heq⟩ := mem_numeral h
      exact hat d hd heq.symm
  have hsplit : rpartition marker (marker ++ numeral reference.versionNumber) =
      some ([], numeral reference.versionNumber) := by
    rw [hmarker] at hnone ⊢
    rw [List.cons_append, List.cons_append, List.nil_append, rpartition, hnone]
    simp
  unfold str
  rw [List.append_assoc, rpartition_append hsplit, List.append_nil]

/-- A reference with a positive number reads back from its spelling. -/
theorem DatasetReference.parse_str [TextReaders] {reference : DatasetReference}
    (hpos : 0 < reference.versionNumber) (hlt : reference.versionNumber < 2 ^ 63) :
    parse reference.str = .ok reference := by
  unfold parse
  rw [reference.rpartition_str]
  simp only [isDecimal_numeral, intOf_numeral hlt, reduceCtorEq, if_false]
  have hnumber : ¬reference.versionNumber < 1 := by omega
  change (if reference.versionNumber < 1 then _ else _) = _
  rw [if_neg hnumber, DatasetName.parse_value]
  rfl

theorem DatasetReference.eq_of_parse_str [TextReaders] {reference reference' : DatasetReference}
    (h : parse reference.str = .ok reference') : reference' = reference := by
  unfold parse at h
  rw [reference.rpartition_str] at h
  simp only [isDecimal_numeral, reduceCtorEq, if_false] at h
  unfold intOf at h
  rw [foldl_numeral] at h
  split at h
  · cases h
  · change (if reference.versionNumber < 1 then _ else _) = _ at h
    split at h
    · cases h
    · rw [DatasetName.parse_value] at h
      cases h
      rfl

end RoboLake
