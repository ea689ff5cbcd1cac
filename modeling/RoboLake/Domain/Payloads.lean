import RoboLake.Domain.Identifiers

/-! # Canonical request payloads

A multipart request is hashed as compact JSON of its scope and its values. The
values have fixed lengths and an ASCII spelling, so one payload is the payload of
one list of values only.
-/

namespace RoboLake

open Foundation

/-! ## UUID text -/

theorem bigEndian_succ (width n : Nat) :
    bigEndian (width + 1) n = bigEndian width (n / 256) ++ [byte (n % 256)] := by
  rw [bigEndian, List.range_succ, List.map_append]
  have hfront : (List.range width).map (fun i => byte (n / 256 ^ (width + 1 - 1 - i) % 256)) =
      bigEndian width (n / 256) := by
    refine List.map_congr_left fun i hi => ?_
    have hlt := List.mem_range.mp hi
    have hpower : width + 1 - 1 - i = width - 1 - i + 1 := by omega
    rw [hpower, pow_succ', Nat.div_div_eq_div_mul]
  rw [hfront]
  simp

theorem bigEndian_injective {width n m : Nat} (hn : n < 256 ^ width) (hm : m < 256 ^ width)
    (h : bigEndian width n = bigEndian width m) : n = m := by
  induction width generalizing n m with
  | zero =>
      simp only [pow_zero] at hn hm
      omega
  | succ width ih =>
      rw [bigEndian_succ, bigEndian_succ] at h
      obtain ⟨hhigh, hlow⟩ := List.append_inj' h rfl
      have hdiv : n / 256 = m / 256 := by
        apply ih _ _ hhigh
        · rw [pow_succ] at hn
          omega
        · rw [pow_succ] at hm
          omega
      have hbyte : n % 256 = m % 256 := by
        have hvalue := congrArg UInt8.toNat (List.cons.inj hlow).1
        simpa [byte] using hvalue
      omega

def ofBigEndian (bs : Bytes) : Nat := bs.foldl (fun n b => n * 256 + b.toNat) 0

theorem ofBigEndian_concat (bs : Bytes) (b : UInt8) :
    ofBigEndian (bs ++ [b]) = ofBigEndian bs * 256 + b.toNat := by
  simp [ofBigEndian]

theorem ofBigEndian_lt (bs : Bytes) : ofBigEndian bs < 256 ^ bs.length := by
  induction bs using List.reverseRecOn with
  | nil => exact Nat.one_pos
  | append_singleton bs b ih =>
      have hb := b.toNat_lt
      rw [ofBigEndian_concat, List.length_append, List.length_singleton, pow_succ]
      omega

theorem bigEndian_ofBigEndian (bs : Bytes) : bigEndian bs.length (ofBigEndian bs) = bs := by
  induction bs using List.reverseRecOn with
  | nil => rfl
  | append_singleton bs b ih =>
      have hb := b.toNat_lt
      have hhigh : (ofBigEndian bs * 256 + b.toNat) / 256 = ofBigEndian bs := by omega
      have hlow : b.toNat = (ofBigEndian bs * 256 + b.toNat) % 256 := by omega
      rw [ofBigEndian_concat, List.length_append, List.length_singleton, bigEndian_succ, hhigh, ih,
        ← hlow, byte_eq rfl]

theorem ofBigEndian_bigEndian {width n : Nat} (h : n < 256 ^ width) :
    ofBigEndian (bigEndian width n) = n := by
  have hlength : (bigEndian width n).length = width := by simp [bigEndian]
  have hlt := ofBigEndian_lt (bigEndian width n)
  rw [hlength] at hlt
  have hsame := bigEndian_ofBigEndian (bigEndian width n)
  rw [hlength] at hsame
  exact bigEndian_injective hlt h hsame

theorem length_hex (id : UUID) : (Hex.encode (bigEndian 16 id.toNat)).length = 32 := by
  simp [Hex.length_encode, bigEndian]

theorem UUID.length_str (id : UUID) : id.str.length = 36 := by
  simp [UUID.str, length_hex]

theorem digit_groups (xs : List Char) : xs = xs.take 8 ++ ((xs.drop 8).take 4 ++
    ((xs.drop 12).take 4 ++ ((xs.drop 16).take 4 ++ xs.drop 20))) := by
  have h₁ : xs.drop 16 = (xs.drop 16).take 4 ++ xs.drop 20 := by
    simpa using (List.take_append_drop 4 (xs.drop 16)).symm
  have h₂ : xs.drop 12 = (xs.drop 12).take 4 ++ xs.drop 16 := by
    simpa using (List.take_append_drop 4 (xs.drop 12)).symm
  have h₃ : xs.drop 8 = (xs.drop 8).take 4 ++ xs.drop 12 := by
    simpa using (List.take_append_drop 4 (xs.drop 8)).symm
  rw [← h₁, ← h₂, ← h₃, List.take_append_drop]

theorem filter_str (id : UUID) :
    id.str.filter (fun c => c ≠ '-') = Hex.encode (bigEndian 16 id.toNat) := by
  have hdigits := Hex.forall_mem_encode (p := fun c => c ≠ '-')
    (fun n hn => (by decide : ∀ n : Fin 16, Hex.digit n.val ≠ '-') ⟨n, hn⟩)
    (bigEndian 16 id.toNat)
  have hkeep : ∀ xs : List Char, xs ⊆ Hex.encode (bigEndian 16 id.toNat) →
      xs.filter (fun c => c ≠ '-') = xs := by
    intro xs hsub
    rw [List.filter_eq_self]
    intro c hc
    exact decide_eq_true (hdigits c (hsub hc))
  have hdash : decide ('-' ≠ '-') = false := by decide
  have hgroup : ∀ i k, (((Hex.encode (bigEndian 16 id.toNat)).drop i).take k).filter
      (fun c => c ≠ '-') = ((Hex.encode (bigEndian 16 id.toNat)).drop i).take k := by
    intro i k
    refine hkeep _ ?_
    intro c hc
    exact List.mem_of_mem_drop (List.mem_of_mem_take hc)
  conv_rhs => rw [digit_groups (Hex.encode (bigEndian 16 id.toNat))]
  simp only [UUID.str, List.filter_append, List.filter_cons, hdash, List.append_assoc]
  rw [hkeep _ (List.take_subset 8 _), hgroup 8 4, hgroup 12 4, hgroup 16 4,
    hkeep _ (List.drop_subset 20 _)]
  rfl

/-- `UUID(hex)` of a text that holds the digits, grouped by dashes. -/
def UUID.parse (hex : List Char) : Option UUID :=
  let digits := hex.filter fun c => c ≠ '-'
  if digits.length ≠ 32 then none
  else (Hex.decode digits).map fun bs => BitVec.ofNat 128 (ofBigEndian bs)

theorem UUID.parse_str (id : UUID) : UUID.parse id.str = some id := by
  have hlt : id.toNat < 256 ^ 16 := by
    have := id.isLt
    omega
  rw [UUID.parse, filter_str, if_neg (not_not.mpr (length_hex id)), Hex.decode_encode,
    Option.map_some, ofBigEndian_bigEndian hlt, BitVec.ofNat_toNat, BitVec.setWidth_eq]

theorem UUID.str_injective {id id' : UUID} (h : id.str = id'.str) : id = id' := by
  have hsame := congrArg UUID.parse h
  rw [UUID.parse_str, UUID.parse_str] at hsame
  exact Option.some.inj hsame

/-! ## ASCII text -/

/-- Every character is below 256, so that one byte stands for it. -/
def IsNarrow (cs : List Char) : Prop := ∀ c ∈ cs, c.toNat < 256

theorem asciiChars_injective {cs cs' : List Char} (h : IsNarrow cs) (h' : IsNarrow cs')
    (heq : asciiChars cs = asciiChars cs') : cs = cs' := by
  induction cs generalizing cs' with
  | nil =>
      cases cs' with
      | nil => rfl
      | cons c' cs' => cases heq
  | cons c cs ih =>
      cases cs' with
      | nil => cases heq
      | cons c' cs' =>
          obtain ⟨hbyte, hrest⟩ := List.cons.inj heq
          have hc := h c List.mem_cons_self
          have hc' := h' c' List.mem_cons_self
          have hvalue : c.toNat = c'.toNat := by
            have hbytes := congrArg UInt8.toNat hbyte
            simp only [byte, UInt8.toNat_ofNat'] at hbytes
            omega
          have hchar : c = c' := Char.ext (UInt32.toNat_inj.mp hvalue)
          rw [hchar, ih (fun x hx => h x (List.mem_cons_of_mem c hx))
            (fun x hx => h' x (List.mem_cons_of_mem c' hx)) hrest]

theorem narrow_digit {n : Nat} (h : n < 16) : (Hex.digit n).toNat < 256 :=
  (by decide : ∀ n : Fin 16, (Hex.digit n.val).toNat < 256) ⟨n, h⟩

theorem narrow_encode (bs : Bytes) : IsNarrow (Hex.encode bs) :=
  Hex.forall_mem_encode (fun _ => narrow_digit) bs

theorem UUID.narrow_str (id : UUID) : IsNarrow id.str := by
  have hdigits := narrow_encode (bigEndian 16 id.toNat)
  intro c hc
  simp only [UUID.str, List.mem_append, List.mem_cons] at hc
  have hdash : ('-').toNat < 256 := by decide
  rcases hc with (((hc | rfl | hc) | rfl | hc) | rfl | hc) | rfl | hc
  · exact hdigits c (List.mem_of_mem_take hc)
  · exact hdash
  · exact hdigits c (List.mem_of_mem_drop (List.mem_of_mem_take hc))
  · exact hdash
  · exact hdigits c (List.mem_of_mem_drop (List.mem_of_mem_take hc))
  · exact hdash
  · exact hdigits c (List.mem_of_mem_drop (List.mem_of_mem_take hc))
  · exact hdash
  · exact hdigits c (List.mem_of_mem_drop hc)

theorem Sha256Digest.length_value (d : Sha256Digest) : d.value.length = 64 := by
  have hcanonical := d.canonical
  simp only [isCanonical, Bool.and_eq_true, beq_iff_eq] at hcanonical
  exact hcanonical.1

theorem Sha256Digest.narrow_value (d : Sha256Digest) : IsNarrow d.value := by
  have hcanonical := d.canonical
  simp only [isCanonical, Bool.and_eq_true, List.all_eq_true] at hcanonical
  intro c hc
  obtain ⟨n, hn, rfl⟩ := digit_of_isHexDigit (hcanonical.2 c hc)
  exact narrow_digit hn

/-! ## Payloads -/

/-- The sorted compact JSON of a request. -/
def requestPayload (scope : String) (values : List (List Char)) : Bytes :=
  ascii "\x7b\"scope\":\"" ++ ascii scope ++ ascii "\",\"values\":[" ++
    (List.intersperse (ascii ",") (values.map fun v =>
      ascii "\"" ++ asciiChars v ++ ascii "\"")).flatten ++
    ascii "]\x7d"

theorem intersperse_injective {sep : Bytes} {ws ws' : List Bytes}
    (hlengths : ws.map List.length = ws'.map List.length)
    (h : (List.intersperse sep ws).flatten = (List.intersperse sep ws').flatten) : ws = ws' := by
  induction ws generalizing ws' with
  | nil => exact (List.map_eq_nil_iff.mp hlengths.symm).symm
  | cons w ws ih =>
      cases ws' with
      | nil => cases hlengths
      | cons w' ws' =>
          obtain ⟨hlength, hrest⟩ := List.cons.inj hlengths
          cases ws with
          | nil =>
              have hnil : ws' = [] := List.map_eq_nil_iff.mp hrest.symm
              subst hnil
              simpa using h
          | cons x xs =>
              cases ws' with
              | nil => cases hrest
              | cons x' xs' =>
                  simp only [List.intersperse_cons_cons, List.flatten_cons] at h
                  obtain ⟨hw, h⟩ := List.append_inj h hlength
                  obtain ⟨_, h⟩ := List.append_inj h rfl
                  rw [hw, ih hrest h]

theorem requestPayload_injective {scope : String} {values values' : List (List Char)}
    (hlengths : values.map List.length = values'.map List.length)
    (hnarrow : ∀ v ∈ values, IsNarrow v) (hnarrow' : ∀ v ∈ values', IsNarrow v)
    (h : requestPayload scope values = requestPayload scope values') : values = values' := by
  have hwords : values.map (fun v => ascii "\"" ++ asciiChars v ++ ascii "\"") =
      values'.map (fun v => ascii "\"" ++ asciiChars v ++ ascii "\"") := by
    apply intersperse_injective
    · have hlength : ∀ v : List Char, (ascii "\"" ++ asciiChars v ++ ascii "\"").length =
          (ascii "\"").length + v.length + (ascii "\"").length := by
        intro v
        simp [asciiChars, Nat.add_assoc]
      have hmap : ∀ vs : List (List Char),
          (vs.map fun v => ascii "\"" ++ asciiChars v ++ ascii "\"").map List.length =
            (vs.map List.length).map fun n =>
              (ascii "\"").length + n + (ascii "\"").length := by
        intro vs
        rw [List.map_map, List.map_map]
        exact List.map_congr_left fun v _ => hlength v
      rw [hmap, hmap, hlengths]
    · unfold requestPayload at h
      exact List.append_cancel_left (List.append_cancel_right h)
  clear h
  induction values generalizing values' with
  | nil => exact (List.map_eq_nil_iff.mp hlengths.symm).symm
  | cons v values ih =>
      cases values' with
      | nil => cases hlengths
      | cons v' values' =>
          obtain ⟨hword, hrest⟩ := List.cons.inj hwords
          have hv := asciiChars_injective (hnarrow v List.mem_cons_self)
            (hnarrow' v' List.mem_cons_self)
            (List.append_cancel_left (List.append_cancel_right hword))
          rw [hv, ih (List.cons.inj hlengths).2 (fun x hx => hnarrow x (List.mem_cons_of_mem v hx))
            (fun x hx => hnarrow' x (List.mem_cons_of_mem v' hx)) hrest]

end RoboLake
