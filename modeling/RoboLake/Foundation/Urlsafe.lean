import RoboLake.Foundation.Codec

/-! # Base64 without padding, in the URL-safe alphabet

The URL-safe alphabet spells the last two symbols differently and the padding is left
out. Both are recovered before decoding: the alphabet symbol by symbol, the padding
from the length.
-/

namespace Foundation.Base64

/-! ## The alphabet -/

def toUrlsafe (c : Char) : Char := if c = '+' then '-' else if c = '/' then '_' else c

def ofUrlsafe (c : Char) : Char := if c = '-' then '+' else if c = '_' then '/' else c

def encodeUrlsafe (bs : Bytes) : List Char := (encode bs).map toUrlsafe

theorem ofUrlsafe_toUrlsafe_symbol {n : Nat} (h : n < 64) :
    ofUrlsafe (toUrlsafe (symbol n)) = symbol n :=
  (by decide : ∀ n : Fin 64, ofUrlsafe (toUrlsafe (symbol n.val)) = symbol n.val) ⟨n, h⟩

theorem toUrlsafe_symbol_ne_pad {n : Nat} (h : n < 64) : toUrlsafe (symbol n) ≠ '=' :=
  (by decide : ∀ n : Fin 64, toUrlsafe (symbol n.val) ≠ '=') ⟨n, h⟩

theorem toUrlsafe_symbol_ascii {n : Nat} (h : n < 64) : (toUrlsafe (symbol n)).toNat < 128 :=
  (by decide : ∀ n : Fin 64, (toUrlsafe (symbol n.val)).toNat < 128) ⟨n, h⟩

/-! ## Symbols and padding -/

/-- An encoding is symbols followed by the padding that fills its last group. -/
theorem encode_eq (bs : Bytes) : ∃ (values : List Nat) (pads : Nat),
    encode bs = values.map symbol ++ List.replicate pads '=' ∧ (∀ n ∈ values, n < 64) ∧
      pads < 4 ∧ (values.length + pads) % 4 = 0 := by
  induction bs using encode.induct with
  | case1 => exact ⟨[], 0, rfl, by simp, by omega, rfl⟩
  | case2 a =>
      have ha : a.toNat < 256 := a.toNat_lt
      refine ⟨[a.toNat / 4, a.toNat % 4 * 16], 2, rfl, ?_, by omega, by simp⟩
      simp only [List.mem_cons, List.not_mem_nil, or_false, forall_eq_or_imp, forall_eq]
      omega
  | case3 a b =>
      have ha : a.toNat < 256 := a.toNat_lt
      have hb : b.toNat < 256 := b.toNat_lt
      refine ⟨[a.toNat / 4, a.toNat % 4 * 16 + b.toNat / 16, b.toNat % 16 * 4], 1, rfl, ?_,
        by omega, by simp⟩
      simp only [List.mem_cons, List.not_mem_nil, or_false, forall_eq_or_imp, forall_eq]
      omega
  | case4 a b c bs ih =>
      have ha : a.toNat < 256 := a.toNat_lt
      have hb : b.toNat < 256 := b.toNat_lt
      have hc : c.toNat < 256 := c.toNat_lt
      obtain ⟨values, pads, hencode, hsmall, hpads, hlength⟩ := ih
      refine ⟨a.toNat / 4 :: (a.toNat % 4 * 16 + b.toNat / 16) ::
        (b.toNat % 16 * 4 + c.toNat / 64) :: (c.toNat % 64) :: values, pads, ?_, ?_, hpads, ?_⟩
      · rw [encode, hencode]
        rfl
      · simp only [List.mem_cons, forall_eq_or_imp]
        exact ⟨by omega, by omega, by omega, by omega, hsmall⟩
      · simp only [List.length_cons]
        omega

def missing (length : Nat) : Nat := (4 - length % 4) % 4

def unpadded (bs : Bytes) : List Char := (encodeUrlsafe bs).rdropWhile (· == '=')

theorem unpadded_spec (bs : Bytes) : ∃ values : List Nat,
    unpadded bs = values.map (fun n => toUrlsafe (symbol n)) ∧ (∀ n ∈ values, n < 64) ∧
      (unpadded bs ++ List.replicate (missing (unpadded bs).length) '=').map ofUrlsafe =
        encode bs := by
  obtain ⟨values, pads, hencode, hsmall, hpads, hlength⟩ := encode_eq bs
  have hsymbols : unpadded bs = values.map fun n => toUrlsafe (symbol n) := by
    have hlast : ∀ cs : List Char, (∀ c ∈ cs, c ≠ '=') → ∀ n,
        (cs ++ List.replicate n '=').rdropWhile (· == '=') = cs := by
      intro cs hcs n
      induction n with
      | zero =>
          rw [List.replicate_zero, List.append_nil, List.rdropWhile_eq_self_iff]
          intro hne
          simpa using hcs _ (List.getLast_mem hne)
      | succ n ih =>
          rw [List.replicate_succ', ← List.append_assoc, List.rdropWhile_concat_pos _ _ _ rfl]
          exact ih
    rw [unpadded, encodeUrlsafe, hencode, List.map_append, List.map_map, List.map_replicate]
    apply hlast
    intro c hc
    obtain ⟨n, hn, rfl⟩ := List.mem_map.mp hc
    exact toUrlsafe_symbol_ne_pad (hsmall n hn)
  refine ⟨values, hsymbols, hsmall, ?_⟩
  have hmissing : missing (unpadded bs).length = pads := by
    rw [hsymbols, List.length_map, missing]
    omega
  rw [hmissing, hsymbols, hencode, List.map_append, List.map_map, List.map_replicate]
  congr 1
  apply List.map_congr_left
  intro n hn
  exact ofUrlsafe_toUrlsafe_symbol (hsmall n hn)

end Foundation.Base64
