import Mathlib

/-! # Hexadecimal and Base64 spellings of byte strings

Both codecs are given by an alphabet and its inverse on digits. Decoding what was
encoded returns the bytes, so two byte strings with one spelling are equal.
-/

namespace Foundation

abbrev Bytes := List UInt8

def byte (n : Nat) : UInt8 := UInt8.ofNat n

theorem byte_eq {n : Nat} {b : UInt8} (h : n = b.toNat) : byte n = b := by
  rw [byte, h, UInt8.ofNat_toNat]

namespace Hex

def digit (n : Nat) : Char :=
  ['0', '1', '2', '3', '4', '5', '6', '7', '8', '9', 'a', 'b', 'c', 'd', 'e', 'f'].getD n '0'

def value? (c : Char) : Option Nat :=
  if '0' ≤ c ∧ c ≤ '9' then some (c.toNat - 48)
  else if 'a' ≤ c ∧ c ≤ 'f' then some (c.toNat - 87)
  else if 'A' ≤ c ∧ c ≤ 'F' then some (c.toNat - 55)
  else none

def encode : Bytes → List Char
  | [] => []
  | b :: bs => digit (b.toNat / 16) :: digit (b.toNat % 16) :: encode bs

def decode : List Char → Option Bytes
  | [] => some []
  | [_] => none
  | c :: d :: cs => do
      let hi ← value? c
      let lo ← value? d
      let bs ← decode cs
      pure (byte (hi * 16 + lo) :: bs)

theorem value?_digit {n : Nat} (h : n < 16) : value? (digit n) = some n :=
  (by decide : ∀ n : Fin 16, value? (digit n.val) = some n.val) ⟨n, h⟩

theorem length_encode (bs : Bytes) : (encode bs).length = 2 * bs.length := by
  induction bs with
  | nil => rfl
  | cons b bs ih =>
      simp only [encode, List.length_cons, ih]
      omega

theorem decode_encode (bs : Bytes) : decode (encode bs) = some bs := by
  induction bs with
  | nil => rfl
  | cons b bs ih =>
      have hb : b.toNat < 256 := b.toNat_lt
      have hhi : value? (digit (b.toNat / 16)) = some (b.toNat / 16) := value?_digit (by omega)
      have hlo : value? (digit (b.toNat % 16)) = some (b.toNat % 16) := value?_digit (by omega)
      have hsum : byte (b.toNat / 16 * 16 + b.toNat % 16) = b := byte_eq (by omega)
      simp only [encode, decode, hhi, hlo, ih, hsum, Option.bind_eq_bind, Option.bind_some,
        Option.pure_def]

theorem forall_mem_encode {p : Char → Prop} (h : ∀ n, n < 16 → p (digit n)) (bs : Bytes) :
    ∀ c ∈ encode bs, p c := by
  induction bs with
  | nil => nofun
  | cons b bs ih =>
      have hb : b.toNat < 256 := b.toNat_lt
      intro c hc
      simp only [encode, List.mem_cons] at hc
      rcases hc with rfl | rfl | hc
      · exact h _ (by omega)
      · exact h _ (by omega)
      · exact ih c hc

/-- A string of digits, two for each byte, is the spelling of what it decodes to. -/
theorem decode_digits {cs : List Char} (h : ∀ c ∈ cs, ∃ n < 16, digit n = c)
    (heven : cs.length % 2 = 0) : ∃ bs, decode cs = some bs ∧ encode bs = cs := by
  induction cs using decode.induct with
  | case1 => exact ⟨[], rfl, rfl⟩
  | case2 c => simp at heven
  | case3 c d cs ih =>
      obtain ⟨hi, hhi, rfl⟩ := h c (by simp)
      obtain ⟨lo, hlo, rfl⟩ := h d (by simp)
      have hrest : cs.length % 2 = 0 := by
        simp only [List.length_cons] at heven
        omega
      obtain ⟨bs, hdecode, hencode⟩ := ih (fun c hc => h c (by simp [hc])) hrest
      refine ⟨byte (hi * 16 + lo) :: bs, ?_, ?_⟩
      · simp only [decode, value?_digit hhi, value?_digit hlo, hdecode, Option.bind_eq_bind,
          Option.bind_some, Option.pure_def]
      · have hvalue : (byte (hi * 16 + lo)).toNat = hi * 16 + lo := by
          have hsmall : hi * 16 + lo < 256 := by omega
          rw [byte, UInt8.toNat_ofNat']
          exact Nat.mod_eq_of_lt hsmall
        have hhigh : (hi * 16 + lo) / 16 = hi := by omega
        have hlow : (hi * 16 + lo) % 16 = lo := by omega
        simp only [encode, hvalue, hhigh, hlow, hencode]

end Hex

namespace Base64

def symbol (n : Nat) : Char :=
  if n < 26 then Char.ofNat (65 + n)
  else if n < 52 then Char.ofNat (71 + n)
  else if n < 62 then Char.ofNat (n - 4)
  else if n = 62 then '+' else '/'

def value? (c : Char) : Option Nat :=
  if 'A' ≤ c ∧ c ≤ 'Z' then some (c.toNat - 65)
  else if 'a' ≤ c ∧ c ≤ 'z' then some (c.toNat - 71)
  else if '0' ≤ c ∧ c ≤ '9' then some (c.toNat + 4)
  else if c = '+' then some 62
  else if c = '/' then some 63
  else none

/-- Three bytes to four symbols, the last group padded. -/
def encode : Bytes → List Char
  | [] => []
  | [a] => [symbol (a.toNat / 4), symbol (a.toNat % 4 * 16), '=', '=']
  | [a, b] =>
      [symbol (a.toNat / 4), symbol (a.toNat % 4 * 16 + b.toNat / 16),
        symbol (b.toNat % 16 * 4), '=']
  | a :: b :: c :: bs =>
      symbol (a.toNat / 4) :: symbol (a.toNat % 4 * 16 + b.toNat / 16) ::
        symbol (b.toNat % 16 * 4 + c.toNat / 64) :: symbol (c.toNat % 64) :: encode bs

/-- Four symbols to three bytes; padding only at the very end, unused bits ignored. -/
def decode : List Char → Option Bytes
  | [] => some []
  | c₁ :: c₂ :: c₃ :: c₄ :: cs => do
      let w ← value? c₁
      let x ← value? c₂
      if c₃ = '=' ∧ c₄ = '=' ∧ cs = [] then
        pure [byte (w * 4 + x / 16)]
      else
        let y ← value? c₃
        if c₄ = '=' ∧ cs = [] then
          pure [byte (w * 4 + x / 16), byte (x % 16 * 16 + y / 4)]
        else
          let z ← value? c₄
          let bs ← decode cs
          pure (byte (w * 4 + x / 16) :: byte (x % 16 * 16 + y / 4) ::
            byte (y % 4 * 64 + z) :: bs)
  | _ => none

theorem value?_symbol {n : Nat} (h : n < 64) : value? (symbol n) = some n :=
  (by decide : ∀ n : Fin 64, value? (symbol n.val) = some n.val) ⟨n, h⟩

theorem symbol_ne_pad {n : Nat} (h : n < 64) : symbol n ≠ '=' :=
  (by decide : ∀ n : Fin 64, symbol n.val ≠ '=') ⟨n, h⟩

theorem decode_encode (bs : Bytes) : decode (encode bs) = some bs := by
  induction bs using encode.induct with
  | case1 => rfl
  | case2 a =>
      have ha : a.toNat < 256 := a.toNat_lt
      have h₁ := value?_symbol (n := a.toNat / 4) (by omega)
      have h₂ := value?_symbol (n := a.toNat % 4 * 16) (by omega)
      have hsum : byte (a.toNat / 4 * 4 + a.toNat % 4 * 16 / 16) = a := byte_eq (by omega)
      simp only [encode, decode, h₁, h₂, hsum, and_self, if_true, Option.bind_eq_bind,
        Option.bind_some, Option.pure_def]
  | case3 a b =>
      have ha : a.toNat < 256 := a.toNat_lt
      have hb : b.toNat < 256 := b.toNat_lt
      have h₁ := value?_symbol (n := a.toNat / 4) (by omega)
      have h₂ := value?_symbol (n := a.toNat % 4 * 16 + b.toNat / 16) (by omega)
      have h₃ := value?_symbol (n := b.toNat % 16 * 4) (by omega)
      have hne := symbol_ne_pad (n := b.toNat % 16 * 4) (by omega)
      have hsum : byte (a.toNat / 4 * 4 + (a.toNat % 4 * 16 + b.toNat / 16) / 16) = a :=
        byte_eq (by omega)
      have hsum' : byte ((a.toNat % 4 * 16 + b.toNat / 16) % 16 * 16 + b.toNat % 16 * 4 / 4) = b :=
        byte_eq (by omega)
      simp only [encode, decode, h₁, h₂, h₃, hne, hsum, hsum', false_and, and_self, if_true,
        if_false, Option.bind_eq_bind, Option.bind_some, Option.pure_def]
  | case4 a b c bs ih =>
      have ha : a.toNat < 256 := a.toNat_lt
      have hb : b.toNat < 256 := b.toNat_lt
      have hc : c.toNat < 256 := c.toNat_lt
      have h₁ := value?_symbol (n := a.toNat / 4) (by omega)
      have h₂ := value?_symbol (n := a.toNat % 4 * 16 + b.toNat / 16) (by omega)
      have h₃ := value?_symbol (n := b.toNat % 16 * 4 + c.toNat / 64) (by omega)
      have h₄ := value?_symbol (n := c.toNat % 64) (by omega)
      have hne := symbol_ne_pad (n := b.toNat % 16 * 4 + c.toNat / 64) (by omega)
      have hne' := symbol_ne_pad (n := c.toNat % 64) (by omega)
      have hsum : byte (a.toNat / 4 * 4 + (a.toNat % 4 * 16 + b.toNat / 16) / 16) = a :=
        byte_eq (by omega)
      have hsum' : byte ((a.toNat % 4 * 16 + b.toNat / 16) % 16 * 16 +
          (b.toNat % 16 * 4 + c.toNat / 64) / 4) = b := byte_eq (by omega)
      have hsum'' : byte ((b.toNat % 16 * 4 + c.toNat / 64) % 4 * 64 + c.toNat % 64) = c :=
        byte_eq (by omega)
      simp only [encode, decode, h₁, h₂, h₃, h₄, hne, hne', hsum, hsum', hsum'', ih, false_and,
        if_false, Option.bind_eq_bind, Option.bind_some, Option.pure_def]

/-- Two bytes beyond the groups of three are spelled by symbols and one pad. -/
theorem encode_shape {bs : Bytes} (h : bs.length % 3 = 2) :
    ∃ cs, encode bs = cs ++ ['='] ∧ cs.length = bs.length / 3 * 4 + 3 ∧
      ∀ c ∈ cs, (value? c).isSome = true := by
  have hsymbol : ∀ n, n < 64 → (value? (symbol n)).isSome = true := by
    intro n hn
    rw [value?_symbol hn]
    rfl
  induction bs using encode.induct with
  | case1 => cases h
  | case2 a => cases h
  | case3 a b =>
      have ha : a.toNat < 256 := a.toNat_lt
      have hb : b.toNat < 256 := b.toNat_lt
      refine ⟨[symbol (a.toNat / 4), symbol (a.toNat % 4 * 16 + b.toNat / 16),
        symbol (b.toNat % 16 * 4)], rfl, by simp, ?_⟩
      intro c hc
      simp only [List.mem_cons, List.not_mem_nil, or_false] at hc
      rcases hc with rfl | rfl | rfl
      · exact hsymbol _ (by omega)
      · exact hsymbol _ (by omega)
      · exact hsymbol _ (by omega)
  | case4 a b c bs ih =>
      have ha : a.toNat < 256 := a.toNat_lt
      have hb : b.toNat < 256 := b.toNat_lt
      have hc : c.toNat < 256 := c.toNat_lt
      simp only [List.length_cons] at h ⊢
      obtain ⟨cs, hencode, hlength, hvalues⟩ := ih (by omega)
      refine ⟨symbol (a.toNat / 4) :: symbol (a.toNat % 4 * 16 + b.toNat / 16) ::
        symbol (b.toNat % 16 * 4 + c.toNat / 64) :: symbol (c.toNat % 64) :: cs, ?_, ?_, ?_⟩
      · rw [encode, hencode]
        rfl
      · simp only [List.length_cons, hlength]
        omega
      · intro x hx
        simp only [List.mem_cons] at hx
        rcases hx with rfl | rfl | rfl | rfl | hx
        · exact hsymbol _ (by omega)
        · exact hsymbol _ (by omega)
        · exact hsymbol _ (by omega)
        · exact hsymbol _ (by omega)
        · exact hvalues x hx

end Base64

end Foundation
