import Docent.Proofs.Indented.Cut
import Docent.Grammar.Indented.StringLiteral
import Mathlib.Algebra.GroupWithZero.Nat

/-!
# Strings without escapes

Main statement: a text without backslashes is the value of the string literal in which it stands
between tripled quotes. Characters beyond ASCII are escaped and read back on the way.
-/

namespace Docent

namespace Text

theorem hexDigit?_hexDigit {n : Nat} (h : n < 16) : hexDigit? (hexDigit n) = some n := by
  revert n
  decide

theorem isSome_hexDigit?_of_mem {k n : Nat} {c : Char} (h : c ∈ hexDigits k n) :
    (hexDigit? c).isSome = true := by
  induction k generalizing n with
  | zero => cases h
  | succ k ih =>
    rcases List.mem_append.1 h with h | h
    · exact ih h
    · rw [List.mem_singleton.1 h, hexDigit?_hexDigit (Nat.mod_lt n (by decide))]
      rfl

/-- Hexadecimal digits have the value of the number that they write, if there are enough of them. -/
theorem hexValue_hexDigits {k n : Nat} (h : n < 16 ^ k) : hexValue (hexDigits k n) = n := by
  induction k generalizing n with
  | zero =>
    rw [Nat.pow_zero, Nat.lt_one_iff] at h
    rw [h]
    rfl
  | succ k ih =>
    have hdiv : n / 16 < 16 ^ k := by
      rw [Nat.div_lt_iff_lt_mul (by decide), ← Nat.pow_succ]
      exact h
    have hvalue := ih hdiv
    rw [hexValue] at hvalue
    rw [hexDigits, hexValue, List.foldl_append, hvalue, List.foldl_cons, List.foldl_nil,
      hexDigit?_hexDigit (Nat.mod_lt n (by decide)), Option.getD_some]
    omega

end Text

namespace Indented

open Text

theorem hexRun_hexDigits (n : Nat) (rest : List Char) :
    hexRun 8 (hexDigits 8 n ++ rest) = hexDigits 8 n := by
  have htake : (hexDigits 8 n ++ rest).take 8 = hexDigits 8 n :=
    List.take_left' (length_hexDigits 8 n)
  rw [hexRun, htake, List.takeWhile_eq_self_iff]
  exact fun c hc => isSome_hexDigit?_of_mem hc

variable {names : List Char → Option Char} {d : List Char}

theorem unescape_long (fuel pos : Nat) (rest : List Char) :
    unescape names (fuel + 1) pos ('\\' :: 'U' :: rest) =
      if (hexRun 8 rest).length < 8 then .error (truncated pos 'U' 8 (hexRun 8 rest).length)
      else if hexValue (hexRun 8 rest) > 0x10FFFF then
        .error (escapeFault pos (2 + 8) "illegal Unicode character")
      else (unescape names fuel (pos + 2 + 8) (rest.drop 8)).map
        (Char.ofNat (hexValue (hexRun 8 rest)) :: ·) :=
  rfl

theorem unescape_spelled (hd : '\\' ∉ d) {fuel : Nat} (hfuel : (spelled d).length < fuel) (pos : Nat) :
    unescape names fuel pos (spelled d) = .ok d := by
  induction d generalizing fuel pos with
  | nil =>
    obtain ⟨fuel, rfl⟩ := Nat.exists_eq_succ_of_ne_zero (Nat.ne_of_gt (Nat.zero_lt_of_lt hfuel))
    rfl
  | cons c d ih =>
    obtain ⟨fuel, rfl⟩ := Nat.exists_eq_succ_of_ne_zero (Nat.ne_of_gt (Nat.zero_lt_of_lt hfuel))
    rw [List.mem_cons, not_or] at hd
    have hc : c ≠ '\\' := Ne.symm hd.1
    have hspelled : spelled (c :: d) = if c.toNat < 0x80 then c :: spelled d
        else ('\\' :: 'U' :: hexDigits 8 c.toNat) ++ spelled d := by
      rw [spelled]
      exact hc
    rw [hspelled] at hfuel ⊢
    split
    · -- a plain character stands for itself, any other one is written as a long escape
      rename_i hascii
      rw [if_pos hascii, List.length_cons] at hfuel
      rw [unescape]
      · rw [ih hd.2 (by omega)]
        rfl
      · exact hc
    · rename_i hascii
      rw [if_neg hascii] at hfuel
      -- no character has a code beyond the largest one
      have hcode : c.toNat ≤ 0x10FFFF := by
        have hvalid := c.valid
        simp only [UInt32.isValidChar, Nat.isValidChar] at hvalid
        have heq : c.toNat = c.val.toNat := rfl
        omega
      have hlength := length_hexDigits 8 c.toNat
      have hrun := hexRun_hexDigits c.toNat (spelled d)
      have hvalue : hexValue (hexDigits 8 c.toNat) = c.toNat :=
        hexValue_hexDigits (Nat.lt_of_le_of_lt hcode (by decide))
      have hdrop : (hexDigits 8 c.toNat ++ spelled d).drop 8 = spelled d := List.drop_left' hlength
      rw [List.cons_append, List.cons_append, List.length_cons, List.length_cons,
        List.length_append] at hfuel
      rw [List.cons_append, List.cons_append, unescape_long, hrun, hlength, if_neg (by decide),
        hvalue, if_neg (by omega), hdrop, ih hd.2 (by omega), Char.ofNat_toNat]
      rfl

theorem readEscapes_of_notMem (hd : '\\' ∉ d) : readEscapes names d = .ok d :=
  unescape_spelled hd (Nat.lt_succ_self _) 0

theorem ofText_tripled (d : List Char) : Literal.ofText (tripled d) = ⟨false, false, false, d⟩ := by
  have hletters : (tripled d).takeWhile Char.isAlpha = [] := rfl
  have hrest : (tripled d).dropWhile Char.isAlpha = tripled d := rfl
  have hlength : (tripled d).length = d.length + 6 := by simp [tripled, tripleQuote]
  have hbody : ((tripled d).drop 3).take d.length = d := List.take_left
  have hsix : 6 ≤ (tripled d).length := by omega
  rw [Literal.ofText, hletters, hrest]
  simp only [tripled, true_and, if_pos (show 6 ≤ ('"' :: '"' :: '"' :: (d ++ tripleQuote)).length from hsix)]
  rw [show ('"' :: '"' :: '"' :: (d ++ tripleQuote)).length = d.length + 6 from hlength]
  simp [tripleQuote]

theorem value_tripled (hd : '\\' ∉ d) : (Literal.ofText (tripled d)).value names = .ok d := by
  rw [ofText_tripled]
  exact readEscapes_of_notMem hd

end Indented

end Docent
