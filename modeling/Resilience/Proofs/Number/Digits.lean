import Resilience.Number.Numeral

/-!
# Written whole numbers

The digits of a whole number are read as that number, with none left over and no zero before them
(`takeDigits_toDigits`), so that a number within a limit is read back from its text
(`readNatural_toString`).
-/

namespace Resilience.Number

theorem isDigit_eq (c : Char) : isDigit c = c.isDigit := by
  simp only [isDigit, Char.isDigit, Char.le_def]

theorem isDigit_of_mem_toDigits {n : Nat} {c : Char} (h : c ∈ Nat.toDigits 10 n) :
    isDigit c = true := by
  rw [isDigit_eq]
  exact Nat.isDigit_of_mem_toDigits (by decide) (by decide) h

theorem ofDigits_map (cs : List Char) :
    ofDigits (cs.map fun c => c.toNat - '0'.toNat) = Nat.ofDigitChars 10 cs 0 := by
  rw [ofDigits, List.foldl_map, Nat.ofDigitChars_eq_foldl]

/-- Only zero starts with a zero. -/
theorem head_toDigits_ne {n : Nat} (hn : 0 < n) : (Nat.toDigits 10 n).head? ≠ some '0' := by
  induction n using Nat.strongRecOn with
  | _ n ih =>
    rw [Nat.toDigits_eq_if (by decide)]
    split
    · rename_i hlt
      have hdigit : ∀ d < 10, 0 < d → Nat.digitChar d ≠ '0' := by decide
      simpa using hdigit n hlt hn
    · have hhead := ih (n / 10) (by omega) (by omega)
      cases hcs : Nat.toDigits 10 (n / 10) with
      | nil => exact absurd hcs Nat.toDigits_ne_nil
      | cons c cs =>
        rw [hcs] at hhead
        exact hhead

/-- Digits are taken up to what is no digit. -/
theorem takeDigits_of_digits {ds r : List Char} (hds : ∀ c ∈ ds, isDigit c = true)
    (hr : ∀ c ∈ r.head?, isDigit c = false) :
    takeDigits (ds ++ r) = (ds.map fun c => c.toNat - '0'.toNat, r) := by
  have hstop : r.takeWhile isDigit = [] ∧ r.dropWhile isDigit = r := by
    cases r with
    | nil => exact ⟨rfl, rfl⟩
    | cons c r => simp [hr c rfl]
  rw [takeDigits, List.takeWhile_append_of_pos hds, List.dropWhile_append_of_pos hds, hstop.1,
    hstop.2, List.append_nil]

theorem eq_zero_of_digit {c : Char} (h : isDigit c = true) (hzero : c.toNat - '0'.toNat = 0) :
    c = '0' := by
  simp only [isDigit, Bool.and_eq_true, decide_eq_true_eq] at h
  have hle : '0'.toNat ≤ c.toNat := UInt32.le_iff_toNat_le.1 (Char.le_def.1 h.1)
  exact Char.toNat_inj.1 (Nat.le_antisymm (Nat.le_of_sub_eq_zero hzero) hle)

theorem ne_of_isDigit {c d : Char} (hc : isDigit c = true) (hd : isDigit d = false) : c ≠ d := by
  rintro rfl
  rw [hc] at hd
  cases hd

theorem takeSign_of_digit {c : Char} (h : isDigit c = true) (cs : List Char) :
    takeSign (c :: cs) = (false, c :: cs) := by
  rw [takeSign]
  · rintro _ ⟨⟩
    exact ne_of_isDigit (d := '+') h rfl rfl
  · rintro _ ⟨⟩
    exact ne_of_isDigit (d := '-') h rfl rfl

/-- A whole number is read from its digits. -/
theorem takeDigits_toDigits (n : Nat) : ∃ d ds, takeDigits (Nat.toDigits 10 n) = (d :: ds, []) ∧
    ofDigits (d :: ds) = n ∧ (d = 0 → ds = []) := by
  have hdigits : ∀ c ∈ Nat.toDigits 10 n, isDigit c = true := fun c => isDigit_of_mem_toDigits
  have hvalue := ofDigits_map (Nat.toDigits 10 n)
  rw [Nat.ofDigitChars_ten_toDigits] at hvalue
  have htake := takeDigits_of_digits (r := []) hdigits nofun
  rw [List.append_nil] at htake
  cases hcs : Nat.toDigits 10 n with
  | nil => exact absurd hcs Nat.toDigits_ne_nil
  | cons c cs =>
    rw [hcs] at hvalue htake hdigits
    refine ⟨_, _, htake, hvalue, fun hzero => ?_⟩
    have hc := eq_zero_of_digit (hdigits c List.mem_cons_self) hzero
    rcases Nat.eq_zero_or_pos n with rfl | hn
    · rw [Nat.toDigits_zero] at hcs
      cases hcs
      rfl
    · exact absurd (by rw [hcs, hc]; rfl) (head_toDigits_ne hn)

theorem readNatural_toString {n limit : Nat} (hn : n ≤ limit) :
    readNatural limit (toString n) = some n := by
  obtain ⟨d, ds, htake, hvalue, -⟩ := takeDigits_toDigits n
  have hsign : ∀ cs, Nat.toDigits 10 n ≠ '+' :: cs := by
    intro cs hcs
    have hplus : isDigit '+' = true := isDigit_of_mem_toDigits (hcs ▸ List.mem_cons_self)
    cases hplus
  rw [Nat.toString_eq_ofList_toDigits, readNatural, String.toList_ofList]
  simp only [htake, hvalue, if_pos hn]

theorem le_of_readNatural {limit n : Nat} {t : String} (h : readNatural limit t = some n) :
    n ≤ limit := by
  unfold readNatural at h
  dsimp only at h
  split at h
  · cases h
  · split at h
    · cases h
      assumption
    · cases h
  · cases h

end Resilience.Number
