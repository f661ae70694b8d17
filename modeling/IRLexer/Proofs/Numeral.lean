import IRLexer.NumberedName
import IRLexer.Proofs.MaximalRun
import Mathlib.Algebra.Group.Nat.Defs

/-!
# Numerals and numbered names

Plain digits and natural numbers are printed and read without loss.  A number appended to a stem
that ends in no digit can therefore be split off again, and whatever is split off a name was
appended to its stem.
-/

namespace IRLexer

namespace Decimal

theorem isDigit_of_mem_natural {number : Nat} {c : Char} (h : c ∈ natural number) :
    c.isDigit = true :=
  Nat.isDigit_of_mem_toDigits (by decide) (by decide) h

theorem natural_ne_nil (number : Nat) : natural number ≠ [] :=
  Nat.toDigits_ne_nil

theorem ofDigitChars_natural (number : Nat) : Nat.ofDigitChars 10 (natural number) 0 = number :=
  Nat.ofDigitChars_ten_toDigits

theorem integer_natCast (number : Nat) : integer number = natural number :=
  rfl

theorem integer_ne_nil (number : Int) : integer number ≠ [] := by
  cases number with
  | ofNat number => exact natural_ne_nil number
  | negSucc predecessor => exact List.cons_ne_nil _ _

theorem isDigit_of_getLast?_integer {number : Int} {c : Char}
    (h : (integer number).getLast? = some c) : c.isDigit = true := by
  cases number with
  | ofNat number => exact isDigit_of_mem_natural (List.mem_of_getLast? h)
  | negSucc predecessor =>
      rw [integer, List.getLast?_cons_of_ne_nil (natural_ne_nil (predecessor + 1))] at h
      exact isDigit_of_mem_natural (List.mem_of_getLast? h)

theorem natural_of_isDigit {c : Char} (h : c.isDigit = true) :
    c.toNat - 48 < 10 ∧ natural (c.toNat - 48) = [c] := by
  have hbounds : 48 ≤ c.toNat ∧ c.toNat ≤ 57 := by
    simp only [Char.isDigit, Bool.and_eq_true, decide_eq_true_eq] at h
    exact h
  have hlt : c.toNat - 48 < 10 := by omega
  have hchar : (c.toNat - 48).digitChar = c := by
    apply Char.toNat_inj.mp
    rw [Nat.toNat_digitChar_of_lt_ten hlt]
    omega
  refine ⟨hlt, ?_⟩
  rw [natural, Nat.toDigits_of_lt_base hlt, hchar]

theorem natural_ofDigitChars_of_pos {digits : List Char}
    (hdigits : ∀ c ∈ digits, c.isDigit = true) {number : Nat} (hpos : 0 < number) :
    natural (Nat.ofDigitChars 10 digits number) = natural number ++ digits := by
  induction digits generalizing number with
  | nil => simp
  | cons digit digits ih =>
      obtain ⟨hlt, hdigit⟩ := natural_of_isDigit (hdigits digit List.mem_cons_self)
      have hlater : ∀ c ∈ digits, c.isDigit = true := by
        intro c hc
        exact hdigits c (List.mem_cons_of_mem _ hc)
      have happend : natural number ++ [digit] = natural (10 * number + (digit.toNat - 48)) := by
        rw [← hdigit]
        exact Nat.toDigits_append_toDigits (by decide) hpos hlt
      calc
        natural (Nat.ofDigitChars 10 (digit :: digits) number)
          = natural (Nat.ofDigitChars 10 digits (10 * number + (digit.toNat - 48))) := by
            rw [Nat.ofDigitChars_cons]
            rfl
        _ = natural (10 * number + (digit.toNat - 48)) ++ digits := ih hlater (by omega)
        _ = natural number ++ digit :: digits := by
            rw [← happend, List.append_assoc, List.singleton_append]

theorem head?_natural_ne_zero {number : Nat} (hpos : 0 < number) :
    (natural number).head? ≠ some '0' := by
  induction number using Nat.strongRecOn with
  | ind number ih =>
      by_cases hlt : number < 10
      · rw [natural, Nat.toDigits_of_lt_base hlt]
        simp only [List.head?_cons, ne_eq, Option.some.injEq, Nat.digitChar_eq_zero]
        omega
      · have hshorter := ih (number / 10) (by omega) (by omega)
        rw [natural, Nat.toDigits_of_base_le (by decide) (by omega)]
        cases hdigits : natural (number / 10) with
        | nil => exact absurd hdigits (natural_ne_nil _)
        | cons first later =>
            rw [hdigits] at hshorter
            rw [natural] at hdigits
            rw [hdigits]
            exact hshorter

end Decimal

namespace NumberedName

theorem isPlain_natural (number : Nat) : isPlain (Decimal.natural number) = true := by
  cases hdigits : Decimal.natural number with
  | nil => exact absurd hdigits (Decimal.natural_ne_nil number)
  | cons first later =>
      cases later with
      | nil => rfl
      | cons second later =>
          have hpos : 0 < number := by
            apply Nat.pos_of_ne_zero
            rintro rfl
            simp [Decimal.natural] at hdigits
          have hhead := Decimal.head?_natural_ne_zero hpos
          rw [hdigits, List.head?_cons] at hhead
          simpa [isPlain] using hhead

theorem natural_ofDigitChars {digits : List Char} (hplain : isPlain digits = true)
    (hdigits : ∀ c ∈ digits, c.isDigit = true) :
    Decimal.natural (Nat.ofDigitChars 10 digits 0) = digits := by
  cases digits with
  | nil => simp [isPlain] at hplain
  | cons first later =>
      obtain ⟨-, hfirst⟩ := Decimal.natural_of_isDigit (hdigits first List.mem_cons_self)
      have hread : Nat.ofDigitChars 10 (first :: later) 0 =
          Nat.ofDigitChars 10 later (first.toNat - 48) := by
        rw [Nat.ofDigitChars_cons, Nat.mul_zero, Nat.zero_add]
        rfl
      rw [hread]
      by_cases hzero : first = '0'
      · cases later with
        | nil => simpa using hfirst
        | cons second later => simp [isPlain, hzero] at hplain
      · have hpos : 0 < first.toNat - 48 := by
          apply Nat.pos_of_ne_zero
          intro hvalue
          rw [hvalue] at hfirst
          exact hzero (List.cons.inj hfirst).1.symm
        have hlater : ∀ c ∈ later, c.isDigit = true := by
          intro c hc
          exact hdigits c (List.mem_cons_of_mem _ hc)
        rw [Decimal.natural_ofDigitChars_of_pos hlater hpos, hfirst, List.singleton_append]

/-! ## Splitting a name -/

theorem suffixDigits_eq (name : List Char) :
    suffixDigits name = (name.reverse.takeWhile Char.isDigit).reverse := by
  rw [suffixDigits, ← take_length_takeWhile, List.take_reverse, List.reverse_reverse]
  rfl

theorem stem_eq (name : List Char) :
    stem name = (name.reverse.dropWhile Char.isDigit).reverse := by
  rw [stem, ← drop_length_takeWhile, List.drop_reverse, List.reverse_reverse]
  rfl

theorem isDigit_of_mem_suffixDigits {name : List Char} {c : Char} (h : c ∈ suffixDigits name) :
    c.isDigit = true := by
  rw [suffixDigits_eq, List.mem_reverse] at h
  exact List.mem_takeWhile_imp h

def EndsInNoDigit (text : List Char) : Prop :=
  ∀ c, text.getLast? = some c → c.isDigit = false

theorem suffixDigits_append {stem digits : List Char} (hstem : EndsInNoDigit stem)
    (hdigits : ∀ c ∈ digits, c.isDigit = true) : suffixDigits (stem ++ digits) = digits := by
  have hnone : stem.reverse.takeWhile Char.isDigit = [] := by
    cases hreverse : stem.reverse with
    | nil => rfl
    | cons last before =>
        have hlast : stem.getLast? = some last := by
          rw [← List.head?_reverse, hreverse, List.head?_cons]
        rw [List.takeWhile_cons_of_neg]
        simp [hstem last hlast]
  have hall : ∀ c ∈ digits.reverse, c.isDigit = true := by
    intro c hc
    exact hdigits c (List.mem_reverse.mp hc)
  rw [suffixDigits_eq, List.reverse_append, List.takeWhile_append_of_pos hall, hnone,
    List.append_nil, List.reverse_reverse]

theorem stem_append {stem digits : List Char} (hstem : EndsInNoDigit stem)
    (hdigits : ∀ c ∈ digits, c.isDigit = true) :
    NumberedName.stem (stem ++ digits) = stem := by
  have hwhole := stem_append_suffixDigits (stem ++ digits)
  rw [suffixDigits_append hstem hdigits] at hwhole
  exact List.append_cancel_right hwhole

theorem endsInNoDigit_stem (name : List Char) : EndsInNoDigit (stem name) := by
  intro c hlast
  rw [stem_eq, List.getLast?_reverse] at hlast
  have hhead := List.head?_dropWhile_not Char.isDigit name.reverse
  rw [hlast] at hhead
  exact hhead

theorem length_natural_le {number : Nat} (h : number ≤ maxIndex) :
    (Decimal.natural number).length ≤ maxNumeralDigits := by
  have hten : (Decimal.natural number).length ≤ 10 := by
    apply (Nat.length_toDigits_le_iff (by decide) (by decide)).mpr
    exact Nat.lt_of_le_of_lt h (by decide)
  exact Nat.le_trans hten (by decide)

theorem split?_eq_some_iff {name stem : List Char} {number : Nat} :
    split? name = .ok (some (stem, number)) ↔
      number ≤ maxIndex ∧ name = stem ++ Decimal.natural number ∧ EndsInNoDigit stem := by
  constructor
  · intro h
    unfold split? at h
    simp only [Bool.not_eq_true'] at h
    split at h
    · simp at h
    · next hplain =>
        split at h
        · simp at h
        · split at h
          · next hle =>
              simp only [Except.ok.injEq, Option.some.injEq, Prod.mk.injEq] at h
              obtain ⟨rfl, rfl⟩ := h
              rw [Bool.not_eq_false] at hplain
              have hdigits : ∀ c ∈ suffixDigits name, c.isDigit = true := by
                intro c hc
                exact isDigit_of_mem_suffixDigits hc
              refine ⟨hle, ?_, endsInNoDigit_stem name⟩
              rw [natural_ofDigitChars hplain hdigits, stem_append_suffixDigits]
          · simp at h
  · rintro ⟨hle, rfl, hstem⟩
    have hdigits : ∀ c ∈ Decimal.natural number, c.isDigit = true := by
      intro c hc
      exact Decimal.isDigit_of_mem_natural hc
    have hlength := length_natural_le hle
    simp [split?, suffixDigits_append hstem hdigits, stem_append hstem hdigits,
      isPlain_natural, Decimal.ofDigitChars_natural, hle, Nat.not_lt.mpr hlength]

/-- The name is the stem and a plain numeral that has too many digits to be read. -/
structure IsOverlong (name stem numeral : List Char) : Prop where
  name_eq : name = stem ++ numeral
  stem_end : EndsInNoDigit stem
  digits : ∀ c ∈ numeral, c.isDigit = true
  head?_ne : numeral.head? ≠ some '0'
  lt_length : maxNumeralDigits < numeral.length

theorem isPlain_iff_head?_ne {digits : List Char} (h : 1 < digits.length) :
    isPlain digits = true ↔ digits.head? ≠ some '0' := by
  cases digits with
  | nil => simp at h
  | cons first later =>
      cases later with
      | nil => simp at h
      | cons second later => simp [isPlain]

theorem split?_eq_error_iff {name : List Char} {fault : Fault} :
    split? name = .error fault ↔
      ∃ stem numeral, IsOverlong name stem numeral ∧ fault = .numeralTooLong numeral.length := by
  constructor
  · intro h
    unfold split? at h
    simp only [Bool.not_eq_true'] at h
    split at h
    · simp at h
    · next hplain =>
        split at h
        · next hlong =>
            have hone : 1 < (suffixDigits name).length := Nat.lt_trans (by decide) hlong
            rw [Bool.not_eq_false, isPlain_iff_head?_ne hone] at hplain
            refine ⟨stem name, suffixDigits name, ⟨?_, ?_, ?_, hplain, hlong⟩, ?_⟩
            · exact (stem_append_suffixDigits name).symm
            · exact endsInNoDigit_stem name
            · intro c hc
              exact isDigit_of_mem_suffixDigits hc
            · exact (Except.error.inj h).symm
        · split at h <;> contradiction
  · rintro ⟨stem, numeral, ⟨rfl, hstem, hdigits, hhead, hlong⟩, rfl⟩
    have hone : 1 < numeral.length := Nat.lt_trans (by decide) hlong
    have hplain := (isPlain_iff_head?_ne hone).mpr hhead
    simp [split?, suffixDigits_append hstem hdigits, hplain, hlong]

theorem split?_natural_of_maxIndex_lt {stem : List Char} {number : Nat}
    (hstem : EndsInNoDigit stem) (hlt : maxIndex < number) :
    split? (stem ++ Decimal.natural number) =
      if maxNumeralDigits < (Decimal.natural number).length then
        .error (.numeralTooLong (Decimal.natural number).length)
      else .ok none := by
  have hdigits : ∀ c ∈ Decimal.natural number, c.isDigit = true := by
    intro c hc
    exact Decimal.isDigit_of_mem_natural hc
  simp [split?, suffixDigits_append hstem hdigits, isPlain_natural, Decimal.ofDigitChars_natural,
    Nat.not_le.mpr hlt]

theorem split?_of_endsInNoDigit {name : List Char} (h : EndsInNoDigit name) :
    split? name = .ok none := by
  have hsuffix : suffixDigits name = [] := by
    have hnone : suffixDigits (name ++ []) = [] := suffixDigits_append h (by simp)
    rwa [List.append_nil] at hnone
  simp [split?, hsuffix, isPlain]

theorem lt_two_pow_iff_le_maxIndex {number : Nat} : number < 2 ^ 32 ↔ number ≤ maxIndex := by
  rw [← Nat.lt_succ_iff]
  exact Iff.rfl

theorem eq_of_append_natural_eq {stem other : List Char} {number otherNumber : Nat}
    (hstem : EndsInNoDigit stem) (hother : EndsInNoDigit other)
    (h : stem ++ Decimal.natural number = other ++ Decimal.natural otherNumber) :
    stem = other ∧ number = otherNumber := by
  have hdigits (value : Nat) : ∀ c ∈ Decimal.natural value, c.isDigit = true := by
    intro c hc
    exact Decimal.isDigit_of_mem_natural hc
  have hsuffix : Decimal.natural number = Decimal.natural otherNumber := by
    rw [← suffixDigits_append hstem (hdigits number), h,
      suffixDigits_append hother (hdigits otherNumber)]
  constructor
  · rw [hsuffix] at h
    exact List.append_cancel_right h
  · rw [← Decimal.ofDigitChars_natural number, hsuffix, Decimal.ofDigitChars_natural]

theorem split?_eq_none {name : List Char}
    (hnumbered : ∀ stem number, number ≤ maxIndex → EndsInNoDigit stem →
      name ≠ stem ++ Decimal.natural number)
    (hoverlong : ∀ stem numeral, ¬ IsOverlong name stem numeral) : split? name = .ok none := by
  cases h : split? name with
  | error fault =>
      obtain ⟨stem, numeral, hlong, -⟩ := split?_eq_error_iff.mp h
      exact absurd hlong (hoverlong stem numeral)
  | ok found =>
      cases found with
      | none => rfl
      | some found =>
          obtain ⟨stem, number⟩ := found
          obtain ⟨hle, hname, hstem⟩ := split?_eq_some_iff.mp h
          exact absurd hname (hnumbered stem number hle hstem)

end NumberedName

theorem Fault.message_numeralTooLong (digits : Nat) :
    (numeralTooLong digits).message =
      "Exceeds the limit (4300 digits) for integer string conversion: value has " ++
        String.ofList (Decimal.natural digits) ++
        " digits; use sys.set_int_max_str_digits() to increase the limit" := by
  have hlimit : "Exceeds the limit (" ++ String.ofList (Decimal.natural maxNumeralDigits) ++
      " digits) for integer string conversion: value has " =
        "Exceeds the limit (4300 digits) for integer string conversion: value has " := by
    decide
  rw [← hlimit]
  exact rfl

namespace NumberedName

/--
Splitting a name undoes appending a plain numeral of 32 bits to a stem that ends in no digit.  Only
the longest run of ASCII digits at the end of a name counts.  The name is refused if this run has
too many digits and no leading zero, and every other name that is not numbered has no split.
-/
theorem split?_inverts_append (name : List Char) :
    (∀ stem number, split? name = .ok (some (stem, number)) ↔
      number < 2 ^ 32 ∧ name = stem ++ Decimal.natural number ∧ EndsInNoDigit stem) ∧
    (∀ fault, split? name = .error fault ↔ ∃ stem numeral,
      IsOverlong name stem numeral ∧ fault = .numeralTooLong numeral.length) ∧
    (∀ digits, (Fault.numeralTooLong digits).message =
      "Exceeds the limit (4300 digits) for integer string conversion: value has " ++
        String.ofList (Decimal.natural digits) ++
        " digits; use sys.set_int_max_str_digits() to increase the limit") ∧
    ((∀ stem number, number < 2 ^ 32 → EndsInNoDigit stem →
        name ≠ stem ++ Decimal.natural number) →
      (∀ stem numeral, ¬ IsOverlong name stem numeral) → split? name = .ok none) ∧
    (∀ stem number, EndsInNoDigit stem → number < 2 ^ 32 →
      split? (stem ++ Decimal.natural number) = .ok (some (stem, number))) ∧
    (∀ stem number other otherNumber, EndsInNoDigit stem → EndsInNoDigit other →
      name = stem ++ Decimal.natural number → name = other ++ Decimal.natural otherNumber →
        stem = other ∧ number = otherNumber) ∧
    ∀ c ∈ suffixDigits name, 48 ≤ c.toNat ∧ c.toNat ≤ 57 := by
  simp only [lt_two_pow_iff_le_maxIndex]
  refine ⟨?_, ?_, Fault.message_numeralTooLong, split?_eq_none, ?_, ?_, ?_⟩
  · intro stem number
    exact split?_eq_some_iff
  · intro fault
    exact split?_eq_error_iff
  · intro stem number hstem hle
    exact split?_eq_some_iff.mpr ⟨hle, rfl, hstem⟩
  · rintro stem number other otherNumber hstem hother rfl h
    exact eq_of_append_natural_eq hstem hother h
  · intro c hc
    have hdigit := isDigit_of_mem_suffixDigits hc
    simp only [Char.isDigit, Bool.and_eq_true, decide_eq_true_eq] at hdigit
    exact hdigit

theorem split?_inverts_append_arabicDigit :
    EndsInNoDigit ['v', '\u0663'] ∧
      split? ['v', '\u0663', '7'] = .ok (some (['v', '\u0663'], 7)) := by
  have hstem : EndsInNoDigit ['v', '\u0663'] := by
    intro c hlast
    obtain rfl : '\u0663' = c := Option.some.inj hlast
    decide
  obtain ⟨-, -, -, -, happend, -⟩ := split?_inverts_append ['v', '\u0663', '7']
  exact ⟨hstem, happend ['v', '\u0663'] 7 hstem (by decide)⟩

end NumberedName

end IRLexer
