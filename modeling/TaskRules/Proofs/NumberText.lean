import TaskRules.Json.Reader
import TaskRules.Number.Written
import TaskRules.Proofs.ShortestDigits

/-!
Numbers as JSON text, written and read back. A text of a number is a sign, whole digits, and
perhaps places and an exponent; each part is read from its own text when what follows cannot go on
with it. Doubles are written in one of three layouts, and every layout writes the value of the
shortest decimal.

Proved:
- `readNumber_decimal`: an integer of no more digits than may be read is read from its numeral.
- `ofGrid_isWritten`, `ofGrid_value`: the digits and the exponent that a decimal is written with.
- `readNumber_small`, `readNumber_positional`, `readNumber_exponent`: the three layouts.
- `readNumber_text`: a finite double is read from its text.
-/

namespace TaskRules.Json

/-! ## Digits -/

/-- A text of ASCII digits. -/
def AreDigits (cs : List Char) : Prop := ∀ c ∈ cs, isAsciiDigit c = true

/-- A text that does not go on with a digit. -/
def EndsDigits (rest : List Char) : Prop := ∀ c ∈ rest.head?, isAsciiDigit c = false

theorem takeWhile_digits {ds rest : List Char} (hd : AreDigits ds) (hr : EndsDigits rest) :
    (ds ++ rest).takeWhile isAsciiDigit = ds := by
  rw [List.takeWhile_append_of_pos hd]
  cases rest with
  | nil => simp
  | cons c rest => simp [hr c rfl]

theorem dropWhile_digits {ds rest : List Char} (hd : AreDigits ds) (hr : EndsDigits rest) :
    (ds ++ rest).dropWhile isAsciiDigit = rest := by
  rw [List.dropWhile_append_of_pos hd]
  cases rest with
  | nil => rfl
  | cons c rest => simp [hr c rfl]

theorem natOf_eq (cs : List Char) : natOf cs = Nat.ofDigitChars 10 cs 0 :=
  Nat.ofDigitChars_eq_foldl.symm

theorem natOf_append (a b : List Char) : natOf (a ++ b) = natOf a * 10 ^ b.length + natOf b := by
  simp only [natOf_eq, Nat.ofDigitChars_append]
  rw [Nat.ofDigitChars_eq_ofDigitChars_zero, Nat.mul_comm]

theorem natOf_zeros (n : Nat) : natOf (List.replicate n '0') = 0 := by
  rw [natOf_eq, Nat.ofDigitChars_replicate_zero, Nat.mul_zero]

theorem natOf_toDigits (n : Nat) : natOf (Nat.toDigits 10 n) = n := by
  rw [natOf_eq, Nat.ofDigitChars_ten_toDigits]

theorem isAsciiDigit_of_isDigit {c : Char} (h : c.isDigit = true) : isAsciiDigit c = true := by
  rw [Char.isDigit, Bool.and_eq_true, decide_eq_true_eq, decide_eq_true_eq] at h
  rw [isAsciiDigit, Bool.and_eq_true, decide_eq_true_eq, decide_eq_true_eq]
  exact h

theorem toDigits_areDigits (n : Nat) : AreDigits (Nat.toDigits 10 n) := fun _ hc =>
  isAsciiDigit_of_isDigit (Nat.isDigit_of_mem_toDigits (by decide) (by decide) hc)

theorem digitChar_ne_zero : ∀ n < 10, 0 < n → n.digitChar ≠ '0' := by decide

/-- The digits of a positive number do not start with a zero. -/
theorem toDigits_head {n : Nat} (h0 : 0 < n) :
    ∃ c rest, Nat.toDigits 10 n = c :: rest ∧ c ≠ '0' := by
  induction n using Nat.strongRecOn with
  | ind n ih =>
    by_cases h : n < 10
    · exact ⟨_, [], Nat.toDigits_of_lt_base h, digitChar_ne_zero n h h0⟩
    · obtain ⟨c, rest, hd, hc⟩ := ih (n / 10) (by omega) (by omega)
      exact ⟨c, _, by rw [Nat.toDigits_of_base_le (by decide) (by omega), hd]; rfl, hc⟩

/-! ## Reading a number -/

/-- The sign of a number, and what follows it. -/
def signOf (cs : List Char) : Bool × List Char :=
  match cs with
  | '-' :: r => (true, r)
  | r => (false, r)

/-- The whole part of a number without its sign. -/
def wholeOf (body : List Char) : List Char :=
  match body with
  | '0' :: _ => ['0']
  | r => r.takeWhile isAsciiDigit

/-- What a number is read as whose whole part stands before a text. -/
def numberAfter (negative : Bool) (whole tail : List Char) : Except ReadFault (Json × List Char) :=
  let (places, rest) := fraction tail
  let (power, rest) := exponent? rest
  if places.isEmpty && power.isNone then
    if whole.length > maxDigits then .error (.tooManyDigits whole.length)
    else
      let n : Int := natOf whole
      .ok (.int (if negative then -n else n), rest)
  else
    let digits := natOf (whole ++ places)
    .ok (.double (.ofDecimal negative digits (power.getD 0 - places.length)), rest)

theorem readNumber_parts (cs : List Char) :
    readNumber cs =
      let (negative, body) := signOf cs
      let whole := wholeOf body
      if whole.isEmpty then .error (.malformed cs.length)
      else numberAfter negative whole (body.drop whole.length) :=
  rfl

/-- The whole part of a number: a zero, or digits that do not start with one. -/
def IsWhole (whole : List Char) : Prop :=
  whole = ['0'] ∨ AreDigits whole ∧ ∃ c rest, whole = c :: rest ∧ c ≠ '0'

/-- The sign of a number. -/
def signText (negative : Bool) : List Char := if negative then ['-'] else []

theorem IsWhole.exists_head {whole : List Char} (h : IsWhole whole) :
    ∃ c rest, whole = c :: rest ∧ isAsciiDigit c = true := by
  rcases h with rfl | ⟨hd, c, rest, rfl, -⟩
  · exact ⟨_, _, rfl, by decide⟩
  · exact ⟨_, _, rfl, hd c (List.mem_cons_self ..)⟩

theorem signOf_text (negative : Bool) {c : Char} (hc : isAsciiDigit c = true) (rest : List Char) :
    signOf (signText negative ++ c :: rest) = (negative, c :: rest) := by
  have hm : c ≠ '-' := by
    rintro rfl
    exact absurd hc (by decide)
  cases negative with
  | true => rfl
  | false =>
    show signOf (c :: rest) = _
    unfold signOf
    split
    · rename_i h
      exact absurd (List.cons.inj h).1 hm
    · rfl

theorem wholeOf_append {whole tail : List Char} (hw : IsWhole whole) (ht : EndsDigits tail) :
    wholeOf (whole ++ tail) = whole := by
  rcases hw with rfl | ⟨hd, c, rest, rfl, hc⟩
  · rfl
  · unfold wholeOf
    split
    · rename_i h
      exact absurd (List.cons.inj h).1 hc
    · exact takeWhile_digits hd ht

theorem readNumber_eq (negative : Bool) {whole tail : List Char} (hw : IsWhole whole)
    (ht : EndsDigits tail) :
    readNumber (signText negative ++ (whole ++ tail)) = numberAfter negative whole tail := by
  obtain ⟨c, rest, hcons, hc⟩ := hw.exists_head
  have hsign : signOf (signText negative ++ (whole ++ tail)) = (negative, whole ++ tail) := by
    subst hcons
    exact signOf_text negative hc (rest ++ tail)
  have hne : whole.isEmpty = false := by rw [hcons]; rfl
  rw [readNumber_parts, hsign]
  dsimp only
  rw [wholeOf_append hw ht, hne, List.drop_left]
  rfl

/-! ## Fractions and exponents -/

/-- A text goes on with nothing that belongs to a number. -/
def EndsNumber (rest : List Char) : Prop :=
  ∀ c ∈ rest.head?, isAsciiDigit c = false ∧ c ≠ '.' ∧ c ≠ 'e' ∧ c ≠ 'E'

theorem EndsNumber.endsDigits {rest : List Char} (h : EndsNumber rest) : EndsDigits rest :=
  fun c hc => (h c hc).1

theorem endsDigits_point (cs : List Char) : EndsDigits ('.' :: cs) := by
  intro c hc
  cases hc
  decide

theorem endsDigits_exponent (cs : List Char) : EndsDigits ('e' :: cs) := by
  intro c hc
  cases hc
  decide

theorem fraction_none {tail : List Char} (h : tail.head? ≠ some '.') :
    fraction tail = ([], tail) := by
  unfold fraction
  split
  · exact absurd rfl h
  · rfl

theorem fraction_some {places tail : List Char} (hp : AreDigits places) (hne : places ≠ [])
    (ht : EndsDigits tail) : fraction ('.' :: (places ++ tail)) = (places, tail) := by
  rw [fraction, takeWhile_digits hp ht, dropWhile_digits hp ht, if_neg]
  simpa using hne

theorem exponent_none {rest : List Char} (h : EndsNumber rest) : exponent? rest = (none, rest) := by
  cases rest with
  | nil => rfl
  | cons c rest =>
    obtain ⟨-, -, h1, h2⟩ := h c rfl
    simp [exponent?, h1, h2]

/-- The sign of an exponent. -/
def exponentSign (negative : Bool) : Char := if negative then '-' else '+'

/-- What an exponent is read as after its sign. -/
def exponentAfter (negative : Bool) (body cs : List Char) : Option Int × List Char :=
  let digits := body.takeWhile isAsciiDigit
  if digits.isEmpty then (none, cs)
  else
    (some (if negative then -(natOf digits : Int) else natOf digits), body.dropWhile isAsciiDigit)

theorem exponent_signed (negative : Bool) (body : List Char) :
    exponent? ('e' :: exponentSign negative :: body) =
      exponentAfter negative body ('e' :: exponentSign negative :: body) := by
  cases negative <;> rfl

theorem exponent_some (negative : Bool) {digits rest : List Char} (hd : AreDigits digits)
    (hne : digits ≠ []) (hr : EndsDigits rest) :
    exponent? ('e' :: exponentSign negative :: (digits ++ rest)) =
      (some (if negative then -(natOf digits : Int) else natOf digits), rest) := by
  have hempty : digits.isEmpty = false := by simpa using hne
  rw [exponent_signed, exponentAfter, takeWhile_digits hd hr, dropWhile_digits hd hr, hempty]
  rfl

/-! ## Integers -/

theorem isWhole_toDigits (n : Nat) : IsWhole (Nat.toDigits 10 n) := by
  rcases Nat.eq_zero_or_pos n with rfl | h
  · exact .inl (Nat.toDigits_zero 10)
  · exact .inr ⟨toDigits_areDigits n, toDigits_head h⟩

theorem decimal_toList (n : Int) :
    (decimal n).toList = signText (decide (n < 0)) ++ Nat.toDigits 10 n.natAbs := by
  by_cases h : n < 0 <;> simp [decimal, signText, h]

/-- An integer that is not too long is read from its numeral. -/
theorem readNumber_decimal {n : Int} (hn : n.natAbs < 10 ^ maxDigits) {rest : List Char}
    (hr : EndsNumber rest) : readNumber ((decimal n).toList ++ rest) = .ok (.int n, rest) := by
  have hlength : ¬(Nat.toDigits 10 n.natAbs).length > maxDigits := by
    rw [Nat.not_lt]
    exact (Nat.length_toDigits_le_iff (by decide) (by decide)).mpr hn
  have hfraction : fraction rest = ([], rest) := by
    refine fraction_none fun h => ?_
    exact (hr '.' h).2.1 rfl
  rw [decimal_toList, List.append_assoc, readNumber_eq _ (isWhole_toDigits _) hr.endsDigits,
    numberAfter, hfraction]
  dsimp only
  rw [exponent_none hr]
  simp only [List.isEmpty_nil, Option.isNone_none, Bool.and_self, if_true, if_neg hlength,
    natOf_toDigits]
  by_cases h : n < 0
  · simp only [h, decide_true, if_true]
    rw [show (-(n.natAbs : Int)) = n by omega]
  · simp only [h, decide_false]
    rw [if_neg (by decide), show (n.natAbs : Int) = n by omega]

end TaskRules.Json

namespace TaskRules.Double.Scientific

open Json (AreDigits natOf natOf_append natOf_zeros natOf_toDigits)

/-! ## Decimals of doubles -/

/-- The number that a decimal writes. -/
def value (d : Scientific) : ℚ :=
  decimalValue (natOf d.digits) (d.exponent + 1 - d.digits.length)

/-- Digits of a positive number: none but digits, the first of them no zero. -/
structure IsWritten (d : Scientific) : Prop where
  digits : AreDigits d.digits
  head : ∃ c rest, d.digits = c :: rest ∧ c ≠ '0'

/-- The zeros at the end of a text, and the text before them. -/
theorem exists_zeros (cs : List Char) :
    ∃ zeros, cs = (cs.reverse.dropWhile (· == '0')).reverse ++ List.replicate zeros '0' := by
  refine ⟨(cs.reverse.takeWhile (· == '0')).length, ?_⟩
  have htake : cs.reverse.takeWhile (· == '0') =
      List.replicate (cs.reverse.takeWhile (· == '0')).length '0' := by
    refine List.eq_replicate_length.mpr fun c hc => ?_
    simpa using List.all_eq_true.mp List.all_takeWhile c hc
  have hsplit := List.takeWhile_append_dropWhile (p := (· == '0')) (l := cs.reverse)
  calc cs = (cs.reverse.takeWhile (· == '0') ++ cs.reverse.dropWhile (· == '0')).reverse := by
        rw [hsplit, List.reverse_reverse]
    _ = _ := by
        rw [List.reverse_append]
        conv_lhs => rw [htake, List.reverse_replicate]

theorem ofGrid_isWritten (power : Int) (count : Nat) {c : Nat} (hc : 0 < c) :
    (ofGrid power count c).IsWritten := by
  obtain ⟨zeros, hz⟩ := exists_zeros (Nat.toDigits 10 c)
  have hdigits : (ofGrid power count c).digits =
      ((Nat.toDigits 10 c).reverse.dropWhile (· == '0')).reverse := rfl
  obtain ⟨a, rest, ha, hne⟩ := Json.toDigits_head hc
  constructor
  · intro x hx
    refine Json.toDigits_areDigits c x ?_
    rw [hz]
    exact List.mem_append_left _ (hdigits ▸ hx)
  · rw [hdigits]
    cases hs : ((Nat.toDigits 10 c).reverse.dropWhile (· == '0')).reverse with
    | nil =>
      rw [hs, List.nil_append, ha] at hz
      have : a ∈ List.replicate zeros '0' := hz ▸ List.mem_cons_self ..
      exact absurd (List.eq_of_mem_replicate this) hne
    | cons b bs =>
      rw [hs, ha] at hz
      refine ⟨b, bs, rfl, ?_⟩
      have : a = b := (List.cons.inj hz).1
      exact this ▸ hne

theorem decimalValue_shift (digits zeros : Nat) (exponent : Int) :
    decimalValue (digits * 10 ^ zeros) exponent = decimalValue digits (exponent + zeros) := by
  rw [decimalValue, decimalValue, zpow_add₀ (by norm_num), zpow_natCast]
  push_cast
  ring

/-- The decimal of a grid's point writes that point. -/
theorem ofGrid_value (power : Int) (count c : Nat) :
    (ofGrid power count c).value = decimalValue c (power - count + 1) := by
  obtain ⟨zeros, hz⟩ := exists_zeros (Nat.toDigits 10 c)
  have hdigits : (ofGrid power count c).digits =
      ((Nat.toDigits 10 c).reverse.dropWhile (· == '0')).reverse := rfl
  have hexponent : (ofGrid power count c).exponent =
      power + ((Nat.toDigits 10 c).length - count) := rfl
  rw [← hdigits] at hz
  have hc : c = natOf (ofGrid power count c).digits * 10 ^ zeros := by
    conv_lhs => rw [← natOf_toDigits c, hz, natOf_append, natOf_zeros, List.length_replicate,
      Nat.add_zero]
  have hlength : (Nat.toDigits 10 c).length = (ofGrid power count c).digits.length + zeros := by
    conv_lhs => rw [hz, List.length_append, List.length_replicate]
  rw [value, hexponent, hlength]
  conv_rhs => rw [hc, decimalValue_shift]
  congr 1
  push_cast
  ring

end TaskRules.Double.Scientific

namespace TaskRules.Json

theorem numberAfter_double {negative : Bool} {whole tail places next rest : List Char}
    {power : Option Int} (h1 : fraction tail = (places, next)) (h2 : exponent? next = (power, rest))
    (h : places ≠ [] ∨ power ≠ none) :
    numberAfter negative whole tail =
      .ok (.double (.ofDecimal negative (natOf (whole ++ places))
        (power.getD 0 - places.length)), rest) := by
  rw [numberAfter, h1]
  dsimp only
  rw [h2]
  dsimp only
  rw [if_neg]
  rw [Bool.and_eq_true, List.isEmpty_iff, Option.isNone_iff_eq_none]
  rcases h with h | h
  · exact fun hp => h hp.1
  · exact fun hp => h hp.2

section Doubles
open Double (Scientific IsRepresentable Near decimalValue one limit)
variable {steps : Nat} (rep : IsRepresentable steps) (pos : 0 < steps) (fits : steps < limit)
  {d : Scientific} (hd : d.IsWritten) (near : Near steps (d.value * one)) (negative : Bool)
  {rest : List Char} (hr : EndsNumber rest)
include rep pos fits near

/-- A number is read as a double when it writes what the double's decimal writes. -/
theorem readNumber_double {whole tail places next rest : List Char} {power : Option Int}
    (hw : IsWhole whole) (ht : EndsDigits tail) (h1 : fraction tail = (places, next))
    (h2 : exponent? next = (power, rest)) (h : places ≠ [] ∨ power ≠ none)
    (hv : decimalValue (natOf (whole ++ places)) (power.getD 0 - places.length) = d.value) :
    readNumber (signText negative ++ (whole ++ tail)) =
      .ok (.double (.finite negative steps), rest) := by
  rw [readNumber_eq negative hw ht, numberAfter_double h1 h2 h,
    Double.ofDecimal_of_near rep pos fits (hv ▸ near)]

include hd hr

/-- A decimal below one, written with zeros after the point. -/
theorem readNumber_small (he : d.exponent < 0) :
    readNumber (signText negative ++ ('0' :: '.' ::
        (List.replicate ((-d.exponent).toNat - 1) '0' ++ d.digits) ++ rest)) =
      .ok (.double (.finite negative steps), rest) := by
  obtain ⟨c, cs, hcs, -⟩ := hd.head
  set zeros := (-d.exponent).toNat - 1 with hz
  have hp : AreDigits (List.replicate zeros '0' ++ d.digits) := by
    intro x hx
    rcases List.mem_append.mp hx with hx | hx
    · rw [List.eq_of_mem_replicate hx]
      decide
    · exact hd.digits x hx
  have hne : List.replicate zeros '0' ++ d.digits ≠ [] := by
    rw [hcs]
    exact List.append_ne_nil_of_right_ne_nil _ (List.cons_ne_nil _ _)
  show readNumber (signText negative ++ (['0'] ++ ('.' ::
    (List.replicate zeros '0' ++ d.digits ++ rest)))) = _
  refine readNumber_double rep pos fits near negative (.inl rfl) (endsDigits_point _)
    (fraction_some hp hne hr.endsDigits) (exponent_none hr) (.inl hne) ?_
  have hn : natOf (['0'] ++ (List.replicate zeros '0' ++ d.digits)) = natOf d.digits := by
    rw [natOf_append, natOf_append, natOf_zeros]
    simp [natOf]
  rw [hn, Scientific.value, List.length_append, List.length_replicate]
  congr 1
  push_cast
  simp only [Option.getD_none]
  omega

/-- A decimal that is written with all its whole digits and a fraction, at least a zero. -/
theorem readNumber_positional (he : 0 ≤ d.exponent) :
    readNumber (signText negative ++
        (d.digits.take (d.exponent.toNat + 1) ++
          List.replicate
            (d.exponent.toNat + 1 - (d.digits.take (d.exponent.toNat + 1)).length) '0' ++
          '.' :: (if (d.digits.drop (d.exponent.toNat + 1)).isEmpty then ['0']
            else d.digits.drop (d.exponent.toNat + 1)) ++ rest)) =
      .ok (.double (.finite negative steps), rest) := by
  obtain ⟨c, cs, hcs, hc0⟩ := hd.head
  obtain ⟨e, he⟩ := Int.eq_ofNat_of_zero_le he
  rw [he, Int.toNat_natCast]
  set zeros := List.replicate (e + 1 - (d.digits.take (e + 1)).length) '0' with hz
  set places := if (d.digits.drop (e + 1)).isEmpty then ['0'] else d.digits.drop (e + 1) with hp
  have hw : IsWhole (d.digits.take (e + 1) ++ zeros) := by
    refine .inr ⟨?_, c, cs.take e ++ zeros, by rw [hcs]; rfl, hc0⟩
    intro x hx
    rcases List.mem_append.mp hx with hx | hx
    · exact hd.digits x (List.mem_of_mem_take hx)
    · rw [List.eq_of_mem_replicate hx]
      decide
  have hplaces : AreDigits places ∧ places ≠ [] := by
    rw [hp]
    split
    · exact ⟨fun x hx => by rw [List.mem_singleton.mp hx]; decide, List.cons_ne_nil _ _⟩
    · rename_i h
      exact ⟨fun x hx => hd.digits x (List.mem_of_mem_drop hx), by simpa using h⟩
  have hshape : d.digits.take (e + 1) ++ zeros ++ '.' :: places ++ rest =
      (d.digits.take (e + 1) ++ zeros) ++ '.' :: (places ++ rest) := by simp
  rw [hshape]
  refine readNumber_double rep pos fits near negative hw (endsDigits_point _)
    (fraction_some hplaces.1 hplaces.2 hr.endsDigits) (exponent_none hr) (.inl hplaces.2) ?_
  rw [Scientific.value, he, Option.getD_none]
  by_cases hlong : d.digits.length ≤ e + 1
  · -- all digits are whole ones, and zeros follow
    have hdrop : d.digits.drop (e + 1) = [] := List.drop_eq_nil_of_le hlong
    have htake : d.digits.take (e + 1) = d.digits := List.take_of_length_le hlong
    rw [hdrop, List.isEmpty_nil, if_pos rfl] at hp
    rw [htake] at hz
    have hn : natOf (d.digits.take (e + 1) ++ zeros ++ places) =
        natOf d.digits * 10 ^ (e + 1 - d.digits.length + 1) := by
      rw [htake, hp, hz, natOf_append, natOf_append, natOf_zeros, List.length_replicate]
      simp only [natOf, List.foldl, List.length_singleton]
      rw [pow_succ]
      ring_nf
      rfl
    rw [hn, Scientific.decimalValue_shift, hp]
    congr 1
    push_cast [Nat.cast_sub hlong, List.length_singleton]
    ring
  · have hdrop : d.digits.drop (e + 1) ≠ [] := by
      rw [Ne, List.drop_eq_nil_iff]
      exact hlong
    have hlen : e + 1 - (d.digits.take (e + 1)).length = 0 := by
      rw [List.length_take]
      omega
    rw [if_neg (by simpa using hdrop)] at hp
    rw [hlen, List.replicate_zero] at hz
    rw [hz, hp, List.append_nil, List.take_append_drop, List.length_drop]
    congr 1
    omega

omit rep pos fits near hd hr in
theorem exponentText_eq (e : Int) :
    ∃ zeros, DoubleLayout.json.exponentText e =
      'e' :: exponentSign (decide (e < 0)) ::
        (List.replicate zeros '0' ++ Nat.toDigits 10 e.natAbs) := by
  refine ⟨DoubleLayout.json.exponentWidth - (Nat.toDigits 10 e.natAbs).length, ?_⟩
  by_cases h : e < 0
  · simp only [h, decide_true]
    rw [DoubleLayout.exponentText, if_pos h]
    rfl
  · simp only [h, decide_false]
    rw [DoubleLayout.exponentText, if_neg h]
    rfl

omit rep pos fits near hd in
theorem exponent_text (e : Int) :
    exponent? (DoubleLayout.json.exponentText e ++ rest) = (some e, rest) := by
  obtain ⟨zeros, h⟩ := exponentText_eq e
  have hdigits : AreDigits (List.replicate zeros '0' ++ Nat.toDigits 10 e.natAbs) := by
    intro x hx
    rcases List.mem_append.mp hx with hx | hx
    · rw [List.eq_of_mem_replicate hx]
      decide
    · exact toDigits_areDigits _ x hx
  have hne : List.replicate zeros '0' ++ Nat.toDigits 10 e.natAbs ≠ [] :=
    List.append_ne_nil_of_right_ne_nil _ Nat.toDigits_ne_nil
  rw [h, List.cons_append, List.cons_append, exponent_some _ hdigits hne hr.endsDigits,
    natOf_append, natOf_zeros, natOf_toDigits, Nat.zero_mul, Nat.zero_add]
  by_cases hneg : e < 0
  · simp only [hneg, decide_true, if_true]
    rw [show (-(e.natAbs : Int)) = e by omega]
  · simp only [hneg, decide_false]
    rw [if_neg (by decide), show (e.natAbs : Int) = e by omega]

omit rep pos fits near hd hr in
theorem exponentText_cons (e : Int) :
    ∃ cs, DoubleLayout.json.exponentText e = 'e' :: cs := by
  obtain ⟨zeros, h⟩ := exponentText_eq e
  exact ⟨_, h⟩

/-- A decimal that is written with an exponent. -/
theorem readNumber_exponent :
    readNumber (signText negative ++ ((match d.digits with
      | [] => []
      | [c] => c :: DoubleLayout.json.exponentText d.exponent
      | c :: cs => c :: '.' :: (cs ++ DoubleLayout.json.exponentText d.exponent)) ++ rest)) =
      .ok (.double (.finite negative steps), rest) := by
  obtain ⟨c, cs, hcs, hc0⟩ := hd.head
  obtain ⟨more, hmore⟩ := exponentText_cons d.exponent
  have hpower := exponent_text hr d.exponent
  have hw : IsWhole [c] := by
    refine .inr ⟨fun x hx => ?_, c, [], rfl, hc0⟩
    rw [List.mem_singleton.mp hx]
    exact hd.digits c (hcs ▸ List.mem_cons_self ..)
  have hends : EndsDigits (DoubleLayout.json.exponentText d.exponent ++ rest) := by
    rw [hmore]
    exact endsDigits_exponent _
  rw [hcs]
  cases cs with
  | nil =>
    have hfraction : fraction (DoubleLayout.json.exponentText d.exponent ++ rest) =
        ([], DoubleLayout.json.exponentText d.exponent ++ rest) := by
      refine fraction_none ?_
      rw [hmore]
      simp
    show readNumber (signText negative ++ ([c] ++
      (DoubleLayout.json.exponentText d.exponent ++ rest))) = _
    refine readNumber_double rep pos fits near negative hw hends hfraction hpower
      (.inr (by simp)) ?_
    rw [Scientific.value, hcs]
    simp
  | cons c2 cs =>
    have hp : AreDigits (c2 :: cs) := fun x hx =>
      hd.digits x (hcs ▸ List.mem_cons_of_mem _ hx)
    have hfraction := fraction_some hp (List.cons_ne_nil _ _) hends
    show readNumber (signText negative ++ ([c] ++ ('.' ::
      ((c2 :: cs ++ DoubleLayout.json.exponentText d.exponent) ++ rest)))) = _
    rw [List.append_assoc (c2 :: cs)]
    refine readNumber_double rep pos fits near negative hw (endsDigits_point _) hfraction hpower
      (.inr (by simp)) ?_
    rw [Scientific.value, hcs]
    congr 1
    simp

/-- The text of a positive decimal is read as the double that it is near to. -/
theorem readNumber_scientific :
    readNumber (signText negative ++ (DoubleLayout.json.scientificText d ++ rest)) =
      .ok (.double (.finite negative steps), rest) := by
  unfold DoubleLayout.scientificText
  dsimp only
  split
  · split
    · exact readNumber_small rep pos fits hd near negative hr ‹_›
    · exact readNumber_positional rep pos fits hd near negative hr (by omega)
  · exact readNumber_exponent rep pos fits hd near negative hr

end Doubles

/-- How numbers are written: a sign if they are negative, then a digit. -/
def StartsNumber (cs : List Char) : Prop :=
  ∃ negative c rest, cs = signText negative ++ c :: rest ∧ isAsciiDigit c = true

theorem StartsNumber.append {cs : List Char} (h : StartsNumber cs) (rest : List Char) :
    StartsNumber (cs ++ rest) := by
  obtain ⟨negative, c, more, rfl, hc⟩ := h
  exact ⟨negative, c, more ++ rest, by simp, hc⟩

theorem decimal_startsNumber (n : Int) : StartsNumber (decimal n).toList := by
  obtain ⟨c, rest, h, hc⟩ := (isWhole_toDigits n.natAbs).exists_head
  exact ⟨_, c, rest, by rw [decimal_toList, h], hc⟩

theorem scientificText_startsNumber {d : Double.Scientific} (hd : d.IsWritten) :
    ∃ c rest, DoubleLayout.json.scientificText d = c :: rest ∧ isAsciiDigit c = true := by
  obtain ⟨c, cs, hcs, -⟩ := hd.head
  have hc : isAsciiDigit c = true := hd.digits c (hcs ▸ List.mem_cons_self ..)
  unfold DoubleLayout.scientificText
  rw [hcs]
  dsimp only
  split
  · split
    · exact ⟨_, _, rfl, by decide⟩
    · exact ⟨c, _, rfl, hc⟩
  · cases cs with
    | nil => exact ⟨c, _, rfl, hc⟩
    | cons c2 cs => exact ⟨c, _, rfl, hc⟩

theorem double_toList (negative : Bool) {steps : Nat} (pos : 0 < steps) :
    (DoubleLayout.json.text (.finite negative steps)).toList =
      signText negative ++ DoubleLayout.json.scientificText (Double.shortest steps) := by
  obtain ⟨n, rfl⟩ := Nat.exists_eq_succ_of_ne_zero pos.ne'
  cases negative <;> simp [DoubleLayout.text, signText]

theorem zero_toList (negative : Bool) :
    (DoubleLayout.json.text (.finite negative 0)).toList =
      signText negative ++ (['0'] ++ ('.' :: (['0'] ++ []))) := by
  cases negative <;> rfl

/-- A finite double is read from its text. -/
theorem readNumber_text {negative : Bool} {steps : Nat}
    (h : (Double.finite negative steps).InFormat) {rest : List Char} (hr : EndsNumber rest) :
    readNumber ((DoubleLayout.json.text (.finite negative steps)).toList ++ rest) =
      .ok (.double (.finite negative steps), rest) := by
  rcases Nat.eq_zero_or_pos steps with rfl | pos
  · have hfraction : fraction ('.' :: (['0'] ++ rest)) = (['0'], rest) :=
      fraction_some (by intro x hx; rw [List.mem_singleton.mp hx]; decide) (List.cons_ne_nil _ _)
        hr.endsDigits
    rw [zero_toList]
    show readNumber (signText negative ++ ['0', '.', '0'] ++ rest) = _
    rw [List.append_assoc]
    show readNumber (signText negative ++ (['0'] ++ ('.' :: (['0'] ++ rest)))) = _
    rw [readNumber_eq negative (.inl rfl) (endsDigits_point _),
      numberAfter_double hfraction (exponent_none hr) (.inl (List.cons_ne_nil _ _))]
    rfl
  · obtain ⟨power, count, c, hs, hc, near⟩ := Double.shortest_near h.1 pos h.2
    rw [double_toList negative pos, List.append_assoc, hs]
    rw [← Double.Scientific.ofGrid_value] at near
    exact readNumber_scientific h.1 pos h.2 (Double.Scientific.ofGrid_isWritten power count hc) near
      negative hr

theorem double_startsNumber {negative : Bool} {steps : Nat}
    (h : (Double.finite negative steps).InFormat) :
    StartsNumber (DoubleLayout.json.text (.finite negative steps)).toList := by
  rcases Nat.eq_zero_or_pos steps with rfl | pos
  · exact ⟨negative, '0', ['.', '0'], zero_toList negative, by decide⟩
  · obtain ⟨power, count, c, hs, hc, -⟩ := Double.shortest_near h.1 pos h.2
    obtain ⟨a, cs, htext, ha⟩ :=
      scientificText_startsNumber (Double.Scientific.ofGrid_isWritten power count hc)
    refine ⟨negative, a, cs, ?_, ha⟩
    rw [double_toList negative pos, hs, htext]

end TaskRules.Json
