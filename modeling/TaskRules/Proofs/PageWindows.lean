import TaskRules.Paging
import TaskRules.Proofs.DigitTexts

/-!
The window of a page. The text of the environment that caps the size of a page may be anything: what
is no decimal number of at least 1 falls back to a cap of its own. The test for such a text asks
whether it is all digits, and more is a digit than a numeral can have, so a garbled text of digits
passes the test and is a fault of the numeral.

Proved:
- `Page.cap_cases`: the cap that a text sets, or the fault of a garbled one.
- `Page.within_fits`, `Page.within_offset`: a window is in range, and a later page starts later.
- `page_windows_fit`: every window is in range under the cap of its text, except that a garbled text
  makes all of them a fault.
- `a_raised_cap_fails`: such a text.
-/

namespace TaskRules

namespace Page
open Numeral

/-- The text of the environment that is read for the cap. -/
def capText (e : Environment) : List Char := Text.trim ((e.get? capVariable).getD "").toList

/-- The cap that a text sets: the number of at least 1 that it denotes, or else the fallback. -/
inductive Caps (text : List Char) : Int → Prop
  | denoted {n : Nat} : Denotes text n → 1 ≤ n → Caps text n
  | fallback : (∀ n, Denotes text n → n < 1) → Caps text fallbackCap

/-- A text of digits that is no numeral. -/
def Misset (text : List Char) : Prop := Text.allDigits text = true ∧ Garbled text

theorem Caps.positive {text : List Char} {cap : Int} (h : Caps text cap) : 1 ≤ cap := by
  cases h with
  | denoted _ least => omega
  | fallback _ => decide

/-- A text sets one cap at most. -/
theorem Caps.unique {text : List Char} {a b : Int} (ha : Caps text a) (hb : Caps text b) :
    a = b := by
  cases ha with
  | denoted hm least =>
    cases hb with
    | denoted hn _ => rw [hm.unique hn]
    | fallback none' => exact absurd (none' _ hm) (by omega)
  | fallback none' =>
    cases hb with
    | denoted hn least => exact absurd (none' _ hn) (by omega)
    | fallback _ => rfl

theorem cap_of_digits {e : Environment} (digits : Text.allDigits (capText e) = true) {n : Int}
    (read : integer (capText e) = .ok n) :
    cap e = .ok (if n < 1 then fallbackCap else n) := by
  unfold capText at digits read
  simp only [cap, digits, read, if_true]

theorem cap_of_fault {e : Environment} (digits : Text.allDigits (capText e) = true)
    {fault : NumeralFault} (read : integer (capText e) = .error fault) : cap e = .error fault := by
  unfold capText at digits read
  simp only [cap, digits, read, if_true]

theorem cap_of_other {e : Environment} (other : ¬Text.allDigits (capText e) = true) :
    cap e = .ok fallbackCap := by
  unfold capText at other
  simp only [cap, if_neg other]

/-- The cap is the one that the text sets, or the text is garbled and its fault the cap's. -/
theorem cap_cases (e : Environment) :
    (¬Misset (capText e) ∧ ∃ n, Caps (capText e) n ∧ cap e = .ok n) ∨
      Misset (capText e) ∧ ∃ fault, cap e = .error fault := by
  by_cases digits : Text.allDigits (capText e) = true
  · rcases integer_cases digits with ⟨fine, n, denoted, read⟩ | ⟨garbled, fault, read⟩
    · refine .inl ⟨fun misset => fine misset.2, _, ?_, cap_of_digits digits read⟩
      by_cases small : (n : Int) < 1
      · rw [if_pos small]
        refine .fallback fun m hm => ?_
        rw [hm.unique denoted]
        omega
      · rw [if_neg small]
        exact .denoted denoted (by omega)
    · exact .inr ⟨⟨digits, garbled⟩, fault, cap_of_fault digits read⟩
  · exact .inl ⟨fun misset => digits misset.1, _,
      .fallback fun n hn => absurd (denotes_isDigit hn).1 digits, cap_of_other digits⟩

/-! ## Windows -/

/-- A window that is in range: a page that exists, no larger than the cap and not empty. -/
structure Fits (p : Page) (cap : Int) : Prop where
  number : 1 ≤ p.number
  size : 1 ≤ p.size
  capped : p.size ≤ cap
  offset : 0 ≤ p.offset

theorem within_fits {cap : Int} (h : 1 ≤ cap) (number size : Int) :
    (within cap number size).Fits cap where
  number := Int.le_max_right number 1
  size := Int.le_max_left 1 _
  capped := Int.max_le.mpr ⟨h, Int.min_le_right ..⟩
  offset := by
    have first : 0 ≤ max number 1 - 1 := by omega
    have least : 0 ≤ max 1 (min size cap) := by omega
    exact Int.mul_nonneg first least

/-- A later page starts later. -/
theorem within_offset (cap size : Int) {number later : Int} (first : 1 ≤ number)
    (h : number < later) : (within cap number size).offset < (within cap later size).offset := by
  have least : 0 < max 1 (min size cap) := by omega
  have sooner : max number 1 - 1 < max later 1 - 1 := by omega
  exact Int.mul_lt_mul_of_pos_right sooner least

/-- A page as it is answered, with the cap that it was cut to. -/
def asked (p : Page) (cap : Int) : PageAsked := ⟨.int p.number, .int p.size, .int p.offset, cap⟩

end Page

open Page

theorem lt_int (m n : Int) : Json.Numeric.lt (.int m) (.int n) = decide (m < n) := by
  rw [Json.Numeric.lt, Json.Numeric.le, Json.Numeric.same, Bool.eq_iff_iff]
  simp only [Bool.and_eq_true, decide_eq_true_eq, Bool.not_eq_true', beq_eq_false_iff_ne]
  omega

theorem larger_int (m n : Int) : (Json.int m).larger (.int n) = .ok (.int (max m n)) := by
  simp only [Json.larger, Json.numeric?, lt_int, decide_eq_true_eq]
  split <;> congr <;> omega

theorem smaller_int (m n : Int) : (Json.int m).smaller (.int n) = .ok (.int (min m n)) := by
  simp only [Json.smaller, Json.numeric?, lt_int, decide_eq_true_eq]
  split <;> congr <;> omega

/-- Whole numbers ask for the window within the cap, and for nothing where there is no cap. -/
theorem PageAsked.read_int (e : Environment) (number size : Int) :
    PageAsked.read e (.int number) (.int size) =
      match Page.cap e with
      | .ok cap => .ok ((within cap number size).asked cap)
      | .error fault => .error (.ofNumeral fault) := by
  rw [PageAsked.read, larger_int]
  cases Page.cap e with
  | error fault => rfl
  | ok cap =>
    have capped : (Except.ok cap : Except NumeralFault Int).mapError Fault.ofNumeral = .ok cap :=
      rfl
    have sized : (Json.int 1).larger (.int (min size cap)) = _ := larger_int ..
    simp only [bind, Except.bind, capped, smaller_int, sized, Json.numeric?, Json.Numeric.sub,
      Json.Numeric.mul]
    rfl

/-! ## Every window -/

/-- Whatever the text, and whatever page and size are asked for: the window is in range under the
cap that the text sets, and a later page starts later. The exception is a text of digits that is
garbled, which makes every window a fault of its numeral. -/
theorem page_windows_fit (e : Environment) :
    (¬Misset (capText e) ∧ ∃ cap, Caps (capText e) cap ∧ Page.cap e = .ok cap ∧
      (∀ number size, PageAsked.read e (.int number) (.int size) =
          .ok ((within cap number size).asked cap) ∧ (within cap number size).Fits cap) ∧
        ∀ number later size, 1 ≤ number → number < later →
          (within cap number size).offset < (within cap later size).offset) ∨
      Misset (capText e) ∧ ∃ fault, Page.cap e = .error fault ∧
        ∀ number size, PageAsked.read e (.int number) (.int size) = .error (.ofNumeral fault) := by
  rcases cap_cases e with ⟨fine, cap, caps, read⟩ | ⟨misset, fault, read⟩
  · refine .inl ⟨fine, cap, caps, read, fun number size => ⟨?_, ?_⟩,
      fun number later size => within_offset cap size⟩
    · rw [PageAsked.read_int, read]
    · exact within_fits caps.positive number size
  · refine .inr ⟨misset, fault, read, fun number size => ?_⟩
    rw [PageAsked.read_int, read]

/-- A raised two is a digit and denotes no number. -/
theorem a_raised_cap_fails :
    let e : Environment := ⟨[(capVariable, "²")]⟩
    (∀ n, ¬Numeral.Denotes (capText e) n) ∧
      ¬∃ window, PageAsked.read e (.int 1) (.int 50) = .ok window := by
  intro e
  have text : capText e = ['²'] := by decide
  have misset : Misset (capText e) := by
    rw [text]
    exact ⟨by decide, .inl ⟨'²', by decide, by decide⟩⟩
  constructor
  · intro n denoted
    exact (Numeral.denotes_isDigit denoted).2 misset.2
  · rintro ⟨window, h⟩
    rcases cap_cases e with ⟨fine, -⟩ | ⟨-, fault, failed⟩
    · exact fine misset
    · rw [PageAsked.read_int, failed] at h
      cases h

end TaskRules
