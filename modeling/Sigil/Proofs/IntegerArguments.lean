/-
# Integers as arguments

An integer is given to a library function as it is or by its decimal text.  Both read as the integer
itself, the text as long as it has no more digits than are read; a longer one is refused.
-/
import Sigil.Library.Function
import Sigil.Proofs.JsonNumbers

namespace Sigil

open Decimal (digitLimit isDigit_of_isAsciiDigit isAsciiDigit_of_mem_natDigits)

lemma Text.strip_eq_self {s : List Char} (h : ∀ c ∈ s, isBlank c = false) : strip s = s := by
  have hdrop (t : List Char) (ht : ∀ c ∈ t, isBlank c = false) : t.dropWhile isBlank = t := by
    cases t with
    | nil => rfl
    | cons c t => rw [List.dropWhile_cons_of_neg (by simp [ht c (by simp)])]
  rw [strip, stripLeft, stripRight, hdrop s h, hdrop s.reverse (by simpa using h),
    List.reverse_reverse]

lemma Decimal.isPlainInteger_ofInt (n : ℤ) : isPlainInteger (ofInt n).toList := by
  have hdigits : ∀ c ∈ natDigits n.natAbs, Text.isDigit c := fun c hc =>
    isDigit_of_isAsciiDigit (isAsciiDigit_of_mem_natDigits hc)
  rw [isPlainInteger, takeSign_ofInt]
  simpa [natDigits_ne_nil] using hdigits

namespace Library

/-- The decimal text of an integer is read as an integer. -/
lemma number_ofInt_eq (n : ℤ) :
    number (.text (Decimal.ofInt n)) =
      ((Decimal.readInt (Decimal.ofInt n)).mapError (·.fault)).map .int := by
  have hstrip : Text.strip (Decimal.ofInt n).toList = (Decimal.ofInt n).toList :=
    Text.strip_eq_self (Decimal.forall_ofInt_not_blank n)
  simp only [number, Value.toText, bind, Except.bind, hstrip, Decimal.isPlainInteger_ofInt, if_true,
    String.ofList_toList]
  cases Decimal.readInt (Decimal.ofInt n) <;> rfl

lemma number_ofInt {n : ℤ} (h : n.natAbs < 10 ^ digitLimit) :
    number (.text (Decimal.ofInt n)) = .ok (.int n) := by
  rw [number_ofInt_eq, Decimal.readInt_ofInt h]
  rfl

/-- A decimal text with more digits than are read is refused. -/
lemma number_ofInt_of_le {n : ℤ} (h : 10 ^ digitLimit ≤ n.natAbs) :
    number (.text (Decimal.ofInt n)) =
      .error (Decimal.NumeralError.tooManyDigits (Decimal.natDigits n.natAbs).length).fault := by
  have hlong : digitLimit < (Decimal.natDigits n.natAbs).length :=
    not_le.mp (mt (Decimal.length_natDigits_le_iff _).mp (not_lt.mpr h))
  rw [number_ofInt_eq, Decimal.readInt_ofInt_eq, if_pos hlong]
  rfl

/-- The argument is the integer, or its decimal text with no more digits than are read. -/
inductive GivesInteger : Value → ℤ → Prop
  /-- The integer itself. -/
  | whole (n : ℤ) : GivesInteger (.int n) n
  /-- The decimal text. -/
  | decimal {n : ℤ} : n.natAbs < 10 ^ digitLimit → GivesInteger (.text (Decimal.ofInt n)) n

lemma GivesInteger.number_eq {v : Value} {n : ℤ} (h : GivesInteger v n) :
    number v = .ok (.int n) := by
  cases h with
  | whole => rfl
  | decimal hn => exact number_ofInt hn

lemma GivesInteger.integer_eq {v : Value} {n : ℤ} (h : GivesInteger v n) : integer v = .ok n := by
  rw [integer, h.number_eq]
  rfl

end Library

end Sigil
