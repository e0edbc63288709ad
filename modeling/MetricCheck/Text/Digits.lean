-- Integers in decimal digits: reading with an optional sign, and writing with
-- a minus sign where there is one.
namespace MetricCheck.Text

/-- A non-empty run of ASCII digits, read as a number. -/
def readNat (cs : List Char) : Option Nat :=
  if !cs.isEmpty && cs.all Char.isDigit then some (Nat.ofDigitChars 10 cs 0) else none

/-- One sign at most, then digits. -/
def readInt : List Char → Option Int
  | '-' :: cs => (readNat cs).map fun n => -(n : Int)
  | '+' :: cs => (readNat cs).map fun n => (n : Int)
  | cs => (readNat cs).map fun n => (n : Int)

/-- A minus sign for a negative number, then its digits. -/
def writeInt (n : Int) : List Char :=
  if n < 0 then '-' :: Nat.toDigits 10 n.natAbs else Nat.toDigits 10 n.natAbs

/-! ## Reading undoes writing -/

theorem readNat_toDigits (n : Nat) : readNat (Nat.toDigits 10 n) = some n := by
  have hne : Nat.toDigits 10 n ≠ [] := List.ne_nil_of_length_pos Nat.length_toDigits_pos
  have hd : (Nat.toDigits 10 n).all Char.isDigit := by
    rw [List.all_eq_true]
    exact fun c hc => Nat.isDigit_of_mem_toDigits (by decide) (by decide) hc
  simp [readNat, hd, hne, Nat.ofDigitChars_ten_toDigits]

/-- Text that begins with a digit is read without a sign. -/
theorem readInt_of_isDigit {c : Char} (h : c.isDigit) (cs : List Char) :
    readInt (c :: cs) = (readNat (c :: cs)).map fun n => (n : Int) := by
  unfold readInt
  split
  · rename_i heq; cases heq; exact absurd h (by decide)
  · rename_i heq; cases heq; exact absurd h (by decide)
  · rfl

theorem readInt_writeInt (n : Int) : readInt (writeInt n) = some n := by
  obtain ⟨c, cs, hcs⟩ := List.exists_cons_of_ne_nil
    (List.ne_nil_of_length_pos (Nat.length_toDigits_pos (b := 10) (n := n.natAbs)))
  have hc : c.isDigit :=
    Nat.isDigit_of_mem_toDigits (b := 10) (n := n.natAbs) (by decide) (by decide) (by simp [hcs])
  unfold writeInt
  split
  · have hn : -(n.natAbs : Int) = n := by omega
    rw [readInt, readNat_toDigits]
    exact congrArg some hn
  · have hn : (n.natAbs : Int) = n := by omega
    rw [hcs, readInt_of_isDigit hc, ← hcs, readNat_toDigits]
    exact congrArg some hn

end MetricCheck.Text
