/-!
Digits and numbers to a base between 2 and 16. Letters count as digits in either
case.
-/

namespace Wiring

def digitValue? (base : Nat) (letter : Char) : Option Nat :=
  let value :=
    if letter.isDigit then letter.toNat - 0x30
    else if 'a' ≤ letter ∧ letter ≤ 'f' then letter.toNat - 0x61 + 10
    else if 'A' ≤ letter ∧ letter ≤ 'F' then letter.toNat - 0x41 + 10
    else base
  if value < base then some value else none

def number? (base : Nat) (digits : List Char) : Option Nat :=
  if digits.isEmpty then none
  else digits.foldlM (fun value letter => (digitValue? base letter).map (value * base + ·)) 0

end Wiring
