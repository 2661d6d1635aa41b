/-!
# Powers

Powers of two and of ten, the scales of binary and of decimal numbers.
-/

namespace ScriptOutline

/-- Two to the power `n`. -/
abbrev twoPow (n : Nat) : Nat := Nat.pow 2 n

/-- Ten to the power `n`. -/
abbrev tenPow (n : Nat) : Nat := Nat.pow 10 n

end ScriptOutline
