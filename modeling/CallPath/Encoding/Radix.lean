/-!
# Digits in a base

Numbers as lists of digits, most significant first. `digits b w n` writes the last `w` digits of
`n`, `ofDigits` reads a list of digits back; `ofDigits_digits` says that this gives back every
number below `b ^ w`.
-/

namespace CallPath.Encoding

/-- The last `w` digits of `n` in base `b`, most significant first. -/
def digits (b : Nat) : (w : Nat) → (n : Nat) → List Nat
  | 0, _ => []
  | w + 1, n => digits b w (n / b) ++ [n % b]

/-- The number whose digits in base `b` are given, most significant first. -/
def ofDigits (b : Nat) (ds : List Nat) : Nat :=
  ds.foldl (fun n d => n * b + d) 0

@[simp] theorem length_digits (b w n : Nat) : (digits b w n).length = w := by
  induction w generalizing n with
  | zero => rfl
  | succ w ih => simp [digits, ih]

theorem ofDigits_append_singleton (b : Nat) (ds : List Nat) (d : Nat) :
    ofDigits b (ds ++ [d]) = ofDigits b ds * b + d := by
  simp [ofDigits]

theorem lt_of_mem_digits {b : Nat} (hb : 0 < b) {w n d : Nat} (h : d ∈ digits b w n) : d < b := by
  induction w generalizing n with
  | zero => simp [digits] at h
  | succ w ih =>
    simp only [digits, List.mem_append, List.mem_singleton] at h
    rcases h with h | rfl
    · exact ih h
    · exact Nat.mod_lt _ hb

/-- Reading the last `w` digits gives the number modulo `b ^ w`. -/
theorem ofDigits_digits (b w n : Nat) : ofDigits b (digits b w n) = n % Nat.pow b w := by
  induction w generalizing n with
  | zero => simp [digits, ofDigits, Nat.mod_one]
  | succ w ih =>
    have hpow : Nat.pow b (w + 1) = b * Nat.pow b w := Nat.mul_comm _ _
    rw [digits, ofDigits_append_singleton, ih, hpow, Nat.mod_mul, Nat.mul_comm, Nat.add_comm]

end CallPath.Encoding
