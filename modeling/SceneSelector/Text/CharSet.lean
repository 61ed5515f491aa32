/-!
# Sets of characters

A set of characters is kept as ranges of code points that do not overlap, in
ascending order. The order is part of the type, so a search may end at the
first range that does not lie below the character: `contains_iff` says that
nothing is missed.
-/

namespace SceneSelector

/-- Every range begins after the one before it has ended, the first of them at
`least` or later. -/
def CharSet.isAscending (least : Nat) : List (Nat × Nat) → Bool
  | [] => true
  | (first, last) :: rest =>
    least ≤ first && first ≤ last && isAscending (last + 1) rest

structure CharSet where
  ranges : List (Nat × Nat)
  ascending : CharSet.isAscending 0 ranges = true := by decide +kernel

namespace CharSet

/-- The first range that does not lie below the number begins at it or
earlier. -/
def covers (n : Nat) : List (Nat × Nat) → Bool
  | [] => false
  | (first, last) :: rest => if n ≤ last then first ≤ n else covers n rest

def contains (s : CharSet) (c : Char) : Bool :=
  covers c.toNat s.ranges

theorem le_of_isAscending {least : Nat} {ranges : List (Nat × Nat)}
    (h : isAscending least ranges = true) : ∀ r ∈ ranges, least ≤ r.1 := by
  induction ranges generalizing least with
  | nil => simp
  | cons head rest ih =>
    obtain ⟨first, last⟩ := head
    simp only [isAscending, Bool.and_eq_true, decide_eq_true_eq] at h
    intro r hr
    rcases List.mem_cons.mp hr with rfl | hr
    · exact h.1.1
    · have := ih h.2 r hr
      omega

theorem covers_iff {least n : Nat} {ranges : List (Nat × Nat)}
    (h : isAscending least ranges = true) :
    covers n ranges = true ↔ ∃ r ∈ ranges, r.1 ≤ n ∧ n ≤ r.2 := by
  induction ranges generalizing least with
  | nil => simp [covers]
  | cons head rest ih =>
    obtain ⟨first, last⟩ := head
    simp only [isAscending, Bool.and_eq_true, decide_eq_true_eq] at h
    have above := le_of_isAscending h.2
    by_cases hn : n ≤ last
    · simp only [covers, if_pos hn, decide_eq_true_eq, List.mem_cons,
        exists_eq_or_imp]
      constructor
      · exact fun hf => .inl ⟨hf, hn⟩
      · rintro (hf | ⟨r, hr, hf, -⟩)
        · exact hf.1
        · have := above r hr
          omega
    · simp only [covers, if_neg hn, List.mem_cons, exists_eq_or_imp, ih h.2]
      constructor
      · exact .inr
      · rintro (hf | hr)
        · exact absurd hf.2 hn
        · exact hr

/-- A character is in the set if one of the ranges covers it. -/
theorem contains_iff (s : CharSet) (c : Char) :
    s.contains c = true ↔ ∃ r ∈ s.ranges, r.1 ≤ c.toNat ∧ c.toNat ≤ r.2 :=
  covers_iff s.ascending

end CharSet

end SceneSelector
