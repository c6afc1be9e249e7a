import Mathlib.Tactic.Common

/-!
# Text that can be read back

A join of pieces that do not contain the separator, a decimal numeral and a hex
dump each determine what they were made from.
-/

namespace Text

/-- **A join determines its pieces**, when none of them contains the separator. -/
theorem intercalate_injective {c : Char} {xs ys : List String} (hx : xs ≠ []) (hy : ys ≠ [])
    (cleanx : ∀ x ∈ xs, c ∉ x.toList) (cleany : ∀ y ∈ ys, c ∉ y.toList)
    (same : String.intercalate (String.singleton c) xs = String.intercalate (String.singleton c) ys) : xs = ys := by
  have pieces : ∀ {zs : List String}, zs ≠ [] → (∀ z ∈ zs, c ∉ z.toList) →
      (String.intercalate (String.singleton c) zs).toList.splitOn c = zs.map String.toList := by
    intro zs nonempty clean
    rw [String.toList_intercalate, String.toList_singleton]
    refine List.splitOn_intercalate c ?_ ?_
    · intro l member
      obtain ⟨z, hz, rfl⟩ := List.mem_map.1 member
      exact clean z hz
    · rw [Ne, List.map_eq_nil_iff]
      exact nonempty
  have split := pieces hx cleanx
  rw [same, pieces hy cleany] at split
  refine (List.map_inj_right ?_).1 split.symm
  intro a b equal
  exact String.toList_inj.1 equal

theorem repr_injective {m n : ℕ} (same : m.repr = n.repr) : m = n := by
  have digits : Nat.toDigits 10 m = Nat.toDigits 10 n := by
    rw [← Nat.toList_repr, same, Nat.toList_repr]
  rw [← Nat.ofDigitChars_ten_toDigits (n := m), digits, Nat.ofDigitChars_ten_toDigits]

/-- A numeral has no character but digits. -/
theorem not_mem_repr {c : Char} (other : c.isDigit = false) (n : ℕ) : c ∉ n.repr.toList := by
  intro member
  rw [Nat.toList_repr] at member
  have digit := Nat.isDigit_of_mem_toDigits (by omega) (by omega) member
  rw [other] at digit
  cases digit

/-! ## Hex dumps -/

/-- The two digits of a byte. -/
def hexPair (b : UInt8) : List Char := [Nat.digitChar (b.toNat / 16), Nat.digitChar (b.toNat % 16)]

/-- Lowercase hexadecimal, two digits for each byte. -/
def encodeHex (bytes : List UInt8) : String := String.ofList (bytes.flatMap hexPair)

theorem digitChar_injective {m n : ℕ} (hm : m < 16) (hn : n < 16) (same : m.digitChar = n.digitChar) : m = n := by
  have all : ∀ a b : Fin 16, (a : ℕ).digitChar = (b : ℕ).digitChar → a = b := by decide +kernel
  have equal := all ⟨m, hm⟩ ⟨n, hn⟩ same
  simpa using equal

theorem hexPair_injective {a b : UInt8} (same : hexPair a = hexPair b) : a = b := by
  have ha := a.toNat_lt
  have hb := b.toNat_lt
  simp only [hexPair, List.cons.injEq, and_true] at same
  have high := digitChar_injective (by omega) (by omega) same.1
  have low := digitChar_injective (by omega) (by omega) same.2
  apply UInt8.toNat_inj.1
  omega

@[simp] theorem length_encodeHex (bytes : List UInt8) : (encodeHex bytes).toList.length = 2 * bytes.length := by
  rw [encodeHex, String.toList_ofList]
  induction bytes with
  | nil => rfl
  | cons b bytes ih =>
    rw [List.flatMap_cons, List.length_append, ih, List.length_cons]
    show 2 + 2 * bytes.length = _
    omega

/-- Every character of a hex dump is the digit of a number below 16. -/
theorem mem_encodeHex {bytes : List UInt8} {c : Char} (member : c ∈ (encodeHex bytes).toList) :
    ∃ n < 16, c = Nat.digitChar n := by
  rw [encodeHex, String.toList_ofList, List.mem_flatMap] at member
  obtain ⟨b, -, pair⟩ := member
  have bound := b.toNat_lt
  rw [hexPair, List.mem_cons, List.mem_singleton] at pair
  obtain rfl | rfl := pair
  · exact ⟨_, by omega, rfl⟩
  · exact ⟨_, by omega, rfl⟩

/-- **A hex dump determines its bytes.** -/
theorem encodeHex_injective {xs ys : List UInt8} (same : encodeHex xs = encodeHex ys) : xs = ys := by
  rw [encodeHex, encodeHex, String.ofList_inj] at same
  induction xs generalizing ys with
  | nil =>
    cases ys with
    | nil => rfl
    | cons y ys => cases same
  | cons x xs ih =>
    cases ys with
    | nil => cases same
    | cons y ys =>
      rw [List.flatMap_cons, List.flatMap_cons] at same
      obtain ⟨pair, rest⟩ := List.append_inj same rfl
      rw [hexPair_injective pair, ih rest]

end Text
