/-!
# White space

The characters with the Unicode property `White_Space`, and trimming by it. The zero-width
characters U+180E, U+200B, U+2060 and U+FEFF and the separator U+001F do not have the property.
-/

namespace Datastore.Text

/-- The 25 characters of the property, by ranges. -/
def isBlank (c : Char) : Bool :=
  let n := c.toNat
  (0x9 ≤ n && n ≤ 0xd) || n == 0x20 || n == 0x85 || n == 0xa0 || n == 0x1680 ||
    (0x2000 ≤ n && n ≤ 0x200a) || n == 0x2028 || n == 0x2029 || n == 0x202f || n == 0x205f ||
    n == 0x3000

/-- Without the white space at both ends. -/
def trim (cs : List Char) : List Char :=
  ((cs.dropWhile isBlank).reverse.dropWhile isBlank).reverse

theorem dropWhile_isBlank_eq_nil_iff (cs : List Char) :
    cs.dropWhile isBlank = [] ↔ ∀ c ∈ cs, isBlank c := by
  induction cs with
  | nil => simp
  | cons c cs ih => cases h : isBlank c <;> simp [h, ih]

/-- Trimming leaves nothing exactly when every character is white space. -/
theorem trim_eq_nil_iff (cs : List Char) : trim cs = [] ↔ ∀ c ∈ cs, isBlank c := by
  have kept : (∀ c ∈ cs.dropWhile isBlank, isBlank c) ↔ ∀ c ∈ cs, isBlank c := by
    induction cs with
    | nil => simp
    | cons c cs ih =>
      cases h : isBlank c with
      | true => simp [h, ih]
      | false => simp [h]
  rw [← kept]
  simp only [trim, List.reverse_eq_nil_iff, dropWhile_isBlank_eq_nil_iff, List.mem_reverse]

end Datastore.Text
