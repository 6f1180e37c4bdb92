/-!
# White space

The characters with the property White_Space, and the two ways of looking past them: cutting
them off the ends of a text, and splitting a text at them.

## Main Definitions

* `isBlank` — membership in White_Space
* `trim` — a text without the blanks at its ends
* `words` — the maximal runs of characters that are not blank
-/

namespace VpnClient.Text

/-- The code point ranges of White_Space, ends included. -/
def blankRanges : List (Nat × Nat) :=
  [(0x09, 0x0d), (0x20, 0x20), (0x85, 0x85), (0xa0, 0xa0), (0x1680, 0x1680), (0x2000, 0x200a),
   (0x2028, 0x2029), (0x202f, 0x202f), (0x205f, 0x205f), (0x3000, 0x3000)]

/-- Whether a character is white space, ASCII or not. -/
def isBlank (c : Char) : Bool :=
  blankRanges.any fun (first, last) => first ≤ c.toNat && c.toNat ≤ last

/-- A text without the blanks it starts with. -/
def trimStart (s : List Char) : List Char :=
  s.dropWhile isBlank

/-- A text without the blanks it starts or ends with. -/
def trim (s : List Char) : List Char :=
  (trimStart (trimStart s).reverse).reverse

/-- Dropping from the front leaves no more than there was. -/
theorem length_dropWhile_le (p : Char → Bool) (s : List Char) :
    (s.dropWhile p).length ≤ s.length := by
  induction s with
  | nil => simp
  | cons c r ih =>
    rw [List.dropWhile_cons]
    split
    · simp only [List.length_cons]; omega
    · simp

/-- The maximal runs of characters that are not blank, in order. -/
def words (s : List Char) : List (List Char) :=
  match _h : trimStart s with
  | [] => []
  | c :: rest =>
    (c :: rest.takeWhile fun d => !isBlank d) :: words (rest.dropWhile fun d => !isBlank d)
termination_by s.length
decreasing_by
  have h₁ := length_dropWhile_le (fun d => !isBlank d) rest
  have h₂ := length_dropWhile_le isBlank s
  unfold trimStart at _h
  rw [_h] at h₂
  simp only [List.length_cons] at h₂
  omega

end VpnClient.Text
