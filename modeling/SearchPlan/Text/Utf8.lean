/-! The bytes of characters in UTF-8. A range of code points is cut into blocks: all characters of a
block have the same number of bytes, and each of their bytes runs through a range of its own. -/

namespace SearchPlan.Text.Utf8

/-- The least and the greatest value of a byte. -/
abbrev ByteRange := Nat × Nat

/-- A range for each byte, the first byte first. -/
abbrev Block := List ByteRange

/-- What a continuation byte has besides its six bits of the code point. -/
def continuation : Nat := 0x80

/-- Blocks for the values from `lo` to `hi` of a byte with `mark` and `more` bytes after it. -/
def cut (mark : Nat) : (more lo hi : Nat) → List Block
  | 0, lo, hi => [[(mark + lo, mark + hi)]]
  | more + 1, lo, hi =>
    let unit := Nat.pow 64 (more + 1)
    let within (digit lo hi : Nat) : List Block :=
      (cut continuation more lo hi).map ((mark + digit, mark + digit) :: ·)
    let first := lo / unit
    let last := hi / unit
    if first = last then within first (lo % unit) (hi % unit)
    else
      let atFirst := lo % unit ≠ 0
      let atLast := hi % unit ≠ unit - 1
      let least := if atFirst then first + 1 else first
      let greatest := if atLast then last - 1 else last
      (if atFirst then within first (lo % unit) (unit - 1) else [])
        ++ (if least ≤ greatest then
            [(mark + least, mark + greatest)
              :: List.replicate (more + 1) (continuation, continuation + 63)]
          else [])
        ++ (if atLast then within last 0 (hi % unit) else [])

/-- The code points of one, two, three and four bytes, without those that are no characters: their
ends, the number of bytes after the first, and what the first has besides its bits. -/
def zones : List (Nat × Nat × Nat × Nat) :=
  [(0x0, 0x7f, 0, 0x0), (0x80, 0x7ff, 1, 0xc0), (0x800, 0xd7ff, 2, 0xe0), (0xe000, 0xffff, 2, 0xe0),
    (0x10000, 0x10ffff, 3, 0xf0)]

/-- The blocks of a range of code points, in ascending order. -/
def blocks (range : Nat × Nat) : List Block :=
  zones.flatMap fun (first, last, more, mark) =>
    let lo := max first range.1
    let hi := min last range.2
    if lo ≤ hi then cut mark more lo hi else []

/-- The bytes of a character. -/
def bytes (c : Char) : List Nat := ((blocks (c.toNat, c.toNat)).flatMap id).map Prod.fst

end SearchPlan.Text.Utf8
