/-!
# Blank characters and trimming

The blanks are the twenty-five code points of the Unicode property
`White_Space`. Trimming works on lists of characters, so that laws about it
need nothing but lists; the form on strings only wraps it.
-/

namespace FlowWatch.Text

/-- Whether the character has the Unicode property `White_Space`. -/
def isBlank (c : Char) : Bool :=
  let n := c.toNat
  (0x09 ≤ n && n ≤ 0x0D) || n == 0x20 || n == 0x85 || n == 0xA0 || n == 0x1680 ||
    (0x2000 ≤ n && n ≤ 0x200A) || n == 0x2028 || n == 0x2029 || n == 0x202F ||
    n == 0x205F || n == 0x3000

/-- Removes the blanks at the start. -/
def trimStart (cs : List Char) : List Char := cs.dropWhile isBlank

/-- Removes the blanks at the end. -/
def trimEnd (cs : List Char) : List Char := (cs.reverse.dropWhile isBlank).reverse

/-- Removes the blanks at both ends. -/
def trimBlanks (cs : List Char) : List Char := trimEnd (trimStart cs)

/-- Removes the blanks at both ends of a string. -/
def trim (s : String) : String := String.ofList (trimBlanks s.toList)

/-- A string with its ASCII capitals made small; every other character stays. -/
def lowerAscii (s : String) : String := String.ofList (s.toList.map Char.toLower)

/-- Trimming leaves no blank at the start. -/
theorem isBlank_of_trimStart_cons {c : Char} {cs rest : List Char}
    (h : trimStart cs = c :: rest) : isBlank c = false := by
  have := List.head?_dropWhile_not isBlank cs
  simp only [trimStart] at h
  simpa [h] using this

end FlowWatch.Text
