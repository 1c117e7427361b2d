/-!
Blank characters: the Unicode property White_Space, and the text operations that rest on it.
-/

namespace Muster.Text

/-- The code points with the property White_Space, as inclusive ranges. -/
def blankRanges : List (Nat × Nat) :=
  [(0x9, 0xD), (0x20, 0x20), (0x85, 0x85), (0xA0, 0xA0), (0x1680, 0x1680), (0x2000, 0x200A),
    (0x2028, 0x2029), (0x202F, 0x202F), (0x205F, 0x205F), (0x3000, 0x3000)]

def isBlank (c : Char) : Bool :=
  blankRanges.any fun range => range.1 ≤ c.toNat && c.toNat ≤ range.2

/-- Nothing but blanks; the empty text counts. -/
def allBlank (text : String) : Bool := text.foldl (fun blank c => blank && isBlank c) true

theorem allBlank_eq_all (text : String) : allBlank text = text.toList.all isBlank := by
  have folded : ∀ (cs : List Char) (before : Bool),
      cs.foldl (fun blank c => blank && isBlank c) before = (before && cs.all isBlank) := by
    intro cs
    induction cs with
    | nil => simp
    | cons c rest ih => intro before; simp [ih, Bool.and_assoc]
  rw [allBlank, String.foldl_eq_foldl_toList, folded, Bool.true_and]

def trimChars (cs : List Char) : List Char :=
  ((cs.dropWhile isBlank).reverse.dropWhile isBlank).reverse

/-- The text without its leading and trailing blanks. -/
def trim (text : String) : String := String.ofList (trimChars text.toList)

/-- The first maximal run of non-blank characters, empty if there is none. -/
def firstWord (text : String) : String :=
  String.ofList ((text.toList.dropWhile isBlank).takeWhile (fun c => !isBlank c))

end Muster.Text
