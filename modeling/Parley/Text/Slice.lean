/-
# Parts of a text by bytes

Places in a text are counted in the bytes of its UTF-8 form.  A part is given by the
places of its first byte and of the byte after its last one.  Main statement: between
the places where some characters begin and end lie these characters
(`slice_append_append`).
-/

namespace Parley.Text

/-- The number of bytes of some characters. -/
def size : List Char → Nat
  | [] => 0
  | c :: cs => c.utf8Size + size cs

/-- The characters from a place on.  A character that the place divides is kept. -/
def dropBytes : Nat → List Char → List Char
  | _, [] => []
  | count, c :: cs => if c.utf8Size ≤ count then dropBytes (count - c.utf8Size) cs else c :: cs

/-- The characters before a place.  A character that the place divides is left out. -/
def takeBytes : Nat → List Char → List Char
  | _, [] => []
  | count, c :: cs => if c.utf8Size ≤ count then c :: takeBytes (count - c.utf8Size) cs else []

/-- The characters from one place to another. -/
def slice (cs : List Char) (first last : Nat) : List Char :=
  takeBytes (last - first) (dropBytes first cs)

@[simp]
theorem dropBytes_size_append (before after : List Char) :
    dropBytes (size before) (before ++ after) = dropBytes 0 after := by
  induction before with
  | nil => rfl
  | cons c cs ih => simp [size, dropBytes, ih]

@[simp]
theorem dropBytes_zero (cs : List Char) : dropBytes 0 cs = cs := by
  cases cs with
  | nil => rfl
  | cons c cs => simp [dropBytes, Nat.ne_of_gt c.utf8Size_pos]

@[simp]
theorem takeBytes_zero (cs : List Char) : takeBytes 0 cs = [] := by
  cases cs with
  | nil => rfl
  | cons c cs => simp [takeBytes, Nat.ne_of_gt c.utf8Size_pos]

@[simp]
theorem takeBytes_size_append (before after : List Char) :
    takeBytes (size before) (before ++ after) = before := by
  induction before with
  | nil => simp [size]
  | cons c cs ih => simp [size, takeBytes, ih]

/-- Between the places where some characters begin and end lie these characters. -/
theorem slice_append_append (before part after : List Char) :
    slice (before ++ (part ++ after)) (size before) (size before + size part) = part := by
  simp [slice]

end Parley.Text
