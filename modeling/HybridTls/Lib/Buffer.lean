import Mathlib.Data.List.Basic

/-!
# Writing into a buffer

A buffer is the list of what is in its cells. A write that would leave it does not happen
(`Buffer.write`), so that a program that returns has written in bounds.

A program that fills a buffer from its start is at every time in one situation: the first
cells hold what has been written, and the others what they held before
(`Buffer.overlay`). Writing on at the end of what has been written leads to the next such
situation (`Buffer.write_overlay`).
-/

namespace Buffer

variable {α : Type*} {buffer written values : List α} {offset : ℕ}

/-- **Write values at an offset**, if they fit. -/
def write (buffer : List α) (offset : ℕ) (values : List α) : Option (List α) :=
  if offset + values.length ≤ buffer.length then
    some (buffer.take offset ++ values ++ buffer.drop (offset + values.length))
  else none

/-- Write one value. -/
def put (buffer : List α) (offset : ℕ) (value : α) : Option (List α) :=
  write buffer offset [value]

/-- **A buffer of which the first cells have been written.** -/
def overlay (buffer written : List α) : List α := written ++ buffer.drop written.length

@[simp] theorem overlay_nil (buffer : List α) : overlay buffer [] = buffer := rfl

theorem length_overlay (h : written.length ≤ buffer.length) :
    (overlay buffer written).length = buffer.length := by
  rw [overlay, List.length_append, List.length_drop]
  omega

/-- **Writing on**: the values come behind those that have been written. -/
theorem write_overlay (h : written.length + values.length ≤ buffer.length) :
    write (overlay buffer written) written.length values =
      some (overlay buffer (written ++ values)) := by
  have hlength := length_overlay (Nat.le_of_add_right_le h)
  rw [write, if_pos (hlength ▸ h), overlay, overlay, List.take_left', List.drop_append,
    List.drop_of_length_le (Nat.le_add_right _ _), List.nil_append, Nat.add_sub_cancel_left,
    List.drop_drop, List.length_append]
  rfl

theorem put_overlay {value : α} (h : written.length < buffer.length) :
    put (overlay buffer written) written.length value =
      some (overlay buffer (written ++ [value])) :=
  write_overlay h

end Buffer
