/-
Writing piece by piece.

A buffer takes a sequence of pieces exactly when all of them together fit, and
then it holds them in order. So how a document is cut into pieces makes no
difference to whether it can be written (`writeAll_eq_ok`, `writeAll_eq_error`).
-/
import ModelProtection.Buffer

set_option autoImplicit false

namespace ModelProtection

namespace Buffer

theorem write_of_le {b : Buffer} {piece : Bytes} (h : b.size + piece.length ≤ b.capacity) :
    ∃ b', b.write piece = .ok b' ∧ b'.content = b.content ++ piece ∧ b'.capacity = b.capacity
      ∧ b'.size = b.size + piece.length := by
  have hfit : piece.length ≤ b.remaining := by
    have := b.size_add_remaining
    omega
  unfold write
  rw [dif_pos hfit]
  exact ⟨_, rfl, by simp [content], rfl, rfl⟩

theorem write_of_lt {b : Buffer} {piece : Bytes} (h : b.capacity < b.size + piece.length) :
    b.write piece = .error ⟨b.capacity⟩ := by
  have hfit : ¬ piece.length ≤ b.remaining := by
    have := b.size_add_remaining
    omega
  unfold write
  rw [dif_neg hfit]

/-- Pieces that fit are taken, all of them and in order. -/
theorem writeAll_eq_ok {b : Buffer} {pieces : List Bytes}
    (h : b.size + pieces.flatten.length ≤ b.capacity) :
    ∃ b', b.writeAll pieces = .ok b' ∧ b'.content = b.content ++ pieces.flatten := by
  -- the size grows by a piece and the capacity stays, so the room left is what is still to come
  induction pieces generalizing b with
  | nil => exact ⟨b, rfl, by simp⟩
  | cons piece pieces ih =>
    rw [List.flatten_cons, List.length_append] at h
    have hfit : b.size + piece.length ≤ b.capacity := by omega
    obtain ⟨b₁, hwrite, hcontent, hcapacity, hsize⟩ := write_of_le hfit
    obtain ⟨b₂, hrest, hall⟩ := ih (b := b₁) (by omega)
    refine ⟨b₂, ?_, ?_⟩
    · rw [writeAll, hwrite]
      exact hrest
    · rw [hall, hcontent, List.flatten_cons, List.append_assoc]

/-- Pieces that do not fit are refused, whichever of them is too long. -/
theorem writeAll_eq_error {b : Buffer} {pieces : List Bytes}
    (h : b.capacity < b.size + pieces.flatten.length) :
    b.writeAll pieces = .error ⟨b.capacity⟩ := by
  induction pieces generalizing b with
  | nil =>
    -- nothing is left to write, and what a buffer holds is never more than its capacity
    have := b.size_le
    simp only [List.flatten_nil, List.length_nil] at h
    omega
  | cons piece pieces ih =>
    rw [List.flatten_cons, List.length_append] at h
    -- either this piece is the one too long, or it is taken and a later one is
    by_cases hfit : b.size + piece.length ≤ b.capacity
    · obtain ⟨b₁, hwrite, -, hcapacity, hsize⟩ := write_of_le hfit
      rw [writeAll, hwrite]
      dsimp only
      rw [ih (by omega), hcapacity]
    · rw [writeAll, write_of_lt (by omega)]

theorem reserve_of_le {capacity : Nat} (h : capacity ≤ mostCapacity) :
    reserve capacity = .ok ⟨capacity, [], 0, rfl, Nat.zero_le _⟩ := by
  rw [reserve, if_pos h]

theorem content_of_writeAll {b b' : Buffer} {pieces : List Bytes} (h : b.writeAll pieces = .ok b') :
    b'.content = b.content ++ pieces.flatten := by
  induction pieces generalizing b with
  | nil =>
    cases h
    rw [List.flatten_nil, List.append_nil]
  | cons piece pieces ih =>
    rw [writeAll] at h
    split at h
    · rename_i b₁ hwrite
      rw [ih h, content_of_write hwrite, List.flatten_cons, List.append_assoc]
    · cases h

theorem content_of_reserve {capacity : Nat} {b : Buffer} (h : reserve capacity = .ok b) :
    b.content = [] := by
  unfold reserve at h
  split at h
  · cases h
    rfl
  · cases h

/-- Pieces that fit a capacity that can be reserved are written into an empty buffer. -/
theorem reserve_writeAll {capacity : Nat} {pieces : List Bytes} (hcapacity : capacity ≤ mostCapacity)
    (hfit : pieces.flatten.length ≤ capacity) :
    ∃ b b', reserve capacity = .ok b ∧ b.writeAll pieces = .ok b' ∧ b'.content = pieces.flatten := by
  have hempty : 0 + pieces.flatten.length ≤ capacity := by omega
  obtain ⟨b', hwrite, hcontent⟩ := writeAll_eq_ok (b := ⟨capacity, [], 0, rfl, Nat.zero_le _⟩) hempty
  exact ⟨_, b', reserve_of_le hcapacity, hwrite, by rw [hcontent]; rfl⟩

end Buffer

end ModelProtection
