import PipelineSelection.Announcement

/-!
# What a writer keeps

A writer with a limit keeps the first bytes of all that it is given, and a write fails exactly when it brings more
than fits (`write_eq`).  In how many pieces a text comes makes no difference (`writeAll_eq_write`): where a piece does
not fit the rest is left out, and it would not have found room either.  So what has been given to a writer, kept or
not, determines its state (`Offered`).
-/

namespace PipelineSelection.Writer

/-! ### Room -/

/-- Whether so many bytes find room. -/
def Fits (room : Option Nat) (size : Nat) : Prop := ∀ limit ∈ room, size ≤ limit

instance (room : Option Nat) (size : Nat) : Decidable (Fits room size) :=
  inferInstanceAs (Decidable (∀ limit ∈ room, size ≤ limit))

/-- The first bytes, as many as find room. -/
def fitting (room : Option Nat) (bytes : List UInt8) : List UInt8 :=
  match room with
  | some limit => bytes.take limit
  | none => bytes

/-- The room that so many bytes leave. -/
def roomLeft (room : Option Nat) (used : Nat) : Option Nat := room.map (· - used)

section

variable {room : Option Nat} {used size : Nat}

@[simp] theorem fits_none : Fits none size := by
  simp [Fits]

@[simp] theorem fits_some {limit : Nat} : Fits (some limit) size ↔ size ≤ limit := by
  simp [Fits]

@[simp] theorem roomLeft_zero : roomLeft room 0 = room := by
  cases room <;> rfl

theorem roomLeft_roomLeft : roomLeft (roomLeft room used) size = roomLeft room (used + size) := by
  cases room with
  | none => rfl
  | some limit =>
    unfold roomLeft
    rw [Option.map_some, Option.map_some, Option.map_some, Nat.sub_sub]

theorem Fits.of_le {less : Nat} (fits : Fits room size) (h : less ≤ size) : Fits room less := by
  intro limit mem
  have := fits limit mem
  omega

theorem fits_roomLeft_iff (fits : Fits room used) : Fits (roomLeft room used) size ↔ Fits room (used + size) := by
  cases room with
  | none => simp [roomLeft]
  | some limit =>
    have : used ≤ limit := fits_some.1 fits
    simp only [roomLeft, Option.map_some, fits_some]
    omega

/-- Something finds no room after what found none either. -/
theorem fits_roomLeft_iff_of_pos (pos : 0 < size) : Fits (roomLeft room used) size ↔ Fits room (used + size) := by
  cases room with
  | none => simp [roomLeft]
  | some limit =>
    simp only [roomLeft, Option.map_some, fits_some]
    omega

/-- What does not fit leaves no room. -/
theorem roomLeft_of_not_fits (full : ¬Fits room used) : roomLeft room used = some 0 := by
  cases room with
  | none => exact absurd fits_none full
  | some limit =>
    rw [fits_some] at full
    rw [roomLeft, Option.map_some, Nat.sub_eq_zero_of_le (by omega)]

end

section

variable {room : Option Nat} {bytes more : List UInt8}

@[simp] theorem fitting_zero : fitting (some 0) bytes = [] := rfl

theorem fitting_of_fits (fits : Fits room bytes.length) : fitting room bytes = bytes := by
  cases room with
  | none => rfl
  | some limit => exact List.take_of_length_le (fits_some.1 fits)

theorem fitting_append :
    fitting room (bytes ++ more) = fitting room bytes ++ fitting (roomLeft room bytes.length) more := by
  cases room with
  | none => rfl
  | some limit => exact List.take_append

end

/-! ### Writing -/

/-- A write takes what finds room, and fails when that is not everything. -/
theorem write_eq (writer : Writer) (text : List Char) : writer.write text =
    (if Fits writer.room (utf8Of text).length then .ok () else .error .writerFull,
      { written := writer.written ++ fitting writer.room (utf8Of text)
        room := roomLeft writer.room (utf8Of text).length }) := by
  obtain ⟨written, room⟩ := writer
  cases room with
  | none => simp [write, accepted, fitting, roomLeft]
  | some limit =>
    simp only [write, accepted, fitting, roomLeft, Option.map_some, fits_some, List.length_take]
    by_cases h : (utf8Of text).length ≤ limit
    · rw [Nat.min_eq_right h]
      simp [h]
    · have less : limit < (utf8Of text).length := by omega
      have ne : limit ≠ (utf8Of text).length := by omega
      rw [Nat.min_eq_left (Nat.le_of_lt less), Nat.sub_self, Nat.sub_eq_zero_of_le (Nat.le_of_lt less)]
      simp [h, ne]

private theorem write_nil (writer : Writer) : writer.write [] = (.ok (), writer) := by
  rw [write_eq]
  have fits : Fits writer.room (utf8Of []).length := fun limit _ => Nat.zero_le limit
  rw [if_pos fits, fitting_of_fits fits]
  simp

/-- A text in two parts is written as the one and then, if that has gone well, as the other. -/
theorem write_append (writer : Writer) (front back : List Char) :
    writer.write (front ++ back) = andThen (writer.write front) fun writer => writer.write back := by
  rw [write_eq writer front, write_eq writer (front ++ back), utf8Of_append, fitting_append, List.length_append,
    ← roomLeft_roomLeft]
  by_cases fits : Fits writer.room (utf8Of front).length
  · rw [if_pos fits, andThen, write_eq, List.append_assoc]
    simp only [fits_roomLeft_iff fits]
  · have full : ¬Fits writer.room ((utf8Of front).length + (utf8Of back).length) := by
      intro h
      exact fits (h.of_le (Nat.le_add_right _ _))
    rw [if_neg fits, if_neg full, andThen, roomLeft_of_not_fits fits, fitting_zero, List.append_nil]
    simp [roomLeft]

/-- Pieces are written like the text that they make up, wherever it is cut. -/
theorem writeAll_eq_write (writer : Writer) (pieces : List (List Char)) :
    writer.writeAll pieces = writer.write pieces.flatten := by
  induction pieces generalizing writer with
  | nil => exact (write_nil writer).symm
  | cons piece pieces ih =>
    rw [writeAll, List.flatten_cons, write_append]
    congr 1
    funext writer
    exact ih writer

/-! ### What a writer has been given -/

/-- The state of a writer that has been given some bytes in all. -/
structure Offered (writer : Writer) (room : Option Nat) (bytes : List UInt8) : Prop where
  written_eq : writer.written = fitting room bytes
  room_eq : writer.room = roomLeft room bytes.length

theorem offered_new (room : Option Nat) : (new room).Offered room [] where
  written_eq := by cases room <;> simp [new, fitting]
  room_eq := by simp [new]

/-- Writing one more text: when it fails, and the state after it. -/
theorem Offered.write {writer : Writer} {room : Option Nat} {bytes : List UInt8} (offered : writer.Offered room bytes)
    {text : List Char} (pos : 0 < (utf8Of text).length) :
    (writer.write text).1 =
        (if Fits room (bytes.length + (utf8Of text).length) then .ok () else .error .writerFull) ∧
      (writer.write text).2.written = writer.written ++ fitting (roomLeft room bytes.length) (utf8Of text) ∧
      (writer.write text).2.Offered room (bytes ++ utf8Of text) := by
  rw [write_eq, offered.room_eq]
  refine ⟨?_, rfl, ?_, ?_⟩
  · simp only [fits_roomLeft_iff_of_pos pos]
  · rw [offered.written_eq, fitting_append]
  · rw [List.length_append, ← roomLeft_roomLeft]

end PipelineSelection.Writer
