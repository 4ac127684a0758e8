import Mathlib.Data.List.Forall2
import PipelineSelection.Text.LowerCase

/-!
# Texts with a plain lower-case form

Lower-casing covers all of Unicode, and two characters outside ASCII have a lower-case form that starts with a letter of
ASCII, `i` and `k`.  No other letter is reached from outside (`lowerCaseOf_of_not_ascii`), so a text whose lower-case
form is made of other letters differs from this form only in the case of letters of ASCII.  The form that a capital
sigma takes at the end of a word makes no difference; `LowerForm` leaves it open.  The main result is
`LowerForm.eq_iff`.
-/

namespace PipelineSelection

/-! ### Characters -/

/-- A small letter of ASCII with which the lower-case form of no character outside ASCII starts. -/
abbrev PlainLetter (d : Char) : Prop := d.isLower = true ∧ d ≠ 'i' ∧ d ≠ 'k'

theorem PlainLetter.ascii {d : Char} (plain : PlainLetter d) : d.toNat < 0x80 := by
  have last : d.val ≤ 'z'.val := of_decide_eq_true (Bool.and_eq_true_iff.1 plain.1).2
  rw [UInt32.le_iff_toNat_le, Char.toNat_val] at last
  exact Nat.lt_of_le_of_lt last (by decide)

theorem toLower_of_not_ascii {c : Char} (beyond : 0x80 ≤ c.toNat) : c.toLower = c := by
  refine dif_neg ?_
  rintro ⟨-, last⟩
  rw [UInt32.le_iff_toNat_le, Char.toNat_val] at last
  exact absurd (Nat.le_trans beyond last) (by decide)

/-- What is true of all code points of ASCII is true of its characters. -/
private theorem forall_ascii {p : Char → Prop} (table : ∀ n < 0x80, p (Char.ofNat n)) {c : Char}
    (ascii : c.toNat < 0x80) : p c := by
  have here := table c.toNat ascii
  rwa [Char.ofNat_toNat] at here

/-- A plain letter stays as it is. -/
theorem PlainLetter.toLower_eq {d : Char} (plain : PlainLetter d) : d.toLower = d :=
  forall_ascii (p := fun c => c.isLower = true → c.toLower = c) (by decide +kernel) plain.ascii plain.1

/-- A letter of ASCII is all that has a small letter of ASCII as its lower-case form. -/
private theorem isAlpha_of_toLower {c : Char} (ascii : c.toNat < 0x80) : c.toLower.isLower = true → c.isAlpha = true :=
  forall_ascii (p := fun c => c.toLower.isLower = true → c.isAlpha = true) (by decide +kernel) ascii

theorem lowerCaseOf_of_ascii {c : Char} (ascii : c.toNat < 0x80) : lowerCaseOf c = [c.toLower] :=
  forall_ascii (p := fun c => lowerCaseOf c = [c.toLower]) (by decide +kernel) ascii

/-- The runs outside ASCII lead to characters outside ASCII, but for the Kelvin sign. -/
private theorem caseRuns_cases : ∀ run ∈ caseRuns, run.last < 0x80 ∨
    run.first = 0x212A ∧ run.last = 0x212A ∧ run.shift = -8383 ∨
    0x80 ≤ run.first + run.shift ∧
      (run.last + run.shift < 0xD800 ∨ 0xDFFF < run.first + run.shift ∧ run.last + run.shift < 0x110000) := by
  decide +kernel

/-- From outside ASCII no lower-case form starts with a plain letter. -/
theorem lowerCaseOf_of_not_ascii {c : Char} (beyond : 0x80 ≤ c.toNat) :
    ∃ d rest, lowerCaseOf c = d :: rest ∧ ¬ PlainLetter d := by
  unfold lowerCaseOf
  split
  · exact ⟨'i', _, rfl, by decide⟩
  · cases found : caseRuns.find? (·.covers c.toNat) with
    | none => exact ⟨c, [], rfl, fun plain => absurd plain.ascii (Nat.not_lt.2 beyond)⟩
    | some run =>
      have covered : (run.first ≤ c.toNat ∧ c.toNat ≤ run.last) ∧ (c.toNat - run.first) % run.step = 0 := by
        simpa [CaseRun.covers] using List.find?_some found
      obtain ⟨⟨first, last⟩, -⟩ := covered
      refine ⟨_, [], rfl, ?_⟩
      rcases caseRuns_cases run (List.mem_of_find?_eq_some found) with ascii | ⟨one, same, shift⟩ | ⟨image, exist⟩
      · omega
      · have kelvin : c.toNat = 0x212A := by omega
        rw [kelvin, shift]
        decide
      · intro plain
        have valid : ((c.toNat + run.shift).toNat).isValidChar := by
          rw [Nat.isValidChar]
          omega
        have small := plain.ascii
        rw [Char.ofNat, dif_pos valid] at small
        change (c.toNat + run.shift).toNat < 0x80 at small
        omega

/-! ### Texts -/

/-- A lower-case form of a text, in which every capital sigma may look as it does at the end of a word. -/
inductive LowerForm : List Char → List Char → Prop where
  | nil : LowerForm [] []
  | char (c : Char) {cs lowered : List Char} : LowerForm cs lowered → LowerForm (c :: cs) (lowerCaseOf c ++ lowered)
  | finalSigma {cs lowered : List Char} : LowerForm cs lowered → LowerForm ('\u03a3' :: cs) ('\u03c2' :: lowered)

theorem lowerForm_lowerCase (s : String) : LowerForm s.toList (lowerCase s).toList := by
  rw [lowerCase, String.toList_ofList]
  induction s.toList with
  | nil => exact .nil
  | cons c cs ih => exact .char c ih

/-- The same character, up to the case of the letters of ASCII. -/
def SameLetter (c d : Char) : Prop := c.toLower = d.toLower

instance (c d : Char) : Decidable (SameLetter c d) := inferInstanceAs (Decidable (c.toLower = d.toLower))

/-- No character outside ASCII is the same as a plain letter. -/
theorem SameLetter.ascii {c d : Char} (letter : SameLetter c d) (plain : PlainLetter d) : c.toNat < 0x80 := by
  rw [SameLetter, plain.toLower_eq] at letter
  rcases Nat.lt_or_ge c.toNat 0x80 with ascii | beyond
  · exact ascii
  · rw [toLower_of_not_ascii beyond] at letter
    exact letter ▸ plain.ascii

/-- Texts of the same length that differ only in the case of letters of ASCII. -/
def SameButCase (given name : String) : Prop :=
  given.length = name.length ∧ ∀ pair ∈ given.toList.zip name.toList, SameLetter pair.1 pair.2

instance (given name : String) : Decidable (SameButCase given name) := inferInstanceAs (Decidable (_ ∧ _))

theorem sameButCase_iff {given name : String} :
    SameButCase given name ↔ List.Forall₂ SameLetter given.toList name.toList := by
  rw [List.forall₂_iff_zip, SameButCase, Prod.forall, String.length_toList, String.length_toList]

theorem SameButCase.refl (s : String) : SameButCase s s :=
  sameButCase_iff.2 (List.forall₂_same.2 fun _ _ => rfl)

/-- A text that differs from plain letters only in their case is made of letters of ASCII. -/
theorem SameButCase.isAlpha {given name : String} (same : SameButCase given name)
    (plain : ∀ d ∈ name.toList, PlainLetter d) : ∀ c ∈ given.toList, c.isAlpha = true := by
  rw [sameButCase_iff] at same
  generalize given.toList = cs, name.toList = ds at same plain
  induction same with
  | nil => simp
  | cons letter _ ih =>
    rw [List.forall_mem_cons] at plain ⊢
    refine ⟨isAlpha_of_toLower (letter.ascii plain.1) ?_, ih plain.2⟩
    rw [letter, plain.1.toLower_eq]
    exact plain.1.1

/-- The first letter of a plain text comes from the same letter in one of its cases, and from no other character. -/
theorem lowerCaseOf_append_eq_cons_iff {c d : Char} {lowered ds : List Char} (plain : PlainLetter d) :
    lowerCaseOf c ++ lowered = d :: ds ↔ SameLetter c d ∧ lowered = ds := by
  rcases Nat.lt_or_ge c.toNat 0x80 with ascii | beyond
  · rw [SameLetter, plain.toLower_eq, lowerCaseOf_of_ascii ascii, List.singleton_append, List.cons.injEq]
  · obtain ⟨e, rest, form, special⟩ := lowerCaseOf_of_not_ascii beyond
    rw [form, List.cons_append, List.cons.injEq]
    constructor
    · rintro ⟨rfl, -⟩
      exact absurd plain special
    · rintro ⟨letter, -⟩
      exact absurd (letter.ascii plain) (Nat.not_lt.2 beyond)

theorem lowerCaseOf_ne_nil (c : Char) : lowerCaseOf c ≠ [] := by
  rcases Nat.lt_or_ge c.toNat 0x80 with ascii | beyond
  · rw [lowerCaseOf_of_ascii ascii]
    exact List.cons_ne_nil _ _
  · obtain ⟨d, rest, form, -⟩ := lowerCaseOf_of_not_ascii beyond
    rw [form]
    exact List.cons_ne_nil _ _

/-- A text has a lower-case form of plain letters exactly when it is made of these letters in any case. -/
theorem LowerForm.eq_iff {cs lowered ds : List Char} (form : LowerForm cs lowered) (plain : ∀ d ∈ ds, PlainLetter d) :
    lowered = ds ↔ List.Forall₂ SameLetter cs ds := by
  induction form generalizing ds with
  | nil =>
    rw [List.forall₂_nil_left_iff, eq_comm]
  | char c form ih =>
    cases ds with
    | nil => simp [lowerCaseOf_ne_nil]
    | cons d ds =>
      rw [List.forall_mem_cons] at plain
      rw [lowerCaseOf_append_eq_cons_iff plain.1, List.forall₂_cons, ih plain.2]
  | finalSigma form ih =>
    cases ds with
    | nil => simp
    | cons d ds =>
      rw [List.forall_mem_cons] at plain
      have first : '\u03c2' ≠ d := by
        rintro rfl
        exact absurd plain.1 (by decide)
      have letter : ¬ SameLetter '\u03a3' d := by
        rw [SameLetter, plain.1.toLower_eq]
        rintro rfl
        exact absurd plain.1 (by decide)
      rw [List.forall₂_cons, List.cons.injEq]
      exact iff_of_false (fun same => first same.1) (fun same => letter same.1)

end PipelineSelection
