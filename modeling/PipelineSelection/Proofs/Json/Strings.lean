import Mathlib.Data.List.Forall2
import PipelineSelection.Json.Parser
import PipelineSelection.Json.Value

/-!
# Strings are read back

Every character that is written stands for one piece of the string that is read: itself, or a code unit below the
blank (`pieces_escaped`).  No code unit that is written is a surrogate, so the pieces join to the text that was
written (`string_quote`), whatever follows the closing quotation mark.
-/

namespace PipelineSelection.JsonParser

open Json (escaped hexDigit quote)

/-! ### One character -/

/-- The three ways in which a character is written. -/
inductive Escapes (c : Char) : List Char → Prop where
  | short (e : Char) : e ≠ 'u' → shortEscape e = some c → Escapes c ['\\', e]
  | control : c.toNat < 0x20 → Escapes c ['\\', 'u', '0', '0', hexDigit (c.toNat / 16), hexDigit (c.toNat % 16)]
  | plain : c ≠ '\x22' → c ≠ '\\' → ¬c.toNat < 0x20 → Escapes c [c]

theorem escapes_escaped (c : Char) : Escapes c (escaped c) := by
  unfold escaped
  split
  · exact .short '\x22' (by decide) (by subst_vars; rfl)
  split
  · exact .short '\\' (by decide) (by subst_vars; rfl)
  split
  · exact .short 'b' (by decide) (by subst_vars; rfl)
  split
  · exact .short 't' (by decide) (by subst_vars; rfl)
  split
  · exact .short 'n' (by decide) (by subst_vars; rfl)
  split
  · exact .short 'f' (by decide) (by subst_vars; rfl)
  split
  · exact .short 'r' (by decide) (by subst_vars; rfl)
  split
  · exact .control ‹_›
  · exact .plain ‹_› ‹_› ‹_›

/-- A piece that denotes a character on its own. -/
inductive Denotes : Piece → Char → Prop where
  | char (c : Char) : Denotes (.char c) c
  | unit (c : Char) : c.toNat < 0x20 → Denotes (.unit c.toNat) c

private theorem hexDigit?_hexDigit : ∀ n < 16, hexDigit? (hexDigit n) = some n := by
  decide

private theorem codeUnit?_hexDigits {n : Nat} (h : n < 0x20) :
    codeUnit? '0' '0' (hexDigit (n / 16)) (hexDigit (n % 16)) = some n := by
  have high := hexDigit?_hexDigit (n / 16) (by omega)
  have low := hexDigit?_hexDigit (n % 16) (by omega)
  have zero : hexDigit? '0' = some 0 := by decide
  simp only [codeUnit?, hexNumber?, List.foldlM_cons, List.foldlM_nil, zero, high, low, Option.bind_eq_bind,
    Option.bind_some, Option.pure_def, Option.some.injEq]
  omega

/-- A written character is read as one piece that denotes it. -/
theorem pieces_escaped (c : Char) : ∃ part, Denotes part c ∧
    ∀ cs, pieces (escaped c ++ cs) = (pieces cs).map fun (parts, rest) => (part :: parts, rest) := by
  have way := escapes_escaped c
  generalize escaped c = written at way ⊢
  cases way with
  | short e notUnit denotes =>
    refine ⟨.char c, .char c, fun cs => ?_⟩
    show pieces ('\\' :: e :: cs) = _
    rw [pieces.eq_4 e cs (fun _ _ _ _ _ isUnit _ => notUnit isUnit), denotes]
    cases pieces cs <;> rfl
  | control control =>
    refine ⟨.unit c.toNat, .unit c control, fun cs => ?_⟩
    show pieces ('\\' :: 'u' :: '0' :: '0' :: _ :: _ :: cs) = _
    rw [pieces, codeUnit?_hexDigits control]
    cases pieces cs <;> rfl
  | plain quotation backslash visible =>
    refine ⟨.char c, .char c, fun cs => ?_⟩
    show pieces (c :: cs) = _
    rw [pieces.eq_5 c cs quotation (fun _ _ _ _ _ h _ => backslash h) (fun _ _ h _ => backslash h),
      if_neg (not_or.2 ⟨visible, backslash⟩)]
    cases pieces cs <;> rfl

/-! ### A whole string -/

private theorem pieces_quote (cs rest : List Char) : ∃ parts, List.Forall₂ Denotes parts cs ∧
    pieces (cs.flatMap escaped ++ '\x22' :: rest) = some (parts, rest) := by
  induction cs with
  | nil => exact ⟨[], .nil, rfl⟩
  | cons c cs ih =>
    obtain ⟨part, denotes, first⟩ := pieces_escaped c
    obtain ⟨parts, all, others⟩ := ih
    refine ⟨part :: parts, .cons denotes all, ?_⟩
    rw [List.flatMap_cons, List.append_assoc, first, others]
    rfl

private theorem join?_unit {n : Nat} (h : n < 0x20) (parts : List Piece) :
    join? (.unit n :: parts) = (join? parts).map (Char.ofNat n :: ·) := by
  -- a control character is neither half of a surrogate pair
  have lead : isLead n = false := by
    simp only [isLead, Bool.and_eq_false_iff, decide_eq_false_iff_not]
    omega
  have trail : isTrail n = false := by
    simp only [isTrail, Bool.and_eq_false_iff, decide_eq_false_iff_not]
    omega
  rw [join?.eq_def]
  split
  · simp_all
  · simp_all
  · rename_i heq
    cases heq
    simp only [lead, trail, Bool.false_and, Bool.or_self, Bool.false_eq_true, if_false]
    cases join? _ <;> rfl
  · rename_i heq
    cases heq
    simp only [lead, trail, Bool.or_self, Bool.false_eq_true, if_false]
    cases join? _ <;> rfl

private theorem join?_of_denotes {parts : List Piece} {cs : List Char} (h : List.Forall₂ Denotes parts cs) :
    join? parts = some cs := by
  induction h with
  | nil => rfl
  | cons denotes _ ih =>
    cases denotes with
    | char c => rw [join?, ih]; rfl
    | unit c control => rw [join?_unit control, ih, Char.ofNat_toNat]; rfl

/-- A written string is read back, whatever follows it. -/
theorem string_quote (s : String) (rest : List Char) :
    ∃ cs, quote s ++ rest = '\x22' :: cs ∧ string cs = some (some s, rest) := by
  refine ⟨s.toList.flatMap escaped ++ '\x22' :: rest, by simp [quote], ?_⟩
  obtain ⟨parts, denotes, read⟩ := pieces_quote s.toList rest
  rw [string, read]
  simp [join?_of_denotes denotes]

end PipelineSelection.JsonParser
