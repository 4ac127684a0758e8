import Mathlib.Data.List.Basic
import PipelineSelection.Proofs.Announcement.Room

/-!
# What a run of announcements writes

An announcement is one text, written in pieces (`printing_eq_write`), and a run of announcements is one transcript
(`transcript`), of which a writer keeps as many bytes as it has room for.  Every step keeps that what has been given
to the writer is the transcript so far (`offered_run`), whether the step goes well or not.  The main result is
`run_printing_prefix`.
-/

namespace PipelineSelection

open Writer (Fits fitting roomLeft)

/-! ### The text of an announcement -/

namespace Announcer

/-- The target on a line, and below it the patch with one member a line. -/
def text (target : Target) (patch : VersionPatch) : List Char :=
  ("PATCH " ++ target.display).toList ++ '\n' :: (patch.toJson.pretty ++ ['\n'])

/-- The pieces that are written make up the text. -/
private theorem flatten_pieces (target : Target) (patch : VersionPatch) :
    (targetLine target).flatten ++ (patchLines patch).flatten = text target patch := by
  have line : "\n".toList = ['\n'] := rfl
  simp only [targetLine, Target.display, Target.apiVersion, patchLines, text, String.toList_append, List.map_cons,
    List.map_nil, List.flatten_cons, List.flatten_nil, List.append_assoc, List.append_nil, line, List.cons_append,
    List.nil_append]

theorem printing_eq_write (target : Target) (patch : VersionPatch) (writer : Writer) :
    printing target patch writer = writer.write (text target patch) := by
  rw [← flatten_pieces, Writer.write_append, printing, Writer.writeAll_eq_write]
  congr 1
  funext writer
  exact Writer.writeAll_eq_write writer _

theorem length_text_pos (target : Target) (patch : VersionPatch) : 0 < (utf8Of (text target patch)).length := by
  simp only [text, String.toList_append, utf8Of_append, List.length_append]
  have front : 0 < (utf8Of "PATCH ".toList).length := by decide
  omega

end Announcer

/-- The bytes that announcing some settings writes when there is room. -/
def Settings.announcement (settings : Settings) : List UInt8 :=
  utf8Of (Announcer.text settings.resource { version := settings.agent.version })

/-- The bytes that announcing a list of settings in order writes when there is room. -/
def transcript (list : List Settings) : List UInt8 :=
  list.flatMap Settings.announcement

theorem transcript_append (list more : List Settings) :
    transcript (list ++ more) = transcript list ++ transcript more :=
  List.flatMap_append

private theorem length_transcript_take_mono (list : List Settings) {i j : Nat} (h : i ≤ j) :
    (transcript (list.take i)).length ≤ (transcript (list.take j)).length := by
  obtain ⟨more, split⟩ := List.take_prefix_take_left (l := list) h
  rw [← split, transcript_append, List.length_append]
  omega

namespace Announcer

/-! ### Runs -/

/-- One announcement of a run: what had been sent, how it came out, what has been sent now, and what was logged. -/
structure Step (σ : Type) where
  before : σ
  outcome : Except Failure Unit
  after : σ
  events : List Event

/-- Announces settings in order, each of them whatever has become of those before it. -/
def run {σ : Type} (announcer : Announcer σ) : List Settings → σ → List (Step σ) × σ
  | [], sent => ([], sent)
  | settings :: rest, sent =>
    let announced := announceVersion announcer settings sent
    let step : Step σ := {
      before := sent
      outcome := announced.value.1
      after := announced.value.2
      events := announced.events }
    let (steps, final) := run announcer rest step.after
    (step :: steps, final)

/-- A step of a run does its part: it comes after the bytes `sent` and writes the announcement of some settings as far
as there is room. -/
structure Step.Fills (step : Step Writer) (room : Option Nat) (sent : List UInt8) (settings : Settings) : Prop where
  before_eq : step.before.written = fitting room sent
  after_eq : step.after.written = step.before.written ++ fitting (roomLeft room sent.length) settings.announcement
  outcome_eq : step.outcome =
    if Fits room (sent.length + settings.announcement.length) then .ok () else .error .writerFull
  events_eq : step.events = [.announcing settings.resource.display settings.agent.version]

/-- Whatever a step comes to, the announcement has been given to the writer. -/
private theorem offered_announceVersion {writer : Writer} {room : Option Nat} {sent : List UInt8}
    (offered : writer.Offered room sent) (settings : Settings) :
    let announced := announceVersion printing settings writer
    announced.value.2.Offered room (sent ++ settings.announcement) ∧
      Step.Fills ⟨writer, announced.value.1, announced.value.2, announced.events⟩ room sent settings := by
  intro announced
  have written : announced.value =
      writer.write (text settings.resource { version := settings.agent.version }) :=
    printing_eq_write _ _ _
  obtain ⟨outcome, added, after⟩ := offered.write (length_text_pos settings.resource ⟨settings.agent.version⟩)
  rw [← written] at outcome added after
  exact ⟨after, offered.written_eq, added, outcome, rfl⟩

/-- After a run the transcript has been given to the writer, and every step has done its part. -/
private theorem offered_run {writer : Writer} {room : Option Nat} {sent : List UInt8}
    (offered : writer.Offered room sent) (list : List Settings) :
    let run := printing.run list writer
    run.2.Offered room (sent ++ transcript list) ∧ run.1.length = list.length ∧
      ∀ (i : Nat) settings step, list[i]? = some settings → run.1[i]? = some step →
        step.Fills room (sent ++ transcript (list.take i)) settings := by
  induction list generalizing writer sent with
  | nil =>
    refine ⟨?_, rfl, ?_⟩
    · show writer.Offered room (sent ++ [])
      rw [List.append_nil]
      exact offered
    · intro i settings step h
      cases h
  | cons settings rest ih =>
    obtain ⟨offered', fills⟩ := offered_announceVersion offered settings
    obtain ⟨final, lengths, later⟩ := ih offered'
    refine ⟨?_, congrArg (· + 1) lengths, ?_⟩
    · rw [List.append_assoc] at final
      exact final
    · intro i settings' step h h'
      cases i with
      | zero =>
        cases h
        cases h'
        show Step.Fills _ room (sent ++ []) _
        rw [List.append_nil]
        exact fills
      | succ i =>
        have := later i settings' step h h'
        rw [List.append_assoc] at this
        exact this

/-- A run fills a new writer with the transcript, as far as there is room. -/
theorem written_run_new (room : Option Nat) (list : List Settings) :
    (printing.run list (.new room)).2.written = fitting room (transcript list) := by
  obtain ⟨final, -⟩ := offered_run (Writer.offered_new room) list
  exact final.written_eq

/-- A step after one that has failed fails too and adds nothing. -/
private theorem Step.Fills.of_failed {list : List Settings} {room : Option Nat} {i j : Nat}
    {settings settings' : Settings} {step later : Step Writer} (less : i < j) (h : list[i]? = some settings)
    (fills : step.Fills room (transcript (list.take i)) settings)
    (fills' : later.Fills room (transcript (list.take j)) settings') (failed : step.outcome ≠ .ok ()) :
    later.outcome = .error .writerFull ∧ later.after.written = later.before.written := by
  have sum : (transcript (list.take (i + 1))).length =
      (transcript (list.take i)).length + settings.announcement.length := by
    rw [List.take_add_one, h, transcript_append, List.length_append]
    simp [transcript]
  have full : ¬Fits room (transcript (list.take j)).length := by
    intro fits
    apply failed
    rw [fills.outcome_eq, ← sum]
    exact if_pos (fits.of_le (length_transcript_take_mono list less))
  constructor
  · rw [fills'.outcome_eq]
    exact if_neg fun fits => full (fits.of_le (Nat.le_add_right _ _))
  · rw [fills'.after_eq, Writer.roomLeft_of_not_fits full, Writer.fitting_zero, List.append_nil]

/-- What a run leaves in a writer is the front of the transcript, as long as the room; every step adds what of its own
announcement lies there, and fails exactly when that is not all of it. -/
theorem run_printing_prefix (room : Option Nat) (list : List Settings) :
    let run := printing.run list (.new room)
    run.2.written = fitting room (transcript list) ∧ run.1.length = list.length ∧
      (∀ (i : Nat) settings step, list[i]? = some settings → run.1[i]? = some step →
        step.Fills room (transcript (list.take i)) settings) ∧
      (∀ (i j : Nat) step later, i < j → run.1[i]? = some step → run.1[j]? = some later → step.outcome ≠ .ok () →
        later.outcome = .error .writerFull ∧ later.after.written = later.before.written) ∧
      (room = none → ∀ step ∈ run.1, step.outcome = .ok ()) ∧
      ∀ settings other : Settings, settings.resource = other.resource →
        settings.agent.version = other.agent.version → settings.announcement = other.announcement := by
  intro run
  obtain ⟨final, lengths, fills⟩ := offered_run (Writer.offered_new room) list
  simp only [List.nil_append] at final fills
  have settingsOf : ∀ (i : Nat) step, run.1[i]? = some step → ∃ settings, list[i]? = some settings := by
    intro i step h
    obtain ⟨bound, _⟩ := List.getElem?_eq_some_iff.1 h
    exact ⟨_, List.getElem?_eq_getElem (lengths ▸ bound)⟩
  refine ⟨final.written_eq, lengths, fills, ?_, ?_, ?_⟩
  · intro i j step later less h h' failed
    obtain ⟨settings, known⟩ := settingsOf i step h
    obtain ⟨settings', known'⟩ := settingsOf j later h'
    exact Step.Fills.of_failed less known (fills i settings step known h) (fills j settings' later known' h') failed
  · rintro rfl step mem
    obtain ⟨i, h⟩ := List.mem_iff_getElem?.1 mem
    obtain ⟨settings, known⟩ := settingsOf i step h
    rw [(fills i settings step known h).outcome_eq]
    exact if_pos Writer.fits_none
  · intro settings other resource version
    rw [Settings.announcement, resource, version, ← Settings.announcement]

/-- The default settings three times, to a writer that is full five bytes into the second announcement. -/
theorem run_printing_prefix_sample :
    let list := [Settings.default, Settings.default, Settings.default]
    let run := printing.run list (.new (some 110))
    ∃ first second third, run.1 = [first, second, third] ∧ run.2.written = (transcript list).take 110 ∧
      first.outcome = .ok () ∧ second.outcome = .error .writerFull ∧
      second.after.written = second.before.written ++ utf8Of "PATCH".toList ∧
      third.outcome = .error .writerFull ∧ third.after.written = third.before.written := by
  intro list run
  obtain ⟨written, lengths, fills, stays, _⟩ := run_printing_prefix (some 110) list
  obtain ⟨first, second, third, steps⟩ := List.length_eq_three.1 lengths
  have fills₀ := fills 0 _ first rfl (by rw [steps]; rfl)
  have fills₁ := fills 1 _ second rfl (by rw [steps]; rfl)
  have failed : second.outcome = .error .writerFull := by
    rw [fills₁.outcome_eq]
    exact if_neg (by decide +kernel)
  have full := stays 1 2 second third (by decide) (by rw [steps]; rfl) (by rw [steps]; rfl) (by simp [failed])
  refine ⟨first, second, third, steps, written, ?_, failed, ?_, full.1, full.2⟩
  · rw [fills₀.outcome_eq]
    exact if_pos (by decide +kernel)
  · rw [fills₁.after_eq]
    exact congrArg (second.before.written ++ ·) (by decide +kernel)

end Announcer

end PipelineSelection
