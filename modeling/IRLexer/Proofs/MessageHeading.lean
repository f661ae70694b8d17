import IRLexer.Proofs.Numeral
import IRLexer.Subject
import Mathlib.Data.List.DropRight

/-!
# Headings of messages

The message of a fatal error is the text of the error behind a heading that names the source and
the line.  A line shields the name in front of it.  A name that stands alone loses the colons at
its end, and no other part of a name is ever lost.
-/

namespace IRLexer.LexError

theorem dropTrailingColons_eq_rdropWhile (text : List Char) :
    dropTrailingColons text = text.rdropWhile (· = ':') :=
  rfl

theorem dropTrailingColons_eq_self_iff {text : List Char} :
    dropTrailingColons text = text ↔ text.getLast? ≠ some ':' := by
  rw [dropTrailingColons_eq_rdropWhile, List.rdropWhile_eq_self_iff]
  cases text using List.reverseRecOn with
  | nil => simp
  | append_singleton front last => simp

theorem dropTrailingColons_append_colons (text : List Char) (count : Nat) :
    dropTrailingColons (text ++ List.replicate count ':') = dropTrailingColons text := by
  induction count with
  | zero => rw [List.replicate_zero, List.append_nil]
  | succ count ih =>
      rw [List.replicate_succ', ← List.append_assoc, dropTrailingColons_eq_rdropWhile,
        List.rdropWhile_concat_pos _ _ _ (by decide), ← dropTrailingColons_eq_rdropWhile, ih]

theorem dropTrailingColons_append_integer (front : List Char) (number : Int) :
    dropTrailingColons (front ++ Decimal.integer number) = front ++ Decimal.integer number := by
  rw [dropTrailingColons_eq_self_iff,
    List.getLast?_append_of_ne_nil _ (Decimal.integer_ne_nil number)]
  intro hlast
  exact absurd (Decimal.isDigit_of_getLast?_integer hlast) (by decide)

/-- What is known of the name and the line, with the name as it is.  An empty name is no name. -/
def heading (line : Option Int) (sourceFile : Option String) : List Char :=
  match sourceFile.filter (· ≠ ""), line with
  | none, none => []
  | none, some number => Decimal.integer number ++ [' ']
  | some name, none => name.toList ++ [' ']
  | some name, some number => name.toList ++ ':' :: Decimal.integer number ++ [' ']

theorem heading_of_name {name : String} (h : name ≠ "") :
    heading none (some name) = name.toList ++ [' '] := by
  simp [heading, Option.filter_some, h]

theorem exists_place_of_line (text : String) (line : Int) (sourceFile : Option String) :
    ∃ front,
      (LexError.mk text (some line) sourceFile).place = front ++ Decimal.integer line ++ [':'] ∧
        heading (some line) sourceFile = front ++ Decimal.integer line ++ [' '] := by
  cases sourceFile with
  | none => exact ⟨[], rfl, rfl⟩
  | some name =>
      by_cases hname : name = ""
      · subst hname
        exact ⟨[], rfl, rfl⟩
      · refine ⟨name.toList ++ [':'], ?_, ?_⟩
        · simp [place, hname]
        · simp [heading, Option.filter_some, hname]

/-! ## Messages -/

theorem toList_message_of_place {error : LexError} {front : List Char}
    (h : error.place = front ++ [':']) :
    error.message.toList = dropTrailingColons front ++ ' ' :: error.text.toList := by
  have hdrop : dropTrailingColons (front ++ [':']) = dropTrailingColons front :=
    dropTrailingColons_append_colons front 1
  have hplace : error.place.isEmpty = false := by
    rw [h]
    simp
  rw [message, hplace, h, hdrop]
  simp

theorem toList_message_of_line (text : String) (line : Int) (sourceFile : Option String) :
    (LexError.mk text (some line) sourceFile).message.toList =
      heading (some line) sourceFile ++ text.toList := by
  obtain ⟨front, hplace, hheading⟩ := exists_place_of_line text line sourceFile
  rw [toList_message_of_place hplace, dropTrailingColons_append_integer, hheading]
  simp

example : (Failure.invalidChar ⟨'@', 9, 3⟩ (some "pipe:")).message =
    "pipe::3 invalid character '@'" := by
  decide +kernel

theorem toList_message_of_name (text : String) {name : String} (h : name ≠ "") :
    (LexError.mk text none (some name)).message.toList =
      dropTrailingColons name.toList ++ ' ' :: text.toList := by
  apply toList_message_of_place
  simp [place, h]

theorem toList_message_eq_heading_iff (text : String) (line : Option Int)
    (sourceFile : Option String) :
    (LexError.mk text line sourceFile).message.toList = heading line sourceFile ++ text.toList ↔
      ¬ (line = none ∧ ∃ name, sourceFile = some name ∧ name.toList.getLast? = some ':') := by
  cases line with
  | some line => simp [toList_message_of_line]
  | none =>
      cases sourceFile with
      | none => simp [message, place, heading]
      | some name =>
          by_cases hname : name = ""
          · subst hname
            simp [message, place, heading, Option.filter_some]
          · rw [toList_message_of_name text hname, heading_of_name hname, List.append_assoc,
              List.singleton_append, List.append_left_inj, dropTrailingColons_eq_self_iff]
            simp

theorem isWritable_iff (number : Int) :
    isWritable number = true ↔ number.natAbs < 10 ^ maxNumeralDigits := by
  rw [isWritable, decide_eq_true_eq]
  exact Nat.length_toDigits_le_iff (by decide) (by decide)

theorem checked_cases (error : LexError) :
    (error.checked = .ok error ∧
      ∀ number, error.line = some number → number.natAbs < 10 ^ maxNumeralDigits) ∨
    (error.checked = .error .integerTooLong ∧
      ∃ number, error.line = some number ∧ 10 ^ maxNumeralDigits ≤ number.natAbs) := by
  unfold checked
  cases error.line with
  | none => exact .inl ⟨rfl, fun number hnumber => nomatch hnumber⟩
  | some line =>
      cases hwritable : isWritable line with
      | true =>
          refine .inl ⟨by simp [hwritable], ?_⟩
          rintro number ⟨⟩
          exact (isWritable_iff line).mp hwritable
      | false =>
          refine .inr ⟨by simp [hwritable], line, rfl, Nat.le_of_not_lt fun hlt => ?_⟩
          rw [(isWritable_iff line).mpr hlt] at hwritable
          contradiction

theorem message_of_name_append_colons (text : String) {name : String}
    (h : name.toList.getLast? ≠ some ':') (count : Nat) :
    (LexError.mk text none
      (some (name ++ String.ofList (List.replicate (count + 1) ':')))).message =
      name ++ " " ++ text := by
  have hnamed : name ++ String.ofList (List.replicate (count + 1) ':') ≠ "" := by
    intro hempty
    have hcolons := congrArg String.toList hempty
    rw [String.toList_append, String.toList_ofList, List.replicate_succ] at hcolons
    simp at hcolons
  have hdrop :
      dropTrailingColons (name.toList ++ List.replicate (count + 1) ':') = name.toList := by
    rw [dropTrailingColons_append_colons, dropTrailingColons_eq_self_iff]
    exact h
  rw [← String.toList_inj, toList_message_of_name text hnamed, String.toList_append,
    String.toList_ofList, hdrop]
  simp

/--
A message is the heading of the name and the line with the text behind it, unless there is no line
and the name ends with a colon.  Such a name loses the colons at its end and nothing else.  The
error of an invalid character has a line, and so its message always keeps the name.  An error whose
line has too many digits is not raised at all.
-/
theorem messages_keep_name_iff (text : String) (sourceFile : Option String) :
    (∀ line : Option Int,
      (LexError.mk text line sourceFile).message.toList = heading line sourceFile ++ text.toList ↔
        ¬ (line = none ∧ ∃ name, sourceFile = some name ∧ name.toList.getLast? = some ':')) ∧
    (∀ (name : String) (count : Nat), name.toList.getLast? ≠ some ':' →
      sourceFile = some (name ++ String.ofList (List.replicate (count + 1) ':')) →
      (LexError.mk text none sourceFile).message = name ++ " " ++ text) ∧
    (∀ report : ErrorReport,
      (report.fatal sourceFile).message.toList =
        heading (some report.line) sourceFile ++ (describeInvalid report.char).toList) ∧
    (∀ error : CharError,
      (Failure.invalidChar error sourceFile).message.toList =
        heading (some error.line) sourceFile ++ (describeInvalid [error.char]).toList) ∧
    ∀ line : Option Int,
      ((LexError.mk text line sourceFile).checked = .ok (LexError.mk text line sourceFile) ∧
        ∀ number, line = some number → number.natAbs < 10 ^ maxNumeralDigits) ∨
      ((LexError.mk text line sourceFile).checked = .error .integerTooLong ∧
        ∃ number, line = some number ∧ 10 ^ maxNumeralDigits ≤ number.natAbs) := by
  refine ⟨?_, ?_, ?_, ?_, ?_⟩
  · intro line
    exact toList_message_eq_heading_iff text line sourceFile
  · rintro name count hname rfl
    exact message_of_name_append_colons text hname count
  · intro report
    exact toList_message_of_line _ _ _
  · intro error
    exact toList_message_of_line _ _ _
  · intro line
    exact checked_cases _

theorem messages_keep_name_iff_innerColon :
    "a:b".toList.getLast? ≠ some ':' ∧
      (LexError.mk "bad" none (some "a:b::")).message = "a:b bad" := by
  have hname : "a:b".toList.getLast? ≠ some ':' := by decide
  exact ⟨hname, (messages_keep_name_iff "bad" (some "a:b::")).2.1 "a:b" 1 hname rfl⟩

theorem message_loses_colon :
    (LexError.mk "bad" none (some "pipe:")).message = "pipe bad" ∧
      (LexError.mk "bad" none (some "pipe:")).message.toList ≠
        heading none (some "pipe:") ++ "bad".toList := by
  decide

end IRLexer.LexError
