import UrlRules.Command.Run

/-!
# Confirmations

A confirmation is markup in which only the tick has a style of its own. Where what is confirmed holds no bracket,
no tag is read in it, so it can be shown (`render_confirmation`).
-/
namespace UrlRules

open Text

namespace Markup

variable {s : Text}

theorem markedTag?_of_not_mem (absent : openBracket ∉ s) : markedTag? s = none := by
  have rest : openBracket ∉ s.drop (s.takeWhile (· == backslash)).length :=
    fun member => absent (List.mem_of_mem_drop member)
  have none : tagAtStart? (s.drop (s.takeWhile (· == backslash)).length) = none := by
    unfold tagAtStart?
    split
    next b c t parts =>
      rw [parts] at rest
      exact if_neg fun starts => rest (by simp [starts.1])
    next => rfl
  rw [markedTag?, none]
  rfl

/-- What holds no bracket is one piece of text. -/
theorem piecesAfter_of_not_mem (absent : openBracket ∉ s) (before : Text) :
    piecesAfter before s = gathered (s.reverse ++ before) := by
  induction s generalizing before with
  | nil => rw [piecesAfter]; rfl
  | cons c s ih =>
    rw [piecesAfter, markedTag?_of_not_mem absent]
    dsimp only
    rw [ih fun member => absent (List.mem_cons_of_mem c member)]
    simp

/-- A tag that is not marked ends the piece before it. -/
theorem piecesAfter_tag {c : CodePoint} {tag : Text} (found : markedTag? (c :: s) = some (0, tag)) (before : Text) :
    piecesAfter before (c :: s) =
      gathered before ++ .tag tag :: piecesAfter [] ((c :: s).drop (width 0 tag)) := by
  rw [piecesAfter, found]
  simp [markedPieces]

/-- What holds no bracket can be confirmed. -/
theorem render_confirmation (absent : openBracket ∉ s) :
    ∃ text, render (Command.Report.styled "green" Command.Report.tick ++ Text.of " " ++ s) = .ok text := by
  have rest : openBracket ∉ Text.of " " ++ s := by simpa using ⟨by decide, absent⟩
  have pieces : piecesAfter [] (Command.Report.styled "green" Command.Report.tick ++ Text.of " " ++ s) =
      [.tag (Text.of "green"), .text Command.Report.tick, .tag (Text.of "/green"), .text (Text.of " " ++ s)] :=
    calc piecesAfter [] (Command.Report.styled "green" Command.Report.tick ++ Text.of " " ++ s)
        = .tag (Text.of "green") :: piecesAfter [] (Command.Report.tick ++ Text.of "[/green] " ++ s) :=
          piecesAfter_tag rfl []
      _ = .tag (Text.of "green") :: piecesAfter Command.Report.tick (Text.of "[/green] " ++ s) := by
          rw [show Command.Report.tick ++ Text.of "[/green] " ++ s = 0x2713 :: (Text.of "[/green] " ++ s) from rfl,
            piecesAfter, show markedTag? (0x2713 :: (Text.of "[/green] " ++ s)) = none from rfl]
          rfl
      _ = .tag (Text.of "green") :: .text Command.Report.tick :: .tag (Text.of "/green") ::
            piecesAfter [] (Text.of " " ++ s) := congrArg _ (piecesAfter_tag rfl Command.Report.tick)
      _ = [.tag (Text.of "green"), .text Command.Report.tick, .tag (Text.of "/green"), .text (Text.of " " ++ s)] := by
          rw [piecesAfter_of_not_mem rest, List.append_nil, gathered]
          simp [Text.of]
  have first : afterTag [] (Text.of "green") = .ok [Text.of "green"] := by rfl
  have last : afterTag [Text.of "green"] (Text.of "/green") = .ok [] := by rfl
  have bracket : (Command.Report.styled "green" Command.Report.tick ++ Text.of " " ++ s).contains openBracket = true :=
    rfl
  rw [render, if_pos bracket, pieces]
  simp [shown, first, last, bind, Except.bind, pure, Except.pure]

theorem openBracket_not_mem_ofNat (n : Nat) : openBracket ∉ ofNat n := by
  intro member
  obtain ⟨c, inside, same⟩ := List.mem_map.mp member
  have digit := Nat.isDigit_of_mem_toDigits (by decide) (by decide) inside
  simp only [Char.isDigit, Bool.and_eq_true, decide_eq_true_eq, ge_iff_le] at digit
  have high : c.toNat ≤ 57 := digit.2
  rw [same] at high
  exact absurd high (by decide)

end Markup

namespace Command

/-- An import that was made is confirmed. -/
theorem present_imported (count : Nat) : (Report.imported count).present.ending = .done 0 := by
  have absent : Markup.openBracket ∉ Text.of "Imported " ++ ofNat count ++ Text.of " rules" := by
    have words : Markup.openBracket ∉ Text.of "Imported " ∧ Markup.openBracket ∉ Text.of " rules" := by decide
    simpa using ⟨words.1, Markup.openBracket_not_mem_ofNat count, words.2⟩
  obtain ⟨text, shown⟩ := Markup.render_confirmation absent
  have line : (Report.confirmation (Text.of "Imported " ++ ofNat count ++ Text.of " rules")).render =
      .ok (.line text) := by
    rw [Report.confirmation, Message.render, shown]
    rfl
  have messages : (Report.imported count).messages =
      [Report.confirmation (Text.of "Imported " ++ ofNat count ++ Text.of " rules")] := rfl
  simp only [Report.present, messages, Message.renderAll, line]
  rfl

end Command
end UrlRules
