import PageBuilder.Page.OfDocument
import PageBuilder.Proofs.Saving.Blocks
import PageBuilder.Proofs.Script.Comments

set_option autoImplicit false

namespace PageBuilder

def Section.firstLine? (dialect : Dialect) (s : Section) : Option Line :=
  (linesOfAll dialect 3 s.components).head?

/-- The line before the section of a loaded block is a comment. Its text is free of ends, and it is
read to its own end, exactly if no end is nested in the tag under `type`. -/
theorem Section.comment_closes_unless_nested {v : Json} {b : Block} (read : Block.ofJson v = .ok b)
    (dialect : Dialect) :
    ∃ t : String,
      (ofBlock b).firstLine? dialect = some ⟨3, "\x7b/* " ++ t ++ " */\x7d"⟩ ∧
      (¬HoldsCommentEnd t.toList ↔ ¬NestsCommentEnd (Block.typeTag v).toList) ∧
      (Script.comment? ("\x7b/* " ++ t ++ " */\x7d").toList = some ['\x7d'] ↔
        ¬NestsCommentEnd (Block.typeTag v).toList) := by
  let t := String.ofList (withoutCommentEnds (Block.typeTag v).toList)
  have held : HoldsCommentEnd t.toList ↔ NestsCommentEnd (Block.typeTag v).toList := by
    rw [String.toList_ofList]
    exact holdsCommentEnd_withoutCommentEnds _
  refine ⟨t, ?_, not_congr held, ?_⟩
  · simp only [t, ← Block.tag_of_ofJson read]
    rfl
  · rw [comment?_braced, held]

def tagged (tag : String) : Json := .object [("type", .string tag)]

def unnestedTag : String := "*/*//\x7d\x7balert(1)\x7d"

theorem Section.comment_closes_of_unnested :
    ∃ b, Block.ofJson (tagged unnestedTag) = .ok b ∧
      ¬NestsCommentEnd (Block.typeTag (tagged unnestedTag)).toList ∧
      ∃ t : String, (ofBlock b).firstLine? .typed = some ⟨3, "\x7b/* " ++ t ++ " */\x7d"⟩ ∧
        ¬HoldsCommentEnd t.toList ∧
        Script.comment? ("\x7b/* " ++ t ++ " */\x7d").toList = some ['\x7d'] := by
  have read : Block.ofJson (tagged unnestedTag) = .ok ⟨{}, .unsupported unnestedTag⟩ := by rfl
  have unnested : ¬NestsCommentEnd (Block.typeTag (tagged unnestedTag)).toList := by
    decide +kernel
  obtain ⟨t, line, clean, closes⟩ := comment_closes_unless_nested read .typed
  exact ⟨_, read, unnested, t, line, clean.2 unnested, closes.2 unnested⟩

/-- The pieces of one end around another, and a script. -/
def nestedTag : String := "**//\x7d\x7balert(1)\x7d\x7b/*"

/-- What is left of the tag ends the comment, and what follows stands outside of it. -/
theorem Section.nestedTag_ends_comment :
    ∃ b, Block.ofJson (tagged nestedTag) = .ok b ∧
      (ofBlock b).firstLine? .typed = some ⟨3, "\x7b/* */\x7d\x7balert(1)\x7d\x7b/* */\x7d"⟩ ∧
      Script.comment? "\x7b/* */\x7d\x7balert(1)\x7d\x7b/* */\x7d".toList =
        some "\x7d\x7balert(1)\x7d\x7b/* */\x7d".toList ∧
      ¬∃ t : String, (ofBlock b).firstLine? .typed = some ⟨3, "\x7b/* " ++ t ++ " */\x7d"⟩ ∧
        ¬HoldsCommentEnd t.toList := by
  have line : (ofBlock ⟨{}, .unsupported nestedTag⟩).firstLine? .typed =
      some ⟨3, "\x7b/* */\x7d\x7balert(1)\x7d\x7b/* */\x7d"⟩ := by decide +kernel
  have outside : Script.comment? "\x7b/* */\x7d\x7balert(1)\x7d\x7b/* */\x7d".toList =
      some "\x7d\x7balert(1)\x7d\x7b/* */\x7d".toList := by decide +kernel
  refine ⟨⟨{}, .unsupported nestedTag⟩, rfl, line, outside, ?_⟩
  rintro ⟨t, same, clean⟩
  have text : "\x7b/* " ++ t ++ " */\x7d" = "\x7b/* */\x7d\x7balert(1)\x7d\x7b/* */\x7d" :=
    congrArg Line.text (Option.some.inj (same.symm.trans line))
  have closes := (comment?_braced t).2 clean
  rw [text, outside] at closes
  exact absurd closes (by decide +kernel)

end PageBuilder
