import RiscvListing.Terminal.Emoji.Name
import RiscvListing.Text.Blank
import RiscvListing.Text.Case

/-!
# Emoji in texts

The name of an emoji between two colons stands for the emoji. Behind the name it can be asked for
the picture or for the plain sign. A word between colons that is no such name is left as it is, and
its second colon starts no other word.

## Main definitions

* `Terminal.Emoji.ofCode?` — the emoji that is asked for between two colons.
* `Terminal.Emoji.replaced` — a text with emoji in place of their names.

## Main results

* `Terminal.Emoji.replaced_of_not_mem` — a text without colons is left as it is.
-/

namespace RiscvListing.Terminal.Emoji

/-- The words that ask for a form of an emoji, each with the sign that gives it. -/
def forms : List (String × Char) := [("-emoji", '\ufe0f'), ("-text", '\ufe0e')]

/-- The emoji that is asked for between two colons. -/
def ofCode? (code : List Char) : Option (List Char) :=
  match forms.find? fun (word, _) => word.toList.isSuffixOf code with
  | some (word, sign) =>
    (glyph? (Text.lower (code.take (code.length - word.length)))).map (· ++ [sign])
  | none => glyph? (Text.lower code)

/-- A text with emoji in place of their names. -/
def replaced : List Char → List Char
  | [] => []
  | c :: rest =>
    if c = ':' then
      let code := rest.takeWhile fun c => c ≠ ':' ∧ ¬ Text.isBlank c
      match _h : rest.drop code.length with
      | ':' :: behind => (ofCode? code).getD (':' :: code ++ [':']) ++ replaced behind
      | _ => c :: replaced rest
    else c :: replaced rest
termination_by chars => chars.length
decreasing_by
  · have := congrArg List.length _h
    simp only [List.length_drop, List.length_cons] at this ⊢
    omega
  · simp
  · simp

theorem replaced_of_not_mem (chars : List Char) (h : ':' ∉ chars) : replaced chars = chars := by
  induction chars with
  | nil => rw [replaced]
  | cons c rest ih =>
    rw [replaced, if_neg (fun hc => h (by simp [hc])), ih fun hm => h (List.mem_cons_of_mem c hm)]

end RiscvListing.Terminal.Emoji
