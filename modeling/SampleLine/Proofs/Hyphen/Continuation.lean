/-
Reading a hyphen form from the front of a text and from all of it.
-/
import SampleLine.Hyphen.Reader
import SampleLine.Proofs.Json.Continuation

namespace SampleLine

namespace HyphenForm

open Json

theorem readName_eq_bind (input : Text) :
    readName input =
      (stringBody input).bind fun (name, rest) =>
        match ofName? name with
        | some form => .ok (form, rest)
        | none => .error (.here (.unknownVariant name names) rest) := by
  rw [readName]
  repeat' split
  all_goals simp only [*, Except.bind]

theorem readEntry_eq_bind (input : Text) :
    readEntry input =
      (readName input).bind fun (form, rest) =>
        (colon rest).bind fun rest =>
          (null rest).bind fun rest => (readClose rest).bind fun rest => .ok (form, rest) := by
  rw [readEntry]
  repeat' split
  all_goals simp only [*, Except.bind]

theorem continues_readName (input more : Text) :
    Continues (behind more) (readName input) (readName (input ++ more)) := by
  rw [readName_eq_bind, readName_eq_bind]
  refine (continues_stringBody input more).bind ?_
  rintro ⟨name, rest⟩ -
  cases known : ofName? name with
  | some form =>
      simp only [behind, known]
      exact .found form rest more
  | none =>
      simp only [behind, known]
      exact .refused _ _

theorem continues_readClose (input more : Text) :
    Continues (· ++ more) (readClose input) (readClose (input ++ more)) := by
  rcases skip_append_cases input more with blank | ⟨c, rest, front, front'⟩
  · rw [readClose, blank]
    exact .ended .object _
  · simp only [readClose, front, front']
    split
    · exact .value rest
    · exact .refused _ _

theorem continues_readEntry (input more : Text) :
    Continues (behind more) (readEntry input) (readEntry (input ++ more)) := by
  rw [readEntry_eq_bind, readEntry_eq_bind]
  refine (continues_readName input more).bind ?_
  rintro ⟨form, afterName⟩ -
  refine (continues_colon afterName more).bind fun afterColon _ => ?_
  refine (continues_null afterColon more).bind fun afterNull _ => ?_
  refine (continues_readClose afterNull more).bind fun rest _ => ?_
  exact .found form rest more

theorem continues_readObject (input more : Text) :
    Continues (behind more) (readObject input) (readObject (input ++ more)) := by
  rcases skip_append_cases input more with blank | ⟨c, rest, front, front'⟩
  · rw [readObject, blank]
    exact .ended .object _
  · simp only [readObject, front, front']
    split
    · exact continues_readEntry rest more
    · split
      · exact .refused _ _
      · exact .refused _ _

theorem continues_read (input more : Text) :
    Continues (behind more) (read input) (read (input ++ more)) := by
  rcases skip_append_cases input more with blank | ⟨c, rest, front, front'⟩
  · rw [read, blank]
    exact .ended .value _
  · simp only [read, front, front']
    split
    · exact continues_readName rest more
    · split
      · exact continues_readObject rest more
      · exact .refused _ _

end HyphenForm

end SampleLine
