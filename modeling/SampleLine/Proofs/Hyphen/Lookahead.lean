/-
How far the readers of hyphen forms look.
-/
import SampleLine.Proofs.Hyphen.Continuation
import SampleLine.Proofs.Json.ValueLookahead

namespace SampleLine

namespace HyphenForm

open Json

theorem nearsighted_readName (input : Text) : Nearsighted readName input := by
  simp only [funext readName_eq_bind]
  refine (nearsighted_stringBody input).bind fun name rest _ => ?_
  cases known : ofName? name with
  | some form =>
      simp only [known]
      exact nearsighted_found form rest
  | none =>
      simp only [known]
      exact nearsighted_here (.unknownVariant name names) rest

/-- What does not close the object is looked at, and the fault is placed before it. -/
theorem nearsighted_readClose (input : Text) :
    Nearsighted (fun input => unvalued (readClose input)) input := by
  refine Nearsighted.of_skip_then unvalued rfl (fun fronts => ?_) input
  simp only [apply_ite unvalued]
  exact Settled.ite_eq (by decide) fronts (fun agree => settled_found_cons () agree _)
    (settled_here _ fronts.agree)

theorem nearsighted_readEntry (input : Text) : Nearsighted readEntry input := by
  simp only [funext readEntry_eq_bind]
  refine (nearsighted_readName input).bind fun form afterName _ => ?_
  refine (nearsighted_colon afterName).bindUnvalued fun afterColon _ => ?_
  refine (nearsighted_null afterColon).bindUnvalued fun afterNull _ => ?_
  refine (nearsighted_readClose afterNull).bindUnvalued fun rest _ => ?_
  exact nearsighted_found form rest

theorem nearsighted_readObject (input : Text) : Nearsighted readObject input := by
  refine Nearsighted.of_skip rfl (fun {left right c rest d rest'} fronts => ?_) input
  refine Settled.ite_eq (by decide) fronts
    (fun agree => (nearsighted_readEntry rest).settled_cons agree c) ?_
  exact Settled.ite_eq (by decide) fronts (fun _ => settled_past _ fronts)
    (settled_past _ fronts)

theorem nearsighted_read (input : Text) : Nearsighted read input := by
  refine Nearsighted.of_skip rfl (fun {left right c rest d rest'} fronts => ?_) input
  refine Settled.ite_eq (by decide) fronts
    (fun agree => (nearsighted_readName rest).settled_cons agree c) ?_
  exact Settled.ite_eq (by decide) fronts
    (fun agree => (nearsighted_readObject rest).settled_cons agree c) (settled_past _ fronts)

end HyphenForm

end SampleLine
