/-
The values and the punctuation of a JSON text.  Each reader is described by
what stands in the text behind the blanks at its front.
-/
import Mathlib.Data.List.DropRight
import SampleLine.Json.Reader
import SampleLine.Proofs.Json.Strings

namespace SampleLine

namespace Json

theorem skip_append_of_blank {blank : Text} (hblank : Blank blank) (text : Text) :
    skip (blank ++ text) = skip text :=
  List.dropWhile_append_of_pos hblank

theorem skip_cons_of_not_space {c : Char} (solid : isSpace c = false) (rest : Text) :
    skip (c :: rest) = c :: rest :=
  List.dropWhile_cons_of_neg (by simp [solid])

/-- The front of a text is blank up to the first character that is not. -/
theorem skip_eq_cons_iff (text rest : Text) (c : Char) :
    skip text = c :: rest ↔
      isSpace c = false ∧ ∃ blank, Blank blank ∧ text = blank ++ c :: rest := by
  constructor
  · intro front
    have split : text.takeWhile isSpace ++ skip text = text := List.takeWhile_append_dropWhile
    have solid := List.head?_dropWhile_not isSpace text
    rw [← skip, front] at solid
    rw [front] at split
    exact ⟨solid, text.takeWhile isSpace, fun _ => List.mem_takeWhile_imp, split.symm⟩
  · intro h
    rcases h with ⟨solid, blank, hblank, rfl⟩
    rw [skip_append_of_blank hblank, skip_cons_of_not_space solid]

theorem skip_skip (text : Text) : skip (skip text) = skip text :=
  List.dropWhile_idempotent _ text

theorem skip_eq_nil_iff (text : Text) : skip text = [] ↔ Blank text := by
  simp [skip, Blank]

theorem word_eq_ok_iff (letters input rest : Text) :
    word letters input = .ok rest ↔ input = letters ++ rest := by
  induction letters generalizing input with
  | nil => simp [word]
  | cons letter letters ih =>
      cases input with
      | nil => simp [word]
      | cons c behind =>
          by_cases same : c = letter
          · simp [word, same, ih]
          · simp [word, same]

theorem colon_eq_ok_iff (input rest : Text) :
    colon input = .ok rest ↔ skip input = ':' :: rest := by
  rw [colon]
  cases skip input with
  | nil => simp
  | cons c behind => by_cases same : c = ':' <;> simp [same]

theorem text_eq_ok_iff (input rest value : Text) :
    text input = .ok (value, rest) ↔
      ∃ body, Spelling value body ∧ skip input = '"' :: body ++ '"' :: rest := by
  rw [text]
  cases skip input with
  | nil => simp
  | cons c behind => by_cases same : c = '"' <;> simp [same, stringBody_eq_ok_iff]

def flagWord (flag : Bool) : Text :=
  if flag then ['t', 'r', 'u', 'e'] else ['f', 'a', 'l', 's', 'e']

theorem boolean_eq_ok_iff (input rest : Text) (flag : Bool) :
    boolean input = .ok (flag, rest) ↔ skip input = flagWord flag ++ rest := by
  have rue : "rue".toList = ['r', 'u', 'e'] := rfl
  have alse : "alse".toList = ['a', 'l', 's', 'e'] := rfl
  simp only [boolean, rue, alse]
  cases skip input with
  | nil => cases flag <;> simp [flagWord]
  | cons c behind =>
      simp only
      constructor
      · intro h
        split at h
        · rename_i first
          split at h
          · cases h
          · rename_i read
            obtain ⟨rfl, rfl⟩ := Prod.mk.inj (Except.ok.inj h)
            rw [first, (word_eq_ok_iff _ _ _).1 read]
            rfl
        · split at h
          · rename_i first
            split at h
            · cases h
            · rename_i read
              obtain ⟨rfl, rfl⟩ := Prod.mk.inj (Except.ok.inj h)
              rw [first, (word_eq_ok_iff _ _ _).1 read]
              rfl
          · cases h
      · intro front
        cases flag with
        | true =>
            obtain ⟨rfl, same⟩ := List.cons.inj front
            rw [if_pos rfl, (word_eq_ok_iff ['r', 'u', 'e'] behind rest).2 same]
        | false =>
            obtain ⟨rfl, same⟩ := List.cons.inj front
            rw [if_neg (by decide), if_pos rfl,
              (word_eq_ok_iff ['a', 'l', 's', 'e'] behind rest).2 same]

theorem null_eq_ok_iff (input rest : Text) :
    null input = .ok rest ↔ skip input = ['n', 'u', 'l', 'l'] ++ rest := by
  have ull : "ull".toList = ['u', 'l', 'l'] := rfl
  rw [null]
  cases skip input with
  | nil => simp
  | cons c behind => by_cases same : c = 'n' <;> simp [same, ull, word_eq_ok_iff]

theorem nextKey_eq_closed_iff (first : Bool) (input rest : Text) :
    nextKey first input = .ok (.closed, rest) ↔ skip input = '}' :: rest := by
  rw [nextKey]
  cases skip input with
  | nil => simp
  | cons c behind =>
      simp only
      split
      · rename_i closed
        simp [closed]
      · rename_i unclosed
        refine iff_of_false ?_ (by simp [unclosed])
        repeat' split
        all_goals simp

theorem nextKey_first_eq_another_iff (input rest : Text) :
    nextKey true input = .ok (.another, rest) ↔ skip input = '"' :: rest := by
  rw [nextKey]
  cases skip input with
  | nil => simp
  | cons c behind =>
      by_cases closed : c = '}'
      · simp [closed]
      · by_cases quoted : c = '"' <;> simp [closed, quoted]

theorem nextKey_later_eq_another_iff (input rest : Text) :
    nextKey false input = .ok (.another, rest) ↔
      ∃ behind, skip input = ',' :: behind ∧ skip behind = '"' :: rest := by
  rw [nextKey]
  cases skip input with
  | nil => simp
  | cons c behind =>
      by_cases closed : c = '}'
      · simp [closed]
      · by_cases comma : c = ','
        · simp only [comma, Char.reduceEq, if_false, if_true, Bool.false_eq_true, List.cons.injEq,
            true_and, exists_eq_left']
          cases skip behind with
          | nil => simp
          | cons d later =>
              by_cases quoted : d = '"'
              · simp [quoted]
              · by_cases last : d = '}' <;> simp [quoted, last]
        · simp [closed, comma]

theorem nextItem_eq_closed_iff (first : Bool) (input rest : Text) :
    nextItem first input = .ok (.closed, rest) ↔ skip input = ']' :: rest := by
  rw [nextItem]
  cases skip input with
  | nil => simp
  | cons c behind =>
      simp only
      split
      · rename_i closed
        simp [closed]
      · rename_i unclosed
        refine iff_of_false ?_ (by simp [unclosed])
        repeat' split
        all_goals simp

def MayStartItem (text : Text) : Prop := ∃ c later, text = c :: later ∧ c ≠ ']'

theorem mayStartItem_cons_iff (c : Char) (later : Text) :
    MayStartItem (c :: later) ↔ c ≠ ']' := by
  simp [MayStartItem]

theorem nextItem_first_eq_another_iff (input rest : Text) :
    nextItem true input = .ok (.another, rest) ↔ skip input = rest ∧ MayStartItem rest := by
  rw [nextItem]
  cases skip input with
  | nil =>
      refine iff_of_false (by simp) ?_
      intro h
      rcases h with ⟨rfl, c, later, split, -⟩
      cases split
  | cons c behind =>
      by_cases closed : c = ']'
      · refine iff_of_false (by simp [closed]) ?_
        intro h
        rcases h with ⟨rfl, starts⟩
        exact (mayStartItem_cons_iff c behind).1 starts closed
      · simp only [closed, if_false, if_true, Except.ok.injEq, Prod.mk.injEq, true_and]
        constructor
        · rintro rfl
          exact ⟨rfl, (mayStartItem_cons_iff c behind).2 closed⟩
        · exact fun same => same.1

theorem nextItem_later_eq_another_iff (input rest : Text) :
    nextItem false input = .ok (.another, rest) ↔
      ∃ behind, skip input = ',' :: behind ∧ skip behind = rest ∧ MayStartItem rest := by
  rw [nextItem]
  cases skip input with
  | nil => simp
  | cons c behind =>
      by_cases closed : c = ']'
      · simp [closed]
      · by_cases comma : c = ','
        · -- Behind a comma the reader does what it does before the first item.
          have first := nextItem_first_eq_another_iff behind rest
          simp only [comma, Char.reduceEq, if_false, if_true, Bool.false_eq_true, List.cons.injEq,
            true_and, exists_eq_left', ← first]
          rw [nextItem]
          cases skip behind with
          | nil => simp
          | cons d later => by_cases last : d = ']' <;> simp [last]
        · simp [closed, comma]

theorem lastItem_eq_ok_iff (input rest : Text) :
    lastItem input = .ok rest ↔ skip input = ']' :: rest := by
  rw [lastItem]
  cases skip input with
  | nil => simp
  | cons c behind =>
      simp only
      split
      · rename_i closed
        simp [closed]
      · rename_i unclosed
        refine iff_of_false ?_ (by simp [unclosed])
        repeat' split
        all_goals simp

theorem nextKey_blank_append {blank : Text} (hblank : Blank blank) (first : Bool) (input : Text) :
    nextKey first (blank ++ input) = nextKey first input := by
  rw [nextKey, skip_append_of_blank hblank, nextKey]

theorem nextItem_blank_append {blank : Text} (hblank : Blank blank) (first : Bool) (input : Text) :
    nextItem first (blank ++ input) = nextItem first input := by
  rw [nextItem, skip_append_of_blank hblank, nextItem]

theorem lastItem_blank_append {blank : Text} (hblank : Blank blank) (input : Text) :
    lastItem (blank ++ input) = lastItem input := by
  rw [lastItem, skip_append_of_blank hblank, lastItem]

theorem whole_eq_ok_iff {α : Type} (read : Text → Reading α) (input : Text) (value : α) :
    whole read input = .ok value ↔ ∃ rest, read input = .ok (value, rest) ∧ Blank rest := by
  rw [whole]
  cases read input with
  | error failure => simp
  | ok result =>
      obtain ⟨found, rest⟩ := result
      simp only [Except.ok.injEq, Prod.mk.injEq, and_assoc, exists_and_left, exists_eq_left',
        ← skip_eq_nil_iff]
      cases skip rest with
      | nil => simp
      | cons c later => simp

end Json

end SampleLine
