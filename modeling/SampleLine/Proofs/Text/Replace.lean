/-
The cut of a text at the finds of a token, read from the left: what it is at the front of
a text.  A replacement puts a piece in for each find, and there are texts that it neither
makes nor breaks.
-/
import SampleLine.Text.Basic

namespace SampleLine

namespace Text

theorem cutFrom_length_append (token passed rest : Text) :
    cutFrom token passed.length (passed ++ rest) = cut token rest := by
  induction passed with
  | nil => rfl
  | cons c passed ih => simpa [cutFrom] using ih

theorem cut_token_append {token : Text} (nonempty : token ≠ []) (rest : Text) :
    cut token (token ++ rest) = none :: cut token rest := by
  obtain ⟨first, later, rfl⟩ := List.exists_cons_of_ne_nil nonempty
  have found : (first :: later).isPrefixOf (first :: (later ++ rest)) = true :=
    List.isPrefixOf_iff_prefix.2 (List.prefix_append (first :: later) rest)
  have passed := cutFrom_length_append (first :: later) later rest
  rw [List.cons_append, cut, cutFrom, if_pos found]
  simpa using passed

theorem cut_cons_of_absent {token : Text} {c : Char} {rest : Text}
    (absent : ¬ token <+: c :: rest) : cut token (c :: rest) = some c :: cut token rest := by
  have passed : token.isPrefixOf (c :: rest) ≠ true := by
    rwa [Ne, List.isPrefixOf_iff_prefix]
  rw [cut, cutFrom, if_neg passed]
  rfl

/-- No find starts in a piece of text that holds no first character of the token. -/
theorem cut_append_of_not_mem {first : Char} {kept : Text} (absent : first ∉ kept)
    (later rest : Text) :
    cut (first :: later) (kept ++ rest) = kept.map some ++ cut (first :: later) rest := by
  induction kept with
  | nil => rfl
  | cons c kept ih =>
      rw [List.mem_cons, not_or] at absent
      have other : ¬ first :: later <+: c :: (kept ++ rest) := by
        rw [List.cons_prefix_cons]
        exact fun same => absent.1 same.1
      rw [List.cons_append, cut_cons_of_absent other, ih absent.2, List.map_cons,
        List.cons_append]

/-- A token at the front is replaced, and the search goes on behind it. -/
theorem replaceAll_token_append {token : Text} (nonempty : token ≠ []) (piece rest : Text) :
    replaceAll token piece (token ++ rest) = piece ++ replaceAll token piece rest := by
  rw [replaceAll, cut_token_append nonempty]
  rfl

/-- A character at which no token starts is kept. -/
theorem replaceAll_cons_of_absent {token : Text} {c : Char} {rest : Text}
    (absent : ¬ token <+: c :: rest) (piece : Text) :
    replaceAll token piece (c :: rest) = c :: replaceAll token piece rest := by
  rw [replaceAll, cut_cons_of_absent absent]
  rfl

/-- A text in which the token does not occur is kept. -/
theorem replaceAll_eq_self_of_absent {token text : Text} (absent : ¬ token <:+: text)
    (piece : Text) : replaceAll token piece text = text := by
  induction text with
  | nil => rfl
  | cons c rest ih =>
      rw [List.infix_cons_iff, not_or] at absent
      rw [replaceAll_cons_of_absent absent.1, ih absent.2]

theorem replaceAll_append_of_not_mem {first : Char} {kept : Text} (absent : first ∉ kept)
    (later piece rest : Text) :
    replaceAll (first :: later) piece (kept ++ rest) =
      kept ++ replaceAll (first :: later) piece rest := by
  have same : (kept.map some).flatMap (fun part => part.elim piece fun c => [c]) = kept := by
    simp [List.flatMap_map]
  rw [replaceAll, cut_append_of_not_mem absent, List.flatMap_append, same]
  rfl

/-- A replacement neither makes nor breaks a text at the front that holds
neither the first character of the token nor that of the new piece. -/
theorem prefix_replaceAll_iff {first start : Char} {word : Text} (hfirst : first ∉ word)
    (hstart : start ∉ word) (later final text : Text) :
    word <+: replaceAll (first :: later) (start :: final) text ↔ word <+: text := by
  induction word generalizing text with
  | nil => simp
  | cons a word ih =>
      rw [List.mem_cons, not_or] at hfirst hstart
      cases text with
      | nil => simp
      | cons c rest =>
          by_cases found : first :: later <+: c :: rest
          · obtain ⟨behind, hbehind⟩ := found
            rw [← hbehind, replaceAll_token_append (List.cons_ne_nil first later),
              List.cons_append, List.cons_append, List.cons_prefix_cons, List.cons_prefix_cons]
            exact iff_of_false (fun same => hstart.1 same.1.symm) fun same => hfirst.1 same.1.symm
          · rw [replaceAll_cons_of_absent found, List.cons_prefix_cons, List.cons_prefix_cons,
              ih hfirst.2 hstart.2]

/-- A text is empty, or starts with the token, or with a character at which no
token starts. -/
theorem token_induction {token : Text} (nonempty : token ≠ []) {motive : Text → Prop}
    (nil : motive []) (found : ∀ rest, motive rest → motive (token ++ rest))
    (absent : ∀ c rest, ¬ token <+: c :: rest → motive rest → motive (c :: rest))
    (text : Text) : motive text := by
  induction hlength : text.length using Nat.strongRecOn generalizing text with
  | ind n ih =>
      cases text with
      | nil => exact nil
      | cons c rest =>
          by_cases starts : token <+: c :: rest
          · obtain ⟨behind, hbehind⟩ := starts
            have long := List.length_pos_iff.2 nonempty
            rw [← hbehind, List.length_append] at hlength
            rw [← hbehind]
            exact found behind (ih behind.length (by omega) behind rfl)
          · exact absent c rest starts (ih rest.length (by simp [← hlength]) rest rfl)

/-- A word occurs behind a piece of text with which it shares no character, and
never across the end of it. -/
theorem infix_append_iff {word kept : Text} (nonempty : word ≠ []) (apart : ∀ c ∈ word, c ∉ kept)
    (rest : Text) : word <:+: kept ++ rest ↔ word <:+: rest := by
  obtain ⟨first, later, rfl⟩ := List.exists_cons_of_ne_nil nonempty
  induction kept with
  | nil => rfl
  | cons c kept ih =>
      have other : ¬ first :: later <+: c :: (kept ++ rest) := by
        rw [List.cons_prefix_cons]
        rintro ⟨rfl, -⟩
        exact apart first List.mem_cons_self List.mem_cons_self
      have apart' : ∀ d ∈ first :: later, d ∉ kept := fun d member within =>
        apart d member (List.mem_cons_of_mem c within)
      rw [List.cons_append, List.infix_cons_iff, ih apart']
      exact or_iff_right other

/-- A replacement neither makes nor breaks a word that shares no character with
the token and with the new piece. -/
theorem infix_replaceAll_iff {first start : Char} {later final word : Text}
    (ofToken : ∀ c ∈ word, c ∉ first :: later) (ofPiece : ∀ c ∈ word, c ∉ start :: final)
    (text : Text) :
    word <:+: replaceAll (first :: later) (start :: final) text ↔ word <:+: text := by
  cases word with
  | nil => exact iff_of_true List.nil_infix List.nil_infix
  | cons a word =>
      have nonempty : a :: word ≠ [] := List.cons_ne_nil a word
      have hfirst : first ∉ word := fun member =>
        ofToken first (List.mem_cons_of_mem a member) List.mem_cons_self
      have hstart : start ∉ word := fun member =>
        ofPiece start (List.mem_cons_of_mem a member) List.mem_cons_self
      have token : first :: later ≠ [] := List.cons_ne_nil first later
      induction text using token_induction token with
      | nil => rfl
      | found rest ih =>
          rw [replaceAll_token_append token, infix_append_iff nonempty ofPiece,
            infix_append_iff nonempty ofToken]
          exact ih
      | absent c rest other ih =>
          rw [replaceAll_cons_of_absent other, List.infix_cons_iff, List.infix_cons_iff,
            List.cons_prefix_cons, List.cons_prefix_cons, prefix_replaceAll_iff hfirst hstart]
          exact or_congr_right ih

end Text

end SampleLine
