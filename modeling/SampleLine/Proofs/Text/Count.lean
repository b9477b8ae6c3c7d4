/-
The finds of a token counted and weighed.  A token whose first character does not come
again in it is found wherever it starts, and its finds lie apart.  A replacement moves
the weight of a text by what each find loses and gains, whatever the characters weigh.
-/
import Mathlib.Algebra.GroupWithZero.Nat
import Mathlib.Data.List.Basic
import SampleLine.Proofs.Text.Replace
import SampleLine.Text.Utf8

namespace SampleLine

namespace Text

theorem countAll_token_append {token : Text} (nonempty : token ≠ []) (rest : Text) :
    countAll token (token ++ rest) = countAll token rest + 1 := by
  rw [countAll, cut_token_append nonempty, List.count_cons_self]
  rfl

theorem countAll_cons_of_absent {token : Text} {c : Char} {rest : Text}
    (absent : ¬ token <+: c :: rest) : countAll token (c :: rest) = countAll token rest := by
  rw [countAll, cut_cons_of_absent absent, List.count_cons_of_ne (Option.some_ne_none c)]
  rfl

/-- A piece of text that holds no first character of the token does not count. -/
theorem countAll_append_of_not_mem {first : Char} {kept : Text} (absent : first ∉ kept)
    (later rest : Text) :
    countAll (first :: later) (kept ++ rest) = countAll (first :: later) rest := by
  have none_not_mem : none ∉ kept.map some := by simp
  rw [countAll, cut_append_of_not_mem absent, List.count_append,
    List.count_eq_zero.2 none_not_mem, Nat.zero_add]
  rfl

/-- One step of the count.  Behind the first character of a find nothing is passed over
that could be a find of its own, as no find starts inside of another. -/
theorem countAll_cons {first : Char} {later : Text} (unlike : first ∉ later) (c : Char)
    (rest : Text) :
    countAll (first :: later) (c :: rest) =
      countAll (first :: later) rest + if first :: later <+: c :: rest then 1 else 0 := by
  by_cases found : first :: later <+: c :: rest
  · rw [if_pos found]
    obtain ⟨behind, hbehind⟩ := found
    obtain ⟨rfl, rfl⟩ := List.cons.inj hbehind
    have counted : countAll (first :: later) (first :: later ++ behind) =
        countAll (first :: later) behind + 1 :=
      countAll_token_append (List.cons_ne_nil first later) behind
    rw [List.append_eq, countAll_append_of_not_mem unlike]
    exact counted
  · rw [if_neg found, countAll_cons_of_absent found, Nat.add_zero]

theorem countAll_singleton (c : Char) (text : Text) : countAll [c] text = text.count c := by
  induction text with
  | nil => rfl
  | cons d text ih =>
      rw [countAll_cons List.not_mem_nil, ih, List.count_cons]
      simp only [List.cons_prefix_cons, List.nil_prefix, and_true, beq_iff_eq, eq_comm (a := c)]

/-- The places of a text at which a word starts, from left to right. -/
def starts (word text : Text) : List Nat :=
  (List.range text.length).filter fun place => word.isPrefixOf (text.drop place)

theorem mem_starts_iff (word text : Text) (place : Nat) :
    place ∈ starts word text ↔ place < text.length ∧ word <+: text.drop place := by
  rw [starts, List.mem_filter, List.mem_range, List.isPrefixOf_iff_prefix]

theorem length_starts_cons (word : Text) (c : Char) (rest : Text) :
    (starts word (c :: rest)).length =
      (starts word rest).length + if word <+: c :: rest then 1 else 0 := by
  have behind : (List.range rest.length).countP
      ((fun place => word.isPrefixOf ((c :: rest).drop place)) ∘ Nat.succ) =
      (starts word rest).length := by
    rw [starts, ← List.countP_eq_length_filter]
    rfl
  rw [starts, List.length_cons, List.range_succ_eq_map, ← List.countP_eq_length_filter,
    List.countP_cons, List.countP_map, behind, List.drop_zero]
  simp only [List.isPrefixOf_iff_prefix]

/-- Every place at which a token starts is a find. -/
theorem countAll_eq_length_starts {first : Char} {later : Text} (unlike : first ∉ later)
    (text : Text) : countAll (first :: later) text = (starts (first :: later) text).length := by
  induction text with
  | nil => rfl
  | cons c rest ih => rw [countAll_cons unlike, length_starts_cons, ih]

/-- Of two places at which a token starts the later one lies behind the token at the
other. -/
theorem add_length_le_of_starts {first : Char} {later text : Text} (unlike : first ∉ later)
    {place next : Nat} (order : place < next) (here : first :: later <+: text.drop place)
    (there : first :: later <+: text.drop next) : place + (first :: later).length ≤ next := by
  by_contra near
  -- The later start would lie inside of the token, whose first character would come again.
  obtain ⟨between, rfl⟩ := Nat.exists_eq_add_of_lt order
  obtain ⟨behind, hbehind⟩ := here
  have inside : between < later.length := by
    rw [List.length_cons] at near
    omega
  have cut : text.drop (place + between + 1) = later.drop between ++ behind := by
    rw [Nat.add_assoc, ← List.drop_drop, ← hbehind, List.cons_append, List.drop_succ_cons,
      List.drop_append_of_le_length (Nat.le_of_lt inside)]
  rw [cut, List.drop_eq_getElem_cons inside, List.cons_append, List.cons_prefix_cons] at there
  exact unlike (there.1 ▸ List.getElem_mem inside)

theorem pairwise_starts {first : Char} {later : Text} (unlike : first ∉ later) (text : Text) :
    (starts (first :: later) text).Pairwise fun place next =>
      place + (first :: later).length ≤ next := by
  have rising : (starts (first :: later) text).Pairwise (· < ·) :=
    List.pairwise_lt_range.filter _
  refine rising.imp_of_mem ?_
  intro place next here there order
  exact add_length_le_of_starts unlike order ((mem_starts_iff _ text place).1 here).2
    ((mem_starts_iff _ text next).1 there).2

/-- A replacement moves the count of a word by what each new piece brings, if the word
shares no character with the replaced token and does not start across an end of a
piece. -/
theorem countAll_replaceAll {first start head : Char} {later final tail : Text} {gain : Nat}
    (unlike : head ∉ tail) (ofToken : ∀ c ∈ head :: tail, c ∉ first :: later)
    (hstart : start ∉ tail)
    (ofPiece : ∀ rest, countAll (head :: tail) (start :: final ++ rest) =
      countAll (head :: tail) rest + gain) (text : Text) :
    countAll (head :: tail) (replaceAll (first :: later) (start :: final) text) =
      countAll (head :: tail) text + gain * countAll (first :: later) text := by
  have nonempty : first :: later ≠ [] := List.cons_ne_nil first later
  have hhead : head ∉ first :: later := ofToken head List.mem_cons_self
  have hfirst : first ∉ tail := fun member =>
    ofToken first (List.mem_cons_of_mem head member) List.mem_cons_self
  induction text using token_induction nonempty with
  | nil => rfl
  | found rest ih =>
      rw [replaceAll_token_append nonempty, ofPiece, ih, countAll_append_of_not_mem hhead,
        countAll_token_append nonempty, Nat.mul_succ, Nat.add_assoc]
  | absent c rest other ih =>
      have kept : head :: tail <+: c :: replaceAll (first :: later) (start :: final) rest ↔
          head :: tail <+: c :: rest := by
        rw [List.cons_prefix_cons, List.cons_prefix_cons, prefix_replaceAll_iff hfirst hstart]
      rw [replaceAll_cons_of_absent other, countAll_cons unlike, countAll_cons unlike, ih,
        countAll_cons_of_absent other, if_congr kept rfl rfl, Nat.add_right_comm]

/-- A replacement keeps the count of a word that shares no character with the token and
with the new piece. -/
theorem countAll_replaceAll_of_apart {first start head : Char} {later final tail : Text}
    (unlike : head ∉ tail) (ofToken : ∀ c ∈ head :: tail, c ∉ first :: later)
    (ofPiece : ∀ c ∈ head :: tail, c ∉ start :: final) (text : Text) :
    countAll (head :: tail) (replaceAll (first :: later) (start :: final) text) =
      countAll (head :: tail) text := by
  have hstart : start ∉ tail := fun member =>
    ofPiece start (List.mem_cons_of_mem head member) List.mem_cons_self
  have kept : ∀ rest, countAll (head :: tail) (start :: final ++ rest) =
      countAll (head :: tail) rest + 0 :=
    countAll_append_of_not_mem (ofPiece head List.mem_cons_self) tail
  have moved : countAll (head :: tail) (replaceAll (first :: later) (start :: final) text) =
      countAll (head :: tail) text + 0 * countAll (first :: later) text :=
    countAll_replaceAll unlike ofToken hstart kept text
  rwa [Nat.zero_mul] at moved

/-- Each find of a replaced token takes its weight away and puts that of the piece in. -/
theorem sum_replaceAll {token : Text} (nonempty : token ≠ []) (weight : Char → Nat)
    (piece text : Text) :
    ((replaceAll token piece text).map weight).sum +
        (token.map weight).sum * countAll token text =
      (text.map weight).sum + (piece.map weight).sum * countAll token text := by
  induction text using token_induction nonempty with
  | nil => rfl
  | found rest ih =>
      rw [replaceAll_token_append nonempty, countAll_token_append nonempty, List.map_append,
        List.map_append, List.sum_append, List.sum_append, Nat.mul_succ, Nat.mul_succ]
      omega
  | absent c rest other ih =>
      rw [replaceAll_cons_of_absent other, countAll_cons_of_absent other, List.map_cons,
        List.map_cons, List.sum_cons, List.sum_cons]
      omega

theorem sum_map_utf8Size (text : Text) : (text.map Char.utf8Size).sum = byteSize text := by
  simp [byteSize, utf8, List.length_flatMap]

/-- Where one character alone weighs, a text weighs as often as that character comes in it. -/
theorem sum_map_eq_count (c : Char) (text : Text) :
    (text.map fun d => if d = c then 1 else 0).sum = text.count c := by
  induction text with
  | nil => rfl
  | cons d text ih =>
      rw [List.map_cons, List.sum_cons, ih, List.count_cons, Nat.add_comm]
      simp only [beq_iff_eq]

/-- The count of a character moves by what each find loses and gains of it. -/
theorem count_replaceAll {token : Text} (nonempty : token ≠ []) (c : Char) (piece text : Text) :
    (replaceAll token piece text).count c + token.count c * countAll token text =
      text.count c + piece.count c * countAll token text := by
  have moved := sum_replaceAll nonempty (fun d => if d = c then 1 else 0) piece text
  simpa only [sum_map_eq_count] using moved

end Text

end SampleLine
