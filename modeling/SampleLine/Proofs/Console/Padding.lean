/-
Blank characters around the lines of an input.  A line that gets more of them, before
and behind its text, stays one line and asks for the same, for only a line feed ends a
line.  So the output shows none of them, nor whether the last line has its line feed.
-/
import Mathlib.Data.List.Forall2
import SampleLine.Proofs.Console.Simulation

namespace SampleLine

namespace Console

theorem lines_of_not_mem {body : List UInt8} (nonempty : body ≠ []) (inside : 10 ∉ body) :
    lines body = [body] := by
  induction body with
  | nil => exact absurd rfl nonempty
  | cons byte rest ih =>
      rw [List.mem_cons, not_or] at inside
      rw [lines, if_neg (Ne.symm inside.1)]
      cases rest with
      | nil => rfl
      | cons next later => rw [ih (List.cons_ne_nil next later) inside.2]

theorem lines_append_feed {body : List UInt8} (inside : 10 ∉ body) (rest : List UInt8) :
    lines (body ++ 10 :: rest) = (body ++ [10]) :: lines rest := by
  induction body with
  | nil => simp [lines]
  | cons byte body ih =>
      rw [List.mem_cons, not_or] at inside
      rw [List.cons_append, lines, if_neg (Ne.symm inside.1), ih inside.2]
      rfl

/-- An input is empty, or one line without a line feed, or starts with a line that ends
in one. -/
theorem line_induction {motive : List UInt8 → Prop} (nil : motive [])
    (last : ∀ body, body ≠ [] → 10 ∉ body → motive body)
    (line : ∀ body rest, 10 ∉ body → motive rest → motive (body ++ 10 :: rest))
    (input : List UInt8) : motive input := by
  induction hlength : input.length using Nat.strongRecOn generalizing input with
  | ind n ih =>
      by_cases feed : 10 ∈ input
      · obtain ⟨body, rest, rfl, inside⟩ := List.eq_append_cons_of_mem feed
        rw [List.length_append, List.length_cons] at hlength
        exact line body rest inside (ih rest.length (by omega) rest rfl)
      · by_cases empty : input = []
        · exact empty ▸ nil
        · exact last input empty feed

/-- All lines but the last one end in a line feed. -/
theorem whole_flatten {input : List UInt8} {before behind : List (List UInt8)}
    (split : lines input = before ++ behind) (more : behind ≠ []) : Whole before.flatten := by
  induction before generalizing input with
  | nil => exact .inl rfl
  | cons line before ih =>
      obtain ⟨-, others, whole⟩ := lines_eq_cons split
      have ended : Whole line := whole (List.append_ne_nil_of_right_ne_nil before more)
      rw [List.flatten_cons]
      by_cases alone : before.flatten = []
      · rwa [alone, List.append_nil]
      · rcases ih others with empty | feed
        · exact absurd empty alone
        · exact .inr (by rw [List.getLast?_append_of_ne_nil _ alone, feed])

theorem whole_utf8_concat_iff (text : Text) (c : Char) :
    Whole (Text.utf8 (text ++ [c])) ↔ c = '\n' := by
  have nonempty : String.utf8EncodeChar c ≠ [] := String.utf8EncodeChar_ne_nil
  have written : Text.utf8 (text ++ [c]) = Text.utf8 text ++ String.utf8EncodeChar c := by simp
  rw [written]
  constructor
  · rintro (empty | feed)
    · exact absurd (List.append_eq_nil_iff.1 empty).2 nonempty
    · rw [List.getLast?_append_of_ne_nil _ nonempty] at feed
      exact (Text.ten_mem_utf8EncodeChar_iff c).1 (List.mem_of_getLast? feed)
  · rintro rfl
    exact .inr (List.getLast?_append_of_ne_nil _ nonempty)

/-- No line ends behind another character than a line feed, as long as more follows. -/
theorem flatten_ne_of_ne_lineFeed {front back : Text} {c : Char} (other : c ≠ '\n')
    (more : back ≠ []) {before behind : List (List UInt8)}
    (split : lines (Text.utf8 (front ++ c :: back)) = before ++ behind) :
    before.flatten ≠ Text.utf8 (front ++ [c]) := by
  intro ends
  have later : behind ≠ [] := by
    rintro rfl
    have all := lines_flatten (Text.utf8 (front ++ c :: back))
    rw [split, List.append_nil, ends] at all
    have sizes := congrArg List.length all
    obtain ⟨d, back, rfl⟩ := List.exists_cons_of_ne_nil more
    have wide := Char.utf8Size_pos d
    simp only [Text.utf8_length, Text.byteSize_append, Text.byteSize_cons, Text.byteSize_nil]
      at sizes
    omega
  have whole := whole_flatten split later
  rw [ends, whole_utf8_concat_iff] at whole
  exact other whole

def Alike (line other : List UInt8) : Prop := Request.ofLine line = Request.ofLine other

/-- A conversation shows of its lines what they ask for and no more. -/
theorem converse_congr {input other : List (List UInt8)} (alike : List.Forall₂ Alike input other)
    (session : Session) : converse session input = converse session other := by
  induction alike generalizing session with
  | nil => rfl
  | cons same _ ih =>
      rw [Alike] at same
      simp only [converse, same, ih]

theorem alike_of_trim_eq {text other : Text} (same : Text.trim text = Text.trim other) :
    Alike (Text.utf8 text) (Text.utf8 other) := by
  simp only [Alike, Request.ofLine, Text.ofUtf8?_utf8, same]

theorem padding_feed {feed : Text} (hfeed : feed = [] ∨ feed = ['\n']) : Text.Padding feed := by
  rcases hfeed with rfl | rfl
  · exact Text.Padding.nil
  · decide

/-- A line gets blank characters before and behind its text.  Line feeds are not among
them, and the line feed of the line stays at its end. -/
inductive PadsTo : List UInt8 → List UInt8 → Prop where
  | pad {before text after feed : Text} (hbefore : Text.Padding before)
      (hafter : Text.Padding after) (inside : '\n' ∉ before ++ text ++ after)
      (hfeed : feed = [] ∨ feed = ['\n']) :
      PadsTo (Text.utf8 (text ++ feed)) (Text.utf8 (before ++ text ++ after ++ feed))

/-- A padded line asks for what the line asks for. -/
theorem PadsTo.alike {line padded : List UInt8} (pads : PadsTo line padded) :
    Alike line padded := by
  obtain ⟨hbefore, hafter, -, hfeed⟩ := pads
  refine alike_of_trim_eq ?_
  have ended := padding_feed hfeed
  rw [List.append_assoc, Text.trim_pad hbefore (hafter.append ended)]
  exact Text.trim_pad Text.Padding.nil ended _

/-- A padded line has a line feed where the line has one: nowhere, or at its end. -/
theorem PadsTo.feed {line padded : List UInt8} (pads : PadsTo line padded) :
    (10 ∉ line ∧ 10 ∉ padded) ∨
      ∃ body padded', line = body ++ [10] ∧ padded = padded' ++ [10] ∧ 10 ∉ padded' := by
  obtain ⟨-, -, inside, rfl | rfl⟩ := pads
  · left
    simp only [List.append_nil, Text.ten_mem_utf8_iff]
    exact ⟨fun member => inside (by simp [member]), inside⟩
  · right
    rw [Text.utf8_append, Text.utf8_append]
    exact ⟨_, _, rfl, rfl, (Text.ten_mem_utf8_iff _).not.2 inside⟩

theorem PadsTo.ne_nil {line padded : List UInt8} (pads : PadsTo line padded)
    (nonempty : line ≠ []) : padded ≠ [] := by
  obtain ⟨-, -, -, -⟩ := pads
  intro empty
  apply nonempty
  simp only [Text.utf8_append, List.append_eq_nil_iff] at empty ⊢
  exact ⟨empty.1.1.2, empty.2⟩

/-- Padded lines are the lines of what they make up. -/
theorem lines_flatten_of_padsTo {input : List UInt8} {padded : List (List UInt8)}
    (each : List.Forall₂ PadsTo (lines input) padded) : lines padded.flatten = padded := by
  induction input using line_induction generalizing padded with
  | nil =>
      cases each
      rfl
  | last body nonempty inside =>
      rw [lines_of_not_mem nonempty inside] at each
      obtain ⟨padded, _, pads, ⟨⟩, rfl⟩ := List.forall₂_cons_left_iff.1 each
      rcases pads.feed with ⟨-, inside'⟩ | ⟨body, -, rfl, -⟩
      · simpa using lines_of_not_mem (pads.ne_nil nonempty) inside'
      · exact absurd inside (by simp)
  | line body rest inside ih =>
      rw [lines_append_feed inside] at each
      obtain ⟨padded, later, pads, each', rfl⟩ := List.forall₂_cons_left_iff.1 each
      rcases pads.feed with ⟨noFeed, -⟩ | ⟨-, padded, -, rfl, inside'⟩
      · exact absurd noFeed (by simp)
      · rw [List.flatten_cons, List.append_assoc, List.singleton_append,
          lines_append_feed inside', ih each']

theorem transcript_flatten_of_padsTo {input : List UInt8} {padded : List (List UInt8)}
    (each : List.Forall₂ PadsTo (lines input) padded) :
    transcript padded.flatten = transcript input := by
  have alike : List.Forall₂ Alike (lines input) padded := each.imp fun _ _ pads => pads.alike
  rw [transcript, transcript, lines_flatten_of_padsTo each, converse_congr alike]

/-- A line of an input is a text without line feeds, with at most one behind it. -/
theorem exists_text_of_mem_lines {input : List UInt8} {text : Text}
    (member : Text.utf8 text ∈ lines input) :
    ∃ body feed, text = body ++ feed ∧ '\n' ∉ body ∧ (feed = [] ∨ feed = ['\n']) := by
  have inside : '\n' ∉ text.dropLast := fun feed =>
    lineFeed_not_mem_dropLast member (lineFeed_mem_dropLast_utf8 feed)
  rcases List.eq_nil_or_concat' text with rfl | ⟨init, last, rfl⟩
  · exact ⟨[], [], rfl, List.not_mem_nil, .inl rfl⟩
  · rw [List.dropLast_concat] at inside
    by_cases feed : last = '\n'
    · exact ⟨init, ['\n'], by rw [feed], inside, .inr rfl⟩
    · refine ⟨init ++ [last], [], by simp, ?_, .inl rfl⟩
      simpa [inside] using Ne.symm feed

/-- An input with a carriage return put before each line feed. -/
def withReturns (input : List UInt8) : List UInt8 :=
  input.flatMap fun byte => if byte = 10 then [13, 10] else [byte]

theorem withReturns_of_not_mem {body : List UInt8} (inside : 10 ∉ body) :
    withReturns body = body := by
  induction body with
  | nil => rfl
  | cons byte body ih =>
      rw [List.mem_cons, not_or] at inside
      rw [withReturns, List.flatMap_cons, if_neg (Ne.symm inside.1), ← withReturns, ih inside.2,
        List.singleton_append]

theorem withReturns_append (first second : List UInt8) :
    withReturns (first ++ second) = withReturns first ++ withReturns second :=
  List.flatMap_append

theorem withReturns_flatten (input : List (List UInt8)) :
    withReturns input.flatten = (input.map withReturns).flatten := by
  induction input with
  | nil => rfl
  | cons line later ih =>
      rw [List.flatten_cons, withReturns_append, ih, List.map_cons, List.flatten_cons]

/-- A carriage return before the line feed of a line is a blank character behind its text. -/
theorem padsTo_withReturns {input : List UInt8} {text : Text}
    (member : Text.utf8 text ∈ lines input) :
    PadsTo (Text.utf8 text) (withReturns (Text.utf8 text)) := by
  obtain ⟨body, feed, rfl, inside, hfeed⟩ := exists_text_of_mem_lines member
  have kept : withReturns (Text.utf8 body) = Text.utf8 body :=
    withReturns_of_not_mem ((Text.ten_mem_utf8_iff body).not.2 inside)
  obtain ⟨after, hafter, noFeed, written⟩ : ∃ after, Text.Padding after ∧ '\n' ∉ after ∧
      withReturns (Text.utf8 feed) = Text.utf8 (after ++ feed) := by
    rcases hfeed with rfl | rfl
    · exact ⟨[], Text.Padding.nil, List.not_mem_nil, rfl⟩
    · exact ⟨['\r'], by decide, by decide, by decide⟩
  have pads : PadsTo (Text.utf8 (body ++ feed)) (Text.utf8 ([] ++ body ++ after ++ feed)) :=
    .pad Text.Padding.nil hafter (by simp [inside, noFeed]) hfeed
  rw [Text.utf8_append body, withReturns_append, kept, written, ← Text.utf8_append,
    ← Text.utf8_append, ← List.append_assoc]
  exact pads

/-- A line feed behind an input that does not end in one becomes part of its last line. -/
theorem exists_lines_append_feed {input : List UInt8} (nonempty : input ≠ [])
    (unended : input.getLast? ≠ some 10) :
    ∃ before last, lines input = before ++ [last] ∧
      lines (input ++ [10]) = before ++ [last ++ [10]] := by
  induction input using line_induction with
  | nil => exact absurd rfl nonempty
  | last body _ inside =>
      exact ⟨[], body, lines_of_not_mem nonempty inside, lines_append_feed inside []⟩
  | line body rest inside ih =>
      have nonempty' : rest ≠ [] := by
        rintro rfl
        simp at unended
      have unended' : rest.getLast? ≠ some 10 := by
        rwa [List.getLast?_append_of_ne_nil _ (List.cons_ne_nil 10 rest),
          List.getLast?_cons_of_ne_nil nonempty'] at unended
      obtain ⟨before, last, split, split'⟩ := ih nonempty' unended'
      refine ⟨(body ++ [10]) :: before, last, ?_, ?_⟩
      · rw [lines_append_feed inside, split, List.cons_append]
      · rw [List.append_assoc, List.cons_append, lines_append_feed inside, split', List.cons_append]

/-- The line feed at the end of a line that holds more than it asks for nothing. -/
theorem alike_append_feed {input last : List UInt8} {text : Text}
    (member : last ++ [10] ∈ lines input) (written : last ++ [10] = Text.utf8 text) :
    Alike last (last ++ [10]) := by
  have feed : Text.utf8 ['\n'] = [10] := by decide
  obtain ⟨body, hfeed, rfl, inside, rfl | rfl⟩ := exists_text_of_mem_lines (written ▸ member)
  · rw [List.append_nil] at written
    have absent := (Text.ten_mem_utf8_iff body).not.2 inside
    rw [← written] at absent
    exact absurd (List.mem_append_right last (List.mem_singleton_self 10)) absent
  · rw [Text.utf8_append, feed] at written
    rw [List.append_cancel_right written, ← feed, ← Text.utf8_append]
    exact alike_of_trim_eq
      (Text.trim_pad Text.Padding.nil (padding_feed (.inr rfl)) body).symm

/-- Blank characters that are added around the texts of the lines of an input make no line
more or less and do not show in the output, carriage returns before the line feeds among
them, and neither does the last line feed behind a line that is not empty without it.  No
character but a line feed ends a line, not even another blank one. -/
theorem transcript_ignores_padding {input : List UInt8}
    (valid : ∀ line ∈ lines input, ∃ text, line = Text.utf8 text) :
    (∀ line ∈ lines input, ∃ text feed, line = Text.utf8 (text ++ feed) ∧ '\n' ∉ text ∧
        (feed = [] ∨ feed = ['\n'])) ∧
      (∀ padded, List.Forall₂ PadsTo (lines input) padded →
        lines padded.flatten = padded ∧ transcript padded.flatten = transcript input) ∧
      transcript (withReturns input) = transcript input ∧
      (∀ front byte, byte ≠ 10 → input = front ++ [byte] ++ [10] →
        transcript (front ++ [byte]) = transcript input) ∧
      ∀ front c back, c ≠ '\n' → back ≠ [] → input = Text.utf8 (front ++ c :: back) →
        ∀ before behind, lines input = before ++ behind →
          before.flatten ≠ Text.utf8 (front ++ [c]) := by
  refine ⟨?_, ?_, ?_, ?_, ?_⟩
  · intro line member
    obtain ⟨text, rfl⟩ := valid line member
    obtain ⟨body, feed, rfl, inside, hfeed⟩ := exists_text_of_mem_lines member
    exact ⟨body, feed, rfl, inside, hfeed⟩
  · intro padded each
    exact ⟨lines_flatten_of_padsTo each, transcript_flatten_of_padsTo each⟩
  · have each : List.Forall₂ PadsTo (lines input) ((lines input).map withReturns) := by
      rw [List.forall₂_map_right_iff, List.forall₂_same]
      intro line member
      obtain ⟨text, rfl⟩ := valid line member
      exact padsTo_withReturns member
    rw [← transcript_flatten_of_padsTo each, ← withReturns_flatten, lines_flatten]
  · rintro front byte unlike rfl
    obtain ⟨before, last, split, split'⟩ := exists_lines_append_feed
      (List.append_ne_nil_of_right_ne_nil front (List.cons_ne_nil byte [])) (by simpa using unlike)
    have member : last ++ [10] ∈ lines (front ++ [byte] ++ [10]) :=
      split' ▸ List.mem_append_right before (List.mem_singleton_self _)
    obtain ⟨text, written⟩ := valid _ member
    have same : List.Forall₂ Alike before before := List.forall₂_same.2 fun _ _ => rfl
    have alike := List.rel_append same (.cons (alike_append_feed member written) .nil)
    rw [transcript, transcript, split, split', converse_congr alike]
  · rintro front c back other more rfl before behind split
    exact flatten_ne_of_ne_lineFeed other more split

/-- The lines `x` and `exit` are answered alike with an em space before `x` and a vertical
tab behind it, with carriage returns, and without the last line feed. -/
theorem transcript_ignores_padding_x_exit :
    (∀ line ∈ lines [120, 10, 101, 120, 105, 116, 10], ∃ text, line = Text.utf8 text) ∧
      transcript [226, 128, 131, 120, 11, 10, 101, 120, 105, 116, 10] =
        transcript [120, 10, 101, 120, 105, 116, 10] ∧
      transcript [120, 13, 10, 101, 120, 105, 116, 13, 10] =
        transcript [120, 10, 101, 120, 105, 116, 10] ∧
      transcript [120, 10, 101, 120, 105, 116] =
        transcript [120, 10, 101, 120, 105, 116, 10] := by
  have first : Text.utf8 ['x', '\n'] = [120, 10] := by decide
  have second : Text.utf8 ['e', 'x', 'i', 't', '\n'] = [101, 120, 105, 116, 10] := by decide
  have split : lines [120, 10, 101, 120, 105, 116, 10] =
      [Text.utf8 ['x', '\n'], Text.utf8 ['e', 'x', 'i', 't', '\n']] := by
    rw [first, second]
    decide
  have valid : ∀ line ∈ lines [120, 10, 101, 120, 105, 116, 10],
      ∃ text, line = Text.utf8 text := by
    simp only [split, List.forall_mem_cons, List.not_mem_nil, false_implies, implies_true, and_true]
    exact ⟨⟨_, rfl⟩, ⟨_, rfl⟩⟩
  have widened : PadsTo (Text.utf8 (['x'] ++ ['\n']))
      (Text.utf8 (['\u2003'] ++ ['x'] ++ ['\x0b'] ++ ['\n'])) :=
    .pad (by decide) (by decide) (by decide) (.inr rfl)
  have kept : PadsTo (Text.utf8 (['e', 'x', 'i', 't'] ++ ['\n']))
      (Text.utf8 ([] ++ ['e', 'x', 'i', 't'] ++ [] ++ ['\n'])) :=
    .pad (by decide) (by decide) (by decide) (.inr rfl)
  obtain ⟨-, blind, returns, unended, -⟩ := transcript_ignores_padding valid
  have each := split ▸ List.Forall₂.cons widened (.cons kept .nil)
  exact ⟨valid, (blind _ each).2, returns, unended [120, 10, 101, 120, 105] 116 (by decide) rfl⟩

end Console

end SampleLine
