/-
Keys that written options cannot have.  A key that names no field, and one that is
written again, is refused as soon as its closing quote is read, whatever follows.
-/
import SampleLine.Proofs.Options.Continuation

namespace SampleLine

namespace Options

open Json

/-- Entries for distinct fields, each with a value that its field can hold. -/
structure Fits (entries : List (Text × Value)) : Prop where
  distinct : (entries.map Prod.fst).Nodup
  valued : ∀ entry ∈ entries, ∃ (field : Field) (held : field.Value),
    entry.1 = field.name ∧ field.Holds held entry.2

/-- The texts of entries with a comma behind each of them. -/
inductive MembersForm : List (Text × Value) → Text → Prop where
  | nil : MembersForm [] []
  | cons {entry : Text × Value} {entries : List (Text × Value)} {text rest : Text}
      (item : EntryForm entry text) (later : MembersForm entries rest) :
      MembersForm (entry :: entries) (text ++ ',' :: rest)

/-- The front of an object up to the closing quote of a key, with its entries so far. -/
inductive UpToKey (entries : List (Text × Value)) (key : Text) : Text → Prop where
  | mk {before members gap body : Text} (hbefore : Blank before)
      (written : MembersForm entries members) (hgap : Blank gap) (spelled : Spelling key body) :
      UpToKey entries key (before ++ '{' :: members ++ gap ++ '"' :: body ++ ['"'])

theorem Fits.tail {entry : Text × Value} {entries : List (Text × Value)}
    (fits : Fits (entry :: entries)) : Fits entries :=
  ⟨(List.nodup_cons.1 fits.distinct).2,
    fun later member => fits.valued later (List.mem_cons_of_mem _ member)⟩

/-- A draft in which their fields are open takes in such entries. -/
theorem Fits.exists_ofEntries? {entries : List (Text × Value)} (fits : Fits entries)
    {draft : Draft}
    (unset : ∀ field : Field, field.name ∈ entries.map Prod.fst → draft.has field = false) :
    ∃ out, draft.ofEntries? entries = some out := by
  induction entries generalizing draft with
  | nil => exact ⟨draft, rfl⟩
  | cons entry entries ih =>
      obtain ⟨key, value⟩ := entry
      obtain ⟨fresh, -⟩ := List.nodup_cons.1 fits.distinct
      obtain ⟨field, held, rfl, holds⟩ := fits.valued (key, value) List.mem_cons_self
      have unsetLater : ∀ other : Field, other.name ∈ entries.map Prod.fst →
          (draft.put field held).has other = false := by
        intro other member
        have differ : field ≠ other := by
          rintro rfl
          exact fresh member
        have isOpen := unset other (List.mem_cons_of_mem _ member)
        simp [Draft.has_put, isOpen, differ]
      obtain ⟨out, filled⟩ := ih fits.tail unsetLater
      exact ⟨out, (Draft.ofEntries?_cons_eq_some_iff _ _ _ _ _).2
        ⟨field, held, rfl, unset field List.mem_cons_self, holds, filled⟩⟩

/-- The fields that entries leave filled in are those that were, and those they name. -/
theorem Draft.has_ofEntries?_iff {draft out : Draft} {entries : List (Text × Value)}
    (filled : draft.ofEntries? entries = some out) (field : Field) :
    out.has field = true ↔ draft.has field = true ∨ field.name ∈ entries.map Prod.fst := by
  induction entries generalizing draft with
  | nil =>
      cases filled
      simp
  | cons entry entries ih =>
      obtain ⟨key, value⟩ := entry
      obtain ⟨first, held, rfl, -, -, filledLater⟩ :=
        (Draft.ofEntries?_cons_eq_some_iff _ _ _ _ _).1 filled
      rw [ih filledLater, Draft.has_put, Bool.or_eq_true, beq_iff_eq, List.map_cons,
        List.mem_cons, Field.name_inj, or_assoc, eq_comm (a := first)]

/-- Reading passes over the entries in front of a key and takes them in. -/
theorem MembersForm.exists_readEntries_eq {entries : List (Text × Value)} {members : Text}
    (written : MembersForm entries members) {draft out : Draft}
    (filled : draft.ofEntries? entries = some out) {behind input : Text}
    (atKey : skip behind = '"' :: input) :
    ∃ front, skip (members ++ behind) = '"' :: front ∧
      readEntries draft front = readEntries out input := by
  induction written generalizing draft with
  | nil =>
      cases filled
      exact ⟨input, atKey, rfl⟩
  | @cons entry entries text later item writtenLater ih =>
      obtain ⟨key, value⟩ := entry
      obtain ⟨field, held, rfl, unset, holds, filledLater⟩ :=
        (Draft.ofEntries?_cons_eq_some_iff _ _ _ _ _).1 filled
      obtain ⟨next, atNext, readNext⟩ := ih filledLater
      have comma : isSpace ',' = false := by decide
      obtain ⟨front, atEntry, read⟩ := item.exists_entryAt comma (later ++ behind)
      obtain ⟨afterValue, atComma, goesOn⟩ := exists_readEntries_eq_of_entryAt unset holds read
      have another := (nextKey_later_eq_another_iff _ _).2 ⟨later ++ behind, atComma, atNext⟩
      rw [List.append_assoc, List.cons_append]
      exact ⟨front, atEntry, (goesOn .another next another).trans readNext⟩

theorem readEntries_eq_error_of_readKey {draft : Draft} {input : Text} {failure : Failure}
    (refused : readKey draft input = .error failure) :
    readEntries draft input = .error failure := by
  rw [readEntries, refused]

theorem readKey_of_unknown (draft : Draft) {key body : Text} (spelled : Spelling key body)
    (unknown : key ∉ Field.names) (rest : Text) :
    readKey draft (body ++ '"' :: rest) =
      .error (.here (.unknownField key Field.names) (behindKey rest)) := by
  have read := (stringBody_eq_ok_iff _ rest key).2 ⟨body, spelled, rfl⟩
  have unnamed : Field.ofName? key = none := by
    rw [Option.eq_none_iff_forall_ne_some]
    intro field named
    exact unknown ((Field.mem_names_iff key).2 ⟨field, (Field.ofName?_eq_some_iff _ _).1 named⟩)
  rw [readKey, read]
  simp only [unnamed]

theorem readKey_of_has {draft : Draft} {field : Field} {body : Text}
    (spelled : Spelling field.name body) (taken : draft.has field = true) (rest : Text) :
    readKey draft (body ++ '"' :: rest) =
      .error (.here (.duplicateField field.name) (behindKey rest)) := by
  have read := (stringBody_eq_ok_iff _ rest field.name).2 ⟨body, spelled, rfl⟩
  have named := (Field.ofName?_eq_some_iff field.name field).2 rfl
  rw [readKey, read]
  simp only [named, taken, Bool.true_eq_false, dite_false]

/-- A key is read in the draft that the entries in front of it fill in. -/
theorem UpToKey.exists_readDraft_eq {entries : List (Text × Value)} {key front : Text}
    (written : UpToKey entries key front) {out : Draft}
    (filled : Draft.empty.ofEntries? entries = some out) :
    ∃ body, Spelling key body ∧
      ∀ rest, readDraft (front ++ rest) = readEntries out (body ++ '"' :: rest) := by
  cases written with
  | @mk before members gap body hbefore hmembers hgap spelled =>
      refine ⟨body, spelled, ?_⟩
      intro rest
      have atKey : skip (gap ++ '"' :: (body ++ '"' :: rest)) = '"' :: (body ++ '"' :: rest) :=
        (skip_eq_cons_iff _ _ _).2 ⟨by decide, gap, hgap, rfl⟩
      obtain ⟨first, atFirst, same⟩ := hmembers.exists_readEntries_eq filled atKey
      have atBrace : skip (before ++ '{' :: members ++ gap ++ '"' :: body ++ ['"'] ++ rest) =
          '{' :: (members ++ (gap ++ '"' :: (body ++ '"' :: rest))) :=
        (skip_eq_cons_iff _ _ _).2 ⟨by decide, before, hbefore, by simp⟩
      have opened := (nextKey_first_eq_another_iff _ _).2 atFirst
      simp only [readDraft, atBrace, if_true, readObject, opened]
      exact same

/-- Where a key is refused the options are. -/
theorem UpToKey.exists_readDraft {entries : List (Text × Value)} {key front : Text}
    (written : UpToKey entries key front) {out : Draft}
    (filled : Draft.empty.ofEntries? entries = some out) :
    ∃ body, Spelling key body ∧ ∀ (rest : Text) (failure : Failure),
      readKey out (body ++ '"' :: rest) = .error failure →
        readDraft (front ++ rest) = .error failure := by
  obtain ⟨body, spelled, same⟩ := written.exists_readDraft_eq filled
  refine ⟨body, spelled, ?_⟩
  intro rest failure refused
  exact (same rest).trans (readEntries_eq_error_of_readKey refused)

/-- What the report of a refused key passes over: blanks and one closing brace. -/
def passed (rest : Text) : Text :=
  rest.takeWhile isSpace ++ if (skip rest).head? = some '}' then ['}'] else []

theorem passed_append_behindKey (rest : Text) : passed rest ++ behindKey rest = rest := by
  have split : rest.takeWhile isSpace ++ skip rest = rest := List.takeWhile_append_dropWhile
  have brace : (if (skip rest).head? = some '}' then ['}'] else []) ++ behindKey rest =
      skip rest := by
    rw [behindKey]
    cases skip rest with
    | nil => rfl
    | cons c later => by_cases closes : c = '}' <;> simp [closes]
  rw [passed, List.append_assoc, brace, split]

theorem refusedBehind_passed {front rest : Text} {fault : Fault}
    (refused : readDraft (front ++ rest) = .error (.here fault (behindKey rest))) :
    RefusedBehind (front ++ rest) fault.message (Text.utf8 (front ++ passed rest)) := by
  have split : front ++ rest = front ++ passed rest ++ behindKey rest := by
    rw [List.append_assoc, passed_append_behindKey]
  rw [split] at refused ⊢
  exact refusedBehind_of_readDraft refused

theorem message_unknownField (key : Text) :
    (Fault.unknownField key Field.names).message =
      "unknown field `".toList ++ key ++
        "`, expected one of `target_id`, `glyph`, `verbose`".toList := by
  have opened : "unknown field `".toList = "unknown field ".toList ++ ['`'] := by decide
  have closed : "`, expected one of `target_id`, `glyph`, `verbose`".toList =
      ['`'] ++ (", expected ".toList ++ alternatives Field.names) := by decide
  -- Evaluated: the equations of `message` for every fault take too long to work out.
  have said : (Fault.unknownField key Field.names).message = "unknown field ".toList ++
      ticked key ++ ", expected ".toList ++ alternatives Field.names := rfl
  simp only [said, opened, closed, ticked, List.append_assoc]

theorem message_duplicateField (key : Text) :
    (Fault.duplicateField key).message = "duplicate field `".toList ++ key ++ "`".toList := by
  have opened : "duplicate field `".toList = "duplicate field ".toList ++ ['`'] := by decide
  have closed : "`".toList = ['`'] := by decide
  have said : (Fault.duplicateField key).message = "duplicate field ".toList ++ ticked key := rfl
  simp only [said, opened, closed, ticked, List.append_assoc]

/-- Behind any fitting entries a key that names no field is refused as unknown, and one
of theirs as a duplicate.  Of what follows the key only the blanks and one closing brace
count, and these only for the place. -/
theorem unfit_key_refused {entries : List (Text × Value)} {key front : Text}
    (fits : Fits entries) (written : UpToKey entries key front) (rest : Text) :
    (key ∉ Field.names → RefusedBehind (front ++ rest)
        ("unknown field `".toList ++ key ++
          "`, expected one of `target_id`, `glyph`, `verbose`".toList)
        (Text.utf8 (front ++ passed rest))) ∧
      (key ∈ entries.map Prod.fst → RefusedBehind (front ++ rest)
        ("duplicate field `".toList ++ key ++ "`".toList)
        (Text.utf8 (front ++ passed rest))) := by
  obtain ⟨out, filled⟩ := fits.exists_ofEntries? fun field _ => Draft.has_empty field
  obtain ⟨body, spelled, refuses⟩ := written.exists_readDraft filled
  constructor
  · intro unknown
    have failed := refuses rest _ (readKey_of_unknown out spelled unknown rest)
    exact message_unknownField key ▸ refusedBehind_passed failed
  · intro again
    obtain ⟨entry, member, rfl⟩ := List.mem_map.1 again
    obtain ⟨field, -, named, -⟩ := fits.valued entry member
    rw [named] at again spelled ⊢
    have taken := (Draft.has_ofEntries?_iff filled field).2 (.inr again)
    have failed := refuses rest _ (readKey_of_has spelled taken rest)
    exact message_duplicateField field.name ▸ refusedBehind_passed failed

/-- Behind `{"verbose":true,` the key `verbose` is a duplicate, also where an escape
spells its first letter, and the key `x` is unknown. -/
theorem unfit_key_refused_behind_verbose :
    RefusedBehind ("\x7b\"verbose\":true, \"\\u0076erbose\"".toList ++ "\x7d:".toList)
        ("duplicate field `".toList ++ Field.verbose.name ++ "`".toList)
        (Text.utf8 ("\x7b\"verbose\":true, \"\\u0076erbose\"".toList ++ "\x7d".toList)) ∧
      RefusedBehind ("\x7b\"verbose\":true,\"x\"".toList ++ ['"'])
        ("unknown field `".toList ++ ['x'] ++
          "`, expected one of `target_id`, `glyph`, `verbose`".toList)
        (Text.utf8 ("\x7b\"verbose\":true,\"x\"".toList ++ [])) := by
  have fits : Fits [(Field.verbose.name, .boolean true)] :=
    ⟨by decide, List.forall_mem_singleton.2 ⟨.verbose, true, rfl, .verbose true⟩⟩
  have named : Spelling Field.verbose.name Field.verbose.name :=
    spelling_self (by simp [Field.name])
  have escaped : Spelling Field.verbose.name "\\u0076erbose".toList :=
    Spelling.cons (.unit (.mk rfl rfl rfl rfl rfl)) (spelling_self (by simp))
  have other : Spelling ['x'] ['x'] := spelling_self (by simp)
  have spaced : Blank [' '] := by decide
  have members := MembersForm.cons
    (.mk Blank.nil named Blank.nil Blank.nil .trueWord Blank.nil) .nil
  have duplicate := UpToKey.mk Blank.nil members spaced escaped
  have unknown := UpToKey.mk Blank.nil members Blank.nil other
  exact ⟨(unfit_key_refused fits duplicate "\x7d:".toList).2 (by decide),
    (unfit_key_refused fits unknown ['"']).1 (by decide)⟩

end Options

end SampleLine
