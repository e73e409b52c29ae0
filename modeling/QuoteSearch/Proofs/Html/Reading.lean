import QuoteSearch.Proofs.Html.Cut

/-! # What escaped text reads as

A text is read from the left as character references and other characters, where the references that
escaping writes are read as the characters they stand for. Every text has one reading. Escaping does
not change it, and changes nothing but the texts that are not safe.
-/

namespace QuoteSearch.Html

/-- A character, or a reference that escaping does not write. -/
inductive Symbol where
  | character (c : Char)
  | reference (text : List Char)
deriving DecidableEq

/-- The references that escaping writes and what they stand for. -/
def writtenReferences : List (List Char × Char) :=
  [("&amp;".toList, '&'), ("&lt;".toList, '<'), ("&gt;".toList, '>'), ("&quot;".toList, '"'),
    ("&#x27;".toList, '\'')]

def symbolOf (reference : List Char) : Symbol :=
  match writtenReferences.lookup reference with
  | some c => .character c
  | none => .reference reference

/-- A character is read by itself only if no reference begins with it. -/
inductive Reads : List Char → List Symbol → Prop where
  | nil : Reads [] []
  | reference {reference tail : List Char} {symbols : List Symbol} (h : IsReference reference)
      (hTail : Reads tail symbols) : Reads (reference ++ tail) (symbolOf reference :: symbols)
  | character {c : Char} {tail : List Char} {symbols : List Symbol} (h : ¬ BeginsReference (c :: tail) 0)
      (hTail : Reads tail symbols) : Reads (c :: tail) (.character c :: symbols)

variable {c : Char} {reference text tail : List Char} {symbols symbols' : List Symbol}

theorem IsReference.length_pos (h : IsReference reference) : 0 < reference.length := by
  obtain ⟨body, rfl⟩ := h.exists_body
  exact Nat.succ_pos _

theorem beginsReference_append (h : IsReference reference) (tail : List Char) :
    BeginsReference (reference ++ tail) 0 :=
  ⟨reference, tail, rfl, h, h.length_pos⟩

theorem not_beginsReference_of_ne (hc : c ≠ '&') (tail : List Char) : ¬ BeginsReference (c :: tail) 0 := by
  rintro ⟨reference, after, hText, hReference, -⟩
  obtain ⟨body, rfl⟩ := hReference.exists_body
  exact hc (List.cons.inj hText).1

theorem beginsReference_iff : BeginsReference ('&' :: tail) 0 ↔ (referenceLength? tail).isSome = true := by
  rw [Option.isSome_iff_exists]
  constructor
  · rintro ⟨reference, after, hText, hReference, -⟩
    obtain ⟨body, rfl⟩ := hReference.exists_body
    exact ⟨body.length, referenceLength?_eq_some_iff.mpr ⟨body, after, (List.cons.inj hText).2, rfl, hReference⟩⟩
  · rintro ⟨n, hn⟩
    obtain ⟨body, after, rfl, -, hReference⟩ := referenceLength?_eq_some_iff.mp hn
    exact beginsReference_append hReference after

/-- Of the references that a text can begin with there is only one. -/
theorem IsReference.append_inj {reference' tail' : List Char} (h : IsReference reference)
    (h' : IsReference reference') (hText : reference ++ tail = reference' ++ tail') :
    reference = reference' ∧ tail = tail' := by
  obtain ⟨body, rfl⟩ := h.exists_body
  obtain ⟨body', rfl⟩ := h'.exists_body
  obtain ⟨-, hRest⟩ := List.cons.inj hText
  have hLength : some body.length = some body'.length :=
    calc
      some body.length = referenceLength? (body ++ tail) := (referenceLength?_of_reference h tail).symm
      _ = referenceLength? (body' ++ tail') := congrArg referenceLength? hRest
      _ = some body'.length := referenceLength?_of_reference h' tail'
  obtain ⟨rfl, rfl⟩ := List.append_inj hRest (Option.some.inj hLength)
  exact ⟨rfl, rfl⟩

theorem reads_reference_iff (h : IsReference reference) :
    Reads (reference ++ tail) symbols ↔ ∃ rest, symbols = symbolOf reference :: rest ∧ Reads tail rest := by
  constructor
  · generalize hText : reference ++ tail = text
    rintro (_ | ⟨h', hTail⟩ | ⟨hNone, -⟩)
    · exact absurd (List.append_eq_nil_iff.mp hText).1 (List.ne_nil_of_length_pos h.length_pos)
    · obtain ⟨rfl, rfl⟩ := h.append_inj h' hText
      exact ⟨_, rfl, hTail⟩
    · exact absurd (hText ▸ beginsReference_append h tail) hNone
  · rintro ⟨rest, rfl, hTail⟩
    exact .reference h hTail

theorem reads_character_iff (h : ¬ BeginsReference (c :: tail) 0) :
    Reads (c :: tail) symbols ↔ ∃ rest, symbols = .character c :: rest ∧ Reads tail rest := by
  constructor
  · generalize hText : c :: tail = text at h
    rintro (_ | ⟨h', -⟩ | ⟨-, hTail⟩)
    · cases hText
    · exact absurd (beginsReference_append h' _) h
    · cases hText
      exact ⟨_, rfl, hTail⟩
  · rintro ⟨rest, rfl, hTail⟩
    exact .character h hTail

theorem Reads.unique (h : Reads text symbols) (h' : Reads text symbols') : symbols = symbols' := by
  induction h generalizing symbols' with
  | nil =>
    generalize hText : ([] : List Char) = text at h'
    rcases h' with _ | ⟨hReference, -⟩ | -
    · rfl
    · exact absurd (List.append_eq_nil_iff.mp hText.symm).1 (List.ne_nil_of_length_pos hReference.length_pos)
    · cases hText
  | reference hReference _ ih =>
    obtain ⟨rest, rfl, hTail⟩ := (reads_reference_iff hReference).mp h'
    rw [ih hTail]
  | character hNone _ ih =>
    obtain ⟨rest, rfl, hTail⟩ := (reads_character_iff hNone).mp h'
    rw [ih hTail]

theorem exists_reads (text : List Char) : ∃ symbols, Reads text symbols := by
  induction text using (measure List.length).wf.induction with
  | h text ih =>
    by_cases hBegins : BeginsReference text 0
    · obtain ⟨reference, tail, rfl, hReference, hLong⟩ := hBegins
      have hShorter : tail.length < (reference ++ tail).length := by
        rw [List.length_append]
        omega
      obtain ⟨symbols, hTail⟩ := ih tail hShorter
      exact ⟨_, .reference hReference hTail⟩
    · cases text with
      | nil => exact ⟨[], .nil⟩
      | cons c tail =>
        obtain ⟨symbols, hTail⟩ := ih tail (Nat.lt_succ_self _)
        exact ⟨_, .character hBegins hTail⟩

theorem escape_reference_append (h : IsReference reference) (tail : List Char) :
    escape (reference ++ tail) = reference ++ escape tail := by
  obtain ⟨body, rfl⟩ := h.exists_body
  have hKept : (referenceLength? (body ++ tail)).isSome = true := by
    rw [referenceLength?_of_reference h]
    rfl
  rw [List.cons_append, escape, escapeChar, if_pos rfl, if_pos hKept, escape_append_of_ordinary h.isOrdinary]
  rfl

/-- A character by itself is written as it is or as a reference that stands for it. -/
theorem escapeChar_of_not_beginsReference (h : ¬ BeginsReference (c :: tail) 0) :
    (IsOrdinary c ∧ escapeChar c tail = [c]) ∨
      (IsReference (escapeChar c tail) ∧ symbolOf (escapeChar c tail) = .character c) := by
  by_cases hAmpersand : c = '&'
  · subst hAmpersand
    rw [beginsReference_iff] at h
    right
    rw [escapeChar, if_pos rfl, if_neg h]
    exact ⟨isReference_amp, rfl⟩
  · by_cases hDelimiter : c ∈ delimiters
    · right
      simp only [delimiters, List.mem_cons, List.not_mem_nil, or_false] at hDelimiter
      rcases hDelimiter with rfl | rfl | rfl | rfl
      · exact ⟨isReference_lt, rfl⟩
      · exact ⟨isReference_gt, rfl⟩
      · exact ⟨isReference_quot, rfl⟩
      · exact ⟨isReference_apostrophe, rfl⟩
    · exact .inl ⟨⟨hDelimiter, hAmpersand⟩, escapeChar_of_ordinary ⟨hDelimiter, hAmpersand⟩ tail⟩

theorem Reads.escape (h : Reads text symbols) : Reads (escape text) symbols := by
  induction h with
  | nil => exact .nil
  | @reference reference tail symbols hReference _ ih =>
    rw [escape_reference_append hReference]
    exact .reference hReference ih
  | @character c tail symbols hNone _ ih =>
    rw [Html.escape]
    rcases escapeChar_of_not_beginsReference hNone with ⟨hOrdinary, hEq⟩ | ⟨hReference, hSymbol⟩
    · rw [hEq]
      exact .character (not_beginsReference_of_ne hOrdinary.2 _) ih
    · rw [← hSymbol]
      exact .reference hReference ih

theorem IsSafe.of_cons (h : IsSafe (c :: tail)) : IsSafe tail where
  noDelimiter := fun d hd => h.noDelimiter d (List.mem_cons_of_mem _ hd)
  ampersand := by
    rintro before after rfl
    exact h.ampersand (c :: before) after rfl

theorem escape_eq_self_iff : escape text = text ↔ IsSafe text := by
  constructor
  · intro h
    rw [← h]
    exact isSafe_escape text
  · intro h
    induction text with
    | nil => rfl
    | cons c tail ih =>
      have hChar : escapeChar c tail = [c] := by
        by_cases hAmpersand : c = '&'
        · subst hAmpersand
          obtain ⟨body, after, rfl, hReference⟩ := h.ampersand [] tail rfl
          rw [escapeChar, if_pos rfl, referenceLength?_of_reference hReference]
          rfl
        · exact escapeChar_of_ordinary ⟨h.noDelimiter c List.mem_cons_self, hAmpersand⟩ tail
      rw [escape, hChar, ih h.of_cons, List.singleton_append]

/-- Escaping changes no escaped text, writes safe text, and keeps the one reading of a text. -/
theorem escaping_keeps_reading (text : String) :
    escapeText (escapeText text) = escapeText text ∧ IsSafe (escapeText text).toList ∧
      ∃ symbols, (∀ other, Reads text.toList other ↔ other = symbols) ∧
        ∀ other, Reads (escapeText text).toList other ↔ other = symbols := by
  have hSafe : IsSafe (escape text.toList) := isSafe_escape text.toList
  obtain ⟨symbols, hReads⟩ := exists_reads text.toList
  simp only [escapeText, String.toList_ofList]
  refine ⟨?_, hSafe, symbols, ?_, ?_⟩
  · rw [escape_eq_self_iff.mpr hSafe]
  · intro other
    constructor
    · intro hOther
      exact hOther.unique hReads
    · rintro rfl
      exact hReads
  · intro other
    constructor
    · intro hOther
      exact hOther.unique hReads.escape
    · rintro rfl
      exact hReads.escape

end QuoteSearch.Html
